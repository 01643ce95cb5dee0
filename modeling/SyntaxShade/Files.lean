import SyntaxShade.Text.Utf8
/-! A directory of files as the command line sees its working directory. Paths are walked a name
at a time, and a failure reads as the system reports it: operation, path and reason. -/
namespace SyntaxShade

/-- Files by their path components, each path once. -/
structure Files where
  entries : List (List Bytes × Bytes) := []

/-- What the last name of a path stands for, once the walk to it succeeded. -/
inductive Target where
  /-- A file at these components, with its content. -/
  | file (place : List Bytes) (content : Bytes)
  /-- A directory. -/
  | directory
  /-- Nothing, in a directory that exists; a file made there gets these components. -/
  | absent (place : List Bytes)

namespace Files

/-- The components of a path read lexically; none when it goes above the directory. -/
def components (path : Bytes) : Option (List Bytes) :=
  (path.splitOn 0x2F).foldlM (fun acc c =>
    if c.isEmpty || c == [0x2E] then some acc
    else if c == [0x2E, 0x2E] then (if acc.isEmpty then none else some acc.dropLast)
    else some (acc ++ [c])) []

def ofList (files : List (Bytes × Bytes)) : Files :=
  files.foldl (fun fs (p, c) => match components p with
    | some cs => ⟨(cs, c) :: fs.entries.filter (·.1 != cs)⟩
    | none => fs) {}

/-- Whether a file has these components. -/
def isFile (fs : Files) (p : List Bytes) : Bool := fs.entries.any (·.1 == p)

/-- Whether these components name a directory: the top one, or one a file's path goes through. -/
def isDirectory (fs : Files) (p : List Bytes) : Bool :=
  p.isEmpty || fs.entries.any fun (q, _) => p.isPrefixOf q && q != p

/-- Walks the names of directories from `dir`: the directory reached, or why the walk stops. -/
def walk (fs : Files) : List Bytes → List Bytes → Except String (List Bytes)
  | dir, [] => .ok dir
  | dir, c :: cs =>
    if c.isEmpty || c == [0x2E] then walk fs dir cs
    else if c == [0x2E, 0x2E] then walk fs dir.dropLast cs
    else
      let p := dir ++ [c]
      if fs.isFile p then .error "not a directory"
      else if fs.isDirectory p then walk fs p cs
      else .error "no such file or directory"

def trailingSlash (path : Bytes) : Bool := path.getLast? == some 0x2F

/-- What a path stands for, or why the walk to its last name fails. -/
def resolve (fs : Files) (path : Bytes) : Except String Target :=
  if path.isEmpty then .error "no such file or directory"
  else
    let names := (path.splitOn 0x2F).filter (!·.isEmpty)
    match names.getLast? with
    | none => .ok .directory
    | some last => do
      let dir ← fs.walk [] names.dropLast
      if last == [0x2E] || last == [0x2E, 0x2E] then pure .directory
      else
        let p := dir ++ [last]
        match fs.entries.lookup p with
        | some content => pure (.file p content)
        | none => pure (if fs.isDirectory p then .directory else .absent p)

/-- A failure of an operation on a path. -/
def failure (op : String) (path : Bytes) (reason : String) : Bytes :=
  Bytes.ofString op ++ [0x20] ++ path ++ Bytes.ofString ": " ++ Bytes.ofString reason

/-- The content of the file at a path, or why it cannot be read. -/
def read (fs : Files) (path : Bytes) : Except Bytes Bytes :=
  match fs.resolve path with
  | .error reason => .error (failure "open" path reason)
  | .ok (.file _ content) =>
    if trailingSlash path then .error (failure "open" path "not a directory") else .ok content
  | .ok .directory => .error (failure "read" path "is a directory")
  | .ok (.absent _) => .error (failure "open" path "no such file or directory")

/-- Creates or empties the file at a path, or says why it cannot be. -/
def create (fs : Files) (path : Bytes) : Except Bytes Files :=
  match fs.resolve path with
  | .error reason => .error (failure "open" path reason)
  | .ok target =>
    if trailingSlash path then .error (failure "open" path "is a directory")
    else
      match target with
      | .file p _ => .ok ⟨(p, []) :: fs.entries.filter (·.1 != p)⟩
      | .absent p => .ok ⟨(p, []) :: fs.entries⟩
      | .directory => .error (failure "open" path "is a directory")

/-- Appends to the file at a path, which exists. -/
def append (fs : Files) (path : Bytes) (more : Bytes) : Files :=
  match fs.resolve path with
  | .ok (.file p _) => ⟨fs.entries.map fun (q, c) => if q == p then (q, c ++ more) else (q, c)⟩
  | _ => fs

/-- The files by their paths, `/` between components. -/
def toList (fs : Files) : List (Bytes × Bytes) :=
  fs.entries.map fun (cs, c) => (List.intercalate [0x2F] cs, c)

end Files

end SyntaxShade
