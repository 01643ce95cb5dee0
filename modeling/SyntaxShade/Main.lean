import SyntaxShade.Command.Run
/-! The highlighter command: reads what a run needs, runs the command line and writes its output. -/
section

open SyntaxShade

/-- The rest of a stream, a chunk at a time. -/
partial def readAll (s : IO.FS.Stream) (acc : ByteArray) : IO ByteArray := do
  let chunk ← s.read 65536
  if chunk.isEmpty then return acc else readAll s (acc ++ chunk)

def pathText (p : Bytes) : String := (String.fromUTF8? ⟨p.toArray⟩).getD ""

/-- The files that can be read, of the paths given. -/
def readFiles (paths : List Bytes) : IO (List (Bytes × Bytes)) :=
  paths.filterMapM fun p => do
    match ← (IO.FS.readBinFile (pathText p)).toBaseIO with
    | .ok content => return some (p, content.toList)
    | .error _ => return none

def main (args : List String) : IO UInt32 := do
  let args := args.map Bytes.ofString
  let (paths, wantsStdin) := Command.reads args
  let stdin ← if wantsStdin then readAll (← IO.getStdin) .empty else pure .empty
  let before ← readFiles paths
  let run := Command.run { args, stdin := stdin.toList, files := Files.ofList before }
  (← IO.getStdout).write ⟨run.stdout.toArray⟩
  (← IO.getStderr).write ⟨run.stderr.toArray⟩
  for (p, c) in run.files.toList do
    if !before.contains (p, c) then IO.FS.writeBinFile (pathText p) ⟨c.toArray⟩
  return run.exit.toUInt32

end
