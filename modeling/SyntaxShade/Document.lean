import SyntaxShade.Batch
/-! Documents: markdown-like text whose fenced code blocks and `>>> ` shell commands are
highlighted and whose other lines are kept. A fence of an unknown grammar is kept as a line. -/
namespace SyntaxShade.Document

/-- The theme used when none is given. -/
def defaultTheme : Bytes := Bytes.ofString "light"

/-- A piece of a document: a line kept as it is, or lines replaced by the job of that index. -/
inductive Segment where
  | text (line : Bytes)
  | job (raw : Bytes) (index : Nat)

/-- The name after a fence of three backticks, when the line is such a fence: a letter or `_`,
then letters, digits, `_` or `-`, then only spaces. -/
def fenceName? (line : Bytes) : Option Bytes :=
  match line with
  | 0x60 :: 0x60 :: 0x60 :: rest =>
    let isHead (b : UInt8) := (0x41 ≤ b && b ≤ 0x5A) || (0x61 ≤ b && b ≤ 0x7A) || b == 0x5F
    let isTail (b : UInt8) := isHead b || (0x30 ≤ b && b ≤ 0x39) || b == 0x2D
    match rest with
    | b :: _ =>
      if isHead b then
        let name := rest.takeWhile isTail
        if (rest.drop name.length).all (· == 0x20) then some name else none
      else none
    | [] => none
  | _ => none

/-- A closing fence: three backticks and spaces only. -/
def isClosing (line : Bytes) : Bool :=
  match line with
  | 0x60 :: 0x60 :: 0x60 :: rest => rest.all (· == 0x20)
  | _ => false

/-- The prompt that starts a shell command line. -/
def prompt : Bytes := Bytes.ofString ">>> "

/-- Splits the lines into segments and jobs, where `jobs` counts the jobs made so far. -/
def split (r : Registry) (lines : List Bytes) (jobs : Nat) : List Segment × List Job :=
  match lines with
  | [] => ([], [])
  | line :: rest =>
    let fence := (fenceName? line).filter fun name =>
      (r.find? (if name = Bytes.ofString "code" then Bytes.ofString "universal" else name)).isSome
    match fence with
    | some name =>
      let grammar := if name = Bytes.ofString "code" then Bytes.ofString "universal" else name
      let body := rest.takeWhile fun l => !isClosing l
      let after := rest.drop body.length
      let code := body.flatMap (· ++ [0x0A])
      let raw := List.intercalate [0x0A] (line :: body ++ after.take 1)
      let (segs, js) := split r (after.drop 1) (jobs + 1)
      (.job raw jobs :: segs, ⟨grammar, code⟩ :: js)
    | none =>
      if prompt.isPrefixOf line then
        let (segs, js) := split r rest (jobs + 1)
        (.job line jobs :: segs, ⟨Bytes.ofString "shell", Bytes.ofString "$ " ++ line.drop 4⟩ :: js)
      else
        let (segs, js) := split r rest jobs
        (.text line :: segs, js)
termination_by lines.length
decreasing_by
  all_goals simp only [List.length_drop, List.length_cons]
  all_goals omega

/-- The text of a segment once the jobs have answered. -/
def Segment.render (theme : Bytes) (outcomes : List Outcome) : Segment → Bytes
  | .text line => line
  | .job raw i =>
    match outcomes[i]? with
    | some (.ok markup) => wrap markup theme
    | _ => raw

/-- Highlights every code block and command line of a document; the theme defaults to `light`. -/
def highlight (r : Registry) (theme : Bytes) (cancelled : Bool) (doc : Bytes) : Except Error Bytes :=
  let theme := if theme = [] then defaultTheme else theme
  let (segs, jobs) := split r (doc.splitOn 0x0A) 0
  match r.highlightAll jobs cancelled with
  | (_, some e) => .error e
  | (outcomes, none) => .ok (List.intercalate [0x0A] (segs.map (Segment.render theme outcomes)))

end SyntaxShade.Document
