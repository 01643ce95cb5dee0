import SyntaxShade.Registry
import SyntaxShade.Error
/-! Batches of jobs, answered in job order. A job whose grammar is unknown fails alone; a batch
cancelled before it starts answers empty markup from its first job with a known grammar on. -/
namespace SyntaxShade

/-- A job: the name of its grammar and its code. -/
structure Job where
  grammar : Bytes
  code : Bytes

/-- The answer to a job: its markup or why it failed. -/
abbrev Outcome := Except Error Bytes

/-- Looks up a language, failing with the name as asked for. -/
def Registry.lookup (r : Registry) (name : Bytes) : Except Error Language :=
  match r.find? name with
  | some l => .ok l
  | none => .error (.unknownGrammar name)

/-- The answer to one job that runs. -/
def Registry.run (r : Registry) (j : Job) : Outcome :=
  (r.lookup j.grammar).map fun l => l.highlight j.code

/-- The answers to a batch, and the cancellation when the batch was cancelled and a job with a
known grammar was reached. -/
def Registry.highlightAll (r : Registry) (jobs : List Job) (cancelled : Bool) :
    List Outcome × Option Error :=
  if cancelled then
    match jobs.findIdx? fun j => (r.find? j.grammar).isSome with
    | some i => ((jobs.take i).map r.run ++ (jobs.drop i).map fun _ => .ok [], some .canceled)
    | none => (jobs.map r.run, none)
  else (jobs.map r.run, none)

end SyntaxShade
