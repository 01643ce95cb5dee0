import SyntaxShade.Chain
import SyntaxShade.Text.Fields
import SyntaxShade.Pattern.Parse
import SyntaxShade.Pattern.Match
/-! Token rules: steps `CLASSES(CONDITION:OUT)` that retag windows of neighbouring tokens, in a
scan from the left whose windows never overlap. -/
namespace SyntaxShade

/-- A compiled condition: its source, which is `^(?:` + text + `)`, and its expression. -/
structure Condition where
  source : Bytes
  node : Pattern.Node

namespace Condition

/-- Compiles a condition text, anchored at the start of the token text. -/
def compile (text : Bytes) : Except Pattern.Error Condition :=
  let source := Bytes.ofString "^(?:" ++ text ++ Bytes.ofString ")"
  (Pattern.parse source).map fun n => ⟨source, n⟩

/-- Whether a token text satisfies the condition. -/
def accepts (c : Condition) (text : Bytes) : Bool := c.node.matchesIn text

end Condition

/-- One step of a token rule: the lexemes it accepts, its condition, and the lexeme it retags to. -/
structure Step where
  inputs : List Lexeme
  condition : Option Condition
  output : Option Lexeme

namespace Step

/-- Why a step was refused. -/
inductive Error where
  /-- The step is not shaped `CLASSES(CONDITION:OUT)`. -/
  | shape (step : Bytes)
  /-- A class between bars is empty. -/
  | emptyClass (step : Bytes)
  /-- A class or the output is not a lexeme code. -/
  | unknownLexeme (code : Bytes)
  /-- The condition is not a regular expression. -/
  | condition (text : Bytes) (e : Pattern.Error)

def Error.message : Error → Bytes
  | .shape s => Bytes.ofString "invalid grammar rule: " ++ Quoted.quote s
  | .emptyClass s => Bytes.ofString "invalid grammar rule: " ++ Quoted.quote s ++ Bytes.ofString ": empty class"
  | .unknownLexeme code => Bytes.ofString "unknown lexema: " ++ Quoted.quote code
  | .condition text e =>
    Bytes.ofString "invalid rule condition " ++ Quoted.quote text ++ Bytes.ofString ": " ++ e.message

/-- Upper-case ASCII letters and the underscore. -/
def isCodeByte (b : UInt8) : Bool := (0x41 ≤ b && b ≤ 0x5A) || b == 0x5F

/-- Cuts a step into its classes, its condition and its output code, or none when it is not
shaped `CLASSES(CONDITION:OUT)`. -/
def split? (s : Bytes) : Option (Bytes × Bytes × Bytes) :=
  let classes := s.takeWhile fun b => isCodeByte b || b == 0x7C
  match s.drop classes.length with
  | 0x28 :: body =>
    if classes = [] ∨ body.getLast? ≠ some 0x29 ∨ body.contains 0x0A then none
    else
      let inner := body.dropLast
      match (List.range inner.length).reverse.find? (fun i => inner[i]? = some 0x3A) with
      | none => none
      | some q =>
        let out := inner.drop (q + 1)
        if out.all isCodeByte then some (classes, inner.take q, out) else none
  | _ => none

/-- The pieces of a text between its `|` bars. -/
def bars (s : Bytes) : List Bytes := s.splitOn 0x7C

/-- Reads the lexeme codes of a step's classes, in order. -/
def readClasses (step : Bytes) : List Bytes → Except Error (List Lexeme)
  | [] => .ok []
  | c :: cs =>
    if c = [] then .error (.emptyClass step)
    else
      match Lexeme.ofCode? c with
      | none => .error (.unknownLexeme c)
      | some l => (readClasses step cs).map (l :: ·)

/-- Reads a step's condition; the empty text is no condition. -/
def readCondition (cond : Bytes) : Except Error (Option Condition) :=
  if cond = [] then pure none
  else
    match Condition.compile cond with
    | .ok c => pure (some c)
    | .error e => throw (.condition cond e)

/-- Reads a step's output code; the empty code is no output. -/
def readOutput (out : Bytes) : Except Error (Option Lexeme) :=
  if out = [] then pure none
  else
    match Lexeme.ofCode? out with
    | some l => pure (some l)
    | none => throw (.unknownLexeme out)

def parse (s : Bytes) : Except Error Step := do
  let some (classes, cond, out) := split? s | throw (.shape s)
  let inputs ← readClasses s (bars classes)
  let condition ← readCondition cond
  let output ← readOutput out
  pure ⟨inputs, condition, output⟩

/-- Whether a step accepts a token: its lexeme is one of the inputs and its text satisfies the
condition. -/
def accepts (s : Step) (t : Token) : Bool :=
  s.inputs.contains t.lexeme && s.condition.all (·.accepts t.text)

/-- The token after the step: retagged when the step has an output. -/
def retag (s : Step) (t : Token) : Token :=
  match s.output with
  | some l => { t with lexeme := l }
  | none => t

/-- Retags the token in slot `i` of a chain when the step has an output, and tells whether it has
one. -/
def retagAt (s : Step) (c : Chain) (i : Option Nat) : Chain × Bool :=
  match s.output, i with
  | some l, some j => (c.retag j l, true)
  | some _, none => (c, true)
  | none, _ => (c, false)

end Step

/-- A token rule: its source and its steps, of which there is at least one. -/
structure Rule where
  source : Bytes
  first : Step
  rest : List Step

namespace Rule

def steps (r : Rule) : List Step := r.first :: r.rest

/-- Why a token rule was refused. -/
inductive Error where
  /-- The rule has no steps. -/
  | noSteps (rule : Bytes)
  /-- A step was refused. -/
  | step (rule : Bytes) (e : Step.Error)

def Error.message : Error → Bytes
  | .noSteps rule => Bytes.ofString "invalid grammar rule: " ++ Quoted.quote rule ++ Bytes.ofString ": no statements"
  | .step rule e => Bytes.ofString "rule " ++ Quoted.quote rule ++ Bytes.ofString ": " ++ e.message

/-- Reads the steps of a rule, in order, stopping at the first refusal. -/
def readSteps (rule : Bytes) : List Bytes → Except Error (List Step)
  | [] => .ok []
  | f :: fs =>
    match Step.parse f with
    | .error e => .error (.step rule e)
    | .ok s => (readSteps rule fs).map (s :: ·)

def parse (rule : Bytes) : Except Error Rule :=
  match Fields.split rule with
  | [] => .error (.noSteps rule)
  | f :: fs => do
    let steps ← readSteps rule (f :: fs)
    match steps with
    | s :: ss => pure ⟨rule, s, ss⟩
    | [] => throw (.noSteps rule)

/-- The window of tokens that the steps accept, retagged, and whether a step has an output;
none when a step refuses its token or the tokens run out. -/
def window : List Step → List Token → Option (List Token × Bool)
  | [], _ => some ([], false)
  | s :: ss, t :: ts =>
    if s.accepts t then (window ss ts).map fun w => (s.retag t :: w.1, s.output.isSome || w.2)
    else none
  | _ :: _, [] => none

/-- One greedy pass of a rule over a token list, judged by the lexemes the tokens had before the
pass, and whether a step with an output matched. -/
def scan (r : Rule) : List Token → List Token × Bool
  | [] => ([], false)
  | t :: ts =>
    match window r.steps (t :: ts) with
    | some (w, c) =>
      let rest := scan r (ts.drop r.rest.length)
      (w ++ rest.1, c || rest.2)
    | none =>
      let rest := scan r ts
      (t :: rest.1, rest.2)
termination_by ts => ts.length
decreasing_by
  all_goals simp only [List.length_drop, List.length_cons]
  all_goals omega

/-- Whether the steps accept the tokens of the chain from slot `i` on, one token each. -/
def matchesAt (c : Chain) : List Step → Option Nat → Bool
  | [], _ => true
  | _ :: _, none => false
  | s :: ss, some i => s.accepts (c.tokenAt (some i)) && matchesAt c ss (c.next (some i))

/-- Retags the window from slot `i` on as the steps say: the chain, the slot after the window, and
whether a step has an output. -/
def retagWindow : List Step → Chain → Option Nat → Chain × Option Nat × Bool
  | [], c, i => (c, i, false)
  | s :: ss, c, i =>
    let (c₁, retagged) := s.retagAt c i
    let (c₂, after, retagged') := retagWindow ss c₁ (c₁.next i)
    (c₂, after, retagged || retagged')

/-- Slides the rule over the chain from slot `i` on, visiting at most `fuel` slots; `changed` tells
whether a step with an output matched before. -/
def applyFrom (r : Rule) : Nat → Chain → Option Nat → Bool → Chain × Bool
  | 0, c, _, changed => (c, changed)
  | _ + 1, c, none, changed => (c, changed)
  | n + 1, c, some i, changed =>
    if matchesAt c r.steps (some i) then
      let (c', after, retagged) := retagWindow r.steps c (some i)
      applyFrom r n c' after (changed || retagged)
    else applyFrom r n c (c.next (some i)) changed

/-- One pass of a rule over a chain, retagging every window it takes, and whether a step with an
output matched. -/
def apply (r : Rule) (c : Chain) : Chain × Bool := r.applyFrom c.links.size c c.head false

end Rule

end SyntaxShade
