import SyntaxShade.Region
import SyntaxShade.Rule
/-! Grammars: region rules and token rules. Tokenizing cuts the text into runs and regions,
coalesces, runs each token rule in order, and last resolves declared types. -/
namespace SyntaxShade

/-- A compiled grammar. With `debug` set, a log shows the tokens after every rewriting step. -/
structure Grammar where
  name : Bytes
  regions : List Region
  rules : List Rule
  debug : Bool := false

namespace Grammar

/-- Why a grammar was refused: the first region rule or token rule refused, in order. -/
inductive Error where
  | region (e : Region.Error)
  | rule (e : Rule.Error)

def Error.message : Error → Bytes
  | .region e => e.message
  | .rule e => e.message

/-- Reads every rule of a list in order, stopping at the first refusal. -/
def readAll {α ε : Type} (read : Bytes → Except ε α) : List Bytes → Except ε (List α)
  | [] => .ok []
  | x :: xs => do
    let a ← read x
    let as ← readAll read xs
    pure (a :: as)

/-- Compiles a grammar: region rules first, then token rules. -/
def build (name : Bytes) (regions rules : List Bytes) : Except Error Grammar := do
  let rs ← (readAll Region.parse regions).mapError Error.region
  let ts ← (readAll Rule.parse rules).mapError Error.rule
  pure ⟨name, rs, ts, false⟩

/-- The pending run, as a token list: its bytes are kept last first. -/
def flush (run : Bytes) (cls : Lexeme) : List Token :=
  if run = [] then [] else [⟨run.reverse, cls⟩]

/-- Cuts a text into runs of one class and regions. `run` holds the current run, last byte
first, and `cls` its class. -/
def cut (regions : List Region) (run : Bytes) (cls : Lexeme) (s : Bytes) : List Token :=
  match s with
  | [] => flush run cls
  | b :: t =>
    match Region.first? regions (b :: t) with
    | some r =>
      let n := r.span (b :: t)
      flush run cls ++ ⟨(b :: t).take n, r.lexeme⟩ :: cut regions [] r.lexeme ((b :: t).drop n)
    | none =>
      let rune := Rune.decode (b :: t)
      let c := Lexeme.ofRune rune.code
      let piece := ((b :: t).take rune.width).reverse
      if c = cls then cut regions (piece ++ run) cls ((b :: t).drop rune.width)
      else flush run cls ++ cut regions piece c ((b :: t).drop rune.width)
termination_by s.length
decreasing_by
  all_goals simp only [List.length_drop, List.length_cons]
  · have := Region.span_pos r b t
    omega
  all_goals
    have := Rune.width_pos b t
    omega

/-- The first stage: runs of one coarse class and, when `regions` is set, region tokens. The
empty text gives the one empty token. -/
def classify (g : Grammar) (code : Bytes) (regions : Bool) : Chain :=
  let c := Chain.empty.pushAll (cut (if regions then g.regions else []) [] .identifier code)
  if c.size = 0 then c.push ⟨[], .empty⟩ else c

/-- A named snapshot of the tokens, as a debug log shows it. -/
abbrev Snapshot := Bytes × List Token

/-- Runs each rule once, in order, merging after each rule that retagged something, with a
snapshot of the tokens after each such merge. -/
def runRules : List Rule → Chain → Chain × List Snapshot
  | [], c => (c, [])
  | r :: rs, c =>
    let (c', changed) := r.apply c
    if changed then
      let merged := c'.merge.1
      let (out, log) := runRules rs merged
      (out, (r.source, merged.tokens) :: log)
    else runRules rs c'

/-- The second stage: merges, then runs the grammar's rules. -/
def applyRules (g : Grammar) (c : Chain) : Chain × List Snapshot := runRules g.rules c.merge.1

/-- Retags each identifier whose text an earlier class or tag token declared, with the lexeme of
the latest such declaration. `declared` holds the declarations seen so far, latest first. -/
def resolve (declared : List (Bytes × Lexeme)) : List Token → List Token
  | [] => []
  | t :: ts =>
    if t.lexeme = .className ∨ t.lexeme = .tag then t :: resolve ((t.text, t.lexeme) :: declared) ts
    else if t.lexeme = .identifier then
      match declared.lookup t.text with
      | some l => { t with lexeme := l } :: resolve declared ts
      | none => t :: resolve declared ts
    else t :: resolve declared ts

/-- `resolve` on the chain from slot `i` on, visiting at most `fuel` slots. -/
def propagateFrom : Nat → List (Bytes × Lexeme) → Chain → Option Nat → Chain
  | 0, _, c, _ => c
  | _ + 1, _, c, none => c
  | n + 1, declared, c, some i =>
    let t := c.tokenAt (some i)
    if t.lexeme = .className ∨ t.lexeme = .tag then
      propagateFrom n ((t.text, t.lexeme) :: declared) c (c.next (some i))
    else if t.lexeme = .identifier then
      match declared.lookup t.text with
      | some l =>
        let c' := c.retag i l
        propagateFrom n declared c' (c'.next (some i))
      | none => propagateFrom n declared c (c.next (some i))
    else propagateFrom n declared c (c.next (some i))

/-- The last stage: each identifier whose text an earlier class or tag token declared takes that
lexeme. -/
def propagate (c : Chain) : Chain := propagateFrom c.links.size [] c c.head

/-- Cuts code into a chain of tokens. Without rules only the coarse classes are given. -/
def tokenize (g : Grammar) (code : Bytes) (applyRules : Bool) : Chain :=
  let c := g.classify code applyRules
  if applyRules then propagate (g.applyRules c).1 else c

/-- The snapshots that a debug log shows while code is tokenized with rules: one after each rule
that retagged something, and one named `declared types` at the end. -/
def snapshots (g : Grammar) (code : Bytes) : List Snapshot :=
  let (c, log) := g.applyRules (g.classify code true)
  log ++ [(Bytes.ofString "declared types", (propagate c).tokens)]

end Grammar

end SyntaxShade
