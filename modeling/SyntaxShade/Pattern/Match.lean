import SyntaxShade.Pattern.Syntax
/-! Matching a regular expression: a node maps the set of positions where it may start to the set
where it may end, and a repetition with no upper bound iterates to a fixed point. -/
namespace SyntaxShade.Pattern

/-- A set of positions, one flag per position. -/
abbrev Positions := List Bool

def Positions.union (a b : Positions) : Positions := List.zipWith (· || ·) a b

def Positions.none (a : Positions) : Bool := !a.any id

/-- A rune of the word class `[0-9A-Za-z_]`. -/
def isWordRune (c : Nat) : Bool :=
  (0x30 ≤ c && c ≤ 0x39) || (0x41 ≤ c && c ≤ 0x5A) || c == 0x5F || (0x61 ≤ c && c ≤ 0x7A)

/-- Whether an assertion holds between the rune before a position and the rune after it. -/
def Assertion.holds : Assertion → Option Nat → Option Nat → Bool
  | .textStart, before, _ => before.isNone
  | .textEnd, _, after => after.isNone
  | .lineStart, before, _ => before.all (· == 0x0A)
  | .lineEnd, _, after => after.all (· == 0x0A)
  | .wordBoundary, before, after => before.any isWordRune != after.any isWordRune
  | .notWordBoundary, before, after => before.any isWordRune == after.any isWordRune

/-- The runes of a text and what surrounds each position. -/
structure Subject where
  runes : List Nat
  /-- The rune before each position, none at the start. -/
  before : List (Option Nat)
  /-- The rune after each position, none at the end. -/
  after : List (Option Nat)

def Subject.ofBytes (s : Bytes) : Subject :=
  let cs := Utf8.codePoints s
  ⟨cs, none :: cs.map some, cs.map some ++ [none]⟩

/-- One rune further: a position `i + 1` is reached when `i` is and rune `cᵢ` passes `p`. -/
def Subject.advance (subj : Subject) (p : Nat → Bool) (from_ : Positions) : Positions :=
  false :: List.zipWith (fun ok c => ok && p c) from_ subj.runes

/-- Adds copies of a step to a set until it stops growing, at most `fuel` times. -/
def saturate (step : Positions → Positions) : Nat → Positions → Positions
  | 0, s => s
  | fuel + 1, s =>
    let s' := s.union (step s)
    if s' == s then s else saturate step fuel s'

/-- The positions where `body` repeated `k` times may end, from `s`. -/
def iterate (step : Positions → Positions) : Nat → Positions → Positions
  | 0, s => s
  | k + 1, s => iterate step k (step s)

/-- The union of `step` applied `0` to `k` times, from `s`. -/
def upTo (step : Positions → Positions) : Nat → Positions → Positions
  | 0, s => s
  | k + 1, s => s.union (upTo step k (step s))

mutual

/-- The positions where a node may end when it starts anywhere in `s`. -/
def Node.ends (subj : Subject) : Node → Positions → Positions
  | .empty, s => s
  | .char cs, s => subj.advance cs.contains s
  | .anyChar newline, s => subj.advance (fun c => newline || c != 0x0A) s
  | .assert a, s =>
    List.zipWith (fun ok p => ok && a.holds p.1 p.2) s (subj.before.zip subj.after)
  | .concat parts, s => Node.endsSeq subj parts s
  | .alt alts, s => Node.endsAny subj alts s
  | .repeat body min max, s =>
    let start := iterate (Node.ends subj body) min s
    match max with
    | some k => upTo (Node.ends subj body) (k - min) start
    | none => saturate (Node.ends subj body) (subj.runes.length + 2) start

/-- The positions where the parts, one after another, may end. -/
def Node.endsSeq (subj : Subject) : List Node → Positions → Positions
  | [], s => s
  | x :: xs, s => Node.endsSeq subj xs (Node.ends subj x s)

/-- The positions where one of the alternatives may end. -/
def Node.endsAny (subj : Subject) : List Node → Positions → Positions
  | [], s => s.map fun _ => false
  | x :: xs, s => (Node.ends subj x s).union (Node.endsAny subj xs s)

end

/-- Whether the expression matches somewhere in a text. -/
def Node.matchesIn (n : Node) (text : Bytes) : Bool :=
  let subj := Subject.ofBytes text
  !(n.ends subj (subj.before.map fun _ => true)).none

end SyntaxShade.Pattern
