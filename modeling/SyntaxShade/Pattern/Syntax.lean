import SyntaxShade.Pattern.Ranges
import SyntaxShade.Text.Utf8
/-! The matcher's trees of `Node`s over runes, classes kept as arrays of their runs. -/
namespace SyntaxShade.Pattern

/-- A set of runes, as the array of its maximal runs. -/
structure CharSet where
  runs : Array (Nat × Nat)
  deriving Repr, BEq

/-- Whether a character class holds a code point. -/
def CharSet.contains (s : CharSet) (c : Nat) : Bool := Ranges.memArray s.runs c

def CharSet.ofRanges (rs : Ranges) : CharSet := ⟨rs.toArray⟩

/-- One code point, or any code point equal to it up to case. -/
def CharSet.single (c : Nat) (fold : Bool) : CharSet :=
  .ofRanges (if fold then Ranges.orbit c else [(c, c)])

/-- Conditions on a position that consume nothing. -/
inductive Assertion where
  | textStart
  | textEnd
  | lineStart
  | lineEnd
  | wordBoundary
  | notWordBoundary
  deriving Repr, BEq

/-- A regular expression. -/
inductive Node where
  /-- Matches the empty text. -/
  | empty
  /-- One rune of a class. -/
  | char (s : CharSet)
  /-- Any rune, the line break only when `newline` is set. -/
  | anyChar (newline : Bool)
  /-- A condition on the position. -/
  | assert (a : Assertion)
  /-- The parts, one after another. -/
  | concat (parts : List Node)
  /-- One of the alternatives. -/
  | alt (alts : List Node)
  /-- Between `min` and `max` copies, with no upper bound when `max` is none. -/
  | repeat (body : Node) (min : Nat) (max : Option Nat)
  deriving Repr, BEq

end SyntaxShade.Pattern
