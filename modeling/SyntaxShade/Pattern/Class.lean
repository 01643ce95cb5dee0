import SyntaxShade.Pattern.Ranges
/-! Items of character classes: ranges and named groups, closed under case folding where asked.
A class is their union, complemented when it is negated. -/
namespace SyntaxShade.Pattern

/-- A named set of code points. -/
inductive Group where
  /-- A union of code point ranges, such as `\d` or `[:alpha:]`. -/
  | ranges (rs : List (Nat × Nat))
  /-- Code points whose general category is one of these indices. -/
  | categories (cs : List Nat)
  /-- Code points of one script. -/
  | script (s : Nat)
  /-- Every code point. -/
  | any
  deriving Repr, BEq

def Group.codePoints : Group → Ranges
  | .ranges rs => Ranges.normalize rs
  | .categories cs => Ranges.ofCategories cs
  | .script s => Ranges.ofScript s
  | .any => Ranges.all

/-- One item of a character class. -/
inductive Item where
  /-- The code points from `lo` to `hi`. -/
  | range (lo hi : Nat)
  /-- A group, or its complement when `negated` is set; `folds` is clear for a group that case
  folding does not widen. -/
  | group (g : Group) (negated : Bool) (folds : Bool)
  deriving Repr, BEq

/-- The code points of an item, widened to every rune equal up to case when `fold` is set. -/
def Item.codePoints (fold : Bool) : Item → Ranges
  | .range lo hi => if fold then Ranges.foldClosure [(lo, hi)] else [(lo, hi)]
  | .group g negated folds =>
    let rs := if fold && folds then Ranges.foldClosure g.codePoints else g.codePoints
    if negated then Ranges.complement rs else rs

/-- The code points of a class: the union of its items, complemented when `negated` is set. -/
def classRanges (items : List Item) (fold negated : Bool) : Ranges :=
  let rs := Ranges.normalize (items.flatMap (Item.codePoints fold))
  if negated then Ranges.complement rs else rs

end SyntaxShade.Pattern
