import SyntaxShade.Pattern.Syntax
/-! Parse trees of regular expressions, with the height and the size estimate that bound what the
reader accepts. -/
namespace SyntaxShade.Pattern

/-- A regular expression as the reader builds it. -/
inductive Tree where
  /-- Matches nothing. -/
  | noMatch
  /-- Matches the empty text. -/
  | emptyMatch
  /-- The runes one after another, each up to case when `fold` is set. -/
  | literal (runes : List Nat) (fold : Bool)
  /-- One rune of a set. -/
  | charClass (rs : Ranges)
  /-- Any rune but the line break. -/
  | anyCharNotNL
  /-- Any rune. -/
  | anyChar
  /-- A condition on the position. -/
  | assert (a : Assertion)
  /-- A capturing group. -/
  | capture (sub : Tree)
  /-- Zero or more copies. -/
  | star (sub : Tree)
  /-- One or more copies. -/
  | plus (sub : Tree)
  /-- Zero or one copy. -/
  | quest (sub : Tree)
  /-- Between `min` and `max` copies, no upper bound when `max` is none; `lazy` records a
  repetition that prefers fewer copies. -/
  | repeat (sub : Tree) (min : Nat) (max : Option Nat) (lazy : Bool)
  /-- The parts one after another. -/
  | concat (subs : List Tree)
  /-- One of the alternatives. -/
  | alternate (subs : List Tree)
  deriving Repr, Inhabited

namespace Tree

mutual

/-- The depth of a tree's nesting, one for a leaf. -/
def height : Tree → Nat
  | .capture s | .star s | .plus s | .quest s | .repeat s _ _ _ => s.height + 1
  | .concat ts | .alternate ts => maxHeight ts + 1
  | _ => 1

/-- The greatest height in a list of trees, zero for none. -/
def maxHeight : List Tree → Nat
  | [] => 0
  | t :: ts => max t.height (maxHeight ts)

end

mutual

/-- The estimated number of instructions a tree compiles to. -/
def size : Tree → Nat
  | .literal rs _ => max 1 rs.length
  | .capture s | .star s => s.size + 2
  | .plus s | .quest s => s.size + 1
  | .concat ts => max 1 (totalSize ts)
  | .alternate ts => max 1 (totalSize ts + (ts.length - 1))
  | .repeat s min none _ => if min = 0 then s.size + 2 else max 1 (1 + min * s.size)
  | .repeat s min (some m) _ => max 1 (m * s.size + (m - min))
  | _ => 1

/-- The sum of the sizes of a list of trees. -/
def totalSize : List Tree → Nat
  | [] => 0
  | t :: ts => t.size + totalSize ts

end

mutual

/-- Whether every counted repetition stays within `n` copies of what it repeats innermost: each
bound divides the budget by its upper count (the lower one when there is none), and a bound of
zero copies ends the check. -/
def withinCopies : Tree → Nat → Bool
  | .repeat s min max _, n =>
    match max with
    | some 0 => true
    | _ =>
      let m := max.getD min
      if m > n then false else s.withinCopies (if m > 0 then n / m else n)
  | .capture s, n | .star s, n | .plus s, n | .quest s, n => s.withinCopies n
  | .concat ts, n | .alternate ts, n => allWithin ts n
  | _, _ => true

/-- Whether every tree of a list stays within `n` copies. -/
def allWithin : List Tree → Nat → Bool
  | [], _ => true
  | t :: ts, n => t.withinCopies n && allWithin ts n

end

/-- How many rune bounds a tree holds: one per rune of a literal, two per run of a class. -/
def runeCount : Tree → Nat
  | .literal rs _ => rs.length
  | .charClass rs => 2 * rs.length
  | _ => 0

/-- Whether a tree is a single-rune piece: one literal rune, a class, or a form of `.`. -/
def isCharClass : Tree → Bool
  | .literal [_] _ | .charClass _ | .anyCharNotNL | .anyChar => true
  | _ => false

/-- The order of single-rune pieces from the simplest: a literal, a class, `.` without and
with the line break. -/
def rank : Tree → Nat
  | .literal _ _ => 0
  | .charClass _ => 1
  | .anyCharNotNL => 2
  | .anyChar => 3
  | _ => 4

/-- The runes a single-rune piece matches. -/
def runes : Tree → Ranges
  | .literal [c] fold => if fold then Ranges.orbit c else [(c, c)]
  | .charClass rs => rs
  | .anyCharNotNL => Ranges.complement [(0x0A, 0x0A)]
  | .anyChar => Ranges.all
  | _ => []

/-- Adds the runes of `src` to the single-rune piece `dst`, where `dst` is at least as complex:
`.` with the line break absorbs everything, `.` without it only gains the line break, and two
literals stay one when they are the same. -/
def absorb (dst src : Tree) : Tree :=
  match dst with
  | .anyChar => .anyChar
  | .anyCharNotNL => if Ranges.mem src.runes 0x0A then .anyChar else .anyCharNotNL
  | .literal [d] fd =>
    match src with
    | .literal [s] fs => if s == d && fs == fd then dst else .charClass (Ranges.union dst.runes src.runes)
    | _ => .charClass (Ranges.union dst.runes src.runes)
  | _ => .charClass (Ranges.union dst.runes src.runes)

/-- A class of every rune, or of every rune but the line break, as the form of `.` it equals. -/
def tidy : Tree → Tree
  | .charClass rs =>
    if rs == Ranges.all then .anyChar
    else if rs == Ranges.complement [(0x0A, 0x0A)] then .anyCharNotNL
    else .charClass rs
  | t => t

/-- Whether two pieces are the same, for the pieces alternatives are factored by: single-rune
pieces and fixed repetitions of them. -/
def same : Tree → Tree → Bool
  | .literal r f, .literal r' f' => r == r' && f == f'
  | .charClass a, .charClass b => a == b
  | .anyCharNotNL, .anyCharNotNL | .anyChar, .anyChar => true
  | .repeat s m n l, .repeat s' m' n' l' => m == m' && n == n' && l == l' && same s s'
  | _, _ => false

/-- Whether a piece may be factored out of alternatives: a single-rune piece, or a repetition
of one with a fixed count. -/
def factorable : Tree → Bool
  | .repeat s m (some n) _ => m == n && s.isCharClass
  | t => t.isCharClass

/-- The literal runes an alternative starts with, and whether they fold. -/
def leadingString : Tree → List Nat × Bool
  | .concat (.literal rs f :: _) | .literal rs f => (rs, f)
  | _ => ([], false)

/-- The piece an alternative starts with, none when it starts with an empty match. -/
def leadingPiece : Tree → Option Tree
  | .emptyMatch => none
  | .concat (.emptyMatch :: _) => none
  | .concat (t :: _) => some t
  | t => some t

/-- A class of one rune, or of the two runes of a case pair, as that rune and whether it folds. -/
def single? : Tree → Option (Nat × Bool)
  | .charClass [(a, b)] =>
    if a = b then some (a, false)
    else if b = a + 1 && Ranges.orbit a == [(a, b)] then some (a, true)
    else none
  | .charClass [(a, a'), (b, b')] =>
    if a = a' && b = b' && Ranges.orbit a == [(a, a), (b, b)] then some (a, true) else none
  | _ => none

mutual

/-- The matcher's form of a tree. -/
def toNode : Tree → Node
  | .noMatch => .char (.ofRanges [])
  | .emptyMatch => .empty
  | .literal rs fold =>
    match rs.map fun c => Node.char (.single c fold) with
    | [] => .empty
    | [n] => n
    | ns => .concat ns
  | .charClass rs => .char (.ofRanges rs)
  | .anyCharNotNL => .anyChar false
  | .anyChar => .anyChar true
  | .assert a => .assert a
  | .capture s => s.toNode
  | .star s => .repeat s.toNode 0 none
  | .plus s => .repeat s.toNode 1 none
  | .quest s => .repeat s.toNode 0 (some 1)
  | .repeat s min max _ => .repeat s.toNode min max
  | .concat ts => .concat (toNodes ts)
  | .alternate ts => .alt (toNodes ts)

/-- The matcher's forms of a list of trees. -/
def toNodes : List Tree → List Node
  | [] => []
  | t :: ts => t.toNode :: toNodes ts

end

end Tree

end SyntaxShade.Pattern
