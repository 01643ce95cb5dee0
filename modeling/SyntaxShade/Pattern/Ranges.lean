import SyntaxShade.Unicode.Category
import SyntaxShade.Unicode.Script
import SyntaxShade.Unicode.CaseFold
/-! Sets of code points as their maximal runs in increasing order, the one form of each set.
Every operation here returns a set in this form. -/
namespace SyntaxShade.Pattern

def maxRune : Nat := 0x10FFFF

/-- A set of code points as its maximal runs, in order. -/
abbrev Ranges := List (Nat × Nat)

namespace Ranges

/-- Joins neighbouring runs that overlap or touch, for runs sorted by their start. -/
def merge : List (Nat × Nat) → Ranges
  | [] => []
  | [r] => [r]
  | (a, b) :: (c, d) :: rest =>
    if c ≤ b + 1 then merge ((a, max b d) :: rest) else (a, b) :: merge ((c, d) :: rest)
termination_by rs => rs.length

/-- The set covered by intervals given in any order. -/
def normalize (rs : List (Nat × Nat)) : Ranges :=
  merge (Unicode.insertionSort (fun p q => p.1 ≤ q.1) rs)

def ofList (cs : List Nat) : Ranges := normalize (cs.map fun c => (c, c))

def all : Ranges := [(0, maxRune)]

def mem (rs : Ranges) (c : Nat) : Bool := rs.any fun r => r.1 ≤ c && c ≤ r.2

/-- Whether a set, given as an array of its runs, holds a code point; found by halving. -/
def memArray (rs : Array (Nat × Nat)) (c : Nat) : Bool :=
  match Unicode.upperBound rs Prod.fst c with
  | 0 => false
  | i + 1 => (rs[i]?).any (c ≤ ·.2)

def union (a b : Ranges) : Ranges := normalize (a ++ b)

/-- The code points from `next` to `maxRune` in none of the runs, for runs that start at
`next` or later. -/
def gaps : Ranges → Nat → Ranges
  | [], next => if next ≤ maxRune then [(next, maxRune)] else []
  | (lo, hi) :: rest, next => (if next < lo then [(next, lo - 1)] else []) ++ gaps rest (hi + 1)

def complement (rs : Ranges) : Ranges := gaps rs 0

/-- The set with every code point that equals a member up to case added. -/
def foldClosure (rs : Ranges) : Ranges :=
  let runs := rs.toArray
  let extra := Unicode.foldClasses.toList.flatMap fun (t, ms) =>
    let members := t :: ms
    if members.any (memArray runs) then members else []
  if extra.isEmpty then rs else normalize (rs ++ extra.map fun c => (c, c))

/-- The code points whose general category has one of the indices `cs`. -/
def ofCategories (cs : List Nat) : Ranges :=
  let runs := Unicode.categoryTable.toList
  let assigned := (runs.filter fun s => cs.contains s.value).map fun s => (s.lo, s.hi)
  let unassigned :=
    if cs.contains Unicode.unassigned then complement (merge (runs.map fun s => (s.lo, s.hi)))
    else []
  normalize (assigned ++ unassigned)

/-- The code points of the script with index `s`. -/
def ofScript (s : Nat) : Ranges :=
  merge ((Unicode.scriptTable.toList.filter (·.value == s)).map fun r => (r.lo, r.hi))

/-- The code points equal to `c` up to case. -/
def orbit (c : Nat) : Ranges := ofList (Unicode.orbit c)

end Ranges

end SyntaxShade.Pattern
