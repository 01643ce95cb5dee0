/-! Compact code point tables: range and pair tables written as base-32 numbers, or as lists of
numbers where proofs evaluate them, searched by halving. -/
namespace SyntaxShade.Unicode

/-- A digit of the table alphabet: its value and whether it ends a number. -/
def digit (c : Char) : Nat × Bool :=
  if 'A' ≤ c ∧ c ≤ 'Z' then (c.toNat - 65, false)
  else if '0' ≤ c ∧ c ≤ '5' then (c.toNat - 48 + 26, false)
  else if 'a' ≤ c ∧ c ≤ 'z' then (c.toNat - 97, true)
  else if '6' ≤ c ∧ c ≤ '9' then (c.toNat - 54 + 26, true)
  else if c = '+' then (30, true)
  else (31, true)

/-- The numbers written in a table text, in order. -/
def numbers (s : String) : List Nat := go s.toList 0 []
where
  /-- Reads digits, with the number begun so far and the numbers read, last first. -/
  go : List Char → Nat → List Nat → List Nat
    | [], _, acc => acc.reverse
    | c :: cs, n, acc =>
      let (d, last) := digit c
      if last then go cs 0 ((n * 32 + d) :: acc) else go cs (n * 32 + d) acc

/-- A run of code points `lo` to `hi` with a value. -/
structure Span where
  lo : Nat
  hi : Nat
  value : Nat
  deriving Repr, Inhabited

/-- The runs of a range table, where `next` is the first code point after the previous run. -/
def spans : List Nat → Nat → List Span
  | gap :: len :: value :: rest, next =>
    ⟨next + gap, next + gap + len, value⟩ :: spans rest (next + gap + len + 1)
  | _, _ => []

/-- Undoes the zigzag encoding of an offset from `c`. -/
def unzig (c z : Nat) : Nat := if z % 2 = 0 then c + z / 2 else c - (z + 1) / 2

/-- The entries of a pair table, where `next` is the code point after the previous entry. -/
def pairs : List Nat → Nat → List (Nat × Nat)
  | gap :: z :: rest, next => (next + gap, unzig (next + gap) z) :: pairs rest (next + gap + 1)
  | _, _ => []

def rangeTable (s : String) : Array Span := (spans (numbers s) 0).toArray


/-- The first index in `[lo, hi)` whose key exceeds `c`, for an array sorted by key. -/
def upperBound {α : Type} (xs : Array α) (key : α → Nat) (c : Nat) : Nat :=
  loop 0 xs.size (Nat.zero_le _) (Nat.le_refl _)
where
  /-- The search between `lo` and `hi`. -/
  loop (lo hi : Nat) (hlo : lo ≤ hi) (hhi : hi ≤ xs.size) : Nat :=
    if h : lo < hi then
      let mid := lo + (hi - lo) / 2
      have hmid : mid < hi := by omega
      have hin : mid < xs.size := Nat.lt_of_lt_of_le hmid hhi
      if c < key xs[mid] then loop lo mid (by omega) (by omega)
      else loop (mid + 1) hi (by omega) hhi
    else lo
  termination_by hi - lo

/-- The value of the run that holds `c`, if any. -/
def Span.find? (t : Array Span) (c : Nat) : Option Nat :=
  match upperBound t Span.lo c with
  | 0 => none
  | i + 1 =>
    match t[i]? with
    | some s => if c ≤ s.hi then some s.value else none
    | none => none

/-- The image of `c` in a pair table, if it has one. -/
def findPair? (t : Array (Nat × Nat)) (c : Nat) : Option Nat :=
  match upperBound t Prod.fst c with
  | 0 => none
  | i + 1 =>
    match t[i]? with
    | some (a, b) => if a = c then some b else none
    | none => none

/-- Inserts `a` before the first element that it comes before by `le`. -/
def orderedInsert {α : Type} (le : α → α → Bool) (a : α) : List α → List α
  | [] => [a]
  | b :: l => if le a b then a :: b :: l else b :: orderedInsert le a l

/-- Sorts by `le`, keeping the order of elements that `le` ranks alike. It recurses on the list, so
proofs can evaluate it, and it is the library's merge sort (`insertionSort_eq_mergeSort`). -/
def insertionSort {α : Type} (le : α → α → Bool) : List α → List α
  | [] => []
  | a :: l => orderedInsert le a (insertionSort le l)

theorem orderedInsert_append {α : Type} {le : α → α → Bool} {a : α} {l₁ l₂ : List α}
    (h₁ : ∀ b ∈ l₁, le a b = false) (h₂ : ∀ b ∈ l₂, le a b = true) :
    orderedInsert le a (l₁ ++ l₂) = l₁ ++ a :: l₂ := by
  induction l₁ with
  | nil =>
    cases l₂ with
    | nil => rfl
    | cons b l₂ => rw [List.nil_append, orderedInsert, if_pos (h₂ b List.mem_cons_self), List.nil_append]
  | cons b l₁ ih =>
    rw [List.cons_append, orderedInsert, if_neg (by rw [h₁ b List.mem_cons_self]; decide),
      ih fun c hc => h₁ c (List.mem_cons_of_mem b hc), List.cons_append]

theorem insertionSort_eq_mergeSort {α : Type} {le : α → α → Bool}
    (trans : ∀ a b c, le a b → le b c → le a c) (total : ∀ a b, le a b || le b a) :
    ∀ l : List α, insertionSort le l = l.mergeSort le
  | [] => by rw [List.mergeSort_nil]; rfl
  | a :: l => by
    obtain ⟨l₁, l₂, hcons, hrest, hbefore⟩ := List.mergeSort_cons trans total a l
    have hsorted := List.pairwise_mergeSort trans total (a :: l)
    rw [hcons, List.pairwise_append] at hsorted
    have hafter : ∀ b ∈ l₂, le a b = true := fun b hb => List.rel_of_pairwise_cons hsorted.2.1 hb
    rw [insertionSort, insertionSort_eq_mergeSort trans total l, hrest, hcons]
    exact orderedInsert_append (fun b hb => by simpa using hbefore b hb) hafter

end SyntaxShade.Unicode
