import SyntaxShade.Region
import Mathlib.Logic.Relation
/-! The closer search finds the first closer with an even run of backslashes before it inside the
window (`Region.indexOfTo_finds_first_closer`). -/
namespace SyntaxShade

namespace Bytes

variable {s pat : Bytes}

theorem indexOf?_nil (pat : Bytes) :
    Bytes.indexOf? [] pat = if pat.isPrefixOf [] then some 0 else none := by
  rw [Bytes.indexOf?]

theorem indexOf?_cons (b : UInt8) (t pat : Bytes) :
    Bytes.indexOf? (b :: t) pat =
      if pat.isPrefixOf (b :: t) then some 0 else (Bytes.indexOf? t pat).map (· + 1) := by
  rw [Bytes.indexOf?]

/-- A text found at offset `k` starts there, and at no earlier offset. -/
theorem prefix_of_indexOf?_eq_some {k : Nat} (h : Bytes.indexOf? s pat = some k) :
    pat <+: s.drop k ∧ ∀ j < k, ¬ pat <+: s.drop j := by
  induction s generalizing k with
  | nil =>
    rw [indexOf?_nil] at h
    split at h
    · next hpre =>
      cases h
      exact ⟨List.isPrefixOf_iff_prefix.mp hpre, fun j hj => absurd hj (Nat.not_lt_zero j)⟩
    · cases h
  | cons b t ih =>
    rw [indexOf?_cons] at h
    split at h
    · next hpre =>
      cases h
      exact ⟨List.isPrefixOf_iff_prefix.mp hpre, fun j hj => absurd hj (Nat.not_lt_zero j)⟩
    · next hpre =>
      obtain ⟨k', hk', rfl⟩ := Option.map_eq_some_iff.mp h
      obtain ⟨hat, hbefore⟩ := ih hk'
      refine ⟨by simpa using hat, fun j hj => ?_⟩
      cases j with
      | zero => simpa [List.isPrefixOf_iff_prefix] using hpre
      | succ j => simpa using hbefore j (by omega)

theorem not_prefix_of_indexOf?_eq_none (h : Bytes.indexOf? s pat = none) (k : Nat) :
    ¬ pat <+: s.drop k := by
  induction s generalizing k with
  | nil =>
    rw [indexOf?_nil] at h
    split at h
    · cases h
    · next hpre => simpa [List.isPrefixOf_iff_prefix] using hpre
  | cons b t ih =>
    rw [indexOf?_cons] at h
    split at h
    · cases h
    · next hpre =>
      cases k with
      | zero => simpa [List.isPrefixOf_iff_prefix] using hpre
      | succ k => simpa using ih (Option.map_eq_none_iff.mp h) k

/-- A search from offset `search` that finds `pat` at `k`: `pat` starts at offset `search + k`,
and at no offset from `search` up to it. -/
theorem prefix_of_indexOf?_drop_eq_some {search k : Nat}
    (h : Bytes.indexOf? (s.drop search) pat = some k) :
    pat <+: s.drop (search + k) ∧ ∀ j, search ≤ j → j < search + k → ¬ pat <+: s.drop j := by
  obtain ⟨hat, hbefore⟩ := prefix_of_indexOf?_eq_some h
  refine ⟨by rwa [List.drop_drop] at hat, fun j hsj hj hpre => hbefore (j - search) (by omega) ?_⟩
  rwa [List.drop_drop, Nat.add_sub_cancel' hsj]

theorem not_prefix_of_indexOf?_drop_eq_none {search j : Nat}
    (h : Bytes.indexOf? (s.drop search) pat = none) (hj : search ≤ j) : ¬ pat <+: s.drop j := by
  have hnot := not_prefix_of_indexOf?_eq_none h (j - search)
  rwa [List.drop_drop, Nat.add_sub_cancel' hj] at hnot

end Bytes

namespace Region

/-! ### Runs of backslashes -/

/-- The backslashes that end a text. -/
def trailingBackslashes (s : Bytes) : Nat := (s.reverse.takeWhile (· == 0x5C)).length

@[simp] theorem trailingBackslashes_nil : trailingBackslashes [] = 0 := rfl

theorem trailingBackslashes_append_singleton (s : Bytes) (b : UInt8) :
    trailingBackslashes (s ++ [b]) = if b = 0x5C then trailingBackslashes s + 1 else 0 := by
  unfold trailingBackslashes
  by_cases hb : b = 0x5C <;> simp [hb]

/-- Counting down from `idx` counts the backslashes that end the window's part before `idx`. -/
theorem backslashesBefore_eq (s : Bytes) (window : Nat) {idx : Nat} (h : idx ≤ s.length) :
    backslashesBefore s window idx = trailingBackslashes ((s.take idx).drop window) := by
  induction idx with
  | zero => simp [backslashesBefore]
  | succ i ih =>
    have hi : i < s.length := by omega
    rw [backslashesBefore, ih (by omega), List.take_add_one, List.getElem?_eq_getElem hi,
      Option.toList_some]
    by_cases hw : window ≤ i
    · have hlen : window ≤ (s.take i).length := by
        rw [List.length_take]
        omega
      rw [List.drop_append_of_le_length hlen, trailingBackslashes_append_singleton]
      by_cases hb : s[i] = 0x5C <;> simp [hw, hb]
    · have hnil : (s.take i ++ [s[i]]).drop window = [] := by
        apply List.drop_eq_nil_of_le
        rw [List.length_append, List.length_take, List.length_singleton]
        omega
      rw [hnil]
      simp [hw]

/-! ### What the search looks for -/

variable (r : Region) (s : Bytes) (window : Nat)

/-- Offset `idx` of `s` starts a closer, and the backslashes right before it inside the window
`[window, idx)` are even in number. -/
def ClosesAt (idx : Nat) : Prop :=
  r.closer <+: s.drop idx ∧ trailingBackslashes ((s.take idx).drop window) % 2 = 0

/-- Offset `idx` is the first offset at or after the window where the region closes. -/
def FirstCloser (idx : Nat) : Prop :=
  window ≤ idx ∧ r.ClosesAt s window idx ∧ ∀ j, window ≤ j → j < idx → ¬ r.ClosesAt s window j

/-- The answer a closer search owes: the first offset where the region closes, or none when it
closes nowhere. -/
def SearchAnswer : Option Nat → Prop
  | some idx => r.FirstCloser s window idx
  | none => ∀ idx, window ≤ idx → ¬ r.ClosesAt s window idx

variable {r s window}

theorem add_length_le_of_prefix {idx : Nat} (h : r.closer <+: s.drop idx) :
    idx + r.closer.length ≤ s.length := by
  have hlen := h.length_le
  have hpos : 0 < r.closer.length := List.length_pos_iff.mpr r.closer_ne
  rw [List.length_drop] at hlen
  omega

/-- At a closer, closing is what the count-down of backslashes calls not escaped. -/
theorem closesAt_iff_not_escaped {idx : Nat} (h : r.closer <+: s.drop idx) :
    r.ClosesAt s window idx ↔ escaped s window idx = false := by
  have hidx : idx ≤ s.length := by
    have := add_length_le_of_prefix h
    omega
  rw [ClosesAt, escaped, backslashesBefore_eq s window hidx]
  simp only [h, true_and, beq_eq_false_iff_ne]
  omega

theorem SearchAnswer.unique {o o' : Option Nat} (h : r.SearchAnswer s window o)
    (h' : r.SearchAnswer s window o') : o = o' := by
  cases o with
  | none =>
    cases o' with
    | none => rfl
    | some j => exact absurd h'.2.1 (h j h'.1)
  | some i =>
    cases o' with
    | none => exact absurd h.2.1 (h' i h.1)
    | some j =>
      obtain ⟨hi, hci, hbefore⟩ := h
      obtain ⟨hj, hcj, hbefore'⟩ := h'
      rcases Nat.lt_trichotomy i j with hlt | rfl | hgt
      · exact absurd hci (hbefore' i hi hlt)
      · rfl
      · exact absurd hcj (hbefore j hj hgt)

/-! ### The loop -/

/-- Where the search from `search` finds the next closer at `search + k`, no offset from the
window up to that closer closes the region, if none up to `search` did. -/
theorem not_closesAt_before_found {search k : Nat}
    (hk : Bytes.indexOf? (s.drop search) r.closer = some k)
    (hbefore : ∀ j, window ≤ j → j < search → ¬ r.ClosesAt s window j) :
    ∀ j, window ≤ j → j < search + k → ¬ r.ClosesAt s window j := by
  intro j hwj hj hclose
  rcases Nat.lt_or_ge j search with hlt | hge
  · exact hbefore j hwj hlt hclose
  · exact (Bytes.prefix_of_indexOf?_drop_eq_some hk).2 j hge hj hclose.1

/-- Started where no offset from the window on closes the region before `search`, the loop
gives the search's answer. -/
theorem loop_answer (search : Nat) :
    window ≤ search → (∀ j, window ≤ j → j < search → ¬ r.ClosesAt s window j) →
      r.SearchAnswer s window (indexOfTo.loop r s window search) := by
  fun_induction indexOfTo.loop r s window search with
  | case1 search hle hnone =>
    intro _ hbefore idx hidx hclose
    rcases Nat.lt_or_ge idx search with hlt | hge
    · exact hbefore idx hidx hlt hclose
    · exact Bytes.not_prefix_of_indexOf?_drop_eq_none hnone hge hclose.1
  | case2 search hle k hk hesc ih =>
    -- the closer at `search + k` is escaped, so the invariant reaches one byte past it
    intro hws hbefore
    have hat := (Bytes.prefix_of_indexOf?_drop_eq_some hk).1
    have hescaped : ¬ r.ClosesAt s window (search + k) := by
      rw [closesAt_iff_not_escaped hat, hesc]
      exact Bool.true_eq_false.mp
    refine ih (by omega) fun j hwj hj => ?_
    rcases Nat.lt_or_ge j (search + k) with hlt | hge
    · exact not_closesAt_before_found hk hbefore j hwj hlt
    · rw [show j = search + k by omega]
      exact hescaped
  | case3 search hle k hk hesc =>
    intro hws hbefore
    have hat := (Bytes.prefix_of_indexOf?_drop_eq_some hk).1
    exact ⟨by omega, (closesAt_iff_not_escaped hat).mpr (by simpa using hesc),
      not_closesAt_before_found hk hbefore⟩
  | case4 search hgt =>
    intro _ hbefore idx hidx hclose
    rcases Nat.lt_or_ge idx search with hlt | hge
    · exact hbefore idx hidx hlt hclose
    · have := add_length_le_of_prefix hclose.1
      omega

theorem indexOfTo_answer : r.SearchAnswer s window (r.indexOfTo s window) :=
  loop_answer window (Nat.le_refl window) fun _ hwj hj => absurd hj (Nat.not_lt.mpr hwj)

theorem indexOfTo_eq_some_iff {idx : Nat} :
    r.indexOfTo s window = some idx ↔ r.FirstCloser s window idx := by
  constructor
  · intro h
    have hans : r.SearchAnswer s window (r.indexOfTo s window) := indexOfTo_answer
    rw [h] at hans
    exact hans
  · intro h
    exact indexOfTo_answer.unique (show r.SearchAnswer s window (some idx) from h)

theorem indexOfTo_eq_none_iff :
    r.indexOfTo s window = none ↔ ∀ idx, window ≤ idx → ¬ r.ClosesAt s window idx := by
  constructor
  · intro h
    have hans : r.SearchAnswer s window (r.indexOfTo s window) := indexOfTo_answer
    rw [h] at hans
    exact hans
  · intro h
    exact indexOfTo_answer.unique (show r.SearchAnswer s window none from h)

/-! ### The loop stays inside the text -/

variable (r s window) in
/-- One pass of the search loop from `search` that finds an escaped closer and searches again
from `next`. -/
def Restart (search next : Nat) : Prop :=
  search ≤ s.length ∧ ∃ k, Bytes.indexOf? (s.drop search) r.closer = some k ∧
    escaped s window (search + k) = true ∧ next = search + k + 1

/-- A restart starts inside the text: one byte past a closer, which lies inside the text. -/
theorem Restart.le_length {search next : Nat} (h : r.Restart s window search next) :
    next ≤ s.length := by
  obtain ⟨-, k, hk, -, rfl⟩ := h
  have hat := (Bytes.prefix_of_indexOf?_drop_eq_some hk).1
  have hpos : 0 < r.closer.length := List.length_pos_iff.mpr r.closer_ne
  have := add_length_le_of_prefix hat
  omega

/-- Started inside the text, the search loop passes its test at every offset it searches from. -/
theorem le_length_of_restarts (hw : window ≤ s.length) {search : Nat}
    (h : Relation.ReflTransGen (r.Restart s window) window search) : search ≤ s.length := by
  induction h with
  | refl => exact hw
  | tail _ hstep _ => exact hstep.le_length

/-! ### Where a region ends -/

theorem endAt_bounds {pos : Nat} (hpre : r.opener <+: s.drop pos) :
    pos < r.endAt s pos ∧ r.endAt s pos ≤ s.length := by
  have hpos : 0 < r.opener.length := List.length_pos_iff.mpr r.opener_ne
  have hopen : pos + r.opener.length ≤ s.length := by
    have hlen := hpre.length_le
    rw [List.length_drop] at hlen
    omega
  unfold endAt
  split
  · next idx hidx =>
    obtain ⟨hle, hclose, -⟩ := indexOfTo_eq_some_iff.mp hidx
    have := add_length_le_of_prefix hclose.1
    omega
  · omega

/-- The closer search from a window inside the text: it finds the first offset at or after the
window where an unescaped closer starts, and none when there is no such offset; the loop searches
only from offsets inside the text, so it never leaves by its test; and a region that opens at any
offset ends past that offset and inside the text. -/
theorem indexOfTo_finds_first_closer (r : Region) (s : Bytes) (window : Nat)
    (hw : window ≤ s.length) :
    (∀ idx, r.indexOfTo s window = some idx ↔ r.FirstCloser s window idx) ∧
      (r.indexOfTo s window = none ↔ ∀ idx, window ≤ idx → ¬ r.ClosesAt s window idx) ∧
      (∀ search, Relation.ReflTransGen (r.Restart s window) window search → search ≤ s.length) ∧
      ∀ pos, r.opener <+: s.drop pos → pos < r.endAt s pos ∧ r.endAt s pos ≤ s.length :=
  ⟨fun _ => indexOfTo_eq_some_iff, indexOfTo_eq_none_iff, fun _ => le_length_of_restarts hw,
    fun _ => endAt_bounds⟩

/-- The closer search of a string rule over `"a\\\"b"`, whose closer comes after three
backslashes, from the window after the opening quote. -/
theorem indexOfTo_finds_first_closer_escaped_quote :
    1 ≤ (Bytes.ofString "\"a\\\\\\\"b\"").length ∧
      let quote : Region := ⟨Bytes.ofString "STR(\")(\")", .string, [0x22], [0x22],
        List.cons_ne_nil _ _, List.cons_ne_nil _ _⟩
      let s := Bytes.ofString "\"a\\\\\\\"b\""
      (∀ idx, quote.indexOfTo s 1 = some idx ↔ quote.FirstCloser s 1 idx) ∧
        (quote.indexOfTo s 1 = none ↔ ∀ idx, 1 ≤ idx → ¬ quote.ClosesAt s 1 idx) ∧
        (∀ search, Relation.ReflTransGen (quote.Restart s 1) 1 search → search ≤ s.length) ∧
        ∀ pos, quote.opener <+: s.drop pos → pos < quote.endAt s pos ∧ quote.endAt s pos ≤ s.length :=
  ⟨by decide +kernel, indexOfTo_finds_first_closer _ _ 1 (by decide +kernel)⟩

end Region

end SyntaxShade
