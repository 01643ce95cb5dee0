import SyntaxShade.Unicode.Lowercase
/-! Lowering a code point twice is lowering it once (`Unicode.toLower_toLower`), checked over the
table by the kernel. -/
namespace SyntaxShade.Unicode

/-- A set of numbers as the bits of one number, so that membership is one bit test. -/
def bitsOf (xs : List Nat) : Nat := xs.foldl (fun m k => m ||| 1 <<< k) 0

theorem testBit_foldl_or (xs : List Nat) (m v : Nat) :
    (xs.foldl (fun m k => m ||| 1 <<< k) m).testBit v = (m.testBit v || decide (v ∈ xs)) := by
  induction xs generalizing m with
  | nil => simp
  | cons k xs ih =>
    rw [List.foldl_cons, ih, Nat.testBit_or, Nat.one_shiftLeft, Nat.testBit_two_pow]
    by_cases hk : k = v
    · simp [hk]
    · simp [hk, Ne.symm hk]

theorem testBit_bitsOf (xs : List Nat) (v : Nat) : (bitsOf xs).testBit v = decide (v ∈ xs) := by
  rw [bitsOf, testBit_foldl_or, Nat.zero_testBit, Bool.false_or]

/-- A lookup in a pair table answers only with an entry of the table. -/
theorem findPair?_sound {t : Array (Nat × Nat)} {c v : Nat} (h : findPair? t c = some v) :
    (c, v) ∈ t.toList := by
  unfold findPair? at h
  split at h
  · cases h
  · split at h
    · next a b hget =>
      by_cases hac : a = c
      · rw [if_pos hac] at h
        cases h
        subst hac
        exact Array.mem_toList_iff.mpr (Array.mem_of_getElem? hget)
      · rw [if_neg hac] at h
        cases h
    · cases h

theorem toLower_of_findPair?_some {c v : Nat} (h : findPair? lowerTable c = some v) :
    toLower c = v := by
  rw [toLower, h, Option.getD_some]

theorem toLower_of_findPair?_none {c : Nat} (h : findPair? lowerTable c = none) : toLower c = c := by
  rw [toLower, h, Option.getD_none]

/-- The code points that have a lowercase form other than themselves. -/
def lowerKeyBits : Nat := bitsOf (lowerTable.toList.map Prod.fst)

/-- A code point that is no key of the table is its own lowercase form. -/
theorem toLower_of_testBit {c : Nat} (h : lowerKeyBits.testBit c = false) : toLower c = c := by
  cases hf : findPair? lowerTable c with
  | none => exact toLower_of_findPair?_none hf
  | some v =>
    have hkey : lowerKeyBits.testBit c = true := by
      rw [lowerKeyBits, testBit_bitsOf, decide_eq_true_iff]
      exact List.mem_map.mpr ⟨(c, v), findPair?_sound hf, rfl⟩
    rw [hkey] at h
    cases h

theorem lowerTable_images_not_keys :
    (lowerTable.toList.all fun p => !lowerKeyBits.testBit p.2) = true := by
  decide +kernel

theorem lowerTable_ascii_keys :
    ((List.range 128).all fun b => (65 ≤ b && b ≤ 90) || !lowerKeyBits.testBit b) = true := by
  decide +kernel

theorem lowerTable_replacement_not_key : lowerKeyBits.testBit 0xFFFD = false := by
  decide +kernel

theorem findPair?_capital : ∀ k < 26, findPair? lowerTable (65 + k) = some (97 + k) := by
  decide +kernel

/-- Lowering a code point twice is lowering it once. -/
theorem toLower_toLower (c : Nat) : toLower (toLower c) = toLower c := by
  cases hf : findPair? lowerTable c with
  | none => rw [toLower_of_findPair?_none hf, toLower_of_findPair?_none hf]
  | some v =>
    -- the image is no key, so it is its own lowercase form
    have himage := List.all_eq_true.mp lowerTable_images_not_keys (c, v) (findPair?_sound hf)
    rw [toLower_of_findPair?_some hf]
    exact toLower_of_testBit (by simpa using himage)

theorem toLower_replacement : toLower 0xFFFD = 0xFFFD :=
  toLower_of_testBit lowerTable_replacement_not_key

/-- Among the ASCII code points, the mapping lowers exactly `A`–`Z`. -/
theorem toLower_ascii {b : Nat} (hb : b < 128) :
    toLower b = if 65 ≤ b ∧ b ≤ 90 then b + 32 else b := by
  by_cases hcap : 65 ≤ b ∧ b ≤ 90
  · rw [if_pos hcap]
    obtain ⟨k, hk, rfl⟩ : ∃ k < 26, b = 65 + k := ⟨b - 65, by omega, by omega⟩
    rw [toLower_of_findPair?_some (findPair?_capital k hk)]
    omega
  · rw [if_neg hcap]
    apply toLower_of_testBit
    have hkey := List.all_eq_true.mp lowerTable_ascii_keys b (List.mem_range.mpr hb)
    simp only [Bool.or_eq_true, Bool.and_eq_true, decide_eq_true_eq, Bool.not_eq_eq_eq_not,
      Bool.not_true] at hkey
    exact hkey.resolve_left hcap

end SyntaxShade.Unicode
