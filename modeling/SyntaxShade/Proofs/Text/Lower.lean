import Mathlib.Data.List.Basic
import SyntaxShade.Proofs.Text.Fields
import SyntaxShade.Proofs.Unicode.Lowercase
import SyntaxShade.Text.Case
/-! Lowering a text twice is lowering it once (`Bytes.toLower_toLower`). -/
namespace SyntaxShade

namespace Utf8

/-- The code point that `encode` writes for `c`: `c` itself when it is a scalar value, U+FFFD for
a surrogate or a number past U+10FFFF. -/
def scalar (c : Nat) : Nat :=
  if (0xD800 ≤ c ∧ c < 0xE000) ∨ 0x110000 ≤ c then Rune.replacement else c

theorem toNat_toUInt8 {n : Nat} (h : n < 256) : n.toUInt8.toNat = n := by
  simp only [Nat.toUInt8_eq, UInt8.toNat_ofNat', Nat.mod_eq_of_lt h]

/-- A surrogate or a number past U+10FFFF is written as the bytes of U+FFFD. -/
theorem encode_of_not_scalar {c : Nat} (hbad : (0xD800 ≤ c ∧ c < 0xE000) ∨ 0x110000 ≤ c) :
    encode c = [0xEF, 0xBF, 0xBD] := by
  unfold encode
  rw [if_neg (by omega), if_neg (by omega), if_pos hbad]

/-! ### Reading back the bytes of one code point, width by width -/

theorem decode_encode_one {c : Nat} (h : c < 0x80) (rest : Bytes) :
    Rune.decode ([c.toUInt8] ++ rest) = ⟨c, 1⟩ := by
  have hv : c.toUInt8.toNat = c := toNat_toUInt8 (by omega)
  rw [List.singleton_append, Rune.decode_ascii (UInt8.lt_iff_toNat_lt.mpr (by rw [hv]; exact h)),
    hv]

theorem decode_encode_two {c : Nat} (h1 : 0x80 ≤ c) (h2 : c < 0x800) (rest : Bytes) :
    Rune.decode ([(0xC0 + c / 64).toUInt8, (0x80 + c % 64).toUInt8] ++ rest) = ⟨c, 2⟩ := by
  simp only [List.cons_append, List.nil_append, Rune.decode, Rune.ofCons, Rune.two, Rune.isTail,
    UInt8.lt_iff_toNat_lt, UInt8.le_iff_toNat_le, toNat_toUInt8 (show 0xC0 + c / 64 < 256 by omega),
    toNat_toUInt8 (show 0x80 + c % 64 < 256 by omega), UInt8.reduceToNat]
  rw [if_neg (by omega), if_neg (by omega), if_pos (by omega),
    if_pos (by simp only [Bool.and_eq_true, decide_eq_true_eq]; omega)]
  congr 1
  omega

theorem decode_encode_three {c : Nat} (h1 : 0x800 ≤ c) (h2 : c < 0x10000)
    (hs : ¬ (0xD800 ≤ c ∧ c < 0xE000)) (rest : Bytes) :
    Rune.decode ([(0xE0 + c / 4096).toUInt8, (0x80 + c / 64 % 64).toUInt8,
      (0x80 + c % 64).toUInt8] ++ rest) = ⟨c, 3⟩ := by
  simp only [List.cons_append, List.nil_append, Rune.decode, Rune.ofCons, Rune.three, Rune.isTail,
    UInt8.lt_iff_toNat_lt, UInt8.le_iff_toNat_le, ← UInt8.toNat_inj,
    toNat_toUInt8 (show 0xE0 + c / 4096 < 256 by omega),
    toNat_toUInt8 (show 0x80 + c / 64 % 64 < 256 by omega),
    toNat_toUInt8 (show 0x80 + c % 64 < 256 by omega), UInt8.reduceToNat]
  rw [if_neg (by omega), if_neg (by omega), if_neg (by omega)]
  by_cases hlow : c < 0x1000
  · rw [if_pos (by omega), if_pos (by simp only [Bool.and_eq_true, decide_eq_true_eq]; omega)]
    congr 1
    omega
  by_cases hmid : 0xD000 ≤ c ∧ c < 0xE000
  · rw [if_neg (by omega), if_pos (by omega),
      if_pos (by simp only [Bool.and_eq_true, decide_eq_true_eq]; omega)]
    congr 1
    omega
  · rw [if_neg (by omega), if_neg (by omega), if_pos (by omega),
      if_pos (by simp only [Bool.and_eq_true, decide_eq_true_eq]; omega)]
    congr 1
    omega

theorem decode_encode_four {c : Nat} (h1 : 0x10000 ≤ c) (h2 : c < 0x110000) (rest : Bytes) :
    Rune.decode ([(0xF0 + c / 262144).toUInt8, (0x80 + c / 4096 % 64).toUInt8,
      (0x80 + c / 64 % 64).toUInt8, (0x80 + c % 64).toUInt8] ++ rest) = ⟨c, 4⟩ := by
  simp only [List.cons_append, List.nil_append, Rune.decode, Rune.ofCons, Rune.four, Rune.isTail,
    UInt8.lt_iff_toNat_lt, UInt8.le_iff_toNat_le, ← UInt8.toNat_inj,
    toNat_toUInt8 (show 0xF0 + c / 262144 < 256 by omega),
    toNat_toUInt8 (show 0x80 + c / 4096 % 64 < 256 by omega),
    toNat_toUInt8 (show 0x80 + c / 64 % 64 < 256 by omega),
    toNat_toUInt8 (show 0x80 + c % 64 < 256 by omega), UInt8.reduceToNat]
  rw [if_neg (by omega), if_neg (by omega), if_neg (by omega), if_neg (by omega),
    if_neg (by omega), if_neg (by omega)]
  by_cases hlow : c < 0x40000
  · rw [if_pos (by omega), if_pos (by simp only [Bool.and_eq_true, decide_eq_true_eq]; omega)]
    congr 1
    omega
  by_cases hhigh : c < 0x100000
  · rw [if_neg (by omega), if_pos (by omega),
      if_pos (by simp only [Bool.and_eq_true, decide_eq_true_eq]; omega)]
    congr 1
    omega
  · rw [if_neg (by omega), if_neg (by omega), if_pos (by omega),
      if_pos (by simp only [Bool.and_eq_true, decide_eq_true_eq]; omega)]
    congr 1
    omega

theorem decode_encode (c : Nat) (rest : Bytes) :
    Rune.decode (encode c ++ rest) = ⟨scalar c, (encode c).length⟩ := by
  by_cases hbad : (0xD800 ≤ c ∧ c < 0xE000) ∨ 0x110000 ≤ c
  · rw [encode_of_not_scalar hbad, scalar, if_pos hbad]
    rfl
  rw [scalar, if_neg hbad]
  unfold encode
  by_cases h1 : c < 0x80
  · rw [if_pos h1, decode_encode_one h1]
    rfl
  rw [if_neg h1]
  by_cases h2 : c < 0x800
  · rw [if_pos h2, decode_encode_two (by omega) h2]
    rfl
  rw [if_neg h2, if_neg hbad]
  by_cases h3 : c < 0x10000
  · rw [if_pos h3, decode_encode_three (by omega) h3 (by omega)]
    rfl
  · rw [if_neg h3, decode_encode_four (by omega) (by omega)]
    rfl

/-! ### Reading back the bytes of many code points -/

theorem encode_ne_nil (c : Nat) : encode c ≠ [] := by
  unfold encode
  split_ifs <;> simp

/-- A scalar value and U+FFFD for the rest: what `encode` writes. -/
theorem encode_scalar (c : Nat) : encode (scalar c) = encode c := by
  unfold scalar
  split
  · next hbad =>
    rw [encode_of_not_scalar hbad]
    rfl
  · rfl

theorem runes_encode_append (c : Nat) (rest : Bytes) :
    runes (encode c ++ rest) = (⟨scalar c, (encode c).length⟩, encode c) :: runes rest := by
  obtain ⟨b, bs, hb⟩ := List.exists_cons_of_ne_nil (encode_ne_nil c)
  have hd := decode_encode c rest
  rw [hb, List.cons_append, runes_cons, ← List.cons_append, ← hb, hd, List.take_left,
    List.drop_left]

/-- The bytes written for a list of code points read back as those code points, as written. -/
theorem runes_flatMap_encode (cs : List Nat) :
    runes (cs.flatMap encode) = cs.map fun c => (⟨scalar c, (encode c).length⟩, encode c) := by
  induction cs with
  | nil => exact runes_nil
  | cons c cs ih => rw [List.flatMap_cons, runes_encode_append, ih, List.map_cons]

end Utf8

namespace Bytes

/-- An ASCII byte is lowered within ASCII, as a rune and as a byte alike. -/
theorem encode_toLower_ascii {b : UInt8} (hb : b < 0x80) :
    Utf8.encode (Unicode.toLower b.toNat) = [if 0x41 ≤ b ∧ b ≤ 0x5A then b + 32 else b] := by
  have hv : b.toNat < 128 := UInt8.lt_iff_toNat_lt.mp hb
  rw [Unicode.toLower_ascii hv]
  have hcap : (65 ≤ b.toNat ∧ b.toNat ≤ 90) ↔ (0x41 ≤ b ∧ b ≤ 0x5A) := by
    simp only [UInt8.le_iff_toNat_le, UInt8.reduceToNat]
  by_cases h : 65 ≤ b.toNat ∧ b.toNat ≤ 90
  · rw [if_pos h, if_pos (hcap.mp h)]
    unfold Utf8.encode
    rw [if_pos (by omega)]
    congr 2
  · rw [if_neg h, if_neg (mt hcap.mpr h)]
    unfold Utf8.encode
    rw [if_pos (by omega)]
    congr 2
    exact UInt8.toNat_inj.mp (Utf8.toNat_toUInt8 (by omega))

theorem map_lower_eq_flatMap (s : Bytes) (hs : Utf8.isAscii s = true) :
    s.map (fun b => if 0x41 ≤ b ∧ b ≤ 0x5A then b + 32 else b) =
      (Utf8.runes s).flatMap fun p => Utf8.encode (Unicode.toLower p.1.code) := by
  induction s with
  | nil => rw [Utf8.runes_nil]; rfl
  | cons b s ih =>
    simp only [Utf8.isAscii, List.all_cons, Bool.and_eq_true, decide_eq_true_eq] at hs
    rw [List.map_cons, Utf8.runes_ascii hs.1, List.flatMap_cons, encode_toLower_ascii hs.1, ih hs.2]
    rfl

/-- Every text is lowered rune by rune. -/
theorem toLower_eq_flatMap (s : Bytes) :
    s.toLower = (Utf8.runes s).flatMap fun p => Utf8.encode (Unicode.toLower p.1.code) := by
  unfold toLower
  split
  · next hs => exact map_lower_eq_flatMap s hs
  · rfl

/-- A lowered code point read back and lowered again is written as before. -/
theorem encode_toLower_scalar (c : Nat) :
    Utf8.encode (Unicode.toLower (Utf8.scalar (Unicode.toLower c))) =
      Utf8.encode (Unicode.toLower c) := by
  have hscalar := Utf8.encode_scalar (Unicode.toLower c)
  unfold Utf8.scalar at hscalar ⊢
  split
  · -- a lowercase form that is no scalar value is written as U+FFFD, which stays as it is
    next hbad =>
    rw [if_pos hbad] at hscalar
    rw [show Rune.replacement = 0xFFFD from rfl, Unicode.toLower_replacement]
    exact hscalar
  · rw [Unicode.toLower_toLower]

/-- Lowering a text twice is lowering it once. -/
theorem toLower_toLower (s : Bytes) : s.toLower.toLower = s.toLower := by
  have hlow : s.toLower = ((Utf8.runes s).map fun p => Unicode.toLower p.1.code).flatMap
      Utf8.encode := by
    rw [toLower_eq_flatMap, List.flatMap_map]
  rw [toLower_eq_flatMap s.toLower, hlow, Utf8.runes_flatMap_encode, List.flatMap_map,
    List.flatMap_map, List.flatMap_map]
  exact List.flatMap_congr fun p _ => encode_toLower_scalar p.1.code

end Bytes

end SyntaxShade
