/-! Byte strings read as UTF-8 runes, a malformed byte as U+FFFD of width one. -/
namespace SyntaxShade

/-- Text as bytes, in the order they are stored. -/
abbrev Bytes := List UInt8

def Bytes.ofString (s : String) : Bytes := s.toUTF8.toList

/-- One rune read from the front of a byte string: its code point and how many bytes it took. -/
structure Rune where
  code : Nat
  width : Nat
  deriving Repr, BEq, DecidableEq

namespace Rune

/-- The code point that stands for a byte that starts no well-formed sequence. -/
def replacement : Nat := 0xFFFD

/-- A continuation byte, `10xxxxxx`. -/
def isTail (b : UInt8) : Bool := 0x80 ≤ b && b ≤ 0xBF

/-- The rune that a malformed sequence reads as. -/
def bad : Rune := ⟨replacement, 1⟩

/-- A two-byte rune whose second byte is checked. -/
def two (b0 : UInt8) : Bytes → Rune
  | b1 :: _ => if isTail b1 then ⟨b0.toNat % 32 * 64 + b1.toNat % 64, 2⟩ else bad
  | [] => bad

/-- A three-byte rune whose second byte lies in `[lo, hi]`. -/
def three (b0 lo hi : UInt8) : Bytes → Rune
  | b1 :: b2 :: _ =>
    if lo ≤ b1 && b1 ≤ hi && isTail b2 then
      ⟨b0.toNat % 16 * 4096 + b1.toNat % 64 * 64 + b2.toNat % 64, 3⟩
    else bad
  | _ => bad

/-- A four-byte rune whose second byte lies in `[lo, hi]`. -/
def four (b0 lo hi : UInt8) : Bytes → Rune
  | b1 :: b2 :: b3 :: _ =>
    if lo ≤ b1 && b1 ≤ hi && isTail b2 && isTail b3 then
      ⟨b0.toNat % 8 * 262144 + b1.toNat % 64 * 4096 + b2.toNat % 64 * 64 + b3.toNat % 64, 4⟩
    else bad
  | _ => bad

/-- The rune that starts with byte `b0`, followed by `rest`. The bounds on the second byte rule out
overlong forms, surrogates and code points above U+10FFFF. -/
def ofCons (b0 : UInt8) (rest : Bytes) : Rune :=
  if b0 < 0x80 then ⟨b0.toNat, 1⟩
  else if b0 < 0xC2 then bad
  else if b0 < 0xE0 then two b0 rest
  else if b0 = 0xE0 then three b0 0xA0 0xBF rest
  else if b0 = 0xED then three b0 0x80 0x9F rest
  else if b0 < 0xF0 then three b0 0x80 0xBF rest
  else if b0 = 0xF0 then four b0 0x90 0xBF rest
  else if b0 < 0xF4 then four b0 0x80 0xBF rest
  else if b0 = 0xF4 then four b0 0x80 0x8F rest
  else bad

/-- The rune at the front of a byte string; the empty string reads as U+FFFD of width zero. -/
def decode : Bytes → Rune
  | [] => ⟨replacement, 0⟩
  | b0 :: rest => ofCons b0 rest

/-- A rune that stands for one byte that starts no well-formed sequence. -/
def isInvalid (r : Rune) : Bool := r.code == replacement && r.width == 1

theorem two_width (b0 : UInt8) (rest : Bytes) :
    0 < (two b0 rest).width ∧ (two b0 rest).width ≤ rest.length + 1 := by
  unfold two bad
  split
  · split <;> simp
  · simp

theorem three_width (b0 lo hi : UInt8) (rest : Bytes) :
    0 < (three b0 lo hi rest).width ∧ (three b0 lo hi rest).width ≤ rest.length + 1 := by
  unfold three bad
  split
  · split <;> simp
  · simp

theorem four_width (b0 lo hi : UInt8) (rest : Bytes) :
    0 < (four b0 lo hi rest).width ∧ (four b0 lo hi rest).width ≤ rest.length + 1 := by
  unfold four bad
  split
  · split <;> simp
  · simp

theorem ofCons_width (b0 : UInt8) (rest : Bytes) :
    0 < (ofCons b0 rest).width ∧ (ofCons b0 rest).width ≤ rest.length + 1 := by
  have h2 := two_width b0 rest
  have h3 := fun lo hi => three_width b0 lo hi rest
  have h4 := fun lo hi => four_width b0 lo hi rest
  unfold ofCons bad
  repeat' split
  all_goals simp_all

/-- A rune read from a non-empty string takes at least one byte. -/
theorem width_pos (b : UInt8) (rest : Bytes) : 0 < (decode (b :: rest)).width :=
  (ofCons_width b rest).1

/-- A rune never takes more bytes than there are. -/
theorem width_le (s : Bytes) : (decode s).width ≤ s.length := by
  cases s with
  | nil => simp [decode]
  | cons b rest => simpa [decode] using (ofCons_width b rest).2

end Rune

namespace Utf8

/-- The UTF-8 bytes of a code point; one outside the scalar values is written as U+FFFD. -/
def encode (c : Nat) : Bytes :=
  if c < 0x80 then [c.toUInt8]
  else if c < 0x800 then [(0xC0 + c / 64).toUInt8, (0x80 + c % 64).toUInt8]
  else if (0xD800 ≤ c ∧ c < 0xE000) ∨ 0x110000 ≤ c then [0xEF, 0xBF, 0xBD]
  else if c < 0x10000 then
    [(0xE0 + c / 4096).toUInt8, (0x80 + c / 64 % 64).toUInt8, (0x80 + c % 64).toUInt8]
  else
    [(0xF0 + c / 262144).toUInt8, (0x80 + c / 4096 % 64).toUInt8,
      (0x80 + c / 64 % 64).toUInt8, (0x80 + c % 64).toUInt8]

/-- The runes of a byte string, in order, each with the bytes it was read from. -/
def runes (s : Bytes) : List (Rune × Bytes) :=
  match s with
  | [] => []
  | b :: rest =>
    let r := Rune.decode (b :: rest)
    (r, (b :: rest).take r.width) :: runes ((b :: rest).drop r.width)
termination_by s.length
decreasing_by
  have := Rune.width_pos b rest
  simp only [List.length_drop, List.length_cons]
  omega

/-- The code points of a byte string, one per rune. -/
def codePoints (s : Bytes) : List Nat := (runes s).map (·.1.code)

/-- Whether the string is well-formed UTF-8: no rune stands for a malformed byte. -/
def isValid (s : Bytes) : Bool := (runes s).all fun p => !p.1.isInvalid

def isAscii (s : Bytes) : Bool := s.all (· < 0x80)

end Utf8

end SyntaxShade
