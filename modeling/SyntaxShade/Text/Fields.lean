import SyntaxShade.Text.Utf8
/-! Splitting text into fields at runs of Unicode white space. Fields are never empty. -/
namespace SyntaxShade.Fields

/-- Unicode white space. -/
def isSpace (c : Nat) : Bool :=
  (0x09 ≤ c && c ≤ 0x0D) || c == 0x20 || c == 0x85 || c == 0xA0 || c == 0x1680 ||
    (0x2000 ≤ c && c ≤ 0x200A) || c == 0x2028 || c == 0x2029 || c == 0x202F || c == 0x205F ||
    c == 0x3000

/-- The fields of a text, in order, given the runes still to read and the field begun so far,
last byte first. -/
def collect : List (Rune × Bytes) → Bytes → List Bytes
  | [], cur => if cur = [] then [] else [cur.reverse]
  | (r, raw) :: rs, cur =>
    if !r.isInvalid && isSpace r.code then
      if cur = [] then collect rs [] else cur.reverse :: collect rs []
    else collect rs (raw.reverse ++ cur)

def split (s : Bytes) : List Bytes := collect (Utf8.runes s) []

end SyntaxShade.Fields
