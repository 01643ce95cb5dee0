import SyntaxShade.Text.Utf8
import SyntaxShade.Unicode.Lowercase
/-! Lowering text rune by rune with the simple lowercase mapping; ASCII text only in `A`–`Z`. -/
namespace SyntaxShade

def Bytes.toLower (s : Bytes) : Bytes :=
  if Utf8.isAscii s then s.map fun b => if 0x41 ≤ b ∧ b ≤ 0x5A then b + 32 else b
  else (Utf8.runes s).flatMap fun p => Utf8.encode (Unicode.toLower p.1.code)

end SyntaxShade
