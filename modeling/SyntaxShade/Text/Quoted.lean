import SyntaxShade.Text.Utf8
import SyntaxShade.Unicode.Category
/-! Quoted text: printable runes as they are and escapes for the rest, so the result is valid
UTF-8 whatever the input was. -/
namespace SyntaxShade.Quoted

/-- The lower-case hex digit of a value below 16. -/
def hexDigit (n : Nat) : UInt8 :=
  if n < 10 then (48 + n).toUInt8 else (87 + n).toUInt8

/-- The last `k` hex digits of `n`, most significant first. -/
def hex (k n : Nat) : Bytes :=
  (List.range k).reverse.map fun i => hexDigit (n / Nat.pow 16 i % 16)

/-- The escape sequence of a rune that is not written as itself. -/
def escapeCode (c : Nat) : Bytes :=
  match c with
  | 7 => Bytes.ofString "\\a"
  | 8 => Bytes.ofString "\\b"
  | 12 => Bytes.ofString "\\f"
  | 10 => Bytes.ofString "\\n"
  | 13 => Bytes.ofString "\\r"
  | 9 => Bytes.ofString "\\t"
  | 11 => Bytes.ofString "\\v"
  | _ =>
    if c < 0x20 ∨ c = 0x7F then Bytes.ofString "\\x" ++ hex 2 c
    else if c < 0x10000 then Bytes.ofString "\\u" ++ hex 4 c
    else Bytes.ofString "\\U" ++ hex 8 c

/-- How one rune, read from the bytes `raw`, is written inside quotes. -/
def escapeRune (r : Rune) (raw : Bytes) : Bytes :=
  if r.isInvalid then Bytes.ofString "\\x" ++ hex 2 ((raw.headD 0).toNat)
  else if r.code = 0x22 ∨ r.code = 0x5C then 0x5C :: raw
  else if Unicode.isPrintable r.code then raw
  else escapeCode r.code

/-- The body of a quoted text, without the surrounding quotes. -/
def escape (s : Bytes) : Bytes :=
  (Utf8.runes s).flatMap fun p => escapeRune p.1 p.2

def quote (s : Bytes) : Bytes := 0x22 :: (escape s ++ [0x22])

end SyntaxShade.Quoted
