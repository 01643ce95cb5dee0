import SyntaxShade.Text.Quoted
/-! Byte strings written as JSON strings that are safe to embed in HTML and in script text. -/
namespace SyntaxShade.JsonString

/-- A `\u` escape of a code point below 2^16, in lowercase hexadecimal. -/
def unicodeEscape (c : Nat) : Bytes := [0x5C, 0x75] ++ Quoted.hex 4 c

def escapeRune (r : Rune) (raw : Bytes) : Bytes :=
  let c := r.code
  if r.isInvalid then Utf8.encode Rune.replacement
  else if c == 0x22 then [0x5C, 0x22]
  else if c == 0x5C then [0x5C, 0x5C]
  else if c == 0x08 then [0x5C, 0x62]
  else if c == 0x0C then [0x5C, 0x66]
  else if c == 0x0A then [0x5C, 0x6E]
  else if c == 0x0D then [0x5C, 0x72]
  else if c == 0x09 then [0x5C, 0x74]
  else if c < 0x20 || c == 0x3C || c == 0x3E || c == 0x26 || c == 0x2028 || c == 0x2029 then
    unicodeEscape c
  else raw

/-- A byte string as a JSON string, in double quotes. -/
def quote (s : Bytes) : Bytes :=
  [0x22] ++ (Utf8.runes s).flatMap (fun (r, raw) => escapeRune r raw) ++ [0x22]

end SyntaxShade.JsonString
