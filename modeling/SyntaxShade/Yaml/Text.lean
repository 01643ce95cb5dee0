import SyntaxShade.Text.Utf8
/-! YAML text: the input decoded to characters, and refusals with their positions. -/
namespace SyntaxShade.Yaml

/-- A position: characters read, and the line and column, all from zero. -/
structure Mark where
  index : Nat := 0
  line : Nat := 0
  column : Nat := 0
  deriving Inhabited, Repr

/-- A refusal, with where it was found and where the construct being read began. -/
structure Problem where
  text : Bytes
  mark : Mark := {}
  context : Mark := {}
  scanning : Bool := false
  deriving Inhabited

/-- The line a refusal names, or zero for none. -/
def Problem.line (p : Problem) : Nat :=
  let shown (l : Nat) := if p.scanning then l + 1 else l
  if p.context.line != 0 then shown p.context.line
  else if p.mark.line != 0 then shown p.mark.line
  else 0

def Problem.message (p : Problem) : Bytes :=
  let line := p.line
  Bytes.ofString "yaml: " ++ (if line != 0 then Bytes.ofString s!"line {line}: " else []) ++ p.text

/-- A refusal with no position. -/
def Problem.plain (text : Bytes) : Problem := { text }

/-- Why a YAML document could not be read into a value. -/
inductive Failure where
  /-- The text is not YAML, or a value could not be decoded at all. -/
  | malformed (p : Problem)
  /-- Values of the wrong type, each with its line. -/
  | types (errors : List Bytes)
  deriving Inhabited

def Failure.message : Failure → Bytes
  | .malformed p => p.message
  | .types es => Bytes.ofString "yaml: unmarshal errors:\n  " ++ List.intercalate (Bytes.ofString "\n  ") es

/-- A blank: space or tab. -/
def isBlank (c : Nat) : Bool := c == 0x20 || c == 0x09

/-- A line break: carriage return, line feed, next line, line or paragraph separator. -/
def isBreak (c : Nat) : Bool := c == 0x0D || c == 0x0A || c == 0x85 || c == 0x2028 || c == 0x2029

/-- The end of the text, read as the character zero. -/
def isEnd (c : Nat) : Bool := c == 0

def isBreakOrEnd (c : Nat) : Bool := isBreak c || isEnd c

/-- A blank, a line break or the end. -/
def isSpaceOrEnd (c : Nat) : Bool := isBlank c || isBreakOrEnd c

def isDigit (c : Nat) : Bool := 0x30 ≤ c && c ≤ 0x39

/-- A character of an anchor or a tag handle: ASCII letters and digits, `_` and `-`. -/
def isWord (c : Nat) : Bool :=
  isDigit c || (0x41 ≤ c && c ≤ 0x5A) || (0x61 ≤ c && c ≤ 0x7A) || c == 0x5F || c == 0x2D

def hexValue? (c : Nat) : Option Nat :=
  if isDigit c then some (c - 0x30)
  else if 0x41 ≤ c && c ≤ 0x46 then some (c - 0x41 + 10)
  else if 0x61 ≤ c && c ≤ 0x66 then some (c - 0x61 + 10)
  else none

def isAllowed (c : Nat) : Bool :=
  c == 0x09 || c == 0x0A || c == 0x0D || (0x20 ≤ c && c ≤ 0x7E) || c == 0x85 ||
  (0xA0 ≤ c && c ≤ 0xD7FF) || (0xE000 ≤ c && c ≤ 0xFFFD) || (0x10000 ≤ c && c ≤ 0x10FFFF)

/-- Keeps a decoded character if YAML allows it. -/
def keepAllowed (c : Nat) (acc : Array Nat) : Except Problem (Array Nat) :=
  if isAllowed c then .ok (acc.push c) else .error (.plain (Bytes.ofString "control characters are not allowed"))

/-- The number of bytes a UTF-8 sequence has, by its first byte; zero for a byte that cannot
start one. -/
def utf8Width (b : Nat) : Nat :=
  if b &&& 0x80 == 0 then 1
  else if b &&& 0xE0 == 0xC0 then 2
  else if b &&& 0xF0 == 0xE0 then 3
  else if b &&& 0xF8 == 0xF0 then 4
  else 0

/-- Decodes UTF-8, checking each sequence's bytes, length and value. -/
def readUtf8 (fuel : Nat) (s : Bytes) (acc : Array Nat) : Except Problem (Array Nat) :=
  match fuel, s with
  | _, [] => .ok acc
  | 0, _ => .ok acc
  | fuel + 1, b :: rest =>
    let o := b.toNat
    let w := utf8Width o
    let fail (t : String) : Except Problem (Array Nat) := .error (.plain (Bytes.ofString t))
    if w == 0 then fail "invalid leading UTF-8 octet"
    else if w > rest.length + 1 then fail "incomplete UTF-8 octet sequence"
    else
      let tail := rest.take (w - 1)
      if tail.any (fun t => t.toNat &&& 0xC0 != 0x80) then fail "invalid trailing UTF-8 octet"
      else
        let lead := if w == 1 then o &&& 0x7F else if w == 2 then o &&& 0x1F
          else if w == 3 then o &&& 0x0F else o &&& 0x07
        let v := tail.foldl (fun v t => v * 64 + (t.toNat &&& 0x3F)) lead
        if !(w == 1 || (w == 2 && v ≥ 0x80) || (w == 3 && v ≥ 0x800) || (w == 4 && v ≥ 0x10000)) then
          fail "invalid length of a UTF-8 sequence"
        else if (0xD800 ≤ v && v ≤ 0xDFFF) || v > 0x10FFFF then fail "invalid Unicode character"
        else do
          let acc ← keepAllowed v acc
          readUtf8 fuel (rest.drop (w - 1)) acc

/-- Decodes UTF-16, low byte first when `little` holds, joining surrogate pairs. -/
def readUtf16 (little : Bool) (fuel : Nat) (s : Bytes) (acc : Array Nat) : Except Problem (Array Nat) :=
  let unit (a b : UInt8) : Nat := if little then a.toNat + b.toNat * 256 else b.toNat + a.toNat * 256
  let fail (t : String) : Except Problem (Array Nat) := .error (.plain (Bytes.ofString t))
  match fuel, s with
  | _, [] => .ok acc
  | 0, _ => .ok acc
  | _ + 1, [_] => fail "incomplete UTF-16 character"
  | fuel + 1, a :: b :: rest =>
    let v := unit a b
    if v &&& 0xFC00 == 0xDC00 then fail "unexpected low surrogate area"
    else if v &&& 0xFC00 == 0xD800 then
      match rest with
      | c :: d :: rest' =>
        let v2 := unit c d
        if v2 &&& 0xFC00 != 0xDC00 then fail "expected low surrogate area"
        else do
          let acc ← keepAllowed (0x10000 + ((v &&& 0x3FF) <<< 10) + (v2 &&& 0x3FF)) acc
          readUtf16 little fuel rest' acc
      | _ => fail "incomplete UTF-16 surrogate pair"
    else do
      let acc ← keepAllowed v acc
      readUtf16 little fuel rest acc

def decodeText (input : Bytes) : Except Problem (Array Nat) :=
  let input := if input.isEmpty then [0x0A] else input
  match input with
  | 0xFF :: 0xFE :: rest => readUtf16 true rest.length rest #[]
  | 0xFE :: 0xFF :: rest => readUtf16 false rest.length rest #[]
  | 0xEF :: 0xBB :: 0xBF :: rest => readUtf8 rest.length rest #[]
  | _ => readUtf8 input.length input #[]

end SyntaxShade.Yaml
