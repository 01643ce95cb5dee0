import SyntaxShade.Text.Utf8
/-! Resolving the tag of a plain YAML scalar from its text, and checking explicit tags. -/
namespace SyntaxShade.Yaml

def standardPrefix : Bytes := Bytes.ofString "tag:yaml.org,2002:"

/-- A tag in its short form: the standard prefix becomes `!!`. -/
def shortTag (t : Bytes) : Bytes :=
  if standardPrefix.isPrefixOf t then Bytes.ofString "!!" ++ t.drop standardPrefix.length else t

/-- The standard tags in their short form. -/
def nullTag : Bytes := Bytes.ofString "!!null"
def boolTag : Bytes := Bytes.ofString "!!bool"
def strTag : Bytes := Bytes.ofString "!!str"
def intTag : Bytes := Bytes.ofString "!!int"
def floatTag : Bytes := Bytes.ofString "!!float"
def timestampTag : Bytes := Bytes.ofString "!!timestamp"
def seqTag : Bytes := Bytes.ofString "!!seq"
def mapTag : Bytes := Bytes.ofString "!!map"
def binaryTag : Bytes := Bytes.ofString "!!binary"
def mergeTag : Bytes := Bytes.ofString "!!merge"

/-- The texts whose tag is fixed. -/
def knownTexts : List (String × Bytes) :=
  [("true", boolTag), ("True", boolTag), ("TRUE", boolTag),
   ("false", boolTag), ("False", boolTag), ("FALSE", boolTag),
   ("", nullTag), ("~", nullTag), ("null", nullTag), ("Null", nullTag), ("NULL", nullTag),
   (".nan", floatTag), (".NaN", floatTag), (".NAN", floatTag),
   (".inf", floatTag), (".Inf", floatTag), (".INF", floatTag),
   ("+.inf", floatTag), ("+.Inf", floatTag), ("+.INF", floatTag),
   ("-.inf", floatTag), ("-.Inf", floatTag), ("-.INF", floatTag), ("<<", mergeTag)]

def knownTag? (s : Bytes) : Option Bytes :=
  (knownTexts.find? fun (t, _) => Bytes.ofString t == s).map (·.2)

/-- What the first character says a text may be: `S` a signed number, `D` a number, `M` a
known text, `.` a float, and `0` nothing but a string. -/
def hint (s : Bytes) : Char :=
  match s with
  | [] => 'N'
  | c :: _ =>
    if c == 0x2B || c == 0x2D then 'S'
    else if 0x30 ≤ c && c ≤ 0x39 then 'D'
    else if (Bytes.ofString "yYnNtTfFoO~").contains c then 'M'
    else if c == 0x2E then '.'
    else '0'

/-- The value of a digit in bases up to 36. -/
def digitValue (c : UInt8) : Option Nat :=
  if 0x30 ≤ c && c ≤ 0x39 then some (c.toNat - 0x30)
  else if 0x61 ≤ c && c ≤ 0x7A then some (c.toNat - 0x61 + 10)
  else if 0x41 ≤ c && c ≤ 0x5A then some (c.toNat - 0x41 + 10)
  else none

/-- The value of digits in a base; none if a digit is out of the base. -/
def digitsValue (base : Nat) (s : Bytes) : Option Nat :=
  s.foldlM (fun acc c => (digitValue c).bind fun d => if d < base then some (acc * base + d) else none) 0

/-- An unsigned integer of 64 bits. With base zero a prefix picks the base: `0b`, `0o`, `0x`,
or a leading zero for octal. -/
def parseUnsigned (s : Bytes) (base : Nat) : Option Nat :=
  let lower (c : UInt8) : UInt8 := if 0x41 ≤ c && c ≤ 0x5A then c + 0x20 else c
  let (base, digits, emptyOk) : Nat × Bytes × Bool :=
    if base != 0 then (base, s, false)
    else match s with
      | 0x30 :: b :: c :: rest =>
        if lower b == 0x62 then (2, c :: rest, false)
        else if lower b == 0x6F then (8, c :: rest, false)
        else if lower b == 0x78 then (16, c :: rest, false)
        else (8, b :: c :: rest, true)
      | 0x30 :: rest => (8, rest, true)
      | _ => (10, s, false)
  if s.isEmpty || (digits.isEmpty && !emptyOk) then none
  else (digitsValue base digits).filter (· < Nat.pow 2 64)

/-- A signed integer of 64 bits, with an optional sign before what `parseUnsigned` reads. -/
def parseSigned (s : Bytes) (base : Nat) : Option Int :=
  match s with
  | 0x2D :: rest => (parseUnsigned rest base).bind fun n =>
      if n ≤ Nat.pow 2 63 then some (-(n : Int)) else none
  | 0x2B :: rest => (parseUnsigned rest base).bind fun n =>
      if n < Nat.pow 2 63 then some (n : Int) else none
  | _ => (parseUnsigned s base).bind fun n => if n < Nat.pow 2 63 then some (n : Int) else none

/-- Whether underscores in a number only stand between digits. -/
def underscoresOk (s : Bytes) : Bool :=
  let step (saw : Char) (c : UInt8) : Option Char :=
    if 0x30 ≤ c && c ≤ 0x39 then some '0'
    else if c == 0x5F then (if saw == '0' then some '_' else none)
    else if saw == '_' then none else some '!'
  match s.foldlM step '^' with
  | some saw => saw != '_'
  | none => false

def spanDigits (s : Bytes) : Bytes × Bytes :=
  (s.takeWhile fun c => 0x30 ≤ c && c ≤ 0x39, s.dropWhile fun c => 0x30 ≤ c && c ≤ 0x39)

/-- The digits and power of ten of a float in YAML form. -/
def floatParts (s : Bytes) : Nat × Int :=
  let s := match s with
    | 0x2B :: rest | 0x2D :: rest => rest
    | _ => s
  let (whole, rest) := spanDigits s
  let (frac, rest) := match rest with
    | 0x2E :: r => spanDigits r
    | _ => ([], rest)
  let e : Int := match rest with
    | _ :: 0x2D :: d => -((digitsValue 10 d).getD 0 : Int)
    | _ :: 0x2B :: d => (digitsValue 10 d).getD 0
    | _ :: d => (digitsValue 10 d).getD 0
    | [] => 0
  ((digitsValue 10 (whole ++ frac)).getD 0, e - frac.length)

/-- Whether a decimal float rounds past the largest double: at least 2^1024 - 2^970. -/
def overflows (m : Nat) (e : Int) : Bool :=
  let limit := Nat.pow 2 1024 - Nat.pow 2 970
  let digits := (toString m).length
  if m == 0 then false
  else if e + digits > 310 then true
  else if e + digits < 300 then false
  else if e ≥ 0 then m * Nat.pow 10 e.toNat ≥ limit
  else m ≥ limit * Nat.pow 10 (-e).toNat

/-- The YAML form of a float: a sign, then a point and digits or digits with an optional
point and digits, then an optional exponent. -/
def yamlFloatForm (s : Bytes) : Bool :=
  let s := match s with
    | 0x2B :: rest | 0x2D :: rest => rest
    | _ => s
  let (whole, rest) := spanDigits s
  let rest? : Option Bytes :=
    if whole.isEmpty then
      match rest with
      | 0x2E :: r => let (f, r) := spanDigits r; if f.isEmpty then none else some r
      | _ => none
    else match rest with
      | 0x2E :: r => some (spanDigits r).2
      | _ => some rest
  match rest? with
  | some [] => true
  | some (e :: r) =>
    (e == 0x65 || e == 0x45) &&
      let r := match r with
        | 0x2B :: r | 0x2D :: r => r
        | _ => r
      !r.isEmpty && r.all fun c => 0x30 ≤ c && c ≤ 0x39
  | none => false

/-- Whether text is a float that reads without overflow. -/
def readsAsFloat (s : Bytes) : Bool :=
  yamlFloatForm s && let (m, e) := floatParts s; !overflows m e

def daysIn (month year : Nat) : Nat :=
  if month == 2 then
    if (year % 4 == 0 && year % 100 != 0) || year % 400 == 0 then 29 else 28
  else if month == 4 || month == 6 || month == 9 || month == 11 then 30 else 31

/-- One or two digits from the front, or exactly two when `fixed`. -/
def number? (s : Bytes) (fixed : Bool) : Option (Nat × Bytes) :=
  let isD (c : UInt8) := 0x30 ≤ c && c ≤ 0x39
  match s with
  | a :: b :: rest => if !isD a then none
      else if isD b then some ((a.toNat - 0x30) * 10 + (b.toNat - 0x30), rest)
      else if fixed then none else some (a.toNat - 0x30, b :: rest)
  | [a] => if isD a && !fixed then some (a.toNat - 0x30, []) else none
  | [] => none

/-- Expects a literal text at the front. -/
def literal? (lit : String) (s : Bytes) : Option Bytes :=
  let l := Bytes.ofString lit
  if l.isPrefixOf s then some (s.drop l.length) else none

/-- A date `YYYY-M-D`, with what follows it. -/
def date? (s : Bytes) : Option (Nat × Nat × Nat × Bytes) := do
  let year ← digitsValue 10 (s.take 4)
  let s ← literal? "-" (s.drop 4)
  let (month, s) ← number? s false
  let s ← literal? "-" s
  let (day, s) ← number? s false
  pure (year, month, day, s)

/-- The time of day `h:m:s` with an optional fraction of a second, with what follows it. -/
def time? (s : Bytes) : Option (Nat × Nat × Nat × Bytes) := do
  let (hour, s) ← number? s false
  let s ← literal? ":" s
  let (minute, s) ← number? s false
  let s ← literal? ":" s
  let (second, s) ← number? s false
  let s := match s with
    | c :: d :: rest =>
      if (c == 0x2E || c == 0x2C) && 0x30 ≤ d && d ≤ 0x39 then (spanDigits (d :: rest)).2 else s
    | _ => s
  pure (hour, minute, second, s)

/-- A zone: `Z`, or a sign and `hh:mm`. -/
def zone? (s : Bytes) : Option (Bytes × Bool) :=
  match s with
  | 0x5A :: rest => some (rest, true)
  | sign :: h1 :: h2 :: colon :: m1 :: m2 :: rest =>
    if colon != 0x3A || !(sign == 0x2B || sign == 0x2D) then none
    else match number? [h1, h2] true, number? [m1, m2] true with
      | some (h, _), some (m, _) => if h > 24 || m > 60 then none else some (rest, true)
      | _, _ => none
  | _ => none

/-- Whether text is a timestamp: a date alone, or a date and time separated by `T`, `t` or a
space, with a zone after `T` or `t`. -/
def isTimestamp (s : Bytes) : Bool :=
  let lead := (s.takeWhile fun c => 0x30 ≤ c && c ≤ 0x39).length
  if lead != 4 || (s.drop 4).head? != some 0x2D then false
  else
    match date? s with
    | none => false
    | some (year, month, day, rest) =>
      let dateOk := 1 ≤ month && month ≤ 12 && 1 ≤ day && day ≤ daysIn month year
      let timeOk (r : Bytes) (zoned : Bool) : Bool :=
        match time? r with
        | some (h, m, sec, r) =>
          h < 24 && m < 60 && sec < 60 &&
            (if zoned then (match zone? r with | some (z, _) => z.isEmpty | none => false) else r.isEmpty)
        | none => false
      dateOk && match rest with
        | [] => true
        | c :: r => if c == 0x54 || c == 0x74 then timeOk r true else if c == 0x20 then timeOk r false else false

/-- The tag text resolves to, trying the kinds allowed under the explicit `tag`. -/
def resolvePlain (tag s : Bytes) : Bytes :=
  let h := hint s
  if h == '0' || tag == strTag || tag == binaryTag then strTag
  else match knownTag? s with
    | some t => t
    | none =>
      if h == '.' then
        if underscoresOk s && readsAsFloat (s.filter (· != 0x5F)) then floatTag else strTag
      else if h == 'D' || h == 'S' then
        let plain := s.filter (· != 0x5F)
        let isInt (t : Bytes) (base : Nat) := (parseSigned t base).isSome || (parseUnsigned t base).isSome
        if (tag.isEmpty || tag == timestampTag) && isTimestamp s then timestampTag
        else if (parseSigned plain 0).isSome || (parseUnsigned plain 0).isSome then intTag
        else if yamlFloatForm plain && readsAsFloat plain then floatTag
        else if (Bytes.ofString "0b").isPrefixOf plain && isInt (plain.drop 2) 2 then intTag
        else if (Bytes.ofString "-0b").isPrefixOf plain && (parseSigned (0x2D :: plain.drop 3) 2).isSome then intTag
        else if (Bytes.ofString "0o").isPrefixOf plain && isInt (plain.drop 2) 8 then intTag
        else if (Bytes.ofString "-0o").isPrefixOf plain && (parseSigned (0x2D :: plain.drop 3) 8).isSome then intTag
        else strTag
      else strTag

/-- The tags that resolution applies to. -/
def resolvable (tag : Bytes) : Bool :=
  tag.isEmpty || tag == strTag || tag == boolTag || tag == intTag || tag == floatTag ||
    tag == timestampTag || tag == nullTag

/-- The tag of a scalar with `tag` and text `s`, and whether it is null; refused when the text
cannot have that tag. -/
def resolve (tag s : Bytes) : Except Bytes (Bytes × Bool) :=
  let tag := shortTag tag
  if !resolvable tag then .ok (tag, false)
  else
    let r := resolvePlain tag s
    if tag.isEmpty || tag == r || tag == strTag || tag == binaryTag then .ok (r, r == nullTag)
    else if tag == floatTag && r == intTag then .ok (floatTag, false)
    else .error (Bytes.ofString "cannot decode " ++ r ++ Bytes.ofString " `" ++ s ++
      Bytes.ofString "` as a " ++ tag)

/-- The tag of a plain scalar with no tag. -/
def plainTag (s : Bytes) : Bytes := resolvePlain [] s

end SyntaxShade.Yaml
