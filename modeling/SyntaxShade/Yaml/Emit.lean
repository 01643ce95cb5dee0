import SyntaxShade.Yaml.Resolve
import SyntaxShade.Yaml.Scan
import SyntaxShade.GrammarFile
/-! Writing a grammar file as block YAML, each string plain when it reads back as itself and
otherwise a literal block or quoted. -/
namespace SyntaxShade.Yaml

/-- Whether a string is a YAML 1.1 boolean. -/
def isOldBool (s : Bytes) : Bool :=
  ["y", "Y", "yes", "Yes", "YES", "on", "On", "ON", "n", "N", "no", "No", "NO", "off", "Off", "OFF"].any
    fun t => Bytes.ofString t == s

/-- Whether a string is a sexagesimal number of YAML 1.1: digits, then groups of `:` and one or
two digits from 0 to 59, then an optional fraction. -/
def isBase60 (s : Bytes) : Bool :=
  let isD (c : UInt8) := 0x30 ≤ c && c ≤ 0x39
  let s := match s with
    | 0x2B :: rest | 0x2D :: rest => rest
    | _ => s
  match s with
  | c :: rest =>
    isD c &&
      let rest := rest.dropWhile fun c => isD c || c == 0x5F
      let rec groups : Nat → Bytes → Bool → Bool
        | 0, _, _ => false
        | fuel + 1, s, seen =>
          match s with
          | 0x3A :: a :: b :: r =>
            if isD a && isD b && a ≤ 0x35 then groups fuel r true
            else if isD a then groups fuel (b :: r) true
            else false
          | 0x3A :: a :: [] => isD a
          | 0x2E :: r => seen && r.all fun c => isD c || c == 0x5F
          | [] => seen
          | _ => false
      groups (rest.length + 1) rest false
  | [] => false

/-- Whether a character may be written as it is. -/
def isPrintable (c : Nat) : Bool :=
  c == 0x0A || (0x20 ≤ c && c ≤ 0x7E) || (0xA0 ≤ c && c ≤ 0xD7FF) ||
    (0xE000 ≤ c && c ≤ 0xFFFD && c != 0xFEFF)

/-- What the characters of a string allow: plain in a block, single-quoted, a literal block. -/
structure Allowed where
  plain : Bool
  single : Bool
  block : Bool

/-- What the characters of a string allow. -/
def analyze (s : Bytes) : Allowed :=
  let cs := (Utf8.runes s).map (·.1.code)
  if cs.isEmpty then ⟨true, true, false⟩
  else
    let n := cs.length
    let marker := (s.take 3 == Bytes.ofString "---" || s.take 3 == Bytes.ofString "...")
    let isBlankAt (i : Nat) : Bool := match cs[i]? with
      | some c => c == 0x20 || c == 0x09 || c == 0x0A || c == 0x0D || c == 0x85 || c == 0x2028 || c == 0x2029
      | none => true
    let isSp (c : Nat) := c == 0x20
    let isBr (c : Nat) := c == 0x0A || c == 0x0D || c == 0x85 || c == 0x2028 || c == 0x2029
    let indicators := (List.range n).any fun i =>
      let c := cs.getD i 0
      let followed := isBlankAt (i + 1)
      if i == 0 then
        (Bytes.ofString "#,[]\x7b\x7d&*!|>'\"%@`").contains c.toUInt8 && c < 0x80 ||
          ((c == 0x3F || c == 0x3A) && followed) || (c == 0x2D && followed)
      else (c == 0x3A && followed) || (c == 0x23 && i > 0 && isBlankAt (i - 1))
    let special := cs.any fun c => !isPrintable c
    let leadingSpace := isSp (cs.getD 0 0)
    let leadingBreak := isBr (cs.getD 0 0)
    let trailingSpace := isSp (cs.getD (n - 1) 0)
    let trailingBreak := isBr (cs.getD (n - 1) 0)
    let pairsOf := (cs.zip (cs.drop 1))
    let breakSpace := pairsOf.any fun (a, b) => isBr a && isSp b
    let spaceBreak := pairsOf.any fun (a, b) => isSp a && isBr b
    let lineBreaks := cs.any isBr
    let plain := !marker && !(leadingSpace || leadingBreak || trailingSpace || trailingBreak) &&
      !breakSpace && !spaceBreak && !special && !lineBreaks && !indicators
    let single := !breakSpace && !spaceBreak && !special
    let block := !trailingSpace && !spaceBreak && !special
    ⟨plain, single, block⟩

/-- The style a string is written in, as a key when `key` holds. -/
def styleOf (s : Bytes) (key : Bool) : Style :=
  let a := analyze s
  let canPlain := plainTag s == strTag && !isBase60 s && !isOldBool s
  let wanted := if s.contains 0x0A then Style.literal else if canPlain then .plain else .double
  match wanted with
  | .plain => if !a.plain || (s.isEmpty && key) then (if a.single then .single else .double) else .plain
  | .literal => if !a.block || key then .double else .literal
  | st => st

def upperHex (d : Nat) : UInt8 := if d < 10 then (0x30 + d).toUInt8 else (0x41 + d - 10).toUInt8

/-- The escape of a character in a double-quoted string, if it needs one: characters that may
not be written as they are, line breaks, the byte order mark, the quote and the backslash. -/
def escapeOf (c : Nat) : Option Bytes :=
  let hex (width v : Nat) : Bytes := (List.range width).reverse.map fun k => upperHex (v / Nat.pow 16 k % 16)
  let named : List (Nat × String) :=
    [(0, "0"), (7, "a"), (8, "b"), (9, "t"), (10, "n"), (11, "v"), (12, "f"), (13, "r"), (0x1B, "e"),
     (0x22, "\""), (0x5C, "\\"), (0x85, "N"), (0xA0, "_"), (0x2028, "L"), (0x2029, "P")]
  if !isPrintable c || c == 0xFEFF || isBreak c || c == 0x22 || c == 0x5C then
    some ([0x5C] ++ match named.lookup c with
      | some t => Bytes.ofString t
      | none =>
        if c ≤ 0xFF then [0x78] ++ hex 2 c
        else if c ≤ 0xFFFF then [0x75] ++ hex 4 c
        else [0x55] ++ hex 8 c)
  else none

def doubleQuoted (s : Bytes) : Bytes :=
  [0x22] ++ (Utf8.runes s).flatMap (fun (r, raw) => (escapeOf r.code).getD raw) ++ [0x22]

/-- A string in single quotes, a quote written twice. -/
def singleQuoted (s : Bytes) : Bytes :=
  [0x27] ++ s.flatMap (fun c => if c == 0x27 then [0x27, 0x27] else [c]) ++ [0x27]

/-- A literal block: its header with the chomping indicator, then its lines at `indent`,
empty lines left empty. -/
def literalBlock (s : Bytes) (indent : Nat) : Bytes :=
  let endsBreak := s.getLast? == some 0x0A
  let twoBreaks := endsBreak && s.dropLast.getLast? == some 0x0A
  let chomp := if !endsBreak then Bytes.ofString "-" else if twoBreaks || s.length == 1 then Bytes.ofString "+" else []
  let hintIndent := match s.head? with
    | some 0x20 | some 0x0A => Bytes.ofString "4"
    | _ => []
  let lines := s.splitOn 0x0A
  let lines := if endsBreak then lines.dropLast else lines
  let body := lines.flatMap fun l => [0x0A] ++ (if l.isEmpty then [] else List.replicate indent 0x20 ++ l)
  [0x7C] ++ hintIndent ++ chomp ++ body

/-- A string as written after a key or an item marker, a block's lines at `indent`. -/
def scalarText (s : Bytes) (indent : Nat) (key : Bool) : Bytes :=
  match styleOf s key with
  | .plain => s
  | .single => singleQuoted s
  | .literal => literalBlock s indent
  | _ => doubleQuoted s

/-- A key and its string value on one line. -/
def entry (indent : Nat) (key value : Bytes) : Bytes :=
  List.replicate indent 0x20 ++ scalarText key (indent + 4) true ++ Bytes.ofString ": " ++
    scalarText value (indent + 4) false ++ [0x0A]

def listEntry (indent : Nat) (key : String) (items : List Bytes) : Bytes :=
  List.replicate indent 0x20 ++ Bytes.ofString key ++ Bytes.ofString ":" ++
    if items.isEmpty then Bytes.ofString " []\n"
    else [0x0A] ++ items.flatMap fun item =>
      List.replicate (indent + 4) 0x20 ++ Bytes.ofString "- " ++ scalarText item (indent + 6) false ++ [0x0A]

end SyntaxShade.Yaml

namespace SyntaxShade.GrammarFile

open Yaml

def toYaml (f : GrammarFile) : Bytes :=
  entry 0 (Bytes.ofString "name") f.name ++
  listEntry 0 "multiline" f.regions ++
  listEntry 0 "rules" f.rules ++
  Bytes.ofString "markup:\n" ++
  Bytes.ofString "    classes:" ++
  (if f.classes.isEmpty then Bytes.ofString " \x7b\x7d\n"
   else [0x0A] ++ f.sortedClasses.flatMap fun (k, v) => entry 8 k v) ++
  (if f.fallback.isEmpty then [] else entry 4 (Bytes.ofString "fallback") f.fallback)

end SyntaxShade.GrammarFile
