import SyntaxShade.Text.Utf8
/-! Lexemes with their codes and names, and the coarse class of a single rune. -/
namespace SyntaxShade

/-- The classes of highlighted text. -/
inductive Lexeme where
  /-- Decimal runs, hex and complex literals. -/
  | number
  /-- Runs of operator symbols. -/
  | operator
  /-- Anything not otherwise classified. -/
  | identifier
  /-- Quoted regions and prefixed strings. -/
  | string
  /-- Markup tag names. -/
  | tag
  /-- Comment regions. -/
  | comment
  /-- Declared class names. -/
  | className
  /-- Runs of spaces. -/
  | space
  /-- Names followed by a call or a generic bracket. -/
  | function
  /-- Language keywords. -/
  | keyword
  /-- Built-in types and constants. -/
  | keytype
  /-- Decorators such as `@name`. -/
  | decorator
  /-- A line break. -/
  | lineBreak
  /-- The placeholder for empty input. -/
  | empty
  deriving Repr, BEq, DecidableEq, Inhabited

namespace Lexeme

/-- Every lexeme, in a fixed order. -/
def all : List Lexeme :=
  [number, operator, identifier, string, tag, comment, className, space, function, keyword,
    keytype, decorator, lineBreak, empty]

/-- The code of a lexeme in the rule languages. -/
def code : Lexeme → String
  | number => "N"
  | operator => "O"
  | identifier => "ID"
  | string => "STR"
  | tag => "TAG"
  | comment => "CMT"
  | className => "CLS"
  | space => "SPA"
  | function => "F"
  | keyword => "KW"
  | keytype => "KT"
  | decorator => "D"
  | lineBreak => "BR"
  | empty => ""

/-- The long name of a lexeme, used when tokens are shown. -/
def name : Lexeme → String
  | number => "Number"
  | operator => "Operator"
  | identifier => "Identifier"
  | string => "String"
  | tag => "Tag"
  | comment => "Comment"
  | className => "Class"
  | space => "Space"
  | function => "Function"
  | keyword => "Keyword"
  | keytype => "Keytype"
  | decorator => "Decorator"
  | lineBreak => "LineBreak"
  | empty => "Empty"

/-- The lexeme with a given code, if any. The empty code names `empty`. -/
def ofCode? (s : Bytes) : Option Lexeme := all.find? fun l => Bytes.ofString l.code == s

/-- The long name shown for a code: the lexeme's name, or `Lexema(code)` for an unknown code. -/
def nameOfCode (s : Bytes) : Bytes :=
  match ofCode? s with
  | some l => Bytes.ofString l.name
  | none => Bytes.ofString "Lexema(" ++ s ++ Bytes.ofString ")"

def operatorCodes : List Nat :=
  (Bytes.ofString "-+*=~$@^%&?!#|/()[]\x7b\x7d<>:;,.\"`'\\").map (·.toNat) ++ [0x2013, 0x2014]

/-- The coarse class of one rune. -/
def ofRune (c : Nat) : Lexeme :=
  if c = 0x20 then space
  else if c = 0x0A then lineBreak
  else if c ∈ operatorCodes then operator
  else if 0x30 ≤ c ∧ c ≤ 0x39 then number
  else identifier

end Lexeme

end SyntaxShade
