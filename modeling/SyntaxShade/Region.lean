import SyntaxShade.Lexeme
import SyntaxShade.Text.Quoted
/-! Region rules `CLASS(OPENER)(CLOSER)`: a region runs from its opener to the first closer that no
odd run of backslashes inside it escapes, or to the end of the text. -/
namespace SyntaxShade

/-- The offset of the first occurrence of `pat` in `s`. -/
def Bytes.indexOf? (s pat : Bytes) : Option Nat :=
  if pat.isPrefixOf s then some 0
  else
    match s with
    | [] => none
    | _ :: t => (Bytes.indexOf? t pat).map (· + 1)

/-- A region rule: its source text, the lexeme of its regions and its two delimiters. -/
structure Region where
  source : Bytes
  lexeme : Lexeme
  opener : Bytes
  closer : Bytes
  opener_ne : opener ≠ []
  closer_ne : closer ≠ []

namespace Region

/-- Why a region rule was refused. -/
inductive Error where
  /-- The rule is not shaped `CLASS(OPENER)(CLOSER)`. -/
  | shape (rule : Bytes)
  /-- The class is not a lexeme code. -/
  | unknownLexeme (rule code : Bytes)
  /-- A delimiter is empty. -/
  | emptyDelimiter (rule : Bytes)
  deriving Repr, BEq

def Error.message : Error → Bytes
  | .shape rule => Bytes.ofString "invalid multiline rule: " ++ Quoted.quote rule
  | .unknownLexeme rule code =>
    Bytes.ofString "invalid multiline rule " ++ Quoted.quote rule ++
      Bytes.ofString ": unknown lexema: " ++ Quoted.quote code
  | .emptyDelimiter rule =>
    Bytes.ofString "invalid multiline rule " ++ Quoted.quote rule ++ Bytes.ofString ": empty delimiter"

/-- Upper-case ASCII letters and the underscore, the bytes of a class code. -/
def isCodeByte (b : UInt8) : Bool := (0x41 ≤ b && b ≤ 0x5A) || b == 0x5F

/-- The position of the last `)(` in a text, if any. -/
def lastJoint? (s : Bytes) : Option Nat :=
  (List.range s.length).reverse.find? fun i => (s.drop i).take 2 == [0x29, 0x28]

/-- Cuts a rule into its class code and its two delimiters, or none when it is not shaped
`CLASS(OPENER)(CLOSER)`. -/
def split? (rule : Bytes) : Option (Bytes × Bytes × Bytes) :=
  let code := rule.takeWhile isCodeByte
  match rule.drop code.length with
  | 0x28 :: body =>
    if code = [] then none
    else if body.getLast? = some 0x29 then
      let inner := body.dropLast
      match lastJoint? inner with
      | some i => some (code, inner.take i, inner.drop (i + 2))
      | none => none
    else none
  | _ => none

def parse (rule : Bytes) : Except Error Region :=
  match split? rule with
  | none => .error (.shape rule)
  | some (code, opener, closer) =>
    match Lexeme.ofCode? code with
    | none => .error (.unknownLexeme rule code)
    | some l =>
      if h₁ : opener = [] then .error (.emptyDelimiter rule)
      else if h₂ : closer = [] then .error (.emptyDelimiter rule)
      else .ok ⟨rule, l, opener, closer, h₁, h₂⟩

/-- The backslashes that stand right before offset `idx` of `s`, at offsets `window` or later. -/
def backslashesBefore (s : Bytes) (window : Nat) : Nat → Nat
  | 0 => 0
  | i + 1 => if window ≤ i ∧ s[i]? = some 0x5C then backslashesBefore s window i + 1 else 0

/-- An odd run of backslashes inside the window stands right before offset `idx`. -/
def escaped (s : Bytes) (window idx : Nat) : Bool := backslashesBefore s window idx % 2 == 1

/-- The offset of the first closer at or after `window` that is not escaped. The search finds the
next closer from `search` on and, when that one is escaped, searches again from the byte after it. -/
def indexOfTo (r : Region) (s : Bytes) (window : Nat) : Option Nat :=
  loop window
where
  /-- The search from offset `search` on. -/
  loop (search : Nat) : Option Nat :=
    if search ≤ s.length then
      match Bytes.indexOf? (s.drop search) r.closer with
      | none => none
      | some k => if escaped s window (search + k) then loop (search + k + 1) else some (search + k)
    else none
  termination_by s.length + 1 - search

/-- The offset just past the region that opens at offset `pos` of `s`: past its closer, or the end
of the text when no closer ends it. -/
def endAt (r : Region) (s : Bytes) (pos : Nat) : Nat :=
  match r.indexOfTo s (pos + r.opener.length) with
  | some idx => idx + r.closer.length
  | none => s.length

/-- The length of the region that a text opens with, the opener included. -/
def span (r : Region) (s : Bytes) : Nat := r.endAt s 0

/-- The first rule, in order, whose opener starts the text. -/
def first? (rs : List Region) (s : Bytes) : Option Region :=
  rs.find? fun r => r.opener.isPrefixOf s

theorem span_pos (r : Region) (b : UInt8) (t : Bytes) : 0 < r.span (b :: t) := by
  have : 0 < r.closer.length := List.length_pos_iff.mpr r.closer_ne
  unfold span endAt
  split
  · omega
  · simp

end Region

end SyntaxShade
