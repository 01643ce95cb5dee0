import SyntaxShade.Text.Utf8
/-! Refusals of regular expressions: a cause and the piece of the expression that shows it. -/
namespace SyntaxShade.Pattern

/-- Why a regular expression was refused. -/
inductive ErrorCode where
  | internal
  | invalidCharClass
  | invalidCharRange
  | invalidEscape
  | invalidNamedCapture
  | invalidPerlOp
  | invalidRepeatOp
  | invalidRepeatSize
  | invalidUtf8
  | missingBracket
  | missingParen
  | missingRepeatArgument
  | trailingBackslash
  | unexpectedParen
  | nestingDepth
  | tooLarge
  deriving Repr, BEq, DecidableEq

def ErrorCode.text : ErrorCode → String
  | .internal => "regexp/syntax: internal error"
  | .invalidCharClass => "invalid character class"
  | .invalidCharRange => "invalid character class range"
  | .invalidEscape => "invalid escape sequence"
  | .invalidNamedCapture => "invalid named capture"
  | .invalidPerlOp => "invalid or unsupported Perl syntax"
  | .invalidRepeatOp => "invalid nested repetition operator"
  | .invalidRepeatSize => "invalid repeat count"
  | .invalidUtf8 => "invalid UTF-8"
  | .missingBracket => "missing closing ]"
  | .missingParen => "missing closing )"
  | .missingRepeatArgument => "missing argument to repetition operator"
  | .trailingBackslash => "trailing backslash at end of expression"
  | .unexpectedParen => "unexpected )"
  | .nestingDepth => "expression nests too deeply"
  | .tooLarge => "expression too large"

/-- A refusal: its cause and the piece of the expression it is about. -/
structure Error where
  code : ErrorCode
  expr : Bytes
  deriving Repr, BEq

def Error.message (e : Error) : Bytes :=
  Bytes.ofString ("error parsing regexp: " ++ e.code.text ++ ": `") ++ e.expr ++ Bytes.ofString "`"

end SyntaxShade.Pattern
