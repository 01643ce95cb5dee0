import SyntaxShade.Token
/-! Tokens written for a terminal, each lexeme with a colour wrapped in its ANSI escape. -/
namespace SyntaxShade

/-- The ANSI foreground colour of a lexeme, if it has one. -/
def Lexeme.color? : Lexeme → Option String
  | .number => some "35"
  | .decorator => some "35"
  | .operator => some "90"
  | .comment => some "90"
  | .string => some "32"
  | .keyword => some "34"
  | .keytype => some "36"
  | .function => some "36"
  | .className => some "33"
  | .tag => some "31"
  | _ => none

/-- The terminal text of a token list; `enabled` turns the colours on. -/
def terminal (enabled : Bool) (ts : List Token) : Bytes :=
  ts.flatMap fun t =>
    if t.text = [] ∨ t.lexeme = .empty then []
    else
      match t.lexeme.color? with
      | some n =>
        if enabled then Bytes.ofString ("\x1b[" ++ n ++ "m") ++ t.text ++ Bytes.ofString "\x1b[0m"
        else t.text
      | none => t.text

end SyntaxShade
