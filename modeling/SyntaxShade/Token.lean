import SyntaxShade.Lexeme
import SyntaxShade.Text.Quoted
/-! Tokens, spans of text with one lexeme, and the coalescing of neighbours that share one. -/
namespace SyntaxShade

/-- A span of source text and its lexeme. -/
structure Token where
  text : Bytes
  lexeme : Lexeme
  deriving Repr, BEq, DecidableEq, Inhabited

namespace Token

/-- How a token is shown: its lexeme's long name and its quoted text, as in `Keyword("class")`. -/
def describe (t : Token) : Bytes :=
  Bytes.ofString t.lexeme.name ++ [0x28] ++ Quoted.quote t.text ++ [0x29]

/-- The texts of a token list, joined: the input it was cut from. -/
def join (ts : List Token) : Bytes := ts.flatMap Token.text

/-- A token list shown as its tokens separated by single spaces. -/
def describeAll (ts : List Token) : Bytes := List.intercalate [0x20] (ts.map describe)

/-- Joins each run of neighbouring tokens that share a lexeme into one token, whose text is
the run's texts in order. -/
def coalesce : List Token → List Token
  | [] => []
  | t :: ts =>
    match coalesce ts with
    | u :: us => if t.lexeme = u.lexeme then ⟨t.text ++ u.text, t.lexeme⟩ :: us else t :: u :: us
    | [] => [t]

/-- Coalescing keeps the text. -/
theorem join_coalesce (ts : List Token) : join (coalesce ts) = join ts := by
  induction ts with
  | nil => rfl
  | cons t ts ih =>
    unfold coalesce
    split
    · rename_i u us h
      rw [h] at ih
      split <;> simp_all [join]
    · rename_i h
      rw [h] at ih
      simp_all [join]

end Token

end SyntaxShade
