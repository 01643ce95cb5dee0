import SyntaxShade.Token
/-! HTML markup: each token escaped and wrapped in a span of its lexeme's class or the fallback
class, and themed blocks in `pre` and `code` elements. -/
namespace SyntaxShade

/-- Replaces `&` by `&amp;` and `<` by `&lt;`. -/
def escapeHtml (s : Bytes) : Bytes :=
  s.flatMap fun b =>
    if b = 0x26 then Bytes.ofString "&amp;"
    else if b = 0x3C then Bytes.ofString "&lt;"
    else [b]

/-- Replaces `&`, `<` and `"` by their entities, for text inside an attribute. -/
def escapeAttribute (s : Bytes) : Bytes :=
  s.flatMap fun b =>
    if b = 0x26 then Bytes.ofString "&amp;"
    else if b = 0x3C then Bytes.ofString "&lt;"
    else if b = 0x22 then Bytes.ofString "&quot;"
    else [b]

/-- The CSS classes given to lexemes, and the class of every lexeme without one. -/
structure Markup where
  classes : List (Lexeme × Bytes)
  fallback : Bytes := []

namespace Markup

/-- The class of a lexeme: its own, none for a bare line break, else the fallback. -/
def classOf (m : Markup) (l : Lexeme) : Option Bytes :=
  match m.classes.lookup l with
  | some c => some c
  | none => if l = .lineBreak then none else some m.fallback

def renderToken (m : Markup) (t : Token) : Bytes :=
  if t.text = [] ∨ t.lexeme = .empty then []
  else
    let text := escapeHtml t.text
    match m.classOf t.lexeme with
    | some c =>
      if c = [] then text
      else Bytes.ofString "<span class=\"" ++ c ++ Bytes.ofString "\">" ++ text ++ Bytes.ofString "</span>"
    | none => text

def render (m : Markup) (ts : List Token) : Bytes := ts.flatMap m.renderToken

end Markup

/-- Markup inside the themed code block of a document. -/
def wrap (markup theme : Bytes) : Bytes :=
  let t := escapeAttribute theme
  Bytes.ofString "<pre class=\"code-" ++ t ++ Bytes.ofString "\"><code class=\"md-" ++ t ++
    Bytes.ofString "\">" ++ markup ++ Bytes.ofString "</code></pre>"

end SyntaxShade
