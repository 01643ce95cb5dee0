import SyntaxShade.Grammar
import SyntaxShade.Markup
/-! Languages: a grammar with its markup. Highlighting tokenizes with every rule and writes HTML. -/
namespace SyntaxShade

/-- A grammar and the markup of its tokens. -/
structure Language where
  grammar : Grammar
  markup : Markup

def Language.highlight (lang : Language) (code : Bytes) : Bytes :=
  lang.markup.render (lang.grammar.tokenize code true).tokens

end SyntaxShade
