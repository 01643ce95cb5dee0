import SyntaxShade.Yaml.Decode
import SyntaxShade.Files
/-! Loading grammar files from YAML text or from a file of a directory. -/
namespace SyntaxShade.GrammarFile

def parse (yaml : Bytes) : Except Error GrammarFile :=
  (Yaml.parseGrammarFile yaml).mapError .yaml

/-- Reads the grammar file at a path of a directory. -/
def load (fs : Files) (path : Bytes) : Except Error GrammarFile :=
  match fs.read path with
  | .error reason => .error (.readFile path reason)
  | .ok content => (parse content).mapError (.inFile path)

end SyntaxShade.GrammarFile
