import SyntaxShade.Grammar
import SyntaxShade.Yaml.Text
/-! Every refusal of the library, with its text, its kind and the causes it carries. -/
namespace SyntaxShade

/-- The causes that callers tell apart. -/
inductive ErrorKind where
  | invalidRegionRule
  | invalidRule
  | invalidCondition
  | unknownLexeme
  | unknownGrammar
  | canceled
  | yamlType
  | yaml
  | other
  deriving Repr, BEq, DecidableEq

/-- A refusal. -/
inductive Error where
  /-- A grammar could not be compiled. -/
  | grammar (e : Grammar.Error)
  /-- A markup class of the named grammar is keyed by no lexeme code. -/
  | markupKey (grammar code : Bytes)
  /-- The named grammar could not be compiled. -/
  | inGrammar (name : Bytes) (e : Grammar.Error)
  /-- No language is registered under the name. -/
  | unknownGrammar (name : Bytes)
  /-- The work was cancelled before it ran. -/
  | canceled
  /-- The code names no lexeme. -/
  | unknownLexeme (code : Bytes)
  /-- A grammar file is not YAML of a grammar file. -/
  | yaml (f : Yaml.Failure)
  /-- A file could not be read, for the reason given. -/
  | readFile (path reason : Bytes)
  /-- The grammar file at the path was refused. -/
  | inFile (path : Bytes) (e : Error)

namespace Error

def message : Error → Bytes
  | .grammar e => e.message
  | .markupKey g code =>
    Bytes.ofString "markup for grammar " ++ g ++ Bytes.ofString ": unknown lexema: " ++ Quoted.quote code
  | .inGrammar name e => Bytes.ofString "grammar " ++ name ++ Bytes.ofString ": " ++ e.message
  | .unknownGrammar name => Bytes.ofString "unknown grammar: " ++ Quoted.quote name
  | .canceled => Bytes.ofString "context canceled"
  | .unknownLexeme code => Bytes.ofString "unknown lexema: " ++ Quoted.quote code
  | .yaml f => Bytes.ofString "failed to parse YAML: " ++ f.message
  | .readFile path reason =>
    Bytes.ofString "failed to read grammar file '" ++ path ++ Bytes.ofString "': " ++ reason
  | .inFile path e => Bytes.ofString "grammar file '" ++ path ++ Bytes.ofString "': " ++ e.message

end Error

def Region.Error.kind (_ : Region.Error) : ErrorKind := .invalidRegionRule

/-- The kind of a refused token rule, decided by its first refused step. -/
def Rule.Error.kind : Rule.Error → ErrorKind
  | .noSteps _ => .invalidRule
  | .step _ (.shape _) => .invalidRule
  | .step _ (.emptyClass _) => .invalidRule
  | .step _ (.unknownLexeme _) => .unknownLexeme
  | .step _ (.condition _ _) => .invalidCondition

def Grammar.Error.kind : Grammar.Error → ErrorKind
  | .region e => e.kind
  | .rule e => e.kind

def Error.kind : Error → ErrorKind
  | .grammar e => e.kind
  | .markupKey _ _ => .unknownLexeme
  | .inGrammar _ e => e.kind
  | .unknownGrammar _ => .unknownGrammar
  | .canceled => .canceled
  | .unknownLexeme _ => .unknownLexeme
  | .yaml (.types _) => .yamlType
  | .yaml (.malformed _) => .yaml
  | .readFile _ _ => .other
  | .inFile _ e => e.kind

/-- The causes that a refused region rule carries: each is of a region rule, and one for a class
that names no lexeme is also of an unknown lexeme. -/
def Region.Error.causes : Region.Error → List ErrorKind
  | .unknownLexeme _ _ => [.invalidRegionRule, .unknownLexeme]
  | _ => [.invalidRegionRule]

/-- The causes that a refused grammar carries; a refused token rule carries its kind alone. -/
def Grammar.Error.causes : Grammar.Error → List ErrorKind
  | .region e => e.causes
  | .rule e => [e.kind]

/-- Every cause that a refusal carries, for callers that test for one cause among several. A
refusal that carries causes has the first of them as its kind. -/
def Error.causes : Error → List ErrorKind
  | .grammar e => e.causes
  | .markupKey _ _ => [.unknownLexeme]
  | .inGrammar _ e => e.causes
  | .unknownGrammar _ => [.unknownGrammar]
  | .canceled => [.canceled]
  | .unknownLexeme _ => [.unknownLexeme]
  | .yaml (.types _) => [.yamlType]
  | .yaml (.malformed _) => []
  | .readFile _ _ => []
  | .inFile _ e => e.causes

end SyntaxShade
