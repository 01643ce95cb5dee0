import SyntaxShade.Language
/-! The two built-in languages: `universal`, for the strings, comments and common tokens of C-like,
Python-like and JavaScript-like code, and `shell`, for quoted shell words. -/
namespace SyntaxShade.Builtin

/-- The name of the general purpose language. -/
def universalName : String := "universal"

def shellName : String := "shell"

/-- Region rules of the general purpose language; longer openers first. -/
def universalRegions : List String :=
  ["STR(\"\"\")(\"\"\")", "STR(''')(''')", "CMT(/*)(*/)", "CMT(#)(\n)", "CMT(//)(\n)",
    "STR(\")(\")", "STR(')(')", "STR(`)(`)"]

/-- Token rules of the general purpose language; order matters. -/
def universalRules : List String :=
  [ -- decorators
    "O(^@$:D) ID(:D)",
    "D(:) O(^[.]$:) ID(:D)",
    -- keywords
    "ID(^(extends|default|implements|catch|switch|static|override|internal|void|null|protected|abstract|export|public|readonly|private|var|const|let|final|throws|throw|new|instanceof|and|as|assert|case|match|async|await|break|interface|class|continue|def|del|elif|else|except|finally|for|from|global|if|import|in|is|lambda|nonlocal|not|or|get|set|pass|raise|return|try|while|with|yield)$:KW)",
    -- standard types and constants
    "ID(^(object|void|null|undefined|self|this|dict|string|list|double|False|false|None|bool|int|str|enum|number|float|never|True|true)$:KT)",
    -- numbers with underscores
    "ID(^[_0-9]+$:N)",
    -- identifiers may contain digits
    "ID(:) N(:ID)",
    -- declared classes
    "KW(^(class|interface|new)$:) SPA(:) ID(:CLS)",
    -- calls and generics, but not closing tags
    "ID|KT|KW(:F) O(^[(<]([^/]|$):)",
    -- complex numbers
    "N(:) ID(^j$:N)",
    -- html tags
    "O(</?:) ID(:TAG)",
    -- hex numbers
    "N(^0$:) ID(^x:N)",
    -- string prefixes
    "ID(^[fbr]$:STR) STR(:)"]

/-- Region rules of the shell language: quoted words. -/
def shellRegions : List String := ["STR(\")(\")", "STR(')(')", "STR(`)(`)"]

/-- Token rules of the shell language: numbers only. -/
def shellRules : List String :=
  ["ID(^[_0-9]+$:N)", "ID(:) N(:ID)", "N(:) ID(^j$:N)", "N(^0$:) ID(^x:N)"]

/-- The classes of the general purpose language. -/
def universalMarkup : Markup :=
  ⟨[(.number, Bytes.ofString "num"), (.operator, Bytes.ofString "op"), (.string, Bytes.ofString "str"),
    (.comment, Bytes.ofString "cmt"), (.keyword, Bytes.ofString "kw"), (.keytype, Bytes.ofString "kt"),
    (.className, Bytes.ofString "cl"), (.function, Bytes.ofString "fn"),
    (.decorator, Bytes.ofString "dec"), (.tag, Bytes.ofString "tag")], []⟩

/-- The classes of the shell language: strings, operators and numbers, and `bash` for the rest. -/
def shellMarkup : Markup :=
  ⟨[(.number, Bytes.ofString "num"), (.operator, Bytes.ofString "op"), (.string, Bytes.ofString "str")],
    Bytes.ofString "bash"⟩

/-- Compiles a built-in grammar. Both tables build (`Builtin.universalGrammar_reads_tables`,
`Builtin.shellGrammar_reads_tables`), so the empty grammar of the error branch is never made. -/
def grammarOf (name : String) (regions rules : List String) : Grammar :=
  match Grammar.build (Bytes.ofString name) (regions.map Bytes.ofString) (rules.map Bytes.ofString) with
  | .ok g => g
  | .error _ => ⟨Bytes.ofString name, [], [], false⟩

def universalGrammar : Grammar := grammarOf universalName universalRegions universalRules

def shellGrammar : Grammar := grammarOf shellName shellRegions shellRules

def universal : Language := ⟨universalGrammar, universalMarkup⟩

def shell : Language := ⟨shellGrammar, shellMarkup⟩

end SyntaxShade.Builtin
