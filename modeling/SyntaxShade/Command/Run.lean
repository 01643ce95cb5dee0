import SyntaxShade.Command.Options
import SyntaxShade.Command.Log
import SyntaxShade.Document
import SyntaxShade.Terminal
import SyntaxShade.GrammarFile.Load
import SyntaxShade.Yaml.Emit
import SyntaxShade.Text.JsonString
/-! A run of the command line: the help, the version, a built-in grammar file as YAML, or the code
highlighted in one of four formats. Refused options end with status 2, other refusals with 1. -/
namespace SyntaxShade.Command

def usage : Bytes := Bytes.ofString <| String.intercalate "\n"
  ["highlighter - A grammar driven syntax highlighter for code snippets",
   "",
   "Usage:",
   "  highlighter [options]",
   "",
   "Options:",
   "  -h, --help              Show this help message",
   "  -v, --version           Show version information",
   "  --input <file>          Input file (defaults to stdin)",
   "  --output <file>         Output file (defaults to stdout)",
   "  --grammar <name>        Built-in grammar to use: universal, shell or bash (default universal)",
   "  --grammar-file <file>   YAML grammar file, overrides --grammar",
   "  --format <format>       Output format: html, json, ansi or document (default html)",
   "  --theme <name>          Wrap html output in a themed <pre><code> block",
   "  --classify-only         Only classify characters, apply no region or grammar rules",
   "  --make-grammar          Print the YAML of the grammar selected by --grammar",
   "  --debug                 Log every rewriting step to stderr",
   "",
   "Examples:",
   "  highlighter --input main.py                            # HTML spans to stdout",
   "  highlighter --grammar shell --theme dark < cmd.sh      # Themed shell block",
   "  highlighter --format json --input main.py              # One JSON token per line",
   "  highlighter --format ansi --input main.py              # Coloured terminal preview",
   "  highlighter --format document --input notes.md         # Highlight code blocks of a markdown file",
   "  highlighter --make-grammar > universal.yaml            # Start a custom grammar",
   "  highlighter --grammar-file universal.yaml --input x.ts # Use a custom grammar",
   ""]

def versionText : Bytes := Bytes.ofString "highlighter version 0.1.0\n"

/-- What a run is given: its arguments, its standard input and the files of its directory. -/
structure Invocation where
  args : List Bytes
  stdin : Bytes := []
  files : Files := {}

/-- What a run leaves: its exit status, what it wrote on its two streams, and the files. -/
structure Run where
  exit : Nat
  stdout : Bytes := []
  stderr : Bytes := []
  files : Files

def errorLine (parts : List Bytes) : Bytes := parts.flatten ++ [0x0A]

/-- The log of compiling the built-in grammars. -/
def builtinLog : Bytes := compiledLine Builtin.shellGrammar ++ compiledLine Builtin.universalGrammar

/-- The language to highlight with, the registry that code blocks are looked up in, and the
log of compiling a grammar file; or the text of the refusal. -/
def choose (o : Options) (fs : Files) : Except Bytes (Language × Registry × Bytes) :=
  let r := Registry.builtin
  if o.grammarFile.isEmpty then
    match r.lookup o.grammar with
    | .ok l => .ok (l, r, [])
    | .error e =>
      .error (e.message ++ Bytes.ofString " (known grammars: " ++
        List.intercalate (Bytes.ofString ", ") r.names ++ Bytes.ofString ")")
  else
    match GrammarFile.load fs o.grammarFile >>= GrammarFile.compile with
    | .ok l => .ok (l, r.register l.grammar.name l, compiledLine l.grammar)
    | .error e => .error e.message

def tokenLine (t : Token) : Bytes :=
  Bytes.ofString "\x7b\"text\":" ++ JsonString.quote t.text ++ Bytes.ofString ",\"lexema\":" ++
    JsonString.quote (Bytes.ofString t.lexeme.code) ++ Bytes.ofString "\x7d\n"

/-- The log of highlighting a document's code blocks and command lines, in order. -/
def documentLog (r : Registry) (doc : Bytes) : Bytes :=
  (Document.split r (doc.splitOn 0x0A) 0).2.flatMap fun j =>
    match r.find? j.grammar with
    | some l => highlightLines l.grammar j.code
    | none => []

/-- The code written in the asked format, and the log of highlighting it; or the text of the
refusal. Terminal text is coloured when `toStdout` holds. -/
def render (o : Options) (lang : Language) (r : Registry) (code : Bytes) (toStdout : Bool) :
    Except Bytes (Bytes × Bytes) :=
  let applyRules := !o.classifyOnly
  let tokens := (lang.grammar.tokenize code applyRules).tokens
  let log := if applyRules then highlightLines lang.grammar code else []
  if o.format == Bytes.ofString "html" then
    let markup := lang.markup.render tokens
    .ok ((if o.theme.isEmpty then markup else wrap markup o.theme) ++ [0x0A], log)
  else if o.format == Bytes.ofString "ansi" then .ok (terminal toStdout tokens, log)
  else if o.format == Bytes.ofString "json" then .ok (tokens.flatMap tokenLine, log)
  else if o.format == Bytes.ofString "document" then
    match Document.highlight r o.theme false code with
    | .ok out => .ok (out, documentLog r code)
    | .error e => .error e.message
  else .error (Bytes.ofString "unknown format '" ++ o.format ++ Bytes.ofString "'")

/-- Highlights as the options ask, the log so far on the error stream when debugging. -/
def highlight (o : Options) (stdin : Bytes) (fs : Files) : Run :=
  let logged (log : Bytes) : Bytes := if o.debug then log else []
  match choose o fs with
  | .error msg => { exit := 1, stderr := logged builtinLog ++ errorLine [Bytes.ofString "Error: ", msg], files := fs }
  | .ok (lang, r, compiled) =>
    let log := logged (builtinLog ++ compiled)
    match (if o.input.isEmpty then .ok stdin else fs.read o.input : Except Bytes Bytes) with
    | .error reason =>
      { exit := 1, files := fs,
        stderr := log ++ errorLine [Bytes.ofString "Error reading file '", o.input, Bytes.ofString "': ", reason] }
    | .ok code =>
      match (if o.output.isEmpty then .ok fs else fs.create o.output : Except Bytes Files) with
      | .error reason =>
        { exit := 1, files := fs,
          stderr := log ++ errorLine [Bytes.ofString "Error creating output file '", o.output,
            Bytes.ofString "': ", reason] }
      | .ok fs =>
        match render o lang r code o.output.isEmpty with
        | .error msg => { exit := 1, stderr := log ++ errorLine [Bytes.ofString "Error: ", msg], files := fs }
        | .ok (text, more) =>
          if o.output.isEmpty then { exit := 0, stdout := text, stderr := log ++ logged more, files := fs }
          else { exit := 0, stderr := log ++ logged more, files := fs.append o.output text }

def run (inv : Invocation) : Run :=
  let fs := inv.files
  match Options.parse {} inv.args with
  | .error e => { exit := 2, stderr := errorLine [e.message] ++ usage, files := fs }
  | .ok o =>
    if o.help then { exit := 0, stderr := usage, files := fs }
    else if o.version then { exit := 0, stdout := versionText, files := fs }
    else if o.makeGrammar then
      match GrammarFile.builtin? o.grammar with
      | .ok f => { exit := 0, stdout := f.toYaml, files := fs }
      | .error e => { exit := 1, stderr := errorLine [Bytes.ofString "Error generating grammar: ", e.message], files := fs }
    else if !o.rest.isEmpty then
      { exit := 1, files := fs,
        stderr := Bytes.ofString "Error: Unexpected positional arguments. Use --input and --output flags instead.\n\n" ++
          usage }
    else highlight o inv.stdin fs

/-- The files a run with these arguments reads, and whether it reads its standard input. -/
def reads (args : List Bytes) : List Bytes × Bool :=
  match Options.parse {} args with
  | .error _ => ([], false)
  | .ok o =>
    if o.help || o.version || o.makeGrammar || !o.rest.isEmpty then ([], false)
    else ([o.grammarFile, o.input].filter (!·.isEmpty), o.input.isEmpty)

end SyntaxShade.Command
