import SyntaxShade.Registry
import SyntaxShade.Error
/-! Grammar files: a language's name, rules and markup classes by lexeme code. Compiling checks the
markup keys, then the region rules, then the token rules, before it builds anything. -/
namespace SyntaxShade

/-- A language as a grammar file describes it. -/
structure GrammarFile where
  name : Bytes := []
  regions : List Bytes := []
  rules : List Bytes := []
  /-- Markup classes by lexeme code. -/
  classes : List (Bytes × Bytes) := []
  fallback : Bytes := []
  /-- The classes are a mapping: no code appears twice. -/
  classes_nodup : (classes.map Prod.fst).Nodup := by decide

namespace GrammarFile

def sortedClasses (f : GrammarFile) : List (Bytes × Bytes) :=
  f.classes.mergeSort fun a b => decide (a.1 ≤ b.1)

/-- The name a file compiles under. -/
def compiledName (f : GrammarFile) : Bytes := if f.name = [] then Bytes.ofString "custom" else f.name

/-- Reads the markup classes, in code order, refusing the first code that names no lexeme. -/
def readClasses (name : Bytes) : List (Bytes × Bytes) → Except Error (List (Lexeme × Bytes))
  | [] => .ok []
  | (code, cls) :: rest =>
    match Lexeme.ofCode? code with
    | none => .error (.markupKey name code)
    | some l => (readClasses name rest).map ((l, cls) :: ·)

def compile (f : GrammarFile) : Except Error Language := do
  let name := f.compiledName
  let classes ← readClasses name f.sortedClasses
  let g ← (Grammar.build name f.regions f.rules).mapError (Error.inGrammar name)
  pure ⟨g, ⟨classes, f.fallback⟩⟩

/-- The file of a built-in language, by its exact name; `bash` is the shell language. -/
def builtin? (name : Bytes) : Except Error GrammarFile :=
  let classesOf (m : Markup) := m.classes.map fun (l, c) => (Bytes.ofString l.code, c)
  if name = Bytes.ofString Builtin.universalName then
    .ok ⟨name, Builtin.universalRegions.map Bytes.ofString, Builtin.universalRules.map Bytes.ofString,
      classesOf Builtin.universalMarkup, Builtin.universalMarkup.fallback, by decide +kernel⟩
  else if name = Bytes.ofString Builtin.shellName ∨ name = Bytes.ofString "bash" then
    .ok ⟨Bytes.ofString Builtin.shellName, Builtin.shellRegions.map Bytes.ofString,
      Builtin.shellRules.map Bytes.ofString, classesOf Builtin.shellMarkup, Builtin.shellMarkup.fallback,
      by decide +kernel⟩
  else .error (.unknownGrammar name)

end GrammarFile

end SyntaxShade
