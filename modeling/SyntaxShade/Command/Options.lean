import SyntaxShade.Text.Quoted
/-! Command-line options, read up to the first argument that is not one, or to `--`. A later
setting replaces an earlier one, and a refusal names the first bad argument. -/
namespace SyntaxShade.Command

/-- What the options of a run ask for. -/
structure Options where
  help : Bool := false
  version : Bool := false
  classifyOnly : Bool := false
  makeGrammar : Bool := false
  debug : Bool := false
  input : Bytes := []
  output : Bytes := []
  grammar : Bytes := Bytes.ofString "universal"
  grammarFile : Bytes := []
  format : Bytes := Bytes.ofString "html"
  theme : Bytes := []
  /-- The arguments after the options. -/
  rest : List Bytes := []

/-- An option: a switch, or one that takes a value. -/
inductive Setting where
  | switch (set : Options → Bool → Options)
  | value (set : Options → Bytes → Options)

def settings : List (String × Setting) :=
  [("h", .switch fun o b => { o with help := b }),
   ("help", .switch fun o b => { o with help := b }),
   ("v", .switch fun o b => { o with version := b }),
   ("version", .switch fun o b => { o with version := b }),
   ("classify-only", .switch fun o b => { o with classifyOnly := b }),
   ("make-grammar", .switch fun o b => { o with makeGrammar := b }),
   ("debug", .switch fun o b => { o with debug := b }),
   ("input", .value fun o s => { o with input := s }),
   ("output", .value fun o s => { o with output := s }),
   ("grammar", .value fun o s => { o with grammar := s }),
   ("grammar-file", .value fun o s => { o with grammarFile := s }),
   ("format", .value fun o s => { o with format := s }),
   ("theme", .value fun o s => { o with theme := s })]

def setting? (name : Bytes) : Option Setting :=
  (settings.find? fun (n, _) => Bytes.ofString n == name).map (·.2)

/-- Why the options were refused. -/
inductive OptionError where
  /-- An argument that starts with dashes names no option. -/
  | badSyntax (arg : Bytes)
  | undefined (name : Bytes)
  | needsArgument (name : Bytes)
  | badSwitch (value name : Bytes)

def OptionError.message : OptionError → Bytes
  | .badSyntax arg => Bytes.ofString "bad flag syntax: " ++ arg
  | .undefined name => Bytes.ofString "flag provided but not defined: -" ++ name
  | .needsArgument name => Bytes.ofString "flag needs an argument: -" ++ name
  | .badSwitch value name =>
    Bytes.ofString "invalid boolean value " ++ Quoted.quote value ++ Bytes.ofString " for -" ++ name ++
      Bytes.ofString ": parse error"

/-- A truth value as the command line writes it. -/
def truth? (s : Bytes) : Option Bool :=
  if ["1", "t", "T", "TRUE", "true", "True"].any (Bytes.ofString · == s) then some true
  else if ["0", "f", "F", "FALSE", "false", "False"].any (Bytes.ofString · == s) then some false
  else none

/-- An option's name and, after the first `=` past its first character, its value. -/
def splitValue (name : Bytes) : Bytes × Option Bytes :=
  match name with
  | [] => ([], none)
  | c :: more =>
    match more.idxOf? 0x3D with
    | some i => (c :: more.take i, some (more.drop (i + 1)))
    | none => (name, none)

/-- Reads the options from the arguments, onto the settings so far. -/
def Options.parse (o : Options) (args : List Bytes) : Except OptionError Options :=
  match args with
  | [] => .ok o
  | arg :: rest =>
    match arg with
    | [0x2D, 0x2D] => .ok { o with rest := rest }
    | 0x2D :: c :: more =>
      let name := if c == 0x2D then more else c :: more
      match name with
      | [] | 0x2D :: _ | 0x3D :: _ => .error (.badSyntax arg)
      | _ =>
        let (name, given) := splitValue name
        match setting? name, given with
        | none, _ => .error (.undefined name)
        | some (.switch set), none => Options.parse (set o true) rest
        | some (.switch set), some v =>
          match truth? v with
          | some b => Options.parse (set o b) rest
          | none => .error (.badSwitch v name)
        | some (.value set), some v => Options.parse (set o v) rest
        | some (.value set), none =>
          match rest with
          | v :: rest' => Options.parse (set o v) rest'
          | [] => .error (.needsArgument name)
    | _ => .ok { o with rest := arg :: rest }
termination_by args.length
decreasing_by all_goals simp only [List.length_cons]; omega

end SyntaxShade.Command
