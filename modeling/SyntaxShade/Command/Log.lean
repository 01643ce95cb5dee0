import SyntaxShade.Grammar
/-! The debug log: a `level=debug msg=M` line for each compiled grammar and each snapshot of the
tokens, with its fields as `key=value`, keys sorted and values quoted unless plain. -/
namespace SyntaxShade.Command

/-- Whether a log value is written without quotes. -/
def isBare (s : Bytes) : Bool :=
  s.all fun c =>
    (0x61 ≤ c && c ≤ 0x7A) || (0x41 ≤ c && c ≤ 0x5A) || (0x30 ≤ c && c ≤ 0x39) ||
      c == 0x2D || c == 0x2E || c == 0x5F || c == 0x2F || c == 0x40 || c == 0x5E || c == 0x2B

/-- A log field, its value quoted unless it is bare. -/
def logField (key : String) (value : Bytes) : Bytes :=
  Bytes.ofString key ++ [0x3D] ++ if isBare value then value else Quoted.quote value

/-- A debug line with its message and fields. -/
def debugLine (msg : Bytes) (fields : List (String × Bytes)) : Bytes :=
  Bytes.ofString "level=debug " ++ logField "msg" msg ++
    fields.flatMap (fun (k, v) => [0x20] ++ logField k v) ++ [0x0A]

def decimal (n : Nat) : Bytes := Bytes.ofString (toString n)

/-- The line for a compiled grammar: its name and how many region and token rules it has. -/
def compiledLine (g : Grammar) : Bytes :=
  debugLine (Bytes.ofString "compiled grammar")
    [("grammar", g.name), ("multiline", decimal g.regions.length), ("rules", decimal g.rules.length)]

/-- A token list as a snapshot shows it. -/
def dumpTokens (ts : List Token) : Bytes :=
  let count := if ts.isEmpty then [] else
    Bytes.ofString "(len=" ++ decimal ts.length ++ Bytes.ofString " cap=" ++ decimal ts.length ++
      Bytes.ofString ") "
  let items := ts.map fun t => Bytes.ofString " (highlight.Token) " ++ t.describe
  Bytes.ofString "([]highlight.Token) " ++ count ++ Bytes.ofString "\x7b\n" ++
    List.intercalate (Bytes.ofString ",\n") items ++ (if ts.isEmpty then [] else [0x0A]) ++
    Bytes.ofString "\x7d\n"

/-- The line for a snapshot of a grammar's tokens. -/
def snapshotLine (g : Grammar) (s : Grammar.Snapshot) : Bytes :=
  debugLine (Bytes.ofString "grammar " ++ g.name ++ Bytes.ofString " after " ++ s.1 ++
    Bytes.ofString ": " ++ dumpTokens s.2) []

/-- The lines for highlighting code with a grammar's rules. -/
def highlightLines (g : Grammar) (code : Bytes) : Bytes :=
  (g.snapshots code).flatMap (snapshotLine g)

end SyntaxShade.Command
