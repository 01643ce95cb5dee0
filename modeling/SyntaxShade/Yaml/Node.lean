import SyntaxShade.Yaml.Parse
import SyntaxShade.Yaml.Resolve
/-! The first document of a YAML stream as a graph of numbered, tagged nodes. -/
namespace SyntaxShade.Yaml

/-- The kinds of nodes. -/
inductive Kind where
  | document
  | sequence
  | mapping
  | scalar
  | alias
  deriving BEq, DecidableEq, Inhabited, Repr

/-- A node of a document graph. -/
structure Node where
  kind : Kind
  tag : Bytes := []
  /-- The text of a scalar, or the anchor an alias names. -/
  value : Bytes := []
  style : Style := .plain
  line : Nat := 0
  content : List Nat := []
  /-- The node an alias stands for. -/
  target : Nat := 0
  deriving Inhabited

/-- What is known while a document is composed. -/
structure Composer where
  parser : Parser
  event : Option Event := none
  nodes : Array Node := #[]
  anchors : List (Bytes × Nat) := []

namespace Composer

/-- The next event, read once and kept until it is consumed. -/
def peek (c : Composer) : Except Problem (Event × Composer) :=
  match c.event with
  | some e => .ok (e, c)
  | none => do
    let (e, p) ← c.parser.next
    match e with
    | some e => pure (e, { c with parser := p, event := some e })
    | none => throw (.plain (Bytes.ofString "attempted to parse unknown event (please report): none"))

def consume (c : Composer) : Composer := { c with event := none }

/-- Adds a node, giving it the anchor if there is one; answers its number. -/
def add (c : Composer) (n : Node) (anchor : Bytes) : Nat × Composer :=
  let id := c.nodes.size
  (id, { c with
    nodes := c.nodes.push n
    anchors := if anchor.isEmpty then c.anchors else (anchor, id) :: c.anchors })

/-- The tag of a node: the one written, else `fallback`, else for a scalar its resolved tag. -/
def tagOf (kind : Kind) (fallback tag text : Bytes) : Bytes :=
  if !tag.isEmpty && tag != [0x21] then shortTag tag
  else if !fallback.isEmpty then fallback
  else if kind == .scalar then plainTag text
  else []

mutual

/-- Reads one node and its children; none at the end of the stream. -/
def node : Nat → Composer → Except Problem (Option Nat × Composer)
  | 0, _ => .error (.plain (Bytes.ofString "document is too deep"))
  | fuel + 1, c => do
    let (e, c) ← c.peek
    match e with
    | .scalar anchor tag text style mark =>
      let fallback :=
        if style == .plain then (if text == Bytes.ofString "<<" then mergeTag else []) else strTag
      let n : Node := { kind := .scalar, tag := tagOf .scalar fallback tag text, value := text,
                        style, line := mark.line + 1 }
      let (id, c) := c.consume.add n anchor
      pure (some id, c)
    | .alias name mark =>
      match c.anchors.lookup name with
      | none => throw (.plain (Bytes.ofString "unknown anchor '" ++ name ++ Bytes.ofString "' referenced"))
      | some t =>
        let (id, c) := c.consume.add { kind := .alias, value := name, line := mark.line + 1, target := t } []
        pure (some id, c)
    | .sequenceStart anchor tag _ mark =>
      let (id, c) := c.consume.add { kind := .sequence, tag := tagOf .sequence seqTag tag [],
                                     line := mark.line + 1 } anchor
      let (kids, c) ← items fuel c
      pure (some id, { c.consume with nodes := c.nodes.modify id fun n => { n with content := kids } })
    | .mappingStart anchor tag _ mark =>
      let (id, c) := c.consume.add { kind := .mapping, tag := tagOf .mapping mapTag tag [],
                                     line := mark.line + 1 } anchor
      let (kids, c) ← items fuel c
      pure (some id, { c.consume with nodes := c.nodes.modify id fun n => { n with content := kids } })
    | .documentStart =>
      let (id, c) := c.consume.add { kind := .document } []
      let (kid, c) ← node fuel c
      let (_, c) ← c.peek
      pure (some id, { c.consume with nodes := c.nodes.modify id fun n => { n with content := kid.toList } })
    | .streamEnd => pure (none, c)
    | _ => throw (.plain (Bytes.ofString "attempted to parse unknown event (please report)"))

/-- Reads the children of a collection, up to its end event, which is left unread. -/
def items : Nat → Composer → Except Problem (List Nat × Composer)
  | 0, _ => .error (.plain (Bytes.ofString "document is too deep"))
  | fuel + 1, c => do
    let (e, c) ← c.peek
    match e with
    | .sequenceEnd | .mappingEnd => pure ([], c)
    | _ =>
      let (kid, c) ← node fuel c
      let (rest, c) ← items fuel c
      pure (kid.toList ++ rest, c)

end

end Composer

/-- The first document of a stream as its nodes and the number of its root, or none when the
stream has no document. -/
def compose (text : Array Nat) : Except Problem (Option (Nat × Array Node)) := do
  let c : Composer := { parser := Parser.ofText text }
  let (_, c) ← c.peek
  let c := c.consume
  let (root, c) ← Composer.node (4 * text.size + 16) c
  pure (root.map fun r => (r, c.nodes))

end SyntaxShade.Yaml
