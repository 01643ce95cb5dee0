import SyntaxShade.Yaml.Scan
/-! The YAML parser: a state machine that reads tokens and produces events. -/
namespace SyntaxShade.Yaml

/-- What the parser produces. -/
inductive Event where
  | streamStart
  | streamEnd
  | documentStart
  | documentEnd
  | alias (name : Bytes) (mark : Mark)
  | scalar (anchor tag text : Bytes) (style : Style) (mark : Mark)
  | sequenceStart (anchor tag : Bytes) (flow : Bool) (mark : Mark)
  | sequenceEnd
  | mappingStart (anchor tag : Bytes) (flow : Bool) (mark : Mark)
  | mappingEnd
  deriving Inhabited

/-- The parser's states: what it expects next. -/
inductive Phase where
  | streamStart
  | implicitDocumentStart
  | documentStart
  | documentContent
  | documentEnd
  | blockNode
  | blockNodeOrIndentlessSequence
  | flowNode
  | blockSequenceFirstEntry
  | blockSequenceEntry
  | indentlessSequenceEntry
  | blockMappingFirstKey
  | blockMappingKey
  | blockMappingValue
  | flowSequenceFirstEntry
  | flowSequenceEntry
  | flowSequenceEntryMappingKey
  | flowSequenceEntryMappingValue
  | flowSequenceEntryMappingEnd
  | flowMappingFirstKey
  | flowMappingKey
  | flowMappingValue
  | flowMappingEmptyValue
  | finished
  deriving Inhabited, BEq

/-- The parser's state. -/
structure Parser where
  scanner : Scanner
  phase : Phase := .streamStart
  phases : List Phase := []
  marks : List Mark := []
  directives : List (Bytes × Bytes) := []
  available : Bool := false
  ended : Bool := false
  deriving Inhabited

/-- The tag handles every document knows. -/
def defaultDirectives : List (Bytes × Bytes) :=
  [(Bytes.ofString "!", Bytes.ofString "!"), (Bytes.ofString "!!", Bytes.ofString "tag:yaml.org,2002:")]

namespace Parser

def ofText (text : Array Nat) : Parser := { scanner := { text } }

/-- The next token, reading ahead as the scanner requires. -/
def peek (p : Parser) : Except Problem (Token × Parser) := do
  let p ← if p.available then pure p else do
    let sc ← p.scanner.fetchMore (p.scanner.text.size + 16)
    pure { p with scanner := sc, available := true }
  match p.scanner.tokens[p.scanner.parsed]? with
  | some t => pure (t, p)
  | none => pure (⟨.streamEnd, p.scanner.mark, p.scanner.mark⟩, p)

def skipToken (p : Parser) : Parser :=
  let ended := match p.scanner.tokens[p.scanner.parsed]? with
    | some t => t.kind == .streamEnd
    | none => false
  { p with available := false, ended, scanner := { p.scanner with parsed := p.scanner.parsed + 1 } }

/-- A refusal at `mark`. -/
def fail (mark : Mark) (text : String) : Problem := { text := Bytes.ofString text, mark }

/-- A refusal at `mark` inside the construct that began at `context`. -/
def failIn (context mark : Mark) (text : String) : Problem :=
  { text := Bytes.ofString text, mark, context }

/-- Returns to the state on top of the stack. -/
def pop (p : Parser) : Parser :=
  match p.phases with
  | q :: rest => { p with phase := q, phases := rest }
  | [] => p

/-- Reads a node, then goes on in `q`. -/
def returnTo (p : Parser) (q : Phase) : Parser := { p with phases := q :: p.phases }

/-- Forgets the mark of the innermost open collection. -/
def popMark (p : Parser) : Parser := { p with marks := p.marks.drop 1 }

def topMark (p : Parser) : Mark := p.marks.head?.getD {}

/-- An empty plain scalar at `mark`. -/
def empty (mark : Mark) : Event := .scalar [] [] [] .plain mark

/-- Adds a `%TAG` directive, refusing a handle already given unless `quiet`. -/
def addDirective (p : Parser) (handle pfx : Bytes) (quiet : Bool) (mark : Mark) :
    Except Problem Parser :=
  if p.directives.any (·.1 == handle) then
    if quiet then .ok p else .error (fail mark "found duplicate %TAG directive")
  else .ok { p with directives := p.directives ++ [(handle, pfx)] }

/-- Reads the directives before a document and adds the default tag handles. -/
def directivesLoop (fuel : Nat) (p : Parser) (version : Bool) : Except Problem Parser := do
  let (t, p) ← p.peek
  match fuel, t.kind with
  | fuel + 1, .versionDirective major minor =>
    if version then throw (fail t.start "found duplicate %YAML directive")
    if major != 1 || minor != 1 then throw (fail t.start "found incompatible YAML document")
    directivesLoop fuel p.skipToken true
  | fuel + 1, .tagDirective handle pfx =>
    let p ← p.addDirective handle pfx false t.start
    directivesLoop fuel p.skipToken version
  | _, _ =>
    defaultDirectives.foldlM (fun p (h, x) => p.addDirective h x true t.start) p

/-- Reads the start of a document, or the end of the stream. -/
def documentStart (p : Parser) (implicit : Bool) : Except Problem (Event × Parser) := do
  let (t, p) ← p.peek
  let rec ends : Nat → Parser → Except Problem (Token × Parser)
    | 0, p => p.peek
    | fuel + 1, p => do
      let (t, p) ← p.peek
      if t.kind == .documentEnd then ends fuel p.skipToken else pure (t, p)
  let (t, p) ← if implicit then pure (t, p) else ends (p.scanner.text.size + 2) p
  let isDirective := match t.kind with
    | .versionDirective _ _ | .tagDirective _ _ => true
    | _ => false
  if implicit && !isDirective && t.kind != .documentStart && t.kind != .streamEnd then do
    let p ← p.directivesLoop 0 false
    pure (.documentStart, { p with phases := .documentEnd :: p.phases, phase := .blockNode })
  else if t.kind != .streamEnd then do
    let p ← p.directivesLoop (p.scanner.text.size + 2) false
    let (t, p) ← p.peek
    if t.kind != .documentStart then throw (fail t.start "did not find expected <document start>")
    pure (.documentStart, { p.skipToken with phases := .documentEnd :: p.phases, phase := .documentContent })
  else pure (.streamEnd, { p.skipToken with phase := .finished })

/-- Reads the end of a document, explicit or not. -/
def documentEnd (p : Parser) : Except Problem (Event × Parser) := do
  let (t, p) ← p.peek
  let p := if t.kind == .documentEnd then p.skipToken else p
  pure (.documentEnd, { p with directives := [], phase := .documentStart })

/-- The tag a node's properties name, looking its handle up. -/
def resolveTag (p : Parser) (handle suffix : Bytes) (start mark : Mark) : Except Problem Bytes :=
  if handle.isEmpty then .ok suffix
  else match p.directives.lookup handle with
    | some pfx => if (pfx ++ suffix).isEmpty then .error (failIn start mark "found undefined tag handle")
        else .ok (pfx ++ suffix)
    | none => .error (failIn start mark "found undefined tag handle")

/-- A node with properties and no content is an empty scalar; one with neither is refused. -/
def nodeEmpty (p : Parser) (anchor tag : Bytes) (start : Mark) (t : Token) :
    Except Problem (Event × Parser) :=
  if !anchor.isEmpty || !tag.isEmpty then .ok (.scalar anchor tag [] .plain start, p.pop)
  else .error (failIn start t.start "did not find expected node content")

/-- The node after its properties. -/
def nodeRest (p : Parser) (block : Bool) (anchor tag : Bytes) (start : Mark) (t : Token) :
    Except Problem (Event × Parser) :=
  match t.kind with
  | .scalar text style => .ok (.scalar anchor tag text style start, p.pop.skipToken)
  | .flowSequenceStart => .ok (.sequenceStart anchor tag true start, { p with phase := .flowSequenceFirstEntry })
  | .flowMappingStart => .ok (.mappingStart anchor tag true start, { p with phase := .flowMappingFirstKey })
  | .blockSequenceStart =>
    if block then .ok (.sequenceStart anchor tag false start, { p with phase := .blockSequenceFirstEntry })
    else p.nodeEmpty anchor tag start t
  | .blockMappingStart =>
    if block then .ok (.mappingStart anchor tag false start, { p with phase := .blockMappingFirstKey })
    else p.nodeEmpty anchor tag start t
  | _ => p.nodeEmpty anchor tag start t

/-- Reads a node: an alias, or properties followed by a scalar, a collection start or
nothing. In a block, `indentless` lets a `-` at the key's column start a sequence. -/
def node (p : Parser) (block indentless : Bool) : Except Problem (Event × Parser) := do
  let (t, p) ← p.peek
  match t.kind with
  | .alias name => pure (.alias name t.start, p.pop.skipToken)
  | _ =>
    let start := t.start
    let (anchor, tag, p, t) ← match t.kind with
      | .anchor a => do
        let (t2, p) ← p.skipToken.peek
        match t2.kind with
        | .tag h s => do
          let (t3, p) ← p.skipToken.peek
          pure (a, some (h, s, t2.start), p, t3)
        | _ => pure (a, none, p, t2)
      | .tag h s => do
        let (t2, p) ← p.skipToken.peek
        match t2.kind with
        | .anchor a => do
          let (t3, p) ← p.skipToken.peek
          pure (a, some (h, s, t.start), p, t3)
        | _ => pure ([], some (h, s, t.start), p, t2)
      | _ => pure ([], none, p, t)
    let tag ← match tag with
      | some (h, s, mark) => p.resolveTag h s start mark
      | none => pure []
    match t.kind with
    | .blockEntry =>
      if indentless then pure (.sequenceStart anchor tag false start, { p with phase := .indentlessSequenceEntry })
      else p.nodeRest block anchor tag start t
    | _ => p.nodeRest block anchor tag start t

/-- Reads an entry of a block sequence, or its end. -/
def blockSequenceEntry (p : Parser) (first : Bool) : Except Problem (Event × Parser) := do
  let p ← if first then do
      let (t, p) ← p.peek
      pure { p.skipToken with marks := t.start :: p.marks }
    else pure p
  let (t, p) ← p.peek
  match t.kind with
  | .blockEntry => do
    let (t2, p) ← p.skipToken.peek
    match t2.kind with
    | .blockEntry | .blockEnd => pure (empty t.stop, { p with phase := .blockSequenceEntry })
    | _ => (p.returnTo .blockSequenceEntry).node true false
  | .blockEnd => pure (.sequenceEnd, p.pop.popMark.skipToken)
  | _ => throw (failIn p.topMark t.start "did not find expected '-' indicator")

/-- Reads an entry of a sequence written at its key's indentation, or its end. -/
def indentlessSequenceEntry (p : Parser) : Except Problem (Event × Parser) := do
  let (t, p) ← p.peek
  match t.kind with
  | .blockEntry => do
    let (t2, p) ← p.skipToken.peek
    match t2.kind with
    | .blockEntry | .key | .value | .blockEnd =>
      pure (empty t.stop, { p with phase := .indentlessSequenceEntry })
    | _ => (p.returnTo .indentlessSequenceEntry).node true false
  | _ => pure (.sequenceEnd, p.pop)

/-- Reads a key of a block mapping, or its end. -/
def blockMappingKey (p : Parser) (first : Bool) : Except Problem (Event × Parser) := do
  let p ← if first then do
      let (t, p) ← p.peek
      pure { p.skipToken with marks := t.start :: p.marks }
    else pure p
  let (t, p) ← p.peek
  match t.kind with
  | .key => do
    let (t2, p) ← p.skipToken.peek
    match t2.kind with
    | .key | .value | .blockEnd => pure (empty t.stop, { p with phase := .blockMappingValue })
    | _ => (p.returnTo .blockMappingValue).node true true
  | .blockEnd => pure (.mappingEnd, p.pop.popMark.skipToken)
  | _ => throw (failIn p.topMark t.start "did not find expected key")

/-- Reads a value of a block mapping; a missing value is empty. -/
def blockMappingValue (p : Parser) : Except Problem (Event × Parser) := do
  let (t, p) ← p.peek
  match t.kind with
  | .value => do
    let (t2, p) ← p.skipToken.peek
    match t2.kind with
    | .key | .value | .blockEnd => pure (empty t.stop, { p with phase := .blockMappingKey })
    | _ => (p.returnTo .blockMappingKey).node true true
  | _ => pure (empty t.start, { p with phase := .blockMappingKey })

/-- Reads an entry of a flow sequence, or its end. An entry `k: v` is a one-pair mapping. -/
def flowSequenceEntry (p : Parser) (first : Bool) : Except Problem (Event × Parser) := do
  let p ← if first then do
      let (t, p) ← p.peek
      pure { p.skipToken with marks := t.start :: p.marks }
    else pure p
  let (t, p) ← p.peek
  if t.kind == .flowSequenceEnd then pure (.sequenceEnd, p.pop.popMark.skipToken)
  else do
    let (t, p) ←
      if first then pure (t, p)
      else if t.kind == .flowEntry then p.skipToken.peek
      else throw (failIn p.topMark t.start "did not find expected ',' or ']'")
    match t.kind with
    | .key => pure (.mappingStart [] [] true t.start, { p.skipToken with phase := .flowSequenceEntryMappingKey })
    | .flowSequenceEnd => pure (.sequenceEnd, p.pop.popMark.skipToken)
    | _ => (p.returnTo .flowSequenceEntry).node false false

/-- Reads the key of a one-pair mapping in a flow sequence. -/
def flowSequenceEntryMappingKey (p : Parser) : Except Problem (Event × Parser) := do
  let (t, p) ← p.peek
  match t.kind with
  | .value | .flowEntry | .flowSequenceEnd =>
    pure (empty t.stop, { p.skipToken with phase := .flowSequenceEntryMappingValue })
  | _ => (p.returnTo .flowSequenceEntryMappingValue).node false false

/-- Reads the value of a one-pair mapping in a flow sequence. -/
def flowSequenceEntryMappingValue (p : Parser) : Except Problem (Event × Parser) := do
  let (t, p) ← p.peek
  match t.kind with
  | .value => do
    let (t2, p) ← p.skipToken.peek
    match t2.kind with
    | .flowEntry | .flowSequenceEnd => pure (empty t.start, { p with phase := .flowSequenceEntryMappingEnd })
    | _ => (p.returnTo .flowSequenceEntryMappingEnd).node false false
  | _ => pure (empty t.start, { p with phase := .flowSequenceEntryMappingEnd })

/-- Reads a key of a flow mapping, or its end. -/
def flowMappingKey (p : Parser) (first : Bool) : Except Problem (Event × Parser) := do
  let p ← if first then do
      let (t, p) ← p.peek
      pure { p.skipToken with marks := t.start :: p.marks }
    else pure p
  let (t, p) ← p.peek
  if t.kind == .flowMappingEnd then pure (.mappingEnd, p.pop.popMark.skipToken)
  else do
    let (t, p) ←
      if first then pure (t, p)
      else if t.kind == .flowEntry then p.skipToken.peek
      else throw (failIn p.topMark t.start "did not find expected ',' or '\x7d'")
    match t.kind with
    | .key => do
      let (t2, p) ← p.skipToken.peek
      match t2.kind with
      | .value | .flowEntry | .flowMappingEnd => pure (empty t2.start, { p with phase := .flowMappingValue })
      | _ => (p.returnTo .flowMappingValue).node false false
    | .flowMappingEnd => pure (.mappingEnd, p.pop.popMark.skipToken)
    | _ => (p.returnTo .flowMappingEmptyValue).node false false

/-- Reads a value of a flow mapping; a missing value is empty. -/
def flowMappingValue (p : Parser) (emptyValue : Bool) : Except Problem (Event × Parser) := do
  let (t, p) ← p.peek
  if emptyValue then pure (empty t.start, { p with phase := .flowMappingKey })
  else match t.kind with
    | .value => do
      let (t2, p) ← p.skipToken.peek
      match t2.kind with
      | .flowEntry | .flowMappingEnd => pure (empty t2.start, { p with phase := .flowMappingKey })
      | _ => (p.returnTo .flowMappingKey).node false false
    | _ => pure (empty t.start, { p with phase := .flowMappingKey })

/-- The next event, or none once the stream has ended. -/
def next (p : Parser) : Except Problem (Option Event × Parser) :=
  if p.ended || p.phase == .finished then .ok (none, p)
  else
    let step : Except Problem (Event × Parser) := match p.phase with
      | .streamStart => do
        let (t, p) ← p.peek
        if t.kind != .streamStart then throw (fail t.start "did not find expected <stream-start>")
        pure (.streamStart, { p.skipToken with phase := .implicitDocumentStart })
      | .implicitDocumentStart => p.documentStart true
      | .documentStart => p.documentStart false
      | .documentContent => do
        let (t, p) ← p.peek
        match t.kind with
        | .versionDirective _ _ | .tagDirective _ _ | .documentStart | .documentEnd | .streamEnd =>
          pure (empty t.start, p.pop)
        | _ => p.node true false
      | .documentEnd => p.documentEnd
      | .blockNode => p.node true false
      | .blockNodeOrIndentlessSequence => p.node true true
      | .flowNode => p.node false false
      | .blockSequenceFirstEntry => p.blockSequenceEntry true
      | .blockSequenceEntry => p.blockSequenceEntry false
      | .indentlessSequenceEntry => p.indentlessSequenceEntry
      | .blockMappingFirstKey => p.blockMappingKey true
      | .blockMappingKey => p.blockMappingKey false
      | .blockMappingValue => p.blockMappingValue
      | .flowSequenceFirstEntry => p.flowSequenceEntry true
      | .flowSequenceEntry => p.flowSequenceEntry false
      | .flowSequenceEntryMappingKey => p.flowSequenceEntryMappingKey
      | .flowSequenceEntryMappingValue => p.flowSequenceEntryMappingValue
      | .flowSequenceEntryMappingEnd => do
        let (_, p) ← p.peek
        pure (.mappingEnd, { p with phase := .flowSequenceEntry })
      | .flowMappingFirstKey => p.flowMappingKey true
      | .flowMappingKey => p.flowMappingKey false
      | .flowMappingValue => p.flowMappingValue false
      | .flowMappingEmptyValue => p.flowMappingValue true
      | .finished => .ok (.streamEnd, p)
    step.map fun (e, p) => (some e, p)

end Parser

end SyntaxShade.Yaml
