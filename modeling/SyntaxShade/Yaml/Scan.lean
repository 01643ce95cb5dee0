import SyntaxShade.Yaml.Text
/-! The YAML scanner: characters to tokens, with indentation and possible simple keys. -/
namespace SyntaxShade.Yaml

/-- How a scalar is written. -/
inductive Style where
  | plain
  | single
  | double
  | literal
  | folded
  deriving BEq, DecidableEq, Inhabited, Repr

/-- The kinds of tokens, with what they carry. -/
inductive TokenKind where
  | streamStart
  | streamEnd
  | versionDirective (major minor : Nat)
  | tagDirective (handle pfx : Bytes)
  | documentStart
  | documentEnd
  | blockSequenceStart
  | blockMappingStart
  | blockEnd
  | flowSequenceStart
  | flowSequenceEnd
  | flowMappingStart
  | flowMappingEnd
  | blockEntry
  | flowEntry
  | key
  | value
  | alias (name : Bytes)
  | anchor (name : Bytes)
  | tag (handle suffix : Bytes)
  | scalar (text : Bytes) (style : Style)
  deriving BEq, Inhabited

/-- A token and where it starts and stops. -/
structure Token where
  kind : TokenKind
  start : Mark
  stop : Mark
  deriving Inhabited

/-- A place where a key may have started. -/
structure SimpleKey where
  possible : Bool := false
  required : Bool := false
  number : Nat := 0
  mark : Mark := {}
  deriving Inhabited

/-- The scanner's state. -/
structure Scanner where
  text : Array Nat
  mark : Mark := {}
  /-- Line breaks read since the last character that is not a blank. -/
  newlines : Nat := 0
  started : Bool := false
  flowLevel : Nat := 0
  indent : Int := -1
  indents : List Int := []
  keyAllowed : Bool := false
  /-- One possible key per flow level, the innermost last. -/
  keys : Array SimpleKey := #[]
  /-- The possible keys by the number of their first token, with their level. -/
  byToken : List (Nat × Nat) := []
  tokens : Array Token := #[]
  parsed : Nat := 0
  deriving Inhabited

namespace Scanner

/-- The character `k` places ahead, or zero past the end. -/
def ahead (s : Scanner) (k : Nat) : Nat := s.text.getD (s.mark.index + k) 0

/-- The current character, or zero at the end. -/
def cur (s : Scanner) : Nat := s.ahead 0

/-- Steps over one character that is not a line break. -/
def skip (s : Scanner) : Scanner :=
  { s with
    mark := { s.mark with index := s.mark.index + 1, column := s.mark.column + 1 }
    newlines := if isBlank s.cur then s.newlines else 0 }

/-- Steps over a line break; a carriage return and line feed are one break. -/
def skipLine (s : Scanner) : Scanner :=
  if s.cur == 0x0D && s.ahead 1 == 0x0A then
    { s with mark := ⟨s.mark.index + 2, s.mark.line + 1, 0⟩, newlines := s.newlines + 1 }
  else if isBreak s.cur then
    { s with mark := ⟨s.mark.index + 1, s.mark.line + 1, 0⟩, newlines := s.newlines + 1 }
  else s

/-- Steps over one character, appending it. -/
def read (s : Scanner) (acc : Bytes) : Scanner × Bytes := (s.skip, acc ++ Utf8.encode s.cur)

/-- Steps over a line break, appending it: a line or paragraph separator as it is, any other
break as a line feed. -/
def readLine (s : Scanner) (acc : Bytes) : Scanner × Bytes :=
  let c := s.cur
  if c == 0x2028 || c == 0x2029 then (s.skipLine, acc ++ Utf8.encode c)
  else if isBreak c then (s.skipLine, acc ++ [0x0A])
  else (s, acc)

def skipWhile (p : Nat → Bool) (s : Scanner) : Scanner := go s.text.size s
where
  go : Nat → Scanner → Scanner
    | 0, s => s
    | fuel + 1, s => if p s.cur then go fuel s.skip else s

def readWhile (p : Nat → Bool) (s : Scanner) (acc : Bytes) : Scanner × Bytes := go s.text.size s acc
where
  go : Nat → Scanner → Bytes → Scanner × Bytes
    | 0, s, acc => (s, acc)
    | fuel + 1, s, acc => if p s.cur then (let r := s.read acc; go fuel r.1 r.2) else (s, acc)

/-- Steps over blanks and line breaks up to the character at `target`. -/
def advanceTo (target : Nat) (s : Scanner) : Scanner := go s.text.size s
where
  go : Nat → Scanner → Scanner
    | 0, s => s
    | fuel + 1, s =>
      if s.mark.index ≥ target then s
      else if isBreak s.cur then go fuel s.skipLine
      else go fuel s.skip

/-- Whether a document marker of three `c` followed by a blank starts here. -/
def documentMarker (s : Scanner) (c : Nat) : Bool :=
  s.cur == c && s.ahead 1 == c && s.ahead 2 == c && isSpaceOrEnd (s.ahead 3)

/-- A refusal found here, in a construct that began at `context`. -/
def fail (s : Scanner) (context : Mark) (text : String) : Problem :=
  { text := Bytes.ofString text, mark := s.mark, context, scanning := true }

def push (s : Scanner) (kind : TokenKind) (start stop : Mark) : Scanner :=
  { s with tokens := s.tokens.push ⟨kind, start, stop⟩ }

/-! ## Possible keys -/

/-- Forgets the possible key of the innermost level, refusing when it had to be a key. -/
def removeKey (s : Scanner) : Except Problem Scanner :=
  let i := s.keys.size - 1
  match s.keys[i]? with
  | some k =>
    if k.possible then
      if k.required then .error (s.fail k.mark "could not find expected ':'")
      else .ok { s with
        keys := s.keys.modify i fun k => { k with possible := false }
        byToken := s.byToken.filter (·.1 != k.number) }
    else .ok s
  | none => .ok s

/-- Remembers that a key may start at the next token, when keys are allowed here. -/
def saveKey (s : Scanner) : Except Problem Scanner :=
  if s.keyAllowed then do
    let key : SimpleKey :=
      ⟨true, s.flowLevel == 0 && s.indent == (s.mark.column : Int), s.tokens.size, s.mark⟩
    let s ← s.removeKey
    let i := s.keys.size - 1
    pure { s with
      keys := s.keys.modify i fun _ => key
      byToken := (key.number, i) :: s.byToken.filter (·.1 != key.number) }
  else .ok s

/-- Whether the possible key at level `i` still may be one; a key left behind on an earlier
line or too far back is dropped, or refused when it had to be a key. -/
def keyValid (s : Scanner) (i : Nat) : Except Problem (Bool × Scanner) :=
  match s.keys[i]? with
  | none => .ok (false, s)
  | some k =>
    if !k.possible then .ok (false, s)
    else if k.mark.line < s.mark.line || k.mark.index + 1024 < s.mark.index then
      if k.required then .error (s.fail k.mark "could not find expected ':'")
      else .ok (false, { s with keys := s.keys.modify i fun k => { k with possible := false } })
    else .ok (true, s)

def increaseFlow (s : Scanner) : Except Problem Scanner :=
  let s := { s with keys := s.keys.push { mark := s.mark }, flowLevel := s.flowLevel + 1 }
  if s.flowLevel > 10000 then .error (s.fail s.mark "exceeded max depth of 10000") else .ok s

def decreaseFlow (s : Scanner) : Scanner :=
  if s.flowLevel > 0 then
    { s with
      flowLevel := s.flowLevel - 1
      keys := s.keys.pop
      byToken := match s.keys.back? with
        | some k => s.byToken.filter (·.1 != k.number)
        | none => s.byToken }
  else s

/-! ## Indentation -/

/-- Opens a block at `column` when it is deeper than the current one, putting its start token
at `number`, or last. -/
def rollIndent (s : Scanner) (column : Nat) (number : Option Nat) (kind : TokenKind)
    (mark : Mark) : Except Problem Scanner :=
  if s.flowLevel > 0 then .ok s
  else if s.indent < (column : Int) then
    let s := { s with indents := s.indent :: s.indents, indent := column }
    if s.indents.length > 10000 then .error (s.fail s.mark "exceeded max depth of 10000")
    else
      let t : Token := ⟨kind, mark, mark⟩
      .ok (match number with
        | some n => { s with tokens := s.tokens.insertIdxIfInBounds n t }
        | none => { s with tokens := s.tokens.push t })
  else .ok s

/-- Closes the blocks deeper than `column`. -/
def unrollLoop (column : Int) (mark : Mark) : Int → List Int → Array Token → Int × List Int × Array Token
  | indent, top :: rest, tokens =>
    if indent > column then unrollLoop column mark top rest (tokens.push ⟨.blockEnd, mark, mark⟩)
    else (indent, top :: rest, tokens)
  | indent, [], tokens => (indent, [], tokens)

/-- Closes the blocks deeper than `column`, marking their ends just before `scanMark`. -/
def unrollIndent (s : Scanner) (column : Int) (scanMark : Mark) : Scanner :=
  if s.flowLevel > 0 then s
  else
    let (indent, indents, tokens) :=
      unrollLoop column { scanMark with index := scanMark.index - 1 } s.indent s.indents s.tokens
    { s with indent, indents, tokens }

/-! ## Comments and blanks -/

/-- Steps over a comment, up to its line break. -/
def skipComment (s : Scanner) : Scanner := s.skipWhile fun c => !isBreakOrEnd c

/-- The offset of a `#` that only blanks and line feeds or carriage returns separate from
here, looking at most 512 characters ahead. -/
def nextComment (s : Scanner) (k : Nat) : Option Nat := go (512 - k) k
where
  go : Nat → Nat → Option Nat
    | 0, _ => none
    | fuel + 1, k =>
      let c := s.ahead k
      if isBlank c || c == 0x0D || c == 0x0A then go fuel (k + 1)
      else if c == 0x23 then some k
      else none

/-- Steps over the comment lines that follow a comment. -/
def commentLines (fuel : Nat) (s : Scanner) : Scanner :=
  match fuel with
  | 0 => s
  | fuel + 1 =>
    if s.cur == 0x85 || s.cur == 0x2028 || s.cur == 0x2029 then s
    else match s.nextComment 1 with
      | some k => commentLines fuel (skipComment (s.advanceTo (s.mark.index + k)))
      | none => s

/-- Steps over a comment that follows a token on its line. -/
def lineComment (s : Scanner) : Scanner :=
  if s.newlines > 0 then s
  else
    let k := (List.range 512).find? fun k => !isBlank (s.ahead k)
    match k with
    | some k => if s.ahead k == 0x23 then skipComment (s.advanceTo (s.mark.index + k)) else s
    | none => s

/-- Steps over blanks, comments and line breaks to the next token. Tabs are skipped only in a
flow collection or where no key may start. -/
def toNextToken (fuel : Nat) (s : Scanner) : Scanner :=
  match fuel with
  | 0 => s
  | fuel + 1 =>
    let s := if s.mark.column == 0 && s.cur == 0xFEFF then s.skip else s
    let tabs := s.flowLevel > 0 || !s.keyAllowed
    let s := s.skipWhile fun c => c == 0x20 || (tabs && c == 0x09)
    let s := if s.cur == 0x23 then commentLines s.text.size (skipComment s) else s
    if isBreak s.cur then
      let s := s.skipLine
      toNextToken fuel (if s.flowLevel == 0 then { s with keyAllowed := true } else s)
    else s

/-! ## Directives -/

def directiveName (s : Scanner) (start : Mark) : Except Problem (Scanner × Bytes) :=
  let (s, name) := s.readWhile isWord []
  if name.isEmpty then .error (s.fail start "could not find expected directive name")
  else if !isSpaceOrEnd s.cur then .error (s.fail start "found unexpected non-alphabetical character")
  else .ok (s, name)

/-- Reads one number of a version, of at most two digits. -/
def versionNumber (s : Scanner) (start : Mark) : Except Problem (Scanner × Nat) :=
  let digits := (List.range 3).takeWhile fun k => isDigit (s.ahead k)
  if digits.length > 2 then .error ((s.skip.skip).fail start "found extremely long version number")
  else if digits.isEmpty then .error (s.fail start "did not find expected version number")
  else
    let v := digits.foldl (fun v k => v * 10 + (s.ahead k - 0x30)) 0
    .ok (digits.foldl (fun s _ => s.skip) s, v)

def versionValue (s : Scanner) (start : Mark) : Except Problem (Scanner × Nat × Nat) := do
  let s := s.skipWhile isBlank
  let (s, major) ← s.versionNumber start
  if s.cur != 0x2E then throw (s.fail start "did not find expected digit or '.' character")
  let (s, minor) ← s.skip.versionNumber start
  pure (s, major, minor)

/-- Reads URI escapes, `%` and two hexadecimal digits each, making one UTF-8 character. -/
def uriEscapes (s : Scanner) (start : Mark) (acc : Bytes) : Except Problem (Scanner × Bytes) :=
  go 5 1024 s acc
where
  go : Nat → Nat → Scanner → Bytes → Except Problem (Scanner × Bytes)
    | 0, _, s, acc => .ok (s, acc)
    | fuel + 1, w, s, acc =>
      match s.cur == 0x25, hexValue? (s.ahead 1), hexValue? (s.ahead 2) with
      | true, some hi, some lo =>
        let octet := hi * 16 + lo
        let first := w == 1024
        let width := if first then utf8Width octet else w
        if first && width == 0 then .error (s.fail start "found an incorrect leading UTF-8 octet")
        else if !first && octet &&& 0xC0 != 0x80 then
          .error (s.fail start "found an incorrect trailing UTF-8 octet")
        else
          let s := s.skip.skip.skip
          let acc := acc ++ [octet.toUInt8]
          if width - 1 == 0 then .ok (s, acc) else go fuel (width - 1) s acc
      | _, _, _ => .error (s.fail start "did not find URI escaped octet")

/-- The characters of a tag's URI; `verbatim` admits the flow indicators as well. -/
def isUriChar (verbatim : Bool) (c : Nat) : Bool :=
  isWord c || (Bytes.ofString ";/?:@&=+$.!~*'()%").contains c.toUInt8 && c < 0x80 ||
  (verbatim && (c == 0x2C || c == 0x5B || c == 0x5D))

/-- Reads a tag's URI after `head`, whose first character is dropped. -/
def tagUri (s : Scanner) (verbatim : Bool) (head : Bytes) (start : Mark) :
    Except Problem (Scanner × Bytes) :=
  go s.text.size s (head.drop 1) (!head.isEmpty)
where
  go : Nat → Scanner → Bytes → Bool → Except Problem (Scanner × Bytes)
    | 0, s, acc, _ => .ok (s, acc)
    | fuel + 1, s, acc, seen =>
      if isUriChar verbatim s.cur then
        if s.cur == 0x25 then do
          let (s, acc) ← s.uriEscapes start acc
          go fuel s acc true
        else
          let (s, acc) := s.read acc
          go fuel s acc true
      else if !seen then .error (s.fail start "did not find expected tag URI")
      else .ok (s, acc)

/-- Reads a tag handle: `!`, word characters, and a closing `!` if there is one. -/
def tagHandle (s : Scanner) (start : Mark) (directive : Bool) : Except Problem (Scanner × Bytes) :=
  if s.cur != 0x21 then .error (s.fail start "did not find expected '!'")
  else
    let (s, h) := s.read []
    let (s, h) := s.readWhile isWord h
    if s.cur == 0x21 then .ok (s.read h)
    else if directive && h != [0x21] then .error (s.fail start "did not find expected '!'")
    else .ok (s, h)

def tagDirectiveValue (s : Scanner) (start : Mark) : Except Problem (Scanner × Bytes × Bytes) := do
  let s := s.skipWhile isBlank
  let (s, handle) ← s.tagHandle start true
  if !isBlank s.cur then throw (s.fail start "did not find expected whitespace")
  let s := s.skipWhile isBlank
  let (s, pfx) ← s.tagUri true [] start
  if !isSpaceOrEnd s.cur then throw (s.fail start "did not find expected whitespace or line break")
  pure (s, handle, pfx)

/-- Reads a directive and the rest of its line. -/
def scanDirective (s : Scanner) : Except Problem (Scanner × Token) := do
  let start := s.mark
  let (s, name) ← s.skip.directiveName start
  let (s, kind) ←
    if name == Bytes.ofString "YAML" then do
      let (s, major, minor) ← s.versionValue start
      pure (s, TokenKind.versionDirective major minor)
    else if name == Bytes.ofString "TAG" then do
      let (s, handle, pfx) ← s.tagDirectiveValue start
      pure (s, TokenKind.tagDirective handle pfx)
    else throw (s.fail start "found unknown directive name")
  let stop := s.mark
  let s := s.skipWhile isBlank
  let s := if s.cur == 0x23 then skipComment s else s
  if !isBreakOrEnd s.cur then throw (s.fail start "did not find expected comment or line break")
  let s := if isBreak s.cur then s.skipLine else s
  pure (s, ⟨kind, start, stop⟩)

/-! ## Anchors and tags -/

/-- Reads an anchor or an alias: its indicator and a name of word characters. -/
def scanAnchor (s : Scanner) (isAlias : Bool) : Except Problem (Scanner × Token) :=
  let start := s.mark
  let (s, name) := s.skip.readWhile isWord []
  let c := s.cur
  let ends := isSpaceOrEnd c || c == 0x3F || c == 0x3A || c == 0x2C || c == 0x5D || c == 0x7D ||
    c == 0x25 || c == 0x40 || c == 0x60
  if name.isEmpty || !ends then
    .error (s.fail start "did not find expected alphabetic or numeric character")
  else .ok (s, ⟨if isAlias then .alias name else .anchor name, start, s.mark⟩)

/-- Reads a tag: `!<uri>`, `!handle!suffix`, `!suffix` or `!`. -/
def scanTag (s : Scanner) : Except Problem (Scanner × Token) := do
  let start := s.mark
  let (s, handle, suffix) ←
    if s.ahead 1 == 0x3C then do
      let (s, suffix) ← s.skip.skip.tagUri true [] start
      if s.cur != 0x3E then throw (s.fail start "did not find the expected '>'")
      pure (s.skip, ([] : Bytes), suffix)
    else do
      let (s, handle) ← s.tagHandle start false
      if handle.head? == some 0x21 && handle.length > 1 && handle.getLast? == some 0x21 then do
        let (s, suffix) ← s.tagUri false [] start
        pure (s, handle, suffix)
      else do
        let (s, suffix) ← s.tagUri false handle start
        if suffix.isEmpty then pure (s, ([] : Bytes), [0x21]) else pure (s, [0x21], suffix)
  if !isSpaceOrEnd s.cur && (s.flowLevel == 0 || s.cur != 0x2C) then
    throw (s.fail start "did not find expected whitespace or line break")
  pure (s, ⟨.tag handle suffix, start, s.mark⟩)

/-! ## Scalars -/

/-- The text of a scalar being read, with the blanks and breaks not yet folded into it. -/
structure Folding where
  text : Bytes := []
  leadingBreak : Bytes := []
  trailingBreaks : Bytes := []
  whitespaces : Bytes := []
  leadingBlanks : Bool := false

/-- Folds the line breaks read so far: a single line feed becomes a space, and after it only
the further breaks are kept; other breaks are kept as they are. -/
def Folding.fold (f : Folding) : Folding :=
  let text :=
    if f.leadingBreak.head? == some 0x0A then
      if f.trailingBreaks.isEmpty then f.text ++ [0x20] else f.text ++ f.trailingBreaks
    else f.text ++ f.leadingBreak ++ f.trailingBreaks
  { f with text, leadingBreak := [], trailingBreaks := [] }

/-- Reads blanks and line breaks inside a scalar. With `tabCheck`, a tab in the indentation
of a continued plain scalar is refused. -/
def scalarBlanks (tabCheck : Option (Int × Mark)) (fuel : Nat) (s : Scanner) (f : Folding) :
    Except Problem (Scanner × Folding) :=
  match fuel with
  | 0 => .ok (s, f)
  | fuel + 1 =>
    let c := s.cur
    if isBlank c then
      match tabCheck with
      | some (indent, start) =>
        if f.leadingBlanks && (s.mark.column : Int) < indent && c == 0x09 then
          .error (s.fail start "found a tab character that violates indentation")
        else if !f.leadingBlanks then
          let (s, ws) := s.read f.whitespaces
          scalarBlanks tabCheck fuel s { f with whitespaces := ws }
        else scalarBlanks tabCheck fuel s.skip f
      | none =>
        if !f.leadingBlanks then
          let (s, ws) := s.read f.whitespaces
          scalarBlanks tabCheck fuel s { f with whitespaces := ws }
        else scalarBlanks tabCheck fuel s.skip f
    else if isBreak c then
      if !f.leadingBlanks then
        let (s, lb) := s.readLine []
        scalarBlanks tabCheck fuel s { f with whitespaces := [], leadingBreak := lb, leadingBlanks := true }
      else
        let (s, tb) := s.readLine f.trailingBreaks
        scalarBlanks tabCheck fuel s { f with trailingBreaks := tb }
    else .ok (s, f)

/-- Reads the characters of a plain scalar up to a blank or an indicator that ends it. -/
def plainWords (flow : Bool) (fuel : Nat) (s : Scanner) (f : Folding) (stop : Mark) :
    Scanner × Folding × Mark :=
  match fuel with
  | 0 => (s, f, stop)
  | fuel + 1 =>
    let c := s.cur
    if isSpaceOrEnd c then (s, f, stop)
    else if (c == 0x3A && isSpaceOrEnd (s.ahead 1)) ||
        (flow && (c == 0x2C || c == 0x3F || c == 0x5B || c == 0x5D || c == 0x7B || c == 0x7D)) then
      (s, f, stop)
    else
      let f :=
        if f.leadingBlanks then { f.fold with leadingBlanks := false }
        else if !f.whitespaces.isEmpty then { f with text := f.text ++ f.whitespaces, whitespaces := [] }
        else f
      let (s, text) := s.read f.text
      plainWords flow fuel s { f with text } s.mark

/-- Reads the lines of a plain scalar; a continuation line must be indented past `indent`
outside flow collections. -/
def plainLines (flow : Bool) (indent : Int) (start : Mark) (fuel : Nat) (s : Scanner)
    (f : Folding) (stop : Mark) : Except Problem (Scanner × Folding × Mark) :=
  match fuel with
  | 0 => .ok (s, f, stop)
  | fuel + 1 =>
    if s.mark.column == 0 && (s.documentMarker 0x2D || s.documentMarker 0x2E) then .ok (s, f, stop)
    else if s.cur == 0x23 then .ok (s, f, stop)
    else
      let (s, f, stop) := plainWords flow s.text.size s f stop
      if !(isBlank s.cur || isBreak s.cur) then .ok (s, f, stop)
      else do
        let (s, f) ← scalarBlanks (some (indent, start)) s.text.size s f
        if !flow && (s.mark.column : Int) < indent then .ok (s, f, stop)
        else plainLines flow indent start fuel s f stop

def scanPlain (s : Scanner) : Except Problem (Scanner × Token) := do
  let start := s.mark
  let (s, f, stop) ← plainLines (s.flowLevel > 0) (s.indent + 1) start (s.text.size + 1) s {} start
  let s := if f.leadingBlanks then { s with keyAllowed := true } else s
  pure (s, ⟨.scalar f.text .plain, start, stop⟩)

/-- The text of a one-character escape after a backslash. -/
def simpleEscape? (c : Nat) : Option Bytes :=
  if c == 0x30 then some [0] else if c == 0x61 then some [7] else if c == 0x62 then some [8]
  else if c == 0x74 || c == 0x09 then some [9] else if c == 0x6E then some [10]
  else if c == 0x76 then some [11] else if c == 0x66 then some [12] else if c == 0x72 then some [13]
  else if c == 0x65 then some [0x1B] else if c == 0x20 then some [0x20]
  else if c == 0x22 then some [0x22] else if c == 0x27 then some [0x27]
  else if c == 0x5C then some [0x5C] else if c == 0x4E then some [0xC2, 0x85]
  else if c == 0x5F then some [0xC2, 0xA0] else if c == 0x4C then some [0xE2, 0x80, 0xA8]
  else if c == 0x50 then some [0xE2, 0x80, 0xA9] else none

/-- Reads an escape of a double-quoted scalar, at its backslash. -/
def escape (s : Scanner) (start : Mark) (acc : Bytes) : Except Problem (Scanner × Bytes) :=
  let c := s.ahead 1
  let width := if c == 0x78 then 2 else if c == 0x75 then 4 else if c == 0x55 then 8 else 0
  match simpleEscape? c with
  | some t => .ok (s.skip.skip, acc ++ t)
  | none =>
    if width == 0 then .error (s.fail start "found unknown escape character")
    else
      let s := s.skip.skip
      let digits := (List.range width).map fun k => hexValue? (s.ahead k)
      if digits.any Option.isNone then .error (s.fail start "did not find expected hexdecimal number")
      else
        let v := digits.foldl (fun v d => v * 16 + d.getD 0) 0
        if (0xD800 ≤ v && v ≤ 0xDFFF) || v > 0x10FFFF then
          .error (s.fail start "found invalid Unicode character escape code")
        else .ok ((List.range width).foldl (fun s _ => s.skip) s, acc ++ Utf8.encode v)

/-- Reads the characters of a quoted scalar up to a blank, the closing quote or an escaped
line break; says whether it stopped at the latter. -/
def quotedWords (single : Bool) (start : Mark) (fuel : Nat) (s : Scanner) (acc : Bytes) :
    Except Problem (Scanner × Bytes × Bool) :=
  match fuel with
  | 0 => .ok (s, acc, false)
  | fuel + 1 =>
    let c := s.cur
    if isSpaceOrEnd c then .ok (s, acc, false)
    else if single && c == 0x27 && s.ahead 1 == 0x27 then
      quotedWords single start fuel s.skip.skip (acc ++ [0x27])
    else if single && c == 0x27 then .ok (s, acc, false)
    else if !single && c == 0x22 then .ok (s, acc, false)
    else if !single && c == 0x5C && isBreak (s.ahead 1) then .ok (s.skip.skipLine, acc, true)
    else if !single && c == 0x5C then do
      let (s, acc) ← s.escape start acc
      quotedWords single start fuel s acc
    else
      let (s, acc) := s.read acc
      quotedWords single start fuel s acc

/-- Reads the lines of a quoted scalar, up to its closing quote. -/
def quotedLines (single : Bool) (start : Mark) (fuel : Nat) (s : Scanner) (f : Folding) :
    Except Problem (Scanner × Bytes) :=
  match fuel with
  | 0 => .ok (s, f.text)
  | fuel + 1 =>
    if s.mark.column == 0 && (s.documentMarker 0x2D || s.documentMarker 0x2E) then
      .error (s.fail start "found unexpected document indicator")
    else if isEnd s.cur then .error (s.fail start "found unexpected end of stream")
    else do
      let (s, text, escaped) ← quotedWords single start s.text.size s f.text
      let f := { f with text, leadingBlanks := escaped }
      if s.cur == (if single then 0x27 else 0x22) then .ok (s, f.text)
      else
        let (s, f) ← scalarBlanks none s.text.size s f
        let f := if f.leadingBlanks then f.fold
          else { f with text := f.text ++ f.whitespaces, whitespaces := [] }
        quotedLines single start fuel s f

def scanQuoted (s : Scanner) (single : Bool) : Except Problem (Scanner × Token) := do
  let start := s.mark
  let (s, text) ← quotedLines single start (s.text.size + 1) s.skip {}
  let s := s.skip
  pure (s, ⟨.scalar text (if single then .single else .double), start, s.mark⟩)

/-- Steps over the spaces of a block scalar's indentation, up to column `indent` unless it is
zero. -/
def indentSpaces (indent : Nat) : Nat → Scanner → Scanner
  | 0, s => s
  | fuel + 1, s =>
    if s.cur == 0x20 && (indent == 0 || s.mark.column < indent) then indentSpaces indent fuel s.skip
    else s

/-- Reads the indentation and empty lines before a line of a block scalar. With `indent` zero
the indentation is found: the deepest seen, at least one past the enclosing block and at
least one. -/
def blockBreaks (blockIndent : Int) (start : Mark) (fuel : Nat) (s : Scanner) (indent : Nat)
    (breaks : Bytes) (stop : Mark) (deepest : Nat) : Except Problem (Scanner × Nat × Bytes × Mark) :=
  match fuel with
  | 0 => .ok (s, indent, breaks, stop)
  | fuel + 1 =>
    let s := indentSpaces indent s.text.size s
    let deepest := max deepest s.mark.column
    if (indent == 0 || s.mark.column < indent) && s.cur == 0x09 then
      .error (s.fail start "found a tab character where an indentation space is expected")
    else if !isBreak s.cur then
      let indent :=
        if indent == 0 then max (max deepest (blockIndent + 1).toNat) 1 else indent
      .ok (s, indent, breaks, stop)
    else
      let (s, breaks) := s.readLine breaks
      blockBreaks blockIndent start fuel s indent breaks s.mark deepest

/-- Reads the lines of a block scalar at `indent`. -/
def blockLines (literal : Bool) (blockIndent : Int) (start : Mark) (indent : Nat) (fuel : Nat)
    (s : Scanner) (text leadingBreak trailing : Bytes) (leadingBlank : Bool) (stop : Mark) :
    Except Problem (Scanner × Bytes × Bytes × Bytes × Mark) :=
  match fuel with
  | 0 => .ok (s, text, leadingBreak, trailing, stop)
  | fuel + 1 =>
    if s.mark.column != indent || isEnd s.cur then .ok (s, text, leadingBreak, trailing, stop)
    else
      let trailingBlank := isBlank s.cur
      let text :=
        if !literal && !leadingBlank && !trailingBlank && leadingBreak.head? == some 0x0A then
          if trailing.isEmpty then text ++ [0x20] else text
        else text ++ leadingBreak
      let text := text ++ trailing
      let leadingBlank := isBlank s.cur
      let (s, text) := s.readWhile (fun c => !isBreakOrEnd c) text
      let (s, leadingBreak) := s.readLine []
      match blockBreaks blockIndent start s.text.size s indent [] s.mark 0 with
      | .error e => .error e
      | .ok (s, _, trailing, stop) =>
        blockLines literal blockIndent start indent fuel s text leadingBreak trailing leadingBlank stop

/-- Reads the header of a block scalar: its chomping and indentation indicators, in either
order. Chomping is `-1` to strip, `1` to keep and `0` to clip. -/
def blockHeader (s : Scanner) (start : Mark) : Except Problem (Scanner × Int × Nat) :=
  let chomp (c : Nat) : Int := if c == 0x2B then 1 else -1
  let isChomp (c : Nat) := c == 0x2B || c == 0x2D
  if isChomp s.cur then
    let ch := chomp s.cur
    let s := s.skip
    if isDigit s.cur then
      if s.cur == 0x30 then .error (s.fail start "found an indentation indicator equal to 0")
      else .ok (s.skip, ch, s.cur - 0x30)
    else .ok (s, ch, 0)
  else if isDigit s.cur then
    if s.cur == 0x30 then .error (s.fail start "found an indentation indicator equal to 0")
    else
      let inc := s.cur - 0x30
      let s := s.skip
      if isChomp s.cur then .ok (s.skip, chomp s.cur, inc) else .ok (s, 0, inc)
  else .ok (s, 0, 0)

def scanBlock (s : Scanner) (literal : Bool) : Except Problem (Scanner × Token) := do
  let start := s.mark
  let (s, chomping, increment) ← s.skip.blockHeader start
  let s := s.skipWhile isBlank
  let s := if s.cur == 0x23 then skipComment s else s
  if !isBreakOrEnd s.cur then throw (s.fail start "did not find expected comment or line break")
  let s := if isBreak s.cur then s.skipLine else s
  let indent :=
    if increment > 0 then (if s.indent ≥ 0 then s.indent.toNat + increment else increment) else 0
  let (s, indent, trailing, stop) ← blockBreaks s.indent start s.text.size s indent [] s.mark 0
  let (s, text, leadingBreak, trailing, stop) ←
    blockLines literal s.indent start indent (s.text.size + 1) s [] [] trailing false stop
  let text := if chomping != -1 then text ++ leadingBreak else text
  let text := if chomping == 1 then text ++ trailing else text
  pure (s, ⟨.scalar text (if literal then .literal else .folded), start, stop⟩)

/-! ## Tokens -/

def fetchStreamStart (s : Scanner) : Scanner :=
  { s with indent := -1, keys := s.keys.push {}, byToken := [], keyAllowed := true, started := true,
           tokens := s.tokens.push ⟨.streamStart, s.mark, s.mark⟩ }

/-- Ends the stream, closing every block. -/
def fetchStreamEnd (s : Scanner) : Except Problem Scanner := do
  let s := if s.mark.column != 0 then
      { s with mark := { s.mark with column := 0, line := s.mark.line + 1 } }
    else s
  let s := s.unrollIndent (-1) s.mark
  let s ← s.removeKey
  pure ({ s with keyAllowed := false }.push .streamEnd s.mark s.mark)

/-- Reads a directive, closing every block. -/
def fetchDirective (s : Scanner) : Except Problem Scanner := do
  let s := s.unrollIndent (-1) s.mark
  let s ← s.removeKey
  let (s, t) ← { s with keyAllowed := false }.scanDirective
  pure { s with tokens := s.tokens.push t }

/-- Reads a document start or end marker, closing every block. -/
def fetchDocumentIndicator (s : Scanner) (kind : TokenKind) : Except Problem Scanner := do
  let s := s.unrollIndent (-1) s.mark
  let s ← s.removeKey
  let start := s.mark
  let s := { s with keyAllowed := false }.skip.skip.skip
  pure (s.push kind start s.mark)

def fetchIndicator (s : Scanner) (kind : TokenKind) : Scanner :=
  let start := s.mark
  let s := s.skip
  s.push kind start s.mark

/-- Reads `[` or `{`, which may start a key. -/
def fetchFlowStart (s : Scanner) (kind : TokenKind) : Except Problem Scanner := do
  let s ← s.saveKey
  let s ← s.increaseFlow
  pure ({ s with keyAllowed := true }.fetchIndicator kind)

def fetchFlowEnd (s : Scanner) (kind : TokenKind) : Except Problem Scanner := do
  let s ← s.removeKey
  pure ({ s.decreaseFlow with keyAllowed := false }.fetchIndicator kind)

def fetchFlowEntry (s : Scanner) : Except Problem Scanner := do
  let s ← s.removeKey
  pure ({ s with keyAllowed := true }.fetchIndicator .flowEntry)

/-- Reads `-`, opening a block sequence when it is deeper than the current block. -/
def fetchBlockEntry (s : Scanner) : Except Problem Scanner := do
  let s ←
    if s.flowLevel == 0 then
      if !s.keyAllowed then throw (s.fail s.mark "block sequence entries are not allowed in this context")
      else s.rollIndent s.mark.column none .blockSequenceStart s.mark
    else pure s
  let s ← s.removeKey
  pure ({ s with keyAllowed := true }.fetchIndicator .blockEntry)

/-- Reads `?`, opening a block mapping when it is deeper than the current block. -/
def fetchKey (s : Scanner) : Except Problem Scanner := do
  let s ←
    if s.flowLevel == 0 then
      if !s.keyAllowed then throw (s.fail s.mark "mapping keys are not allowed in this context")
      else s.rollIndent s.mark.column none .blockMappingStart s.mark
    else pure s
  let s ← s.removeKey
  pure ({ s with keyAllowed := s.flowLevel == 0 }.fetchIndicator .key)

/-- Reads `:`. When a possible key is pending it becomes a key: its key token, and a block
mapping start if one is due, go before its first token. -/
def fetchValue (s : Scanner) : Except Problem Scanner := do
  let i := s.keys.size - 1
  let (valid, s) ← s.keyValid i
  let s ←
    match valid, s.keys[i]? with
    | true, some k =>
      let s := { s with tokens := s.tokens.insertIdxIfInBounds k.number ⟨.key, k.mark, k.mark⟩ }
      let s ← s.rollIndent k.mark.column (some k.number) .blockMappingStart k.mark
      pure { s with
        keys := s.keys.modify i fun k => { k with possible := false }
        byToken := s.byToken.filter (·.1 != k.number)
        keyAllowed := false }
    | _, _ =>
      if s.flowLevel == 0 then
        if !s.keyAllowed then throw (s.fail s.mark "mapping values are not allowed in this context")
        else do
          let s ← s.rollIndent s.mark.column none .blockMappingStart s.mark
          pure { s with keyAllowed := true }
      else pure { s with keyAllowed := false }
  pure (s.fetchIndicator .value)

/-- Reads a token that may start a key: it is remembered, and no key may follow it. -/
def fetchKeyable (s : Scanner) (scan : Scanner → Except Problem (Scanner × Token)) :
    Except Problem Scanner := do
  let s ← s.saveKey
  let (s, t) ← scan { s with keyAllowed := false }
  pure { s with tokens := s.tokens.push t }

/-- Reads a block scalar, after which a key may start. -/
def fetchBlock (s : Scanner) (literal : Bool) : Except Problem Scanner := do
  let s ← s.removeKey
  let (s, t) ← { s with keyAllowed := true }.scanBlock literal
  pure { s with tokens := s.tokens.push t }

/-- Whether a plain scalar may start here: not at a blank or an indicator, except `-`
followed by a non-blank, and outside flow collections `?` and `:` followed by one. -/
def plainStarts (s : Scanner) : Bool :=
  let c := s.cur
  let next := s.ahead 1
  let indicator := (Bytes.ofString "-?:,[]\x7b\x7d#&*!|>'\"%@`").contains c.toUInt8 && c < 0x80
  !(isSpaceOrEnd c || indicator) || (c == 0x2D && !isBlank next) ||
    (s.flowLevel == 0 && (c == 0x3F || c == 0x3A) && !isSpaceOrEnd next)

/-- Reads the token that starts at the current character. -/
def fetchToken (s : Scanner) : Except Problem Scanner :=
  let c := s.cur
  let next := s.ahead 1
  let flow := s.flowLevel > 0
  if c == 0x5B then s.fetchFlowStart .flowSequenceStart
  else if c == 0x7B then s.fetchFlowStart .flowMappingStart
  else if c == 0x5D then s.fetchFlowEnd .flowSequenceEnd
  else if c == 0x7D then s.fetchFlowEnd .flowMappingEnd
  else if c == 0x2C then s.fetchFlowEntry
  else if c == 0x2D && isSpaceOrEnd next then s.fetchBlockEntry
  else if c == 0x3F && (flow || isSpaceOrEnd next) then s.fetchKey
  else if c == 0x3A && (flow || isSpaceOrEnd next) then s.fetchValue
  else if c == 0x2A then s.fetchKeyable fun s => s.scanAnchor true
  else if c == 0x26 then s.fetchKeyable fun s => s.scanAnchor false
  else if c == 0x21 then s.fetchKeyable scanTag
  else if c == 0x7C && !flow then s.fetchBlock true
  else if c == 0x3E && !flow then s.fetchBlock false
  else if c == 0x27 then s.fetchKeyable fun s => s.scanQuoted true
  else if c == 0x22 then s.fetchKeyable fun s => s.scanQuoted false
  else if s.plainStarts then s.fetchKeyable scanPlain
  else .error (s.fail s.mark "found character that cannot start any token")

/-- Reads the next token, with the blocks it closes and any comment after it on its line. -/
def fetchNext (s : Scanner) : Except Problem Scanner := do
  if !s.started then return s.fetchStreamStart
  let scanMark := s.mark
  let s := s.toNextToken (s.text.size + 1)
  let s := s.unrollIndent s.mark.column scanMark
  let c := s.cur
  if isEnd c then s.fetchStreamEnd
  else if s.mark.column == 0 && c == 0x25 then s.fetchDirective
  else if s.mark.column == 0 && s.documentMarker 0x2D then s.fetchDocumentIndicator .documentStart
  else if s.mark.column == 0 && s.documentMarker 0x2E then s.fetchDocumentIndicator .documentEnd
  else do
    let s ← s.fetchToken
    match s.tokens.back? with
    | some t => pure (if t.kind == .blockEntry then s else s.lineComment)
    | none => pure s.lineComment

/-- Reads tokens until at least three are queued past `parsed` and no possible key starts at
the first of them. -/
def fetchMore (fuel : Nat) (s : Scanner) : Except Problem Scanner :=
  match fuel with
  | 0 => .ok s
  | fuel + 1 =>
    if s.parsed + 2 < s.tokens.size then
      match s.byToken.lookup s.parsed with
      | none => .ok s
      | some i => do
        let (valid, s) ← s.keyValid i
        if valid then fetchMore fuel (← s.fetchNext) else pure s
    else do fetchMore fuel (← s.fetchNext)

end Scanner

end SyntaxShade.Yaml
