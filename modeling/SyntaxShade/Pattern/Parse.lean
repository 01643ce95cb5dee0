import SyntaxShade.Pattern.Reader
import SyntaxShade.Pattern.Class
import SyntaxShade.Pattern.ClassName
/-! Reading Perl-style regular expressions onto the reader's stack, refused at the first fault. -/
namespace SyntaxShade.Pattern

/-- Reads one rune, refusing a malformed byte together with the text from it on. The empty text
reads as U+FFFD and stays empty. -/
def nextRune (s : Bytes) : Except Error (Nat × Bytes) :=
  let r := Rune.decode s
  if r.isInvalid then .error ⟨.invalidUtf8, s⟩ else .ok (r.code, s.drop r.width)

/-- Refuses a text with a malformed byte, showing the text from that byte on. -/
def checkUtf8 (s : Bytes) : Except Error Unit :=
  let rs := Utf8.runes s
  match rs.findIdx? (·.1.isInvalid) with
  | some i => .error ⟨.invalidUtf8, s.drop ((rs.take i).foldl (fun n p => n + p.1.width) 0)⟩
  | none => .ok ()

def isDigit (b : UInt8) : Bool := 0x30 ≤ b && b ≤ 0x39

def isAlnum (c : Nat) : Bool :=
  (0x30 ≤ c && c ≤ 0x39) || (0x41 ≤ c && c ≤ 0x5A) || (0x61 ≤ c && c ≤ 0x7A)

def hexValue? (c : Nat) : Option Nat :=
  if 0x30 ≤ c ∧ c ≤ 0x39 then some (c - 0x30)
  else if 0x61 ≤ c ∧ c ≤ 0x66 then some (c - 0x61 + 10)
  else if 0x41 ≤ c ∧ c ≤ 0x46 then some (c - 0x41 + 10)
  else none

def isOctal (b : UInt8) : Bool := 0x30 ≤ b && b ≤ 0x37

/-- Reads a repetition count at the front of a text: digits with no leading zero. A count of
ten digits or more reads as 10^9, which no bound admits. -/
def readCount (s : Bytes) : Option (Nat × Bytes) :=
  match s with
  | b :: rest =>
    if !isDigit b then none
    else if b = 0x30 && (rest.head?.any isDigit) then none
    else
      let ds := s.takeWhile isDigit
      let v := if 10 ≤ ds.length then 1000000000 else ds.foldl (fun n d => n * 10 + (d.toNat - 0x30)) 0
      some (v, s.drop ds.length)
  | [] => none

/-- Reads `{n}`, `{n,}` or `{n,m}` at the front of a text: the bounds and the rest. -/
def readBounds (s : Bytes) : Option ((Nat × Option Nat) × Bytes) :=
  match s with
  | 0x7B :: t =>
    match readCount t with
    | none => none
    | some (lo, 0x2C :: 0x7D :: rest) => some ((lo, none), rest)
    | some (lo, 0x2C :: t) =>
      match readCount t with
      | some (hi, 0x7D :: rest) => some ((lo, some hi), rest)
      | _ => none
    | some (lo, 0x7D :: rest) => some ((lo, some lo), rest)
    | some _ => none
  | _ => none

/-- The ranges of `\d`. -/
def digitRanges : List (Nat × Nat) := [(0x30, 0x39)]

/-- The ranges of `\s`: tab, line feed, form feed, carriage return and space. -/
def spaceRanges : List (Nat × Nat) := [(0x09, 0x0A), (0x0C, 0x0D), (0x20, 0x20)]

/-- The ranges of `\w`. -/
def wordRanges : List (Nat × Nat) := [(0x30, 0x39), (0x41, 0x5A), (0x5F, 0x5F), (0x61, 0x7A)]

/-- The POSIX classes by name, as ASCII ranges. -/
def posixClasses : List (String × List (Nat × Nat)) :=
  [("alnum", [(0x30, 0x39), (0x41, 0x5A), (0x61, 0x7A)]),
   ("alpha", [(0x41, 0x5A), (0x61, 0x7A)]),
   ("ascii", [(0x00, 0x7F)]),
   ("blank", [(0x09, 0x09), (0x20, 0x20)]),
   ("cntrl", [(0x00, 0x1F), (0x7F, 0x7F)]),
   ("digit", [(0x30, 0x39)]),
   ("graph", [(0x21, 0x7E)]),
   ("lower", [(0x61, 0x7A)]),
   ("print", [(0x20, 0x7E)]),
   ("punct", [(0x21, 0x2F), (0x3A, 0x40), (0x5B, 0x60), (0x7B, 0x7E)]),
   ("space", [(0x09, 0x0D), (0x20, 0x20)]),
   ("upper", [(0x41, 0x5A)]),
   ("word", [(0x30, 0x39), (0x41, 0x5A), (0x5F, 0x5F), (0x61, 0x7A)]),
   ("xdigit", [(0x30, 0x39), (0x41, 0x46), (0x61, 0x66)])]

/-- The POSIX class written `[:name:]`, or its complement written `[:^name:]`. -/
def posixItem? (text : Bytes) : Option Item :=
  posixClasses.findSome? fun (name, rs) =>
    if text = Bytes.ofString ("[:" ++ name ++ ":]") then some (.group (.ranges rs) false true)
    else if text = Bytes.ofString ("[:^" ++ name ++ ":]") then some (.group (.ranges rs) true true)
    else none

/-- A Perl class `\d \s \w` or its complement `\D \S \W` at the front of a text. -/
def perlItem? (s : Bytes) : Option (Item × Bytes) :=
  match s with
  | 0x5C :: 0x64 :: rest => some (.group (.ranges digitRanges) false true, rest)
  | 0x5C :: 0x44 :: rest => some (.group (.ranges digitRanges) true true, rest)
  | 0x5C :: 0x73 :: rest => some (.group (.ranges spaceRanges) false true, rest)
  | 0x5C :: 0x53 :: rest => some (.group (.ranges spaceRanges) true true, rest)
  | 0x5C :: 0x77 :: rest => some (.group (.ranges wordRanges) false true, rest)
  | 0x5C :: 0x57 :: rest => some (.group (.ranges wordRanges) true true, rest)
  | _ => none

/-- Reads a Unicode class `\pX`, `\p{Name}` or `\P{Name}` at the front of a text, where a
leading `^` in the name negates it. -/
def unicodeItem (s : Bytes) : Except Error (Item × Bytes) := do
  let negated := (s.drop 1).head? == some 0x50
  let (c, t) ← nextRune (s.drop 2)
  let (seq, name, rest) ←
    if c ≠ 0x7B then
      let seq := before s t
      pure (seq, seq.drop 2, t)
    else
      match s.idxOf? 0x7D with
      | none =>
        checkUtf8 s
        throw ⟨.invalidCharRange, s⟩
      | some e =>
        let name := (s.take e).drop 3
        checkUtf8 name
        pure (s.take (e + 1), name, s.drop (e + 1))
  let (negated, name) := match name with
    | 0x5E :: r => (!negated, r)
    | r => (negated, r)
  match unicodeClass? negated name with
  | none => throw ⟨.invalidCharRange, seq⟩
  | some item => pure (item, rest)

/-- Reads up to two more octal digits after the first one. -/
def octalTail (r : Nat) : Nat → Bytes → Nat × Bytes
  | 0, t => (r, t)
  | k + 1, b :: t => if isOctal b then octalTail (r * 8 + (b.toNat - 0x30)) k t else (r, b :: t)
  | _ + 1, [] => (r, [])

/-- Reads the hex digits of `\x{...}` up to the closing brace. -/
def hexBraced (s : Bytes) : Nat → Nat → Nat → Bytes → Except Error (Nat × Bytes)
  | 0, _, _, t => .error ⟨.invalidEscape, before s t⟩
  | fuel + 1, r, count, t =>
    match t with
    | [] => .error ⟨.invalidEscape, s⟩
    | _ => do
      let (c, t) ← nextRune t
      if c = 0x7D then
        if count = 0 then throw ⟨.invalidEscape, before s t⟩ else pure (r, t)
      else
        match hexValue? c with
        | none => throw ⟨.invalidEscape, before s t⟩
        | some v =>
          if r * 16 + v > 0x10FFFF then throw ⟨.invalidEscape, before s t⟩
          else hexBraced s fuel (r * 16 + v) (count + 1) t

/-- Reads an escaped rune at the front of a text that starts with a backslash. -/
def escape (s : Bytes) : Except Error (Nat × Bytes) := do
  let t := s.drop 1
  if t = [] then throw ⟨.trailingBackslash, []⟩
  let (c, t) ← nextRune t
  let bad (t : Bytes) : Except Error (Nat × Bytes) := .error ⟨.invalidEscape, before s t⟩
  if 0x31 ≤ c ∧ c ≤ 0x37 then
    match t with
    | b :: _ => if isOctal b then pure (octalTail (c - 0x30) 2 t) else bad t
    | [] => bad t
  else if c = 0x30 then pure (octalTail 0 2 t)
  else if c = 0x78 then
    if t = [] then bad t
    else
      let (c, t) ← nextRune t
      if c = 0x7B then hexBraced s (t.length + 1) 0 0 t
      else
        let x := hexValue? c
        let (c, t) ← nextRune t
        match x, hexValue? c with
        | some x, some y => pure (x * 16 + y, t)
        | _, _ => bad t
  else if c = 0x61 then pure (7, t)
  else if c = 0x66 then pure (12, t)
  else if c = 0x6E then pure (10, t)
  else if c = 0x72 then pure (13, t)
  else if c = 0x74 then pure (9, t)
  else if c = 0x76 then pure (11, t)
  else if c < 0x80 ∧ !isAlnum c then pure (c, t)
  else bad t

/-- Reads one rune of a class, escaped or not; `whole` is the class text shown when it is
never closed. -/
def classChar (whole s : Bytes) : Except Error (Nat × Bytes) :=
  match s with
  | [] => .error ⟨.missingBracket, whole⟩
  | 0x5C :: _ => escape s
  | _ => nextRune s

/-- The offset of the first `:]` in a text. -/
def posixEnd? (s : Bytes) : Option Nat :=
  (List.range s.length).find? fun i => (s.drop i).take 2 = [0x3A, 0x5D]

/-- The text of a POSIX class `[:name:]` at the front of a class text, and the text after it. -/
def posixSpan? (t : Bytes) : Option (Bytes × Bytes) :=
  match t with
  | 0x5B :: 0x3A :: r =>
    if r = [] then none else (posixEnd? r).map fun i => (t.take (i + 4), t.drop (i + 4))
  | _ => none

/-- Reads one item of a class at the front of a text: a POSIX, Unicode or Perl class, a rune, or
a range of runes; `whole` is the class text shown when it is never closed. -/
def classItem (whole t : Bytes) : Except Error (Item × Bytes) :=
  match posixSpan? t with
  | some (name, rest) =>
    match posixItem? name with
    | some item => pure (item, rest)
    | none => throw ⟨.invalidCharRange, name⟩
  | none =>
    match t with
    | 0x5C :: 0x70 :: _ | 0x5C :: 0x50 :: _ => unicodeItem t
    | _ =>
      match perlItem? t with
      | some p => pure p
      | none => do
        let (lo, t₁) ← classChar whole t
        match t₁ with
        | 0x2D :: b :: _ =>
          if b = 0x5D then pure (.range lo lo, t₁)
          else
            let (hi, t₂) ← classChar whole (t₁.drop 1)
            if hi < lo then throw ⟨.invalidCharRange, before t t₂⟩
            else pure (.range lo hi, t₂)
        | _ => pure (.range lo lo, t₁)

/-- Reads the items of a class up to its closing `]`; `first` is set before the first item,
where a `]` stands for itself. -/
def classItems (whole : Bytes) : Nat → Bool → List Item → Bytes → Except Error (List Item × Bytes)
  | 0, _, _, t => .error ⟨.internal, t⟩
  | fuel + 1, first, items, t => do
    if let 0x5D :: rest := t then
      if !first then return (items, rest)
    let (item, rest) ← classItem whole t
    classItems whole fuel false (item :: items) rest

/-- Reads a bracket class at the front of a text that starts with `[`: its code points under
the given folding, and the rest. -/
def bracket (fold : Bool) (s : Bytes) : Except Error (Ranges × Bytes) := do
  let t := s.drop 1
  let (negated, t) := match t with
    | 0x5E :: r => (true, r)
    | r => (false, r)
  let (items, rest) ← classItems s (t.length + 1) true [] t
  pure (classRanges items.reverse fold negated, rest)

/-- The first `\E` in a text: the text before it and the text after it, or the whole text. -/
def untilQuoteEnd (s : Bytes) : Bytes × Bytes :=
  match (List.range s.length).find? (fun i => (s.drop i).take 2 = [0x5C, 0x45]) with
  | some i => (s.take i, s.drop (i + 2))
  | none => (s, [])

/-- Pushes every rune of a quoted text as a literal. -/
def pushLiterals : Nat → Reader → Bytes → Except Error Reader
  | 0, st, _ => .ok st
  | fuel + 1, st, lit =>
    match lit with
    | [] => .ok st
    | _ => do
      let (c, rest) ← nextRune lit
      pushLiterals fuel (← st.literal c) rest

/-- An ASCII letter or digit, or the underscore: the runes of a capture name. -/
def isNameByte (b : UInt8) : Bool := isAlnum b.toNat || b = 0x5F

/-- Reads the flags of `(?flags)` or `(?flags:`, where `s` starts with `(?` and `t` is the text after
the flags read so far. `(?flags:` opens a group that restores the flags from before it. -/
def flagGroup (s : Bytes) (st : Reader) : Nat → Flags → Bool → Bool → Bytes → Except Error (Reader × Bytes)
  | 0, _, _, _, t => .error ⟨.invalidPerlOp, before s t⟩
  | fuel + 1, flags, negative, sawFlag, t =>
    match t with
    | [] => .error ⟨.invalidPerlOp, s⟩
    | _ => do
      let (c, t) ← nextRune t
      if c = 0x69 then flagGroup s st fuel { flags with fold := !negative } negative true t
      else if c = 0x6D then flagGroup s st fuel { flags with multiLine := !negative } negative true t
      else if c = 0x73 then flagGroup s st fuel { flags with dotNL := !negative } negative true t
      else if c = 0x55 then flagGroup s st fuel { flags with nonGreedy := !negative } negative true t
      else if c = 0x2D then
        if negative then throw ⟨.invalidPerlOp, before s t⟩
        else flagGroup s st fuel flags true false t
      else if c = 0x3A ∨ c = 0x29 then
        if negative ∧ !sawFlag then throw ⟨.invalidPerlOp, before s t⟩
        else
          let st ← if c = 0x3A then st.make.pushMarker (.group st.flags false) else pure st
          pure ({ st with flags := flags }, t)
      else throw ⟨.invalidPerlOp, before s t⟩

/-- Where the name starts in a group `(?P<name>` or `(?<name>` at the front of a text; none for any
other group that starts with `(?`. -/
def captureStart? (s : Bytes) : Option Nat :=
  match s with
  | 0x28 :: 0x3F :: 0x50 :: 0x3C :: _ :: _ => some 4
  | 0x28 :: 0x3F :: 0x3C :: _ :: _ => some 3
  | _ => none

/-- Reads a named capture group whose name starts at offset `start` of `s`, up to its `>`. -/
def namedGroup (st : Reader) (s : Bytes) (start : Nat) : Except Error (Reader × Bytes) :=
  match s.idxOf? 0x3E with
  | none => do
    checkUtf8 s
    throw ⟨.invalidNamedCapture, s⟩
  | some e => do
    let name := (s.take e).drop start
    checkUtf8 name
    if name = [] ∨ !name.all isNameByte then throw ⟨.invalidNamedCapture, s.take (e + 1)⟩
    else pure (← st.make.pushMarker (.group st.flags true), s.drop (e + 1))

/-- Reads a group that starts with `(?`: a named capture or a flag group. -/
def perlGroup (st : Reader) (s : Bytes) : Except Error (Reader × Bytes) :=
  match captureStart? s with
  | some start => namedGroup st s start
  | none => flagGroup s st (s.length + 1) st.flags false false (s.drop 2)

/-- One step of the reader at the front of a nonempty text `t`: the state after it and the
text left. A repetition step records its operator in `lastRepeat`; every other step clears it. -/
def step (st : Reader) (t : Bytes) : Except Error (Reader × Bytes) := do
  let clear (r : Except Error Reader) (rest : Bytes) : Except Error (Reader × Bytes) :=
    r.map fun st => ({ st with lastRepeat := [] }, rest)
  match t with
  | [] => pure (st, [])
  | b :: rest =>
    if b = 0x28 then
      if rest.head? = some 0x3F then
        let (st, t) ← perlGroup st t
        pure ({ st with lastRepeat := [] }, t)
      else clear (st.make.pushMarker (.group st.flags true)) rest
    else if b = 0x7C then clear st.readBar rest
    else if b = 0x29 then clear st.closeGroup rest
    else if b = 0x5E then
      clear (st.op (.assert (if st.flags.multiLine then .lineStart else .textStart))) rest
    else if b = 0x24 then
      clear (st.op (.assert (if st.flags.multiLine then .lineEnd else .textEnd))) rest
    else if b = 0x2E then clear (st.op (if st.flags.dotNL then .anyChar else .anyCharNotNL)) rest
    else if b = 0x5B then
      let st := st.make
      let (rs, rest) ← bracket st.flags.fold t
      clear (st.push (.charClass rs)) rest
    else if b = 0x2A then st.repeatTop .star t rest
    else if b = 0x2B then st.repeatTop .plus t rest
    else if b = 0x3F then st.repeatTop .quest t rest
    else if b = 0x7B then
      match readBounds t with
      | none => clear (st.literal 0x7B) rest
      | some ((lo, hi), after) =>
        if 1000 < lo ∨ hi.any (· > 1000) ∨ hi.any (· < lo) then
          throw ⟨.invalidRepeatSize, before t after⟩
        else st.repeatTop (.count lo hi) t after
    else if b = 0x5C then
      match rest with
      | 0x41 :: r => clear (st.op (.assert .textStart)) r
      | 0x62 :: r => clear (st.op (.assert .wordBoundary)) r
      | 0x42 :: r => clear (st.op (.assert .notWordBoundary)) r
      | 0x43 :: _ => throw ⟨.invalidEscape, t.take 2⟩
      | 0x7A :: r => clear (st.op (.assert .textEnd)) r
      | 0x51 :: r =>
        let (lit, r) := untilQuoteEnd r
        clear (pushLiterals (lit.length + 1) st lit) r
      | 0x70 :: _ | 0x50 :: _ =>
        let st := st.make
        let (item, r) ← unicodeItem t
        clear (st.push (.charClass (classRanges [item] st.flags.fold false))) r
      | _ =>
        let st := st.make
        match perlItem? t with
        | some (item, r) => clear (st.push (.charClass (classRanges [item] st.flags.fold false))) r
        | none =>
          let (c, r) ← escape t
          clear ((st.giveUp 1).literal c) r
    else
      let (c, r) ← nextRune t
      clear (st.literal c) r

/-- The main loop: reads the expression from `t` on, one step at a time. -/
def loop : Nat → Reader → Bytes → Except Error Tree
  | 0, _, t => .error ⟨.internal, t⟩
  | fuel + 1, st, t =>
    match t with
    | [] => st.finish
    | _ => do
      let (st, rest) ← step st t
      loop fuel st rest

def parseTree (re : Bytes) : Except Error Tree :=
  loop (re.length + 1) { whole := re } re

/-- Reads a regular expression into the matcher's form. -/
def parse (re : Bytes) : Except Error Node := (parseTree re).map Tree.toNode

end SyntaxShade.Pattern
