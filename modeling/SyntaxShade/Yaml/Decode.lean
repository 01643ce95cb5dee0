import SyntaxShade.Yaml.Node
import SyntaxShade.GrammarFile
/-! Reading a grammar file from a YAML document graph: strings, lists and mappings by key, merge
keys and aliases, with every type error reported together. -/
namespace SyntaxShade.Yaml

/-- What decoding carries: type errors so far, the aliases being read, the keys that merged
mappings may no longer set, and the decoding steps taken, in all and through aliases. -/
structure Decoding where
  errors : Array Bytes := #[]
  following : List Nat := []
  merged : Option (List Bytes) := none
  steps : Nat := 0
  aliasSteps : Nat := 0

abbrev DecodeM := StateT Decoding (Except Problem)

/-- Markup classes by code as a mapping holds them: each code once, the latest setting first. -/
structure ClassMap where
  pairs : List (Bytes × Bytes)
  nodup : (pairs.map Prod.fst).Nodup

def ClassMap.empty : ClassMap := ⟨[], List.nodup_nil⟩

/-- Setting a code after dropping its earlier settings keeps each code once. -/
theorem ClassMap.nodup_set {l : List (Bytes × Bytes)} (h : (l.map Prod.fst).Nodup) (code cls : Bytes) :
    (((code, cls) :: l.filter (·.1 != code)).map Prod.fst).Nodup := by
  rw [List.map_cons, List.nodup_cons]
  refine ⟨fun hmem => ?_, h.sublist (List.filter_sublist.map _)⟩
  obtain ⟨p, hp, hcode⟩ := List.mem_map.mp hmem
  have hne := (List.mem_filter.mp hp).2
  rw [hcode, bne_self_eq_false] at hne
  cases hne

/-- Gives a code the class `cls`, in place of any class it had. -/
def ClassMap.set (m : ClassMap) (code cls : Bytes) : ClassMap :=
  ⟨(code, cls) :: m.pairs.filter (·.1 != code), ClassMap.nodup_set m.nodup code cls⟩

/-- The fields of a grammar file as they are decoded; classes are none until a mapping is
read. -/
structure FileFields where
  name : Bytes := []
  regions : List Bytes := []
  rules : List Bytes := []
  classes : Option ClassMap := none
  fallback : Bytes := []

/-- Whether a scalar is a string by how it is written or tagged. -/
def Node.indicatedString (n : Node) : Bool :=
  n.kind == .scalar && (shortTag n.tag == strTag || ((n.tag.isEmpty || n.tag == [0x21]) && n.style != .plain))

/-- The tag of a node that is not an alias. -/
def Node.ownTag (n : Node) : Bytes :=
  if n.indicatedString then strTag
  else if n.tag.isEmpty || n.tag == [0x21] then
    match n.kind with
    | .mapping => mapTag
    | .sequence => seqTag
    | .scalar => plainTag n.value
    | _ => []
  else shortTag n.tag

/-- The tag of a node, an alias having the tag of the node it names. -/
def shortTagOf (doc : Array Node) (n : Node) : Bytes :=
  if n.kind == .alias then (doc.getD n.target default).ownTag else n.ownTag

def Node.isMerge (n : Node) : Bool :=
  n.kind == .scalar && n.value == Bytes.ofString "<<" &&
    (n.tag.isEmpty || n.tag == [0x21] || shortTag n.tag == mergeTag)

def decimal (n : Nat) : Bytes := Bytes.ofString (toString n)

/-- Records that a node cannot be read as `into`. -/
def typeError (n : Node) (tag : Bytes) (into : String) : DecodeM Unit :=
  let tag := if n.tag.isEmpty then tag else n.tag
  let shown :=
    if tag != seqTag && tag != mapTag then
      if n.value.length > 10 then Bytes.ofString " `" ++ n.value.take 7 ++ Bytes.ofString "...`"
      else Bytes.ofString " `" ++ n.value ++ Bytes.ofString "`"
    else []
  modify fun d => { d with errors := d.errors.push (Bytes.ofString "line " ++ decimal n.line ++
    Bytes.ofString ": cannot unmarshal " ++ shortTag tag ++ shown ++ Bytes.ofString " into " ++
    Bytes.ofString into) }

/-- A refusal that stops decoding. -/
def abort {α : Type} (text : Bytes) : DecodeM α := throw (.plain text)

/-- Whether `a` steps through aliases out of `n` in all are more than a document of `n` steps
allows: 99% up to 400000 steps, 10% from 4000000 on, and a share falling evenly in between. -/
def excessive (a n : Nat) : Bool :=
  if n ≤ 400000 then 100 * a > 99 * n
  else if n ≥ 4000000 then 10 * a > n
  else 360000000 * a > n * (392000000 - 89 * n)

/-- Counts one decoding step, refusing a document whose steps come mostly through aliases:
more than 100 of them, more than 1000 steps in all, and too large a share. -/
def tick : DecodeM Unit := do
  let d ← get
  let steps := d.steps + 1
  let aliasSteps := if d.following.isEmpty then d.aliasSteps else d.aliasSteps + 1
  set { d with steps, aliasSteps }
  if aliasSteps > 100 && steps > 1000 && excessive aliasSteps steps then
    abort (Bytes.ofString "document contains excessive aliasing")

def pairs : List Nat → List (Nat × Nat)
  | k :: v :: rest => (k, v) :: pairs rest
  | _ => []

/-- Records the keys of a mapping that repeat an earlier key; answers whether there were any. -/
def duplicateKeys (doc : Array Node) (n : Node) : DecodeM Bool := do
  let keys := (pairs n.content).map fun (k, _) => doc.getD k default
  let found := keys.zipIdx.flatMap fun (ki, i) =>
    (keys.drop (i + 1)).filterMap fun kj =>
      if ki.kind == kj.kind && ki.value == kj.value then
        some (Bytes.ofString "line " ++ decimal kj.line ++ Bytes.ofString ": mapping key " ++
          Quoted.quote kj.value ++ Bytes.ofString " already defined at line " ++ decimal ki.line)
      else none
  modify fun d => { d with errors := d.errors ++ found.toArray }
  pure !found.isEmpty

def sextet? (c : UInt8) : Option Nat :=
  if 0x41 ≤ c && c ≤ 0x5A then some (c.toNat - 0x41)
  else if 0x61 ≤ c && c ≤ 0x7A then some (c.toNat - 0x61 + 26)
  else if 0x30 ≤ c && c ≤ 0x39 then some (c.toNat - 0x30 + 52)
  else if c == 0x2B then some 62
  else if c == 0x2F then some 63
  else none

/-- Decodes standard base64 with padding; line breaks are ignored. -/
def base64? (s : Bytes) : Option Bytes :=
  let s := s.filter fun c => c != 0x0A && c != 0x0D
  go s.length s []
where
  go : Nat → Bytes → Bytes → Option Bytes
    | _, [], acc => some acc
    | 0, _, _ => none
    | fuel + 1, a :: b :: c :: d :: rest, acc =>
      match sextet? a, sextet? b, sextet? c, sextet? d, c == 0x3D, d == 0x3D with
      | some x, some y, some z, some w, _, _ =>
        let v := x * 262144 + y * 4096 + z * 64 + w
        go fuel rest (acc ++ [(v / 65536).toUInt8, (v / 256 % 256).toUInt8, (v % 256).toUInt8])
      | some x, some y, some z, none, _, true =>
        if rest.isEmpty then some (acc ++ [((x * 262144 + y * 4096 + z * 64) / 65536).toUInt8,
          ((x * 262144 + y * 4096 + z * 64) / 256 % 256).toUInt8]) else none
      | some x, some y, none, none, true, true =>
        if rest.isEmpty then some (acc ++ [((x * 262144 + y * 4096) / 65536).toUInt8]) else none
      | _, _, _, _, _, _ => none
    | _ + 1, _, _ => none

/-- A scalar's tag and, unless it is null, its value as a string. -/
def scalarValue (n : Node) : DecodeM (Bytes × Option Bytes) :=
  if n.indicatedString then pure (strTag, some n.value)
  else match resolve n.tag n.value with
    | .error t => abort t
    | .ok (tag, isNull) =>
      if tag == binaryTag then
        match base64? n.value with
        | some d => pure (tag, some d)
        | none => abort (Bytes.ofString "!!binary value contains invalid base64 data")
      else if isNull then pure (tag, none)
      else pure (tag, some n.value)

/-- Reads an alias as the node it names, refusing one that is already being read. -/
def follow {α : Type} (n : Node) (id : Nat) (read : DecodeM α) : DecodeM α := do
  if (← get).following.contains id then
    abort (Bytes.ofString "anchor '" ++ n.value ++ Bytes.ofString "' value contains itself")
  modify fun d => { d with following := id :: d.following }
  let r ← read
  modify fun d => { d with following := d.following.drop 1 }
  pure r

/-- Reads a node as a string; none leaves the string as it was. -/
def readString (doc : Array Node) : Nat → Nat → DecodeM (Option Bytes)
  | 0, _ => pure none
  | fuel + 1, id => do
    tick
    let n := doc.getD id default
    match n.kind with
    | .alias => follow n id (readString doc fuel n.target)
    | .scalar => do pure (← scalarValue n).2
    | .sequence => do typeError n seqTag "string"; pure none
    | .mapping => do
      if ← duplicateKeys doc n then pure none
      else do typeError n mapTag "string"; pure none
    | .document => match n.content with
      | [c] => readString doc fuel c
      | _ => pure none

/-- Reads a scalar as a collection or a record named `into`: null gives `onNull`, anything else
is a type error. -/
def scalarAs {α : Type} (n : Node) (into : String) (onNull : Option α) : DecodeM (Option α) := do
  let (tag, v) ← scalarValue n
  match v with
  | none => pure onNull
  | some _ => do typeError n tag into; pure none

/-- Reads a node as a list of strings; none leaves the list as it was. -/
def readStrings (doc : Array Node) : Nat → Nat → DecodeM (Option (List Bytes))
  | 0, _ => pure none
  | fuel + 1, id => do
    tick
    let n := doc.getD id default
    match n.kind with
    | .alias => follow n id (readStrings doc fuel n.target)
    | .scalar => scalarAs n "[]string" (some [])
    | .mapping => do
      if ← duplicateKeys doc n then pure none
      else do typeError n mapTag "[]string"; pure none
    | .sequence => do
      let items ← n.content.filterMapM fun c => readString doc fuel c
      pure (some items)
    | .document => pure none

/-- The string a key stands for when it is read as a value of any type: a string, a decoded
binary, or the text of a key whose tag resolution does not apply to; none for a key that reads
as a null, a number, a boolean, a time or a collection. -/
def keyString? (n : Node) : Option Bytes :=
  if n.kind != .scalar then none
  else if n.indicatedString then some n.value
  else match resolve n.tag n.value with
    | .error _ => none
    | .ok (tag, isNull) =>
      if isNull then none
      else if tag == binaryTag then base64? n.value
      else if tag == strTag || tag == mergeTag || !resolvable tag then some n.value
      else none

/-- The keys of a mapping that are strings, which merged mappings may not set again. -/
def ownKeys (doc : Array Node) (n : Node) : List Bytes :=
  (pairs n.content).filterMap fun (k, _) =>
    let kn := doc.getD k default
    keyString? (if kn.kind == .alias then doc.getD kn.target default else kn)

/-- Takes the decoding steps of reading a node as a value of any type, as merging does with the
keys of a mapping: one for the node, and those of what it holds. -/
def countAny (doc : Array Node) : Nat → Nat → DecodeM Unit
  | 0, _ => pure ()
  | fuel + 1, id => do
    tick
    let n := doc.getD id default
    match n.kind with
    | .alias => follow n id (countAny doc fuel n.target)
    | .sequence => n.content.forM (countAny doc fuel)
    | .mapping =>
      if ← duplicateKeys doc n then pure ()
      else do
        let ps := pairs n.content
        let mergeAt := ps.find? fun (k, _) => (doc.getD k default).isMerge
        for (k, v) in ps do
          if !(doc.getD k default).isMerge then
            countAny doc fuel k
            countAny doc fuel v
        match mergeAt with
        | some (_, v) =>
          for (k, _) in ps do countAny doc fuel k
          let m := doc.getD v default
          if m.kind == .sequence then m.content.forM (countAny doc fuel) else countAny doc fuel v
        | none => pure ()
    | _ => pure ()

/-- Merges the mappings `m` names into a value, by `read`, keeping the keys `parent` already
set. The first merge of a mapping reads each of its keys as a value of any type to find them. -/
def mergeInto {α : Type} (doc : Array Node) (fuel : Nat) (parent m : Node) (value : α)
    (read : Nat → α → DecodeM α) (mId : Nat) : DecodeM α := do
  let saved := (← get).merged
  if saved.isNone then
    for (k, _) in pairs parent.content do countAny doc fuel k
    modify fun d => { d with merged := some (ownKeys doc parent) }
  let wantMap := Bytes.ofString "map merge requires map or sequence of maps as the value"
  let isMapping (id : Nat) : Bool :=
    let x := doc.getD id default
    x.kind == .mapping || (x.kind == .alias && (doc.getD x.target default).kind == .mapping)
  let value ← match m.kind with
    | .mapping => read mId value
    | .alias => if isMapping mId then read mId value else abort wantMap
    | .sequence => m.content.foldlM (fun v c => if isMapping c then read c v else abort wantMap) value
    | _ => abort wantMap
  modify fun d => { d with merged := saved }
  pure value

/-- Takes a key for a record or mapping unless a merge already set it. -/
def claimKey (key : Bytes) : DecodeM Bool := do
  match (← get).merged with
  | none => pure true
  | some keys =>
    if keys.contains key then pure false
    else do modify fun d => { d with merged := some (key :: keys) }; pure true

/-- Reads a node as a mapping of strings into `m`, none being a mapping not yet made. -/
def readClasses (doc : Array Node) : Nat → Nat → Option ClassMap → DecodeM (Option ClassMap)
  | 0, _, m => pure m
  | fuel + 1, id, m => do
    tick
    let n := doc.getD id default
    match n.kind with
    | .alias => follow n id (readClasses doc fuel n.target m)
    | .scalar => do
      match ← scalarAs n "map[string]string" (some ()) with
      | some () => pure none
      | none => pure m
    | .sequence => do typeError n seqTag "map[string]string"; pure m
    | .document => pure m
    | .mapping => do
      if ← duplicateKeys doc n then return m
      let merged := (← get).merged
      modify fun d => { d with merged := none }
      let fresh := m.isNone
      let step (acc : ClassMap × Option Nat × Option (List Bytes)) (kv : Nat × Nat) :
          DecodeM (ClassMap × Option Nat × Option (List Bytes)) := do
        let (entries, mergeAt, claimed) := acc
        let (k, v) := kv
        if (doc.getD k default).isMerge then return (entries, some v, claimed)
        match ← readString doc fuel k with
        | none => pure (entries, mergeAt, claimed)
        | some key =>
          let (ok, claimed) := match claimed with
            | none => (true, none)
            | some ks => if ks.contains key then (false, some ks) else (true, some (key :: ks))
          if !ok then return (entries, mergeAt, claimed)
          let value ← readString doc fuel v
          let isNull := shortTagOf doc (doc.getD v default) == nullTag
          if value.isSome || (isNull && (fresh || entries.pairs.lookup key == none)) then
            pure (entries.set key (value.getD []), mergeAt, claimed)
          else pure (entries, mergeAt, claimed)
      let (entries, mergeAt, claimed) ← (pairs n.content).foldlM step (m.getD .empty, none, merged)
      modify fun d => { d with merged := claimed }
      match mergeAt with
      | some mId =>
        let r ← mergeInto doc fuel n (doc.getD mId default) (some entries)
          (fun c acc => readClasses doc fuel c acc) mId
        pure r
      | none => pure (some entries)

/-- Reads the fields of a record, whose type is named `into`, from a mapping: `field` reads the
value of a known key into the record. -/
def readRecord {α : Type} (doc : Array Node) (n : Node) (into : String) (fields : List String)
    (field : String → Nat → α → DecodeM α) (value : α) : DecodeM (α × Option Nat) := do
  let merged := (← get).merged
  modify fun d => { d with merged := none }
  let step (acc : α × Option Nat × List String × Option (List Bytes)) (kv : Nat × Nat) :
      DecodeM (α × Option Nat × List String × Option (List Bytes)) := do
    let (value, mergeAt, done, claimed) := acc
    let (k, v) := kv
    let kn := doc.getD k default
    if kn.isMerge then return (value, some v, done, claimed)
    match ← readString doc doc.size k with
    | none => pure (value, mergeAt, done, claimed)
    | some key =>
      let (ok, claimed) := match claimed with
        | none => (true, none)
        | some ks => if ks.contains key then (false, some ks) else (true, some (key :: ks))
      if !ok then return (value, mergeAt, done, claimed)
      match fields.find? (fun f => Bytes.ofString f == key) with
      | none => pure (value, mergeAt, done, claimed)
      | some f =>
        if done.contains f then
          modify fun d => { d with errors := d.errors.push (Bytes.ofString "line " ++ decimal kn.line ++
            Bytes.ofString ": field " ++ key ++ Bytes.ofString " already set in type " ++ Bytes.ofString into) }
          pure (value, mergeAt, done, claimed)
        else
          let value ← field f v value
          pure (value, mergeAt, f :: done, claimed)
  let (value, mergeAt, _, claimed) ← (pairs n.content).foldlM step (value, none, [], merged)
  modify fun d => { d with merged := claimed }
  pure (value, mergeAt)

/-- Reads a node as the markup part of a grammar file. -/
def readMarkup (doc : Array Node) : Nat → Nat → FileFields → DecodeM FileFields
  | 0, _, f => pure f
  | fuel + 1, id, f => do
    tick
    let n := doc.getD id default
    let into := "highlight.MarkupRule"
    match n.kind with
    | .alias => follow n id (readMarkup doc fuel n.target f)
    | .scalar => do let _ ← scalarAs n into (none : Option Unit); pure f
    | .sequence => do typeError n seqTag into; pure f
    | .document => pure f
    | .mapping => do
      if ← duplicateKeys doc n then return f
      let field (name : String) (v : Nat) (f : FileFields) : DecodeM FileFields :=
        if name == "classes" then do pure { f with classes := ← readClasses doc fuel v f.classes }
        else do pure { f with fallback := (← readString doc fuel v).getD f.fallback }
      let (f, mergeAt) ← readRecord doc n into ["classes", "fallback"] field f
      match mergeAt with
      | some mId => mergeInto doc fuel n (doc.getD mId default) f (fun c f => readMarkup doc fuel c f) mId
      | none => pure f

def readFile (doc : Array Node) : Nat → Nat → FileFields → DecodeM FileFields
  | 0, _, f => pure f
  | fuel + 1, id, f => do
    tick
    let n := doc.getD id default
    let into := "highlight.GrammarFile"
    match n.kind with
    | .alias => follow n id (readFile doc fuel n.target f)
    | .scalar => do let _ ← scalarAs n into (none : Option Unit); pure f
    | .sequence => do typeError n seqTag into; pure f
    | .document => match n.content with
      | [c] => readFile doc fuel c f
      | _ => pure f
    | .mapping => do
      if ← duplicateKeys doc n then return f
      let field (name : String) (v : Nat) (f : FileFields) : DecodeM FileFields :=
        if name == "name" then do pure { f with name := (← readString doc fuel v).getD f.name }
        else if name == "multiline" then do pure { f with regions := (← readStrings doc fuel v).getD f.regions }
        else if name == "rules" then do pure { f with rules := (← readStrings doc fuel v).getD f.rules }
        else readMarkup doc fuel v f
      let (f, mergeAt) ← readRecord doc n into ["name", "multiline", "rules", "markup"] field f
      match mergeAt with
      | some mId => mergeInto doc fuel n (doc.getD mId default) f (fun c f => readFile doc fuel c f) mId
      | none => pure f

/-- Reads a grammar file from YAML: the first document, if any, decoded as a grammar file. -/
def parseGrammarFile (input : Bytes) : Except Failure GrammarFile := do
  let text ← (decodeText input).mapError .malformed
  let root ← (compose text).mapError .malformed
  match root with
  | none => pure {}
  | some (r, doc) =>
    match (readFile doc (2 * doc.size + 4) r {}).run {} with
    | .error p => throw (.malformed p)
    | .ok (f, d) =>
      if d.errors.isEmpty then
        pure { name := f.name, regions := f.regions, rules := f.rules,
               classes := (f.classes.getD .empty).pairs, fallback := f.fallback,
               classes_nodup := (f.classes.getD .empty).nodup }
      else throw (.types d.errors.toList)

end SyntaxShade.Yaml
