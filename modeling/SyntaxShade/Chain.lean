import SyntaxShade.Token
/-! Token chains: the tokens of one input in an arena of slots linked by index both ways. Merging
coalesces each run of one lexeme into its first slot and links around the others. -/
namespace SyntaxShade

/-- An arena slot: a token and the slots before and after it. -/
structure Link where
  token : Token
  prev : Option Nat
  next : Option Nat
  deriving Repr, DecidableEq

/-- Tokens in an arena of linked slots, with the first and last slot and the count of tokens. -/
structure Chain where
  links : Array Link
  head : Option Nat
  tail : Option Nat
  size : Nat
  deriving Repr

namespace Chain

def empty : Chain := ⟨#[], none, none, 0⟩

/-- Appends a token after the tail, in a new slot. -/
def push (c : Chain) (t : Token) : Chain :=
  let idx := c.links.size
  let links := c.links.push ⟨t, c.tail, none⟩
  match c.tail with
  | none => ⟨links, some idx, some idx, c.size + 1⟩
  | some j => ⟨links.modify j fun k => { k with next := some idx }, c.head, some idx, c.size + 1⟩

/-- Appends tokens in order. -/
def pushAll (c : Chain) (ts : List Token) : Chain := ts.foldl push c

/-- The slot after slot `i`: none after the tail, and after none. -/
def next (c : Chain) : Option Nat → Option Nat
  | none => none
  | some i => c.links[i]?.bind Link.next

/-- The slot before slot `i`: none before the head, and before none. -/
def prev (c : Chain) : Option Nat → Option Nat
  | none => none
  | some i => c.links[i]?.bind Link.prev

/-- The token in slot `i`; the empty token for none. -/
def tokenAt (c : Chain) : Option Nat → Token
  | none => ⟨[], .empty⟩
  | some i =>
    match c.links[i]? with
    | some k => k.token
    | none => ⟨[], .empty⟩

/-- Gives the token in slot `i` the lexeme `l`. -/
def retag (c : Chain) (i : Nat) (l : Lexeme) : Chain :=
  { c with links := c.links.modify i fun k => { k with token := { k.token with lexeme := l } } }

/-- The slots met following `step` from slot `i`, at most `fuel` of them. -/
def follow (c : Chain) (step : Link → Option Nat) : Nat → Option Nat → List Nat
  | 0, _ => []
  | _ + 1, none => []
  | n + 1, some i => i :: c.follow step n (c.links[i]?.bind step)

/-- The slots from the head on, in chain order. -/
def order (c : Chain) : List Nat := c.follow Link.next c.links.size c.head

/-- The slots from the tail back to the head. -/
def backward (c : Chain) : List Nat := c.follow Link.prev c.links.size c.tail

def tokens (c : Chain) : List Token := c.order.map fun i => c.tokenAt (some i)

/-- The text of a chain: the texts of its tokens, joined. -/
def text (c : Chain) : Bytes := Token.join c.tokens

/-- The run of slots from slot `j` on whose tokens have the lexeme `l`, at most `fuel` of them:
their texts joined, the slot after the run, and the length of the run. -/
def absorb (c : Chain) (l : Lexeme) : Nat → Option Nat → Bytes × Option Nat × Nat
  | 0, j => ([], j, 0)
  | _ + 1, none => ([], none, 0)
  | n + 1, some j =>
    match c.links[j]? with
    | some k =>
      if k.token.lexeme = l then
        let (rest, after, count) := c.absorb l n k.next
        (k.token.text ++ rest, after, count + 1)
      else ([], some j, 0)
    | none => ([], some j, 0)

/-- Appends `text` to the token in slot `i` and links slot `i` to slot `after`, which drops the
`count` tokens between them from the chain. -/
def splice (c : Chain) (i : Nat) (text : Bytes) (after : Option Nat) (count : Nat) : Chain :=
  let links := c.links.modify i fun k =>
    { k with token := { k.token with text := k.token.text ++ text }, next := after }
  match after with
  | none => ⟨links, c.head, some i, c.size - count⟩
  | some a => ⟨links.modify a fun k => { k with prev := some i }, c.head, c.tail, c.size - count⟩

/-- Merges the runs from slot `i` on, visiting at most `fuel` slots; `merged` tells whether a run
was merged before. Each run goes into its first slot. -/
def mergeFrom : Nat → Chain → Option Nat → Bool → Chain × Bool
  | 0, c, _, merged => (c, merged)
  | _ + 1, c, none, merged => (c, merged)
  | n + 1, c, some i, merged =>
    match c.links[i]? with
    | none => (c, merged)
    | some k =>
      match k.next with
      | none => mergeFrom n c none merged
      | some j =>
        if (c.tokenAt (some j)).lexeme ≠ k.token.lexeme then mergeFrom n c (some j) merged
        else
          let (rest, after, count) := c.absorb k.token.lexeme c.links.size (some j)
          mergeFrom n (c.splice i rest after count) after true

/-- Coalesces every run of neighbours that share a lexeme into its first token, and tells whether
any token was spliced out. -/
def merge (c : Chain) : Chain × Bool := mergeFrom c.links.size c c.head false

end Chain

end SyntaxShade
