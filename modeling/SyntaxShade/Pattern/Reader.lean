import SyntaxShade.Pattern.Tree
import SyntaxShade.Pattern.Error
/-! The reader's stack of pieces and markers: joining literals, factoring alternations, and the
bounds on nesting and on size past which a tree is refused. -/
namespace SyntaxShade.Pattern

/-- The flags that change how the rest of a group is read. -/
structure Flags where
  /-- `i`: letters match up to case. -/
  fold : Bool := false
  /-- `m`: `^` and `$` match at line breaks too. -/
  multiLine : Bool := false
  /-- `s`: `.` matches a line break too. -/
  dotNL : Bool := false
  /-- `U`: repetitions prefer fewer copies. -/
  nonGreedy : Bool := false
  deriving Repr, BEq

/-- An entry of the reader's stack. -/
inductive Entry where
  /-- A finished piece. -/
  | piece (t : Tree)
  /-- The start of a group, with the flags to restore when it closes. -/
  | group (saved : Flags) (capturing : Bool)
  /-- The bar of the alternation being read. -/
  | bar

/-- The size of an entry; a marker counts one. -/
def Entry.size : Entry → Nat
  | .piece t => t.size
  | _ => 1

/-- The deepest nesting a tree may have. -/
def heightLimit : Nat := 1000

/-- The most instructions a tree may be estimated to take. -/
def sizeLimit : Nat := 3355443

/-- The most rune bounds the pieces may hold in all. -/
def runeLimit : Nat := 33554432

/-- The state of the reader. -/
structure Reader where
  /-- The whole expression, shown by errors about parentheses and limits. -/
  whole : Bytes
  flags : Flags := {}
  /-- The stack, top first. -/
  stack : List Entry := []
  /-- The text from the last repetition operator on, when the previous step read one. -/
  lastRepeat : Bytes := []
  /-- The pieces made new. -/
  made : Nat := 0
  /-- The pieces given up, to be made again before new ones. -/
  spare : Nat := 0
  /-- The rune bounds of every piece pushed, counted at each push. -/
  runes : Nat := 0
  /-- The product of the repetition counts seen, at most `sizeLimit`. -/
  repeats : Nat := 1
  /-- Whether sizes are measured. -/
  sizing : Bool := false

/-- The start of `x` up to where `rest` begins. -/
def before (x rest : Bytes) : Bytes := x.take (x.length - rest.length)

/-- A repetition operator. -/
inductive Repetition where
  /-- `*` -/
  | star
  /-- `+` -/
  | plus
  /-- `?` -/
  | quest
  /-- `{min}`, `{min,}` or `{min,max}`. -/
  | count (min : Nat) (max : Option Nat)

/-- The repetition of a piece, preferring fewer copies when `lazy` is set. -/
def Repetition.apply : Repetition → Tree → Bool → Tree
  | .star, t, _ => .star t
  | .plus, t, _ => .plus t
  | .quest, t, _ => .quest t
  | .count min max, t, lazy => .repeat t min max lazy

namespace Reader

def refuse {α : Type} (st : Reader) (code : ErrorCode) : Except Error α := .error ⟨code, st.whole⟩

/-- Makes a piece: one given up before, or a new one. -/
def make (st : Reader) : Reader :=
  if st.spare > 0 then { st with spare := st.spare - 1 } else { st with made := st.made + 1 }

def giveUp (st : Reader) (k : Nat) : Reader := { st with spare := st.spare + k }

/-- Measures the size of a piece, or of a marker when `t` is none. Before sizes are measured, a
counted repetition adds its upper count (its lower one when it has none) to the product; when the
pieces made reach the bound over that product, measuring starts with every entry of the stack. -/
def checkSize (st : Reader) (t : Option Tree) : Except Error Reader :=
  let tooLarge (t : Option Tree) : Bool := (t.map Tree.size).getD 1 > sizeLimit
  if st.sizing then
    if tooLarge t then st.refuse .tooLarge else .ok st
  else
    let repeats :=
      match t with
      | some (.repeat _ min max _) =>
        let n := max.getD min
        let n := if n = 0 then 1 else n
        if n > sizeLimit / st.repeats then sizeLimit else st.repeats * n
      | _ => st.repeats
    let st := { st with repeats }
    if st.made < sizeLimit / repeats then .ok st
    else
      let st := { st with sizing := true }
      if st.stack.any (·.size > sizeLimit) || tooLarge t then st.refuse .tooLarge else .ok st

/-- Checks the bounds after a piece, or a marker when `t` is none, was made or changed. -/
def checkLimits (st : Reader) (t : Option Tree) : Except Error Reader := do
  if st.runes > runeLimit then st.refuse .tooLarge
  let st ← st.checkSize t
  if (t.map Tree.height).getD 1 > heightLimit then st.refuse .nestingDepth
  pure st

/-- Joins the top piece to the one below it when both are literals that fold alike. -/
def joinTop (st : Reader) : Reader :=
  match st.stack with
  | .piece (.literal r₁ f₁) :: .piece (.literal r₂ f₂) :: rest =>
    if f₁ == f₂ then { st with stack := .piece (.literal (r₂ ++ r₁) f₂) :: rest, spare := st.spare + 1 }
    else st
  | _ => st

def pushMarker (st : Reader) (e : Entry) : Except Error Reader :=
  let st := st.joinTop
  { st with stack := e :: st.stack }.checkLimits none

/-- Pushes a piece. A class of one rune, or of a case pair, goes on as a literal; when the two
pieces below are literals that fold alike, they are joined and no check is made. -/
def push (st : Reader) (t : Tree) : Except Error Reader :=
  let st := { st with runes := st.runes + t.runeCount }
  match t.single? with
  | some (c, fold) =>
    let lit := Tree.literal [c] fold
    match st.stack with
    | .piece (.literal r₁ f₁) :: .piece (.literal r₂ f₂) :: rest =>
      if f₁ == f₂ then .ok { st with stack := .piece lit :: .piece (.literal (r₂ ++ r₁) f₂) :: rest }
      else { st with stack := .piece lit :: st.stack }.checkLimits (some lit)
    | _ => { st with stack := .piece lit :: st.stack }.checkLimits (some lit)
  | none =>
    let st := st.joinTop
    { st with stack := .piece t :: st.stack }.checkLimits (some t)

def op (st : Reader) (t : Tree) : Except Error Reader := st.make.push t

/-- Pushes a literal rune, as the least rune of its case orbit when folding. -/
def literal (st : Reader) (c : Nat) : Except Error Reader :=
  if st.flags.fold then st.make.push (.literal [(Unicode.orbit c).foldl min c] true)
  else st.make.push (.literal [c] false)

/-- Applies a repetition to the piece on top. `op` is the text from the operator on and `after`
the text after it; a `?` that follows asks for fewer copies. A repetition right after another,
or with no piece to repeat, is refused; so is a counted one that makes more than 1000 copies of
what it repeats innermost. -/
def repeatTop (st : Reader) (r : Repetition) (op after : Bytes) : Except Error (Reader × Bytes) :=
  let (after, lazy) := match after with
    | 0x3F :: rest => (rest, !st.flags.nonGreedy)
    | rest => (rest, st.flags.nonGreedy)
  if st.lastRepeat ≠ [] then .error ⟨.invalidRepeatOp, before st.lastRepeat after⟩
  else
    match st.stack with
    | .piece t :: rest => do
      let node := r.apply t lazy
      let st ← { st.make with stack := .piece node :: rest }.checkLimits (some node)
      let large := match r with
        | .count min max => (2 ≤ min || max.any (2 ≤ ·)) && !node.withinCopies 1000
        | _ => false
      if large then .error ⟨.invalidRepeatSize, before op after⟩
      else pure ({ st with lastRepeat := op }, after)
    | _ => .error ⟨.missingRepeatArgument, before op after⟩

/-- The pieces above the nearest marker, bottom first, and the stack below them. -/
def splitTop (stack : List Entry) : List Tree × List Entry := go [] stack
where
  /-- Moves the pieces from the top of the stack onto `acc`, so the lowest ends up first. -/
  go : List Tree → List Entry → List Tree × List Entry
    | acc, .piece t :: rest => go (t :: acc) rest
    | acc, rest => (acc, rest)

/-- Joins the members of a list that are concatenations (or alternations, when `alt` is set)
into it, with how many nodes that gives up. -/
def flatten (alt : Bool) : List Tree → List Tree × Nat
  | [] => ([], 0)
  | t :: ts =>
    let (rest, k) := flatten alt ts
    match alt, t with
    | false, .concat subs | true, .alternate subs => (subs ++ rest, k + 1)
    | _, _ => (t :: rest, k)

/-- Removes `n` leading literal runes from an alternative that starts with them. -/
def dropString (st : Reader) (n : Nat) : Tree → Reader × Tree
  | .concat (first :: more) =>
    match first with
    | .literal rs f =>
      if rs.length ≤ n then
        let st := st.giveUp 1
        match more with
        | [] => (st, .emptyMatch)
        | [x] => (st.giveUp 1, x)
        | xs => (st, .concat xs)
      else (st, .concat (.literal (rs.drop n) f :: more))
    | _ => (st, .concat (first :: more))
  | .literal rs f => if rs.length ≤ n then (st, .emptyMatch) else (st, .literal (rs.drop n) f)
  | t => (st, t)

/-- Removes the leading piece of an alternative; `reuse` gives the piece up. -/
def dropPiece (st : Reader) (reuse : Bool) : Tree → Reader × Tree
  | .concat (_ :: more) =>
    let st := if reuse then st.giveUp 1 else st
    match more with
    | [] => (st, .emptyMatch)
    | [x] => (st.giveUp 1, x)
    | xs => (st, .concat xs)
  | _ => ((if reuse then st.giveUp 1 else st).make, .emptyMatch)

/-- The length of the common start of two rune lists. -/
def commonPrefix : List Nat → List Nat → Nat
  | a :: as, b :: bs => if a = b then commonPrefix as bs + 1 else 0
  | _, _ => 0

/-- Joins a run of single-rune pieces into one, starting from the first most complex piece. -/
def joinPieces (st : Reader) (run : List Tree) : Reader × Tree :=
  match run with
  | [] => (st, .noMatch)
  | [t] => (st, t)
  | t :: ts =>
    let best := ts.foldl (fun b x =>
      if b.rank < x.rank || (b.rank == x.rank && b.runeCount < x.runeCount) then x else b) t
    let idx := (run.findIdx? (fun x => x.rank == best.rank && x.runeCount == best.runeCount)).getD 0
    let others := run.eraseIdx idx
    (st.giveUp others.length, Tree.tidy (others.foldl Tree.absorb (run.getD idx t)))

/-- Round three of factoring: runs of single-rune alternatives become one piece. -/
def joinRuns (st : Reader) : List Tree → List Tree → Reader × List Tree
  | [], run => let (st, t) := st.joinPieces run.reverse; (st, if run.isEmpty then [] else [t])
  | x :: xs, run =>
    if x.isCharClass then joinRuns st xs (x :: run)
    else
      let (st, t) := st.joinPieces run.reverse
      let (st, rest) := joinRuns st xs []
      (st, (if run.isEmpty then [] else [t]) ++ x :: rest)

/-- Round four of factoring: an empty alternative followed by another is dropped. -/
def dropEmpties : List Tree → List Tree
  | [] => []
  | t :: rest =>
    match t, rest with
    | .emptyMatch, .emptyMatch :: _ => dropEmpties rest
    | _, _ => t :: dropEmpties rest

/-- Removes the leading string of `n` runes from each alternative of a run, checking the bounds
after each. -/
def dropStrings (st : Reader) (n : Nat) : List Tree → Except Error (Reader × List Tree)
  | [] => .ok (st, [])
  | t :: ts => do
    let (st, t) := st.dropString n t
    let st ← st.checkLimits (some t)
    let (st, ts) ← dropStrings st n ts
    pure (st, t :: ts)

/-- Removes the leading piece of each alternative of a run, checking the bounds after each; the
piece of the first stays as the factor, those of the others are given up. -/
def dropPieces (st : Reader) (reuse : Bool) : List Tree → Except Error (Reader × List Tree)
  | [] => .ok (st, [])
  | t :: ts => do
    let (st, t) := st.dropPiece reuse t
    let st ← st.checkLimits (some t)
    let (st, ts) ← dropPieces st true ts
    pure (st, t :: ts)

mutual

/-- Joins a list of pieces into one concatenation (or alternation, when `alt` is set),
factoring an alternation. One piece stays as it is. -/
def collapse (st : Reader) (alt : Bool) (subs : List Tree) : Nat → Except Error (Reader × Tree)
  | 0 => .ok (st, if alt then .alternate subs else .concat subs)
  | fuel + 1 =>
    match subs with
    | [t] => .ok (st, t)
    | _ =>
      let st := st.make
      let (flat, k) := flatten alt subs
      let st := st.giveUp k
      if !alt then .ok (st, .concat flat)
      else do
        let (st, fs) ← factor st flat fuel
        match fs with
        | [t] => pure (st.giveUp 1, t)
        | _ => pure (st, .alternate fs)

/-- Factors a list of alternatives in four rounds. -/
def factor (st : Reader) (subs : List Tree) : Nat → Except Error (Reader × List Tree)
  | 0 => .ok (st, subs)
  | fuel + 1 =>
    if subs.length < 2 then .ok (st, subs)
    else do
      let (st, subs) ← byString st subs [] [] false fuel
      let (st, subs) ← byPiece st subs [] none fuel
      let (st, subs) := joinRuns st subs []
      pure (st, dropEmpties subs)

/-- Round one: alternatives that start with a common literal string, each run of them kept in
`run` (last first) with the string `str`, become the string followed by the alternation of what
follows it. -/
def byString (st : Reader) (subs run : List Tree) (str : List Nat) (fold : Bool) :
    Nat → Except Error (Reader × List Tree)
  | 0 => .ok (st, run.reverse ++ subs)
  | fuel + 1 =>
    match subs with
    | [] => stringRun st run.reverse str fold fuel
    | x :: xs =>
      let (istr, ifold) := x.leadingString
      let same := commonPrefix str istr
      if ifold == fold && same > 0 then byString st xs (x :: run) (str.take same) fold fuel
      else do
        let (st, out) ← stringRun st run.reverse str fold fuel
        let (st, rest) ← byString st xs [x] istr ifold fuel
        pure (st, out ++ rest)

/-- Factors one run of round one. -/
def stringRun (st : Reader) (run : List Tree) (str : List Nat) (fold : Bool) :
    Nat → Except Error (Reader × List Tree)
  | 0 => .ok (st, run)
  | fuel + 1 =>
    match run with
    | [] | [_] => .ok (st, run)
    | _ => do
      let (st, rest) ← dropStrings st.make str.length run
      let (st, suffix) ← collapse st true rest fuel
      pure (st.make, [.concat [.literal str fold, suffix]])

/-- Round two: alternatives that start with the same single-rune piece, or a fixed repetition
of one, become that piece followed by the alternation of what follows it. -/
def byPiece (st : Reader) (subs run : List Tree) (first : Option Tree) :
    Nat → Except Error (Reader × List Tree)
  | 0 => .ok (st, run.reverse ++ subs)
  | fuel + 1 =>
    match subs with
    | [] => pieceRun st run.reverse first fuel
    | x :: xs =>
      let ifirst := x.leadingPiece
      let joins := match first, ifirst with
        | some f, some g => f.same g && f.factorable
        | _, _ => false
      if joins then byPiece st xs (x :: run) first fuel
      else do
        let (st, out) ← pieceRun st run.reverse first fuel
        let (st, rest) ← byPiece st xs [x] ifirst fuel
        pure (st, out ++ rest)

/-- Factors one run of round two. -/
def pieceRun (st : Reader) (run : List Tree) (first : Option Tree) :
    Nat → Except Error (Reader × List Tree)
  | 0 => .ok (st, run)
  | fuel + 1 =>
    match run, first with
    | [], _ | [_], _ => .ok (st, run)
    | _, none => .ok (st, run)
    | _, some lead => do
      let (st, rest) ← dropPieces st false run
      let (st, suffix) ← collapse st true rest fuel
      pure (st.make, [.concat [lead, suffix]])

end

/-- The fuel for joining the pieces `subs`: more than the longest chain of factoring steps, which
takes at most a few steps per rune or piece of them. -/
def factorFuel (subs : List Tree) : Nat := 8 * Tree.totalSize subs + 16

/-- Turns the pieces above the nearest marker into one concatenation; none gives an empty
match. -/
def concat (st : Reader) : Except Error Reader := do
  let st := st.joinTop
  let (subs, below) := splitTop st.stack
  let st := { st with stack := below }
  match subs with
  | [] => st.make.push .emptyMatch
  | _ =>
    let (st, t) ← collapse st false subs (factorFuel subs)
    st.push t

/-- Turns the pieces above the nearest marker into one alternation; none gives no match. -/
def alternate (st : Reader) : Except Error Reader := do
  let (subs, below) := splitTop st.stack
  let st := { st with stack := below }
  let subs := match subs.getLast? with
    | some t => subs.dropLast ++ [t.tidy]
    | none => []
  match subs with
  | [] => st.make.push .noMatch
  | _ =>
    let (st, t) ← collapse st true subs (factorFuel subs)
    st.push t

/-- Moves the alternative on top below the bar, joining it to the alternative there when both
are single-rune pieces; false when there is no bar below the top. -/
def swapBar (st : Reader) : Reader × Bool :=
  match st.stack with
  | .piece a :: .bar :: .piece b :: rest =>
    if a.isCharClass && b.isCharClass then
      let (dst, src) := if a.rank > b.rank then (a, b) else (b, a)
      ({ st with stack := .bar :: .piece (dst.absorb src) :: rest, spare := st.spare + 1 }, true)
    else ({ st with stack := .bar :: .piece a :: .piece b.tidy :: rest }, true)
  | .piece a :: .bar :: rest => ({ st with stack := .bar :: .piece a :: rest }, true)
  | _ => (st, false)

/-- Reads a bar: ends the current alternative. -/
def readBar (st : Reader) : Except Error Reader := do
  let st ← st.concat
  match st.swapBar with
  | (st, true) => pure st
  | (st, false) => st.make.pushMarker .bar

/-- Ends the alternation being read: the last alternative, then all of them. -/
def endAlternation (st : Reader) : Except Error Reader := do
  let st ← st.concat
  let st := match st.swapBar with
    | (st, true) => { st with stack := st.stack.drop 1 }
    | (st, false) => st
  st.alternate

/-- Reads a closing parenthesis: the group becomes one piece, captured or not, and the flags
from before it come back. A parenthesis that closes no group is refused. -/
def closeGroup (st : Reader) : Except Error Reader := do
  let st ← st.endAlternation
  match st.stack with
  | .piece t :: .group saved capturing :: rest =>
    Reader.push { st with stack := rest, flags := saved } (if capturing then .capture t else t)
  | _ => st.refuse .unexpectedParen

/-- The tree read, or a refusal when a group is still open. -/
def finish (st : Reader) : Except Error Tree := do
  let st ← st.endAlternation
  match st.stack with
  | [.piece t] => pure t
  | _ => st.refuse .missingParen

end Reader

end SyntaxShade.Pattern
