import SyntaxShade.Rule
import SyntaxShade.Proofs.Pattern.Wrapping
/-! A rule condition compiled as `^(?:c)` matches only at the start of a token's text
(`Condition.compile_anchors_at_start`), unless its own parentheses do not balance
(`Step.condition_escapes_anchor`). -/
namespace SyntaxShade

theorem exists_ok_of_toOption_map_eq_some {ε α β : Type} {x : Except ε α} {f : α → β} {b : β}
    (h : x.toOption.map f = some b) : ∃ a, x = .ok a ∧ f a = b := by
  cases x with
  | error e => cases h
  | ok a => exact ⟨a, rfl, Option.some.inj h⟩

namespace Pattern

/-- The first position of a text alone, where a match from offset 0 starts. -/
def Subject.start (subj : Subject) : Positions := true :: subj.runes.map fun _ => false

/-- Whether the expression matches the text from offset 0. -/
def Node.matchesFromStart (n : Node) (text : Bytes) : Bool :=
  let subj := Subject.ofBytes text
  !(n.ends subj subj.start).none

theorem zipWith_isNone_zip {before after : List (Option Nat)} (h : before.length = after.length) :
    List.zipWith (fun ok p => ok && Assertion.holds .textStart p.1 p.2) (before.map fun _ => true)
      (before.zip after) = before.map Option.isNone := by
  induction before generalizing after with
  | nil => rfl
  | cons b bs ih =>
    cases after with
    | nil => cases h
    | cons a as =>
      simp only [List.map_cons, List.zip_cons_cons, List.zipWith_cons_cons, Bool.true_and,
        ih (Nat.succ.inj h)]
      rfl

theorem textStart_keeps_start (text : Bytes) :
    List.zipWith (fun ok p => ok && Assertion.holds .textStart p.1 p.2)
        ((Subject.ofBytes text).before.map fun _ => true)
        ((Subject.ofBytes text).before.zip (Subject.ofBytes text).after) =
      (Subject.ofBytes text).start := by
  rw [zipWith_isNone_zip (by simp only [Subject.ofBytes, List.length_cons, List.length_append,
    List.length_map, List.length_nil])]
  simp only [Subject.ofBytes, Subject.start, List.map_cons, List.map_map]
  rfl

/-- An expression that begins with the start-of-text assertion matches a text exactly when the rest
matches it from offset 0. -/
theorem matchesIn_anchored (parts : List Node) (text : Bytes) :
    (Node.concat (.assert .textStart :: parts)).matchesIn text = (Node.concat parts).matchesFromStart text := by
  simp only [Node.matchesIn, Node.matchesFromStart, Node.ends, Node.endsSeq, textStart_keeps_start]

/-- Past the assertion, the expression read from a text inside the wrapping group matches from
offset 0 exactly where the text's own expression does. -/
theorem matchesFromStart_wrapped (t : Tree) (text : Bytes) :
    (Node.concat (Tree.toNodes (Reader.flatten false [Reader.pushedPiece t]).1)).matchesFromStart text =
      t.toNode.matchesFromStart text := by
  simp only [Node.matchesFromStart, ends_concat_flatten, toNode_pushedPiece]

/-- The rest of an expression that begins with the start-of-text assertion; none for any other
expression. -/
def Node.anchoredRest? : Node → Option (List Node)
  | .concat (.assert .textStart :: parts) => some parts
  | _ => none

/-- The recognizer reads exactly the expressions that begin with the assertion; so `none` says
that an expression does not. -/
theorem Node.anchoredRest?_eq_some_iff {n : Node} {parts : List Node} :
    n.anchoredRest? = some parts ↔ n = .concat (.assert .textStart :: parts) := by
  constructor
  · intro h
    unfold anchoredRest? at h
    split at h
    · cases h
      rfl
    · cases h
  · rintro rfl
    rfl

end Pattern

namespace Condition

/-- A compiled condition whose expression is the start-of-text assertion followed by the rest
accepts a token text exactly when the rest matches it from offset 0: every match starts there. -/
theorem accepts_of_anchored {c : Condition} {parts : List Pattern.Node}
    (h : c.node = .concat (.assert .textStart :: parts)) (text : Bytes) :
    c.accepts text = (Pattern.Node.concat parts).matchesFromStart text := by
  rw [accepts, h, Pattern.matchesIn_anchored]

/-- A condition that is an expression on its own compiles to the start-of-text assertion followed
by the rest, and accepts a token text exactly when its own expression matches the text from
offset 0. -/
theorem compile_anchors_at_start {c : Bytes} {n : Pattern.Node} {cond : Condition}
    (hc : Pattern.parse c = .ok n) (h : compile c = .ok cond) :
    (∃ parts, cond.node = .concat (.assert .textStart :: parts)) ∧
      ∀ text, cond.accepts text = n.matchesFromStart text := by
  unfold compile at h
  rw [Pattern.ofString_open, Pattern.ofString_close] at h
  obtain ⟨T, hT, hn⟩ := exists_ok_of_map_eq_ok hc
  obtain ⟨n', hn', hcond⟩ := exists_ok_of_map_eq_ok h
  obtain ⟨T', hT', hn'⟩ := exists_ok_of_map_eq_ok hn'
  have hnode : cond.node = .concat (.assert .textStart ::
      Pattern.Tree.toNodes (Pattern.Reader.flatten false [Pattern.Reader.pushedPiece T]).1) := by
    rw [← hcond, ← hn', Pattern.parseTree_wrapped hT hT']
    rfl
  refine ⟨⟨_, hnode⟩, fun text => ?_⟩
  rw [accepts_of_anchored hnode, ← hn, Pattern.matchesFromStart_wrapped]

theorem compile_anchors_letter :
    ∃ n cond, Pattern.parse (Bytes.ofString "a") = .ok n ∧ compile (Bytes.ofString "a") = .ok cond ∧
      (∃ parts, cond.node = .concat (.assert .textStart :: parts)) ∧
      ∀ text, cond.accepts text = n.matchesFromStart text := by
  obtain ⟨n, hn, -⟩ := exists_ok_of_toOption_map_eq_some
    (show (Pattern.parse (Bytes.ofString "a")).toOption.map (fun _ => true) = some true by decide +kernel)
  obtain ⟨cond, hcond, -⟩ := exists_ok_of_toOption_map_eq_some
    (show (compile (Bytes.ofString "a")).toOption.map (fun _ => true) = some true by decide +kernel)
  exact ⟨n, cond, hn, hcond, compile_anchors_at_start hn hcond⟩

end Condition

namespace Step

/-- The step `ID(a)|(b:KW)` is read, although its condition `a)|(b` is no expression on its own:
it compiles to `^(?:a)|(b)`, which does not begin with the start-of-text assertion, accepts `xb`,
and has no match of `xb` from offset 0. -/
theorem condition_escapes_anchor :
    ∃ s c, parse (Bytes.ofString "ID(a)|(b:KW)") = .ok s ∧ s.condition = some c ∧
      c.source = Bytes.ofString "^(?:" ++ Bytes.ofString "a)|(b" ++ Bytes.ofString ")" ∧
      (Pattern.parse (Bytes.ofString "a)|(b")).isOk = false ∧ c.node.anchoredRest? = none ∧
      c.accepts (Bytes.ofString "xb") = true ∧ c.node.matchesFromStart (Bytes.ofString "xb") = false := by
  have hrun : ((parse (Bytes.ofString "ID(a)|(b:KW)")).toOption.map fun s => s.condition.map fun c =>
      (decide (c.source = Bytes.ofString "^(?:" ++ Bytes.ofString "a)|(b" ++ Bytes.ofString ")"),
        c.node.anchoredRest?.isNone, c.accepts (Bytes.ofString "xb"),
        c.node.matchesFromStart (Bytes.ofString "xb"))) =
      some (some (true, true, true, false)) := by
    decide +kernel
  have hbad : (Pattern.parse (Bytes.ofString "a)|(b")).isOk = false := by decide +kernel
  obtain ⟨s, hs, hsum⟩ := exists_ok_of_toOption_map_eq_some hrun
  obtain ⟨c, hc, hcsum⟩ := Option.map_eq_some_iff.mp hsum
  simp only [Prod.mk.injEq, decide_eq_true_eq, Option.isNone_iff_eq_none] at hcsum
  exact ⟨s, c, hs, hc, hcsum.1, hbad, hcsum.2.1, hcsum.2.2.1, hcsum.2.2.2⟩

end Step

end SyntaxShade
