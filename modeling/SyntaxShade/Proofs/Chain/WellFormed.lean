import SyntaxShade.Proofs.Grammar.Stages
import Mathlib.Data.List.Chain
/-! Every chain built from the empty chain by pushes, retags and merges is a doubly linked list
over its arena (`Chain.wellFormed_of_reachable`). -/
namespace SyntaxShade

namespace Chain

/-- The chains that pushes, retags and merges build from the empty chain. -/
inductive Reachable : Chain → Prop
  | empty : Reachable empty
  | push {c : Chain} (t : Token) : Reachable c → Reachable (c.push t)
  | retag {c : Chain} (i : Nat) (l : Lexeme) : Reachable c → Reachable (c.retag i l)
  | merge {c : Chain} : Reachable c → Reachable c.merge.1

/-- A doubly linked list over the arena: the walk from the head visits `size` distinct slots of the
arena and stops at the tail, the link back from each slot undoes the link forward to it, the chain
has no ends exactly when it has no tokens, nothing lies before the head or after the tail, and the
walk back from the tail is the walk forward reversed. -/
structure WellFormed (c : Chain) : Prop where
  lt_size : ∀ x ∈ c.order, x < c.links.size
  nodup : c.order.Nodup
  length_order : c.order.length = c.size
  head_eq : c.head = c.order.head?
  tail_eq : c.tail = c.order.getLast?
  ends_eq_none_iff : c.head = none ∧ c.tail = none ↔ c.size = 0
  links : c.order.IsChain fun x y => c.next (some x) = some y ∧ c.prev (some y) = some x
  prev_head : c.prev c.head = none
  next_tail : c.next c.tail = none
  backward_eq : c.backward = c.order.reverse

theorem Path.isChain {links : Array Link} {step : Link → Option Nat} {i j : Option Nat}
    {l : List Nat} (h : Path links step i l j) : l.IsChain fun x y => links[x]?.bind step = some y := by
  induction l generalizing i with
  | nil => exact .nil
  | cons x l ih =>
    obtain ⟨-, k, hk, hp⟩ := Path.cons_iff.mp h
    cases l with
    | nil => exact .singleton x
    | cons y l =>
      have hy : step k = some y := (Path.start hp (List.cons_ne_nil y l)).trans rfl
      exact .cons_cons (by rw [hk, Option.bind_some, hy]) (ih hp)

theorem Path.step_getLast {links : Array Link} {step : Link → Option Nat} {i : Option Nat}
    {l : List Nat} (h : Path links step i l none) : ∀ x ∈ l.getLast?, links[x]?.bind step = none := by
  intro x hx
  obtain ⟨pre, rfl⟩ := List.getLast?_eq_some_iff.mp hx
  obtain ⟨m, -, hlast⟩ := Path.append_iff.mp h
  obtain ⟨-, k, hk, hp⟩ := Path.cons_iff.mp hlast
  rw [hk, Option.bind_some, ← Path.nil_iff.mp hp]

theorem Spans.wellFormed {c : Chain} {ord : List Nat} (h : c.Spans ord) : c.WellFormed where
  lt_size x hx := h.lt_size (h.order_eq ▸ hx)
  nodup := h.order_eq ▸ h.nodup
  length_order := by rw [h.order_eq, h.size_eq]
  head_eq := by rw [h.order_eq, h.head_eq]
  tail_eq := by rw [h.order_eq, h.tail_eq]
  ends_eq_none_iff := by
    rw [h.head_eq, h.tail_eq, h.size_eq, List.head?_eq_none_iff, List.getLast?_eq_none_iff,
      and_self, List.length_eq_zero_iff]
  links := by
    have hnext := h.forward.isChain
    have hprev := List.isChain_reverse.mp h.backward.isChain
    rw [h.order_eq]
    refine List.isChain_iff_forall_rel_of_append_cons_cons.mpr fun x y l₁ l₂ hsplit => ⟨?_, ?_⟩
    · exact List.isChain_iff_forall_rel_of_append_cons_cons.mp hnext hsplit
    · exact List.isChain_iff_forall_rel_of_append_cons_cons.mp hprev hsplit
  prev_head := by
    rw [h.head_eq]
    cases hhead : ord.head? with
    | none => rfl
    | some x =>
      have hx : x ∈ ord.reverse.getLast? := by
        rw [List.getLast?_reverse, hhead]
        rfl
      exact h.backward.step_getLast x hx
  next_tail := by
    rw [h.tail_eq]
    cases htail : ord.getLast? with
    | none => rfl
    | some x => exact h.forward.step_getLast x (by rw [htail]; rfl)
  backward_eq := by rw [h.backward_eq, h.order_eq]

theorem Reachable.spans {c : Chain} (h : c.Reachable) : ∃ ord, c.Spans ord := by
  induction h with
  | empty => exact ⟨[], spans_empty⟩
  | push t _ ih =>
    obtain ⟨ord, hs⟩ := ih
    exact ⟨_, hs.push t⟩
  | retag i l _ ih =>
    obtain ⟨ord, hs⟩ := ih
    exact ⟨ord, hs.retag i l⟩
  | merge _ ih =>
    obtain ⟨ord, hs⟩ := ih
    obtain ⟨ord', hm, -⟩ := hs.merge
    exact ⟨ord', hm⟩

/-! ### The chains of tokenizing -/

theorem Reachable.pushAll {c : Chain} (h : c.Reachable) (ts : List Token) :
    (c.pushAll ts).Reachable := by
  induction ts generalizing c with
  | nil => exact h
  | cons t ts ih => exact ih (h.push t)

theorem Reachable.retagAt {c : Chain} (h : c.Reachable) (s : Step) (i : Option Nat) :
    (s.retagAt c i).1.Reachable := by
  unfold Step.retagAt
  split
  · exact h.retag _ _
  · exact h
  · exact h

theorem Reachable.retagWindow {c : Chain} (h : c.Reachable) (steps : List Step) (i : Option Nat) :
    (Rule.retagWindow steps c i).1.Reachable := by
  induction steps generalizing c i with
  | nil => exact h
  | cons s ss ih => exact ih (h.retagAt s i) _

theorem Reachable.applyFrom {c : Chain} (h : c.Reachable) (r : Rule) (n : Nat) (i : Option Nat)
    (changed : Bool) : (r.applyFrom n c i changed).1.Reachable := by
  induction n generalizing c i changed with
  | zero => exact h
  | succ n ih =>
    cases i with
    | none => exact h
    | some x =>
      unfold Rule.applyFrom
      split
      · exact ih (h.retagWindow r.steps (some x)) _ _
      · exact ih h _ _

theorem Reachable.runRules {c : Chain} (h : c.Reachable) (rs : List Rule) :
    (Grammar.runRules rs c).1.Reachable := by
  induction rs generalizing c with
  | nil => exact h
  | cons r rs ih =>
    have happ : (r.apply c).1.Reachable := h.applyFrom r _ _ _
    rcases hrule : r.apply c with ⟨c', changed⟩
    rw [hrule] at happ
    simp only [Grammar.runRules, hrule]
    cases changed with
    | false => exact ih happ
    | true => exact ih happ.merge

theorem Reachable.propagateFrom {c : Chain} (h : c.Reachable) (n : Nat)
    (declared : List (Bytes × Lexeme)) (i : Option Nat) :
    (Grammar.propagateFrom n declared c i).Reachable := by
  induction n generalizing c declared i with
  | zero => exact h
  | succ n ih =>
    cases i with
    | none => exact h
    | some x =>
      unfold Grammar.propagateFrom
      dsimp only
      split
      · exact ih h _ _
      split
      · split
        · exact ih (h.retag _ _) _ _
        · exact ih h _ _
      · exact ih h _ _

theorem reachable_classify (g : Grammar) (code : Bytes) (regions : Bool) :
    (g.classify code regions).Reachable := by
  have hcut := Reachable.empty.pushAll (Grammar.cut (if regions then g.regions else []) [] .identifier code)
  unfold Grammar.classify
  generalize Chain.empty.pushAll (Grammar.cut (if regions then g.regions else []) [] .identifier code) = c
    at hcut ⊢
  dsimp only
  split
  · exact hcut.push _
  · exact hcut

theorem reachable_tokenize (g : Grammar) (code : Bytes) (applyRules : Bool) :
    (g.tokenize code applyRules).Reachable := by
  have hc := reachable_classify g code applyRules
  unfold Grammar.tokenize
  split
  · exact (hc.merge.runRules g.rules).propagateFrom _ _ _
  · exact hc

/-- Every chain that pushes, retags and merges build is a doubly linked list, and so is every chain
that tokenizing holds: after any number of steps of a rule's pass, after any list of rules, and at
the end. -/
theorem wellFormed_of_reachable :
    (∀ c : Chain, c.Reachable → c.WellFormed) ∧
      (∀ c : Chain, c.Reachable →
        (∀ (r : Rule) (n : Nat) (i : Option Nat) (changed : Bool), (r.applyFrom n c i changed).1.Reachable) ∧
          ∀ rs : List Rule, (Grammar.runRules rs c).1.Reachable) ∧
      ∀ (g : Grammar) (code : Bytes) (applyRules : Bool), (g.tokenize code applyRules).Reachable := by
  refine ⟨fun c h => ?_, fun c h => ⟨h.applyFrom, h.runRules⟩, reachable_tokenize⟩
  obtain ⟨ord, hs⟩ := h.spans
  exact hs.wellFormed

end Chain

end SyntaxShade
