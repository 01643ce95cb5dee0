import SyntaxShade.Proofs.Chain.WellFormed
import SyntaxShade.Proofs.Grammar.Separation
/-! Merging reports a merge exactly when two neighbours shared a lexeme, and a second merge
changes nothing (`Chain.merge_coalesces_runs`). -/
namespace SyntaxShade

namespace Token

theorem not_separated_iff {ts : List Token} :
    ¬ Separated ts ↔ ∃ l₁ t u l₂, ts = l₁ ++ t :: u :: l₂ ∧ t.lexeme = u.lexeme := by
  rw [Separated, List.isChain_iff_forall_rel_of_append_cons_cons]
  constructor
  · intro h
    by_contra hnone
    exact h fun t u l₁ l₂ hsplit heq => hnone ⟨l₁, t, u, l₂, hsplit, heq⟩
  · rintro ⟨l₁, t, u, l₂, hsplit, heq⟩ h
    exact h hsplit heq

end Token

namespace Chain

variable {c : Chain} {ord : List Nat}

/-! ### Well-formed chains are walks -/

/-- A list of slots of the arena, each linked by `step` to the next and the last to nothing, is the
walk from its first slot. -/
theorem Path.of_isChain {links : Array Link} {step : Link → Option Nat} {l : List Nat}
    (hlt : ∀ x ∈ l, x < links.size) (hc : l.IsChain fun x y => links[x]?.bind step = some y)
    (hlast : ∀ x ∈ l.getLast?, links[x]?.bind step = none) : Path links step l.head? l none := by
  induction l with
  | nil => exact .nil none
  | cons x l ih =>
    have hx : x < links.size := hlt x List.mem_cons_self
    have hk : links[x]? = some links[x] := Array.getElem?_eq_getElem hx
    have hstep : step links[x] = l.head? := by
      cases l with
      | nil => simpa [hk] using hlast x rfl
      | cons y l => simpa [hk] using List.rel_of_isChain_cons_cons hc
    refine .cons hk (hstep ▸ ih (fun y hy => hlt y (List.mem_cons_of_mem x hy)) hc.tail ?_)
    intro y hy
    cases l with
    | nil => simp at hy
    | cons z l => exact hlast y (by simpa using hy)

/-- A well-formed chain is a walk over its slots in chain order. -/
theorem WellFormed.spans (h : c.WellFormed) : c.Spans c.order where
  forward := by
    rw [h.head_eq]
    refine Path.of_isChain h.lt_size (h.links.imp fun _ _ hxy => hxy.1) ?_
    intro x hx
    rw [← h.tail_eq] at hx
    have := h.next_tail
    rwa [hx] at this
  backward := by
    have hhead : c.order.reverse.head? = c.tail := by rw [List.head?_reverse, h.tail_eq]
    rw [← hhead]
    refine Path.of_isChain (fun x hx => h.lt_size x (List.mem_reverse.mp hx))
      (List.isChain_reverse.mpr (h.links.imp fun _ _ hxy => hxy.2)) ?_
    intro x hx
    rw [List.getLast?_reverse, ← h.head_eq] at hx
    have := h.prev_head
    rwa [hx] at this
  nodup := h.nodup
  size_eq := h.length_order.symm

/-! ### The merge loop, step by step -/

theorem mergeFrom_snd_of_merged (n : Nat) (c : Chain) (i : Option Nat) {merged : Bool}
    (h : merged = true) : (Chain.mergeFrom n c i merged).2 = true := by
  fun_induction Chain.mergeFrom n c i merged with
  | case1 | case2 | case3 => exact h
  | case4 _ _ _ _ _ _ _ ih | case5 _ _ _ _ _ _ _ _ _ ih => exact ih h
  | case6 _ _ _ _ _ _ _ _ _ _ _ _ _ ih => exact ih rfl

theorem Spans.mergeFrom_snd_of_eq {done rest : List Nat} {x j : Nat}
    (h : c.Spans (done ++ x :: j :: rest))
    (hl : (c.tokenAt (some j)).lexeme = (c.tokenAt (some x)).lexeme) (n : Nat) (merged : Bool) :
    (Chain.mergeFrom (n + 1) c (some x) merged).2 = true := by
  obtain ⟨k, hk, hnext⟩ := h.getElem?_eq
  rw [tokenAt_of_getElem? hk] at hl
  simp only [Chain.mergeFrom, hk, hnext, List.head?_cons, hl, ne_eq, not_true_eq_false, if_false]
  exact mergeFrom_snd_of_merged _ _ _ rfl

/-! ### Separated chains -/

/-- From a slot on which no two neighbours share a lexeme, the loop changes nothing and reports
what it was given. -/
theorem Spans.mergeFrom_of_separated {done todo : List Nat} (h : c.Spans (done ++ todo)) {n : Nat}
    (hn : todo.length ≤ n) (hsep : Token.Separated (c.tokensAt todo)) (merged : Bool) :
    Chain.mergeFrom n c todo.head? merged = (c, merged) := by
  induction todo generalizing done n with
  | nil => exact mergeFrom_none n c merged
  | cons x rest ih =>
    obtain ⟨n, rfl⟩ : ∃ m, n = m + 1 := ⟨n - 1, by simp at hn; omega⟩
    cases rest with
    | nil => exact h.mergeFrom_last n merged
    | cons j rest =>
      obtain ⟨hne, hsep'⟩ := List.isChain_cons_cons.mp hsep
      rw [List.head?_cons, h.mergeFrom_of_ne (Ne.symm hne) n merged]
      exact ih (show c.Spans ((done ++ [x]) ++ j :: rest) by simpa using h) (by simpa using hn) hsep'

theorem Spans.mergeFrom_snd_of_not_separated {done todo : List Nat} (h : c.Spans (done ++ todo))
    {n : Nat} (hn : todo.length ≤ n) (hsep : ¬ Token.Separated (c.tokensAt todo)) (merged : Bool) :
    (Chain.mergeFrom n c todo.head? merged).2 = true := by
  induction todo generalizing done n with
  | nil => exact absurd List.IsChain.nil hsep
  | cons x rest ih =>
    obtain ⟨n, rfl⟩ : ∃ m, n = m + 1 := ⟨n - 1, by simp at hn; omega⟩
    cases rest with
    | nil => exact absurd (List.IsChain.singleton _) hsep
    | cons j rest =>
      by_cases hl : (c.tokenAt (some j)).lexeme = (c.tokenAt (some x)).lexeme
      · exact h.mergeFrom_snd_of_eq hl n merged
      · have hsep' : ¬ Token.Separated (c.tokensAt (j :: rest)) := fun hs =>
          hsep (List.IsChain.cons_cons (Ne.symm hl) hs)
        rw [List.head?_cons, h.mergeFrom_of_ne hl n merged]
        exact ih (show c.Spans ((done ++ [x]) ++ j :: rest) by simpa using h) (by simpa using hn) hsep'

theorem Spans.merge_of_separated (h : c.Spans ord) (hsep : Token.Separated c.tokens) :
    c.merge = (c, false) := by
  rw [h.tokens_eq] at hsep
  rw [Chain.merge, h.head_eq]
  exact (show c.Spans ([] ++ ord) from h).mergeFrom_of_separated h.length_le hsep false

theorem Spans.merge_snd_of_not_separated (h : c.Spans ord) (hsep : ¬ Token.Separated c.tokens) :
    c.merge.2 = true := by
  rw [h.tokens_eq] at hsep
  rw [Chain.merge, h.head_eq]
  exact (show c.Spans ([] ++ ord) from h).mergeFrom_snd_of_not_separated h.length_le hsep false

/-- Merging a well-formed chain coalesces each run of neighbours that share a lexeme into one
token. It reports a merge exactly when two neighbours shared a lexeme, and merging once more
changes nothing and reports nothing. -/
theorem merge_coalesces_runs (c : Chain) (h : c.WellFormed) :
    c.merge.1.tokens = Token.coalesce c.tokens ∧
      (c.merge.2 = true ↔ ∃ l₁ t u l₂, c.tokens = l₁ ++ t :: u :: l₂ ∧ t.lexeme = u.lexeme) ∧
      c.merge.1.merge = (c.merge.1, false) := by
  have hs := h.spans
  obtain ⟨ord', hm, htok⟩ := hs.merge
  refine ⟨htok, ?_, hm.merge_of_separated (htok ▸ Token.separated_coalesce _)⟩
  rw [← Token.not_separated_iff]
  constructor
  · intro hflag hsep
    rw [hs.merge_of_separated hsep] at hflag
    cases hflag
  · exact hs.merge_snd_of_not_separated

/-- Two identifiers and an operator, pushed onto the empty chain: a well-formed chain with a run. -/
theorem merge_coalesces_runs_identifiers :
    let c := Chain.empty.pushAll
      [⟨Bytes.ofString "a", .identifier⟩, ⟨Bytes.ofString "b", .identifier⟩, ⟨Bytes.ofString "+", .operator⟩]
    c.WellFormed ∧
      (c.merge.1.tokens = Token.coalesce c.tokens ∧
        (c.merge.2 = true ↔ ∃ l₁ t u l₂, c.tokens = l₁ ++ t :: u :: l₂ ∧ t.lexeme = u.lexeme) ∧
        c.merge.1.merge = (c.merge.1, false)) := by
  obtain ⟨ord, hs, -⟩ := spans_empty.pushAll
    [⟨Bytes.ofString "a", .identifier⟩, ⟨Bytes.ofString "b", .identifier⟩, ⟨Bytes.ofString "+", .operator⟩]
  exact ⟨hs.wellFormed, merge_coalesces_runs _ hs.wellFormed⟩

end Chain

end SyntaxShade
