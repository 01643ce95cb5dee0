import SyntaxShade.Proofs.Chain.Merge
import SyntaxShade.Proofs.Chain.Retag
/-! The chain that tokenizing builds holds what the stages give on token lists
(`Grammar.tokenize_spans`). -/
namespace SyntaxShade

namespace Grammar

/-- The tokens that classifying gives, as a list: the cut of the text, or the one empty token for
the empty text. -/
def classified (g : Grammar) (code : Bytes) (regions : Bool) : List Token :=
  match cut (if regions then g.regions else []) [] .identifier code with
  | [] => [⟨[], .empty⟩]
  | t :: ts => t :: ts

/-- Runs each rule once over a token list, coalescing after each rule that retagged something. -/
def rewrite : List Rule → List Token → List Token
  | [], ts => ts
  | r :: rs, ts => rewrite rs (if (r.scan ts).2 then Token.coalesce (r.scan ts).1 else (r.scan ts).1)

/-- The tokens of code, stage by stage on lists. -/
def tokenList (g : Grammar) (code : Bytes) (applyRules : Bool) : List Token :=
  if applyRules then resolve [] (rewrite g.rules (Token.coalesce (g.classified code true)))
  else g.classified code false

variable {c : Chain} {ord : List Nat}

theorem classify_spans (g : Grammar) (code : Bytes) (regions : Bool) :
    ∃ ord, (g.classify code regions).Spans ord ∧
      (g.classify code regions).tokens = g.classified code regions := by
  unfold classify classified
  generalize cut (if regions then g.regions else []) [] .identifier code = ts
  obtain ⟨ord, h, htok⟩ := Chain.spans_empty.pushAll ts
  rw [Chain.spans_empty.tokens_eq, Chain.tokensAt_nil, List.nil_append] at htok
  have hsize : (Chain.empty.pushAll ts).size = ts.length := by
    rw [h.size_eq, ← htok, h.tokens_eq, Chain.tokensAt, List.length_map]
  cases ts with
  | nil =>
    refine ⟨_, h.push _, ?_⟩
    dsimp only
    rw [if_pos (hsize.trans List.length_nil), h.tokens_push, htok, List.nil_append]
  | cons t ts =>
    have hne : (Chain.empty.pushAll (t :: ts)).size ≠ 0 := by simp [hsize]
    dsimp only
    exact ⟨ord, by rwa [if_neg hne], by rw [if_neg hne, htok]⟩

theorem runRules_spans (rs : List Rule) (h : c.Spans ord) :
    ∃ ord', (runRules rs c).1.Spans ord' ∧ (runRules rs c).1.tokens = rewrite rs c.tokens := by
  induction rs generalizing c ord with
  | nil => exact ⟨ord, h, rfl⟩
  | cons r rs ih =>
    obtain ⟨hs, htok, hch⟩ := h.apply r
    rcases happ : r.apply c with ⟨c', changed⟩
    rw [happ] at hs htok hch
    dsimp only at hs htok hch
    simp only [runRules, happ, rewrite, ← htok, ← hch]
    cases changed with
    | false => exact ih hs
    | true =>
      obtain ⟨ord₁, hm, hmtok⟩ := hs.merge
      obtain ⟨ord₂, hr, hrtok⟩ := ih hm
      exact ⟨ord₂, hr, by rw [if_pos rfl, if_pos rfl, hrtok, hmtok]⟩

theorem applyRules_spans (g : Grammar) (h : c.Spans ord) :
    ∃ ord', (g.applyRules c).1.Spans ord' ∧
      (g.applyRules c).1.tokens = rewrite g.rules (Token.coalesce c.tokens) := by
  obtain ⟨ord₁, hm, hmtok⟩ := h.merge
  rw [applyRules, ← hmtok]
  exact runRules_spans g.rules hm

/-- Tokenizing gives a well-linked chain whose tokens are those of the list stages. -/
theorem tokenize_spans (g : Grammar) (code : Bytes) (applyRules : Bool) :
    ∃ ord, (g.tokenize code applyRules).Spans ord ∧
      (g.tokenize code applyRules).tokens = g.tokenList code applyRules := by
  obtain ⟨ord, h, htok⟩ := g.classify_spans code applyRules
  unfold tokenize tokenList
  cases applyRules with
  | false => exact ⟨ord, h, htok⟩
  | true =>
    obtain ⟨ord', ha, hatok⟩ := g.applyRules_spans h
    obtain ⟨hp, hptok⟩ := ha.propagate
    exact ⟨ord', hp, by rw [if_pos rfl, if_pos rfl, hptok, hatok, htok]⟩

theorem tokens_tokenize (g : Grammar) (code : Bytes) (applyRules : Bool) :
    (g.tokenize code applyRules).tokens = g.tokenList code applyRules :=
  (g.tokenize_spans code applyRules).choose_spec.2

end Grammar

end SyntaxShade
