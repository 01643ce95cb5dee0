import SyntaxShade.Proofs.Grammar.Partition
import SyntaxShade.Builtin
/-! Strings and comments stay whole: in both built-in languages each one the first stage cuts out
lies inside one token of the result, with its lexeme (`Grammar.builtin_regions_stay_whole`). -/
namespace SyntaxShade

namespace Token

/-- The tokens with the offset where each starts, the first one at `start`. -/
def placed : Nat → List Token → List (Nat × Token)
  | _, [] => []
  | start, t :: ts => (start, t) :: placed (start + t.text.length) ts

/-- The token placed at `p` lies inside the token placed at `q`. -/
def Inside (p q : Nat × Token) : Prop :=
  q.1 ≤ p.1 ∧ p.1 + p.2.text.length ≤ q.1 + q.2.text.length

/-- Wherever the text starts, each token of `ts` whose lexeme `keep` holds lies inside a token of
`us` of the same lexeme. -/
def Covers (keep : Lexeme → Prop) (ts us : List Token) : Prop :=
  ∀ start, ∀ p ∈ placed start ts, keep p.2.lexeme →
    ∃ q ∈ placed start us, q.2.lexeme = p.2.lexeme ∧ Inside p q

@[simp] theorem placed_nil (start : Nat) : placed start [] = [] := rfl

@[simp] theorem placed_cons (start : Nat) (t : Token) (ts : List Token) :
    placed start (t :: ts) = (start, t) :: placed (start + t.text.length) ts := rfl

theorem Inside.refl (p : Nat × Token) : Inside p p := ⟨Nat.le_refl _, Nat.le_refl _⟩

theorem Inside.trans {p q r : Nat × Token} (h₁ : Inside p q) (h₂ : Inside q r) : Inside p r := by
  unfold Inside at *
  omega

variable {keep : Lexeme → Prop} {ts us vs : List Token}

theorem Covers.trans (h₁ : Covers keep ts us) (h₂ : Covers keep us vs) : Covers keep ts vs := by
  intro start p hp hkeep
  obtain ⟨q, hq, hlex, hin⟩ := h₁ start p hp hkeep
  obtain ⟨r, hr, hlex', hin'⟩ := h₂ start q hq (hlex ▸ hkeep)
  exact ⟨r, hr, hlex'.trans hlex, hin.trans hin'⟩

/-- A stage that maps the tokens one to one, keeping each text, and keeping each lexeme that `keep`
holds, covers its input. -/
theorem covers_of_forall₂ {R : Token → Token → Prop}
    (hR : ∀ t u, R t u → u.text = t.text ∧ (keep t.lexeme → u.lexeme = t.lexeme))
    (h : List.Forall₂ R ts us) : Covers keep ts us := by
  induction h with
  | nil => exact fun start p hp => absurd hp List.not_mem_nil
  | @cons t u ts us htu _ ih =>
    obtain ⟨htext, hlex⟩ := hR t u htu
    intro start p hp hkeep
    rcases List.mem_cons.mp hp with rfl | hp
    · exact ⟨(start, u), List.mem_cons_self, hlex hkeep, by simp [Inside, htext]⟩
    · obtain ⟨q, hq, hq'⟩ := ih (start + t.text.length) p hp hkeep
      rw [placed_cons, htext]
      exact ⟨q, List.mem_cons_of_mem _ hq, hq'⟩

/-- Coalescing a token onto the coalesced rest either leaves it in front or joins it with the
first token of the rest, which then has its lexeme. -/
theorem coalesce_cons_cases (t : Token) (ts : List Token) :
    coalesce (t :: ts) = t :: coalesce ts ∨
      ∃ u us, coalesce ts = u :: us ∧ u.lexeme = t.lexeme ∧
        coalesce (t :: ts) = ⟨t.text ++ u.text, t.lexeme⟩ :: us := by
  rw [coalesce.eq_2]
  rcases hc : coalesce ts with _ | ⟨u, us⟩
  · exact .inl rfl
  · dsimp only
    by_cases hlex : t.lexeme = u.lexeme
    · exact .inr ⟨u, us, rfl, hlex.symm, by rw [if_pos hlex]⟩
    · exact .inl (by rw [if_neg hlex])

/-- Coalescing covers its input: every token lies inside the run it was joined into. -/
theorem covers_coalesce (keep : Lexeme → Prop) (ts : List Token) : Covers keep ts (coalesce ts) := by
  induction ts with
  | nil => exact fun start p hp => absurd hp List.not_mem_nil
  | cons t ts ih =>
    intro start p hp hkeep
    rcases coalesce_cons_cases t ts with hc | ⟨u, us, hts, hlex, hc⟩
    · rw [hc]
      rcases List.mem_cons.mp hp with rfl | hp
      · exact ⟨_, List.mem_cons_self, rfl, Inside.refl _⟩
      · obtain ⟨q, hq, hq'⟩ := ih _ p hp hkeep
        exact ⟨q, List.mem_cons_of_mem _ hq, hq'⟩
    · rw [hc]
      have hfirst : Inside (start + t.text.length, u) (start, ⟨t.text ++ u.text, t.lexeme⟩) := by
        simp only [Inside, List.length_append]
        omega
      rcases List.mem_cons.mp hp with rfl | hp
      · exact ⟨_, List.mem_cons_self, rfl, by simp only [Inside, List.length_append]; omega⟩
      obtain ⟨q, hq, hlexq, hin⟩ := ih _ p hp hkeep
      rw [hts, placed_cons] at hq
      rcases List.mem_cons.mp hq with rfl | hq
      · exact ⟨_, List.mem_cons_self, hlex.symm.trans hlexq, hin.trans hfirst⟩
      · refine ⟨q, List.mem_cons_of_mem _ ?_, hlexq, hin⟩
        simpa only [List.length_append, Nat.add_assoc] using hq

end Token

/-! ### Rules that spare a lexeme -/

namespace Rule

/-- No step of the rule that retags accepts tokens of lexeme `l`. -/
def Spares (r : Rule) (l : Lexeme) : Prop := ∀ s ∈ r.steps, s.output.isSome → l ∉ s.inputs

/-- A rule's scan keeps every token of a lexeme that the rule spares. -/
theorem covers_scan {r : Rule} {keep : Lexeme → Prop} (hr : ∀ l, keep l → r.Spares l)
    (ts : List Token) : Token.Covers keep ts (r.scan ts).1 := by
  refine Token.covers_of_forall₂ ?_ (forall₂_scan r ts)
  rintro u t (rfl | ⟨s, hs, hacc, rfl⟩)
  · exact ⟨rfl, fun _ => rfl⟩
  refine ⟨Step.text_retag s u, fun hkeep => ?_⟩
  have hin : u.lexeme ∈ s.inputs := by
    simp only [Step.accepts, Bool.and_eq_true, List.contains_iff_mem] at hacc
    exact hacc.1
  -- a step that accepts a spared lexeme has no output, so it leaves the token as it is
  cases ho : s.output with
  | none => simp [Step.retag, ho]
  | some l => exact absurd hin (hr u.lexeme hkeep s hs (by simp [ho]))

end Rule

namespace Grammar

variable {keep : Lexeme → Prop}

theorem covers_rewrite {rs : List Rule} (hrs : ∀ r ∈ rs, ∀ l, keep l → r.Spares l) (ts : List Token) :
    Token.Covers keep ts (rewrite rs ts) := by
  induction rs generalizing ts with
  | nil => exact fun _ p hp _ => ⟨p, hp, rfl, Token.Inside.refl p⟩
  | cons r rs ih =>
    have hscan := Rule.covers_scan (hrs r List.mem_cons_self) ts
    rw [rewrite]
    refine Token.Covers.trans ?_ (ih (fun r' hr' => hrs r' (List.mem_cons_of_mem r hr')) _)
    split
    · exact hscan.trans (Token.covers_coalesce keep _)
    · exact hscan

theorem covers_resolve (hkeep : ∀ l, keep l → l ≠ .identifier) (ts : List Token) :
    Token.Covers keep ts (resolve [] ts) := by
  refine Token.covers_of_forall₂ ?_ (forall₂_resolve (by simp) ts)
  rintro u t ⟨htext, hlex⟩
  refine ⟨htext, fun hk => ?_⟩
  rcases hlex with hlex | ⟨hid, -⟩
  · exact hlex
  · exact absurd hid (hkeep _ hk)

/-- When every rule spares the kept lexemes and none of them is `identifier`, the final tokens
cover the tokens of the first stage. -/
theorem covers_tokenize {g : Grammar} (hrules : ∀ r ∈ g.rules, ∀ l, keep l → r.Spares l)
    (hkeep : ∀ l, keep l → l ≠ .identifier) (code : Bytes) :
    Token.Covers keep (g.classify code true).tokens (g.tokenize code true).tokens := by
  obtain ⟨-, -, hclassify⟩ := g.classify_spans code true
  rw [hclassify, tokens_tokenize, tokenList, if_pos rfl]
  exact ((Token.covers_coalesce keep _).trans (covers_rewrite hrules _)).trans
    (covers_resolve hkeep _)

end Grammar

/-! ### The built-in rule tables -/

namespace Step

/-- Read without compiling its condition, a step text that retags names no class with the code of
`l`. -/
def textSpares (l : Lexeme) (f : Bytes) : Bool :=
  match split? f with
  | some (classes, _, out) => out.isEmpty || !(bars classes).contains (Bytes.ofString l.code)
  | none => true

theorem code_mem_of_readClasses {step : Bytes} {cs : List Bytes} {ls : List Lexeme}
    (h : readClasses step cs = .ok ls) {l : Lexeme} (hl : l ∈ ls) : Bytes.ofString l.code ∈ cs := by
  obtain ⟨c, hc, hcl⟩ := (readsEach_readClasses step).mem_of_eq_ok h l hl
  rw [Lexeme.code_of_ofCode? (readClass_eq_ok hcl).2]
  exact hc

theorem output_eq_none_of_readOutput_nil {o : Option Lexeme} (h : readOutput [] = .ok o) : o = none := by
  cases h
  rfl

theorem spares_of_parse {f : Bytes} {s : Step} (h : parse f = .ok s) {l : Lexeme}
    (hf : textSpares l f = true) (ho : s.output.isSome) : l ∉ s.inputs := by
  obtain ⟨classes, cond, out, hsplit, hin, hout⟩ := pieces_of_parse h
  intro hl
  simp only [textSpares, hsplit, Bool.or_eq_true, List.isEmpty_iff, Bool.not_eq_eq_eq_not,
    Bool.not_true, Bool.eq_false_iff, ne_eq, List.contains_iff_mem] at hf
  rcases hf with rfl | hf
  · rw [output_eq_none_of_readOutput_nil hout] at ho
    cases ho
  · exact hf (code_mem_of_readClasses hin hl)

end Step

namespace Builtin

theorem exists_parse_of_mem_rules {name : String} {regions rules : List String} {r : Rule}
    (hr : r ∈ (grammarOf name regions rules).rules) :
    ∃ text ∈ rules.map Bytes.ofString, Rule.parse text = .ok r := by
  unfold grammarOf at hr
  split at hr
  · next g hg =>
    exact exists_mem_of_forall₂ (Grammar.reads_of_build hg).2 r hr
  · exact absurd hr List.not_mem_nil

/-- A built-in grammar spares the lexemes `ls` when every field of every rule text does. -/
theorem spares_of_texts {name : String} {regions rules : List String} {ls : List Lexeme}
    (htexts : (rules.map Bytes.ofString).all
      (fun text => (Fields.split text).all fun f => ls.all fun l => Step.textSpares l f) = true) :
    ∀ r ∈ (grammarOf name regions rules).rules, ∀ l ∈ ls, r.Spares l := by
  intro r hr l hl s hs ho
  obtain ⟨text, htext, hparse⟩ := exists_parse_of_mem_rules hr
  obtain ⟨f, hf, hfs⟩ := Rule.exists_parse_of_mem_steps hparse s hs
  simp only [List.all_eq_true] at htexts
  exact Step.spares_of_parse hfs (htexts text htext f hf l hl) ho

theorem universalGrammar_spares :
    ∀ r ∈ universalGrammar.rules, ∀ l ∈ [Lexeme.string, .comment], r.Spares l :=
  spares_of_texts (by decide +kernel)

theorem shellGrammar_spares :
    ∀ r ∈ shellGrammar.rules, ∀ l ∈ [Lexeme.string, .comment], r.Spares l :=
  spares_of_texts (by decide +kernel)

/-- A built-in grammar whose tables build holds the readings of its rule texts, one for one. -/
theorem grammarOf_reads {name : String} {regions rules : List String}
    (h : (Grammar.build (Bytes.ofString name) (regions.map Bytes.ofString)
      (rules.map Bytes.ofString)).toBool = true) :
    List.Forall₂ (fun text r => Region.parse text = .ok r) (regions.map Bytes.ofString)
        (grammarOf name regions rules).regions ∧
      List.Forall₂ (fun text r => Rule.parse text = .ok r) (rules.map Bytes.ofString)
        (grammarOf name regions rules).rules := by
  unfold grammarOf
  cases hb : Grammar.build (Bytes.ofString name) (regions.map Bytes.ofString) (rules.map Bytes.ofString) with
  | error e =>
    rw [hb] at h
    cases h
  | ok g => exact Grammar.reads_of_build hb

/-- Every region rule and token rule of the general purpose language builds, and its grammar holds
their readings in order. -/
theorem universalGrammar_reads_tables :
    List.Forall₂ (fun text r => Region.parse text = .ok r) (universalRegions.map Bytes.ofString)
        universalGrammar.regions ∧
      List.Forall₂ (fun text r => Rule.parse text = .ok r) (universalRules.map Bytes.ofString)
        universalGrammar.rules :=
  grammarOf_reads (by decide +kernel)

theorem shellGrammar_reads_tables :
    List.Forall₂ (fun text r => Region.parse text = .ok r) (shellRegions.map Bytes.ofString)
        shellGrammar.regions ∧
      List.Forall₂ (fun text r => Rule.parse text = .ok r) (shellRules.map Bytes.ofString)
        shellGrammar.rules :=
  grammarOf_reads (by decide +kernel)

end Builtin

namespace Grammar

/-- In both built-in languages, every string or comment token that the first stage cuts out of
any code lies inside one token of the final tokens, and that token has the same lexeme. -/
theorem builtin_regions_stay_whole (code : Bytes) :
    Token.Covers (fun l => l = .string ∨ l = .comment)
        (Builtin.universalGrammar.classify code true).tokens
        (Builtin.universalGrammar.tokenize code true).tokens ∧
      Token.Covers (fun l => l = .string ∨ l = .comment)
        (Builtin.shellGrammar.classify code true).tokens
        (Builtin.shellGrammar.tokenize code true).tokens := by
  have hkeep : ∀ l : Lexeme, (l = .string ∨ l = .comment) → l ≠ .identifier := by
    rintro l (rfl | rfl) <;> decide
  have hmem : ∀ l : Lexeme, (l = .string ∨ l = .comment) → l ∈ [Lexeme.string, .comment] := by
    rintro l (rfl | rfl) <;> simp
  exact ⟨covers_tokenize (fun r hr l hl => Builtin.universalGrammar_spares r hr l (hmem l hl)) hkeep code,
    covers_tokenize (fun r hr l hl => Builtin.shellGrammar_spares r hr l (hmem l hl)) hkeep code⟩

end Grammar

end SyntaxShade
