import SyntaxShade.Proofs.Grammar.Partition
/-! No two neighbouring tokens share a lexeme before declared types are resolved
(`Grammar.separated_before_declared_types`); resolving can make two classes neighbours. -/
namespace SyntaxShade

namespace Token

/-- No two neighbouring tokens share a lexeme. -/
def Separated (ts : List Token) : Prop := ts.IsChain fun a b => a.lexeme ≠ b.lexeme

instance : DecidablePred Separated := fun ts => inferInstanceAs (Decidable (ts.IsChain _))

theorem separated_coalesce (ts : List Token) : Separated (coalesce ts) := by
  unfold Separated
  induction ts with
  | nil => exact .nil
  | cons t ts ih =>
    unfold coalesce
    split
    · rename_i u us hcs
      rw [hcs] at ih
      split
      · rename_i heq
        cases us with
        | nil => exact .singleton _
        | cons v vs =>
          obtain ⟨huv, hrest⟩ := List.isChain_cons_cons.mp ih
          exact .cons_cons (heq ▸ huv) hrest
      · exact .cons_cons ‹_› ih
    · exact .singleton t

end Token

namespace Rule

/-- A window in which no step has an output leaves its tokens as they are. -/
theorem window_eq_take {steps : List Step} {ts ws : List Token}
    (h : window steps ts = some (ws, false)) : ws = ts.take steps.length := by
  induction steps generalizing ts ws with
  | nil =>
    simp only [window, Option.some.injEq, Prod.mk.injEq] at h
    simp [← h.1]
  | cons s ss ih =>
    cases ts with
    | nil => simp [window] at h
    | cons t ts =>
      obtain ⟨-, ws', b', hw, rfl, hb⟩ := window_cons_eq_some.mp h
      obtain ⟨hout, rfl⟩ := Bool.or_eq_false_iff.mp hb.symm
      have hretag : s.retag t = t := by
        unfold Step.retag
        cases ho : s.output with
        | none => rfl
        | some l => simp [ho] at hout
      rw [hretag, ih hw, List.length_cons, List.take_succ_cons]

theorem scan_fst_of_snd_eq_false (r : Rule) (ts : List Token) (h : (r.scan ts).2 = false) :
    (r.scan ts).1 = ts := by
  fun_induction r.scan ts with
  | case1 => rfl
  | case2 t ts w c hw rest ih =>
    obtain ⟨rfl, hrest⟩ := Bool.or_eq_false_iff.mp h
    rw [window_eq_take hw, ih hrest, show r.steps.length = r.rest.length + 1 from rfl,
      List.take_succ_cons, List.cons_append, List.take_append_drop]
  | case3 t ts hw rest ih => rw [ih h]

end Rule

namespace Grammar

/-- Cutting without regions gives separated runs; a pending run is the class of the first one. -/
theorem separated_cut_nil (run : Bytes) (cls : Lexeme) (s : Bytes) :
    Token.Separated (cut [] run cls s) ∧
      (run ≠ [] → (cut [] run cls s).head?.map Token.lexeme = some cls) := by
  fun_induction cut [] run cls s with
  | case1 run cls =>
    unfold flush
    split
    · exact ⟨.nil, fun h => absurd ‹run = []› h⟩
    · exact ⟨.singleton _, fun _ => rfl⟩
  | case2 run cls b t r hr n ih => simp [Region.first?] at hr
  | case3 run b t hr rune c piece ih =>
    have hw : 0 < rune.width := Rune.width_pos b t
    have hpiece : piece ++ run ≠ [] := by
      simp [piece, List.take_eq_nil_iff, Nat.pos_iff_ne_zero.mp hw]
    exact ⟨ih.1, fun _ => ih.2 hpiece⟩
  | case4 run cls b t hr rune c piece hc ih =>
    have hw : 0 < rune.width := Rune.width_pos b t
    have hpiece : piece ≠ [] := by
      simp [piece, List.take_eq_nil_iff, Nat.pos_iff_ne_zero.mp hw]
    have hhead := ih.2 hpiece
    unfold flush
    split
    · exact ⟨ih.1, fun h => absurd ‹run = []› h⟩
    · refine ⟨?_, fun _ => rfl⟩
      cases hcut : cut [] piece c (List.drop rune.width (b :: t)) with
      | nil => exact .singleton _
      | cons u us =>
        have hu : u.lexeme = c := by simpa [hcut] using hhead
        have hsep := ih.1
        rw [hcut] at hsep
        exact .cons_cons (by rw [hu]; exact Ne.symm hc) hsep

theorem separated_classified_false (g : Grammar) (code : Bytes) :
    Token.Separated (g.classified code false) := by
  unfold classified
  split
  · exact .singleton _
  · rename_i t ts hcons
    rw [← hcons]
    exact (separated_cut_nil [] .identifier code).1

theorem separated_rewrite (rs : List Rule) {ts : List Token} (h : Token.Separated ts) :
    Token.Separated (rewrite rs ts) := by
  induction rs generalizing ts with
  | nil => exact h
  | cons r rs ih =>
    rw [rewrite]
    apply ih
    split
    · exact Token.separated_coalesce _
    · rename_i hch
      rwa [Rule.scan_fst_of_snd_eq_false r ts (Bool.not_eq_true _ ▸ hch)]

/-- Without rules no two neighbouring tokens share a lexeme, and with rules none do before the
declared types are resolved; the tokens with rules are the resolution of those. -/
theorem separated_before_declared_types (g : Grammar) (code : Bytes) :
    Token.Separated (g.tokenize code false).tokens ∧
      Token.Separated (g.applyRules (g.classify code true)).1.tokens ∧
      (g.tokenize code true).tokens = resolve [] (g.applyRules (g.classify code true)).1.tokens := by
  obtain ⟨ord, h, htok⟩ := g.classify_spans code true
  obtain ⟨ord', ha, hatok⟩ := g.applyRules_spans h
  refine ⟨?_, ?_, ?_⟩
  · rw [tokens_tokenize]
    exact separated_classified_false g code
  · rw [hatok]
    exact separated_rewrite g.rules (Token.separated_coalesce _)
  · exact ha.propagate.2

/-- With the rules `ID(:CLS) O(:)` and `N(:CLS)`, the text `a=1a` ends in two neighbouring
classes: the last `a` is resolved as the class that the first `a` declared, after the last
coalescing. -/
theorem tokenize_neighbouring_classes :
    ∃ g, build (Bytes.ofString "x") [] [Bytes.ofString "ID(:CLS) O(:)", Bytes.ofString "N(:CLS)"] = .ok g ∧
      (g.tokenize (Bytes.ofString "a=1a") true).tokens =
        [⟨Bytes.ofString "a", .className⟩, ⟨Bytes.ofString "=", .operator⟩,
          ⟨Bytes.ofString "1", .className⟩, ⟨Bytes.ofString "a", .className⟩] ∧
      ¬ Token.Separated (g.tokenize (Bytes.ofString "a=1a") true).tokens := by
  have hrun : ((build (Bytes.ofString "x") [] [Bytes.ofString "ID(:CLS) O(:)", Bytes.ofString "N(:CLS)"]).toOption.map
      fun g => decide ((g.tokenize (Bytes.ofString "a=1a") true).tokens =
        [⟨Bytes.ofString "a", .className⟩, ⟨Bytes.ofString "=", .operator⟩,
          ⟨Bytes.ofString "1", .className⟩, ⟨Bytes.ofString "a", .className⟩])) = some true := by
    decide +kernel
  cases hb : build (Bytes.ofString "x") [] [Bytes.ofString "ID(:CLS) O(:)", Bytes.ofString "N(:CLS)"] with
  | error e =>
    rw [hb] at hrun
    cases hrun
  | ok g =>
    rw [hb] at hrun
    have htok := of_decide_eq_true (Option.some.inj hrun)
    refine ⟨g, rfl, htok, ?_⟩
    rw [htok]
    decide

end Grammar

end SyntaxShade
