import SyntaxShade.Proofs.Grammar.Stages
import SyntaxShade.Proofs.Grammar.Build
/-! The tokens of code spell the code (`Grammar.text_tokenize`), and for a compiled grammar each
one is proper (`Grammar.proper_of_mem_tokenize`). -/
namespace SyntaxShade

namespace Token

/-- A proper token has text and a lexeme other than `empty`. -/
def Proper (t : Token) : Prop := t.text ≠ [] ∧ t.lexeme ≠ .empty

@[simp] theorem join_nil : join [] = [] := rfl

@[simp] theorem join_cons (t : Token) (ts : List Token) : join (t :: ts) = t.text ++ join ts := rfl

@[simp] theorem join_append (ts us : List Token) : join (ts ++ us) = join ts ++ join us := by
  simp [join]

theorem join_eq_of_forall₂ {R : Token → Token → Prop} (hR : ∀ u t, R u t → t.text = u.text)
    {ts us : List Token} (h : List.Forall₂ R ts us) : join us = join ts := by
  induction h with
  | nil => rfl
  | cons hr _ ih => rw [join_cons, join_cons, hR _ _ hr, ih]

theorem proper_of_forall₂ {R : Token → Token → Prop} (hR : ∀ u t, R u t → u.Proper → t.Proper)
    {ts us : List Token} (h : List.Forall₂ R ts us) (hts : ∀ u ∈ ts, u.Proper) :
    ∀ t ∈ us, t.Proper := by
  induction h with
  | nil => simp
  | cons hr _ ih =>
    intro t ht
    rcases List.mem_cons.mp ht with rfl | ht
    · exact hR _ _ hr (hts _ List.mem_cons_self)
    · exact ih (fun u hu => hts u (List.mem_cons_of_mem _ hu)) t ht

theorem proper_of_mem_coalesce {ts : List Token} (hts : ∀ u ∈ ts, u.Proper) :
    ∀ t ∈ coalesce ts, t.Proper := by
  induction ts with
  | nil => simp [coalesce]
  | cons t ts ih =>
    have ht := hts t List.mem_cons_self
    have ih := ih fun u hu => hts u (List.mem_cons_of_mem t hu)
    intro x hx
    unfold coalesce at hx
    split at hx
    · rename_i u us hcs
      rw [hcs] at ih
      split at hx
      · rcases List.mem_cons.mp hx with rfl | hx
        · exact ⟨by simp [ht.1], ht.2⟩
        · exact ih x (List.mem_cons_of_mem u hx)
      · rcases List.mem_cons.mp hx with rfl | hx
        · exact ht
        · exact ih x hx
    · rw [List.mem_singleton.mp hx]
      exact ht

end Token

/-! ### Cutting -/

theorem Lexeme.ofRune_ne_empty (c : Nat) : Lexeme.ofRune c ≠ .empty := by
  unfold Lexeme.ofRune
  split_ifs <;> simp

namespace Grammar

theorem join_flush (run : Bytes) (cls : Lexeme) : Token.join (flush run cls) = run.reverse := by
  unfold flush
  split <;> simp_all

theorem proper_of_mem_flush {run : Bytes} {cls : Lexeme} (hcls : cls ≠ .empty) :
    ∀ t ∈ flush run cls, t.Proper := by
  unfold flush
  split
  · simp
  · rename_i hrun
    simpa [Token.Proper, hcls] using hrun

theorem join_cut (regions : List Region) (run : Bytes) (cls : Lexeme) (s : Bytes) :
    Token.join (cut regions run cls s) = run.reverse ++ s := by
  fun_induction cut regions run cls s with
  | case1 run cls => simp [join_flush]
  | case2 run cls b t r hr n ih =>
    rw [Token.join_append, Token.join_cons, ih, join_flush, List.reverse_nil, List.nil_append,
      List.take_append_drop]
  | case3 run b t hr rune c piece ih =>
    rw [ih, List.reverse_append, List.append_assoc]
    simp only [piece, List.reverse_reverse, List.take_append_drop]
  | case4 run cls b t hr rune c piece hc ih =>
    rw [Token.join_append, ih, join_flush]
    simp only [piece, List.reverse_reverse, List.take_append_drop]

theorem proper_of_mem_cut {regions : List Region} (hregions : ∀ r ∈ regions, r.lexeme ≠ .empty)
    (run : Bytes) (cls : Lexeme) (s : Bytes) :
    cls ≠ .empty → ∀ t ∈ cut regions run cls s, t.Proper := by
  fun_induction cut regions run cls s with
  | case1 run cls => exact proper_of_mem_flush
  | case2 run cls b t r hr n ih =>
    have hlex : r.lexeme ≠ .empty := hregions r (List.mem_of_find?_eq_some hr)
    have hn : 0 < n := Region.span_pos r b t
    intro hcls x hx
    rcases List.mem_append.mp hx with hx | hx
    · exact proper_of_mem_flush hcls x hx
    rcases List.mem_cons.mp hx with rfl | hx
    · refine ⟨?_, hlex⟩
      simpa [List.take_eq_nil_iff] using Nat.pos_iff_ne_zero.mp hn
    · exact ih hlex x hx
  | case3 run b t hr rune c piece ih => exact ih
  | case4 run cls b t hr rune c piece hc ih =>
    intro hcls x hx
    rcases List.mem_append.mp hx with hx | hx
    · exact proper_of_mem_flush hcls x hx
    · exact ih (Lexeme.ofRune_ne_empty _) x hx

end Grammar

/-! ### Retagging -/

namespace Step

@[simp] theorem text_retag (s : Step) (t : Token) : (s.retag t).text = t.text := by
  unfold retag
  split <;> rfl

theorem proper_retag {s : Step} (hs : s.NamesNoEmpty) {t : Token} (ht : t.Proper) :
    (s.retag t).Proper := by
  unfold retag
  split
  · rename_i l hl
    exact ⟨ht.1, fun he => hs.2 (hl.trans (congrArg some he))⟩
  · exact ht

end Step

namespace Rule

/-- Each token of a window is its token in the text, retagged by a step that accepts it. -/
theorem forall₂_window {steps : List Step} {ts ws : List Token} {b : Bool}
    (h : window steps ts = some (ws, b)) :
    List.Forall₂ (fun u w => ∃ s ∈ steps, s.accepts u ∧ w = s.retag u) (ts.take steps.length) ws := by
  induction steps generalizing ts ws b with
  | nil =>
    simp only [window, Option.some.injEq, Prod.mk.injEq] at h
    simp [← h.1]
  | cons s ss ih =>
    cases ts with
    | nil => simp [window] at h
    | cons t ts =>
      obtain ⟨hacc, ws', b', hw, rfl, -⟩ := window_cons_eq_some.mp h
      rw [List.length_cons, List.take_succ_cons]
      refine .cons ⟨s, List.mem_cons_self, hacc, rfl⟩ ((ih hw).imp ?_)
      rintro u w ⟨s', hs', hacc', rfl⟩
      exact ⟨s', List.mem_cons_of_mem s hs', hacc', rfl⟩

/-- A rule's scan keeps each token, or has one of the rule's steps that accepts it retag it. -/
theorem forall₂_scan (r : Rule) (ts : List Token) :
    List.Forall₂ (fun u t => t = u ∨ ∃ s ∈ r.steps, s.accepts u ∧ t = s.retag u) ts (r.scan ts).1 := by
  fun_induction r.scan ts with
  | case1 => exact .nil
  | case2 t ts w c hw rest ih =>
    have hsplit : (t :: ts).take r.steps.length ++ ts.drop r.rest.length = t :: ts := by
      rw [show r.steps.length = r.rest.length + 1 from rfl, List.take_succ_cons, List.cons_append,
        List.take_append_drop]
    have hwin : List.Forall₂ (fun u t => t = u ∨ ∃ s ∈ r.steps, s.accepts u ∧ t = s.retag u)
        ((t :: ts).take r.steps.length) w :=
      (forall₂_window hw).imp fun _ _ h => Or.inr h
    rw [← hsplit]
    exact List.rel_append hwin ih
  | case3 t ts hw rest ih => exact .cons (Or.inl rfl) ih

theorem join_scan (r : Rule) (ts : List Token) : Token.join (r.scan ts).1 = Token.join ts := by
  refine Token.join_eq_of_forall₂ ?_ (forall₂_scan r ts)
  rintro u t (rfl | ⟨s, -, -, rfl⟩) <;> simp

theorem proper_of_mem_scan {r : Rule} (hr : ∀ s ∈ r.steps, s.NamesNoEmpty) {ts : List Token}
    (hts : ∀ u ∈ ts, u.Proper) : ∀ t ∈ (r.scan ts).1, t.Proper := by
  refine Token.proper_of_forall₂ ?_ (forall₂_scan r ts) hts
  rintro u t (rfl | ⟨s, hs, -, rfl⟩) hu
  · exact hu
  · exact Step.proper_retag (hr s hs) hu

/-- No step accepts the placeholder token, so a scan leaves it alone. -/
theorem scan_placeholder {r : Rule} (hr : r.first.NamesNoEmpty) :
    r.scan [⟨[], .empty⟩] = ([⟨[], .empty⟩], false) := by
  have hacc : r.first.accepts ⟨[], .empty⟩ = false := by simp [Step.accepts, hr.1]
  have hw : window r.steps [⟨[], .empty⟩] = none := by
    simp [steps, window, hacc]
  rw [scan_cons_of_none hw]
  simp [scan]

end Rule

namespace Grammar

theorem join_rewrite (rs : List Rule) (ts : List Token) :
    Token.join (rewrite rs ts) = Token.join ts := by
  induction rs generalizing ts with
  | nil => rfl
  | cons r rs ih =>
    rw [rewrite, ih]
    split
    · rw [Token.join_coalesce, Rule.join_scan]
    · rw [Rule.join_scan]

theorem proper_of_mem_rewrite {rs : List Rule} (hrs : ∀ r ∈ rs, ∀ s ∈ r.steps, s.NamesNoEmpty)
    {ts : List Token} (hts : ∀ u ∈ ts, u.Proper) : ∀ t ∈ rewrite rs ts, t.Proper := by
  induction rs generalizing ts with
  | nil => exact hts
  | cons r rs ih =>
    have hscan := Rule.proper_of_mem_scan (hrs r List.mem_cons_self) hts
    rw [rewrite]
    refine ih (fun r' hr' => hrs r' (List.mem_cons_of_mem r hr')) ?_
    split
    · exact Token.proper_of_mem_coalesce hscan
    · exact hscan

theorem rewrite_placeholder {rs : List Rule} (hrs : ∀ r ∈ rs, ∀ s ∈ r.steps, s.NamesNoEmpty) :
    rewrite rs [⟨[], .empty⟩] = [⟨[], .empty⟩] := by
  induction rs with
  | nil => rfl
  | cons r rs ih =>
    rw [rewrite, Rule.scan_placeholder (hrs r List.mem_cons_self r.first List.mem_cons_self)]
    exact ih fun r' hr' => hrs r' (List.mem_cons_of_mem r hr')

end Grammar

/-! ### Declared types -/

namespace Token

/-- What resolving declared types may do to a token: keep it, or retag an identifier as a class or
a tag. -/
def Resolves (u t : Token) : Prop :=
  t.text = u.text ∧
    (t.lexeme = u.lexeme ∨ u.lexeme = .identifier ∧ (t.lexeme = .className ∨ t.lexeme = .tag))

end Token

namespace Grammar

/-- Resolving retags identifiers to the class or tag lexeme of a declaration and keeps the rest. -/
theorem forall₂_resolve {declared : List (Bytes × Lexeme)}
    (hd : ∀ p ∈ declared, p.2 = .className ∨ p.2 = .tag) (ts : List Token) :
    List.Forall₂ Token.Resolves ts (resolve declared ts) := by
  induction ts generalizing declared with
  | nil => exact .nil
  | cons t ts ih =>
    have hkeep : Token.Resolves t t := ⟨rfl, .inl rfl⟩
    unfold resolve
    by_cases hdecl : t.lexeme = .className ∨ t.lexeme = .tag
    · rw [if_pos hdecl]
      refine .cons hkeep (ih ?_)
      intro p hp
      rcases List.mem_cons.mp hp with rfl | hp
      · exact hdecl
      · exact hd p hp
    rw [if_neg hdecl]
    by_cases hid : t.lexeme = .identifier
    · rw [if_pos hid]
      cases hl : declared.lookup t.text with
      | none => exact .cons hkeep (ih hd)
      | some l =>
        obtain ⟨l₁, l₂, hsplit, -⟩ := List.lookup_eq_some_iff.mp hl
        have hmem : (t.text, l) ∈ declared := by simp [hsplit]
        exact .cons ⟨rfl, .inr ⟨hid, hd _ hmem⟩⟩ (ih hd)
    · rw [if_neg hid]
      exact .cons hkeep (ih hd)

theorem join_resolve (ts : List Token) : Token.join (resolve [] ts) = Token.join ts :=
  Token.join_eq_of_forall₂ (fun _ _ h => h.1) (forall₂_resolve (by simp) ts)

theorem proper_of_mem_resolve {ts : List Token} (hts : ∀ u ∈ ts, u.Proper) :
    ∀ t ∈ resolve [] ts, t.Proper := by
  refine Token.proper_of_forall₂ ?_ (forall₂_resolve (by simp) ts) hts
  rintro u t ⟨htext, hlex⟩ ⟨hu, hue⟩
  refine ⟨htext ▸ hu, ?_⟩
  rcases hlex with hlex | ⟨-, hlex | hlex⟩ <;> rw [hlex]
  · exact hue
  all_goals simp

theorem resolve_placeholder : resolve [] [⟨[], .empty⟩] = [⟨[], .empty⟩] := by
  simp [resolve]

/-! ### The whole tokenizer -/

theorem join_classified (g : Grammar) (code : Bytes) (regions : Bool) :
    Token.join (g.classified code regions) = code := by
  have hcut := join_cut (if regions then g.regions else []) [] .identifier code
  rw [List.reverse_nil, List.nil_append] at hcut
  unfold classified
  split
  · rename_i hnil
    rw [hnil] at hcut
    simpa using hcut
  · rename_i t ts hcons
    rw [← hcons, hcut]

theorem proper_of_mem_classified {g : Grammar} (hg : g.Valid) {code : Bytes} (hcode : code ≠ [])
    (regions : Bool) : ∀ t ∈ g.classified code regions, t.Proper := by
  have hregions : ∀ r ∈ (if regions then g.regions else []), r.lexeme ≠ .empty := by
    split
    · exact hg.region_lexeme_ne
    · simp
  have hcut := join_cut (if regions then g.regions else []) [] .identifier code
  rw [List.reverse_nil, List.nil_append] at hcut
  unfold classified
  split
  · rename_i hnil
    rw [hnil] at hcut
    exact absurd hcut.symm hcode
  · rename_i t ts hcons
    rw [← hcons]
    exact proper_of_mem_cut hregions [] .identifier code (by simp)

theorem classified_nil (g : Grammar) (regions : Bool) :
    g.classified [] regions = [⟨[], .empty⟩] := by
  simp [classified, cut, flush]

theorem join_tokenList (g : Grammar) (code : Bytes) (applyRules : Bool) :
    Token.join (g.tokenList code applyRules) = code := by
  unfold tokenList
  split
  · rw [join_resolve, join_rewrite, Token.join_coalesce, join_classified]
  · exact join_classified g code false

theorem proper_of_mem_tokenList {g : Grammar} (hg : g.Valid) {code : Bytes} (hcode : code ≠ [])
    (applyRules : Bool) : ∀ t ∈ g.tokenList code applyRules, t.Proper := by
  unfold tokenList
  split
  · exact proper_of_mem_resolve (proper_of_mem_rewrite hg.step_namesNoEmpty
      (Token.proper_of_mem_coalesce (proper_of_mem_classified hg hcode true)))
  · exact proper_of_mem_classified hg hcode false

theorem tokenList_nil {g : Grammar} (hg : g.Valid) (applyRules : Bool) :
    g.tokenList [] applyRules = [⟨[], .empty⟩] := by
  unfold tokenList
  split
  · rw [classified_nil, show Token.coalesce [⟨[], .empty⟩] = [⟨[], .empty⟩] from rfl,
      rewrite_placeholder hg.step_namesNoEmpty, resolve_placeholder]
  · exact classified_nil g false

/-- The tokens of code spell the code, whatever the grammar. -/
theorem text_tokenize (g : Grammar) (code : Bytes) (applyRules : Bool) :
    (g.tokenize code applyRules).text = code := by
  rw [Chain.text, tokens_tokenize, join_tokenList]

theorem proper_of_mem_tokenize {g : Grammar} (hg : g.Valid) {code : Bytes} (hcode : code ≠ [])
    (applyRules : Bool) : ∀ t ∈ (g.tokenize code applyRules).tokens, t.Proper := by
  rw [tokens_tokenize]
  exact proper_of_mem_tokenList hg hcode applyRules

theorem tokens_tokenize_nil {g : Grammar} (hg : g.Valid) (applyRules : Bool) :
    (g.tokenize [] applyRules).tokens = [⟨[], .empty⟩] := by
  rw [tokens_tokenize, tokenList_nil hg]

theorem exists_build_eq_ok {name : Bytes} {regions rules : List Bytes}
    (h : (build name regions rules).isOk = true) : ∃ g, build name regions rules = .ok g := by
  cases hb : build name regions rules with
  | error e => rw [hb] at h; cases h
  | ok g => exact ⟨g, rfl⟩

/-- The tokens of a compiled grammar partition the code: they spell it, and each has text and a
lexeme other than `empty`, except the one placeholder token of empty code. -/
theorem tokenize_partitions_code {name : Bytes} {regions rules : List Bytes} {g : Grammar}
    (h : build name regions rules = .ok g) (code : Bytes) (applyRules : Bool) :
    (g.tokenize code applyRules).text = code ∧
      (code ≠ [] → ∀ t ∈ (g.tokenize code applyRules).tokens, t.text ≠ [] ∧ t.lexeme ≠ .empty) ∧
      (code = [] → (g.tokenize code applyRules).tokens = [⟨[], .empty⟩]) := by
  have hg := valid_of_build h
  refine ⟨text_tokenize g code applyRules, fun hcode => proper_of_mem_tokenize hg hcode applyRules, ?_⟩
  rintro rfl
  exact tokens_tokenize_nil hg applyRules

theorem tokenize_partitions_quoted :
    ∃ g, build (Bytes.ofString "quoted") [Bytes.ofString "STR(\")(\")", Bytes.ofString "CMT(#)(\n)"]
        [Bytes.ofString "ID(:CLS) O(:)"] = .ok g ∧
      let code := Bytes.ofString "x = \"a\\\"b\" # é" ++ [0xFF]
      (g.tokenize code true).text = code ∧
        (code ≠ [] → ∀ t ∈ (g.tokenize code true).tokens, t.text ≠ [] ∧ t.lexeme ≠ .empty) ∧
        (code = [] → (g.tokenize code true).tokens = [⟨[], .empty⟩]) := by
  obtain ⟨g, hg⟩ : ∃ g, build (Bytes.ofString "quoted")
      [Bytes.ofString "STR(\")(\")", Bytes.ofString "CMT(#)(\n)"] [Bytes.ofString "ID(:CLS) O(:)"] = .ok g :=
    exists_build_eq_ok (by decide +kernel)
  exact ⟨g, hg, tokenize_partitions_code hg _ true⟩

end Grammar

end SyntaxShade
