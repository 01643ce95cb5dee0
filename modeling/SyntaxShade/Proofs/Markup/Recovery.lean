import SyntaxShade.Proofs.Grammar.Partition
import SyntaxShade.Builtin
import SyntaxShade.Terminal
/-! The code reads back from what renderers write, by untagging and unescaping HTML markup or from
the terminal text without colours (`Grammar.render_tokenize_reads_back`). -/
namespace SyntaxShade

/-- Decodes `&lt;` to `<` and `&amp;` to `&`, left to right; every other byte stays. -/
def unescapeHtml : Bytes → Bytes
  | 0x26 :: 0x6C :: 0x74 :: 0x3B :: rest => 0x3C :: unescapeHtml rest
  | 0x26 :: 0x61 :: 0x6D :: 0x70 :: 0x3B :: rest => 0x26 :: unescapeHtml rest
  | b :: rest => b :: unescapeHtml rest
  | [] => []

namespace Token

/-- The text that renderers show of a token list: that of every token but those with no text or
with the `empty` lexeme, which are skipped. -/
def shownText (ts : List Token) : Bytes :=
  ts.flatMap fun t => if t.text = [] ∨ t.lexeme = .empty then [] else t.text

@[simp] theorem shownText_nil : shownText [] = [] := rfl

theorem shownText_cons (t : Token) (ts : List Token) :
    shownText (t :: ts) = (if t.text = [] ∨ t.lexeme = .empty then [] else t.text) ++ shownText ts :=
  List.flatMap_cons

theorem shownText_eq_join {ts : List Token} (h : ∀ t ∈ ts, t.Proper) : shownText ts = join ts := by
  induction ts with
  | nil => rfl
  | cons t ts ih =>
    have ht := h t List.mem_cons_self
    rw [shownText_cons, if_neg (not_or.mpr ht), ih fun u hu => h u (List.mem_cons_of_mem t hu),
      join_cons]

end Token

/-! ### Escaping -/

theorem entity_amp : Bytes.ofString "&amp;" = [0x26, 0x61, 0x6D, 0x70, 0x3B] := by decide +kernel

theorem entity_lt : Bytes.ofString "&lt;" = [0x26, 0x6C, 0x74, 0x3B] := by decide +kernel

theorem escapeHtml_cons (b : UInt8) (s : Bytes) :
    escapeHtml (b :: s) =
      (if b = 0x26 then [0x26, 0x61, 0x6D, 0x70, 0x3B] else if b = 0x3C then [0x26, 0x6C, 0x74, 0x3B]
        else [b]) ++ escapeHtml s := by
  simp only [escapeHtml, List.flatMap_cons, entity_amp, entity_lt]

theorem escapeHtml_append (s₁ s₂ : Bytes) : escapeHtml (s₁ ++ s₂) = escapeHtml s₁ ++ escapeHtml s₂ :=
  List.flatMap_append

theorem unescapeHtml_cons_of_ne {b : UInt8} (hb : b ≠ 0x26) (rest : Bytes) :
    unescapeHtml (b :: rest) = b :: unescapeHtml rest := by
  rw [unescapeHtml.eq_def (b :: rest)]
  split <;> simp_all

theorem unescapeHtml_escapeHtml (s : Bytes) : unescapeHtml (escapeHtml s) = s := by
  induction s with
  | nil => rfl
  | cons b s ih =>
    rw [escapeHtml_cons]
    by_cases hamp : b = 0x26
    · rw [if_pos hamp, hamp]
      simp [unescapeHtml, ih]
    by_cases hlt : b = 0x3C
    · rw [if_neg hamp, if_pos hlt, hlt]
      simp [unescapeHtml, ih]
    · rw [if_neg hamp, if_neg hlt, List.singleton_append, unescapeHtml_cons_of_ne hamp, ih]

theorem lt_not_mem_escapeHtml (s : Bytes) : 0x3C ∉ escapeHtml s := by
  induction s with
  | nil => simp [escapeHtml]
  | cons b s ih =>
    rw [escapeHtml_cons, List.mem_append, not_or]
    refine ⟨?_, ih⟩
    split_ifs with hamp hlt
    · decide
    · decide
    · simpa using Ne.symm hlt

namespace Markup

/-- The class names a renderer writes into its tags: the fallback and the class of each lexeme. -/
def classNames (m : Markup) : List Bytes := m.fallback :: m.classes.map Prod.snd

/-- The opening tag of a span of class `c`. -/
def openTag (c : Bytes) : Bytes := Bytes.ofString "<span class=\"" ++ c ++ Bytes.ofString "\">"

/-- The closing tag of a span. -/
def closeTag : Bytes := Bytes.ofString "</span>"

/-- The tags a renderer writes: the closing tag and the opening tag of each of its classes. -/
def tags (m : Markup) : List Bytes := closeTag :: m.classNames.map openTag

/-- Every `<` of a text starts one of the renderer's tags. -/
def LtStartsTag (m : Markup) (s : Bytes) : Prop :=
  ∀ l₁ l₂, s = l₁ ++ 0x3C :: l₂ → ∃ tag ∈ m.tags, tag <+: 0x3C :: l₂

/-- Deletes the renderer's tags from markup, left to right; none where a `<` starts none of them.
A tag starts with its `<`, so the rest of the tag is dropped after that byte. -/
def untag (m : Markup) : Bytes → Option Bytes
  | [] => some []
  | b :: rest =>
    if b = 0x3C then
      match m.tags.find? (·.isPrefixOf (b :: rest)) with
      | some tag => untag m (rest.drop (tag.length - 1))
      | none => none
    else (untag m rest).map (b :: ·)
termination_by s => s.length
decreasing_by
  all_goals simp only [List.length_drop, List.length_cons]
  all_goals omega

theorem closeTag_eq : closeTag = [0x3C, 0x2F, 0x73, 0x70, 0x61, 0x6E, 0x3E] := by decide +kernel

theorem openTag_eq (c : Bytes) :
    openTag c = [0x3C, 0x73, 0x70, 0x61, 0x6E, 0x20, 0x63, 0x6C, 0x61, 0x73, 0x73, 0x3D, 0x22] ++ c ++
      [0x22, 0x3E] := by
  have hopen : Bytes.ofString "<span class=\"" =
      [0x3C, 0x73, 0x70, 0x61, 0x6E, 0x20, 0x63, 0x6C, 0x61, 0x73, 0x73, 0x3D, 0x22] := by decide +kernel
  have hclose : Bytes.ofString "\">" = [0x22, 0x3E] := by decide +kernel
  rw [openTag, hopen, hclose]

/-- A text that runs up to a quote determines the text: the quote ends it. -/
theorem eq_of_append_quote_isPrefix {c c' x y : Bytes} (hc : 0x22 ∉ c) (hc' : 0x22 ∉ c')
    (h : c' ++ 0x22 :: x <+: c ++ 0x22 :: y) : c' = c := by
  induction c' generalizing c with
  | nil =>
    cases c with
    | nil => rfl
    | cons a c =>
      rw [List.nil_append, List.cons_append, List.cons_prefix_cons] at h
      exact absurd (h.1 ▸ List.mem_cons_self) hc
  | cons a c' ih =>
    cases c with
    | nil =>
      rw [List.cons_append, List.nil_append, List.cons_prefix_cons] at h
      exact absurd (h.1 ▸ List.mem_cons_self) hc'
    | cons a₀ c =>
      rw [List.cons_append, List.cons_append, List.cons_prefix_cons] at h
      rw [h.1, ih (fun h' => hc (List.mem_cons_of_mem _ h')) (fun h' => hc' (List.mem_cons_of_mem _ h')) h.2]

/-- Of two classes without a quote, the opening tag of one starts markup that starts with the
opening tag of the other only if they are the same class. -/
theorem eq_of_openTag_isPrefix {c c' rest : Bytes} (hc : 0x22 ∉ c) (hc' : 0x22 ∉ c')
    (h : openTag c' <+: openTag c ++ rest) : c' = c := by
  rw [openTag_eq, openTag_eq] at h
  simp only [List.append_assoc, List.cons_append, List.nil_append, List.cons_prefix_cons, true_and] at h
  exact eq_of_append_quote_isPrefix hc hc' h

variable {m : Markup}

theorem mem_classNames_of_classOf {l : Lexeme} {c : Bytes} (h : m.classOf l = some c) :
    c ∈ m.classNames := by
  unfold classOf at h
  split at h
  · rename_i c' hl
    cases h
    obtain ⟨l₁, l₂, hsplit, -⟩ := List.lookup_eq_some_iff.mp hl
    exact List.mem_cons_of_mem _ (List.mem_map.mpr ⟨(l, c), by simp [hsplit], rfl⟩)
  · split at h
    · cases h
    · cases h
      exact List.mem_cons_self

/-! ### Deleting the tags -/

theorem untag_cons_of_ne {b : UInt8} (hb : b ≠ 0x3C) (rest : Bytes) :
    m.untag (b :: rest) = (m.untag rest).map (b :: ·) := by
  rw [untag, if_neg hb]

theorem untag_append_of_not_mem {e : Bytes} (he : 0x3C ∉ e) (rest : Bytes) :
    m.untag (e ++ rest) = (m.untag rest).map (e ++ ·) := by
  induction e with
  | nil => simp
  | cons b e ih =>
    have hb : b ≠ 0x3C := fun h => he (h ▸ List.mem_cons_self)
    rw [List.cons_append, untag_cons_of_ne hb, ih fun h => he (List.mem_cons_of_mem b h),
      Option.map_map]
    rfl

/-- Markup that starts with a tag goes on after it, when the first of the renderer's tags that
starts the markup is as long. -/
theorem untag_tag_append {tag rest found : Bytes} (htag : tag.head? = some 0x3C)
    (hfound : m.tags.find? (·.isPrefixOf (tag ++ rest)) = some found)
    (hlen : found.length = tag.length) : m.untag (tag ++ rest) = m.untag rest := by
  cases tag with
  | nil => cases htag
  | cons b tail =>
    obtain rfl : b = 0x3C := by simpa using htag
    rw [List.cons_append] at hfound ⊢
    rw [untag, if_pos rfl, hfound]
    dsimp only
    rw [hlen, List.length_cons, Nat.add_sub_cancel, List.drop_left]

theorem untag_closeTag_append (rest : Bytes) : m.untag (closeTag ++ rest) = m.untag rest := by
  refine untag_tag_append (by rw [closeTag_eq]; rfl) ?_ rfl
  simp [tags]

theorem untag_openTag_append (hm : ∀ c ∈ m.classNames, 0x22 ∉ c) {c : Bytes}
    (hc : c ∈ m.classNames) (rest : Bytes) : m.untag (openTag c ++ rest) = m.untag rest := by
  have hlen : ∀ t ∈ m.tags, t.isPrefixOf (openTag c ++ rest) = true → t.length = (openTag c).length := by
    intro t ht hp
    rw [List.isPrefixOf_iff_prefix] at hp
    rcases List.mem_cons.mp ht with rfl | ht
    · -- the closing tag differs from an opening tag in its second byte
      rw [closeTag_eq, openTag_eq] at hp
      simp at hp
    · obtain ⟨c', hc', rfl⟩ := List.mem_map.mp ht
      rw [eq_of_openTag_isPrefix (hm c hc) (hm c' hc') hp]
  obtain ⟨found, hfound⟩ : ∃ found, m.tags.find? (·.isPrefixOf (openTag c ++ rest)) = some found :=
    Option.isSome_iff_exists.mp (List.find?_isSome.mpr
      ⟨openTag c, List.mem_cons_of_mem _ (List.mem_map_of_mem hc), by simp⟩)
  have hp := List.find?_some hfound
  exact untag_tag_append (by rw [openTag_eq]; rfl) hfound
    (hlen found (List.mem_of_find?_eq_some hfound) hp)

/-- A token's markup reads back as its escaped text, or as nothing when the token is skipped. -/
theorem untag_renderToken_append (hm : ∀ c ∈ m.classNames, 0x22 ∉ c) (t : Token) (rest : Bytes) :
    m.untag (m.renderToken t ++ rest) =
      (m.untag rest).map (escapeHtml (if t.text = [] ∨ t.lexeme = .empty then [] else t.text) ++ ·) := by
  unfold renderToken
  by_cases hskip : t.text = [] ∨ t.lexeme = .empty
  · rw [if_pos hskip, if_pos hskip, List.nil_append]
    simp [escapeHtml]
  rw [if_neg hskip, if_neg hskip]
  have htext := untag_append_of_not_mem (m := m) (lt_not_mem_escapeHtml t.text)
  dsimp only
  split
  · rename_i c hc
    split
    · exact htext rest
    · have hform : Bytes.ofString "<span class=\"" ++ c ++ Bytes.ofString "\">" ++ escapeHtml t.text ++
          Bytes.ofString "</span>" ++ rest = openTag c ++ (escapeHtml t.text ++ (closeTag ++ rest)) := by
        simp only [openTag, closeTag, List.append_assoc]
      rw [hform, untag_openTag_append hm (mem_classNames_of_classOf hc), htext, untag_closeTag_append]
  · exact htext rest

/-- Deleting the tags from markup leaves the escaped text that the renderer shows. -/
theorem untag_render (hm : ∀ c ∈ m.classNames, 0x22 ∉ c) (ts : List Token) :
    m.untag (m.render ts) = some (escapeHtml (Token.shownText ts)) := by
  induction ts with
  | nil => simp [render, untag, escapeHtml]
  | cons t ts ih =>
    rw [render, List.flatMap_cons, ← render, untag_renderToken_append hm, ih, Option.map_some,
      Token.shownText_cons, escapeHtml_append]

/-! ### Where a `<` stands -/

theorem ltStartsTag_append {s₁ s₂ : Bytes} (h₁ : m.LtStartsTag s₁) (h₂ : m.LtStartsTag s₂) :
    m.LtStartsTag (s₁ ++ s₂) := by
  intro l₁ l₂ h
  rcases List.append_eq_append_iff.mp h.symm with ⟨a, rfl, ha⟩ | ⟨b, rfl, hb⟩
  · cases a with
    | nil => exact h₂ [] l₂ (by simpa using ha.symm)
    | cons x a =>
      obtain ⟨rfl, rfl⟩ := List.cons.inj ha
      obtain ⟨tag, htag, hpre⟩ := h₁ l₁ a rfl
      exact ⟨tag, htag, hpre.trans (List.prefix_append _ _)⟩
  · exact h₂ b l₂ hb

theorem ltStartsTag_of_not_mem {s : Bytes} (hs : 0x3C ∉ s) : m.LtStartsTag s := by
  rintro l₁ l₂ rfl
  simp at hs

theorem ltStartsTag_tag {tail : Bytes} (htag : 0x3C :: tail ∈ m.tags) (htail : 0x3C ∉ tail) :
    m.LtStartsTag (0x3C :: tail) := by
  intro l₁ l₂ h
  cases l₁ with
  | nil =>
    obtain rfl : tail = l₂ := (List.cons.inj h).2
    exact ⟨_, htag, List.prefix_refl _⟩
  | cons x l₁ =>
    have : 0x3C ∈ tail := by simp [(List.cons.inj h).2]
    exact absurd this htail

theorem ltStartsTag_closeTag : m.LtStartsTag closeTag := by
  have hmem : closeTag ∈ m.tags := List.mem_cons_self
  rw [closeTag_eq] at hmem ⊢
  exact ltStartsTag_tag hmem (by decide)

theorem ltStartsTag_openTag {c : Bytes} (hc : c ∈ m.classNames) (hlt : 0x3C ∉ c) :
    m.LtStartsTag (openTag c) := by
  have hmem : openTag c ∈ m.tags := List.mem_cons_of_mem _ (List.mem_map_of_mem hc)
  rw [openTag_eq] at hmem ⊢
  exact ltStartsTag_tag hmem (by simp [hlt])

theorem ltStartsTag_renderToken (hm : ∀ c ∈ m.classNames, 0x3C ∉ c) (t : Token) :
    m.LtStartsTag (m.renderToken t) := by
  have htext : m.LtStartsTag (escapeHtml t.text) := ltStartsTag_of_not_mem (lt_not_mem_escapeHtml _)
  unfold renderToken
  split
  · exact ltStartsTag_of_not_mem (by simp)
  dsimp only
  split
  · rename_i c hc
    split
    · exact htext
    · have hcm := mem_classNames_of_classOf hc
      have hform : Bytes.ofString "<span class=\"" ++ c ++ Bytes.ofString "\">" ++ escapeHtml t.text ++
          Bytes.ofString "</span>" = openTag c ++ escapeHtml t.text ++ closeTag := rfl
      rw [hform]
      exact ltStartsTag_append (ltStartsTag_append (ltStartsTag_openTag hcm (hm c hcm)) htext)
        ltStartsTag_closeTag
  · exact htext

/-- In markup every `<` starts one of the renderer's tags, when no class holds a `<`. -/
theorem ltStartsTag_render (hm : ∀ c ∈ m.classNames, 0x3C ∉ c) (ts : List Token) :
    m.LtStartsTag (m.render ts) := by
  induction ts with
  | nil => exact ltStartsTag_of_not_mem (by simp [render])
  | cons t ts ih =>
    rw [render, List.flatMap_cons, ← render]
    exact ltStartsTag_append (ltStartsTag_renderToken hm t) ih

end Markup

theorem terminal_false (ts : List Token) : terminal false ts = Token.shownText ts := by
  unfold terminal Token.shownText
  congr 1
  funext t
  split
  · rfl
  · split <;> simp

namespace Grammar

theorem shownText_tokenize {g : Grammar} (hg : g.Valid) (code : Bytes) (applyRules : Bool) :
    Token.shownText (g.tokenize code applyRules).tokens = code := by
  by_cases hcode : code = []
  · subst hcode
    rw [tokens_tokenize_nil hg]
    rfl
  · rw [Token.shownText_eq_join (proper_of_mem_tokenize hg hcode applyRules), ← Chain.text,
      text_tokenize]

/-- Rendering the tokens of a compiled grammar loses no code: in the markup every `<` starts one
of the renderer's tags, deleting them and decoding gives the code back, and so does the terminal
text without colours. -/
theorem render_tokenize_reads_back {name : Bytes} {regions rules : List Bytes} {g : Grammar}
    (h : build name regions rules = .ok g) {m : Markup}
    (hm : ∀ c ∈ m.classNames, 0x22 ∉ c ∧ 0x3C ∉ c) (code : Bytes) (applyRules : Bool) :
    m.LtStartsTag (m.render (g.tokenize code applyRules).tokens) ∧
      (m.untag (m.render (g.tokenize code applyRules).tokens)).map unescapeHtml = some code ∧
      terminal false (g.tokenize code applyRules).tokens = code := by
  have hshown := shownText_tokenize (valid_of_build h) code applyRules
  refine ⟨Markup.ltStartsTag_render (fun c hc => (hm c hc).2) _, ?_, ?_⟩
  · rw [Markup.untag_render (fun c hc => (hm c hc).1), Option.map_some, unescapeHtml_escapeHtml,
      hshown]
  · rw [terminal_false, hshown]

theorem render_tokenize_reads_back_universal_markup :
    ∃ g, build (Bytes.ofString "quoted") [Bytes.ofString "STR(\")(\")"] [Bytes.ofString "ID(:CLS) O(:)"] = .ok g ∧
      (∀ c ∈ Builtin.universalMarkup.classNames, 0x22 ∉ c ∧ 0x3C ∉ c) ∧
      let code := Bytes.ofString "a<b & \"&lt;\""
      Builtin.universalMarkup.LtStartsTag (Builtin.universalMarkup.render (g.tokenize code true).tokens) ∧
        (Builtin.universalMarkup.untag
          (Builtin.universalMarkup.render (g.tokenize code true).tokens)).map unescapeHtml = some code ∧
        terminal false (g.tokenize code true).tokens = code := by
  obtain ⟨g, hg⟩ : ∃ g, build (Bytes.ofString "quoted") [Bytes.ofString "STR(\")(\")"]
      [Bytes.ofString "ID(:CLS) O(:)"] = .ok g := exists_build_eq_ok (by decide +kernel)
  have hm : ∀ c ∈ Builtin.universalMarkup.classNames, 0x22 ∉ c ∧ 0x3C ∉ c := by decide +kernel
  exact ⟨g, hg, hm, render_tokenize_reads_back hg hm _ true⟩

end Grammar

end SyntaxShade
