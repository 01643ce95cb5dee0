import SyntaxShade.Grammar
import Mathlib.Data.List.Forall2
/-! A compiled grammar never names the `empty` lexeme, since each lexeme it names is read from a
non-empty code (`Grammar.valid_of_build`). -/
namespace SyntaxShade

theorem exists_ok_of_bind_eq_ok {ε α β : Type} {x : Except ε α} {f : α → Except ε β} {b : β}
    (h : (x >>= f) = .ok b) : ∃ a, x = .ok a ∧ f a = .ok b := by
  cases x with
  | error e => cases h
  | ok a => exact ⟨a, rfl, h⟩

theorem exists_ok_of_map_eq_ok {ε α β : Type} {x : Except ε α} {f : α → β} {b : β}
    (h : x.map f = .ok b) : ∃ a, x = .ok a ∧ f a = b := by
  cases x with
  | error e => cases h
  | ok a => exact ⟨a, rfl, Except.ok.inj h⟩

theorem mapError_eq_ok {ε ε' α : Type} {x : Except ε α} {f : ε → ε'} {a : α} :
    x.mapError f = .ok a ↔ x = .ok a := by
  cases x with
  | error e => exact ⟨fun h => (nomatch h), fun h => (nomatch h)⟩
  | ok b =>
    constructor <;> intro h <;> cases h <;> rfl

/-! ### Readers of lists -/

section ReadsEach

variable {α β ε : Type}

/-- `F` reads a list item by item with `read`, and stops at the first item that `read` refuses. -/
structure ReadsEach (F : List α → Except ε (List β)) (read : α → Except ε β) : Prop where
  nil : F [] = .ok []
  cons : ∀ x xs, F (x :: xs) = (read x >>= fun b => (F xs).map (b :: ·))

/-- A reader of lists gives the readings of the items, one for one and in order. -/
theorem ReadsEach.forall₂_of_eq_ok {F : List α → Except ε (List β)} {read : α → Except ε β}
    (h : ReadsEach F read) {xs : List α} {ys : List β} (hF : F xs = .ok ys) :
    List.Forall₂ (fun x y => read x = .ok y) xs ys := by
  induction xs generalizing ys with
  | nil =>
    rw [h.nil] at hF
    cases hF
    exact .nil
  | cons x xs ih =>
    rw [h.cons] at hF
    obtain ⟨b, hb, hF⟩ := exists_ok_of_bind_eq_ok hF
    obtain ⟨ys', hys', rfl⟩ := exists_ok_of_map_eq_ok hF
    exact .cons hb (ih hys')

theorem exists_mem_of_forall₂ {R : α → β → Prop} {xs : List α} {ys : List β}
    (h : List.Forall₂ R xs ys) : ∀ y ∈ ys, ∃ x ∈ xs, R x y := by
  induction h with
  | nil => simp
  | cons hxy _ ih =>
    intro y hy
    rcases List.mem_cons.mp hy with rfl | hy
    · exact ⟨_, List.mem_cons_self, hxy⟩
    · obtain ⟨x, hx, hxy'⟩ := ih y hy
      exact ⟨x, List.mem_cons_of_mem _ hx, hxy'⟩

theorem ReadsEach.mem_of_eq_ok {F : List α → Except ε (List β)} {read : α → Except ε β}
    (h : ReadsEach F read) {xs : List α} {ys : List β} (hF : F xs = .ok ys) :
    ∀ y ∈ ys, ∃ x ∈ xs, read x = .ok y :=
  exists_mem_of_forall₂ (h.forall₂_of_eq_ok hF)

end ReadsEach

theorem Lexeme.beq_eq_decide (a b : Lexeme) : (a == b) = decide (a = b) := by
  cases a <;> cases b <;> rfl

instance : LawfulBEq Lexeme where
  eq_of_beq {a b} h := of_decide_eq_true ((Lexeme.beq_eq_decide a b).symm.trans h)
  rfl {a} := (Lexeme.beq_eq_decide a a).trans (decide_eq_true rfl)

theorem Lexeme.code_of_ofCode? {s : Bytes} {l : Lexeme} (h : ofCode? s = some l) : Bytes.ofString l.code = s := by
  unfold Lexeme.ofCode? at h
  have hcode := List.find?_some h
  exact beq_iff_eq.mp hcode

/-- Only the empty text is the code of `empty`. -/
theorem Lexeme.ne_empty_of_ofCode? {s : Bytes} {l : Lexeme} (h : Lexeme.ofCode? s = some l)
    (hs : s ≠ []) : l ≠ .empty := by
  rintro rfl
  have hcode := List.find?_some h
  simp only [beq_iff_eq] at hcode
  exact hs (hcode.symm.trans (by simp [Lexeme.code, Bytes.ofString]))

namespace Grammar

theorem readsEach_readAll {α ε : Type} (read : Bytes → Except ε α) : ReadsEach (readAll read) read where
  nil := rfl
  cons x xs := by
    rw [readAll]
    rfl

end Grammar

namespace Region

theorem code_ne_nil_of_split? {rule code opener closer : Bytes}
    (h : split? rule = some (code, opener, closer)) : code ≠ [] := by
  unfold split? at h
  dsimp only at h
  split at h
  · by_cases hc : List.takeWhile isCodeByte rule = []
    · rw [if_pos hc] at h
      cases h
    rw [if_neg hc] at h
    split at h
    · split at h
      · cases h
        exact hc
      · cases h
    · cases h
  · cases h

theorem lexeme_ne_empty_of_parse {rule : Bytes} {r : Region} (h : parse rule = .ok r) :
    r.lexeme ≠ .empty := by
  unfold parse at h
  rcases hs : split? rule with _ | ⟨code, opener, closer⟩
  · simp [hs] at h
  rcases hl : Lexeme.ofCode? code with _ | l
  · simp [hs, hl] at h
  simp only [hs, hl] at h
  split at h
  · cases h
  split at h
  · cases h
  cases h
  exact Lexeme.ne_empty_of_ofCode? hl (code_ne_nil_of_split? hs)

end Region

namespace Step

/-- A step neither accepts nor gives the `empty` lexeme. -/
def NamesNoEmpty (s : Step) : Prop := Lexeme.empty ∉ s.inputs ∧ s.output ≠ some .empty

/-- Reads one class code of a step: the empty code refuses the step, and so does a code that
names no lexeme. -/
def readClass (step c : Bytes) : Except Error Lexeme :=
  if c = [] then .error (.emptyClass step)
  else
    match Lexeme.ofCode? c with
    | none => .error (.unknownLexeme c)
    | some l => .ok l

theorem readsEach_readClasses (step : Bytes) : ReadsEach (readClasses step) (readClass step) where
  nil := rfl
  cons c cs := by
    rw [readClasses]
    unfold readClass
    by_cases hc : c = []
    · rw [if_pos hc, if_pos hc]
      rfl
    · rw [if_neg hc, if_neg hc]
      cases Lexeme.ofCode? c <;> rfl

theorem readClass_eq_ok {step c : Bytes} {l : Lexeme} (h : readClass step c = .ok l) :
    c ≠ [] ∧ Lexeme.ofCode? c = some l := by
  unfold readClass at h
  by_cases hc : c = []
  · rw [if_pos hc] at h
    cases h
  rw [if_neg hc] at h
  refine ⟨hc, ?_⟩
  cases hl : Lexeme.ofCode? c with
  | none => rw [hl] at h; cases h
  | some l' => rw [hl] at h; cases h; rfl

theorem empty_not_mem_readClasses {step : Bytes} {cs : List Bytes} {ls : List Lexeme}
    (h : readClasses step cs = .ok ls) : Lexeme.empty ∉ ls := by
  intro he
  obtain ⟨c, -, hc⟩ := (readsEach_readClasses step).mem_of_eq_ok h _ he
  obtain ⟨hne, hl⟩ := readClass_eq_ok hc
  exact Lexeme.ne_empty_of_ofCode? hl hne rfl

theorem ne_empty_of_readOutput {out : Bytes} {o : Option Lexeme} (h : readOutput out = .ok o) :
    o ≠ some .empty := by
  unfold readOutput at h
  by_cases ho : out = []
  · rw [if_pos ho] at h
    cases h
    simp
  · rw [if_neg ho] at h
    rcases hl : Lexeme.ofCode? out with _ | l
    · simp [hl] at h
    simp only [hl] at h
    cases h
    simpa using Lexeme.ne_empty_of_ofCode? hl ho

/-- A step that is read was cut into classes, condition and output, and its lexemes were read
from the class codes and the output code; its condition plays no part in them. -/
theorem pieces_of_parse {text : Bytes} {s : Step} (h : parse text = .ok s) :
    ∃ classes cond out, split? text = some (classes, cond, out) ∧
      readClasses text (bars classes) = .ok s.inputs ∧ readOutput out = .ok s.output := by
  unfold parse at h
  rcases hs : split? text with _ | ⟨classes, cond, out⟩
  · simp [hs] at h
  simp only [hs] at h
  obtain ⟨inputs, hin, h⟩ := exists_ok_of_bind_eq_ok h
  obtain ⟨condition, -, h⟩ := exists_ok_of_bind_eq_ok h
  obtain ⟨output, hout, h⟩ := exists_ok_of_bind_eq_ok h
  cases h
  exact ⟨classes, cond, out, rfl, hin, hout⟩

theorem namesNoEmpty_of_parse {text : Bytes} {s : Step} (h : parse text = .ok s) :
    s.NamesNoEmpty := by
  obtain ⟨_, _, _, -, hin, hout⟩ := pieces_of_parse h
  exact ⟨empty_not_mem_readClasses hin, ne_empty_of_readOutput hout⟩

end Step

namespace Rule

theorem readsEach_readSteps (rule : Bytes) :
    ReadsEach (readSteps rule) fun f => (Step.parse f).mapError (.step rule) where
  nil := rfl
  cons f fs := by
    rw [readSteps]
    cases Step.parse f <;> rfl

theorem mem_of_readSteps {rule : Bytes} {fs : List Bytes} {ss : List Step}
    (h : readSteps rule fs = .ok ss) : ∀ s ∈ ss, ∃ f ∈ fs, Step.parse f = .ok s := by
  intro s hs
  obtain ⟨f, hf, hfs⟩ := (readsEach_readSteps rule).mem_of_eq_ok h s hs
  exact ⟨f, hf, mapError_eq_ok.mp hfs⟩

/-- Each step of a rule that is read was read from one of the rule's fields. -/
theorem exists_parse_of_mem_steps {text : Bytes} {r : Rule} (h : parse text = .ok r) :
    ∀ s ∈ r.steps, ∃ f ∈ Fields.split text, Step.parse f = .ok s := by
  unfold parse at h
  split at h
  · cases h
  next f fs hfields =>
    obtain ⟨ss, hss, h⟩ := exists_ok_of_bind_eq_ok h
    split at h
    · cases h
      rw [hfields]
      exact mem_of_readSteps hss
    · cases h

theorem namesNoEmpty_of_parse {text : Bytes} {r : Rule} (h : parse text = .ok r) :
    ∀ s ∈ r.steps, s.NamesNoEmpty := by
  intro s hs
  obtain ⟨f, -, hf⟩ := exists_parse_of_mem_steps h s hs
  exact Step.namesNoEmpty_of_parse hf

end Rule

namespace Grammar

/-- What compiling promises of a grammar: no region is claimed as `empty`, and no step of a
token rule accepts or gives `empty`. -/
structure Valid (g : Grammar) : Prop where
  region_lexeme_ne : ∀ r ∈ g.regions, r.lexeme ≠ .empty
  step_namesNoEmpty : ∀ r ∈ g.rules, ∀ s ∈ r.steps, s.NamesNoEmpty

/-- A built grammar holds the readings of its region and token rule texts, one for one and in
order. -/
theorem reads_of_build {name : Bytes} {regions rules : List Bytes} {g : Grammar}
    (h : build name regions rules = .ok g) :
    List.Forall₂ (fun text r => Region.parse text = .ok r) regions g.regions ∧
      List.Forall₂ (fun text r => Rule.parse text = .ok r) rules g.rules := by
  obtain ⟨rs, hrs, h⟩ := exists_ok_of_bind_eq_ok h
  obtain ⟨ts, hts, h⟩ := exists_ok_of_bind_eq_ok h
  cases h
  exact ⟨(readsEach_readAll _).forall₂_of_eq_ok (mapError_eq_ok.mp hrs),
    (readsEach_readAll _).forall₂_of_eq_ok (mapError_eq_ok.mp hts)⟩

theorem valid_of_build {name : Bytes} {regions rules : List Bytes} {g : Grammar}
    (h : build name regions rules = .ok g) : g.Valid := by
  obtain ⟨hregions, hrules⟩ := reads_of_build h
  refine ⟨fun r hr => ?_, fun r hr => ?_⟩
  · obtain ⟨x, -, hx⟩ := exists_mem_of_forall₂ hregions r hr
    exact Region.lexeme_ne_empty_of_parse hx
  · obtain ⟨x, -, hx⟩ := exists_mem_of_forall₂ hrules r hr
    exact Rule.namesNoEmpty_of_parse hx

end Grammar

end SyntaxShade
