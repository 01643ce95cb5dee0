import SyntaxShade.Proofs.Grammar.RuleText
import SyntaxShade.GrammarFile
/-! Compiling a grammar file reports its first fault in a fixed order: markup keys, region rules,
token rules, and the checks of each rule in turn (`GrammarFile.compile_reports_first_fault`). -/
namespace SyntaxShade

/-! ### The first refused item of a list -/

section FirstRefusal

variable {α β γ ε : Type}

/-- Reading the items of `xs` in order stops at an item that `read` refuses with `e`: every item
before it is read. -/
def FirstRefusal (read : α → Except ε β) (xs : List α) (e : ε) : Prop :=
  ∃ pre x post, xs = pre ++ x :: post ∧ (∀ y ∈ pre, ∃ b, read y = .ok b) ∧ read x = .error e

variable {read : α → Except ε β} {x : α} {xs : List α} {e : ε}

theorem firstRefusal_cons_of_ok {b : β} (hx : read x = .ok b) :
    FirstRefusal read (x :: xs) e ↔ FirstRefusal read xs e := by
  constructor
  · rintro ⟨_ | ⟨y, pre⟩, z, post, hxs, hpre, hz⟩
    · obtain ⟨rfl, -⟩ := List.cons.inj hxs
      rw [hx] at hz
      cases hz
    · obtain ⟨rfl, rfl⟩ := List.cons.inj hxs
      exact ⟨pre, z, post, rfl, fun y hy => hpre y (List.mem_cons_of_mem _ hy), hz⟩
  · rintro ⟨pre, z, post, rfl, hpre, hz⟩
    refine ⟨x :: pre, z, post, rfl, fun y hy => ?_, hz⟩
    rcases List.mem_cons.mp hy with rfl | hy
    · exact ⟨b, hx⟩
    · exact hpre y hy

theorem firstRefusal_cons_of_error {e' : ε} (hx : read x = .error e') :
    FirstRefusal read (x :: xs) e ↔ e' = e := by
  constructor
  · rintro ⟨_ | ⟨y, pre⟩, z, post, hxs, hpre, hz⟩
    · obtain ⟨rfl, -⟩ := List.cons.inj hxs
      rw [hx] at hz
      cases hz
      rfl
    · obtain ⟨rfl, -⟩ := List.cons.inj hxs
      obtain ⟨b, hb⟩ := hpre _ List.mem_cons_self
      rw [hx] at hb
      cases hb
  · rintro rfl
    exact ⟨[], x, xs, rfl, fun y hy => absurd hy List.not_mem_nil, hx⟩

/-- A list in which no item is refused is read item by item. -/
theorem forall_ok_of_not_exists_error (h : ¬ ∃ x ∈ xs, ∃ e, read x = .error e) :
    ∀ x ∈ xs, ∃ b, read x = .ok b := by
  intro x hx
  cases hx' : read x with
  | ok b => exact ⟨b, rfl⟩
  | error e => exact absurd ⟨x, hx, e, hx'⟩ h

theorem exists_firstRefusal_iff :
    (∃ e, FirstRefusal read xs e) ↔ ∃ x ∈ xs, ∃ e, read x = .error e := by
  induction xs with
  | nil => simp [FirstRefusal]
  | cons x xs ih =>
    cases hx : read x with
    | error e' => exact ⟨fun _ => ⟨x, List.mem_cons_self, e', hx⟩,
        fun _ => ⟨e', (firstRefusal_cons_of_error hx).mpr rfl⟩⟩
    | ok b =>
      simp only [firstRefusal_cons_of_ok hx, ih, List.mem_cons, exists_eq_or_imp, hx, reduceCtorEq,
        exists_false, false_or]

end FirstRefusal

theorem bind_eq_error_iff {ε α β : Type} {x : Except ε α} {f : α → Except ε β} {e : ε} :
    (x >>= f) = .error e ↔ x = .error e ∨ ∃ a, x = .ok a ∧ f a = .error e := by
  cases x with
  | error e' =>
    constructor
    · intro h
      cases h
      exact .inl rfl
    · rintro (h | ⟨_, h, _⟩)
      · cases h
        rfl
      · cases h
  | ok a =>
    refine ⟨fun h => .inr ⟨a, rfl, h⟩, fun h => ?_⟩
    rcases h with h | ⟨a', h, hf⟩
    · cases h
    · cases h
      exact hf

theorem map_eq_error_iff {ε α β : Type} {x : Except ε α} {f : α → β} {e : ε} :
    x.map f = .error e ↔ x = .error e := by
  cases x with
  | error e' =>
    constructor
    · intro h
      cases h
      rfl
    · intro h
      cases h
      rfl
  | ok a => exact ⟨fun h => (nomatch h), fun h => (nomatch h)⟩

theorem mapError_eq_error_iff {ε ε' α : Type} {x : Except ε α} {f : ε → ε'} {e : ε'} :
    x.mapError f = .error e ↔ ∃ e₀, x = .error e₀ ∧ e = f e₀ := by
  cases x with
  | error e₀ =>
    refine ⟨fun h => ⟨e₀, rfl, ?_⟩, fun ⟨e₁, h, he⟩ => ?_⟩
    · cases h
      rfl
    · cases h
      rw [he]
      rfl
  | ok a => exact ⟨fun h => (nomatch h), fun ⟨_, h, _⟩ => (nomatch h)⟩

/-! ### Readers of lists -/

section ReadsEach

variable {α β ε : Type} {read : α → Except ε β} {xs : List α} {e : ε}

theorem firstRefusal_mapError_iff {ε' : Type} {g : ε → ε'} {e : ε'} :
    FirstRefusal (fun x => (read x).mapError g) xs e ↔ ∃ e₀, FirstRefusal read xs e₀ ∧ e = g e₀ := by
  simp only [FirstRefusal, mapError_eq_ok, mapError_eq_error_iff]
  constructor
  · rintro ⟨pre, x, post, rfl, hpre, e₀, hx, rfl⟩
    exact ⟨e₀, ⟨pre, x, post, rfl, hpre, hx⟩, rfl⟩
  · rintro ⟨e₀, ⟨pre, x, post, rfl, hpre, hx⟩, rfl⟩
    exact ⟨pre, x, post, rfl, hpre, e₀, hx, rfl⟩

namespace ReadsEach

variable {F : List α → Except ε (List β)}

/-- A reader of lists refuses a list with the error of its first refused item. -/
theorem eq_error_iff (h : ReadsEach F read) : F xs = .error e ↔ FirstRefusal read xs e := by
  induction xs with
  | nil => simp [h.nil, FirstRefusal]
  | cons x xs ih =>
    rw [h.cons]
    cases hx : read x with
    | error e' =>
      rw [firstRefusal_cons_of_error hx]
      exact ⟨fun h => by cases h; rfl, fun h => by rw [h]; rfl⟩
    | ok b =>
      rw [firstRefusal_cons_of_ok hx, ← ih]
      exact map_eq_error_iff

theorem exists_eq_error_iff (h : ReadsEach F read) :
    (∃ e, F xs = .error e) ↔ ∃ x ∈ xs, ∃ e, read x = .error e := by
  simp only [h.eq_error_iff, exists_firstRefusal_iff]

theorem exists_ok_iff (h : ReadsEach F read) :
    (∃ ys, F xs = .ok ys) ↔ ∀ x ∈ xs, ∃ b, read x = .ok b := by
  constructor
  · rintro ⟨ys, hys⟩
    refine forall_ok_of_not_exists_error fun hbad => ?_
    obtain ⟨e, he⟩ := h.exists_eq_error_iff.mpr hbad
    rw [hys] at he
    cases he
  · intro hall
    cases hF : F xs with
    | ok ys => exact ⟨ys, rfl⟩
    | error e =>
      obtain ⟨x, hx, e', hx'⟩ := h.exists_eq_error_iff.mp ⟨e, hF⟩
      obtain ⟨b, hb⟩ := hall x hx
      rw [hb] at hx'
      cases hx'

end ReadsEach

end ReadsEach

/-! ### Causes and kinds -/

theorem Grammar.Error.head?_causes (e : Grammar.Error) : e.causes.head? = some e.kind := by
  cases e with
  | region e => cases e <;> rfl
  | rule e => rfl

theorem Error.head?_causes (e : Error) : e.causes = [] ∨ e.causes.head? = some e.kind := by
  induction e with
  | grammar e => exact .inr e.head?_causes
  | inGrammar _ e => exact .inr e.head?_causes
  | yaml f =>
    cases f with
    | malformed _ => exact .inl rfl
    | types _ => exact .inr rfl
  | readFile _ _ => exact .inl rfl
  | inFile _ e ih => exact ih
  | markupKey _ _ | unknownGrammar _ | canceled | unknownLexeme _ => exact .inr rfl

/-! ### Region rules -/

namespace Region

/-- A text is shaped `CLASS(OPENER)(CLOSER)`: a non-empty run of class-code bytes, `(`, anything,
`)(`, anything, and a last `)`. -/
def Shaped (rule : Bytes) : Prop :=
  ∃ code opener closer, code ≠ [] ∧ (∀ y ∈ code, isCodeByte y = true) ∧
    rule = code ++ [0x28] ++ opener ++ joint ++ closer ++ [0x29]

/-- A region rule is cut exactly when it is shaped `CLASS(OPENER)(CLOSER)`. -/
theorem split?_eq_none_iff {rule : Bytes} : split? rule = none ↔ ¬ Shaped rule := by
  constructor
  · rintro hnone ⟨code, opener, closer, hcode, hbytes, rfl⟩
    -- a text of that shape has a `)(` inside its parentheses, so it is cut at the last one
    have hjoint : lastJoint? (opener ++ joint ++ closer) ≠ none := by
      rw [ne_eq, lastJoint?_eq_none_iff, not_not]
      exact List.infix_append opener joint closer
    rw [show code ++ [0x28] ++ opener ++ joint ++ closer ++ [0x29] =
      code ++ [0x28] ++ (opener ++ joint ++ closer) ++ [0x29] by simp, split?_code_body hcode hbytes] at hnone
    exact hjoint (Option.map_eq_none_iff.mp hnone)
  · intro hshape
    rcases hs : split? rule with _ | ⟨code, opener, closer⟩
    · rfl
    · obtain ⟨hform, -⟩ := eq_of_split? hs
      refine absurd ⟨code, opener, closer, code_ne_nil_of_split? hs, fun y hy => ?_, hform⟩ hshape
      unfold split? at hs
      dsimp only at hs
      split at hs
      · split at hs
        · cases hs
        split at hs
        · split at hs
          · cases hs
            exact List.all_eq_true.mp List.all_takeWhile y hy
          · cases hs
        · cases hs
      · cases hs

/-- How a region rule text is refused, the checks taken in the order they run, with the causes
its error carries: a text not shaped `CLASS(OPENER)(CLOSER)`; then a class that names no lexeme,
which is also an unknown lexeme; then an empty delimiter. -/
def RefusedAs (rule : Bytes) (causes : List ErrorKind) : Prop :=
  (¬ Shaped rule ∧ causes = [.invalidRegionRule]) ∨
    ∃ code opener closer, split? rule = some (code, opener, closer) ∧
      ((Lexeme.ofCode? code = none ∧ causes = [.invalidRegionRule, .unknownLexeme]) ∨
        ((Lexeme.ofCode? code).isSome ∧ (opener = [] ∨ closer = []) ∧ causes = [.invalidRegionRule]))

theorem refusedAs_of_parse {rule : Bytes} {e : Error} (h : parse rule = .error e) :
    RefusedAs rule e.causes := by
  unfold parse at h
  rcases hs : split? rule with _ | ⟨code, opener, closer⟩
  · rw [hs] at h
    cases h
    exact .inl ⟨split?_eq_none_iff.mp hs, rfl⟩
  rw [hs] at h
  dsimp only at h
  refine .inr ⟨code, opener, closer, hs, ?_⟩
  rcases hl : Lexeme.ofCode? code with _ | l
  · rw [hl] at h
    cases h
    exact .inl ⟨rfl, rfl⟩
  rw [hl] at h
  dsimp only at h
  by_cases ho : opener = []
  · rw [dif_pos ho] at h
    cases h
    exact .inr ⟨rfl, .inl ho, rfl⟩
  rw [dif_neg ho] at h
  by_cases hc : closer = []
  · rw [dif_pos hc] at h
    cases h
    exact .inr ⟨rfl, .inr hc, rfl⟩
  rw [dif_neg hc] at h
  cases h

end Region

/-! ### Token rules -/

namespace Step

/-- A text is shaped `CLASSES(CONDITION:OUT)`: a non-empty run of class-code bytes and bars, `(`,
a condition with no line break, `:`, a run of class-code bytes, and a last `)`. -/
def Shaped (s : Bytes) : Prop :=
  ∃ classes cond out, classes ≠ [] ∧ (∀ y ∈ classes, (isCodeByte y || y == 0x7C) = true) ∧
    (∀ y ∈ out, isCodeByte y = true) ∧ 0x0A ∉ cond ∧
    s = classes ++ [0x28] ++ cond ++ [0x3A] ++ out ++ [0x29]

/-- A step that is not cut is not shaped `CLASSES(CONDITION:OUT)`. -/
theorem not_shaped_of_split?_eq_none {s : Bytes} (h : split? s = none) : ¬ Shaped s := by
  rintro ⟨classes, cond, out, hclasses, hcb, hout, hbreak, rfl⟩
  rw [split?_of_parts hclasses hcb hout hbreak] at h
  cases h

theorem readClass_eq_error_iff {step c : Bytes} {e : Error} :
    readClass step c = .error e ↔
      (c = [] ∧ e = .emptyClass step) ∨ (c ≠ [] ∧ Lexeme.ofCode? c = none ∧ e = .unknownLexeme c) := by
  unfold readClass
  by_cases hc : c = []
  · simp [hc, eq_comm]
  · cases hl : Lexeme.ofCode? c <;> simp [hc, eq_comm]

theorem exists_readClass_eq_ok_iff {step c : Bytes} :
    (∃ l, readClass step c = .ok l) ↔ c ≠ [] ∧ (Lexeme.ofCode? c).isSome := by
  unfold readClass
  by_cases hc : c = []
  · simp [hc]
  · cases hl : Lexeme.ofCode? c <;> simp [hc]

/-- The classes of a step are read left to right, and the first code that is empty or names no
lexeme refuses the step. -/
theorem readClasses_eq_error_iff {step : Bytes} {cs : List Bytes} {e : Error} :
    readClasses step cs = .error e ↔
      ∃ pre c post, cs = pre ++ c :: post ∧ (∀ x ∈ pre, x ≠ [] ∧ (Lexeme.ofCode? x).isSome) ∧
        ((c = [] ∧ e = .emptyClass step) ∨ (c ≠ [] ∧ Lexeme.ofCode? c = none ∧ e = .unknownLexeme c)) := by
  rw [(readsEach_readClasses step).eq_error_iff, FirstRefusal]
  simp only [exists_readClass_eq_ok_iff, readClass_eq_error_iff]

theorem readCondition_eq_error_iff {cond : Bytes} {e : Error} :
    readCondition cond = .error e ↔ cond ≠ [] ∧ ∃ pe, Condition.compile cond = .error pe ∧ e = .condition cond pe := by
  unfold readCondition
  by_cases hc : cond = []
  · rw [if_pos hc]
    exact ⟨fun h => (nomatch h), fun h => absurd hc h.1⟩
  rw [if_neg hc]
  cases hcomp : Condition.compile cond with
  | ok c => exact ⟨fun h => (nomatch h), fun ⟨_, _, h, _⟩ => (nomatch h)⟩
  | error pe =>
    constructor
    · intro h
      cases h
      exact ⟨hc, pe, rfl, rfl⟩
    · rintro ⟨-, pe', h, rfl⟩
      cases h
      rfl

theorem readOutput_eq_error_iff {out : Bytes} {e : Error} :
    readOutput out = .error e ↔ out ≠ [] ∧ Lexeme.ofCode? out = none ∧ e = .unknownLexeme out := by
  unfold readOutput
  by_cases ho : out = []
  · rw [if_pos ho]
    exact ⟨fun h => (nomatch h), fun h => absurd ho h.1⟩
  rw [if_neg ho]
  cases hl : Lexeme.ofCode? out with
  | some l => exact ⟨fun h => (nomatch h), fun ⟨_, h, _⟩ => (nomatch h)⟩
  | none =>
    constructor
    · intro h
      cases h
      exact ⟨ho, rfl, rfl⟩
    · rintro ⟨-, -, rfl⟩
      rfl

/-- How a step text is refused, the checks taken in the order they run, with the kind of its
error: a text not shaped `CLASSES(CONDITION:OUT)`; then the first class code, from the left, that
is empty or names no lexeme; then a condition that does not compile; then an output code that
names no lexeme. -/
def RefusedAs (s : Bytes) (kind : ErrorKind) : Prop :=
  (¬ Shaped s ∧ kind = .invalidRule) ∨
    ∃ classes cond out, split? s = some (classes, cond, out) ∧
      ((∃ pre c post, bars classes = pre ++ c :: post ∧
          (∀ x ∈ pre, x ≠ [] ∧ (Lexeme.ofCode? x).isSome) ∧
          ((c = [] ∧ kind = .invalidRule) ∨ (c ≠ [] ∧ Lexeme.ofCode? c = none ∧ kind = .unknownLexeme))) ∨
        ((∀ c ∈ bars classes, c ≠ [] ∧ (Lexeme.ofCode? c).isSome) ∧
          ((cond ≠ [] ∧ (Condition.compile cond).isOk = false ∧ kind = .invalidCondition) ∨
            ((cond = [] ∨ (Condition.compile cond).isOk = true) ∧ out ≠ [] ∧ Lexeme.ofCode? out = none ∧
              kind = .unknownLexeme))))

theorem forall_of_readClasses_ok {step : Bytes} {cs : List Bytes} {ls : List Lexeme}
    (h : readClasses step cs = .ok ls) : ∀ c ∈ cs, c ≠ [] ∧ (Lexeme.ofCode? c).isSome := fun c hc =>
  exists_readClass_eq_ok_iff.mp ((readsEach_readClasses step).exists_ok_iff.mp ⟨ls, h⟩ c hc)

/-- A refused step text is refused as its error's kind says, in whichever rule it stands. -/
theorem refusedAs_of_parse {s : Bytes} {e : Error} (h : parse s = .error e) (rule : Bytes) :
    RefusedAs s (Rule.Error.step rule e).kind := by
  unfold parse at h
  rcases hs : split? s with _ | ⟨classes, cond, out⟩
  · rw [hs] at h
    cases h
    exact .inl ⟨not_shaped_of_split?_eq_none hs, rfl⟩
  rw [hs] at h
  refine .inr ⟨classes, cond, out, hs, ?_⟩
  rcases bind_eq_error_iff.mp h with hcls | ⟨inputs, hcls, h⟩
  · obtain ⟨pre, c, post, hbars, hpre, hc⟩ := readClasses_eq_error_iff.mp hcls
    refine .inl ⟨pre, c, post, hbars, hpre, ?_⟩
    rcases hc with ⟨hc, rfl⟩ | ⟨hc, hl, rfl⟩
    · exact .inl ⟨hc, rfl⟩
    · exact .inr ⟨hc, hl, rfl⟩
  refine .inr ⟨forall_of_readClasses_ok hcls, ?_⟩
  rcases bind_eq_error_iff.mp h with hcond | ⟨condition, hcond, h⟩
  · obtain ⟨hne, pe, hpe, rfl⟩ := readCondition_eq_error_iff.mp hcond
    exact .inl ⟨hne, by rw [hpe]; rfl, rfl⟩
  rcases bind_eq_error_iff.mp h with hout | ⟨output, -, h⟩
  · obtain ⟨hne, hl, rfl⟩ := readOutput_eq_error_iff.mp hout
    refine .inr ⟨?_, hne, hl, rfl⟩
    by_cases hc : cond = []
    · exact .inl hc
    · refine .inr ?_
      unfold readCondition at hcond
      rw [if_neg hc] at hcond
      cases hcomp : Condition.compile cond with
      | ok c => rfl
      | error pe => rw [hcomp] at hcond; cases hcond
  · cases h

end Step

namespace Rule

theorem readSteps_eq_error_iff {rule : Bytes} {fs : List Bytes} {e : Error} :
    readSteps rule fs = .error e ↔ ∃ se, FirstRefusal Step.parse fs se ∧ e = .step rule se := by
  rw [(readsEach_readSteps rule).eq_error_iff, firstRefusal_mapError_iff]

/-- How a token rule text is refused: it has no fields, or the first of its fields that is refused
as a step is refused so. -/
def RefusedAs (rule : Bytes) (kind : ErrorKind) : Prop :=
  (Fields.split rule = [] ∧ kind = .invalidRule) ∨
    ∃ pre f post, Fields.split rule = pre ++ f :: post ∧ (∀ g ∈ pre, ∃ s, Step.parse g = .ok s) ∧
      Step.RefusedAs f kind

theorem parse_eq_error_iff {rule : Bytes} {e : Error} :
    parse rule = .error e ↔
      (Fields.split rule = [] ∧ e = .noSteps rule) ∨
        ∃ se, FirstRefusal Step.parse (Fields.split rule) se ∧ e = .step rule se := by
  unfold parse
  split
  · next hfields =>
    simp only [hfields, true_and, FirstRefusal, List.nil_eq_append_iff, reduceCtorEq, and_false,
      false_and, exists_false, or_false]
    exact ⟨fun h => by cases h; rfl, fun h => by rw [h]⟩
  · next f fs hfields =>
    simp only [hfields, reduceCtorEq, false_and, false_or]
    rw [← readSteps_eq_error_iff, bind_eq_error_iff]
    constructor
    · rintro (h | ⟨steps, hsteps, h⟩)
      · exact h
      · split at h
        · cases h
        · unfold readSteps at hsteps
          cases hf : Step.parse f with
          | error se => rw [hf] at hsteps; cases hsteps
          | ok s =>
            rw [hf] at hsteps
            obtain ⟨ss, -, hnil⟩ := exists_ok_of_map_eq_ok hsteps
            cases hnil
    · exact .inl

theorem refusedAs_of_parse {rule : Bytes} {e : Error} (h : parse rule = .error e) :
    RefusedAs rule e.kind := by
  rcases parse_eq_error_iff.mp h with ⟨hfields, rfl⟩ | ⟨se, ⟨pre, f, post, hfields, hpre, hf⟩, rfl⟩
  · exact .inl ⟨hfields, rfl⟩
  · exact .inr ⟨pre, f, post, hfields, hpre, Step.refusedAs_of_parse hf rule⟩

end Rule

/-! ### Grammars and grammar files -/

namespace Grammar

/-- Compiling a grammar stops at its first refused region rule, or, when every region rule is
read, at its first refused token rule. -/
theorem build_eq_error_iff {name : Bytes} {regions rules : List Bytes} {e : Error} :
    build name regions rules = .error e ↔
      (∃ re, FirstRefusal Region.parse regions re ∧ e = .region re) ∨
        ((∀ r ∈ regions, ∃ g, Region.parse r = .ok g) ∧
          ∃ te, FirstRefusal Rule.parse rules te ∧ e = .rule te) := by
  have hregions := readsEach_readAll Region.parse
  have hrules := readsEach_readAll Rule.parse
  unfold build
  rw [bind_eq_error_iff, mapError_eq_error_iff]
  simp only [hregions.eq_error_iff]
  constructor
  · rintro (h | ⟨rs, hrs, h⟩)
    · exact .inl h
    · rw [bind_eq_error_iff, mapError_eq_error_iff] at h
      rcases h with ⟨te, hte, rfl⟩ | ⟨ts, -, h⟩
      · exact .inr ⟨hregions.exists_ok_iff.mp ⟨rs, mapError_eq_ok.mp hrs⟩, te,
          hrules.eq_error_iff.mp hte, rfl⟩
      · cases h
  · rintro (h | ⟨hall, te, hte, rfl⟩)
    · exact .inl h
    · obtain ⟨rs, hrs⟩ := hregions.exists_ok_iff.mpr hall
      refine .inr ⟨rs, by rw [hrs]; rfl, ?_⟩
      rw [bind_eq_error_iff, mapError_eq_error_iff]
      exact .inl ⟨te, hrules.eq_error_iff.mpr hte, rfl⟩

theorem exists_build_eq_error_iff {name : Bytes} {regions rules : List Bytes} :
    (∃ e, build name regions rules = .error e) ↔
      (∃ r ∈ regions, ∃ e, Region.parse r = .error e) ∨ ∃ r ∈ rules, ∃ e, Rule.parse r = .error e := by
  simp only [build_eq_error_iff]
  constructor
  · rintro ⟨e, ⟨re, hre, -⟩ | ⟨-, te, hte, -⟩⟩
    · exact .inl (exists_firstRefusal_iff.mp ⟨re, hre⟩)
    · exact .inr (exists_firstRefusal_iff.mp ⟨te, hte⟩)
  · intro h
    by_cases hregion : ∃ r ∈ regions, ∃ e, Region.parse r = .error e
    · obtain ⟨re, hre⟩ := exists_firstRefusal_iff.mpr hregion
      exact ⟨.region re, .inl ⟨re, hre, rfl⟩⟩
    · obtain ⟨te, hte⟩ := exists_firstRefusal_iff.mpr (h.resolve_left hregion)
      exact ⟨.rule te, .inr ⟨forall_ok_of_not_exists_error hregion, te, hte, rfl⟩⟩

end Grammar

namespace GrammarFile

/-- Reads one markup key: a code that names no lexeme refuses the file. -/
def readKey (name : Bytes) (p : Bytes × Bytes) : Except Error (Lexeme × Bytes) :=
  match Lexeme.ofCode? p.1 with
  | none => .error (.markupKey name p.1)
  | some l => .ok (l, p.2)

theorem readsEach_readClasses (name : Bytes) : ReadsEach (readClasses name) (readKey name) where
  nil := rfl
  cons p ps := by
    obtain ⟨code, cls⟩ := p
    rw [readClasses]
    unfold readKey
    cases Lexeme.ofCode? code <;> rfl

theorem readKey_eq_error_iff {name : Bytes} {p : Bytes × Bytes} {e : Error} :
    readKey name p = .error e ↔ Lexeme.ofCode? p.1 = none ∧ e = .markupKey name p.1 := by
  unfold readKey
  cases Lexeme.ofCode? p.1 <;> simp [eq_comm]

/-- The markup keys are read in order; only a code that names no lexeme refuses them, with an
error about that key. -/
theorem readClasses_eq_error {name : Bytes} {cs : List (Bytes × Bytes)} {e : Error}
    (h : readClasses name cs = .error e) : ∃ code, e = .markupKey name code := by
  obtain ⟨-, p, -, -, -, hp⟩ := (readsEach_readClasses name).eq_error_iff.mp h
  exact ⟨p.1, (readKey_eq_error_iff.mp hp).2⟩

theorem exists_readClasses_eq_error_iff {name : Bytes} {cs : List (Bytes × Bytes)} :
    (∃ e, readClasses name cs = .error e) ↔ ∃ p ∈ cs, Lexeme.ofCode? p.1 = none := by
  simp only [(readsEach_readClasses name).exists_eq_error_iff, readKey_eq_error_iff, exists_and_left,
    exists_eq, and_true]

/-- Some markup key names no lexeme. -/
def HasBadKey (f : GrammarFile) : Prop := ∃ p ∈ f.classes, Lexeme.ofCode? p.1 = none

theorem hasBadKey_iff_sorted (f : GrammarFile) :
    f.HasBadKey ↔ ∃ p ∈ f.sortedClasses, Lexeme.ofCode? p.1 = none := by
  unfold HasBadKey sortedClasses
  simp only [(List.mergeSort_perm f.classes _).mem_iff]

/-- Compiling a grammar file stops at a markup key that names no lexeme, or, when every key is a
lexeme code, where compiling its grammar stops. -/
theorem compile_eq_error {f : GrammarFile} {e : Error} (h : f.compile = .error e) :
    (f.HasBadKey ∧ ∃ code, e = .markupKey f.compiledName code) ∨
      (¬ f.HasBadKey ∧ ∃ ge, Grammar.build f.compiledName f.regions f.rules = .error ge ∧
        e = .inGrammar f.compiledName ge) := by
  unfold compile at h
  rcases bind_eq_error_iff.mp h with h | ⟨classes, hclasses, h⟩
  · exact .inl ⟨(hasBadKey_iff_sorted f).mpr (exists_readClasses_eq_error_iff.mp ⟨e, h⟩),
      readClasses_eq_error h⟩
  rcases bind_eq_error_iff.mp h with h | ⟨g, -, h⟩
  · obtain ⟨ge, hge, rfl⟩ := mapError_eq_error_iff.mp h
    refine .inr ⟨fun hbad => ?_, ge, hge, rfl⟩
    obtain ⟨e', he'⟩ := exists_readClasses_eq_error_iff.mpr ((hasBadKey_iff_sorted f).mp hbad)
    rw [he'] at hclasses
    cases hclasses
  · cases h

theorem exists_compile_eq_error_iff {f : GrammarFile} :
    (∃ e, f.compile = .error e) ↔
      f.HasBadKey ∨ ∃ ge, Grammar.build f.compiledName f.regions f.rules = .error ge := by
  constructor
  · rintro ⟨e, h⟩
    rcases compile_eq_error h with ⟨hbad, -⟩ | ⟨-, ge, hge, -⟩
    · exact .inl hbad
    · exact .inr ⟨ge, hge⟩
  · intro h
    cases hclasses : readClasses f.compiledName f.sortedClasses with
    | error e => exact ⟨e, bind_eq_error_iff.mpr (.inl hclasses)⟩
    | ok classes =>
      have hgood : ¬ f.HasBadKey := fun hbad => by
        obtain ⟨e', he'⟩ := exists_readClasses_eq_error_iff.mpr ((hasBadKey_iff_sorted f).mp hbad)
        rw [he'] at hclasses
        cases hclasses
      obtain ⟨ge, hge⟩ := h.resolve_left hgood
      refine ⟨.inGrammar f.compiledName ge, bind_eq_error_iff.mpr (.inr ⟨classes, hclasses, ?_⟩)⟩
      exact bind_eq_error_iff.mpr (.inl (mapError_eq_error_iff.mpr ⟨ge, hge, rfl⟩))

/-- Compiling a grammar file fails exactly when a markup key names no lexeme or one of its region
or token rules is refused. The error then reports the first fault in the order the checks run: a
bad markup key, as an unknown lexeme; else the first refused region rule, with the causes its
checks give; else the first refused token rule, whose one cause is the kind its checks give. -/
theorem compile_reports_first_fault (f : GrammarFile) :
    ((∃ e, f.compile = .error e) ↔
      f.HasBadKey ∨ (∃ r ∈ f.regions, ∃ e, Region.parse r = .error e) ∨
        ∃ r ∈ f.rules, ∃ e, Rule.parse r = .error e) ∧
    ∀ e, f.compile = .error e →
      (f.HasBadKey ∧ e.causes = [.unknownLexeme]) ∨
      (¬ f.HasBadKey ∧ ∃ pre r post, f.regions = pre ++ r :: post ∧
        (∀ x ∈ pre, ∃ g, Region.parse x = .ok g) ∧ Region.RefusedAs r e.causes) ∨
      (¬ f.HasBadKey ∧ (∀ x ∈ f.regions, ∃ g, Region.parse x = .ok g) ∧
        ∃ pre r post, f.rules = pre ++ r :: post ∧ (∀ x ∈ pre, ∃ g, Rule.parse x = .ok g) ∧
          Rule.RefusedAs r e.kind ∧ e.causes = [e.kind]) := by
  refine ⟨by rw [exists_compile_eq_error_iff, Grammar.exists_build_eq_error_iff], fun e he => ?_⟩
  rcases compile_eq_error he with ⟨hbad, code, rfl⟩ | ⟨hgood, ge, hge, rfl⟩
  · exact .inl ⟨hbad, rfl⟩
  rcases Grammar.build_eq_error_iff.mp hge with
    ⟨re, ⟨pre, r, post, hregions, hpre, hr⟩, rfl⟩ | ⟨hregions, te, ⟨pre, r, post, hrules, hpre, hr⟩, rfl⟩
  · exact .inr (.inl ⟨hgood, pre, r, post, hregions, hpre, Region.refusedAs_of_parse hr⟩)
  · exact .inr (.inr ⟨hgood, hregions, pre, r, post, hrules, hpre, Rule.refusedAs_of_parse hr, rfl⟩)

/-- The class codes of a step are checked from the left, and the first one that is empty or names
no lexeme decides the refusal: the step `FOO||KW(:F)` has an empty class, but its first code `FOO`
names no lexeme, so a file with that one rule is refused for an unknown lexeme. -/
theorem compile_unknown_code_before_empty_class :
    ({ rules := [Bytes.ofString "FOO||KW(:F)"] } : GrammarFile).compile =
      .error (.inGrammar (Bytes.ofString "custom")
        (.rule (.step (Bytes.ofString "FOO||KW(:F)") (.unknownLexeme (Bytes.ofString "FOO"))))) ∧
    (Step.split? (Bytes.ofString "FOO||KW(:F)")).map (fun p => (Step.bars p.1).contains []) =
      some true := by
  have hrun : (match ({ rules := [Bytes.ofString "FOO||KW(:F)"] } : GrammarFile).compile with
      | .error (.inGrammar name (.rule (.step rule (.unknownLexeme code)))) =>
        decide (name = Bytes.ofString "custom" ∧ rule = Bytes.ofString "FOO||KW(:F)" ∧
          code = Bytes.ofString "FOO")
      | _ => false) = true := by
    decide +kernel
  refine ⟨?_, by decide +kernel⟩
  split at hrun
  · next name rule code hc =>
    obtain ⟨rfl, rfl, rfl⟩ := of_decide_eq_true hrun
    exact hc
  · cases hrun

end GrammarFile

end SyntaxShade
