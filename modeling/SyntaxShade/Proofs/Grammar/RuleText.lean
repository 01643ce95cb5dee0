import SyntaxShade.Proofs.Grammar.Build
import SyntaxShade.Proofs.Text.Fields
import Mathlib.Data.List.Forall2
/-! Printing rules and reading them back: a region rule reads back exactly when its closer holds
no `)(` (`Region.parse_print_iff`), a token rule when its conditions hold no white space. -/
namespace SyntaxShade

/-! ### Searching from the end -/

/-- A search over the offsets below `n` from the last one down finds the last offset that passes. -/
theorem find?_range_reverse_eq_some {n i : Nat} {p : Nat → Bool} :
    (List.range n).reverse.find? p = some i ↔ i < n ∧ p i ∧ ∀ j, i < j → j < n → p j = false := by
  induction n with
  | zero => simp
  | succ n ih =>
    rw [List.range_succ, List.reverse_append, List.reverse_singleton, List.singleton_append,
      List.find?_cons]
    cases hn : p n with
    | true =>
      simp only [Option.some.injEq]
      constructor
      · rintro rfl
        exact ⟨by omega, hn, fun j h₁ h₂ => by omega⟩
      · rintro ⟨hi, -, hj⟩
        rcases Nat.lt_or_ge i n with h | h
        · have := hj n h (by omega)
          rw [hn] at this
          cases this
        · omega
    | false =>
      rw [ih]
      constructor
      · rintro ⟨hi, hpi, hj⟩
        refine ⟨by omega, hpi, fun j h₁ h₂ => ?_⟩
        rcases Nat.lt_succ_iff_lt_or_eq.mp h₂ with h₂ | rfl
        · exact hj j h₁ h₂
        · exact hn
      · rintro ⟨hi, hpi, hj⟩
        have hne : i ≠ n := by
          rintro rfl
          simp [hn] at hpi
        exact ⟨by omega, hpi, fun j h₁ h₂ => hj j h₁ (by omega)⟩

theorem find?_range_reverse_eq_none {n : Nat} {p : Nat → Bool} :
    (List.range n).reverse.find? p = none ↔ ∀ j, j < n → p j = false := by
  simp [List.find?_eq_none]

/-! ### Two marks in a row -/

theorem take_two_drop_eq_iff {α : Type} {s : List α} {j : Nat} {a b : α} :
    (s.drop j).take 2 = [a, b] ↔ s[j]? = some a ∧ s[j + 1]? = some b := by
  have h₀ : s[j]? = (s.drop j)[0]? := by simp
  have h₁ : s[j + 1]? = (s.drop j)[1]? := by simp
  rw [h₀, h₁]
  generalize s.drop j = d
  rcases d with _ | ⟨u, _ | ⟨v, w⟩⟩ <;> simp

theorem pair_infix_iff {α : Type} {s : List α} {a b : α} :
    [a, b] <:+: s ↔ ∃ j, s[j]? = some a ∧ s[j + 1]? = some b := by
  rw [List.infix_iff_getElem?]
  constructor
  · rintro ⟨k, -, hk⟩
    exact ⟨k, by simpa using hk 0 (by simp), by simpa [Nat.add_comm] using hk 1 (by simp)⟩
  · rintro ⟨j, ha, hb⟩
    have hlen : j + 1 < s.length := (List.getElem?_eq_some_iff.mp hb).1
    refine ⟨j, by simp; omega, fun i hi => ?_⟩
    rcases i with _ | _ | i
    · simpa using ha
    · simpa [Nat.add_comm] using hb
    · exact absurd hi (by simp)

/-! ### Lexeme codes -/

namespace Lexeme

/-- Every lexeme is read back from its code. -/
@[simp] theorem ofCode?_code (l : Lexeme) : ofCode? (Bytes.ofString l.code) = some l := by
  cases l <;> decide +kernel

theorem isCodeByte_of_mem_code (l : Lexeme) : ∀ b ∈ Bytes.ofString l.code, Region.isCodeByte b = true := by
  cases l <;> decide +kernel

theorem code_ne_nil {l : Lexeme} (hl : l ≠ .empty) : Bytes.ofString l.code ≠ [] := by
  intro h
  have hread := ofCode?_code l
  rw [h] at hread
  exact hl (Option.some.inj (hread.symm.trans (by decide +kernel)))

end Lexeme

/-! ### Region rules -/

namespace Region

/-- The mark between the two delimiters of a region rule. -/
def joint : Bytes := [0x29, 0x28]

/-- The text of a region rule: `CLASS(OPENER)(CLOSER)`. -/
def print (l : Lexeme) (opener closer : Bytes) : Bytes :=
  Bytes.ofString l.code ++ [0x28] ++ opener ++ joint ++ closer ++ [0x29]

/-- The last `)(` of a text stands at `i` exactly when one stands there and none after it. -/
theorem lastJoint?_eq_some_iff {s : Bytes} {i : Nat} :
    lastJoint? s = some i ↔ (s.drop i).take 2 = joint ∧ ¬ joint <:+: s.drop (i + 2) := by
  unfold lastJoint? joint
  rw [find?_range_reverse_eq_some, pair_infix_iff]
  simp only [beq_iff_eq, take_two_drop_eq_iff, List.getElem?_drop, Bool.eq_false_iff, ne_eq,
    not_exists, not_and]
  constructor
  · rintro ⟨-, hi, hj⟩
    refine ⟨hi, fun k h₁ h₂ => hj (i + 2 + k) (by omega) ?_ h₁ (by simpa [Nat.add_assoc] using h₂)⟩
    exact (List.getElem?_eq_some_iff.mp h₁).1
  · rintro ⟨⟨hi₁, hi₂⟩, hk⟩
    refine ⟨(List.getElem?_eq_some_iff.mp hi₁).1, ⟨hi₁, hi₂⟩, fun j h₁ _ hj₁ hj₂ => ?_⟩
    rcases Nat.lt_or_ge j (i + 2) with hj | hj
    · -- a `)(` right after the last one would start with its `(`
      obtain rfl : j = i + 1 := by omega
      exact absurd (hi₂.symm.trans hj₁) (by decide)
    · have hsplit : j = i + 2 + (j - (i + 2)) := by omega
      rw [hsplit] at hj₁ hj₂
      exact hk _ hj₁ (by simpa [Nat.add_assoc] using hj₂)

theorem lastJoint?_eq_none_iff {s : Bytes} : lastJoint? s = none ↔ ¬ joint <:+: s := by
  unfold lastJoint? joint
  rw [find?_range_reverse_eq_none, pair_infix_iff]
  simp only [beq_iff_eq, take_two_drop_eq_iff, Bool.eq_false_iff, ne_eq, not_exists, not_and]
  constructor
  · intro h j h₁ h₂
    exact h j (List.getElem?_eq_some_iff.mp h₁).1 h₁ h₂
  · intro h j _ h₁ h₂
    exact h j h₁ h₂

/-- A text with a `)(` after `opener`: the last `)(` stands there exactly when the rest holds none. -/
theorem lastJoint?_append_joint_eq_some_iff (opener closer : Bytes) :
    lastJoint? (opener ++ joint ++ closer) = some opener.length ↔ ¬ joint <:+: closer := by
  rw [lastJoint?_eq_some_iff]
  simp [joint]

/-- A text that opens with a class code and `(` and closes with `)` is cut at the last `)(` of
what stands between. -/
theorem split?_code_body {code : Bytes} (hcode : code ≠ []) (hbytes : ∀ y ∈ code, isCodeByte y = true)
    (body : Bytes) :
    split? (code ++ [0x28] ++ body ++ [0x29]) =
      (lastJoint? body).map fun i => (code, body.take i, body.drop (i + 2)) := by
  have hform : code ++ [0x28] ++ body ++ [0x29] = code ++ 0x28 :: (body ++ [0x29]) := by simp
  have htake : (code ++ 0x28 :: (body ++ [0x29])).takeWhile isCodeByte = code := by
    rw [List.takeWhile_append_of_pos hbytes, List.takeWhile_cons_of_neg (by decide), List.append_nil]
  unfold split?
  rw [hform, htake]
  dsimp only
  rw [List.drop_left]
  simp only [if_neg hcode, List.getLast?_concat, if_true, List.dropLast_concat]
  cases lastJoint? body <;> rfl

theorem split?_print {l : Lexeme} (hl : l ≠ .empty) (opener closer : Bytes) :
    split? (print l opener closer) = (lastJoint? (opener ++ joint ++ closer)).map fun i =>
      (Bytes.ofString l.code, (opener ++ joint ++ closer).take i, (opener ++ joint ++ closer).drop (i + 2)) := by
  rw [show print l opener closer = Bytes.ofString l.code ++ [0x28] ++ (opener ++ joint ++ closer) ++ [0x29]
    by simp [print]]
  exact split?_code_body (Lexeme.code_ne_nil hl) (Lexeme.isCodeByte_of_mem_code l) _

/-- Every rule that is cut is a code, `(`, an opener, the last `)(`, a closer and `)`. -/
theorem eq_of_split? {s code opener closer : Bytes} (h : split? s = some (code, opener, closer)) :
    s = code ++ [0x28] ++ opener ++ joint ++ closer ++ [0x29] ∧ ¬ joint <:+: closer := by
  unfold split? at h
  dsimp only at h
  split at h
  · rename_i body hbody
    split at h
    · cases h
    split at h
    · rename_i hlast
      cases hj : lastJoint? body.dropLast with
      | none => simp [hj] at h
      | some i =>
        simp only [hj, Option.some.injEq, Prod.mk.injEq] at h
        obtain ⟨rfl, rfl, rfl⟩ := h
        obtain ⟨hjoint, hfree⟩ := lastJoint?_eq_some_iff.mp hj
        refine ⟨?_, hfree⟩
        obtain ⟨inner, rfl⟩ := List.getLast?_eq_some_iff.mp hlast
        rw [List.dropLast_concat] at hjoint ⊢
        have htake : List.takeWhile isCodeByte s = s.take (List.takeWhile isCodeByte s).length :=
          List.prefix_iff_eq_take.mp (List.takeWhile_prefix _)
        have hcode : s = List.takeWhile isCodeByte s ++ 0x28 :: (inner ++ [0x29]) := by
          rw [← hbody]
          exact (List.take_append_drop _ s).symm.trans (by rw [← htake])
        have hinner : inner.take i ++ joint ++ inner.drop (i + 2) = inner := by
          rw [← hjoint, ← List.drop_drop, List.append_assoc, List.take_append_drop,
            List.take_append_drop]
        calc s = List.takeWhile isCodeByte s ++ 0x28 :: (inner ++ [0x29]) := hcode
          _ = _ := by
            generalize inner.take i = a at hinner
            generalize inner.drop (i + 2) = b at hinner
            subst hinner
            simp
    · cases h
  · cases h

theorem parse_print {l : Lexeme} (hl : l ≠ .empty) {opener closer : Bytes} (ho : opener ≠ [])
    (hc : closer ≠ []) (hfree : ¬ joint <:+: closer) :
    parse (print l opener closer) = .ok ⟨print l opener closer, l, opener, closer, ho, hc⟩ := by
  have hsplit : split? (print l opener closer) = some (Bytes.ofString l.code, opener, closer) := by
    rw [split?_print hl, (lastJoint?_append_joint_eq_some_iff opener closer).mpr hfree]
    simp [joint]
  unfold parse
  rw [hsplit]
  simp only [Lexeme.ofCode?_code, dif_neg ho, dif_neg hc]

theorem print_of_parse {s : Bytes} {r : Region} (h : parse s = .ok r) :
    s = print r.lexeme r.opener r.closer ∧ ¬ joint <:+: r.closer := by
  unfold parse at h
  rcases hs : split? s with _ | ⟨code, opener, closer⟩
  · simp [hs] at h
  rcases hl : Lexeme.ofCode? code with _ | l
  · simp [hs, hl] at h
  simp only [hs, hl] at h
  split at h
  · cases h
  split at h
  · cases h
  cases h
  obtain ⟨hform, hfree⟩ := eq_of_split? hs
  refine ⟨?_, hfree⟩
  rw [hform, ← Lexeme.code_of_ofCode? hl]
  rfl

/-- Reading a printed region rule gives back its lexeme and delimiters exactly when the closer
holds no `)(`; and every region rule that is read is the print of what it reads as, with a closer
that holds no `)(`. So the rules that read back are exactly those whose closer holds no `)(`,
whatever else the delimiters hold. -/
theorem parse_print_iff :
    (∀ (l : Lexeme) (opener closer : Bytes), l ≠ .empty → opener ≠ [] → closer ≠ [] →
      ((∃ r, parse (print l opener closer) = .ok r ∧ r.lexeme = l ∧ r.opener = opener ∧
          r.closer = closer) ↔ ¬ joint <:+: closer)) ∧
      ∀ (s : Bytes) (r : Region), parse s = .ok r →
        s = print r.lexeme r.opener r.closer ∧ ¬ joint <:+: r.closer := by
  refine ⟨fun l opener closer hl ho hc => ⟨?_, fun hfree => ⟨_, parse_print hl ho hc hfree, rfl, rfl, rfl⟩⟩,
    fun s r h => print_of_parse h⟩
  rintro ⟨r, hr, -, -, rfl⟩
  exact (print_of_parse hr).2

/-- The string rule with parentheses for delimiters, `STR(()())`. -/
theorem parse_print_parentheses :
    Lexeme.string ≠ .empty ∧ [0x28] ≠ ([] : Bytes) ∧ [0x29] ≠ ([] : Bytes) ∧
      ((∃ r, parse (print .string [0x28] [0x29]) = .ok r ∧ r.lexeme = .string ∧ r.opener = [0x28] ∧
          r.closer = [0x29]) ↔ ¬ joint <:+: [0x29]) :=
  ⟨by decide, by decide, by decide, parse_print_iff.1 .string [0x28] [0x29] (by decide) (by decide) (by decide)⟩

/-- A closer that holds `)(` is read as the end of a longer opener: `STR(a)(b)(c)` has the opener
`a)(b` and the closer `c`. -/
example : (parse (print .string [0x61] [0x62, 0x29, 0x28, 0x63])).toOption.map (fun r => (r.opener, r.closer)) =
    some ([0x61, 0x29, 0x28, 0x62], [0x63]) := by
  decide +kernel

end Region

/-! ### Token rules -/

theorem mem_intercalate_singleton {α : Type} {x y : α} {ls : List (List α)}
    (h : y ∈ [x].intercalate ls) : y = x ∨ ∃ l ∈ ls, y ∈ l := by
  induction ls with
  | nil => simp at h
  | cons l ls ih =>
    cases ls with
    | nil => exact .inr ⟨l, List.mem_cons_self, by simpa using h⟩
    | cons l' ls' =>
      rw [List.intercalate_cons_cons] at h
      rcases List.mem_append.mp h with h | h
      · rcases List.mem_append.mp h with h | h
        · exact .inr ⟨l, List.mem_cons_self, h⟩
        · exact .inl (List.mem_singleton.mp h)
      · rcases ih h with h | ⟨m, hm, hy⟩
        · exact .inl h
        · exact .inr ⟨m, List.mem_cons_of_mem l hm, hy⟩

namespace Step

theorem ascii_of_isCodeByte {y : UInt8} (h : isCodeByte y = true) :
    y < 0x80 ∧ Fields.isSpace y.toNat = false := by
  simp only [isCodeByte, Bool.or_eq_true, Bool.and_eq_true, decide_eq_true_eq, beq_iff_eq,
    UInt8.le_iff_toNat_le, ← UInt8.toNat_inj] at h
  simp only [Fields.isSpace, UInt8.lt_iff_toNat_lt]
  simp at h ⊢
  omega

/-- The step reader tests code bytes as the region reader does, so every lexeme code passes it. -/
theorem isCodeByte_of_mem_code (l : Lexeme) : ∀ y ∈ Bytes.ofString l.code, isCodeByte y = true :=
  Lexeme.isCodeByte_of_mem_code l

/-- A text `CLASSES(CONDITION:OUT)`, with classes of code bytes and bars, an output code of code
bytes and no line break in the condition, is cut into exactly these three parts: the condition runs
to the last `:`, and the output code after it holds none. -/
theorem split?_of_parts {classes cond out : Bytes} (hclasses : classes ≠ [])
    (hcb : ∀ y ∈ classes, (isCodeByte y || y == 0x7C) = true) (hout : ∀ y ∈ out, isCodeByte y = true)
    (hbreak : 0x0A ∉ cond) :
    split? (classes ++ [0x28] ++ cond ++ [0x3A] ++ out ++ [0x29]) = some (classes, cond, out) := by
  have hform : classes ++ [0x28] ++ cond ++ [0x3A] ++ out ++ [0x29] =
      classes ++ 0x28 :: ((cond ++ 0x3A :: out) ++ [0x29]) := by
    simp
  have htake : (classes ++ 0x28 :: ((cond ++ 0x3A :: out) ++ [0x29])).takeWhile
      (fun b => isCodeByte b || b == 0x7C) = classes := by
    rw [List.takeWhile_append_of_pos hcb, List.takeWhile_cons_of_neg (by decide), List.append_nil]
  have hnobreak : (((cond ++ 0x3A :: out) ++ [0x29]).contains 0x0A) = false := by
    rw [Bool.eq_false_iff, ne_eq, List.contains_iff_mem]
    intro hmem
    simp only [List.mem_append, List.mem_cons, List.not_mem_nil, or_false] at hmem
    rcases hmem with (hc | h | ho) | h
    · exact hbreak hc
    · exact absurd h (by decide)
    · exact absurd (hout _ ho) (by decide)
    · exact absurd h (by decide)
  have hcolon : (List.range (cond ++ 0x3A :: out).length).reverse.find?
      (fun i => (cond ++ 0x3A :: out)[i]? = some 0x3A) = some cond.length := by
    rw [find?_range_reverse_eq_some]
    refine ⟨by simp, by simp, fun j h₁ h₂ => ?_⟩
    have hj : (cond ++ 0x3A :: out)[j]? = out[j - cond.length - 1]? := by
      have hk : j - cond.length = j - cond.length - 1 + 1 := by omega
      rw [List.getElem?_append_right (by omega), hk, List.getElem?_cons_succ, Nat.add_sub_cancel]
    rw [hj, decide_eq_false_iff_not]
    intro hy
    exact absurd (hout _ (List.mem_of_getElem? hy)) (by decide)
  unfold split?
  rw [hform, htake]
  dsimp only
  rw [List.drop_left]
  simp only [hclasses, List.getLast?_concat, hnobreak, List.dropLast_concat, hcolon,
    ne_eq, not_true_eq_false, Bool.false_eq_true, or_self, if_false]
  have hdrop : (cond ++ 0x3A :: out).drop (cond.length + 1) = out := by
    simp
  rw [hdrop, List.all_eq_true.mpr hout, if_pos rfl]
  simp

/-- A step as it is written: the lexemes it accepts, its condition text and the lexeme it retags
to. It names at least one lexeme and never `empty`, its condition holds no white space, and a
condition that is not empty compiles. -/
structure Written where
  inputs : List Lexeme
  condition : Bytes
  output : Option Lexeme
  inputs_ne_nil : inputs ≠ []
  empty_not_mem : Lexeme.empty ∉ inputs
  output_ne : output ≠ some .empty
  condition_blankless : Fields.hasSpace condition = false
  condition_compiles : condition ≠ [] → (Condition.compile condition).isOk = true

namespace Written

/-- The classes of a written step: the codes of its lexemes, joined by `|`. -/
def classes (w : Written) : Bytes := [0x7C].intercalate (w.inputs.map fun l => Bytes.ofString l.code)

/-- The code of a written step's output; empty when it has none. -/
def outCode (w : Written) : Bytes := (w.output.map fun l => Bytes.ofString l.code).getD []

/-- The text of a step: `CLASSES(CONDITION:OUT)`. -/
def print (w : Written) : Bytes := w.classes ++ [0x28] ++ w.condition ++ [0x3A] ++ w.outCode ++ [0x29]

/-- A step reads as written: the same lexemes in order, no condition for the empty text and
otherwise the condition compiled from it, and the same output. -/
def ReadsAs (w : Written) (s : Step) : Prop :=
  s.inputs = w.inputs ∧ s.output = w.output ∧
    s.condition = if w.condition = [] then none else (Condition.compile w.condition).toOption

variable (w : Written)

theorem mem_classes {y : UInt8} (hy : y ∈ w.classes) : (isCodeByte y || y == 0x7C) = true := by
  rcases mem_intercalate_singleton hy with rfl | ⟨c, hc, hyc⟩
  · simp
  · obtain ⟨l, -, rfl⟩ := List.mem_map.mp hc
    simp [isCodeByte_of_mem_code l y hyc]

theorem classes_ne_nil : w.classes ≠ [] := by
  obtain ⟨l, ls, hls⟩ := List.exists_cons_of_ne_nil w.inputs_ne_nil
  have hl : l ≠ .empty := fun h => w.empty_not_mem (h ▸ hls ▸ List.mem_cons_self)
  unfold classes
  rw [hls]
  cases ls with
  | nil => simpa using Lexeme.code_ne_nil hl
  | cons l' ls' => simp [List.intercalate_cons_cons, Lexeme.code_ne_nil hl]

theorem mem_outCode {y : UInt8} (hy : y ∈ w.outCode) : isCodeByte y = true := by
  unfold outCode at hy
  cases ho : w.output with
  | none => simp [ho] at hy
  | some l =>
    simp only [ho, Option.map_some, Option.getD_some] at hy
    exact isCodeByte_of_mem_code l y hy

theorem bars_classes : bars w.classes = w.inputs.map fun l => Bytes.ofString l.code := by
  unfold bars classes
  refine List.splitOn_intercalate 0x7C (fun c hc => ?_) (by simpa using w.inputs_ne_nil)
  obtain ⟨l, -, rfl⟩ := List.mem_map.mp hc
  exact fun hbar => absurd (isCodeByte_of_mem_code l _ hbar) (by decide)

theorem readClasses_codes (step : Bytes) {ls : List Lexeme} (hls : Lexeme.empty ∉ ls) :
    readClasses step (ls.map fun l => Bytes.ofString l.code) = .ok ls := by
  induction ls with
  | nil => rfl
  | cons l ls ih =>
    have hl : l ≠ .empty := fun h => hls (h ▸ List.mem_cons_self)
    simp only [List.map_cons, readClasses, if_neg (Lexeme.code_ne_nil hl), Lexeme.ofCode?_code,
      ih (fun h => hls (List.mem_cons_of_mem l h))]
    rfl

theorem readCondition_condition :
    readCondition w.condition =
      .ok (if w.condition = [] then none else (Condition.compile w.condition).toOption) := by
  unfold readCondition
  by_cases hc : w.condition = []
  · simp only [hc, if_true]
    rfl
  · have hok := w.condition_compiles hc
    simp only [if_neg hc]
    cases hcomp : Condition.compile w.condition with
    | error e =>
      rw [hcomp] at hok
      cases hok
    | ok c => rfl

theorem readOutput_outCode : readOutput w.outCode = .ok w.output := by
  unfold readOutput outCode
  cases ho : w.output with
  | none => rfl
  | some l =>
    have hl : l ≠ .empty := fun h => w.output_ne (h ▸ ho)
    simp [Lexeme.code_ne_nil hl]
    rfl

/-- A printed step is cut into its classes, its condition and its output code: the condition runs
to the last `:`, and the output code after it holds none. -/
theorem split?_print : split? w.print = some (w.classes, w.condition, w.outCode) :=
  split?_of_parts w.classes_ne_nil (fun _ hy => w.mem_classes hy) (fun _ hy => w.mem_outCode hy)
    fun hc => absurd (Fields.isSpace_eq_false_of_mem w.condition_blankless hc (by decide)) (by decide)

theorem exists_parse_print : ∃ s, parse w.print = .ok s ∧ w.ReadsAs s := by
  refine ⟨⟨w.inputs, if w.condition = [] then none else (Condition.compile w.condition).toOption,
    w.output⟩, ?_, rfl, rfl, rfl⟩
  unfold parse
  rw [split?_print]
  simp only [bars_classes, readClasses_codes _ w.empty_not_mem, readCondition_condition,
    readOutput_outCode]
  rfl

theorem print_ne_nil : w.print ≠ [] := by
  simp [print]

theorem hasSpace_print : Fields.hasSpace w.print = false := by
  have hascii : ∀ y ∈ w.classes, y < 0x80 ∧ Fields.isSpace y.toNat = false := fun y hy => by
    rcases Bool.or_eq_true_iff.mp (w.mem_classes hy) with h | h
    · exact ascii_of_isCodeByte h
    · rw [beq_iff_eq.mp h]
      decide
  have hform : w.print = w.classes ++ 0x28 :: (w.condition ++ 0x3A :: (w.outCode ++ [0x29])) := by
    simp [print]
  rw [hform, Fields.hasSpace_append _ _ (by simp), Fields.hasSpace_ascii (by decide),
    Fields.hasSpace_append _ _ (by simp), w.condition_blankless,
    Fields.hasSpace_eq_false_of_ascii hascii, Fields.hasSpace_eq_false_of_ascii]
  · rfl
  intro y hy
  simp only [List.mem_cons, List.mem_append, List.not_mem_nil, or_false] at hy
  rcases hy with rfl | hy | rfl
  · decide
  · exact ascii_of_isCodeByte (w.mem_outCode hy)
  · decide

end Written

end Step

namespace Rule

/-- The text of a token rule: its steps, printed and joined by single spaces. -/
def print (ws : List Step.Written) : Bytes := [0x20].intercalate (ws.map Step.Written.print)

theorem split_print (ws : List Step.Written) : Fields.split (print ws) = ws.map Step.Written.print := by
  unfold print
  refine Fields.split_intercalate (fun f hf => ?_) (fun f hf => ?_)
  · obtain ⟨w, -, rfl⟩ := List.mem_map.mp hf
    exact w.print_ne_nil
  · obtain ⟨w, -, rfl⟩ := List.mem_map.mp hf
    exact w.hasSpace_print

theorem readSteps_print (rule : Bytes) (ws : List Step.Written) :
    ∃ ss, readSteps rule (ws.map Step.Written.print) = .ok ss ∧ List.Forall₂ Step.Written.ReadsAs ws ss := by
  induction ws with
  | nil => exact ⟨[], rfl, .nil⟩
  | cons w ws ih =>
    obtain ⟨s, hs, hreads⟩ := w.exists_parse_print
    obtain ⟨ss, hss, hall⟩ := ih
    refine ⟨s :: ss, ?_, .cons hreads hall⟩
    simp only [List.map_cons, readSteps, hs, hss]
    rfl

/-- A token rule printed from steps that hold no white space reads back as those steps, in order:
the same lexemes, no condition for an empty condition text and otherwise the condition compiled
from `^(?:` + text + `)`, and the same output. The condition runs to the last `:` of its step, so
it may itself hold `:`, `(`, `)` and `|`. -/
theorem parse_print_reads_as (ws : List Step.Written) (hws : ws ≠ []) :
    ∃ r, parse (print ws) = .ok r ∧ List.Forall₂ Step.Written.ReadsAs ws r.steps := by
  obtain ⟨ss, hss, hall⟩ := readSteps_print (print ws) ws
  obtain ⟨w, ws', rfl⟩ := List.exists_cons_of_ne_nil hws
  cases hall with
  | cons hw hrest =>
    rename_i s ss'
    refine ⟨⟨print (w :: ws'), s, ss'⟩, ?_, .cons hw hrest⟩
    unfold parse
    rw [split_print, List.map_cons]
    simp only [← List.map_cons, hss]
    rfl

/-- The rule `ID|KW(a:(b)|c:F) O(:)`: a condition that holds `:`, `(`, `)` and `|`, then a step with
neither condition nor output. -/
theorem parse_print_colon_condition :
    let ws : List Step.Written :=
      [⟨[.identifier, .keyword], Bytes.ofString "a:(b)|c", some .function, by decide, by decide,
          by decide, by decide +kernel, fun _ => by decide +kernel⟩,
        ⟨[.operator], [], none, by decide, by decide, by decide, by decide +kernel,
          fun h => absurd rfl h⟩]
    ws ≠ [] ∧ ∃ r, parse (print ws) = .ok r ∧ List.Forall₂ Step.Written.ReadsAs ws r.steps :=
  ⟨by simp, parse_print_reads_as _ (by simp)⟩

/-- The condition of `ID|KW(a:(b)|c:F)` runs to its last `:`. -/
example : (parse (Bytes.ofString "ID|KW(a:(b)|c:F)")).toOption.map
      (fun r => r.steps.map fun s => (s.inputs, s.condition.map Condition.source, s.output)) =
    some [([.identifier, .keyword], some (Bytes.ofString "^(?:a:(b)|c)"), some .function)] := by
  decide +kernel

end Rule

end SyntaxShade
