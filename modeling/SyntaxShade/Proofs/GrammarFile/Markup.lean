import SyntaxShade.Proofs.GrammarFile.Refusal
import Mathlib.Data.List.Nodup
/-! A compiled grammar file gives each lexeme the class that the file sets for the lexeme's code
(`GrammarFile.compile_classOf`). -/
namespace SyntaxShade

section Lookup

variable {α β : Type} [BEq α] [LawfulBEq α]

theorem lookup_eq_some_iff_mem {l : List (α × β)} (h : (l.map Prod.fst).Nodup) {k : α} {b : β} :
    l.lookup k = some b ↔ (k, b) ∈ l := by
  have hmem : ∀ {b'}, l.lookup k = some b' → (k, b') ∈ l := fun hk => by
    obtain ⟨l₁, l₂, rfl, -⟩ := List.lookup_eq_some_iff.mp hk
    exact List.mem_append_right _ List.mem_cons_self
  refine ⟨hmem, fun hkb => ?_⟩
  obtain ⟨b', hb'⟩ := Option.isSome_iff_exists.mp
    (List.lookup_isSome_iff.mpr ⟨(k, b), hkb, beq_self_eq_true k⟩)
  have hbb : b' = b := (Prod.mk.inj (List.inj_on_of_nodup_map h (hmem hb') hkb rfl)).2
  rw [hb', hbb]

/-- Reordering a list whose keys are distinct changes no lookup. -/
theorem lookup_eq_of_perm {l₁ l₂ : List (α × β)} (hp : l₁.Perm l₂) (h : (l₂.map Prod.fst).Nodup)
    (k : α) : l₁.lookup k = l₂.lookup k := by
  apply Option.ext
  intro b
  rw [lookup_eq_some_iff_mem ((hp.map Prod.fst).nodup_iff.mpr h), lookup_eq_some_iff_mem h, hp.mem_iff]

end Lookup

namespace GrammarFile

/-- Reading the markup keys looks a lexeme up as the file looks its code up. -/
theorem lookup_readClasses {name : Bytes} {ps : List (Bytes × Bytes)} {qs : List (Lexeme × Bytes)}
    (h : readClasses name ps = .ok qs) (l : Lexeme) : qs.lookup l = ps.lookup (Bytes.ofString l.code) := by
  have hread := (readsEach_readClasses name).forall₂_of_eq_ok h
  clear h
  induction hread with
  | nil => rfl
  | @cons p q ps qs hpq _ ih =>
    obtain ⟨code, cls⟩ := p
    unfold readKey at hpq
    cases hc : Lexeme.ofCode? code with
    | none =>
      rw [hc] at hpq
      cases hpq
    | some l' =>
      rw [hc] at hpq
      cases hpq
      have hbeq : (Bytes.ofString l.code == code) = (l == l') := by
        rw [← Lexeme.code_of_ofCode? hc, Lexeme.beq_eq_decide]
        by_cases hl : l = l'
        · subst hl
          simp
        · have hne : Bytes.ofString l.code ≠ Bytes.ofString l'.code := fun he =>
            hl (by simpa using congrArg Lexeme.ofCode? he)
          simp [hl, hne]
      rw [List.lookup_cons, List.lookup_cons, hbeq, ih]

/-- Compiling a grammar file turns its classes into the markup's: each lexeme takes the class the
file sets for its code, and a lexeme whose code has none takes the fallback, or none for a bare
line break. -/
theorem compile_classOf {f : GrammarFile} {lang : Language} (h : f.compile = .ok lang) (l : Lexeme) :
    lang.markup.classOf l =
      (f.classes.lookup (Bytes.ofString l.code)).or
        (if l = .lineBreak then none else some f.fallback) := by
  unfold compile at h
  obtain ⟨classes, hclasses, h⟩ := exists_ok_of_bind_eq_ok h
  obtain ⟨g, -, h⟩ := exists_ok_of_bind_eq_ok h
  cases h
  have hsorted :
      f.sortedClasses.lookup (Bytes.ofString l.code) = f.classes.lookup (Bytes.ofString l.code) :=
    lookup_eq_of_perm (List.mergeSort_perm _ _) f.classes_nodup _
  unfold Markup.classOf
  rw [lookup_readClasses hclasses, hsorted]
  cases f.classes.lookup (Bytes.ofString l.code) <;> rfl

end GrammarFile

end SyntaxShade
