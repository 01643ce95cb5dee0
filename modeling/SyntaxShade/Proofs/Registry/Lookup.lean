import SyntaxShade.Batch
/-! Looking up languages in registries built by registering (`Registry.find?_register`); the shell
language is never lost. -/
namespace SyntaxShade

namespace Registry

/-- The registries that registering languages builds from the built-in one. -/
inductive Reachable : Registry → Prop
  | builtin : Reachable builtin
  | register {r : Registry} (name : Bytes) (lang : Language) : Reachable r →
      Reachable (r.register name lang)

theorem lookup_filter_of_ne {key name : Bytes} (h : name ≠ key) (es : List (Bytes × Language)) :
    (es.filter (·.1 != key)).lookup name = es.lookup name := by
  induction es with
  | nil => rfl
  | cons e es ih =>
    obtain ⟨k, v⟩ := e
    by_cases hk : k = key
    · subst hk
      rw [List.filter_cons_of_neg (by simp), ih, List.lookup_cons, beq_false_of_ne h]
    · rw [List.filter_cons_of_pos (by simpa using hk), List.lookup_cons, List.lookup_cons, ih]

/-- Registering puts the language under the name's lower-case form and leaves every other name as
it was. -/
theorem find?_register (r : Registry) (name : Bytes) (lang : Language) (n : Bytes) :
    (r.register name lang).find? n = if n.toLower = name.toLower then some lang else r.find? n := by
  simp only [find?, register]
  by_cases h : n.toLower = name.toLower
  · rw [if_pos h, h, List.lookup_cons_self]
  · rw [if_neg h, List.lookup_cons, beq_false_of_ne h, lookup_filter_of_ne h]

/-- The shell language stays registered: registering may replace it but never removes it. -/
theorem Reachable.find?_shell {r : Registry} (h : r.Reachable) :
    ∃ shell, r.find? (Bytes.ofString "shell") = some shell := by
  induction h with
  | builtin => exact Option.isSome_iff_exists.mp (by decide +kernel)
  | register name lang _ ih =>
    rw [find?_register]
    split
    · exact ⟨lang, rfl⟩
    · exact ih

/-- Looking a name up refuses it exactly when no language is under its lower-case form, and the
refusal is an unknown grammar with the name as asked for. -/
theorem lookup_eq_error_iff {r : Registry} {name : Bytes} {e : Error} :
    r.lookup name = .error e ↔ r.find? name = none ∧ e = .unknownGrammar name := by
  unfold lookup
  cases r.find? name with
  | some lang => exact ⟨fun h => (nomatch h), fun ⟨h, _⟩ => (nomatch h)⟩
  | none =>
    constructor
    · intro h
      cases h
      exact ⟨rfl, rfl⟩
    · rintro ⟨-, rfl⟩
      rfl

theorem lookup_eq_ok_iff {r : Registry} {name : Bytes} {lang : Language} :
    r.lookup name = .ok lang ↔ r.find? name = some lang := by
  unfold lookup
  cases r.find? name with
  | some l =>
    constructor
    · intro h
      cases h
      rfl
    · intro h
      cases h
      rfl
  | none => exact ⟨fun h => (nomatch h), fun h => (nomatch h)⟩

theorem run_of_find? {r : Registry} {j : Job} {lang : Language} (h : r.find? j.grammar = some lang) :
    r.run j = .ok (lang.highlight j.code) := by
  unfold run
  rw [lookup_eq_ok_iff.mpr h]
  rfl

theorem run_of_find?_eq_none {r : Registry} {j : Job} (h : r.find? j.grammar = none) :
    r.run j = .error (.unknownGrammar j.grammar) := by
  unfold run
  rw [lookup_eq_error_iff.mpr ⟨h, rfl⟩]
  rfl

theorem highlightAll_not_cancelled (r : Registry) (jobs : List Job) :
    r.highlightAll jobs false = (jobs.map r.run, none) := rfl

end Registry

end SyntaxShade
