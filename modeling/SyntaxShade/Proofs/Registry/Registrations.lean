import SyntaxShade.Proofs.Registry.Lookup
import SyntaxShade.Proofs.Text.Lower
/-! Registering languages in turn: a name is answered by the last language registered under its
lower-case form, and the names are listed (`Registry.registerAll_lookup_names`). -/
namespace SyntaxShade

namespace Registry

/-- Registers the languages of a list in turn. -/
def registerAll (r : Registry) (regs : List (Bytes × Language)) : Registry :=
  regs.foldl (fun r p => r.register p.1 p.2) r

/-- The names a registry holds, as they are stored. -/
def keys (r : Registry) : List Bytes := r.entries.map (·.1)

/-! ### Looking a name up -/

theorem find?_builtin (m : Bytes) :
    builtin.find? m =
      if m.toLower = Bytes.ofString "universal" then some Builtin.universal
      else if m.toLower = Bytes.ofString "shell" ∨ m.toLower = Bytes.ofString "bash" then
        some Builtin.shell
      else none := by
  unfold find? builtin
  simp only [List.lookup_cons, List.lookup_nil]
  by_cases hu : m.toLower = Bytes.ofString "universal"
  · rw [if_pos hu, hu, beq_self_eq_true]
  rw [if_neg hu, beq_false_of_ne hu]
  by_cases hs : m.toLower = Bytes.ofString "shell"
  · rw [if_pos (.inl hs), hs, beq_self_eq_true]
  rw [beq_false_of_ne hs]
  by_cases hb : m.toLower = Bytes.ofString "bash"
  · rw [if_pos (.inr hb), hb, beq_self_eq_true]
  · rw [if_neg fun h => h.elim hs hb, beq_false_of_ne hb]

/-- After registering in turn, a name finds the language registered last under a name of the same
lower-case form, and otherwise what it found before. -/
theorem find?_registerAll (r : Registry) (regs : List (Bytes × Language)) (m : Bytes) :
    (r.registerAll regs).find? m =
      ((regs.filter fun p => p.1.toLower = m.toLower).getLast?.map Prod.snd).or (r.find? m) := by
  induction regs generalizing r with
  | nil => rfl
  | cons p regs ih =>
    rw [registerAll, List.foldl_cons, ← registerAll, ih, find?_register]
    by_cases hp : p.1.toLower = m.toLower
    · rw [if_pos hp.symm, List.filter_cons_of_pos (by simpa using hp), List.getLast?_cons]
      cases (regs.filter fun p => p.1.toLower = m.toLower).getLast? with
      | none => rfl
      | some q => rfl
    · rw [if_neg (Ne.symm hp), List.filter_cons_of_neg (by simpa using hp)]

/-! ### The names -/

theorem mem_keys_register {r : Registry} {name : Bytes} {lang : Language} {x : Bytes} :
    x ∈ (r.register name lang).keys ↔ x = name.toLower ∨ x ∈ r.keys := by
  unfold keys register
  simp only [List.map_cons, List.mem_cons, List.mem_map, List.mem_filter, bne_iff_ne, ne_eq]
  constructor
  · rintro (rfl | ⟨p, ⟨hp, -⟩, rfl⟩)
    · exact .inl rfl
    · exact .inr ⟨p, hp, rfl⟩
  · rintro (rfl | ⟨p, hp, rfl⟩)
    · exact .inl rfl
    · by_cases h : p.1 = name.toLower
      · exact .inl h
      · exact .inr ⟨p, ⟨hp, h⟩, rfl⟩

theorem nodup_keys_register {r : Registry} (h : r.keys.Nodup) (name : Bytes) (lang : Language) :
    (r.register name lang).keys.Nodup := by
  unfold keys register at *
  rw [List.map_cons, List.nodup_cons]
  constructor
  · simp only [List.mem_map, List.mem_filter, bne_iff_ne, ne_eq, not_exists, not_and]
    intro p hp hne
    exact hp.2 hne
  · exact h.sublist ((List.filter_sublist).map _)

theorem mem_keys_registerAll {r : Registry} {regs : List (Bytes × Language)} {x : Bytes} :
    x ∈ (r.registerAll regs).keys ↔ x ∈ r.keys ∨ ∃ p ∈ regs, x = p.1.toLower := by
  induction regs generalizing r with
  | nil => simp [registerAll]
  | cons p regs ih =>
    rw [registerAll, List.foldl_cons, ← registerAll, ih, mem_keys_register]
    simp only [List.mem_cons, exists_eq_or_imp]
    constructor
    · rintro ((h | h) | h)
      · exact .inr (.inl h)
      · exact .inl h
      · exact .inr (.inr h)
    · rintro (h | h | h)
      · exact .inl (.inr h)
      · exact .inl (.inl h)
      · exact .inr h

theorem nodup_keys_registerAll {r : Registry} (h : r.keys.Nodup) (regs : List (Bytes × Language)) :
    (r.registerAll regs).keys.Nodup := by
  induction regs generalizing r with
  | nil => exact h
  | cons p regs ih => exact ih (nodup_keys_register h p.1 p.2)

theorem mem_names {r : Registry} {x : Bytes} : x ∈ r.names ↔ x ∈ r.keys :=
  (List.mergeSort_perm _ _).mem_iff

theorem names_pairwise_lt {r : Registry} (h : r.keys.Nodup) : r.names.Pairwise (· < ·) := by
  have htrans : ∀ a b c : Bytes, decide (a ≤ b) → decide (b ≤ c) → decide (a ≤ c) :=
    fun _ _ _ hab hbc =>
      decide_eq_true (List.le_trans (of_decide_eq_true hab) (of_decide_eq_true hbc))
  have htotal : ∀ a b : Bytes, (decide (a ≤ b) || decide (b ≤ a)) := fun a b => by
    simp only [Bool.or_eq_true, decide_eq_true_eq]
    exact List.le_total a b
  have hsorted : r.names.Pairwise fun a b => decide (a ≤ b) = true :=
    List.pairwise_mergeSort htrans htotal r.keys
  have hnodup : r.names.Nodup := (List.mergeSort_perm _ _).nodup_iff.mpr h
  exact (hsorted.and (List.nodup_iff_pairwise_ne.mp hnodup)).imp fun ⟨hle, hne⟩ =>
    (List.le_iff_lt_or_eq.mp (of_decide_eq_true hle)).resolve_right hne

theorem builtin_keys :
    builtin.keys = [Bytes.ofString "universal", Bytes.ofString "shell", Bytes.ofString "bash"] :=
  rfl

theorem nodup_builtin_keys : builtin.keys.Nodup := by
  rw [builtin_keys]
  decide +kernel

theorem toLower_of_mem_keys {regs : List (Bytes × Language)} {x : Bytes}
    (hx : x ∈ (builtin.registerAll regs).keys) : x.toLower = x := by
  rcases mem_keys_registerAll.mp hx with hb | ⟨p, -, rfl⟩
  · have hlower : ∀ y ∈ builtin.keys, Bytes.toLower y = y := by
      rw [builtin_keys]
      decide +kernel
    exact hlower x hb
  · exact Bytes.toLower_toLower p.1

theorem exists_lookup_of_mem_keys {regs : List (Bytes × Language)} {x : Bytes}
    (hx : x ∈ (builtin.registerAll regs).keys) :
    ∃ lang, (builtin.registerAll regs).lookup x = .ok lang := by
  have hsome : ((builtin.registerAll regs).find? x).isSome := by
    unfold find?
    rw [toLower_of_mem_keys hx, List.lookup_isSome_iff]
    obtain ⟨p, hp, rfl⟩ := List.mem_map.mp hx
    exact ⟨p, hp, beq_self_eq_true _⟩
  obtain ⟨lang, hlang⟩ := Option.isSome_iff_exists.mp hsome
  exact ⟨lang, lookup_eq_ok_iff.mpr hlang⟩

/-! ### The main statement -/

/-- After any registrations on the built-in registry, a name is looked up as the language
registered last under a name of the same lower-case form; failing that, as the built-in language
under its lower-case form, with `shell` and `bash` naming the same one; failing that, it is
refused as an unknown grammar. The names listed are the built-in names and the lower-case forms of
the registered ones, strictly increasing, so each once, and each of them can be looked up. -/
theorem registerAll_lookup_names (regs : List (Bytes × Language)) :
    (∀ m p, (regs.filter fun q => q.1.toLower = m.toLower).getLast? = some p →
      (builtin.registerAll regs).lookup m = .ok p.2) ∧
    (∀ m, (∀ p ∈ regs, p.1.toLower ≠ m.toLower) →
      (builtin.registerAll regs).lookup m =
        if m.toLower = Bytes.ofString "universal" then .ok Builtin.universal
        else if m.toLower = Bytes.ofString "shell" ∨ m.toLower = Bytes.ofString "bash" then
          .ok Builtin.shell
        else .error (.unknownGrammar m)) ∧
    (builtin.registerAll regs).names.Pairwise (· < ·) ∧
    (∀ x, x ∈ (builtin.registerAll regs).names ↔
      x ∈ [Bytes.ofString "universal", Bytes.ofString "shell", Bytes.ofString "bash"] ∨
        ∃ p ∈ regs, x = p.1.toLower) ∧
    ∀ x ∈ (builtin.registerAll regs).names,
      ∃ lang, (builtin.registerAll regs).lookup x = .ok lang := by
  refine ⟨?registered, ?builtin, ?sorted, ?members, ?found⟩
  case registered =>
    intro m p hlast
    rw [lookup_eq_ok_iff, find?_registerAll, hlast]
    rfl
  case builtin =>
    intro m hnone
    have hfind : (builtin.registerAll regs).find? m = builtin.find? m := by
      rw [find?_registerAll, List.filter_eq_nil_iff.mpr fun p hp => by simpa using hnone p hp]
      rfl
    rw [find?_builtin] at hfind
    by_cases hu : m.toLower = Bytes.ofString "universal"
    · rw [if_pos hu] at hfind ⊢
      exact lookup_eq_ok_iff.mpr hfind
    rw [if_neg hu] at hfind ⊢
    by_cases hsb : m.toLower = Bytes.ofString "shell" ∨ m.toLower = Bytes.ofString "bash"
    · rw [if_pos hsb] at hfind ⊢
      exact lookup_eq_ok_iff.mpr hfind
    · rw [if_neg hsb] at hfind ⊢
      exact lookup_eq_error_iff.mpr ⟨hfind, rfl⟩
  case sorted => exact names_pairwise_lt (nodup_keys_registerAll nodup_builtin_keys regs)
  case members =>
    intro x
    rw [mem_names, mem_keys_registerAll, builtin_keys]
  case found => exact fun x hx => exists_lookup_of_mem_keys (mem_names.mp hx)

end Registry

end SyntaxShade
