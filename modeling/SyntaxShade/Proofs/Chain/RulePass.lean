import SyntaxShade.Proofs.Chain.Runs
/-! A token rule's pass judges each window by the lexemes the tokens had when it began, so it is
the greedy scan of the token list (`Chain.apply_is_greedy_scan`). -/
namespace SyntaxShade

namespace Rule

/-- The steps take a window of the tokens exactly when there is a token for every step and each
step accepts its own; the window holds the tokens as the steps retag them, and the flag tells
whether a step has an output. -/
theorem window_eq_some_iff {steps : List Step} {ts ws : List Token} {b : Bool} :
    window steps ts = some (ws, b) ↔
      steps.length ≤ ts.length ∧
        (∀ (k : Nat) (hs : k < steps.length) (ht : k < ts.length), steps[k].accepts ts[k] = true) ∧
        ws = List.zipWith Step.retag steps ts ∧ b = steps.any fun s => s.output.isSome := by
  induction steps generalizing ts ws b with
  | nil =>
    simp only [window, Option.some.injEq, Prod.mk.injEq, List.length_nil, Nat.zero_le,
      Nat.not_lt_zero, IsEmpty.forall_iff, implies_true, List.zipWith_nil_left, List.any_nil,
      true_and]
    constructor
    · rintro ⟨rfl, rfl⟩
      exact ⟨rfl, rfl⟩
    · rintro ⟨rfl, rfl⟩
      exact ⟨rfl, rfl⟩
  | cons s ss ih =>
    cases ts with
    | nil => simp [window]
    | cons t ts =>
      rw [window_cons_eq_some]
      constructor
      · rintro ⟨hs, ws', b', hw, rfl, rfl⟩
        obtain ⟨hle, hacc, rfl, rfl⟩ := ih.mp hw
        refine ⟨by simpa using hle, ?_, rfl, by simp⟩
        intro k hk hkt
        cases k with
        | zero => exact hs
        | succ k => exact hacc k (by simpa using hk) (by simpa using hkt)
      · rintro ⟨hle, hacc, rfl, rfl⟩
        refine ⟨hacc 0 (by simp) (by simp), List.zipWith Step.retag ss ts,
          ss.any fun s => s.output.isSome,
          ih.mpr ⟨by simpa using hle, fun k hk hkt => hacc (k + 1) (by simpa using hk) (by simpa using hkt),
            rfl, rfl⟩, rfl, by simp⟩

end Rule

/-- What a slot holds apart from its token's lexeme: its text and its two links. -/
def Link.shape (k : Link) : Bytes × Option Nat × Option Nat := (k.token.text, k.prev, k.next)

namespace Chain

/-- `c'` is `c` with some tokens retagged: every slot keeps its text and its links, and the chain
keeps its ends and its count. -/
structure Retagged (c c' : Chain) : Prop where
  links : ∀ x : Nat, (c'.links[x]?).map Link.shape = (c.links[x]?).map Link.shape
  head : c'.head = c.head
  tail : c'.tail = c.tail
  size : c'.size = c.size

namespace Retagged

@[refl] theorem refl (c : Chain) : c.Retagged c := ⟨fun _ => rfl, rfl, rfl, rfl⟩

@[trans] theorem trans {c₁ c₂ c₃ : Chain} (h₁ : c₁.Retagged c₂) (h₂ : c₂.Retagged c₃) :
    c₁.Retagged c₃ :=
  ⟨fun x => (h₂.links x).trans (h₁.links x), h₂.head.trans h₁.head, h₂.tail.trans h₁.tail,
    h₂.size.trans h₁.size⟩

end Retagged

theorem retagged_retag (c : Chain) (i : Nat) (l : Lexeme) : c.Retagged (c.retag i l) where
  links x := by
    rw [getElem?_retag_links]
    split
    · cases c.links[x]? <;> rfl
    · rfl
  head := rfl
  tail := rfl
  size := rfl

theorem retagged_retagAt (c : Chain) (s : Step) (i : Option Nat) : c.Retagged (s.retagAt c i).1 := by
  unfold Step.retagAt
  split
  · exact retagged_retag c _ _
  · exact .refl c
  · exact .refl c

theorem retagged_retagWindow (steps : List Step) (c : Chain) (i : Option Nat) :
    c.Retagged (Rule.retagWindow steps c i).1 := by
  induction steps generalizing c i with
  | nil => exact .refl c
  | cons s ss ih => exact (retagged_retagAt c s i).trans (ih _ _)

theorem retagged_applyFrom (r : Rule) (n : Nat) (c : Chain) (i : Option Nat) (changed : Bool) :
    c.Retagged (r.applyFrom n c i changed).1 := by
  induction n generalizing c i changed with
  | zero => exact .refl c
  | succ n ih =>
    cases i with
    | none => exact .refl c
    | some x =>
      unfold Rule.applyFrom
      split
      · exact (retagged_retagWindow r.steps c (some x)).trans (ih _ _ _)
      · exact ih _ _ _

/-- A rule's pass over a well-formed chain does to its tokens what the greedy scan does to the
token list it had on entry, reports whether a taken window had a step with an output, and changes
no text and no link. -/
theorem apply_is_greedy_scan (r : Rule) (c : Chain) (h : c.WellFormed) :
    (r.apply c).1.tokens = (r.scan c.tokens).1 ∧ (r.apply c).2 = (r.scan c.tokens).2 ∧
      c.Retagged (r.apply c).1 := by
  obtain ⟨-, htok, hch⟩ := h.spans.apply r
  exact ⟨htok, hch, retagged_applyFrom r _ c c.head false⟩

/-- The rule `ID(:KW)` over an identifier, a space and an identifier. -/
theorem apply_is_greedy_scan_keywords :
    let r : Rule := ⟨Bytes.ofString "ID(:KW)", ⟨[.identifier], none, some .keyword⟩, []⟩
    let c := Chain.empty.pushAll
      [⟨Bytes.ofString "a", .identifier⟩, ⟨Bytes.ofString " ", .space⟩, ⟨Bytes.ofString "b", .identifier⟩]
    c.WellFormed ∧
      ((r.apply c).1.tokens = (r.scan c.tokens).1 ∧ (r.apply c).2 = (r.scan c.tokens).2 ∧
        c.Retagged (r.apply c).1) := by
  obtain ⟨ord, hs, -⟩ := spans_empty.pushAll
    [⟨Bytes.ofString "a", .identifier⟩, ⟨Bytes.ofString " ", .space⟩, ⟨Bytes.ofString "b", .identifier⟩]
  exact ⟨hs.wellFormed, apply_is_greedy_scan _ _ hs.wellFormed⟩

end Chain

end SyntaxShade
