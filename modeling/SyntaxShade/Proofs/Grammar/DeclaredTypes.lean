import SyntaxShade.Proofs.Chain.RulePass
/-! Resolving declared types retags each identifier by the last class or tag of its text before
it, and so resolves no forward reference (`Grammar.propagate_resolves_backward`). -/
namespace SyntaxShade

namespace Grammar

/-- The lexeme that the last class or tag token of `ts` with text `x` declares, if any. -/
def declaredLexeme? (ts : List Token) (x : Bytes) : Option Lexeme :=
  (ts.filter fun u => decide ((u.lexeme = .className ∨ u.lexeme = .tag) ∧ u.text = x)).getLast?.map
    Token.lexeme

@[simp] theorem declaredLexeme?_nil (x : Bytes) : declaredLexeme? [] x = none := rfl

/-- A declaration further on overrides the one before. -/
theorem declaredLexeme?_cons (t : Token) (ts : List Token) (x : Bytes) :
    declaredLexeme? (t :: ts) x =
      (declaredLexeme? ts x).or
        (if (t.lexeme = .className ∨ t.lexeme = .tag) ∧ t.text = x then some t.lexeme else none) := by
  unfold declaredLexeme?
  by_cases ht : (t.lexeme = .className ∨ t.lexeme = .tag) ∧ t.text = x
  · rw [List.filter_cons_of_pos (by simpa using ht), List.getLast?_cons, if_pos ht]
    cases (ts.filter _).getLast? <;> rfl
  · rw [List.filter_cons_of_neg (by simpa using ht), if_neg ht, Option.or_none]

/-- The table after a token: a class or tag token records its text, any other token leaves the
table as it was. -/
theorem lookup_after (t : Token) (declared : List (Bytes × Lexeme)) (x : Bytes) :
    (if t.lexeme = .className ∨ t.lexeme = .tag then (t.text, t.lexeme) :: declared else declared).lookup x =
      (if (t.lexeme = .className ∨ t.lexeme = .tag) ∧ t.text = x then some t.lexeme else none).or
        (declared.lookup x) := by
  by_cases hdecl : t.lexeme = .className ∨ t.lexeme = .tag
  · rw [if_pos hdecl]
    by_cases hx : t.text = x
    · subst hx
      rw [List.lookup_cons_self, if_pos ⟨hdecl, rfl⟩, Option.some_or]
    · have hx' : (x == t.text) = false := by simpa using Ne.symm hx
      rw [List.lookup_cons, hx', if_neg (fun h => hx h.2), Option.none_or]
  · rw [if_neg hdecl, if_neg (fun h => hdecl h.1), Option.none_or]

theorem head?_resolve (declared : List (Bytes × Lexeme)) (t : Token) (ts : List Token) :
    (resolve declared (t :: ts)).head? = some
      (if t.lexeme = .identifier then { t with lexeme := (declared.lookup t.text).getD .identifier } else t) := by
  simp only [resolve]
  by_cases hdecl : t.lexeme = .className ∨ t.lexeme = .tag
  · have hid : t.lexeme ≠ .identifier := by rcases hdecl with h | h <;> simp [h]
    rw [if_pos hdecl, if_neg hid, List.head?_cons]
  · rw [if_neg hdecl]
    by_cases hid : t.lexeme = .identifier
    · rw [if_pos hid, if_pos hid]
      cases hl : declared.lookup t.text with
      | none =>
        obtain ⟨text, lexeme⟩ := t
        dsimp only at hid ⊢
        subst hid
        rfl
      | some l => rfl
    · rw [if_neg hid, if_neg hid, List.head?_cons]

theorem tail_resolve (declared : List (Bytes × Lexeme)) (t : Token) (ts : List Token) :
    (resolve declared (t :: ts)).tail =
      resolve (if t.lexeme = .className ∨ t.lexeme = .tag then (t.text, t.lexeme) :: declared
        else declared) ts := by
  simp only [resolve]
  by_cases hdecl : t.lexeme = .className ∨ t.lexeme = .tag
  · rw [if_pos hdecl, if_pos hdecl, List.tail_cons]
  · rw [if_neg hdecl, if_neg hdecl]
    split
    · split <;> rfl
    · rfl

/-- Resolving from a table `declared`: the token at position `k` is retagged, if it is an
identifier, by the last declaration of its text among the tokens before `k`, and failing that by
the table. -/
theorem getElem?_resolve (declared : List (Bytes × Lexeme)) (ts : List Token) (k : Nat) :
    (resolve declared ts)[k]? = ts[k]?.map fun t =>
      if t.lexeme = .identifier then
        { t with lexeme := ((declaredLexeme? (ts.take k) t.text).or (declared.lookup t.text)).getD .identifier }
      else t := by
  induction ts generalizing declared k with
  | nil => simp [resolve]
  | cons t ts ih =>
    cases k with
    | zero =>
      rw [← List.head?_eq_getElem?, head?_resolve, List.getElem?_cons_zero, Option.map_some, List.take_zero,
        declaredLexeme?_nil, Option.none_or]
    | succ k =>
      rw [← List.getElem?_tail, tail_resolve, ih, List.getElem?_cons_succ, List.take_succ_cons]
      simp only [declaredLexeme?_cons, Option.or_assoc, lookup_after]

end Grammar

namespace Chain

theorem retagged_propagateFrom (n : Nat) (declared : List (Bytes × Lexeme)) (c : Chain)
    (i : Option Nat) : c.Retagged (Grammar.propagateFrom n declared c i) := by
  induction n generalizing declared c i with
  | zero => exact .refl c
  | succ n ih =>
    cases i with
    | none => exact .refl c
    | some x =>
      unfold Grammar.propagateFrom
      dsimp only
      split
      · exact ih _ _ _
      split
      · split
        · exact (retagged_retag c _ _).trans (ih _ _ _)
        · exact ih _ _ _
      · exact ih _ _ _

/-- Propagating declared types over a well-formed chain touches nothing but the lexemes of
identifiers. The identifier at position `k` takes the lexeme of the last class or tag token before
`k` with its text, and stays an identifier when there is none; every other token, every text and
every link stays as it was. -/
theorem propagate_resolves_backward (c : Chain) (h : c.WellFormed) :
    c.Retagged (Grammar.propagate c) ∧
      ∀ k : Nat, (Grammar.propagate c).tokens[k]? = c.tokens[k]?.map fun t =>
        if t.lexeme = .identifier then
          { t with lexeme := (Grammar.declaredLexeme? (c.tokens.take k) t.text).getD .identifier }
        else t := by
  refine ⟨retagged_propagateFrom _ _ c c.head, fun k => ?_⟩
  rw [(h.spans.propagate).2, Grammar.getElem?_resolve]
  simp only [List.lookup_nil, Option.or_none]

/-- A class declared, a use of it, and a use of a name that is declared only further on. -/
theorem propagate_resolves_backward_uses :
    let c := Chain.empty.pushAll
      [⟨Bytes.ofString "Foo", .className⟩, ⟨Bytes.ofString "Foo", .identifier⟩,
        ⟨Bytes.ofString "Bar", .identifier⟩, ⟨Bytes.ofString "Bar", .tag⟩]
    c.WellFormed ∧
      (c.Retagged (Grammar.propagate c) ∧
        ∀ k : Nat, (Grammar.propagate c).tokens[k]? = c.tokens[k]?.map fun t =>
          if t.lexeme = .identifier then
            { t with lexeme := (Grammar.declaredLexeme? (c.tokens.take k) t.text).getD .identifier }
          else t) := by
  obtain ⟨ord, hs, -⟩ := spans_empty.pushAll
    [⟨Bytes.ofString "Foo", .className⟩, ⟨Bytes.ofString "Foo", .identifier⟩,
      ⟨Bytes.ofString "Bar", .identifier⟩, ⟨Bytes.ofString "Bar", .tag⟩]
  exact ⟨hs.wellFormed, propagate_resolves_backward _ hs.wellFormed⟩

/-- The use of `Foo` after its declaration becomes a class; the use of `Bar` before its declaration
stays an identifier. -/
example :
    (Grammar.propagate (Chain.empty.pushAll
      [⟨Bytes.ofString "Foo", .className⟩, ⟨Bytes.ofString "Foo", .identifier⟩,
        ⟨Bytes.ofString "Bar", .identifier⟩, ⟨Bytes.ofString "Bar", .tag⟩])).tokens =
      [⟨Bytes.ofString "Foo", .className⟩, ⟨Bytes.ofString "Foo", .className⟩,
        ⟨Bytes.ofString "Bar", .identifier⟩, ⟨Bytes.ofString "Bar", .tag⟩] := by
  decide +kernel

end Chain

end SyntaxShade
