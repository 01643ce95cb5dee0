import SyntaxShade.Proofs.Pattern.Suffix
import SyntaxShade.Proofs.Pattern.Mirror
/-! `^(?:c)` reads as the start-of-text assertion followed by a group holding `c`, whenever `c` is
an expression on its own (`parseTree_wrapped`). -/
namespace SyntaxShade.Pattern

open Reader

variable {base : List Entry}

/-! ### Groups -/

theorem flagGroup_mirror (hb : NoPieceOnTop base) {s s' : Bytes} {n k : Nat} (hnk : n ≤ k) :
    ∀ {A W A' W' : Reader} {flags : Flags} {negative saw : Bool} {t r r' : Bytes}, Mirrors base A W →
      flagGroup s A n flags negative saw t = .ok (A', r) →
      flagGroup s' W k flags negative saw (t ++ closing) = .ok (W', r') →
      r' = r ++ closing ∧ Mirrors base A' W' := by
  induction n generalizing k with
  | zero => intro A W A' W' flags negative saw t r r' _ h; cases h
  | succ n ih =>
    intro A W A' W' flags negative saw t r r' hm hA hW
    obtain ⟨k, rfl⟩ : ∃ k', k = k' + 1 := ⟨k - 1, by omega⟩
    rcases t with _ | ⟨b, u⟩
    · cases hA
    simp only [flagGroup, List.cons_append] at hA hW
    obtain ⟨⟨c, t₁⟩, hc, hA⟩ := exists_ok_of_bind_eq_ok hA
    rw [← List.cons_append, nextRune_append (List.cons_ne_nil _ _) hc, ok_bind_eq] at hW
    dsimp only at hA hW
    by_cases h1 : c = 0x69
    · rw [if_pos h1] at hA hW
      exact ih (by omega) hm hA hW
    rw [if_neg h1] at hA hW
    by_cases h2 : c = 0x6D
    · rw [if_pos h2] at hA hW
      exact ih (by omega) hm hA hW
    rw [if_neg h2] at hA hW
    by_cases h3 : c = 0x73
    · rw [if_pos h3] at hA hW
      exact ih (by omega) hm hA hW
    rw [if_neg h3] at hA hW
    by_cases h4 : c = 0x55
    · rw [if_pos h4] at hA hW
      exact ih (by omega) hm hA hW
    rw [if_neg h4] at hA hW
    by_cases h5 : c = 0x2D
    · rw [if_pos h5] at hA hW
      by_cases hneg : negative = true
      · rw [if_pos hneg] at hA
        cases hA
      · rw [if_neg hneg] at hA hW
        exact ih (by omega) hm hA hW
    rw [if_neg h5] at hA hW
    by_cases h6 : c = 0x3A ∨ c = 0x29
    · rw [if_pos h6] at hA hW
      by_cases hbad : negative = true ∧ (!saw) = true
      · rw [if_pos hbad] at hA
        cases hA
      rw [if_neg hbad] at hA hW
      by_cases hcolon : c = 0x3A
      · rw [if_pos hcolon] at hA hW
        obtain ⟨A₁, hA₁, hA⟩ := exists_ok_of_bind_eq_ok hA
        obtain ⟨W₁, hW₁, hW⟩ := exists_ok_of_bind_eq_ok hW
        cases hA
        cases hW
        rw [hm.flags] at hW₁
        exact ⟨rfl, (hm.make.pushMarker hb hA₁ hW₁).setFlags flags⟩
      · rw [if_neg hcolon] at hA hW
        cases hA
        cases hW
        exact ⟨rfl, hm.setFlags flags⟩
    · rw [if_neg h6] at hA
      cases hA

theorem namedGroup_mirror (hb : NoPieceOnTop base) {A W A' W' : Reader} {s r r' : Bytes} {k : Nat}
    (hm : Mirrors base A W) (hA : namedGroup A s k = .ok (A', r)) (hW : namedGroup W (s ++ closing) k = .ok (W', r')) :
    r' = r ++ closing ∧ Mirrors base A' W' := by
  unfold namedGroup at hA hW
  cases he : s.idxOf? 0x3E with
  | none =>
    rw [he] at hA
    obtain ⟨_, -, hA⟩ := exists_ok_of_bind_eq_ok hA
    cases hA
  | some e =>
    have hlt : e < s.length := (List.idxOf?_eq_some_iff.mp he).1
    rw [he] at hA
    rw [idxOf?_append_closing he] at hW
    dsimp only at hA hW
    rw [List.take_append_of_le_length hlt.le, List.take_append_of_le_length hlt,
      List.drop_append_of_le_length hlt] at hW
    obtain ⟨_, hu, hA⟩ := exists_ok_of_bind_eq_ok hA
    rw [hu, ok_bind_eq] at hW
    split_ifs at hA hW
    obtain ⟨A₁, hA₁, hA⟩ := exists_ok_of_bind_eq_ok hA
    obtain ⟨W₁, hW₁, hW⟩ := exists_ok_of_bind_eq_ok hW
    cases hA
    cases hW
    rw [hm.flags] at hW₁
    exact ⟨rfl, hm.make.pushMarker hb hA₁ hW₁⟩

theorem perlGroup_mirror (hb : NoPieceOnTop base) {A W A' W' : Reader} {s r r' : Bytes} (hm : Mirrors base A W)
    (hA : perlGroup A s = .ok (A', r)) (hW : perlGroup W (s ++ closing) = .ok (W', r')) :
    r' = r ++ closing ∧ Mirrors base A' W' := by
  unfold perlGroup at hA hW
  cases hk : captureStart? s with
  | some k =>
    rw [hk] at hA
    rw [captureStart?_append_of_some hk] at hW
    exact namedGroup_mirror hb hm hA hW
  | none =>
    rw [hk] at hA
    cases hk' : captureStart? (s ++ closing) with
    | some k =>
      -- only `(?P<` and `(?<` take the parenthesis as a name; read alone they are no flags
      rcases captureStart?_append_of_none hk hk' with rfl | rfl <;> cases hA
    | none =>
      rw [hk'] at hW
      dsimp only at hA hW
      rcases s with _ | ⟨a, _ | ⟨b, u⟩⟩
      · cases hA
      · cases hA
      simp only [List.drop_succ_cons, List.drop_zero, List.cons_append] at hA hW
      rw [hm.flags] at hW
      exact flagGroup_mirror hb (by simp) hm hA hW

/-! ### One step of the two runs -/

/-- A Unicode class `\\p` followed by the added parenthesis reads the parenthesis as its name, to
the end of the text. -/
theorem unicodeItem_closing_rest {a b : UInt8} {i : Item} {r : Bytes} (h : unicodeItem [a, b, 0x29] = .ok (i, r)) :
    r = [] :=
  unicodeItem_rest_of_nextRune (show nextRune ([a, b, 0x29].drop 2) = .ok (0x29, []) from rfl) (by decide) h

/-- What a step that the condition read alone and the same step of the wrapped text leave: the
same text with the parenthesis after it and stacks of one structure, or, where the condition ends
inside a quotation or a class name that takes the parenthesis in, nothing left to read. -/
def StepMirror (base : List Entry) (A' W' : Reader) (r r' : Bytes) : Prop :=
  (r' = r ++ closing ∧ Mirrors base A' W') ∨ (r = [] ∧ r' = [] ∧ ∃ S, W'.stack = S ++ base)

theorem stepMirror_of_clear {A' W' : Reader} {x y : Except Error Reader} {rest r r' : Bytes}
    (hA : (x.map fun st => ({ st with lastRepeat := [] }, rest)) = .ok (A', r))
    (hW : (y.map fun st => ({ st with lastRepeat := [] }, rest ++ closing)) = .ok (W', r'))
    (h : ∀ A₁ W₁, x = .ok A₁ → y = .ok W₁ → Mirrors base A₁ W₁) : StepMirror base A' W' r r' := by
  obtain ⟨A₁, hA₁, hA⟩ := exists_ok_of_map_eq_ok hA
  obtain ⟨W₁, hW₁, hW⟩ := exists_ok_of_map_eq_ok hW
  cases hA
  cases hW
  exact .inl ⟨rfl, (h A₁ W₁ hA₁ hW₁).clear⟩

/-- A Unicode class read from the same text with the parenthesis after it: the same class, or,
where `\\p` ends the text, a class that runs to the end in both. -/
theorem stepMirror_of_unicode (hb : NoPieceOnTop base) {A W A' W' : Reader} {x : UInt8} {tail r r' : Bytes}
    (hm : Mirrors base A W)
    (hA : (do
      let p ← unicodeItem (0x5C :: x :: tail)
      (A.make.push (.charClass (classRanges [p.1] A.make.flags.fold false))).map
        fun (st : Reader) => ({ st with lastRepeat := [] }, p.2)) = .ok (A', r))
    (hW : (do
      let p ← unicodeItem (0x5C :: x :: (tail ++ closing))
      (W.make.push (.charClass (classRanges [p.1] W.make.flags.fold false))).map
        fun (st : Reader) => ({ st with lastRepeat := [] }, p.2)) = .ok (W', r')) :
    StepMirror base A' W' r r' := by
  rcases tail with _ | ⟨y, tail⟩ <;>
    obtain ⟨⟨item, r₁⟩, hu, hA⟩ := exists_ok_of_bind_eq_ok hA <;>
    obtain ⟨⟨item', r₁'⟩, hu', hW⟩ := exists_ok_of_bind_eq_ok hW <;>
    dsimp only at hA hW
  · have hr₁ : r₁ = [] := unicodeItem_rest_nil hu rfl
    have hr₁' : r₁' = [] := unicodeItem_closing_rest hu'
    obtain ⟨A₁, -, hA⟩ := exists_ok_of_map_eq_ok hA
    obtain ⟨W₁, hW₁, hW⟩ := exists_ok_of_map_eq_ok hW
    cases hA
    cases hW
    obtain ⟨S', hS'⟩ := push_floor hb (by rw [make_stack, hm.stack]) hW₁
    exact .inr ⟨hr₁, hr₁', S', hS'⟩
  · rw [← List.cons_append, ← List.cons_append, unicodeItem_append hu (List.cons_ne_nil _ _)] at hu'
    cases hu'
    simp only [make_flags] at hA hW
    rw [hm.flags] at hW
    exact stepMirror_of_clear hA hW fun A₁ W₁ hA₁ hW₁ => hm.make.push hb hA₁ hW₁

theorem stepMirror_of_repeatTop {A W A' W' : Reader} {rep : Repetition} {op op' rest x x' : Bytes}
    (hm : Mirrors base A W) (hA : A.repeatTop rep op rest = .ok (A', x))
    (hW : W.repeatTop rep op' (rest ++ closing) = .ok (W', x')) (hop : op ≠ []) (hop' : op' ≠ []) :
    StepMirror base A' W' x x' := by
  obtain ⟨-, -, -, -, hx⟩ := repeatTop_stack hA
  obtain ⟨-, -, -, -, hx'⟩ := repeatTop_stack hW
  exact .inl ⟨by rw [hx, hx', skipLazy_append], hm.repeatTop (lazyAfter_append _ _) hA hW hop hop'⟩

/-- A group opened in both runs: a named capture or a flag group after `(?`, else a capture. -/
theorem stepMirror_of_group (hb : NoPieceOnTop base) {A W A' W' : Reader} {rest r r' : Bytes}
    (hm : Mirrors base A W) (hA : step A (0x28 :: rest) = .ok (A', r))
    (hW : step W (0x28 :: rest ++ closing) = .ok (W', r')) : StepMirror base A' W' r r' := by
  unfold step at hA hW
  simp only [List.cons_append] at hW
  dsimp only at hA hW
  simp +decide only [↓reduceIte] at hA hW
  rcases rest with _ | ⟨x, v⟩
  · rw [if_neg (by decide)] at hA hW
    exact stepMirror_of_clear hA hW fun A₁ W₁ hA₁ hW₁ =>
      hm.make.pushMarker hb hA₁ (by rwa [hm.flags] at hW₁)
  simp only [List.cons_append, List.head?_cons, Option.some.injEq] at hA hW
  by_cases hx : x = 0x3F
  · rw [if_pos hx] at hA hW
    obtain ⟨⟨A₁, r₁⟩, hA₁, hA⟩ := exists_ok_of_bind_eq_ok hA
    obtain ⟨⟨W₁, r₁'⟩, hW₁, hW⟩ := exists_ok_of_bind_eq_ok hW
    rw [← List.cons_append, ← List.cons_append] at hW₁
    obtain ⟨rfl, hm₁⟩ := perlGroup_mirror hb hm hA₁ hW₁
    cases hA
    cases hW
    exact .inl ⟨rfl, hm₁.clear⟩
  · rw [if_neg hx] at hA hW
    exact stepMirror_of_clear hA hW fun A₁ W₁ hA₁ hW₁ =>
      hm.make.pushMarker hb hA₁ (by rwa [hm.flags] at hW₁)

/-- An escape read in both runs: the same assertion, class or rune with the parenthesis after it,
or a quotation or a Unicode class that the parenthesis ends. -/
theorem stepMirror_of_escape (hb : NoPieceOnTop base) {A W A' W' : Reader} {rest r r' : Bytes}
    (hm : Mirrors base A W) (hA : step A (0x5C :: rest) = .ok (A', r))
    (hW : step W (0x5C :: rest ++ closing) = .ok (W', r')) : StepMirror base A' W' r r' := by
  unfold step at hA hW
  simp only [List.cons_append] at hW
  dsimp only at hA hW
  simp +decide only [↓reduceIte] at hA hW
  split at hA
  · simp only [List.cons_append] at hW
    exact stepMirror_of_clear hA hW fun A₁ W₁ hA₁ hW₁ => hm.op hb hA₁ hW₁
  · simp only [List.cons_append] at hW
    exact stepMirror_of_clear hA hW fun A₁ W₁ hA₁ hW₁ => hm.op hb hA₁ hW₁
  · simp only [List.cons_append] at hW
    exact stepMirror_of_clear hA hW fun A₁ W₁ hA₁ hW₁ => hm.op hb hA₁ hW₁
  · cases hA
  · simp only [List.cons_append] at hW
    exact stepMirror_of_clear hA hW fun A₁ W₁ hA₁ hW₁ => hm.op hb hA₁ hW₁
  · rename_i q
    simp only [List.cons_append] at hW
    rcases untilQuoteEnd_append q with hq | ⟨hq, hq'⟩
    · rw [hq] at hW
      exact stepMirror_of_clear hA hW fun A₁ W₁ hA₁ hW₁ => hm.pushLiterals hb hA₁ hW₁
    · rw [hq] at hA
      rw [hq'] at hW
      obtain ⟨A₁, -, hA⟩ := exists_ok_of_map_eq_ok hA
      obtain ⟨W₁, hW₁, hW⟩ := exists_ok_of_map_eq_ok hW
      cases hA
      cases hW
      dsimp only at hW₁
      obtain ⟨S', hS'⟩ := pushLiterals_floor hb hm.stack hW₁
      exact .inr ⟨rfl, rfl, S', hS'⟩
  · simp only [List.cons_append] at hW
    exact stepMirror_of_unicode hb hm hA hW
  · simp only [List.cons_append] at hW
    exact stepMirror_of_unicode hb hm hA hW
  · rename_i _ h1 h2 h3 h4 h5 h6 h7 h8
    rcases rest with _ | ⟨x, v⟩
    · rw [show perlItem? [0x5C] = none from rfl] at hA
      obtain ⟨_, he, -⟩ := exists_ok_of_bind_eq_ok hA
      cases he
    have hx1 : x ≠ 0x41 := fun h => h1 v (by rw [h])
    have hx2 : x ≠ 0x62 := fun h => h2 v (by rw [h])
    have hx3 : x ≠ 0x42 := fun h => h3 v (by rw [h])
    have hx4 : x ≠ 0x43 := fun h => h4 v (by rw [h])
    have hx5 : x ≠ 0x7A := fun h => h5 v (by rw [h])
    have hx6 : x ≠ 0x51 := fun h => h6 v (by rw [h])
    have hx7 : x ≠ 0x70 := fun h => h7 v (by rw [h])
    have hx8 : x ≠ 0x50 := fun h => h8 v (by rw [h])
    simp only [List.cons_append] at hW
    simp only [List.cons.injEq, false_and, imp_self, implies_true, hx1, hx2, hx3, hx4, hx5, hx6, hx7,
      hx8] at hW
    rw [← List.cons_append, ← List.cons_append, perlItem?_append] at hW
    cases hpi : perlItem? (0x5C :: x :: v) with
    | some p =>
      obtain ⟨item, r₁⟩ := p
      rw [hpi] at hA hW
      dsimp only [Option.map_some] at hA hW
      simp only [make_flags] at hA hW
      rw [hm.flags] at hW
      exact stepMirror_of_clear hA hW fun A₁ W₁ hA₁ hW₁ => hm.make.push hb hA₁ hW₁
    | none =>
      rw [hpi] at hA hW
      dsimp only [Option.map_none] at hA hW
      obtain ⟨⟨c, r₁⟩, he, hA⟩ := exists_ok_of_bind_eq_ok hA
      rw [escape_append he, ok_bind_eq] at hW
      exact stepMirror_of_clear hA hW fun A₁ W₁ hA₁ hW₁ => (hm.make.giveUp 1).literal hb hA₁ hW₁

theorem step_mirror (hb : Floor base) {A W A' W' : Reader} {t r r' : Bytes} (hm : Mirrors base A W)
    (ht : t ≠ []) (hA : step A t = .ok (A', r)) (hW : step W (t ++ closing) = .ok (W', r')) :
    StepMirror base A' W' r r' := by
  rcases t with _ | ⟨b, rest⟩
  · exact absurd rfl ht
  have hb' := hb.noPieceOnTop
  by_cases h28 : b = 0x28
  · subst h28
    exact stepMirror_of_group hb' hm hA hW
  by_cases h5C : b = 0x5C
  · subst h5C
    exact stepMirror_of_escape hb' hm hA hW
  unfold step at hA hW
  simp only [List.cons_append] at hW
  dsimp only at hA hW
  rw [if_neg h28] at hA hW
  by_cases h7C : b = 0x7C
  · rw [if_pos h7C] at hA hW
    exact stepMirror_of_clear hA hW fun A₁ W₁ hA₁ hW₁ => hm.readBar hb hA₁ hW₁
  rw [if_neg h7C] at hA hW
  by_cases h29 : b = 0x29
  · rw [if_pos h29] at hA hW
    exact stepMirror_of_clear hA hW fun A₁ W₁ hA₁ hW₁ => hm.closeGroup hb hA₁ hW₁
  rw [if_neg h29] at hA hW
  by_cases h5E : b = 0x5E
  · rw [if_pos h5E] at hA hW
    exact stepMirror_of_clear hA hW fun A₁ W₁ hA₁ hW₁ => hm.op hb' hA₁ (by rwa [hm.flags] at hW₁)
  rw [if_neg h5E] at hA hW
  by_cases h24 : b = 0x24
  · rw [if_pos h24] at hA hW
    exact stepMirror_of_clear hA hW fun A₁ W₁ hA₁ hW₁ => hm.op hb' hA₁ (by rwa [hm.flags] at hW₁)
  rw [if_neg h24] at hA hW
  by_cases h2E : b = 0x2E
  · rw [if_pos h2E] at hA hW
    exact stepMirror_of_clear hA hW fun A₁ W₁ hA₁ hW₁ => hm.op hb' hA₁ (by rwa [hm.flags] at hW₁)
  rw [if_neg h2E] at hA hW
  by_cases h5B : b = 0x5B
  · rw [if_pos h5B] at hA hW
    obtain ⟨⟨rs, r₁⟩, hbr, hA⟩ := exists_ok_of_bind_eq_ok hA
    simp only [make_flags] at hbr hW
    rw [hm.flags, ← List.cons_append, bracket_append hbr, ok_bind_eq] at hW
    exact stepMirror_of_clear hA hW fun A₁ W₁ hA₁ hW₁ => hm.make.push hb' hA₁ hW₁
  rw [if_neg h5B] at hA hW
  by_cases h2A : b = 0x2A
  · rw [if_pos h2A] at hA hW
    exact stepMirror_of_repeatTop hm hA hW (List.cons_ne_nil _ _) (List.cons_ne_nil _ _)
  rw [if_neg h2A] at hA hW
  by_cases h2B : b = 0x2B
  · rw [if_pos h2B] at hA hW
    exact stepMirror_of_repeatTop hm hA hW (List.cons_ne_nil _ _) (List.cons_ne_nil _ _)
  rw [if_neg h2B] at hA hW
  by_cases h3F : b = 0x3F
  · rw [if_pos h3F] at hA hW
    exact stepMirror_of_repeatTop hm hA hW (List.cons_ne_nil _ _) (List.cons_ne_nil _ _)
  rw [if_neg h3F] at hA hW
  by_cases h7B : b = 0x7B
  · rw [if_pos h7B] at hA hW
    rw [← List.cons_append, readBounds_append] at hW
    cases hrb : readBounds (b :: rest) with
    | none =>
      rw [hrb] at hA hW
      exact stepMirror_of_clear hA hW fun A₁ W₁ hA₁ hW₁ => hm.literal hb' hA₁ hW₁
    | some p =>
      obtain ⟨⟨lo, hi⟩, after⟩ := p
      rw [hrb] at hA hW
      dsimp only [Option.map_some] at hA hW
      split_ifs at hA hW
      exact stepMirror_of_repeatTop hm hA hW (List.cons_ne_nil _ _) (List.cons_ne_nil _ _)
  rw [if_neg h7B, if_neg h5C] at hA hW
  obtain ⟨⟨c, r₁⟩, hc, hA⟩ := exists_ok_of_bind_eq_ok hA
  rw [← List.cons_append, nextRune_append (List.cons_ne_nil _ _) hc, ok_bind_eq] at hW
  exact stepMirror_of_clear hA hW fun A₁ W₁ hA₁ hW₁ => hm.literal hb' hA₁ hW₁

/-! ### The whole run -/

theorem floor_group (f : Flags) (cap : Bool) (below : List Entry) : Floor (.group f cap :: below) := by
  intro e he
  exact ⟨f, cap, (Option.some.inj he).symm⟩

theorem endAlternation_floor {base S : List Entry} (hb : Floor base) {st st₁ : Reader}
    (hs : st.stack = S ++ base) (h : st.endAlternation = .ok st₁) :
    ∃ v S', st₁.stack = .piece v :: (S' ++ base) := by
  obtain ⟨u, v, hs₁, -, -⟩ := endAlternation_stack h
  refine ⟨v, (splitTop (afterBar u (splitTop (joinEntries S)).2)).2, ?_⟩
  rw [hs₁, hs, joinEntries_append hb.noPieceOnTop]
  simp only [splitTop]
  rw [splitTop_go_append _ _ hb.noPieceOnTop, afterBar_append u _ hb, splitTop_go_append _ _ hb.noPieceOnTop]

theorem finish_ne_of_floor {f : Flags} {cap : Bool} {below S : List Entry} {st : Reader} {T : Tree}
    (hs : st.stack = S ++ .group f cap :: below) : st.finish ≠ .ok T := by
  intro h
  obtain ⟨st₁, h₁, hs₁⟩ := finish_stack h
  obtain ⟨v, S', hs'⟩ := endAlternation_floor (floor_group f cap below) hs h₁
  rw [hs₁, List.cons.injEq] at hs'
  have := congrArg List.length hs'.2
  simp only [List.length_nil, List.length_append, List.length_cons] at this
  omega

/-- Where the condition read alone can be finished, the parenthesis after it in the wrapped text
closes the wrapping group. -/
theorem closeGroup_of_finish {f : Flags} {cap : Bool} {below : List Entry} {A W W₂ : Reader} {T : Tree}
    (hm : Mirrors (.group f cap :: below) A W) (hA : A.finish = .ok T) (hW : W.closeGroup = .ok W₂) :
    W₂.stack = .piece (pushedPiece (if cap then .capture T else T)) :: joinEntries below := by
  obtain ⟨A₁, hA₁, hA₁s⟩ := finish_stack hA
  obtain ⟨W₁, hW₁, t, saved, capturing, rest, hW₁s, hW₂s, -, -⟩ := closeGroup_stack hW
  have hs := (hm.endAlternation (floor_group f cap below) hA₁ hW₁).stack
  rw [hW₁s, hA₁s] at hs
  simp only [List.cons_append, List.nil_append, List.cons.injEq, Entry.piece.injEq, Entry.group.injEq] at hs
  obtain ⟨rfl, ⟨rfl, rfl⟩, rfl⟩ := hs
  exact hW₂s

theorem loop_nil (k : Nat) (st : Reader) : loop (k + 1) st [] = st.finish := rfl

theorem loop_cons (k : Nat) (st : Reader) (b : UInt8) (u : Bytes) :
    loop (k + 1) st (b :: u) = step st (b :: u) >>= fun p => loop k p.1 p.2 := rfl

theorem step_closing (st : Reader) :
    step st closing = st.closeGroup.map fun st => ({ st with lastRepeat := [] }, []) := rfl

/-- The condition read alone, and the same text inside the wrapping group, in step: when the first
run ends, the second one's parenthesis has closed the wrapping group, and the tree it gives is
what the stack left then finishes to. -/
theorem loop_mirror {f : Flags} {cap : Bool} {below : List Entry} :
    ∀ {n m : Nat} {A W : Reader} {t : Bytes} {T T' : Tree}, n < m →
      Mirrors (.group f cap :: below) A W → loop n A t = .ok T → loop m W (t ++ closing) = .ok T' →
      ∃ W₁ : Reader, W₁.stack = .piece (pushedPiece (if cap then .capture T else T)) :: joinEntries below ∧
        W₁.finish = .ok T' := by
  intro n
  induction n with
  | zero => intro m A W t T T' _ _ hA; cases hA
  | succ n ih =>
    intro m A W t T T' hnm hm hA hW
    obtain ⟨m, rfl⟩ : ∃ m', m = m' + 1 := ⟨m - 1, by omega⟩
    obtain ⟨m, rfl⟩ : ∃ m', m = m' + 1 := ⟨m - 1, by omega⟩
    rcases t with _ | ⟨b, u⟩
    · rw [loop_nil] at hA
      rw [List.nil_append, loop_cons, step_closing] at hW
      obtain ⟨⟨W₁, r₁⟩, hs, hW⟩ := exists_ok_of_bind_eq_ok hW
      obtain ⟨W₂, hW₂, hW₁⟩ := exists_ok_of_map_eq_ok hs
      cases hW₁
      have hw := closeGroup_of_finish hm hA hW₂
      exact ⟨{ W₂ with lastRepeat := [] }, hw, hW⟩
    · rw [loop_cons] at hA
      rw [List.cons_append, loop_cons, ← List.cons_append] at hW
      obtain ⟨⟨A₁, r₁⟩, hsA, hA⟩ := exists_ok_of_bind_eq_ok hA
      obtain ⟨⟨W₁, r₁'⟩, hsW, hW⟩ := exists_ok_of_bind_eq_ok hW
      rcases step_mirror (floor_group f cap below) hm (List.cons_ne_nil b u) hsA hsW with
        ⟨rfl, hm₁⟩ | ⟨-, rfl, S, hS⟩
      · exact ih (by omega) hm₁ hA hW
      · exact absurd hW (finish_ne_of_floor hS)

/-! ### The opening and the end of the wrapped text -/

theorem step_caret (st : Reader) (rest : Bytes) :
    step st (0x5E :: rest) =
      (st.op (.assert (if st.flags.multiLine then .lineStart else .textStart))).map
        fun st => ({ st with lastRepeat := [] }, rest) := rfl

theorem step_open_group (st : Reader) (rest : Bytes) :
    step st (0x28 :: 0x3F :: 0x3A :: rest) =
      (st.make.pushMarker (.group st.flags false) >>= fun st' => pure ({ st' with flags := st.flags }, rest)) >>=
        fun p => pure ({ p.1 with lastRepeat := [] }, p.2) := rfl

theorem ofString_open : Bytes.ofString "^(?:" = [0x5E, 0x28, 0x3F, 0x3A] := by decide +kernel

theorem ofString_close : Bytes.ofString ")" = closing := by decide +kernel

theorem loop_open {k : Nat} {st : Reader} {rest : Bytes} {T : Tree} (hs : st.stack = [])
    (hml : st.flags.multiLine = false)
    (h : loop (k + 2) st (0x5E :: 0x28 :: 0x3F :: 0x3A :: rest) = .ok T) :
    ∃ W, W.stack = [.group st.flags false, .piece (.assert .textStart)] ∧ W.flags = st.flags ∧
      W.lastRepeat = [] ∧ loop k W rest = .ok T := by
  rw [loop_cons, step_caret, hml, if_neg Bool.false_ne_true] at h
  obtain ⟨⟨W₁, r₁⟩, h₁, h⟩ := exists_ok_of_bind_eq_ok h
  obtain ⟨W₁', hop, hW₁⟩ := exists_ok_of_map_eq_ok h₁
  cases hW₁
  have hs₁ : W₁'.stack = [.piece (.assert .textStart)] := by
    rw [(op_stack hop).1, hs]
    rfl
  have hf₁ : W₁'.flags = st.flags := (op_stack hop).2.1
  rw [loop_cons, step_open_group] at h
  obtain ⟨⟨W₂, r₂⟩, h₂, h⟩ := exists_ok_of_bind_eq_ok h
  obtain ⟨⟨W₃, r₃⟩, h₃, h₂⟩ := exists_ok_of_bind_eq_ok h₂
  obtain ⟨W₄, hpm, h₃⟩ := exists_ok_of_bind_eq_ok h₃
  cases h₃
  cases h₂
  obtain ⟨hs₄, -, -⟩ := pushMarker_stack hpm
  refine ⟨_, ?_, ?_, rfl, h⟩ <;> dsimp only
  · rw [hs₄, make_stack, hs₁, hf₁]
    rfl
  · exact hf₁

theorem splitTop_pair (w a : Tree) : splitTop [.piece w, .piece a] = ([a, w], []) := rfl

theorem factorFuel_succ (subs : List Tree) : factorFuel subs = (8 * Tree.totalSize subs + 15) + 1 := rfl

theorem collapse_concat (st : Reader) (a b : Tree) (rest : List Tree) (fuel : Nat) :
    collapse st false (a :: b :: rest) (fuel + 1) =
      .ok (st.make.giveUp (flatten false (a :: b :: rest)).2, .concat (flatten false (a :: b :: rest)).1) :=
  rfl

theorem concat_after_anchor {st st' : Reader} {w : Tree}
    (hs : st.stack = [.piece w, .piece (.assert .textStart)]) (h : st.concat = .ok st') :
    st'.stack = [.piece (.concat (.assert .textStart :: (flatten false [w]).1))] := by
  unfold concat at h
  have hj : st.joinTop.stack = [.piece w, .piece (.assert .textStart)] := by
    rw [joinTop_stack, hs]
    exact joinEntries_of_not_pair (by simp)
  simp only [hj, splitTop_pair, factorFuel_succ, collapse_concat, ok_bind_eq] at h
  rw [(push_stack h).1]
  simp only [giveUp, make_stack]
  rfl

theorem swapBar_of_single {st : Reader} {t : Tree} (hs : st.stack = [.piece t]) : st.swapBar = (st, false) := by
  unfold swapBar
  rw [hs]

theorem collapse_single (st : Reader) (alt : Bool) (t : Tree) (fuel : Nat) :
    collapse st alt [t] (fuel + 1) = .ok (st, t) := rfl

theorem alternate_of_single {st st' : Reader} {t : Tree} (hs : st.stack = [.piece t]) (ht : t.tidy = t)
    (hsg : t.single? = none) (h : st.alternate = .ok st') : st'.stack = [.piece t] := by
  unfold alternate at h
  simp only [hs, show splitTop [.piece t] = ([t], []) from rfl, List.getLast?_singleton,
    List.dropLast_singleton, List.nil_append, ht, factorFuel_succ, collapse_single, ok_bind_eq] at h
  rw [(push_stack h).1]
  simp only [pushedPiece, hsg]
  rfl

theorem finish_after_anchor {W : Reader} {w T : Tree}
    (hs : W.stack = [.piece w, .piece (.assert .textStart)]) (h : W.finish = .ok T) :
    T = .concat (.assert .textStart :: (flatten false [w]).1) := by
  unfold finish at h
  obtain ⟨s₁, h₁, h⟩ := exists_ok_of_bind_eq_ok h
  unfold endAlternation at h₁
  obtain ⟨s₂, h₂, h₁⟩ := exists_ok_of_bind_eq_ok h₁
  have hs₂ := concat_after_anchor hs h₂
  rw [swapBar_of_single hs₂] at h₁
  rw [alternate_of_single hs₂ rfl rfl h₁] at h
  cases h
  rfl

theorem parseTree_wrapped {c : Bytes} {T T' : Tree} (hc : parseTree c = .ok T)
    (h : parseTree ([0x5E, 0x28, 0x3F, 0x3A] ++ c ++ closing) = .ok T') :
    T' = .concat (.assert .textStart :: (flatten false [pushedPiece T]).1) := by
  unfold parseTree at hc h
  have hlen : ([0x5E, 0x28, 0x3F, 0x3A] ++ c ++ closing).length + 1 = (c.length + 4) + 2 := by
    simp only [List.length_append, List.length_cons, List.length_nil, closing]
    omega
  rw [hlen, List.append_assoc] at h
  obtain ⟨W, hWs, hWf, hWl, hW⟩ := loop_open rfl rfl h
  have hm : Mirrors [.group {} false, .piece (.assert .textStart)] { whole := c } W :=
    ⟨by rw [hWs]; rfl, hWf, iff_of_true hWl rfl⟩
  obtain ⟨W₁, hW₁, hfin⟩ := loop_mirror (by omega) hm hc hW
  exact finish_after_anchor hW₁ hfin

/-! ### What the wrapped tree matches -/

/-- The piece that `push` puts on the stack for a tree is the same expression: a class of one
rune, or of a case pair, is that rune as a literal. -/
theorem toNode_pushedPiece (t : Tree) : (pushedPiece t).toNode = t.toNode := by
  unfold pushedPiece
  split
  · next c fold hs =>
    show Node.char (CharSet.single c fold) = t.toNode
    unfold Tree.single? at hs
    split at hs
    · next a b =>
      split_ifs at hs with hab horb
      · cases hs
        subst hab
        rfl
      · cases hs
        simp only [Bool.and_eq_true, decide_eq_true_eq, beq_iff_eq] at horb
        simp only [CharSet.single, if_true, horb.2]
        rfl
    · next a a' b b' =>
      split_ifs at hs with hab
      cases hs
      simp only [Bool.and_eq_true, decide_eq_true_eq, beq_iff_eq] at hab
      obtain ⟨⟨rfl, rfl⟩, horb⟩ := hab
      simp only [CharSet.single, if_true, horb]
      rfl
    · cases hs
  · rfl

theorem ends_concat_flatten (subj : Subject) (u : Tree) (s : Positions) :
    Node.ends subj (.concat (Tree.toNodes (flatten false [u]).1)) s = Node.ends subj u.toNode s := by
  cases u with
  | concat subs => simp only [flatten, List.append_nil, Tree.toNode]
  | _ => simp only [flatten, Tree.toNodes, Node.ends, Node.endsSeq]

end SyntaxShade.Pattern
