import SyntaxShade.Proofs.Pattern.Stack
/-! Two runs of the expression reader in step (`Mirrors`), one above a group marker: every operation
keeps them so, and both build the same trees. -/
namespace SyntaxShade.Pattern.Reader

/-- Two states of the reader in step: the second one's stack is the first one's on the bottom
`base`, both read under the same flags, and each may repeat its top exactly when the other may. -/
structure Mirrors (base : List Entry) (A W : Reader) : Prop where
  stack : W.stack = A.stack ++ base
  flags : W.flags = A.flags
  lastRepeat : W.lastRepeat = [] ↔ A.lastRepeat = []

theorem swapBar_true {st : Reader} (h : st.swapBar.2 = true) : ∃ rest, st.swapBar.1.stack = .bar :: rest := by
  unfold swapBar at h ⊢
  split at h
  · split
    · exact ⟨_, rfl⟩
    · exact ⟨_, rfl⟩
  · exact ⟨_, rfl⟩
  · cases h

section Frame

variable {base : List Entry} {st₁ st₂ st₁' st₂' : Reader}

/-- The same piece pushed on a stack and on that stack over the bottom `base`. -/
theorem push_frame (hb : NoPieceOnTop base) {t : Tree} (hs : st₂.stack = st₁.stack ++ base)
    (h₁ : st₁.push t = .ok st₁') (h₂ : st₂.push t = .ok st₂') : st₂'.stack = st₁'.stack ++ base := by
  rw [(push_stack h₁).1, (push_stack h₂).1, hs, joinEntries_append hb]
  rfl

/-- The same pieces joined and pushed on a stack and on that stack over the bottom `base`: both
runs build the same tree, on stacks that factoring leaves as they are. -/
theorem collapse_push_frame (hb : NoPieceOnTop base) {alt : Bool} {subs : List Tree} {fuel : Nat}
    (hs : st₂.stack = st₁.stack ++ base)
    (h₁ : (collapse st₁ alt subs fuel >>= fun p => p.1.push p.2) = .ok st₁')
    (h₂ : (collapse st₂ alt subs fuel >>= fun p => p.1.push p.2) = .ok st₂') :
    st₂'.stack = st₁'.stack ++ base := by
  obtain ⟨⟨a₁, t₁⟩, hc₁, h₁⟩ := exists_ok_of_bind_eq_ok h₁
  obtain ⟨⟨a₂, t₂⟩, hc₂, h₂⟩ := exists_ok_of_bind_eq_ok h₂
  obtain rfl := (factoring_tree_eq _).1 _ _ _ _ _ _ _ _ hc₁ hc₂
  refine push_frame hb ?_ h₁ h₂
  rw [((sameStack_of_factoring _).1 _ _ _ _ _ hc₁).stack, ((sameStack_of_factoring _).1 _ _ _ _ _ hc₂).stack,
    hs]

end Frame

namespace Mirrors

variable {base : List Entry} {A W A' W' : Reader}

theorem make (h : Mirrors base A W) : Mirrors base A.make W.make :=
  ⟨by rw [make_stack, make_stack]; exact h.stack, by rw [make_flags, make_flags]; exact h.flags,
    by rw [make_lastRepeat, make_lastRepeat]; exact h.lastRepeat⟩

theorem clear (h : Mirrors base A W) :
    Mirrors base { A with lastRepeat := [] } { W with lastRepeat := [] } :=
  ⟨h.stack, h.flags, Iff.rfl⟩

theorem setFlags (h : Mirrors base A W) (f : Flags) :
    Mirrors base { A with flags := f } { W with flags := f } :=
  ⟨h.stack, rfl, h.lastRepeat⟩

theorem giveUp (h : Mirrors base A W) (k : Nat) : Mirrors base (A.giveUp k) (W.giveUp k) :=
  ⟨h.stack, h.flags, h.lastRepeat⟩

theorem push (hb : NoPieceOnTop base) (h : Mirrors base A W) {t : Tree} (hA : A.push t = .ok A')
    (hW : W.push t = .ok W') : Mirrors base A' W' := by
  obtain ⟨-, hAf, hAl⟩ := push_stack hA
  obtain ⟨-, hWf, hWl⟩ := push_stack hW
  exact ⟨push_frame hb h.stack hA hW, by rw [hAf, hWf, h.flags], by rw [hAl, hWl]; exact h.lastRepeat⟩

theorem op (hb : NoPieceOnTop base) (h : Mirrors base A W) {t : Tree} (hA : A.op t = .ok A')
    (hW : W.op t = .ok W') : Mirrors base A' W' :=
  h.make.push hb hA hW

theorem literal (hb : NoPieceOnTop base) (h : Mirrors base A W) {c : Nat} (hA : A.literal c = .ok A')
    (hW : W.literal c = .ok W') : Mirrors base A' W' := by
  unfold Reader.literal at hA hW
  rw [h.flags] at hW
  split at hA
  · next hf =>
    rw [if_pos hf] at hW
    exact h.make.push hb hA hW
  · next hf =>
    rw [if_neg hf] at hW
    exact h.make.push hb hA hW

theorem pushMarker (hb : NoPieceOnTop base) (h : Mirrors base A W) {e : Entry}
    (hA : A.pushMarker e = .ok A') (hW : W.pushMarker e = .ok W') : Mirrors base A' W' := by
  obtain ⟨hAs, hAf, hAl⟩ := pushMarker_stack hA
  obtain ⟨hWs, hWf, hWl⟩ := pushMarker_stack hW
  refine ⟨?_, by rw [hAf, hWf, h.flags], by rw [hAl, hWl]; exact h.lastRepeat⟩
  rw [hAs, hWs, h.stack, joinEntries_append hb]
  rfl

theorem concat (hb : NoPieceOnTop base) (h : Mirrors base A W) (hA : A.concat = .ok A')
    (hW : W.concat = .ok W') : Mirrors base A' W' := by
  obtain ⟨-, -, hAf, hAl⟩ := concat_stack hA
  obtain ⟨-, -, hWf, hWl⟩ := concat_stack hW
  refine ⟨?_, by rw [hAf, hWf, h.flags], by rw [hAl, hWl]; exact h.lastRepeat⟩
  unfold Reader.concat at hA hW
  dsimp only at hA hW
  have hsplit : splitTop W.joinTop.stack =
      ((splitTop A.joinTop.stack).1, (splitTop A.joinTop.stack).2 ++ base) := by
    rw [joinTop_stack, joinTop_stack, h.stack, joinEntries_append hb, splitTop_append _ hb]
  rw [hsplit] at hW
  dsimp only at hW
  split at hA
  · next hnil =>
    rw [hnil] at hW
    exact push_frame hb (by rw [make_stack, make_stack]) hA hW
  · next hne =>
    split at hW
    · next hnil => exact absurd hnil hne
    · exact collapse_push_frame hb rfl hA hW

theorem alternate (hb : NoPieceOnTop base) (h : Mirrors base A W) (hA : A.alternate = .ok A')
    (hW : W.alternate = .ok W') : Mirrors base A' W' := by
  obtain ⟨-, -, hAf, hAl⟩ := alternate_stack hA
  obtain ⟨-, -, hWf, hWl⟩ := alternate_stack hW
  refine ⟨?_, by rw [hAf, hWf, h.flags], by rw [hAl, hWl]; exact h.lastRepeat⟩
  unfold Reader.alternate at hA hW
  dsimp only at hA hW
  rw [h.stack, splitTop_append _ hb] at hW
  dsimp only at hW
  split at hA
  · next hnil =>
    rw [hnil] at hW
    exact push_frame hb (by rw [make_stack, make_stack]) hA hW
  · next hne =>
    split at hW
    · next hnil => exact absurd hnil hne
    · exact collapse_push_frame hb rfl hA hW

/-- The bar step on both runs: the bottom starts with a group marker, so the second run finds a
bar below its top exactly where the first one does. -/
theorem swapBar (hb : Floor base) (h : Mirrors base A W) {a : Tree} {below : List Entry}
    (hA : A.stack = .piece a :: below) : W.swapBar.2 = A.swapBar.2 ∧ Mirrors base A.swapBar.1 W.swapBar.1 := by
  have hW : W.stack = .piece a :: (below ++ base) := by rw [h.stack, hA]; rfl
  by_cases hbar : below.head? = some .bar
  · obtain ⟨rest, rfl⟩ := List.head?_eq_some_iff.mp hbar
    obtain ⟨hA₁, hA₂, hA₃, hA₄⟩ := swapBar_of_bar hA
    have hW' : W.stack = .piece a :: .bar :: (rest ++ base) := hW
    obtain ⟨hW₁, hW₂, hW₃, hW₄⟩ := swapBar_of_bar hW'
    refine ⟨hW₁.trans hA₁.symm, ?_, by rw [hW₃, hA₃, h.flags], by rw [hW₄, hA₄]; exact h.lastRepeat⟩
    rw [hW₂, hA₂, barBelow_append _ _ hb.noPieceOnTop]
    rfl
  · have hWbar : (below ++ base).head? ≠ some .bar := by
      cases below with
      | cons e rest => exact hbar
      | nil =>
        intro he
        obtain ⟨f, c, hfc⟩ := hb _ he
        cases hfc
    rw [swapBar_of_not_bar hA hbar, swapBar_of_not_bar hW hWbar]
    exact ⟨rfl, h⟩

theorem dropTop (h : Mirrors base A W) (hne : A.stack ≠ []) :
    Mirrors base { A with stack := A.stack.drop 1 } { W with stack := W.stack.drop 1 } :=
  ⟨by rw [h.stack]; exact List.drop_append_of_le_length (List.length_pos_iff.mpr hne), h.flags,
    h.lastRepeat⟩

theorem readBar (hb : Floor base) (h : Mirrors base A W) (hA : A.readBar = .ok A')
    (hW : W.readBar = .ok W') : Mirrors base A' W' := by
  unfold Reader.readBar at hA hW
  obtain ⟨A₁, hA₁, hA⟩ := exists_ok_of_bind_eq_ok hA
  obtain ⟨W₁, hW₁, hW⟩ := exists_ok_of_bind_eq_ok hW
  obtain ⟨a, hs, -⟩ := concat_stack hA₁
  obtain ⟨hswap, h₂⟩ := (h.concat hb.noPieceOnTop hA₁ hW₁).swapBar hb hs
  rcases hsA : A₁.swapBar with ⟨A₂, _ | _⟩ <;> rcases hsW : W₁.swapBar with ⟨W₂, _ | _⟩ <;>
    rw [hsA, hsW] at hswap h₂ <;> rw [hsA] at hA <;> rw [hsW] at hW <;> cases hswap
  · exact h₂.make.pushMarker hb.noPieceOnTop hA hW
  · cases hA
    cases hW
    exact h₂

theorem endAlternation (hb : Floor base) (h : Mirrors base A W) (hA : A.endAlternation = .ok A')
    (hW : W.endAlternation = .ok W') : Mirrors base A' W' := by
  unfold Reader.endAlternation at hA hW
  obtain ⟨A₁, hA₁, hA⟩ := exists_ok_of_bind_eq_ok hA
  obtain ⟨W₁, hW₁, hW⟩ := exists_ok_of_bind_eq_ok hW
  obtain ⟨a, hs, -⟩ := concat_stack hA₁
  obtain ⟨hswap, h₂⟩ := (h.concat hb.noPieceOnTop hA₁ hW₁).swapBar hb hs
  rcases hsA : A₁.swapBar with ⟨A₂, _ | _⟩ <;> rcases hsW : W₁.swapBar with ⟨W₂, _ | _⟩ <;>
    rw [hsA, hsW] at hswap h₂ <;> rw [hsA] at hA <;> rw [hsW] at hW <;> cases hswap
  · exact h₂.alternate hb.noPieceOnTop hA hW
  · have htrue : A₁.swapBar.2 = true := by rw [hsA]
    obtain ⟨rest, hbar⟩ := swapBar_true htrue
    rw [hsA] at hbar
    exact (h₂.dropTop (by rw [hbar]; exact List.cons_ne_nil _ _)).alternate hb.noPieceOnTop hA hW

theorem closeGroup (hb : Floor base) (h : Mirrors base A W) (hA : A.closeGroup = .ok A')
    (hW : W.closeGroup = .ok W') : Mirrors base A' W' := by
  unfold Reader.closeGroup at hA hW
  obtain ⟨A₁, hA₁, hA⟩ := exists_ok_of_bind_eq_ok hA
  obtain ⟨W₁, hW₁, hW⟩ := exists_ok_of_bind_eq_ok hW
  have h₁ := h.endAlternation hb hA₁ hW₁
  split at hA
  · next t saved cap rest hs =>
    have hs' : W₁.stack = .piece t :: .group saved cap :: (rest ++ base) := by rw [h₁.stack, hs]; rfl
    rw [hs'] at hW
    dsimp only at hW
    exact (⟨rfl, rfl, h₁.lastRepeat⟩ : Mirrors base { A₁ with stack := rest, flags := saved }
      { W₁ with stack := rest ++ base, flags := saved }).push hb.noPieceOnTop hA hW
  · cases hA

theorem repeatTop (h : Mirrors base A W) {r : Repetition} {op op' after after' x x' : Bytes}
    (hlazy : lazyAfter A.flags after' = lazyAfter A.flags after) (hA : A.repeatTop r op after = .ok (A', x))
    (hW : W.repeatTop r op' after' = .ok (W', x')) (hop : op ≠ []) (hop' : op' ≠ []) :
    Mirrors base A' W' := by
  obtain ⟨-, ⟨t, rest, hAs, hA's⟩, hAf, hAl, -⟩ := repeatTop_stack hA
  obtain ⟨-, ⟨t', rest', hWs, hW's⟩, hWf, hWl, -⟩ := repeatTop_stack hW
  have htop : Entry.piece t' :: rest' = .piece t :: (rest ++ base) := by rw [← hWs, h.stack, hAs]; rfl
  simp only [List.cons.injEq, Entry.piece.injEq] at htop
  obtain ⟨rfl, rfl⟩ := htop
  refine ⟨?_, by rw [hAf, hWf, h.flags], ?_⟩
  · rw [hA's, hW's, h.flags, hlazy]
    rfl
  · rw [hAl, hWl]
    exact ⟨fun h => absurd h hop', fun h => absurd h hop⟩

theorem pushLiterals (hb : NoPieceOnTop base) {n : Nat} {lit : Bytes} :
    ∀ {A W A' W' : Reader}, Mirrors base A W → Pattern.pushLiterals n A lit = .ok A' →
      Pattern.pushLiterals n W lit = .ok W' → Mirrors base A' W' := by
  induction n generalizing lit with
  | zero =>
    intro A W A' W' h hA hW
    cases hA
    cases hW
    exact h
  | succ n ih =>
    intro A W A' W' h hA hW
    cases lit with
    | nil =>
      simp only [Pattern.pushLiterals] at hA hW
      cases hA
      cases hW
      exact h
    | cons b bs =>
      simp only [Pattern.pushLiterals] at hA hW
      obtain ⟨⟨c, rest⟩, hc, hA⟩ := exists_ok_of_bind_eq_ok hA
      obtain ⟨⟨c', rest'⟩, hc', hW⟩ := exists_ok_of_bind_eq_ok hW
      rw [hc] at hc'
      cases hc'
      obtain ⟨A₁, hA₁, hA⟩ := exists_ok_of_bind_eq_ok hA
      obtain ⟨W₁, hW₁, hW⟩ := exists_ok_of_bind_eq_ok hW
      exact ih (h.literal hb hA₁ hW₁) hA hW

end Mirrors

theorem push_floor {base S : List Entry} (hb : NoPieceOnTop base) {W W' : Reader} {t : Tree}
    (hS : W.stack = S ++ base) (h : W.push t = .ok W') : ∃ S', W'.stack = S' ++ base :=
  ⟨.piece (pushedPiece t) :: joinEntries S, by rw [(push_stack h).1, hS, joinEntries_append hb]; rfl⟩

theorem pushLiterals_floor {base S : List Entry} (hb : NoPieceOnTop base) {W W' : Reader} {n : Nat}
    {lit : Bytes} (hs : W.stack = S ++ base) (hW : pushLiterals n W lit = .ok W') :
    ∃ S', W'.stack = S' ++ base := by
  induction n generalizing W lit S with
  | zero =>
    cases hW
    exact ⟨S, hs⟩
  | succ n ih =>
    cases lit with
    | nil =>
      simp only [pushLiterals] at hW
      cases hW
      exact ⟨S, hs⟩
    | cons b bs =>
      simp only [pushLiterals] at hW
      obtain ⟨⟨c, rest⟩, -, hW⟩ := exists_ok_of_bind_eq_ok hW
      obtain ⟨W₁, hW₁, hW⟩ := exists_ok_of_bind_eq_ok hW
      obtain ⟨u, hWs, -, -⟩ := literal_stack hW₁
      refine ih (show W₁.stack = (.piece u :: joinEntries S) ++ base from ?_) hW
      rw [hWs, hs, joinEntries_append hb]
      rfl

end SyntaxShade.Pattern.Reader
