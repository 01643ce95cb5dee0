import SyntaxShade.Proofs.Chain.Path
import SyntaxShade.Grammar
/-! The passes that only retag: a rule's pass is its greedy scan (`Spans.apply`), and propagation
is `Grammar.resolve` (`Spans.propagate`). -/
namespace SyntaxShade

namespace Rule

theorem window_cons_eq_some {s : Step} {ss : List Step} {t : Token} {ts ws : List Token} {b : Bool} :
    window (s :: ss) (t :: ts) = some (ws, b) ↔
      s.accepts t = true ∧
        ∃ ws' b', window ss ts = some (ws', b') ∧ ws = s.retag t :: ws' ∧ b = (s.output.isSome || b') := by
  simp only [window]
  split
  · rename_i hs
    constructor
    · intro h
      obtain ⟨⟨ws', b'⟩, hw, he⟩ := Option.map_eq_some_iff.mp h
      simp only [Prod.mk.injEq] at he
      exact ⟨hs, ws', b', hw, he.1.symm, he.2.symm⟩
    · rintro ⟨-, ws', b', hw, rfl, rfl⟩
      simp [hw]
  · rename_i hs
    simp [hs]

theorem length_of_window {steps : List Step} {ts ws : List Token} {b : Bool}
    (h : window steps ts = some (ws, b)) : ws.length = steps.length ∧ steps.length ≤ ts.length := by
  induction steps generalizing ts ws b with
  | nil =>
    simp only [window, Option.some.injEq, Prod.mk.injEq] at h
    simp [← h.1]
  | cons s ss ih =>
    cases ts with
    | nil => simp [window] at h
    | cons t ts =>
      obtain ⟨-, ws', b', hw, rfl, -⟩ := window_cons_eq_some.mp h
      have := ih hw
      simp only [List.length_cons]
      omega

/-- A window looks at as many tokens as there are steps, and no further. -/
theorem window_append {steps : List Step} {ts₁ : List Token} (ts₂ : List Token)
    (h : ts₁.length = steps.length) : window steps (ts₁ ++ ts₂) = window steps ts₁ := by
  induction steps generalizing ts₁ with
  | nil => rfl
  | cons s ss ih =>
    cases ts₁ with
    | nil => simp at h
    | cons t ts =>
      simp only [List.cons_append, window, ih (by simpa using h)]

theorem scan_cons_of_none {r : Rule} {t : Token} {ts : List Token} (h : window r.steps (t :: ts) = none) :
    r.scan (t :: ts) = (t :: (r.scan ts).1, (r.scan ts).2) := by
  rw [scan, h]

theorem scan_cons_of_some {r : Rule} {t : Token} {ts ws : List Token} {b : Bool}
    (h : window r.steps (t :: ts) = some (ws, b)) :
    r.scan (t :: ts) =
      (ws ++ (r.scan (ts.drop r.rest.length)).1, b || (r.scan (ts.drop r.rest.length)).2) := by
  rw [scan, h]

end Rule

namespace Chain

variable {c : Chain} {ord : List Nat}

theorem matchesAt_eq {i : Option Nat} {w : List Nat} (h : Path c.links Link.next i w none)
    (steps : List Step) : Rule.matchesAt c steps i = (Rule.window steps (c.tokensAt w)).isSome := by
  induction steps generalizing i w with
  | nil => simp [Rule.matchesAt, Rule.window]
  | cons s ss ih =>
    cases w with
    | nil =>
      rw [Path.nil_iff.mp h]
      simp [Rule.matchesAt, Rule.window]
    | cons x w =>
      obtain ⟨rfl, k, hk, hp⟩ := Path.cons_iff.mp h
      have hnext : c.next (some x) = k.next := by simp [Chain.next, hk]
      rw [tokensAt_cons]
      simp only [Rule.matchesAt, Rule.window, hnext, ih hp]
      split <;> simp [*]

theorem next_retag (c : Chain) (i : Nat) (l : Lexeme) (j : Option Nat) :
    (c.retag i l).next j = c.next j := by
  cases j with
  | none => rfl
  | some y =>
    simp only [Chain.next, getElem?_retag_links]
    split <;> cases c.links[y]? <;> rfl

/-! ### One step of a window -/

theorem Spans.retagAt (h : c.Spans ord) (s : Step) (i : Option Nat) : (s.retagAt c i).1.Spans ord := by
  unfold Step.retagAt
  split
  · exact h.retag _ _
  · exact h
  · exact h

theorem next_retagAt (c : Chain) (s : Step) (i j : Option Nat) : (s.retagAt c i).1.next j = c.next j := by
  unfold Step.retagAt
  split
  · exact next_retag _ _ _ _
  · rfl
  · rfl

theorem retagAt_snd (c : Chain) (s : Step) (x : Nat) : (s.retagAt c (some x)).2 = s.output.isSome := by
  unfold Step.retagAt
  cases s.output <;> rfl

theorem tokenAt_retagAt (c : Chain) (s : Step) {x y : Nat} (hy : y < c.links.size) :
    (s.retagAt c (some x)).1.tokenAt (some y) =
      if x = y then s.retag (c.tokenAt (some y)) else c.tokenAt (some y) := by
  unfold Step.retagAt Step.retag
  cases s.output with
  | none => simp
  | some l => exact tokenAt_retag c x l hy

/-- Retagging a window: the window's slots get the tokens the window gives, every other slot keeps
its token, and the walk goes on after the window. -/
theorem Spans.retagWindow {done w rest : List Nat} (h : c.Spans (done ++ w ++ rest))
    {steps : List Step} (hlen : w.length = steps.length) {ws : List Token} {b : Bool}
    (hw : Rule.window steps (c.tokensAt w) = some (ws, b)) :
    (Rule.retagWindow steps c (w ++ rest).head?).1.Spans (done ++ w ++ rest) ∧
      (Rule.retagWindow steps c (w ++ rest).head?).1.tokensAt done = c.tokensAt done ∧
      (Rule.retagWindow steps c (w ++ rest).head?).1.tokensAt w = ws ∧
      (Rule.retagWindow steps c (w ++ rest).head?).1.tokensAt rest = c.tokensAt rest ∧
      (Rule.retagWindow steps c (w ++ rest).head?).2 = (rest.head?, b) := by
  induction steps generalizing c done w ws b with
  | nil =>
    obtain rfl : w = [] := List.eq_nil_of_length_eq_zero hlen
    simp only [Rule.window, Option.some.injEq, Prod.mk.injEq] at hw
    obtain ⟨rfl, rfl⟩ := hw
    simpa [Rule.retagWindow] using h
  | cons s ss ih =>
    cases w with
    | nil => simp at hlen
    | cons x w =>
      rw [tokensAt_cons] at hw
      obtain ⟨-, ws', b', hw', rfl, rfl⟩ := Rule.window_cons_eq_some.mp hw
      have h' : c.Spans (done ++ x :: (w ++ rest)) := by simpa using h
      rcases hstep : s.retagAt c (some x) with ⟨c₁, rt⟩
      have h₁ : c₁.Spans ((done ++ [x]) ++ w ++ rest) := by
        simpa [hstep] using h'.retagAt s (some x)
      have htok₁ : ∀ y ∈ done ++ x :: (w ++ rest),
          c₁.tokenAt (some y) = if x = y then s.retag (c.tokenAt (some y)) else c.tokenAt (some y) := by
        intro y hy
        rw [← tokenAt_retagAt c s (h'.lt_size hy), hstep]
      have hother : ∀ y, y ∈ done ∨ y ∈ w ++ rest → c₁.tokenAt (some y) = c.tokenAt (some y) := by
        intro y hy
        rw [htok₁ y (by rcases hy with hy | hy <;> simp [hy]), if_neg]
        rintro rfl
        rcases hy with hy | hy
        · exact h'.not_mem_left hy
        · exact h'.not_mem_right hy
      have hw₁ : Rule.window ss (c₁.tokensAt w) = some (ws', b') := by
        rwa [tokensAt_congr fun y hy => hother y (.inr (List.mem_append_left _ hy))]
      have hnext₁ : c₁.next (some x) = (w ++ rest).head? := by
        rw [← h'.next_eq, ← next_retagAt c s (some x), hstep]
      have hrec := ih h₁ (by simpa using hlen) hw₁
      rcases hwin : Rule.retagWindow ss c₁ (w ++ rest).head? with ⟨c₂, after, rt'⟩
      rw [hwin] at hrec
      obtain ⟨hs₂, hdone₂, hw₂, hrest₂, hout₂⟩ := hrec
      obtain ⟨rfl, rfl⟩ := Prod.mk.inj hout₂
      have hrt : rt = s.output.isSome := by rw [← retagAt_snd c s x, hstep]
      simp only [Rule.retagWindow, List.cons_append, List.head?_cons, hstep, hnext₁, hwin, hrt]
      obtain ⟨hdone₂, hx₂⟩ := tokensAt_append_singleton_eq hdone₂
      refine ⟨by simpa using hs₂, ?_, ?_, ?_, trivial⟩
      · rw [hdone₂]
        exact tokensAt_congr fun y hy => hother y (.inl hy)
      · rw [tokensAt_cons, hw₂]
        rw [hx₂, htok₁ x (by simp), if_pos rfl]
      · rw [hrest₂]
        exact tokensAt_congr fun y hy => hother y (.inr (List.mem_append_right _ hy))

/-! ### A rule's pass -/

/-- A window at the head of a walk takes the walk's first slots, one for each step; the slots after
it are those a rule's scan goes on with. -/
theorem window_cons_split {r : Rule} {x : Nat} {rest : List Nat} {ws : List Token} {b : Bool}
    (hw : Rule.window r.steps (c.tokenAt (some x) :: c.tokensAt rest) = some (ws, b)) :
    ∃ w, x :: rest = w ++ rest.drop r.rest.length ∧ w.length = r.steps.length ∧
      Rule.window r.steps (c.tokensAt w) = some (ws, b) := by
  obtain ⟨-, hle⟩ := Rule.length_of_window hw
  have hsteps : r.steps.length = r.rest.length + 1 := rfl
  have hsplit : x :: rest = (x :: rest).take r.steps.length ++ rest.drop r.rest.length := by
    rw [hsteps, List.take_succ_cons, List.cons_append, List.take_append_drop]
  have hwlen : ((x :: rest).take r.steps.length).length = r.steps.length := by
    rw [List.length_take]
    simp only [tokensAt, List.length_cons, List.length_map] at hle
    simp only [List.length_cons]
    omega
  refine ⟨_, hsplit, hwlen, ?_⟩
  -- the window looks no further than its own slots
  rw [← Rule.window_append (c.tokensAt (rest.drop r.rest.length)) (by simpa [tokensAt] using hwlen),
    ← tokensAt_append, ← hsplit, tokensAt_cons, hw]

/-- The pass of a rule from a slot of the walk keeps the tokens of the slots before it and scans
the tokens from it on. -/
theorem Spans.applyFrom (r : Rule) {done todo : List Nat} (h : c.Spans (done ++ todo)) {n : Nat}
    (hn : todo.length ≤ n) (changed : Bool) :
    (r.applyFrom n c todo.head? changed).1.Spans (done ++ todo) ∧
      (r.applyFrom n c todo.head? changed).1.tokensAt done = c.tokensAt done ∧
      (r.applyFrom n c todo.head? changed).1.tokensAt todo = (r.scan (c.tokensAt todo)).1 ∧
      (r.applyFrom n c todo.head? changed).2 = (changed || (r.scan (c.tokensAt todo)).2) := by
  induction n generalizing c done todo changed with
  | zero =>
    obtain rfl : todo = [] := List.eq_nil_of_length_eq_zero (Nat.le_zero.mp hn)
    simpa [Rule.applyFrom, Rule.scan] using h
  | succ n ih =>
    cases todo with
    | nil => simpa [Rule.applyFrom, Rule.scan] using h
    | cons x rest =>
      obtain ⟨m, -, hwalk⟩ := Path.append_iff.mp h.forward
      obtain rfl : m = some x := hwalk.start_of_none
      have hmatch := matchesAt_eq hwalk r.steps
      rw [tokensAt_cons] at hmatch
      cases hw : Rule.window r.steps (c.tokenAt (some x) :: c.tokensAt rest) with
      | none =>
        have hstep : r.applyFrom (n + 1) c (some x) changed = r.applyFrom n c rest.head? changed := by
          simp [Rule.applyFrom, hmatch, hw, h.next_eq]
        obtain ⟨hs', hdone', hrest', hch'⟩ :=
          @ih c (done ++ [x]) rest (by simpa using h) (by simpa using hn) changed
        obtain ⟨hdone', hx'⟩ := tokensAt_append_singleton_eq hdone'
        rw [List.head?_cons, hstep]
        simp only [tokensAt_cons]
        rw [Rule.scan_cons_of_none hw]
        refine ⟨by simpa using hs', hdone', ?_, hch'⟩
        rw [hrest', hx']
      | some p =>
        obtain ⟨ws, b⟩ := p
        obtain ⟨w, hsplit, hwlen, hw'⟩ := window_cons_split hw
        set beyond := rest.drop r.rest.length with hbeyond
        have hhead : (w ++ beyond).head? = some x := by
          rw [← hsplit]
          rfl
        have hrw := (show c.Spans (done ++ w ++ beyond) by
          rw [List.append_assoc, ← hsplit]
          exact h).retagWindow hwlen hw'
        rw [hhead] at hrw
        rcases hwin : Rule.retagWindow r.steps c (some x) with ⟨c₁, after, rt⟩
        rw [hwin] at hrw
        obtain ⟨hs₁, hdone₁, hw₁, hrest₁, hout₁⟩ := hrw
        obtain ⟨rfl, rfl⟩ := Prod.mk.inj hout₁
        have hstep : r.applyFrom (n + 1) c (some x) changed =
            r.applyFrom n c₁ beyond.head? (changed || rt) := by
          simp only [Rule.applyFrom, hmatch, hw, Option.isSome_some, if_true, hwin]
        have hlen' : beyond.length ≤ n := by
          rw [hbeyond, List.length_drop]
          simp only [List.length_cons] at hn
          omega
        obtain ⟨hs₂, hdone₂, hrest₂, hch₂⟩ :=
          @ih c₁ (done ++ w) beyond hs₁ hlen' (changed || rt)
        obtain ⟨hdone₂, hw₂⟩ := tokensAt_append_eq hdone₂
        rw [List.head?_cons, hstep]
        simp only [tokensAt_cons]
        rw [Rule.scan_cons_of_some hw]
        refine ⟨by rw [hsplit, ← List.append_assoc]; exact hs₂, hdone₂.trans hdone₁, ?_, ?_⟩
        · rw [← tokensAt_cons, hsplit, tokensAt_append, hw₂, hw₁, hrest₂, hrest₁, hbeyond, tokensAt,
            tokensAt, List.map_drop]
        · rw [hch₂, hrest₁, hbeyond, tokensAt, tokensAt, List.map_drop, Bool.or_assoc]

/-- A rule's pass keeps a chain well formed and does to its tokens what the greedy scan does. -/
theorem Spans.apply (r : Rule) (h : c.Spans ord) :
    (r.apply c).1.Spans ord ∧ (r.apply c).1.tokens = (r.scan c.tokens).1 ∧
      (r.apply c).2 = (r.scan c.tokens).2 := by
  obtain ⟨hs, -, htok, hch⟩ :=
    (show c.Spans ([] ++ ord) from h).applyFrom r h.length_le false
  rw [← h.head_eq] at hs htok hch
  rw [List.nil_append] at hs
  unfold Rule.apply
  refine ⟨hs, ?_, ?_⟩
  · rw [hs.tokens_eq, h.tokens_eq]
    exact htok
  · rw [hch, h.tokens_eq, Bool.false_or]

/-! ### Propagating declared types -/

theorem Spans.propagateFrom {done todo : List Nat} (h : c.Spans (done ++ todo)) {n : Nat}
    (hn : todo.length ≤ n) (declared : List (Bytes × Lexeme)) :
    (Grammar.propagateFrom n declared c todo.head?).Spans (done ++ todo) ∧
      (Grammar.propagateFrom n declared c todo.head?).tokensAt done = c.tokensAt done ∧
      (Grammar.propagateFrom n declared c todo.head?).tokensAt todo =
        Grammar.resolve declared (c.tokensAt todo) := by
  induction n generalizing c done todo declared with
  | zero =>
    obtain rfl : todo = [] := List.eq_nil_of_length_eq_zero (Nat.le_zero.mp hn)
    simpa [Grammar.propagateFrom, Grammar.resolve] using h
  | succ n ih =>
    cases todo with
    | nil => simpa [Grammar.propagateFrom, Grammar.resolve] using h
    | cons x rest =>
      have h' : c.Spans ((done ++ [x]) ++ rest) := by simpa using h
      have hlen : rest.length ≤ n := by simpa using hn
      have hmove : ∀ (c' : Chain) (declared' : List (Bytes × Lexeme)), c'.Spans ((done ++ [x]) ++ rest) →
          c'.next (some x) = rest.head? → c'.tokensAt done = c.tokensAt done →
          c'.tokensAt rest = c.tokensAt rest →
          Grammar.resolve declared (c.tokensAt (x :: rest)) =
            c'.tokenAt (some x) :: Grammar.resolve declared' (c.tokensAt rest) →
          (Grammar.propagateFrom n declared' c' (c'.next (some x))).Spans (done ++ x :: rest) ∧
            (Grammar.propagateFrom n declared' c' (c'.next (some x))).tokensAt done = c.tokensAt done ∧
            (Grammar.propagateFrom n declared' c' (c'.next (some x))).tokensAt (x :: rest) =
              Grammar.resolve declared (c.tokensAt (x :: rest)) := by
        intro c' declared' hs' hnext' hdone' hrest' hres
        rw [hnext']
        obtain ⟨hs₂, hdone₂, hrest₂⟩ := @ih c' (done ++ [x]) rest hs' hlen declared'
        obtain ⟨hdone₂, hx₂⟩ := tokensAt_append_singleton_eq hdone₂
        refine ⟨by simpa using hs₂, hdone₂.trans hdone', ?_⟩
        rw [hres, tokensAt_cons, hrest₂, hrest', hx₂]
      simp only [List.head?_cons, Grammar.propagateFrom]
      by_cases hdecl : (c.tokenAt (some x)).lexeme = .className ∨ (c.tokenAt (some x)).lexeme = .tag
      · rw [if_pos hdecl]
        exact hmove c _ h' h.next_eq rfl rfl (by rw [tokensAt_cons, Grammar.resolve, if_pos hdecl])
      · rw [if_neg hdecl]
        by_cases hid : (c.tokenAt (some x)).lexeme = .identifier
        · rw [if_pos hid]
          cases hl : declared.lookup (c.tokenAt (some x)).text with
          | none =>
            exact hmove c declared h' h.next_eq rfl rfl
              (by rw [tokensAt_cons, Grammar.resolve, if_neg hdecl, if_pos hid, hl])
          | some l =>
            exact hmove (c.retag x l) declared (h'.retag x l) (by rw [next_retag, h.next_eq])
              (h.tokensAt_retag_of_not_mem x l (List.subset_append_left _ _) h.not_mem_left)
              (h.tokensAt_retag_of_not_mem x l (fun y hy => by simp [hy]) h.not_mem_right)
              (by rw [tokensAt_cons, Grammar.resolve, if_neg hdecl, if_pos hid, hl,
                tokenAt_retag c x l (h.lt_size (by simp)), if_pos rfl])
        · rw [if_neg hid]
          exact hmove c declared h' h.next_eq rfl rfl
            (by rw [tokensAt_cons, Grammar.resolve, if_neg hdecl, if_neg hid])

/-- Propagating declared types keeps a chain well formed and resolves its tokens. -/
theorem Spans.propagate (h : c.Spans ord) :
    (Grammar.propagate c).Spans ord ∧ (Grammar.propagate c).tokens = Grammar.resolve [] c.tokens := by
  obtain ⟨hs, -, htok⟩ := (show c.Spans ([] ++ ord) from h).propagateFrom h.length_le []
  rw [← h.head_eq] at hs htok
  rw [List.nil_append] at hs
  unfold Grammar.propagate
  refine ⟨hs, ?_⟩
  rw [hs.tokens_eq, h.tokens_eq]
  exact htok

end Chain

end SyntaxShade
