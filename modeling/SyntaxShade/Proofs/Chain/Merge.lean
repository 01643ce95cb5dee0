import SyntaxShade.Proofs.Chain.Path
/-! Merging keeps a chain well formed, over a sublist of its slots, and coalesces its tokens
(`Spans.merge`). -/
namespace SyntaxShade

namespace Token

theorem coalesce_cons (t : Token) (ts : List Token) :
    coalesce (t :: ts) =
      ⟨t.text ++ join (ts.takeWhile fun u => decide (u.lexeme = t.lexeme)), t.lexeme⟩ ::
        coalesce (ts.dropWhile fun u => decide (u.lexeme = t.lexeme)) := by
  induction ts generalizing t with
  | nil => simp [coalesce, join]
  | cons u us ih =>
    rw [coalesce.eq_2, ih u]
    by_cases hu : u.lexeme = t.lexeme
    · simp [hu, join]
    · have hu' : t.lexeme ≠ u.lexeme := Ne.symm hu
      simp [hu, hu', join, ih u]

theorem coalesce_cons_of_ne {t u : Token} {ts : List Token} (h : u.lexeme ≠ t.lexeme) :
    coalesce (t :: u :: ts) = t :: coalesce (u :: ts) := by
  rw [coalesce_cons]
  simp [h, join]

end Token

namespace Chain

variable {c : Chain} {ord : List Nat}

/-- The lexeme test of a run: the token in the slot has lexeme `l`. -/
abbrev HasLexeme (c : Chain) (l : Lexeme) (x : Nat) : Bool := decide ((c.tokenAt (some x)).lexeme = l)

/-- Absorbing from a slot of a walk takes the longest prefix of the walk whose tokens share the
lexeme, and stops at the slot after it. -/
theorem absorb_eq {i : Option Nat} {w : List Nat} (h : Path c.links Link.next i w none) {n : Nat}
    (hn : w.length ≤ n) (l : Lexeme) :
    c.absorb l n i =
      (Token.join ((w.takeWhile (c.HasLexeme l)).map fun x => c.tokenAt (some x)),
        (w.dropWhile (c.HasLexeme l)).head?, (w.takeWhile (c.HasLexeme l)).length) := by
  induction w generalizing i n with
  | nil =>
    rw [Path.nil_iff.mp h]
    cases n <;> rfl
  | cons x w ih =>
    obtain ⟨rfl, k, hk, hp⟩ := Path.cons_iff.mp h
    obtain ⟨n, rfl⟩ : ∃ m, n = m + 1 := ⟨n - 1, by simp at hn; omega⟩
    have hx : c.tokenAt (some x) = k.token := tokenAt_of_getElem? hk
    by_cases hl : k.token.lexeme = l
    · have hrun : c.HasLexeme l x = true := by simp [HasLexeme, hx, hl]
      simp only [absorb, hk, hl, if_true, ih hp (by simpa using hn), List.takeWhile_cons_of_pos hrun,
        List.dropWhile_cons_of_pos hrun, List.map_cons, List.length_cons, hx, Token.join,
        List.flatMap_cons]
    · have hrun : ¬c.HasLexeme l x = true := by simp [HasLexeme, hx, hl]
      simp [absorb, hk, hl, List.takeWhile_cons_of_neg hrun, List.dropWhile_cons_of_neg hrun,
        Token.join]

theorem coalesce_tokensAt_cons (c : Chain) (x : Nat) (w : List Nat) :
    Token.coalesce (c.tokensAt (x :: w)) =
      ⟨(c.tokenAt (some x)).text ++
          Token.join (c.tokensAt (w.takeWhile (c.HasLexeme (c.tokenAt (some x)).lexeme))),
        (c.tokenAt (some x)).lexeme⟩ ::
        Token.coalesce (c.tokensAt (w.dropWhile (c.HasLexeme (c.tokenAt (some x)).lexeme))) := by
  rw [tokensAt_cons, Token.coalesce_cons]
  simp only [tokensAt, List.takeWhile_map, List.dropWhile_map]
  rfl

/-! ### Splicing a run out -/

@[simp] theorem splice_head (c : Chain) (i : Nat) (text : Bytes) (after : Option Nat) (count : Nat) :
    (c.splice i text after count).head = c.head := by
  cases after <;> rfl

@[simp] theorem splice_size (c : Chain) (i : Nat) (text : Bytes) (after : Option Nat) (count : Nat) :
    (c.splice i text after count).size = c.size - count := by
  cases after <;> rfl

theorem getElem?_splice_links (c : Chain) (i : Nat) (text : Bytes) (after : Option Nat)
    (count x : Nat) (hne : after ≠ some i) :
    (c.splice i text after count).links[x]? =
      if i = x then
        (c.links[x]?).map fun k =>
          { k with token := { k.token with text := k.token.text ++ text }, next := after }
      else if after = some x then (c.links[x]?).map fun k => { k with prev := some i }
      else c.links[x]? := by
  unfold splice
  cases after with
  | none => simp [Array.getElem?_modify]
  | some a =>
    have hai : a ≠ i := fun h => hne (h ▸ rfl)
    by_cases hx : i = x
    · subst hx
      simp [Array.getElem?_modify, hai]
    · by_cases ha : a = x <;> simp [Array.getElem?_modify, hx, ha]

theorem tokenAt_splice (c : Chain) (i : Nat) (text : Bytes) (after : Option Nat) (count : Nat)
    {x : Nat} (hx : x < c.links.size) (hne : after ≠ some i) :
    (c.splice i text after count).tokenAt (some x) =
      if i = x then { c.tokenAt (some x) with text := (c.tokenAt (some x)).text ++ text }
      else c.tokenAt (some x) := by
  obtain ⟨k, hk⟩ : ∃ k, c.links[x]? = some k := ⟨c.links[x], Array.getElem?_eq_getElem hx⟩
  simp only [tokenAt]
  rw [getElem?_splice_links c i text after count x hne, hk]
  by_cases hi : i = x
  · simp [hi]
  · by_cases ha : after = some x <;> simp [hi, ha]

/-- Splicing the run after slot `i` out of a well-formed chain leaves a well-formed chain over
the other slots. -/
theorem Spans.splice {pre run rest : List Nat} {i : Nat} (h : c.Spans (pre ++ i :: (run ++ rest)))
    (text : Bytes) : (c.splice i text rest.head? run.length).Spans (pre ++ i :: rest) := by
  have hirest : i ∉ rest := fun hi => h.not_mem_right (List.mem_append_right _ hi)
  have hne : rest.head? ≠ some i := fun e => hirest (List.mem_of_mem_head? e)
  obtain ⟨m, hpre, hi⟩ := Path.append_iff.mp h.forward
  obtain ⟨rfl, k, hk, hrr⟩ := Path.cons_iff.mp hi
  obtain ⟨m', -, hrest⟩ := Path.append_iff.mp hrr
  obtain rfl : m' = rest.head? := hrest.start_of_none
  have hlinks := fun x => getElem?_splice_links c i text rest.head? run.length x hne
  have hk' : (c.splice i text rest.head? run.length).links[i]? =
      some { k with token := { k.token with text := k.token.text ++ text }, next := rest.head? } := by
    rw [hlinks, if_pos rfl, hk]
    rfl
  have hnext : ∀ x, x ≠ i →
      ((c.splice i text rest.head? run.length).links[x]?).map Link.next = (c.links[x]?).map Link.next := by
    intro x hx
    rw [hlinks, if_neg (Ne.symm hx)]
    split <;> cases c.links[x]? <;> rfl
  have hprev : ∀ x, rest.head? ≠ some x →
      ((c.splice i text rest.head? run.length).links[x]?).map Link.prev = (c.links[x]?).map Link.prev := by
    intro x hx
    rw [hlinks, if_neg hx]
    split <;> cases c.links[x]? <;> rfl
  have hback := h.backward
  simp only [List.reverse_append, List.reverse_cons, List.append_assoc, List.singleton_append]
    at hback
  refine ⟨?_, ?_, ?_, ?_⟩
  · rw [splice_head, Path.append_iff]
    exact ⟨some i, hpre.frame fun x hx => hnext x fun e => h.not_mem_left (e ▸ hx),
      .cons hk' (hrest.frame fun x hx => hnext x fun e => hirest (e ▸ hx))⟩
  · cases rest with
    | nil =>
      have hback' : Path c.links Link.prev c.tail (run.reverse ++ i :: pre.reverse) none := by
        simpa using hback
      obtain ⟨m₁, -, hi₁⟩ := Path.append_iff.mp hback'
      obtain ⟨rfl, k₁, hk₁, hpre₁⟩ := Path.cons_iff.mp hi₁
      obtain rfl : k₁ = k := Option.some.inj (hk₁.symm.trans hk)
      show Path _ Link.prev (some i) (pre ++ [i]).reverse none
      rw [List.reverse_append, List.reverse_singleton, List.singleton_append]
      exact .cons hk' (hpre₁.frame fun x _ => hprev x (by simp))
    | cons a rest =>
      have hback' : Path c.links Link.prev c.tail
          (rest.reverse ++ a :: (run.reverse ++ i :: pre.reverse)) none := by
        simpa using hback
      obtain ⟨m₁, hrest₁, ha₁⟩ := Path.append_iff.mp hback'
      obtain ⟨rfl, ka, hka, hrun₁⟩ := Path.cons_iff.mp ha₁
      obtain ⟨m₂, -, hi₁⟩ := Path.append_iff.mp hrun₁
      obtain ⟨rfl, k₁, hk₁, hpre₁⟩ := Path.cons_iff.mp hi₁
      obtain rfl : k₁ = k := Option.some.inj (hk₁.symm.trans hk)
      have hai : i ≠ a := fun e => hirest (e ▸ List.mem_cons_self)
      have hka' : (c.splice i text (a :: rest).head? run.length).links[a]? =
          some { ka with prev := some i } := by
        rw [hlinks, if_neg hai, if_pos (by rfl), hka]
        rfl
      have ha : c.Spans ((pre ++ i :: run) ++ a :: rest) := by simpa using h
      show Path _ Link.prev c.tail (pre ++ i :: a :: rest).reverse none
      simp only [List.reverse_append, List.reverse_cons, List.append_assoc, List.singleton_append]
      rw [Path.append_iff]
      refine ⟨some a, hrest₁.frame fun x hx => hprev x ?_,
        .cons hka' (.cons hk' (hpre₁.frame fun x hx => hprev x ?_))⟩
      · rintro ⟨⟩
        exact ha.not_mem_right (List.mem_reverse.mp hx)
      · rintro ⟨⟩
        exact ha.not_mem_left (List.mem_append_left _ (List.mem_reverse.mp hx))
  · exact h.nodup.sublist ((List.sublist_append_right run rest).cons_cons i |>.append_left pre)
  · rw [splice_size, h.size_eq]
    simp only [List.length_append, List.length_cons]
    omega

theorem Spans.tokensAt_splice {pre run rest : List Nat} {i : Nat} (h : c.Spans (pre ++ i :: (run ++ rest)))
    (text : Bytes) :
    (c.splice i text rest.head? run.length).tokensAt pre = c.tokensAt pre ∧
      (c.splice i text rest.head? run.length).tokenAt (some i) =
        { c.tokenAt (some i) with text := (c.tokenAt (some i)).text ++ text } ∧
      (c.splice i text rest.head? run.length).tokensAt rest = c.tokensAt rest := by
  have hirest : i ∉ rest := fun hi => h.not_mem_right (List.mem_append_right _ hi)
  have hne : rest.head? ≠ some i := fun e => hirest (List.mem_of_mem_head? e)
  have hother : ∀ y ∈ pre ++ i :: (run ++ rest), y ≠ i →
      (c.splice i text rest.head? run.length).tokenAt (some y) = c.tokenAt (some y) := by
    intro y hy hyi
    rw [tokenAt_splice _ _ _ _ _ (h.lt_size hy) hne, if_neg (Ne.symm hyi)]
  refine ⟨tokensAt_congr fun y hy => hother y (by simp [hy]) ?_, ?_,
    tokensAt_congr fun y hy => hother y (by simp [hy]) ?_⟩
  · rintro rfl
    exact h.not_mem_left hy
  · rw [tokenAt_splice _ _ _ _ _ (h.lt_size (by simp)) hne, if_pos rfl]
  · rintro rfl
    exact hirest hy

/-! ### The merge loop -/

theorem mergeFrom_none (n : Nat) (c : Chain) (merged : Bool) :
    mergeFrom n c none merged = (c, merged) := by
  cases n <;> rfl

theorem Spans.mergeFrom_last {done : List Nat} {x : Nat} (h : c.Spans (done ++ [x])) (n : Nat)
    (merged : Bool) : Chain.mergeFrom (n + 1) c (some x) merged = (c, merged) := by
  obtain ⟨k, hk, hnext⟩ := h.getElem?_eq
  simp [Chain.mergeFrom, hk, hnext, mergeFrom_none]

theorem Spans.mergeFrom_of_ne {done rest : List Nat} {x j : Nat} (h : c.Spans (done ++ x :: j :: rest))
    (hl : (c.tokenAt (some j)).lexeme ≠ (c.tokenAt (some x)).lexeme) (n : Nat) (merged : Bool) :
    Chain.mergeFrom (n + 1) c (some x) merged = Chain.mergeFrom n c (some j) merged := by
  obtain ⟨k, hk, hnext⟩ := h.getElem?_eq
  rw [tokenAt_of_getElem? hk] at hl
  simp [Chain.mergeFrom, hk, hnext, hl]

/-- A slot whose successor shares its lexeme absorbs the run of such slots after it: the loop
splices the run out and moves to the slot after the run. -/
theorem Spans.mergeFrom_of_eq {done rest run after : List Nat} {x j : Nat}
    (h : c.Spans (done ++ x :: j :: rest))
    (hl : (c.tokenAt (some j)).lexeme = (c.tokenAt (some x)).lexeme)
    (hrun : run = (j :: rest).takeWhile (c.HasLexeme (c.tokenAt (some x)).lexeme))
    (hafter : after = (j :: rest).dropWhile (c.HasLexeme (c.tokenAt (some x)).lexeme))
    (n : Nat) (merged : Bool) :
    Chain.mergeFrom (n + 1) c (some x) merged =
      Chain.mergeFrom n (c.splice x (Token.join (c.tokensAt run)) after.head? run.length)
        after.head? true := by
  obtain ⟨m, -, hx⟩ := Path.append_iff.mp h.forward
  obtain ⟨rfl, k, hk, hrest⟩ := Path.cons_iff.mp hx
  have hnext : k.next = some j := hrest.start_of_none
  rw [tokenAt_of_getElem? hk] at hl hrun hafter
  have hwalk : (j :: rest).length ≤ c.links.size := by
    have := h.length_le
    simp only [List.length_append, List.length_cons] at this ⊢
    omega
  have hab := absorb_eq hrest hwalk k.token.lexeme
  rw [hnext, ← hrun, ← hafter] at hab
  simp only [Chain.mergeFrom, hk, hnext, hl, ne_eq, not_true_eq_false, if_false, hab, tokensAt]

/-- The merge loop from a slot of the walk keeps the tokens of the slots before it and coalesces
the tokens from it on, leaving a well-formed chain. -/
theorem Spans.mergeFrom {done todo : List Nat} (h : c.Spans (done ++ todo)) {n : Nat}
    (hn : todo.length ≤ n) (merged : Bool) :
    ∃ todo', (Chain.mergeFrom n c todo.head? merged).1.Spans (done ++ todo') ∧
      (Chain.mergeFrom n c todo.head? merged).1.tokensAt (done ++ todo') =
        c.tokensAt done ++ Token.coalesce (c.tokensAt todo) := by
  induction n generalizing c done todo merged with
  | zero =>
    obtain rfl : todo = [] := List.eq_nil_of_length_eq_zero (Nat.le_zero.mp hn)
    exact ⟨[], h, by simp [Chain.mergeFrom, Token.coalesce]⟩
  | succ n ih =>
    cases todo with
    | nil => exact ⟨[], by simpa [Chain.mergeFrom] using h, by simp [Chain.mergeFrom, Token.coalesce]⟩
    | cons x rest =>
      cases rest with
      | nil =>
        refine ⟨[x], ?_, ?_⟩ <;> simp only [List.head?_cons, h.mergeFrom_last n merged]
        · exact h
        · simp [Token.coalesce]
      | cons j rest =>
        have hlen : (j :: rest).length ≤ n := by simpa using hn
        by_cases hl : (c.tokenAt (some j)).lexeme = (c.tokenAt (some x)).lexeme
        · set run := (j :: rest).takeWhile (c.HasLexeme (c.tokenAt (some x)).lexeme) with hrun
          set after := (j :: rest).dropWhile (c.HasLexeme (c.tokenAt (some x)).lexeme) with hafter
          have hstep := h.mergeFrom_of_eq hl hrun hafter n merged
          have hsp : c.Spans (done ++ x :: (run ++ after)) := by
            rwa [hrun, hafter, List.takeWhile_append_dropWhile]
          have hafter_len : after.length ≤ n :=
            Nat.le_trans (List.dropWhile_suffix _).length_le hlen
          obtain ⟨todo', h', htok⟩ :=
            @ih _ (done ++ [x]) after (by simpa using hsp.splice (Token.join (c.tokensAt run)))
              hafter_len true
          refine ⟨x :: todo', ?_, ?_⟩
          · rw [List.head?_cons, hstep]
            simpa using h'
          · rw [List.head?_cons, hstep]
            obtain ⟨hpre, hx, hrest⟩ := hsp.tokensAt_splice (Token.join (c.tokensAt run))
            simp only [tokensAt_append, tokensAt_cons, tokensAt_nil, hpre, hx, hrest] at htok
            rw [coalesce_tokensAt_cons, ← hrun, ← hafter]
            simpa using htok
        · have hstep := h.mergeFrom_of_ne hl n merged
          obtain ⟨todo', h', htok⟩ :=
            @ih c (done ++ [x]) (j :: rest) (by simpa using h) hlen merged
          refine ⟨x :: todo', ?_, ?_⟩
          · rw [List.head?_cons, hstep]
            simpa using h'
          · rw [List.head?_cons, hstep]
            rw [tokensAt_cons, tokensAt_cons, Token.coalesce_cons_of_ne hl]
            simpa using htok

/-- Merging keeps a chain well formed and coalesces its tokens. -/
theorem Spans.merge (h : c.Spans ord) :
    ∃ ord', c.merge.1.Spans ord' ∧ c.merge.1.tokens = Token.coalesce c.tokens := by
  have hloop := (show c.Spans ([] ++ ord) from h).mergeFrom h.length_le false
  rw [← h.head_eq] at hloop
  obtain ⟨ord', h', htok⟩ := hloop
  rw [List.nil_append] at h' htok
  refine ⟨ord', h', ?_⟩
  rw [Chain.merge, h'.tokens_eq, h.tokens_eq, htok, tokensAt_nil, List.nil_append]

end Chain

end SyntaxShade
