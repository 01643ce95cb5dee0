import SyntaxShade.Proofs.Pattern.Stack
import SyntaxShade.Proofs.Text.Fields
import Mathlib.Data.List.Find
/-! The reading functions read `s ++ [0x29]` as they read `s` and leave the parenthesis after the
rest, but for an unterminated quotation and a Unicode class name. -/
namespace SyntaxShade.Pattern

theorem ok_bind_eq {ε α β : Type} (a : α) (f : α → Except ε β) : (Except.ok a >>= f) = f a := rfl

/-- The closing parenthesis that the wrapping adds after a condition. -/
abbrev closing : Bytes := [0x29]

theorem closing_head : ∀ y ∈ closing.head?, y < 0x80 := by
  intro y hy
  simp only [List.head?_cons, Option.mem_def, Option.some.injEq] at hy
  subst hy
  decide

theorem decode_append_closing {s : Bytes} (hs : s ≠ []) : Rune.decode (s ++ closing) = Rune.decode s := by
  cases s with
  | nil => exact absurd rfl hs
  | cons b rest => exact Rune.ofCons_append b rest closing_head

theorem nextRune_append {s : Bytes} (hs : s ≠ []) {c : Nat} {r : Bytes} (h : nextRune s = .ok (c, r)) :
    nextRune (s ++ closing) = .ok (c, r ++ closing) := by
  unfold nextRune at h ⊢
  dsimp only at h ⊢
  rw [decode_append_closing hs]
  split at h
  · cases h
  · cases h
    rw [if_neg (by assumption), List.drop_append_of_le_length (Rune.width_le s)]

theorem takeWhile_append_closing {p : UInt8 → Bool} (hp : p 0x29 = false) (s : Bytes) :
    (s ++ closing).takeWhile p = s.takeWhile p := by
  rw [List.takeWhile_append]
  split
  · next h =>
    rw [List.takeWhile_cons_of_neg (by simp [hp]), List.append_nil]
    exact ((List.takeWhile_prefix p).eq_of_length h).symm
  · rfl

theorem readCount_append (s : Bytes) :
    readCount (s ++ closing) = (readCount s).map fun p => (p.1, p.2 ++ closing) := by
  cases s with
  | nil => rfl
  | cons b rest =>
    have hhead : (rest ++ closing).head?.any isDigit = rest.head?.any isDigit := by
      cases rest <;> rfl
    have hle : ((b :: rest).takeWhile isDigit).length ≤ (b :: rest).length := (List.takeWhile_prefix isDigit).length_le
    simp only [readCount, List.cons_append, hhead]
    rw [← List.cons_append, takeWhile_append_closing (by decide), List.drop_append_of_le_length hle]
    split_ifs <;> rfl

theorem readBounds_of_ne {b : UInt8} (hb : b ≠ 0x7B) (t : Bytes) : readBounds (b :: t) = none := by
  unfold readBounds
  split
  · next heq =>
    cases heq
    exact absurd rfl hb
  · rfl

theorem readBounds_append (s : Bytes) :
    readBounds (s ++ closing) = (readBounds s).map fun p => (p.1, p.2 ++ closing) := by
  rcases s with _ | ⟨b, t⟩
  · rfl
  by_cases hb : b = 0x7B
  · subst hb
    simp only [List.cons_append, readBounds, readCount_append]
    cases readCount t with
    | none => rfl
    | some p =>
      obtain ⟨lo, r⟩ := p
      simp only [Option.map_some]
      rcases r with _ | ⟨x, r⟩
      · rfl
      by_cases hx : x = 0x2C
      · subst hx
        rcases r with _ | ⟨y, r⟩
        · rfl
        by_cases hy : y = 0x7D
        · subst hy
          rfl
        · have hc : readCount (y :: (r ++ closing)) = (readCount (y :: r)).map fun p => (p.1, p.2 ++ closing) :=
            readCount_append (y :: r)
          simp only [List.cons_append]
          rcases hr : readCount (y :: r) with _ | ⟨hi, _ | ⟨z, r₂⟩⟩ <;> rw [hr] at hc
          · simp [hy, hr, hc]
          · simp [hy, hr, hc]
          · by_cases hz : z = 0x7D
            · subst hz
              simp [hy, hr, hc]
            · simp [hy, hr, hc, hz]
      · by_cases hx' : x = 0x7D
        · subst hx'
          rfl
        · simp [hx, hx']
  · rw [List.cons_append, readBounds_of_ne hb, readBounds_of_ne hb]
    rfl

theorem perlItem?_append (s : Bytes) :
    perlItem? (s ++ closing) = (perlItem? s).map fun p => (p.1, p.2 ++ closing) := by
  rcases s with _ | ⟨b, _ | ⟨x, r⟩⟩
  · rfl
  · unfold perlItem?
    split <;> simp_all
  · simp only [List.cons_append]
    unfold perlItem?
    split <;> simp_all

theorem skipLazy_append (s : Bytes) : Reader.skipLazy (s ++ closing) = Reader.skipLazy s ++ closing := by
  rcases s with _ | ⟨b, r⟩
  · rfl
  · by_cases hb : b = 0x3F
    · subst hb
      rfl
    · simp [Reader.skipLazy, hb]

theorem lazyAfter_append (f : Flags) (s : Bytes) :
    Reader.lazyAfter f (s ++ closing) = Reader.lazyAfter f s := by
  rcases s with _ | ⟨b, r⟩
  · rfl
  · by_cases hb : b = 0x3F
    · subst hb
      rfl
    · simp [Reader.lazyAfter, hb]

theorem octalTail_append (v k : Nat) (s : Bytes) :
    octalTail v k (s ++ closing) = ((octalTail v k s).1, (octalTail v k s).2 ++ closing) := by
  induction k generalizing v s with
  | zero => rfl
  | succ k ih =>
    rcases s with _ | ⟨b, r⟩
    · rfl
    · simp only [List.cons_append, octalTail]
      split
      · exact ih _ r
      · rfl

theorem hexBraced_append {s s' : Bytes} {n m v count : Nat} {t rest : Bytes} (hnm : n ≤ m) :
    ∀ {r : Nat}, hexBraced s n r count t = .ok (v, rest) →
      hexBraced s' m r count (t ++ closing) = .ok (v, rest ++ closing) := by
  induction n generalizing m count t with
  | zero => intro r h; cases h
  | succ n ih =>
    intro r h
    obtain ⟨m, rfl⟩ : ∃ m', m = m' + 1 := ⟨m - 1, by omega⟩
    rcases t with _ | ⟨b, t⟩
    · cases h
    simp only [hexBraced] at h ⊢
    obtain ⟨⟨c, t₁⟩, hc, h⟩ := exists_ok_of_bind_eq_ok h
    have hW := nextRune_append (List.cons_ne_nil b t) hc
    simp only [List.cons_append] at hW ⊢
    rw [hW]
    dsimp only [bind, Except.bind] at h ⊢
    split_ifs at h ⊢
    · cases h
      rfl
    · cases hv : hexValue? c with
      | none =>
        rw [hv] at h
        cases h
      | some d =>
        rw [hv] at h
        dsimp only at h ⊢
        split_ifs at h ⊢
        exact ih (by omega) h

/-- One arm of a chain of one-rune escapes: where the arm does not fire, the rest of the chain
carries the parenthesis. -/
theorem ite_pure_append {p : Prop} [Decidable p] {k c : Nat} {t r : Bytes} {e e' : Except Error (Nat × Bytes)}
    (he : e = .ok (c, r) → e' = .ok (c, r ++ closing)) (h : (if p then pure (k, t) else e) = .ok (c, r)) :
    (if p then pure (k, t ++ closing) else e') = .ok (c, r ++ closing) := by
  by_cases hp : p
  · rw [if_pos hp] at h ⊢
    cases h
    rfl
  · rw [if_neg hp] at h ⊢
    exact he h

theorem escape_append {s : Bytes} {c : Nat} {r : Bytes} (h : escape s = .ok (c, r)) :
    escape (s ++ closing) = .ok (c, r ++ closing) := by
  rcases s with _ | ⟨b, _ | ⟨x, t⟩⟩
  · cases h
  · cases h
  unfold escape at h ⊢
  simp only [List.cons_append, List.drop_succ_cons, List.drop_zero, reduceCtorEq, if_false] at h ⊢
  obtain ⟨⟨c₁, t₁⟩, hc, h⟩ := exists_ok_of_bind_eq_ok h
  rw [← List.cons_append, nextRune_append (List.cons_ne_nil _ _) hc, ok_bind_eq]
  dsimp only at h ⊢
  by_cases h1 : 49 ≤ c₁ ∧ c₁ ≤ 55
  · rw [if_pos h1] at h ⊢
    rcases t₁ with _ | ⟨y, t₁⟩
    · cases h
    simp only [List.cons_append]
    dsimp only at h ⊢
    by_cases hy : isOctal y = true
    · rw [if_pos hy] at h ⊢
      rw [← List.cons_append, octalTail_append, Except.ok.inj h]
      rfl
    · rw [if_neg hy] at h
      cases h
  rw [if_neg h1] at h ⊢
  by_cases h2 : c₁ = 48
  · rw [if_pos h2] at h ⊢
    rw [octalTail_append, Except.ok.inj h]
    rfl
  rw [if_neg h2] at h ⊢
  by_cases h3 : c₁ = 120
  · rw [if_pos h3] at h ⊢
    rcases t₁ with _ | ⟨y, t₁⟩
    · cases h
    rw [if_neg (List.cons_ne_nil _ _)] at h
    rw [if_neg (by simp)]
    obtain ⟨⟨c₂, t₂⟩, hc₂, h⟩ := exists_ok_of_bind_eq_ok h
    rw [← List.cons_append, nextRune_append (List.cons_ne_nil _ _) hc₂, ok_bind_eq]
    dsimp only at h ⊢
    by_cases h4 : c₂ = 123
    · rw [if_pos h4] at h ⊢
      exact hexBraced_append (by simp) h
    rw [if_neg h4] at h ⊢
    rcases t₂ with _ | ⟨z, t₂⟩
    · obtain ⟨⟨c₃, t₃⟩, hc₃, h⟩ := exists_ok_of_bind_eq_ok h
      dsimp only at h
      have hnone : hexValue? c₃ = none := by
        cases hc₃
        rfl
      rw [hnone] at h
      generalize hexValue? c₂ = v at h
      cases v <;> cases h
    obtain ⟨⟨c₃, t₃⟩, hc₃, h⟩ := exists_ok_of_bind_eq_ok h
    rw [nextRune_append (List.cons_ne_nil _ _) hc₃, ok_bind_eq]
    dsimp only at h ⊢
    split at h
    · cases h
      rfl
    · cases h
  rw [if_neg h3] at h ⊢
  iterate 7 refine ite_pure_append (fun h => ?_) h
  cases h

theorem classChar_of_ne (whole : Bytes) {b : UInt8} (hb : b ≠ 0x5C) (t : Bytes) :
    classChar whole (b :: t) = nextRune (b :: t) := by
  unfold classChar
  split
  · next heq => cases heq
  · next heq =>
    cases heq
    exact absurd rfl hb
  · rfl

theorem classChar_append {whole whole' s : Bytes} {c : Nat} {r : Bytes} (h : classChar whole s = .ok (c, r)) :
    classChar whole' (s ++ closing) = .ok (c, r ++ closing) := by
  rcases s with _ | ⟨b, t⟩
  · cases h
  by_cases hb : b = 0x5C
  · subst hb
    exact escape_append h
  · rw [classChar_of_ne whole hb] at h
    rw [List.cons_append, classChar_of_ne whole' hb, ← List.cons_append]
    exact nextRune_append (List.cons_ne_nil b t) h

theorem take_two_append_closing {x y : UInt8} (hy : y ≠ 0x29) {u : Bytes} (hu : u ≠ []) :
    ((u ++ closing).take 2 = [x, y]) ↔ (u.take 2 = [x, y]) := by
  rcases u with _ | ⟨a, _ | ⟨b, u⟩⟩
  · exact absurd rfl hu
  · simp [Ne.symm hy]
  · simp

/-- The first place where a two-byte sequence that does not end in `)` starts is not moved by
the closing parenthesis. -/
theorem findPair_append {x y : UInt8} (hy : y ≠ 0x29) (s : Bytes) :
    (List.range (s ++ closing).length).find? (fun i => ((s ++ closing).drop i).take 2 = [x, y]) =
      (List.range s.length).find? (fun i => (s.drop i).take 2 = [x, y]) := by
  have hlast : ¬ (((s ++ closing).drop s.length).take 2 = [x, y]) := by
    intro h
    rw [List.drop_left] at h
    cases h
  rw [List.length_append, List.length_singleton, List.range_succ, List.find?_append, List.find?_singleton,
    if_neg (by simp only [decide_eq_true_eq]; exact hlast), Option.or_none]
  apply List.find?_congr
  intro i hi
  have hi' : i < s.length := List.mem_range.mp hi
  rw [List.drop_append_of_le_length hi'.le]
  exact decide_eq_decide.mpr (take_two_append_closing hy (by simp [hi']))

theorem posixEnd?_append (s : Bytes) : posixEnd? (s ++ closing) = posixEnd? s :=
  findPair_append (by decide) s

/-- A quoted text closed by `\\E` is read the same with the closing parenthesis after it; one that
runs to the end takes the parenthesis in. -/
theorem untilQuoteEnd_append (s : Bytes) :
    untilQuoteEnd (s ++ closing) = ((untilQuoteEnd s).1, (untilQuoteEnd s).2 ++ closing) ∨
      (untilQuoteEnd s = (s, []) ∧ untilQuoteEnd (s ++ closing) = (s ++ closing, [])) := by
  unfold untilQuoteEnd
  rw [findPair_append (by decide)]
  cases hfind : (List.range s.length).find? (fun i => (s.drop i).take 2 = [0x5C, 0x45]) with
  | none => exact .inr ⟨rfl, rfl⟩
  | some i =>
    left
    have hp := List.find?_some hfind
    have hlen : i + 2 ≤ s.length := by
      have h2 := congrArg List.length (of_decide_eq_true hp)
      simp only [List.length_take, List.length_drop, List.length_cons, List.length_nil] at h2
      omega
    simp only [List.take_append_of_le_length (by omega : i ≤ s.length), List.drop_append_of_le_length hlen]

theorem idxOf?_append_closing {s : Bytes} {a : UInt8} {e : Nat} (h : s.idxOf? a = some e) :
    (s ++ closing).idxOf? a = some e := by
  unfold List.idxOf? at h ⊢
  rw [List.findIdx?_append, h]
  rfl

theorem before_append_closing (s t : Bytes) :
    before (s ++ closing) (t ++ closing) = before s t := by
  unfold before
  rw [List.length_append, List.length_append, Nat.add_sub_add_right,
    List.take_append_of_le_length (Nat.sub_le _ _)]

theorem unicodeItem_append {s : Bytes} {i : Item} {r : Bytes} (h : unicodeItem s = .ok (i, r)) (hs : s.drop 2 ≠ []) :
    unicodeItem (s ++ closing) = .ok (i, r ++ closing) := by
  rcases s with _ | ⟨a, _ | ⟨b, u⟩⟩
  · exact absurd rfl hs
  · exact absurd rfl hs
  have hu : u ≠ [] := hs
  unfold unicodeItem at h ⊢
  simp only [List.cons_append, List.drop_succ_cons, List.drop_zero] at h ⊢
  obtain ⟨⟨c, t⟩, hc, h⟩ := exists_ok_of_bind_eq_ok h
  rw [nextRune_append hu hc, ok_bind_eq]
  dsimp only at h ⊢
  simp only [List.head?_cons] at h ⊢
  by_cases hbrace : c = 0x7B
  · rw [if_neg (not_not_intro hbrace)] at h ⊢
    cases he : List.idxOf? 0x7D (a :: b :: u) with
    | none =>
      rw [he] at h
      obtain ⟨_, -, h⟩ := exists_ok_of_bind_eq_ok h
      cases h
    | some e =>
      have hW := idxOf?_append_closing he
      have hlt : e < (a :: b :: u).length := (List.idxOf?_eq_some_iff.mp he).1
      simp only [List.cons_append] at hW
      rw [he] at h
      rw [hW]
      dsimp only at h ⊢
      obtain ⟨_, hutf, h⟩ := exists_ok_of_bind_eq_ok h
      have hname : ((a :: b :: (u ++ closing)).take e).drop 3 = ((a :: b :: u).take e).drop 3 := by
        rw [← List.cons_append, ← List.cons_append, List.take_append_of_le_length hlt.le]
      have hseq : (a :: b :: (u ++ closing)).take (e + 1) = (a :: b :: u).take (e + 1) := by
        rw [← List.cons_append, ← List.cons_append, List.take_append_of_le_length hlt]
      have hrest : (b :: (u ++ closing)).drop e = (b :: u).drop e ++ closing := by
        rw [← List.cons_append, List.drop_append_of_le_length (by simp only [List.length_cons] at hlt ⊢; omega)]
      rw [hname, hutf, ok_bind_eq, hseq, hrest]
      simp only [pure_bind] at h ⊢
      generalize unicodeClass? _ _ = o at h ⊢
      cases o <;> cases h
      rfl
  · rw [if_pos hbrace] at h ⊢
    rw [← List.cons_append, ← List.cons_append, before_append_closing]
    simp only [pure_bind] at h ⊢
    generalize unicodeClass? _ _ = o at h ⊢
    cases o <;> cases h
    rfl

theorem posixSpan?_of_ne {a b : UInt8} (hab : ¬ (a = 0x5B ∧ b = 0x3A)) (r : Bytes) :
    posixSpan? (a :: b :: r) = none := by
  unfold posixSpan?
  split
  · next heq =>
    cases heq
    exact absurd ⟨rfl, rfl⟩ hab
  · rfl

theorem posixSpan?_append (t : Bytes) :
    posixSpan? (t ++ closing) = (posixSpan? t).map fun p => (p.1, p.2 ++ closing) := by
  rcases t with _ | ⟨a, _ | ⟨b, r⟩⟩
  · rfl
  · unfold posixSpan?
    split <;> simp_all
  by_cases hab : a = 0x5B ∧ b = 0x3A
  · obtain ⟨rfl, rfl⟩ := hab
    simp only [posixSpan?, List.cons_append, List.append_eq_nil_iff, List.cons_ne_nil, and_false,
      if_false, posixEnd?_append]
    rcases r with _ | ⟨x, r⟩
    · rfl
    rw [if_neg (List.cons_ne_nil x r)]
    cases hend : posixEnd? (x :: r) with
    | none => rfl
    | some i =>
      have hp := List.find?_some hend
      have hlen : i + 2 ≤ (x :: r).length := by
        have h2 := congrArg List.length (of_decide_eq_true hp)
        simp only [List.length_take, List.length_drop, List.length_cons, List.length_nil] at h2 ⊢
        omega
      simp only [Option.map_some, List.length_cons] at hlen ⊢
      rw [← List.cons_append, ← List.cons_append,
        List.take_append_of_le_length (by simp only [List.length_cons]; omega),
        List.drop_append_of_le_length (by simp only [List.length_cons]; omega)]
  · rw [List.cons_append, List.cons_append, posixSpan?_of_ne hab, posixSpan?_of_ne hab]
    rfl

/-- A Unicode class named by one rune, not a brace, leaves the text after that rune. -/
theorem unicodeItem_rest_of_nextRune {s : Bytes} {c : Nat} {t : Bytes} (hc : nextRune (s.drop 2) = .ok (c, t))
    (hbrace : c ≠ 0x7B) {i : Item} {r : Bytes} (h : unicodeItem s = .ok (i, r)) : r = t := by
  unfold unicodeItem at h
  rw [hc, ok_bind_eq] at h
  dsimp only at h
  rw [if_pos hbrace] at h
  simp only [pure_bind] at h
  generalize unicodeClass? _ _ = o at h
  cases o <;> cases h
  rfl

/-- A Unicode class with no text after `\\p` reads to the end. -/
theorem unicodeItem_rest_nil {s : Bytes} {i : Item} {r : Bytes} (h : unicodeItem s = .ok (i, r))
    (hs : s.drop 2 = []) : r = [] :=
  unicodeItem_rest_of_nextRune (by rw [hs]; rfl) (by decide) h

theorem unicodeItem_append_of_rest {x : UInt8} {tail : Bytes} {i : Item} {r : Bytes}
    (h : unicodeItem (0x5C :: x :: tail) = .ok (i, r)) (hr : r ≠ []) :
    unicodeItem (0x5C :: x :: (tail ++ closing)) = .ok (i, r ++ closing) := by
  have htail : tail ≠ [] := fun ht => hr (unicodeItem_rest_nil h (by rw [ht]; rfl))
  exact (unicodeItem_append h htail :)

/-- One byte after the added parenthesis: the parenthesis ends the text, and the byte is a
second one of a pair only when it is the parenthesis. -/
theorem eq_cons_cons_of_append_closing {t u : Bytes} {a b : UInt8} (hb : b ≠ 0x29)
    (h : t ++ closing = a :: b :: u) : ∃ u', t = a :: b :: u' := by
  rcases t with _ | ⟨x, _ | ⟨y, v⟩⟩
  · cases h
  · simp only [List.cons_append, List.nil_append, List.cons.injEq] at h
    exact absurd h.2.1.symm hb
  · simp only [List.cons_append, List.cons.injEq] at h
    obtain ⟨rfl, rfl, -⟩ := h
    exact ⟨v, rfl⟩

theorem classItem_append {whole whole' t : Bytes} {item : Item} {r : Bytes} (h : classItem whole t = .ok (item, r))
    (hr : r ≠ []) (hdash : r ≠ [0x2D]) : classItem whole' (t ++ closing) = .ok (item, r ++ closing) := by
  unfold classItem at h ⊢
  rw [posixSpan?_append]
  cases hp : posixSpan? t with
  | some p =>
    obtain ⟨name, rest⟩ := p
    rw [hp] at h
    dsimp only [Option.map_some] at h ⊢
    generalize posixItem? name = o at h ⊢
    cases o <;> cases h
    rfl
  | none =>
    rw [hp] at h
    dsimp only [Option.map_none] at h ⊢
    split at h
    · simp only [List.cons_append]
      exact unicodeItem_append_of_rest h hr
    · simp only [List.cons_append]
      exact unicodeItem_append_of_rest h hr
    · rename_i hp hP
      split
      · rename_i heq
        obtain ⟨u, rfl⟩ := eq_cons_cons_of_append_closing (by decide) heq
        exact absurd rfl (hp u)
      · rename_i heq
        obtain ⟨u, rfl⟩ := eq_cons_cons_of_append_closing (by decide) heq
        exact absurd rfl (hP u)
      · rw [perlItem?_append]
        cases hpi : perlItem? t with
        | some p =>
          rw [hpi] at h
          dsimp only [Option.map_some] at h ⊢
          cases h
          rfl
        | none =>
          rw [hpi] at h
          dsimp only [Option.map_none] at h ⊢
          obtain ⟨⟨lo, t₁⟩, hlo, h⟩ := exists_ok_of_bind_eq_ok h
          rw [classChar_append hlo, ok_bind_eq]
          dsimp only at h ⊢
          rcases t₁ with _ | ⟨x, _ | ⟨y, v⟩⟩
          · cases h
            rfl
          · split at h
            · rename_i heq
              simp at heq
            · cases h
              have hx : x ≠ 0x2D := fun hx => hdash (by rw [hx])
              split
              · rename_i heq
                simp only [List.cons_append, List.nil_append, List.cons.injEq] at heq
                exact absurd heq.1 hx
              · rfl
          · split at h
            · rename_i heq
              simp only [List.cons.injEq] at heq
              obtain ⟨rfl, rfl, rfl⟩ := heq
              simp only [List.cons_append]
              by_cases hy : y = 0x5D
              · rw [if_pos hy] at h ⊢
                cases h
                rfl
              · rw [if_neg hy] at h ⊢
                obtain ⟨⟨hi, t₂⟩, hhi, h⟩ := exists_ok_of_bind_eq_ok h
                simp only [List.drop_succ_cons, List.drop_zero] at hhi ⊢
                rw [← List.cons_append, classChar_append hhi, ok_bind_eq]
                dsimp only at h ⊢
                split_ifs at h ⊢
                cases h
                rfl
            · rename_i hnot
              cases h
              split
              · rename_i heq
                simp only [List.cons_append, List.cons.injEq] at heq
                obtain ⟨rfl, rfl, -⟩ := heq
                exact absurd rfl (hnot _ v)
              · rfl

theorem classItems_succ_close (whole : Bytes) (n : Nat) (items : List Item) (rest : Bytes) :
    classItems whole (n + 1) false items (0x5D :: rest) = .ok (items, rest) := rfl

theorem classItems_succ_item {whole : Bytes} {n : Nat} {first : Bool} {items : List Item} {t : Bytes}
    (h : ¬ (∃ rest, t = 0x5D :: rest ∧ first = false)) :
    classItems whole (n + 1) first items t =
      classItem whole t >>= fun p => classItems whole n false (p.1 :: items) p.2 := by
  conv => lhs; unfold classItems
  split
  · rename_i rest
    have hfirst : first = true := by
      cases first
      · exact absurd ⟨rest, rfl, rfl⟩ h
      · rfl
    subst hfirst
    rfl
  · rfl

theorem classItems_nil {whole : Bytes} {n : Nat} {first : Bool} {items items' : List Item} {r : Bytes} :
    classItems whole n first items [] ≠ .ok (items', r) := by
  intro h
  cases n with
  | zero => cases h
  | succ n =>
    rw [classItems_succ_item (by simp)] at h
    cases h

theorem classItems_dash {whole : Bytes} {n : Nat} {first : Bool} {items items' : List Item} {r : Bytes} :
    classItems whole n first items [0x2D] ≠ .ok (items', r) := by
  intro h
  cases n with
  | zero => cases h
  | succ n =>
    rw [classItems_succ_item (by simp)] at h
    exact classItems_nil h

theorem classItems_append {whole whole' : Bytes} {n m : Nat} (hnm : n ≤ m) :
    ∀ {first : Bool} {items items' : List Item} {t r : Bytes},
      classItems whole n first items t = .ok (items', r) →
        classItems whole' m first items (t ++ closing) = .ok (items', r ++ closing) := by
  induction n generalizing m with
  | zero => intro first items items' t r h; cases h
  | succ n ih =>
    intro first items items' t r h
    obtain ⟨m, rfl⟩ : ∃ m', m = m' + 1 := ⟨m - 1, by omega⟩
    by_cases hclose : ∃ rest, t = 0x5D :: rest ∧ first = false
    · obtain ⟨rest, rfl, rfl⟩ := hclose
      rw [classItems_succ_close] at h
      cases h
      rfl
    · have hclose' : ¬ (∃ rest, t ++ closing = 0x5D :: rest ∧ first = false) := by
        rintro ⟨rest, ht, hfirst⟩
        rcases t with _ | ⟨b, t⟩
        · cases ht
        · simp only [List.cons_append, List.cons.injEq] at ht
          exact hclose ⟨t, by rw [ht.1], hfirst⟩
      rw [classItems_succ_item hclose] at h
      rw [classItems_succ_item hclose']
      obtain ⟨⟨item, rest⟩, hi, h⟩ := exists_ok_of_bind_eq_ok h
      have hrest : rest ≠ [] := fun hr => classItems_nil (hr ▸ h)
      have hdash : rest ≠ [0x2D] := fun hr => classItems_dash (hr ▸ h)
      rw [classItem_append hi hrest hdash, ok_bind_eq]
      exact ih (by omega) h

theorem bracket_append {fold : Bool} {s : Bytes} {rs : Ranges} {r : Bytes} (h : bracket fold s = .ok (rs, r)) :
    bracket fold (s ++ closing) = .ok (rs, r ++ closing) := by
  unfold bracket at h ⊢
  rcases s with _ | ⟨b, _ | ⟨x, u⟩⟩
  · obtain ⟨_, hi, -⟩ := exists_ok_of_bind_eq_ok h
    exact absurd hi classItems_nil
  · obtain ⟨_, hi, -⟩ := exists_ok_of_bind_eq_ok h
    exact absurd hi classItems_nil
  simp only [List.cons_append, List.drop_succ_cons, List.drop_zero] at h ⊢
  by_cases hx : x = 0x5E
  · subst hx
    simp only at h ⊢
    obtain ⟨⟨items, rest⟩, hi, h⟩ := exists_ok_of_bind_eq_ok h
    rw [classItems_append (by simp) hi, ok_bind_eq]
    cases h
    rfl
  · split at h
    · rename_i heq
      simp only [List.cons.injEq] at heq
      exact absurd heq.1 hx
    · split
      · rename_i heq
        simp only [List.cons.injEq] at heq
        exact absurd heq.1 hx
      · dsimp only at h ⊢
        obtain ⟨⟨items, rest⟩, hi, h⟩ := exists_ok_of_bind_eq_ok h
        rw [← List.cons_append, classItems_append (by simp) hi, ok_bind_eq]
        cases h
        rfl

theorem captureStart?_append_of_some {s : Bytes} {k : Nat} (h : captureStart? s = some k) :
    captureStart? (s ++ closing) = some k := by
  unfold captureStart? at h
  split at h
  · cases h
    rfl
  · cases h
    rfl
  · cases h

theorem captureStart?_append_of_none {s : Bytes} {k : Nat} (h : captureStart? s = none)
    (h' : captureStart? (s ++ closing) = some k) :
    s = [0x28, 0x3F, 0x50, 0x3C] ∨ s = [0x28, 0x3F, 0x3C] := by
  unfold captureStart? at h'
  split at h'
  · rename_i heq
    rcases s with _ | ⟨a₁, _ | ⟨a₂, _ | ⟨a₃, _ | ⟨a₄, _ | ⟨a₅, v⟩⟩⟩⟩⟩ <;>
      simp only [List.cons_append, List.nil_append, List.cons.injEq, reduceCtorEq, and_false] at heq
    · obtain ⟨rfl, rfl, rfl, rfl, -⟩ := heq
      exact .inl rfl
    · obtain ⟨rfl, rfl, rfl, rfl, -⟩ := heq
      cases h
  · rename_i heq
    rcases s with _ | ⟨a₁, _ | ⟨a₂, _ | ⟨a₃, _ | ⟨a₄, v⟩⟩⟩⟩ <;>
      simp only [List.cons_append, List.nil_append, List.cons.injEq, reduceCtorEq, and_false] at heq
    · obtain ⟨rfl, rfl, rfl, -⟩ := heq
      exact .inr rfl
    · obtain ⟨rfl, rfl, rfl, -⟩ := heq
      cases h
  · cases h'

end SyntaxShade.Pattern
