import SyntaxShade.Chain
import Mathlib.Data.List.Perm.Subperm
/-! Walks through a chain's arena (`Chain.Path`) and the well-formed chains they describe
(`Chain.Spans`), whose computed walks are their slots in order. -/
namespace SyntaxShade.Chain

/-- `Path links step i l j`: following `step` from slot `i` visits the slots `l`, in order, and
arrives at `j`. -/
inductive Path (links : Array Link) (step : Link → Option Nat) :
    Option Nat → List Nat → Option Nat → Prop
  | nil (i : Option Nat) : Path links step i [] i
  | cons {i : Nat} {k : Link} {l : List Nat} {j : Option Nat} :
      links[i]? = some k → Path links step (step k) l j → Path links step (some i) (i :: l) j

/-- The chain is a doubly linked list whose slots, from the head on, are `ord`. -/
structure Spans (c : Chain) (ord : List Nat) : Prop where
  forward : Path c.links Link.next c.head ord none
  backward : Path c.links Link.prev c.tail ord.reverse none
  nodup : ord.Nodup
  size_eq : c.size = ord.length

namespace Path

variable {links links' : Array Link} {step : Link → Option Nat}

theorem nil_iff {i j : Option Nat} : Path links step i [] j ↔ i = j := by
  constructor
  · rintro ⟨⟩
    rfl
  · rintro rfl
    exact .nil i

theorem cons_iff {i j : Option Nat} {x : Nat} {l : List Nat} :
    Path links step i (x :: l) j ↔
      i = some x ∧ ∃ k, links[x]? = some k ∧ Path links step (step k) l j := by
  constructor
  · rintro (_ | ⟨hk, hp⟩)
    exact ⟨rfl, _, hk, hp⟩
  · rintro ⟨rfl, k, hk, hp⟩
    exact .cons hk hp

theorem append_iff {i j : Option Nat} {l₁ l₂ : List Nat} :
    Path links step i (l₁ ++ l₂) j ↔ ∃ m, Path links step i l₁ m ∧ Path links step m l₂ j := by
  induction l₁ generalizing i with
  | nil =>
    constructor
    · intro h
      exact ⟨i, .nil i, h⟩
    · rintro ⟨m, h₁, h₂⟩
      rwa [nil_iff.mp h₁]
  | cons x l ih =>
    simp only [List.cons_append, cons_iff, ih]
    constructor
    · rintro ⟨rfl, k, hk, m, h₁, h₂⟩
      exact ⟨m, ⟨rfl, k, hk, h₁⟩, h₂⟩
    · rintro ⟨m, ⟨rfl, k, hk, h₁⟩, h₂⟩
      exact ⟨rfl, k, hk, m, h₁, h₂⟩

theorem singleton_iff {i j : Option Nat} {x : Nat} :
    Path links step i [x] j ↔ i = some x ∧ ∃ k, links[x]? = some k ∧ step k = j := by
  simp only [cons_iff, nil_iff]

theorem start {i j : Option Nat} {l : List Nat} (h : Path links step i l j) (hl : l ≠ []) :
    i = l.head? := by
  cases h with
  | nil => exact absurd rfl hl
  | cons => rfl

theorem start_of_none {i : Option Nat} {l : List Nat} (h : Path links step i l none) :
    i = l.head? := by
  cases h with
  | nil => rfl
  | cons => rfl

theorem lt_size {i j : Option Nat} {l : List Nat} (h : Path links step i l j) {x : Nat}
    (hx : x ∈ l) : x < links.size := by
  induction h with
  | nil => simp at hx
  | @cons y k l j hk _ ih =>
    rcases List.mem_cons.mp hx with rfl | hx
    · exact (Array.getElem?_eq_some_iff.mp hk).1
    · exact ih hx

/-- A walk survives any change to the arena that keeps `step` at the slots it visits. -/
theorem frame {i j : Option Nat} {l : List Nat} (h : Path links step i l j)
    (hl : ∀ x ∈ l, (links'[x]?).map step = (links[x]?).map step) : Path links' step i l j := by
  induction h with
  | nil i => exact .nil i
  | @cons x k l j hk _ ih =>
    have hx := hl x List.mem_cons_self
    rw [hk, Option.map_some] at hx
    obtain ⟨k', hk', hs⟩ := Option.map_eq_some_iff.mp hx
    exact .cons hk' (hs ▸ ih fun y hy => hl y (List.mem_cons_of_mem _ hy))

theorem follow_eq {c : Chain} {i : Option Nat} {l : List Nat} (h : Path c.links step i l none)
    {n : Nat} (hn : l.length ≤ n) : c.follow step n i = l := by
  induction l generalizing i n with
  | nil =>
    rw [nil_iff.mp h]
    cases n <;> rfl
  | cons x l ih =>
    obtain ⟨rfl, k, hk, hp⟩ := cons_iff.mp h
    obtain ⟨n, rfl⟩ : ∃ m, n = m + 1 := ⟨n - 1, by simp at hn; omega⟩
    simp only [follow, hk, Option.bind_some]
    rw [ih hp (by simpa using hn)]

end Path

variable {c : Chain} {ord : List Nat}

/-! ### The arena after each operation -/

theorem getElem?_push_links_of_lt (c : Chain) (t : Token) {x : Nat} (hx : x < c.links.size) :
    (c.push t).links[x]? =
      if c.tail = some x then (c.links[x]?).map fun k => { k with next := some c.links.size }
      else c.links[x]? := by
  have hne : x ≠ c.links.size := Nat.ne_of_lt hx
  unfold push
  cases htail : c.tail with
  | none => simp [Array.getElem?_push, hne]
  | some j => by_cases hj : j = x <;> simp [Array.getElem?_modify, Array.getElem?_push, hne, hj]

theorem getElem?_push_links_size (c : Chain) (t : Token)
    (htail : ∀ j, c.tail = some j → j < c.links.size) :
    (c.push t).links[c.links.size]? = some ⟨t, c.tail, none⟩ := by
  unfold push
  cases h : c.tail with
  | none => simp
  | some j =>
    have : j ≠ c.links.size := Nat.ne_of_lt (htail j h)
    rw [Array.getElem?_modify, if_neg this, Array.getElem?_push_size]

theorem getElem?_retag_links (c : Chain) (i : Nat) (l : Lexeme) (x : Nat) :
    (c.retag i l).links[x]? =
      if i = x then (c.links[x]?).map fun k => { k with token := { k.token with lexeme := l } }
      else c.links[x]? :=
  Array.getElem?_modify

theorem tokenAt_of_getElem? {x : Nat} {k : Link} (hk : c.links[x]? = some k) :
    c.tokenAt (some x) = k.token := by
  simp [tokenAt, hk]

theorem tokenAt_push_size (c : Chain) (t : Token)
    (htail : ∀ j, c.tail = some j → j < c.links.size) :
    (c.push t).tokenAt (some c.links.size) = t := by
  simp [tokenAt, getElem?_push_links_size c t htail]

theorem tokenAt_push_of_lt (c : Chain) (t : Token) {x : Nat} (hx : x < c.links.size) :
    (c.push t).tokenAt (some x) = c.tokenAt (some x) := by
  by_cases htail : c.tail = some x <;> cases hk : c.links[x]? <;>
    simp [tokenAt, getElem?_push_links_of_lt c t hx, htail, hk]

theorem tokenAt_retag (c : Chain) (i : Nat) (l : Lexeme) {x : Nat} (hx : x < c.links.size) :
    (c.retag i l).tokenAt (some x) =
      if i = x then { c.tokenAt (some x) with lexeme := l } else c.tokenAt (some x) := by
  obtain ⟨k, hk⟩ : ∃ k, c.links[x]? = some k := ⟨c.links[x], Array.getElem?_eq_getElem hx⟩
  by_cases hi : i = x <;> simp [tokenAt, getElem?_retag_links, hk, hi]

theorem map_step_retag_links (c : Chain) (i : Nat) (l : Lexeme) (x : Nat)
    (step : Link → Option Nat) (hstep : ∀ k : Link, ∀ t : Token, step { k with token := t } = step k) :
    ((c.retag i l).links[x]?).map step = (c.links[x]?).map step := by
  rw [getElem?_retag_links]
  split
  · cases c.links[x]? <;> simp [hstep]
  · rfl

/-- The tokens in a list of slots. -/
def tokensAt (c : Chain) (l : List Nat) : List Token := l.map fun x => c.tokenAt (some x)

@[simp] theorem tokensAt_nil (c : Chain) : c.tokensAt [] = [] := rfl

@[simp] theorem tokensAt_cons (c : Chain) (x : Nat) (l : List Nat) :
    c.tokensAt (x :: l) = c.tokenAt (some x) :: c.tokensAt l := rfl

@[simp] theorem tokensAt_append (c : Chain) (l₁ l₂ : List Nat) :
    c.tokensAt (l₁ ++ l₂) = c.tokensAt l₁ ++ c.tokensAt l₂ := List.map_append

theorem tokensAt_congr {c' : Chain} {l : List Nat}
    (h : ∀ x ∈ l, c'.tokenAt (some x) = c.tokenAt (some x)) : c'.tokensAt l = c.tokensAt l :=
  List.map_congr_left h

theorem tokensAt_append_eq {c' : Chain} {l₁ l₂ : List Nat}
    (h : c'.tokensAt (l₁ ++ l₂) = c.tokensAt (l₁ ++ l₂)) :
    c'.tokensAt l₁ = c.tokensAt l₁ ∧ c'.tokensAt l₂ = c.tokensAt l₂ := by
  rw [tokensAt_append, tokensAt_append] at h
  exact List.append_inj h (by simp [tokensAt])

theorem tokensAt_append_singleton_eq {c' : Chain} {l : List Nat} {x : Nat}
    (h : c'.tokensAt (l ++ [x]) = c.tokensAt (l ++ [x])) :
    c'.tokensAt l = c.tokensAt l ∧ c'.tokenAt (some x) = c.tokenAt (some x) := by
  obtain ⟨hl, hx⟩ := tokensAt_append_eq h
  exact ⟨hl, List.singleton_inj.mp hx⟩

/-! ### Well-formed chains -/

theorem spans_empty : empty.Spans [] :=
  ⟨.nil none, .nil none, List.nodup_nil, rfl⟩

theorem Spans.lt_size (h : c.Spans ord) {x : Nat} (hx : x ∈ ord) : x < c.links.size :=
  h.forward.lt_size hx

theorem Spans.length_le (h : c.Spans ord) : ord.length ≤ c.links.size := by
  have hsub : ord.Subperm (List.range c.links.size) :=
    List.subperm_of_subset h.nodup fun x hx => List.mem_range.mpr (h.lt_size hx)
  simpa using hsub.length_le

theorem Spans.head_eq (h : c.Spans ord) : c.head = ord.head? := by
  by_cases hord : ord = []
  · subst hord
    exact Path.nil_iff.mp h.forward
  · exact h.forward.start hord

theorem Spans.tail_eq (h : c.Spans ord) : c.tail = ord.getLast? := by
  by_cases hord : ord = []
  · subst hord
    exact Path.nil_iff.mp h.backward
  · rw [h.backward.start (by simpa using hord), List.head?_reverse]

theorem Spans.order_eq (h : c.Spans ord) : c.order = ord :=
  h.forward.follow_eq h.length_le

theorem Spans.backward_eq (h : c.Spans ord) : c.backward = ord.reverse :=
  h.backward.follow_eq (by simpa using h.length_le)

theorem Spans.tokens_eq (h : c.Spans ord) : c.tokens = c.tokensAt ord := by
  rw [tokens, h.order_eq, tokensAt]

theorem Spans.not_mem_left {done rest : List Nat} {x : Nat} (h : c.Spans (done ++ x :: rest)) :
    x ∉ done := fun hx =>
  (List.nodup_append.mp h.nodup).2.2 x hx x List.mem_cons_self rfl

theorem Spans.not_mem_right {done rest : List Nat} {x : Nat} (h : c.Spans (done ++ x :: rest)) :
    x ∉ rest :=
  (List.nodup_cons.mp (List.nodup_append.mp h.nodup).2.1).1

theorem Spans.getElem?_eq {done rest : List Nat} {x : Nat} (h : c.Spans (done ++ x :: rest)) :
    ∃ k, c.links[x]? = some k ∧ k.next = rest.head? := by
  obtain ⟨m, -, hwalk⟩ := Path.append_iff.mp h.forward
  obtain ⟨-, k, hk, hp⟩ := Path.cons_iff.mp hwalk
  exact ⟨k, hk, hp.start_of_none⟩

theorem Spans.next_eq {done rest : List Nat} {x : Nat} (h : c.Spans (done ++ x :: rest)) :
    c.next (some x) = rest.head? := by
  obtain ⟨k, hk, hnext⟩ := h.getElem?_eq
  simp [Chain.next, hk, hnext]

theorem Spans.tail_lt_size (h : c.Spans ord) : ∀ j, c.tail = some j → j < c.links.size := fun _ hj =>
  h.lt_size (List.mem_of_getLast? (h.tail_eq ▸ hj))

/-- Pushing appends a fresh slot to a well-formed chain. -/
theorem Spans.push (h : c.Spans ord) (t : Token) : (c.push t).Spans (ord ++ [c.links.size]) := by
  have htail := h.tail_lt_size
  have hfresh : c.links.size ∉ ord := fun hx => Nat.lt_irrefl _ (h.lt_size hx)
  have hnew := getElem?_push_links_size c t htail
  have hsize : (c.push t).size = c.size + 1 := by
    unfold Chain.push
    cases c.tail <;> rfl
  have htl : (c.push t).tail = some c.links.size := by
    unfold Chain.push
    cases c.tail <;> rfl
  have hprev : ∀ x ∈ ord, ((c.push t).links[x]?).map Link.prev = (c.links[x]?).map Link.prev := by
    intro x hx
    rw [getElem?_push_links_of_lt c t (h.lt_size hx)]
    split <;> cases c.links[x]? <;> rfl
  refine ⟨?_, ?_, ?_, ?_⟩
  · cases hct : c.tail with
    | none =>
      have hord : ord = [] := List.getLast?_eq_none_iff.mp (h.tail_eq.symm.trans hct)
      subst hord
      have hhd : (c.push t).head = some c.links.size := by
        unfold Chain.push
        rw [hct]
      rw [hhd]
      exact .cons hnew (.nil none)
    | some j =>
      obtain ⟨pre, rfl⟩ := List.getLast?_eq_some_iff.mp (h.tail_eq.symm.trans hct)
      have hhd : (c.push t).head = c.head := by
        unfold Chain.push
        rw [hct]
      obtain ⟨m, hpre, hj⟩ := Path.append_iff.mp h.forward
      obtain ⟨rfl, k, hk, -⟩ := Path.singleton_iff.mp hj
      have hjlt : j < c.links.size := htail j hct
      rw [hhd, List.append_assoc, Path.append_iff]
      refine ⟨some j, hpre.frame fun x hx => ?_, ?_⟩
      · have hxj : c.tail ≠ some x := by
          rw [hct]
          rintro ⟨⟩
          exact h.not_mem_left hx
        rw [getElem?_push_links_of_lt c t (h.lt_size (by simp [hx])), if_neg hxj]
      · refine .cons (k := { k with next := some c.links.size }) ?_ (.cons hnew (.nil none))
        rw [getElem?_push_links_of_lt c t hjlt, if_pos hct, hk]
        rfl
  · rw [htl, List.reverse_append, List.reverse_singleton, List.singleton_append]
    exact .cons hnew (h.backward.frame fun x hx => hprev x (List.mem_reverse.mp hx))
  · exact List.nodup_append.mpr ⟨h.nodup, by simp, fun x hx y hy => by
      rw [List.mem_singleton.mp hy]
      rintro rfl
      exact hfresh hx⟩
  · rw [hsize, h.size_eq, List.length_append, List.length_singleton]

theorem Spans.tokens_push (h : c.Spans ord) (t : Token) : (c.push t).tokens = c.tokens ++ [t] := by
  rw [(h.push t).tokens_eq, h.tokens_eq, tokensAt_append, tokensAt_cons, tokensAt_nil,
    tokenAt_push_size c t h.tail_lt_size, tokensAt_congr fun x hx => tokenAt_push_of_lt c t (h.lt_size hx)]

/-- Pushing a list of tokens keeps a chain well formed and appends them to its tokens. -/
theorem Spans.pushAll (h : c.Spans ord) (ts : List Token) :
    ∃ ord', (c.pushAll ts).Spans ord' ∧ (c.pushAll ts).tokens = c.tokens ++ ts := by
  induction ts generalizing c ord with
  | nil => exact ⟨ord, h, by simp [Chain.pushAll]⟩
  | cons t ts ih =>
    obtain ⟨ord', h', htoks⟩ := ih (h.push t)
    refine ⟨ord', h', ?_⟩
    change ((c.push t).pushAll ts).tokens = _
    rw [htoks, h.tokens_push, List.append_assoc, List.singleton_append]

theorem Spans.retag (h : c.Spans ord) (i : Nat) (l : Lexeme) : (c.retag i l).Spans ord where
  forward := h.forward.frame fun x _ => map_step_retag_links c i l x Link.next fun _ _ => rfl
  backward := h.backward.frame fun x _ => map_step_retag_links c i l x Link.prev fun _ _ => rfl
  nodup := h.nodup
  size_eq := h.size_eq

theorem Spans.tokens_retag (h : c.Spans ord) (i : Nat) (l : Lexeme) :
    (c.retag i l).tokens =
      ord.map fun x => if i = x then { c.tokenAt (some x) with lexeme := l } else c.tokenAt (some x) := by
  rw [(h.retag i l).tokens_eq, tokensAt]
  exact List.map_congr_left fun x hx => tokenAt_retag c i l (h.lt_size hx)

/-- Retagging a slot keeps the tokens of the slots of the walk that avoid it. -/
theorem Spans.tokensAt_retag_of_not_mem (h : c.Spans ord) (i : Nat) (l : Lexeme) {ys : List Nat}
    (hsub : ys ⊆ ord) (hi : i ∉ ys) : (c.retag i l).tokensAt ys = c.tokensAt ys :=
  tokensAt_congr fun y hy => by
    rw [tokenAt_retag c i l (h.lt_size (hsub hy)), if_neg]
    rintro rfl
    exact hi hy

end SyntaxShade.Chain
