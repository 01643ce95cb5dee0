import SyntaxShade.Proofs.Grammar.Build
import SyntaxShade.Pattern.Parse
import Mathlib.Tactic.SplitIfs
/-! What each operation of the expression reader leaves on its stack, exactly. -/
namespace SyntaxShade.Pattern.Reader

/-- Two states of the reader that differ at most in their counters. -/
structure SameStack (st st' : Reader) : Prop where
  stack : st'.stack = st.stack
  flags : st'.flags = st.flags
  lastRepeat : st'.lastRepeat = st.lastRepeat

theorem SameStack.refl (st : Reader) : SameStack st st := ⟨rfl, rfl, rfl⟩

theorem SameStack.trans {st₁ st₂ st₃ : Reader} (h₁ : SameStack st₁ st₂) (h₂ : SameStack st₂ st₃) :
    SameStack st₁ st₃ :=
  ⟨h₂.stack.trans h₁.stack, h₂.flags.trans h₁.flags, h₂.lastRepeat.trans h₁.lastRepeat⟩

theorem sameStack_make (st : Reader) : SameStack st st.make := by
  unfold make
  split <;> exact ⟨rfl, rfl, rfl⟩

@[simp] theorem make_stack (st : Reader) : st.make.stack = st.stack := (sameStack_make st).stack

@[simp] theorem make_flags (st : Reader) : st.make.flags = st.flags := (sameStack_make st).flags

@[simp] theorem make_lastRepeat (st : Reader) : st.make.lastRepeat = st.lastRepeat :=
  (sameStack_make st).lastRepeat

theorem sameStack_giveUp (st : Reader) (k : Nat) : SameStack st (st.giveUp k) := ⟨rfl, rfl, rfl⟩

theorem sameStack_of_checkSize {st st' : Reader} {t : Option Tree} (h : st.checkSize t = .ok st') :
    SameStack st st' := by
  unfold checkSize refuse at h
  dsimp only at h
  split_ifs at h <;> cases h
  all_goals exact ⟨rfl, rfl, rfl⟩

theorem sameStack_of_checkLimits {st st' : Reader} {t : Option Tree} (h : st.checkLimits t = .ok st') :
    SameStack st st' := by
  unfold checkLimits refuse at h
  dsimp only at h
  split_ifs at h <;> cases hs : st.checkSize t <;> rw [hs] at h <;> cases h
  exact sameStack_of_checkSize hs

theorem sameStack_dropString (st : Reader) (n : Nat) (t : Tree) : SameStack st (st.dropString n t).1 := by
  unfold dropString
  split
  · split
    · split
      · split <;> exact ⟨rfl, rfl, rfl⟩
      · exact .refl st
    · exact .refl st
  · split <;> exact .refl st
  · exact .refl st

theorem sameStack_dropPiece (st : Reader) (reuse : Bool) (t : Tree) : SameStack st (st.dropPiece reuse t).1 := by
  unfold dropPiece
  split
  · split <;> split <;> exact ⟨rfl, rfl, rfl⟩
  · exact (show SameStack st (if reuse then st.giveUp 1 else st) by split <;> exact ⟨rfl, rfl, rfl⟩).trans
      (sameStack_make _)

theorem sameStack_joinPieces (st : Reader) (run : List Tree) : SameStack st (st.joinPieces run).1 := by
  unfold joinPieces
  split <;> exact ⟨rfl, rfl, rfl⟩

theorem sameStack_joinRuns (st : Reader) (subs run : List Tree) : SameStack st (st.joinRuns subs run).1 := by
  induction subs generalizing st run with
  | nil => exact sameStack_joinPieces st run.reverse
  | cons x xs ih =>
    unfold joinRuns
    split
    · exact ih st (x :: run)
    · exact (sameStack_joinPieces st run.reverse).trans (ih _ [])

/-- Every success of `r` leaves the stack, the flags and the last repetition of `st`. -/
def KeepsStack {α : Type} (st : Reader) (r : Except Error (Reader × α)) : Prop :=
  ∀ st' a, r = .ok (st', a) → SameStack st st'

namespace KeepsStack

variable {α β : Type} {st st' : Reader}

theorem ok (h : SameStack st st') (a : α) : KeepsStack st (.ok (st', a)) := by
  intro _ _ h'
  cases h'
  exact h

theorem of_sameStack {r : Except Error (Reader × α)} (h : SameStack st st') (hr : KeepsStack st' r) :
    KeepsStack st r :=
  fun _ _ h' => h.trans (hr _ _ h')

/-- A run followed by a continuation that keeps the stack of whatever state it starts from. -/
theorem bind {x : Except Error (Reader × α)} {f : Reader × α → Except Error (Reader × β)}
    (hx : KeepsStack st x) (hf : ∀ s a, KeepsStack s (f (s, a))) : KeepsStack st (x >>= f) := by
  intro s b h
  obtain ⟨⟨r, a⟩, hx', h⟩ := exists_ok_of_bind_eq_ok h
  exact (hx _ _ hx').trans (hf r a _ _ h)

end KeepsStack

theorem keepsStack_dropStrings (st : Reader) (n : Nat) (subs : List Tree) :
    KeepsStack st (st.dropStrings n subs) := by
  induction subs generalizing st with
  | nil => exact .ok (.refl st) _
  | cons t rest ih =>
    intro st' ts h
    unfold dropStrings at h
    obtain ⟨s₁, h₁, h⟩ := exists_ok_of_bind_eq_ok h
    obtain ⟨⟨s₂, us⟩, h₂, h⟩ := exists_ok_of_bind_eq_ok h
    cases h
    exact ((sameStack_dropString st n t).trans (sameStack_of_checkLimits h₁)).trans (ih _ _ _ h₂)

theorem keepsStack_dropPieces (st : Reader) (reuse : Bool) (subs : List Tree) :
    KeepsStack st (st.dropPieces reuse subs) := by
  induction subs generalizing st reuse with
  | nil => exact .ok (.refl st) _
  | cons t rest ih =>
    intro st' ts h
    unfold dropPieces at h
    obtain ⟨s₁, h₁, h⟩ := exists_ok_of_bind_eq_ok h
    obtain ⟨⟨s₂, us⟩, h₂, h⟩ := exists_ok_of_bind_eq_ok h
    cases h
    exact ((sameStack_dropPiece st reuse t).trans (sameStack_of_checkLimits h₁)).trans (ih _ _ _ _ h₂)

/-- Whether an alternative that starts with the piece `g` joins a run of round two led by `f`. -/
def joinsRun : Option Tree → Option Tree → Bool
  | some f, some g => f.same g && f.factorable
  | _, _ => false

theorem byPiece_cons (st : Reader) (x : Tree) (xs run : List Tree) (first : Option Tree) (n : Nat) :
    byPiece st (x :: xs) run first (n + 1) =
      if joinsRun first x.leadingPiece then byPiece st xs (x :: run) first n
      else pieceRun st run.reverse first n >>= fun p =>
        byPiece p.1 xs [x] x.leadingPiece n >>= fun q => pure (q.1, p.2 ++ q.2) := by
  simp only [byPiece]
  cases first <;> cases x.leadingPiece <;> rfl

/-- Factoring an alternation changes nothing of the reader but its counters. -/
theorem sameStack_of_factoring (fuel : Nat) :
    (∀ st alt subs, KeepsStack st (collapse st alt subs fuel)) ∧
    (∀ st subs, KeepsStack st (factor st subs fuel)) ∧
    (∀ st subs run str fold, KeepsStack st (byString st subs run str fold fuel)) ∧
    (∀ st run str fold, KeepsStack st (stringRun st run str fold fuel)) ∧
    (∀ st subs run first, KeepsStack st (byPiece st subs run first fuel)) ∧
    (∀ st run first, KeepsStack st (pieceRun st run first fuel)) := by
  induction fuel with
  | zero => exact ⟨fun st _ _ => .ok (.refl st) _, fun st _ => .ok (.refl st) _,
      fun st _ _ _ _ => .ok (.refl st) _, fun st _ _ _ => .ok (.refl st) _,
      fun st _ _ _ => .ok (.refl st) _, fun st _ _ => .ok (.refl st) _⟩
  | succ n ih =>
    obtain ⟨hcollapse, hfactor, hbyString, hstringRun, hbyPiece, hpieceRun⟩ := ih
    refine ⟨?_, ?_, ?_, ?_, ?_, ?_⟩
    · intro st alt subs
      simp only [collapse]
      split
      · exact .ok (.refl st) _
      · have hflat := (sameStack_make st).trans (sameStack_giveUp _ (flatten alt subs).2)
        split
        · exact .ok hflat _
        · refine .of_sameStack hflat ((hfactor _ _).bind fun s fs => ?_)
          dsimp only
          split
          · exact .ok (sameStack_giveUp s 1) _
          · exact .ok (.refl s) _
    · intro st subs
      simp only [factor]
      split
      · exact .ok (.refl st) _
      · exact (hbyString _ _ _ _ _).bind fun _ _ => (hbyPiece _ _ _ _).bind fun s us =>
          .ok (sameStack_joinRuns s us []) _
    · intro st subs run str fold
      cases subs with
      | nil => exact hstringRun _ _ _ _
      | cons x xs =>
        simp only [byString]
        split
        · exact hbyString _ _ _ _ _
        · exact (hstringRun _ _ _ _).bind fun _ _ => (hbyString _ _ _ _ _).bind fun s _ => .ok (.refl s) _
    · intro st run str fold
      simp only [stringRun]
      split
      · exact .ok (.refl st) _
      · exact .ok (.refl st) _
      · exact .of_sameStack (sameStack_make st) ((keepsStack_dropStrings _ _ _).bind fun _ _ =>
          (hcollapse _ _ _).bind fun s _ => .ok (sameStack_make s) _)
    · intro st subs run first
      cases subs with
      | nil => exact hpieceRun _ _ _
      | cons x xs =>
        rw [byPiece_cons]
        split
        · exact hbyPiece _ _ _ _
        · exact (hpieceRun _ _ _).bind fun _ _ => (hbyPiece _ _ _ _).bind fun s _ => .ok (.refl s) _
    · intro st run first
      simp only [pieceRun]
      split
      · exact .ok (.refl st) _
      · exact .ok (.refl st) _
      · exact .ok (.refl st) _
      · exact (keepsStack_dropPieces _ _ _).bind fun _ _ =>
          (hcollapse _ _ _).bind fun s _ => .ok (sameStack_make s) _

theorem dropString_snd (st st' : Reader) (n : Nat) (t : Tree) :
    (st.dropString n t).2 = (st'.dropString n t).2 := by
  unfold dropString
  split
  · split
    · split
      · split <;> rfl
      · rfl
    · rfl
  · split <;> rfl
  · rfl

theorem dropPiece_snd (st st' : Reader) (reuse : Bool) (t : Tree) :
    (st.dropPiece reuse t).2 = (st'.dropPiece reuse t).2 := by
  unfold dropPiece
  split
  · split <;> split <;> rfl
  · rfl

theorem joinPieces_snd (st st' : Reader) (run : List Tree) :
    (st.joinPieces run).2 = (st'.joinPieces run).2 := by
  unfold joinPieces
  split <;> rfl

theorem joinRuns_snd (subs : List Tree) : ∀ (st st' : Reader) (run : List Tree),
    (st.joinRuns subs run).2 = (st'.joinRuns subs run).2 := by
  induction subs with
  | nil =>
    intro st st' run
    simp only [joinRuns, joinPieces_snd st st']
  | cons x xs ih =>
    intro st st' run
    unfold joinRuns
    split
    · exact ih st st' (x :: run)
    · simp only [joinPieces_snd st st', ih (st.joinPieces run.reverse).1 (st'.joinPieces run.reverse).1]

/-- Two runs of the reader that, whenever both succeed, give the same output, whatever counters
each ends with. -/
def SameOutput {α : Type} (r₁ r₂ : Except Error (Reader × α)) : Prop :=
  ∀ s₁ s₂ a₁ a₂, r₁ = .ok (s₁, a₁) → r₂ = .ok (s₂, a₂) → a₁ = a₂

namespace SameOutput

variable {α β : Type}

theorem ok (s₁ s₂ : Reader) (a : α) : SameOutput (.ok (s₁, a)) (.ok (s₂, a)) := by
  intro _ _ _ _ h₁ h₂
  cases h₁
  cases h₂
  rfl

/-- Two runs in step stay in step under one continuation whose output depends on the output it
is given and not on the counters. -/
theorem bind {x₁ x₂ : Except Error (Reader × α)} {f : Reader × α → Except Error (Reader × β)}
    (hx : SameOutput x₁ x₂) (hf : ∀ s₁ s₂ a, SameOutput (f (s₁, a)) (f (s₂, a))) :
    SameOutput (x₁ >>= f) (x₂ >>= f) := by
  intro s₁ s₂ b₁ b₂ h₁ h₂
  obtain ⟨⟨r₁, a₁⟩, hx₁, h₁⟩ := exists_ok_of_bind_eq_ok h₁
  obtain ⟨⟨r₂, a₂⟩, hx₂, h₂⟩ := exists_ok_of_bind_eq_ok h₂
  obtain rfl := hx _ _ _ _ hx₁ hx₂
  exact hf r₁ r₂ a₁ _ _ _ _ h₁ h₂

end SameOutput

theorem sameOutput_dropStrings (n : Nat) (subs : List Tree) :
    ∀ st₁ st₂ : Reader, SameOutput (st₁.dropStrings n subs) (st₂.dropStrings n subs) := by
  induction subs with
  | nil => exact fun st₁ st₂ => .ok st₁ st₂ []
  | cons t rest ih =>
    intro st₁ st₂ s₁ s₂ ts₁ ts₂ h₁ h₂
    unfold dropStrings at h₁ h₂
    obtain ⟨c₁, -, h₁⟩ := exists_ok_of_bind_eq_ok h₁
    obtain ⟨⟨r₁, us₁⟩, hr₁, h₁⟩ := exists_ok_of_bind_eq_ok h₁
    obtain ⟨c₂, -, h₂⟩ := exists_ok_of_bind_eq_ok h₂
    obtain ⟨⟨r₂, us₂⟩, hr₂, h₂⟩ := exists_ok_of_bind_eq_ok h₂
    cases h₁
    cases h₂
    exact congr (congrArg List.cons (dropString_snd st₁ st₂ n t)) (ih _ _ _ _ _ _ hr₁ hr₂)

theorem sameOutput_dropPieces (subs : List Tree) :
    ∀ (reuse : Bool) (st₁ st₂ : Reader),
      SameOutput (st₁.dropPieces reuse subs) (st₂.dropPieces reuse subs) := by
  induction subs with
  | nil => exact fun _ st₁ st₂ => .ok st₁ st₂ []
  | cons t rest ih =>
    intro reuse st₁ st₂ s₁ s₂ ts₁ ts₂ h₁ h₂
    unfold dropPieces at h₁ h₂
    obtain ⟨c₁, -, h₁⟩ := exists_ok_of_bind_eq_ok h₁
    obtain ⟨⟨r₁, us₁⟩, hr₁, h₁⟩ := exists_ok_of_bind_eq_ok h₁
    obtain ⟨c₂, -, h₂⟩ := exists_ok_of_bind_eq_ok h₂
    obtain ⟨⟨r₂, us₂⟩, hr₂, h₂⟩ := exists_ok_of_bind_eq_ok h₂
    cases h₁
    cases h₂
    exact congr (congrArg List.cons (dropPiece_snd st₁ st₂ reuse t)) (ih _ _ _ _ _ _ _ hr₁ hr₂)

/-- The trees that factoring builds depend on the pieces alone, not on the reader's counters. -/
theorem factoring_tree_eq (fuel : Nat) :
    (∀ st₁ st₂ alt subs, SameOutput (collapse st₁ alt subs fuel) (collapse st₂ alt subs fuel)) ∧
    (∀ st₁ st₂ subs, SameOutput (factor st₁ subs fuel) (factor st₂ subs fuel)) ∧
    (∀ st₁ st₂ subs run str fold,
      SameOutput (byString st₁ subs run str fold fuel) (byString st₂ subs run str fold fuel)) ∧
    (∀ st₁ st₂ run str fold,
      SameOutput (stringRun st₁ run str fold fuel) (stringRun st₂ run str fold fuel)) ∧
    (∀ st₁ st₂ subs run first,
      SameOutput (byPiece st₁ subs run first fuel) (byPiece st₂ subs run first fuel)) ∧
    (∀ st₁ st₂ run first, SameOutput (pieceRun st₁ run first fuel) (pieceRun st₂ run first fuel)) := by
  induction fuel with
  | zero => exact ⟨fun _ _ _ _ => .ok _ _ _, fun _ _ _ => .ok _ _ _, fun _ _ _ _ _ _ => .ok _ _ _,
      fun _ _ _ _ _ => .ok _ _ _, fun _ _ _ _ _ => .ok _ _ _, fun _ _ _ _ => .ok _ _ _⟩
  | succ n ih =>
    obtain ⟨hcollapse, hfactor, hbyString, hstringRun, hbyPiece, hpieceRun⟩ := ih
    -- every branch is decided by the pieces alone, so both runs take the same one
    refine ⟨?_, ?_, ?_, ?_, ?_, ?_⟩
    · intro st₁ st₂ alt subs
      simp only [collapse]
      split
      · exact .ok _ _ _
      · split
        · exact .ok _ _ _
        · refine (hfactor _ _ _).bind fun _ _ fs => ?_
          dsimp only
          split <;> exact .ok _ _ _
    · intro st₁ st₂ subs
      simp only [factor]
      split
      · exact .ok _ _ _
      · refine (hbyString _ _ _ _ _ _).bind fun _ _ _ => (hbyPiece _ _ _ _ _).bind fun r₁ r₂ vs => ?_
        dsimp only
        rw [joinRuns_snd vs r₁ r₂]
        exact .ok _ _ _
    · intro st₁ st₂ subs run str fold
      cases subs with
      | nil => exact hstringRun _ _ _ _ _
      | cons x xs =>
        simp only [byString]
        split
        · exact hbyString _ _ _ _ _ _
        · exact (hstringRun _ _ _ _ _).bind fun _ _ _ => (hbyString _ _ _ _ _ _).bind fun _ _ _ => .ok _ _ _
    · intro st₁ st₂ run str fold
      simp only [stringRun]
      split
      · exact .ok _ _ _
      · exact .ok _ _ _
      · exact (sameOutput_dropStrings _ _ _ _).bind fun _ _ _ =>
          (hcollapse _ _ _ _).bind fun _ _ _ => .ok _ _ _
    · intro st₁ st₂ subs run first
      cases subs with
      | nil => exact hpieceRun _ _ _ _
      | cons x xs =>
        rw [byPiece_cons, byPiece_cons]
        split
        · exact hbyPiece _ _ _ _ _
        · exact (hpieceRun _ _ _ _).bind fun _ _ _ => (hbyPiece _ _ _ _ _).bind fun _ _ _ => .ok _ _ _
    · intro st₁ st₂ run first
      simp only [pieceRun]
      split
      · exact .ok _ _ _
      · exact .ok _ _ _
      · exact .ok _ _ _
      · exact (sameOutput_dropPieces _ _ _ _).bind fun _ _ _ =>
          (hcollapse _ _ _ _).bind fun _ _ _ => .ok _ _ _

/-! ### The structure of the stack -/

/-- A stack whose top entry is no piece. -/
def NoPieceOnTop (s : List Entry) : Prop := ∀ t, s.head? ≠ some (.piece t)

/-- A bottom of the stack that starts with a group marker, or the empty one. -/
def Floor (base : List Entry) : Prop := ∀ e ∈ base.head?, ∃ f c, e = .group f c

theorem Floor.noPieceOnTop {base : List Entry} (h : Floor base) : NoPieceOnTop base := by
  intro t ht
  obtain ⟨f, c, he⟩ := h _ ht
  cases he

theorem NoPieceOnTop.cases {base : List Entry} (hb : NoPieceOnTop base) :
    base = [] ∨ (∃ f c rest, base = .group f c :: rest) ∨ ∃ rest, base = .bar :: rest := by
  match base, hb with
  | [], _ => exact .inl rfl
  | .piece t :: rest, hb => exact absurd rfl (hb t)
  | .group f c :: rest, _ => exact .inr (.inl ⟨f, c, rest, rfl⟩)
  | .bar :: rest, _ => exact .inr (.inr ⟨rest, rfl⟩)

/-- Two entries on top of the stack, joined when both are literals that fold alike. -/
def joinPair : Entry → Entry → List Entry
  | .piece (.literal r₁ f₁), .piece (.literal r₂ f₂) =>
    if f₁ == f₂ then [.piece (.literal (r₂ ++ r₁) f₂)] else [.piece (.literal r₁ f₁), .piece (.literal r₂ f₂)]
  | e₁, e₂ => [e₁, e₂]

theorem joinPair_of_not_literals {e₁ e₂ : Entry}
    (h : ∀ r₁ f₁ r₂ f₂, ¬ (e₁ = .piece (.literal r₁ f₁) ∧ e₂ = .piece (.literal r₂ f₂))) :
    joinPair e₁ e₂ = [e₁, e₂] := by
  unfold joinPair
  split
  · next r₁ f₁ r₂ f₂ => exact absurd ⟨rfl, rfl⟩ (h r₁ f₁ r₂ f₂)
  · rfl

/-- The stack after joining the two literals on top, as `joinTop` does. -/
def joinEntries : List Entry → List Entry
  | e₁ :: e₂ :: rest => joinPair e₁ e₂ ++ rest
  | s => s

theorem joinTop_stack (st : Reader) : st.joinTop.stack = joinEntries st.stack := by
  unfold joinTop
  split
  · next r₁ f₁ r₂ f₂ rest hs =>
    by_cases hf : (f₁ == f₂) = true
    · simp [hf, hs, joinEntries, joinPair]
    · simp [hf, hs, joinEntries, joinPair]
  · next hs =>
    match hst : st.stack with
    | e₁ :: e₂ :: rest =>
      rw [joinEntries, joinPair_of_not_literals fun r₁ f₁ r₂ f₂ ⟨h₁, h₂⟩ =>
        hs r₁ f₁ r₂ f₂ rest (by rw [hst, h₁, h₂])]
      rfl
    | [] => rfl
    | [e] => rfl

@[simp] theorem joinTop_flags (st : Reader) : st.joinTop.flags = st.flags := by
  unfold joinTop
  split
  · split <;> rfl
  · rfl

@[simp] theorem joinTop_lastRepeat (st : Reader) : st.joinTop.lastRepeat = st.lastRepeat := by
  unfold joinTop
  split
  · split <;> rfl
  · rfl

theorem joinEntries_of_noPieceOnTop {s : List Entry} (h : NoPieceOnTop s) : joinEntries s = s := by
  match s with
  | e₁ :: e₂ :: rest =>
    rw [joinEntries, joinPair_of_not_literals fun _ _ _ _ ⟨h₁, _⟩ => h _ (congrArg some h₁)]
    rfl
  | [] => rfl
  | [e] => rfl

theorem joinEntries_append {S base : List Entry} (hb : NoPieceOnTop base) :
    joinEntries (S ++ base) = joinEntries S ++ base := by
  match S with
  | [] => exact joinEntries_of_noPieceOnTop hb
  | [e] =>
    match base, hb with
    | [], _ => rfl
    | e₂ :: rest, hb =>
      show joinPair e e₂ ++ rest = e :: e₂ :: rest
      rw [joinPair_of_not_literals fun _ _ _ _ ⟨_, h₂⟩ => hb _ (congrArg some h₂)]
      rfl
  | e₁ :: e₂ :: S => simp [joinEntries]

theorem splitTop_go_append (acc : List Tree) (S : List Entry) {base : List Entry} (hb : NoPieceOnTop base) :
    splitTop.go acc (S ++ base) = ((splitTop.go acc S).1, (splitTop.go acc S).2 ++ base) := by
  induction S generalizing acc with
  | nil => rcases hb.cases with rfl | ⟨f, c, rest, rfl⟩ | ⟨rest, rfl⟩ <;> rfl
  | cons e S ih =>
    cases e with
    | piece t => exact ih (t :: acc)
    | group f c => rfl
    | bar => rfl

theorem splitTop_append (S : List Entry) {base : List Entry} (hb : NoPieceOnTop base) :
    splitTop (S ++ base) = ((splitTop S).1, (splitTop S).2 ++ base) :=
  splitTop_go_append [] S hb

theorem noPieceOnTop_splitTop_go (acc : List Tree) (s : List Entry) : NoPieceOnTop (splitTop.go acc s).2 := by
  induction s generalizing acc with
  | nil => intro t h; cases h
  | cons e s ih =>
    cases e with
    | piece t => exact ih (t :: acc)
    | group f c => intro t h; cases h
    | bar => intro t h; cases h

/-! ### The operations of the reader on its stack -/

theorem joinEntries_of_not_pair {s : List Entry}
    (h : ∀ r₁ f₁ r₂ f₂ rest, s ≠ .piece (.literal r₁ f₁) :: .piece (.literal r₂ f₂) :: rest) :
    joinEntries s = s := by
  match s with
  | e₁ :: e₂ :: rest =>
    rw [joinEntries]
    unfold joinPair
    split
    · next r₁ f₁ r₂ f₂ => exact absurd rfl (h r₁ f₁ r₂ f₂ rest)
    · rfl
  | [] => rfl
  | [e] => rfl

/-- The piece that `push` puts on the stack for a tree: a class of one rune, or of a case pair,
goes on as a literal. -/
def pushedPiece (t : Tree) : Tree :=
  match t.single? with
  | some (c, fold) => .literal [c] fold
  | none => t

theorem push_stack {st st' : Reader} {t : Tree} (h : st.push t = .ok st') :
    st'.stack = .piece (pushedPiece t) :: joinEntries st.stack ∧ st'.flags = st.flags ∧
      st'.lastRepeat = st.lastRepeat := by
  unfold push at h
  unfold pushedPiece
  cases hsingle : t.single? with
  | some p =>
    obtain ⟨c, fold⟩ := p
    simp only [hsingle] at h
    split at h
    · next r₁ f₁ r₂ f₂ rest hs =>
      split at h
      · next hf =>
        cases h
        exact ⟨by simp [hs, hf, joinEntries, joinPair], rfl, rfl⟩
      · next hf =>
        have h' := sameStack_of_checkLimits h
        exact ⟨by rw [h'.stack]; simp [hs, hf, joinEntries, joinPair], h'.flags, h'.lastRepeat⟩
    · next hs =>
      have h' := sameStack_of_checkLimits h
      exact ⟨by rw [h'.stack, joinEntries_of_not_pair hs], h'.flags, h'.lastRepeat⟩
  | none =>
    simp only [hsingle] at h
    have h' := sameStack_of_checkLimits h
    exact ⟨by rw [h'.stack, joinTop_stack], by rw [h'.flags]; exact joinTop_flags _,
      by rw [h'.lastRepeat]; exact joinTop_lastRepeat _⟩

theorem op_stack {st st' : Reader} {t : Tree} (h : st.op t = .ok st') :
    st'.stack = .piece (pushedPiece t) :: joinEntries st.stack ∧ st'.flags = st.flags ∧
      st'.lastRepeat = st.lastRepeat := by
  obtain ⟨hs, hf, hl⟩ := push_stack h
  have hm := sameStack_make st
  exact ⟨by rw [hs, hm.stack], hf.trans hm.flags, hl.trans hm.lastRepeat⟩

theorem literal_stack {st st' : Reader} {c : Nat} (h : st.literal c = .ok st') :
    ∃ u, st'.stack = .piece u :: joinEntries st.stack ∧ st'.flags = st.flags ∧
      st'.lastRepeat = st.lastRepeat := by
  unfold literal at h
  split at h <;> exact ⟨_, op_stack h⟩

theorem pushMarker_stack {st st' : Reader} {e : Entry} (h : st.pushMarker e = .ok st') :
    st'.stack = e :: joinEntries st.stack ∧ st'.flags = st.flags ∧ st'.lastRepeat = st.lastRepeat := by
  have h' := sameStack_of_checkLimits h
  exact ⟨by rw [h'.stack, joinTop_stack], by rw [h'.flags]; exact joinTop_flags _,
    by rw [h'.lastRepeat]; exact joinTop_lastRepeat _⟩

theorem push_stack_of_noPieceOnTop {st st' : Reader} {t : Tree} (h : st.push t = .ok st')
    (hs : NoPieceOnTop st.stack) :
    ∃ u, st'.stack = .piece u :: st.stack ∧ st'.flags = st.flags ∧ st'.lastRepeat = st.lastRepeat := by
  obtain ⟨hst, hf, hl⟩ := push_stack h
  exact ⟨_, by rw [hst, joinEntries_of_noPieceOnTop hs], hf, hl⟩

theorem concat_stack {st st' : Reader} (h : st.concat = .ok st') :
    ∃ u, st'.stack = .piece u :: (splitTop (joinEntries st.stack)).2 ∧ st'.flags = st.flags ∧
      st'.lastRepeat = st.lastRepeat := by
  unfold concat at h
  dsimp only at h
  have hbelow : NoPieceOnTop (splitTop st.joinTop.stack).2 := noPieceOnTop_splitTop_go _ _
  split at h
  · obtain ⟨u, hs, hf, hl⟩ := push_stack_of_noPieceOnTop h (by simpa using hbelow)
    refine ⟨u, ?_, ?_, ?_⟩
    · simp [hs, joinTop_stack]
    · simp [hf]
    · simp [hl]
  · obtain ⟨⟨s₁, t⟩, h₁, h⟩ := exists_ok_of_bind_eq_ok h
    have hc := (sameStack_of_factoring _).1 _ _ _ _ _ h₁
    obtain ⟨u, hs, hf, hl⟩ := push_stack_of_noPieceOnTop h (hc.stack ▸ hbelow)
    refine ⟨u, ?_, ?_, ?_⟩
    · rw [hs, hc.stack, joinTop_stack]
    · rw [hf, hc.flags]
      exact joinTop_flags _
    · rw [hl, hc.lastRepeat]
      exact joinTop_lastRepeat _

theorem alternate_stack {st st' : Reader} (h : st.alternate = .ok st') :
    ∃ u, st'.stack = .piece u :: (splitTop st.stack).2 ∧ st'.flags = st.flags ∧
      st'.lastRepeat = st.lastRepeat := by
  unfold alternate at h
  dsimp only at h
  have hbelow : NoPieceOnTop (splitTop st.stack).2 := noPieceOnTop_splitTop_go _ _
  split at h
  · obtain ⟨u, hs, hf, hl⟩ := push_stack_of_noPieceOnTop h (by simpa using hbelow)
    exact ⟨u, by simp [hs], by simp [hf], by simp [hl]⟩
  · obtain ⟨⟨s₁, t⟩, h₁, h⟩ := exists_ok_of_bind_eq_ok h
    have hc := (sameStack_of_factoring _).1 _ _ _ _ _ h₁
    obtain ⟨u, hs, hf, hl⟩ := push_stack_of_noPieceOnTop h (hc.stack ▸ hbelow)
    exact ⟨u, by rw [hs, hc.stack], by rw [hf, hc.flags], by rw [hl, hc.lastRepeat]⟩

/-- The stack below a bar after the alternative `a` on top is moved under it, as `swapBar` does. -/
def barBelow (a : Tree) : List Entry → List Entry
  | .piece b :: rest =>
    if a.isCharClass && b.isCharClass then
      .piece ((if a.rank > b.rank then (a, b) else (b, a)).1.absorb
        (if a.rank > b.rank then (a, b) else (b, a)).2) :: rest
    else .piece a :: .piece b.tidy :: rest
  | rest => .piece a :: rest

theorem swapBar_of_bar {st : Reader} {a : Tree} {rest : List Entry} (hs : st.stack = .piece a :: .bar :: rest) :
    st.swapBar.2 = true ∧ st.swapBar.1.stack = .bar :: barBelow a rest ∧ st.swapBar.1.flags = st.flags ∧
      st.swapBar.1.lastRepeat = st.lastRepeat := by
  unfold swapBar
  rw [hs]
  match rest with
  | .piece b :: rest =>
    dsimp only
    split <;> simp [barBelow, *]
  | [] => exact ⟨rfl, rfl, rfl, rfl⟩
  | .group f c :: rest => exact ⟨rfl, rfl, rfl, rfl⟩
  | .bar :: rest => exact ⟨rfl, rfl, rfl, rfl⟩

theorem swapBar_of_not_bar {st : Reader} {a : Tree} {below : List Entry}
    (hs : st.stack = .piece a :: below) (hb : below.head? ≠ some .bar) : st.swapBar = (st, false) := by
  unfold swapBar
  rw [hs]
  match below with
  | .piece b :: rest => rfl
  | [] => rfl
  | .group f c :: rest => rfl
  | .bar :: rest => exact absurd rfl hb

theorem barBelow_append (a : Tree) (R : List Entry) {base : List Entry} (hb : NoPieceOnTop base) :
    barBelow a (R ++ base) = barBelow a R ++ base := by
  match R with
  | .piece b :: R => simp only [List.cons_append, barBelow]; split <;> rfl
  | .group f c :: R => rfl
  | .bar :: R => rfl
  | [] => rcases hb.cases with rfl | ⟨f, c, rest, rfl⟩ | ⟨rest, rfl⟩ <;> rfl

/-- A bar's alternative moved below the bar, or the alternative alone when no bar is there. -/
def afterBar (u : Tree) : List Entry → List Entry
  | .bar :: rest => barBelow u rest
  | below => .piece u :: below

theorem afterBar_append (u : Tree) (R : List Entry) {base : List Entry} (hb : Floor base) :
    afterBar u (R ++ base) = afterBar u R ++ base := by
  match R with
  | .bar :: R => exact barBelow_append u R hb.noPieceOnTop
  | .piece t :: R => rfl
  | .group f c :: R => rfl
  | [] =>
    match base, hb with
    | [], _ => rfl
    | e :: rest, hb =>
      obtain ⟨f, c, rfl⟩ := hb e rfl
      rfl

theorem afterBar_of_not_bar (u : Tree) {below : List Entry} (h : below.head? ≠ some .bar) :
    afterBar u below = .piece u :: below := by
  match below with
  | .bar :: rest => exact absurd rfl h
  | .piece t :: rest => rfl
  | .group f c :: rest => rfl
  | [] => rfl

theorem endAlternation_stack {st st' : Reader} (h : st.endAlternation = .ok st') :
    ∃ u v, st'.stack = .piece v :: (splitTop (afterBar u (splitTop (joinEntries st.stack)).2)).2 ∧
      st'.flags = st.flags ∧ st'.lastRepeat = st.lastRepeat := by
  unfold endAlternation at h
  obtain ⟨s₁, h₁, h⟩ := exists_ok_of_bind_eq_ok h
  obtain ⟨u, hs, hf, hl⟩ := concat_stack h₁
  refine ⟨u, ?_⟩
  by_cases hbar : (splitTop (joinEntries st.stack)).2.head? = some .bar
  · obtain ⟨rest, hb⟩ := List.head?_eq_some_iff.mp hbar
    rw [hb] at hs
    obtain ⟨htrue, hstack, hflags, hlast⟩ := swapBar_of_bar hs
    rw [show s₁.swapBar = (s₁.swapBar.1, true) from Prod.ext rfl htrue] at h
    obtain ⟨v, hs', hf', hl'⟩ := alternate_stack h
    refine ⟨v, ?_, ?_, ?_⟩
    · rw [hs', hb]
      simp only [hstack, List.drop_succ_cons, List.drop_zero]
      rfl
    · rw [hf', ← hf]
      exact hflags
    · rw [hl', ← hl]
      exact hlast
  · rw [swapBar_of_not_bar hs hbar] at h
    obtain ⟨v, hs', hf', hl'⟩ := alternate_stack h
    refine ⟨v, ?_, hf'.trans hf, hl'.trans hl⟩
    rw [hs', hs, afterBar_of_not_bar u hbar]

theorem closeGroup_stack {st st' : Reader} (h : st.closeGroup = .ok st') :
    ∃ st₁, st.endAlternation = .ok st₁ ∧ ∃ t saved capturing rest,
      st₁.stack = .piece t :: .group saved capturing :: rest ∧
      st'.stack = .piece (pushedPiece (if capturing then .capture t else t)) :: joinEntries rest ∧
      st'.flags = saved ∧ st'.lastRepeat = st₁.lastRepeat := by
  unfold closeGroup at h
  obtain ⟨s₁, h₁, h⟩ := exists_ok_of_bind_eq_ok h
  refine ⟨s₁, h₁, ?_⟩
  split at h
  · next t saved capturing rest hs =>
    obtain ⟨hw, hf, hl⟩ := push_stack h
    exact ⟨t, saved, capturing, rest, hs, hw, hf, hl⟩
  · cases h

theorem finish_stack {st : Reader} {T : Tree} (h : st.finish = .ok T) :
    ∃ st₁, st.endAlternation = .ok st₁ ∧ st₁.stack = [.piece T] := by
  unfold finish at h
  obtain ⟨s₁, h₁, h⟩ := exists_ok_of_bind_eq_ok h
  refine ⟨s₁, h₁, ?_⟩
  split at h
  · next t hs =>
    cases h
    exact hs
  · cases h

/-- The text after a repetition operator, past the `?` that asks for fewer copies. -/
def skipLazy : Bytes → Bytes
  | 0x3F :: rest => rest
  | rest => rest

/-- Whether a repetition asks for fewer copies: the reader's default, turned round by a `?` after
the operator. -/
def lazyAfter (flags : Flags) : Bytes → Bool
  | 0x3F :: _ => !flags.nonGreedy
  | _ => flags.nonGreedy

theorem repeatTop_stack {st st' : Reader} {r : Repetition} {op after after' : Bytes}
    (h : st.repeatTop r op after = .ok (st', after')) :
    st.lastRepeat = [] ∧ (∃ t rest, st.stack = .piece t :: rest ∧
      st'.stack = .piece (r.apply t (lazyAfter st.flags after)) :: rest) ∧
      st'.flags = st.flags ∧ st'.lastRepeat = op ∧ after' = skipLazy after := by
  unfold repeatTop at h
  dsimp only at h
  split at h
  · cases h
  · next hlast =>
    refine ⟨by simpa using hlast, ?_⟩
    split at h
    · next t rest hs =>
      obtain ⟨s₁, h₁, h⟩ := exists_ok_of_bind_eq_ok h
      have h₁' := sameStack_of_checkLimits h₁
      split_ifs at h
      · cases h
        refine ⟨⟨t, rest, hs, ?_⟩, h₁'.flags.trans (make_flags st), rfl, ?_⟩
        · rw [h₁'.stack]
          rcases after with _ | ⟨b, rest⟩
          · rfl
          · by_cases hb : b = 0x3F
            · subst hb
              rfl
            · simp [lazyAfter, hb]
        · rcases after with _ | ⟨b, rest⟩
          · rfl
          · by_cases hb : b = 0x3F
            · subst hb
              rfl
            · simp [skipLazy, hb]
    · cases h

end SyntaxShade.Pattern.Reader
