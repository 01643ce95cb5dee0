import SyntaxShade.Proofs.Grammar.Stages
import SyntaxShade.Proofs.Region.CloserSearch
import Mathlib.Data.List.SplitBy
/-! Classifying is a reference lexer: the text is scanned into regions and runes
(`Grammar.scanPieces`), and runs of one class are grouped into tokens
(`Grammar.classify_eq_lex`). -/
namespace SyntaxShade

namespace Region

/-- Offset `i` of a region's body starts the closer, and no odd run of backslashes inside the body
stands right before it. -/
def closesAt (closer body : Bytes) (i : Nat) : Bool :=
  closer.isPrefixOf (body.drop i) && trailingBackslashes (body.take i) % 2 == 0

/-- How far the region that a text opens with reaches: just past the first closer of its body
that is not escaped, or to the end of the text when there is none. -/
def extent (r : Region) (s : Bytes) : Nat :=
  let body := s.drop r.opener.length
  match (List.range (body.length + 1)).find? (closesAt r.closer body) with
  | some i => r.opener.length + i + r.closer.length
  | none => s.length

theorem extent_pos (r : Region) (b : UInt8) (t : Bytes) : 0 < r.extent (b :: t) := by
  have : 0 < r.closer.length := List.length_pos_iff.mpr r.closer_ne
  unfold extent
  dsimp only
  split
  · omega
  · simp

theorem closesAt_iff (r : Region) (s : Bytes) (window i : Nat) :
    closesAt r.closer (s.drop window) i = true ↔ r.ClosesAt s window (window + i) := by
  rw [closesAt, ClosesAt, List.drop_take, List.drop_drop, Nat.add_sub_cancel_left,
    Bool.and_eq_true, List.isPrefixOf_iff_prefix, beq_iff_eq]

/-- The closer search from a window finds what a search of the body, offset by offset, finds. -/
theorem indexOfTo_eq_find (r : Region) (s : Bytes) (window : Nat) :
    r.indexOfTo s window =
      ((List.range ((s.drop window).length + 1)).find? (closesAt r.closer (s.drop window))).map
        (window + ·) := by
  apply indexOfTo_answer.unique
  cases hfind : (List.range ((s.drop window).length + 1)).find? (closesAt r.closer (s.drop window)) with
  | some i =>
    obtain ⟨hi, -, hbefore⟩ := List.find?_range_eq_some.mp hfind
    show r.FirstCloser s window (window + i)
    refine ⟨Nat.le_add_right window i, (closesAt_iff r s window i).mp hi, fun j hwj hj hclose => ?_⟩
    have hnot := hbefore (j - window) (by omega)
    rw [Bool.not_eq_true', ← Bool.not_eq_true, closesAt_iff, Nat.add_sub_cancel' hwj] at hnot
    exact hnot hclose
  | none =>
    intro idx hidx hclose
    have hin : idx - window < (s.drop window).length + 1 := by
      have := add_length_le_of_prefix hclose.1
      rw [List.length_drop]
      omega
    have hnot := List.find?_range_eq_none.mp hfind (idx - window) hin
    rw [Bool.not_eq_true', ← Bool.not_eq_true, closesAt_iff, Nat.add_sub_cancel' hidx] at hnot
    exact hnot hclose

theorem span_eq_extent (r : Region) (s : Bytes) : r.span s = r.extent s := by
  unfold span endAt extent
  dsimp only
  rw [Nat.zero_add, indexOfTo_eq_find]
  cases (List.range ((s.drop r.opener.length).length + 1)).find?
      (closesAt r.closer (s.drop r.opener.length)) with
  | some i => rfl
  | none => rfl

end Region

theorem Rune.take_width_ne_nil (b : UInt8) (t : Bytes) : (b :: t).take (decode (b :: t)).width ≠ [] := by
  simp [List.take_eq_nil_iff, Nat.pos_iff_ne_zero.mp (width_pos b t)]

namespace Grammar

/-- A piece of scanned text: a region that a rule claims, or one rune with its coarse class. -/
inductive Piece where
  | region (text : Bytes) (lexeme : Lexeme)
  | rune (bytes : Bytes) (lexeme : Lexeme)

namespace Piece

/-- The bytes of a piece. -/
def text : Piece → Bytes
  | region t _ => t
  | rune b _ => b

/-- The lexeme of a piece. -/
def lexeme : Piece → Lexeme
  | region _ l => l
  | rune _ l => l

/-- Neighbouring pieces of one run: two runes of one class. -/
def sameRun : Piece → Piece → Bool
  | rune _ l, rune _ l' => decide (l = l')
  | _, _ => false

/-- The token of a run of pieces: their bytes, joined, with the lexeme of the first. -/
def runToken (run : List Piece) : Token := ⟨run.flatMap text, (run.head?.map lexeme).getD .empty⟩

@[simp] theorem sameRun_region_left (t : Bytes) (l : Lexeme) (p : Piece) :
    sameRun (region t l) p = false := rfl

@[simp] theorem sameRun_region_right (p : Piece) (t : Bytes) (l : Lexeme) :
    sameRun p (region t l) = false := by
  cases p <;> rfl

@[simp] theorem runToken_region (t : Bytes) (l : Lexeme) : runToken [region t l] = ⟨t, l⟩ := by
  simp [runToken, text, lexeme]

theorem splitBy_region_cons (t : Bytes) (l : Lexeme) (ps : List Piece) :
    (region t l :: ps).splitBy sameRun = [region t l] :: ps.splitBy sameRun := by
  rw [← List.singleton_append, List.splitBy_append (by simp)]
  rfl

end Piece

/-- The pieces of a text, scanned from its start. Where the opener of a region rule starts, the
first such rule, in order, claims a region up to its extent; anywhere else the rune that starts
there is a piece. -/
def scanPieces (regions : List Region) (s : Bytes) : List Piece :=
  match s with
  | [] => []
  | b :: t =>
    match regions.find? fun r => r.opener.isPrefixOf (b :: t) with
    | some r =>
      .region ((b :: t).take (r.extent (b :: t))) r.lexeme ::
        scanPieces regions ((b :: t).drop (r.extent (b :: t)))
    | none =>
      let rune := Rune.decode (b :: t)
      .rune ((b :: t).take rune.width) (Lexeme.ofRune rune.code) ::
        scanPieces regions ((b :: t).drop rune.width)
termination_by s.length
decreasing_by
  all_goals simp only [List.length_drop, List.length_cons]
  · have := Region.extent_pos r b t
    omega
  · have := Rune.width_pos b t
    omega

/-- The reference lexer: each region, and each maximal run of neighbouring runes of one class, is
one token; empty text is the one empty token. -/
def lex (g : Grammar) (code : Bytes) (regions : Bool) : List Token :=
  if code = [] then [⟨[], .empty⟩]
  else ((scanPieces (if regions then g.regions else []) code).splitBy Piece.sameRun).map Piece.runToken

theorem scanPieces_of_region {regions : List Region} {b : UInt8} {t : Bytes} {r : Region}
    (h : Region.first? regions (b :: t) = some r) :
    scanPieces regions (b :: t) =
      .region ((b :: t).take (r.span (b :: t))) r.lexeme ::
        scanPieces regions ((b :: t).drop (r.span (b :: t))) := by
  rw [scanPieces, show regions.find? _ = some r from h, Region.span_eq_extent r _]

theorem scanPieces_of_rune {regions : List Region} {b : UInt8} {t : Bytes}
    (h : Region.first? regions (b :: t) = none) :
    scanPieces regions (b :: t) =
      .rune ((b :: t).take (Rune.decode (b :: t)).width) (Lexeme.ofRune (Rune.decode (b :: t)).code) ::
        scanPieces regions ((b :: t).drop (Rune.decode (b :: t)).width) := by
  rw [scanPieces, show regions.find? _ = none from h]

/-! ### The pending run -/

/-- A pending run of class `cls`, as the rune pieces it was read from. -/
structure Pending (run : Bytes) (cls : Lexeme) (pre : List Piece) : Prop where
  runes : ∀ p ∈ pre, ∃ b, p = .rune b cls
  nil_iff : pre = [] ↔ run = []
  text : pre.flatMap Piece.text = run.reverse

theorem Pending.empty (cls : Lexeme) : Pending [] cls [] := ⟨by simp, by simp, rfl⟩

theorem Pending.push {run : Bytes} {cls : Lexeme} {pre : List Piece} (h : Pending run cls pre)
    {bytes : Bytes} (hb : bytes ≠ []) : Pending (bytes.reverse ++ run) cls (pre ++ [.rune bytes cls]) := by
  refine ⟨?_, ?_, ?_⟩
  · intro p hp
    rcases List.mem_append.mp hp with hp | hp
    · exact h.runes p hp
    · exact ⟨_, List.mem_singleton.mp hp⟩
  · simp [hb]
  · simp [h.text, Piece.text]

theorem Pending.isChain {run : Bytes} {cls : Lexeme} {pre : List Piece} (h : Pending run cls pre) :
    pre.IsChain fun p q => Piece.sameRun p q = true := by
  refine List.isChain_iff_forall_rel_of_append_cons_cons.mpr fun p q l₁ l₂ hsplit => ?_
  obtain ⟨_, rfl⟩ := h.runes p (by simp [hsplit])
  obtain ⟨_, rfl⟩ := h.runes q (by simp [hsplit])
  simp [Piece.sameRun]

theorem flush_eq {run : Bytes} {cls : Lexeme} {pre : List Piece} (h : Pending run cls pre) :
    flush run cls = (pre.splitBy Piece.sameRun).map Piece.runToken := by
  unfold flush
  by_cases hrun : run = []
  · rw [if_pos hrun, h.nil_iff.mpr hrun]
    rfl
  · have hpre : pre ≠ [] := fun e => hrun (h.nil_iff.mp e)
    obtain ⟨p, ps, rfl⟩ := List.exists_cons_of_ne_nil hpre
    obtain ⟨b, rfl⟩ := h.runes p List.mem_cons_self
    rw [if_neg hrun, List.splitBy_of_isChain hpre h.isChain, List.map_singleton, Piece.runToken, h.text]
    rfl

theorem Pending.sameRun_eq_false {run : Bytes} {cls : Lexeme} {pre : List Piece}
    (h : Pending run cls pre) {q : Piece} (hq : ∀ b, q = .rune b cls → False) :
    ∀ p ∈ pre.getLast?, Piece.sameRun p q = false := by
  intro p hp
  obtain ⟨b, rfl⟩ := h.runes p (List.mem_of_getLast? hp)
  cases q with
  | region => rfl
  | rune b' l =>
    have hl : l ≠ cls := fun e => hq b' (e ▸ rfl)
    simp [Piece.sameRun, Ne.symm hl]

/-- Cutting, from any pending run, emits the runs of the pending pieces followed by the scanned
pieces. -/
theorem cut_eq_runs (regions : List Region) (run : Bytes) (cls : Lexeme) (s : Bytes) :
    ∀ pre : List Piece, Pending run cls pre →
      cut regions run cls s = ((pre ++ scanPieces regions s).splitBy Piece.sameRun).map Piece.runToken := by
  fun_induction cut regions run cls s with
  | case1 run cls =>
    intro pre hpre
    rw [scanPieces, List.append_nil]
    exact flush_eq hpre
  | case2 run cls b t r hr n ih =>
    intro pre hpre
    rw [scanPieces_of_region hr, List.splitBy_append_cons _ (hpre.sameRun_eq_false (by simp)),
      Piece.splitBy_region_cons, List.map_append, List.map_cons, ← flush_eq hpre, ih _ (.empty _),
      List.nil_append, Piece.runToken_region]
  | case3 run b t hr rune c piece ih =>
    intro pre hpre
    rw [ih _ (hpre.push (Rune.take_width_ne_nil b t)), scanPieces_of_rune hr, List.append_assoc, List.singleton_append]
  | case4 run cls b t hr rune c piece hc ih =>
    intro pre hpre
    have hnext := (Pending.empty c).push (Rune.take_width_ne_nil b t)
    rw [List.append_nil, List.nil_append] at hnext
    have hsep : ∀ p ∈ pre.getLast?, Piece.sameRun p (.rune ((b :: t).take rune.width) c) = false :=
      hpre.sameRun_eq_false fun b' e => hc (Piece.rune.inj e).2
    rw [scanPieces_of_rune hr, List.splitBy_append_cons _ hsep, List.map_append, ← flush_eq hpre,
      ih _ hnext, List.singleton_append]

theorem scanPieces_ne_nil (regions : List Region) {s : Bytes} (hs : s ≠ []) :
    scanPieces regions s ≠ [] := by
  obtain ⟨b, t, rfl⟩ := List.exists_cons_of_ne_nil hs
  cases hr : Region.first? regions (b :: t) with
  | some r => simp [scanPieces_of_region hr]
  | none => simp [scanPieces_of_rune hr]

/-- Classifying gives the tokens of the reference lexer: the regions claimed by the first rule
whose opener starts at a rune start, each up to its first unescaped closer or the end of the text,
and the maximal runs of the other runes of one class. -/
theorem classify_eq_lex (g : Grammar) (code : Bytes) (regions : Bool) :
    (g.classify code regions).tokens = g.lex code regions := by
  obtain ⟨ord, -, htok⟩ := g.classify_spans code regions
  have hcut := cut_eq_runs (if regions then g.regions else []) [] .identifier code [] (.empty _)
  rw [List.nil_append] at hcut
  rw [htok, classified, lex, hcut]
  by_cases hcode : code = []
  · subst hcode
    rw [if_pos rfl, scanPieces]
    rfl
  · rw [if_neg hcode]
    have hne : ((scanPieces (if regions then g.regions else []) code).splitBy Piece.sameRun).map
        Piece.runToken ≠ [] := by
      simpa using scanPieces_ne_nil _ hcode
    obtain ⟨t, ts, hts⟩ := List.exists_cons_of_ne_nil hne
    rw [hts]

end Grammar

end SyntaxShade
