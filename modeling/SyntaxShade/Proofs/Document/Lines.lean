import SyntaxShade.Document
import SyntaxShade.Proofs.Registry.Lookup
/-! A document, line by line: blocks of a known grammar and prompt lines are shown highlighted,
every other line is kept (`Document.highlight_shows_lines`). -/
namespace SyntaxShade

theorem intercalate_append_of_ne_nil {α : Type} (sep : List α) {l m : List (List α)} (hl : l ≠ [])
    (hm : m ≠ []) : sep.intercalate (l ++ m) = sep.intercalate l ++ sep ++ sep.intercalate m := by
  induction l with
  | nil => exact absurd rfl hl
  | cons x l ih =>
    cases l with
    | nil => simp [List.intercalate_cons_of_ne_nil hm]
    | cons y l =>
      rw [List.cons_append, List.intercalate_cons_of_ne_nil (by simp), ih (by simp),
        List.intercalate_cons_cons]
      simp

theorem intercalate_cons_intercalate {α : Type} (sep : List α) {l : List (List α)} (hl : l ≠ [])
    (m : List (List α)) : sep.intercalate (sep.intercalate l :: m) = sep.intercalate (l ++ m) := by
  cases m with
  | nil => simp
  | cons y m => rw [List.intercalate_cons_cons, intercalate_append_of_ne_nil sep hl (by simp)]

/-- What follows the first piece matters only through its joined text and whether it is empty. -/
theorem intercalate_cons_congr {α : Type} (sep x : List α) {m m' : List (List α)}
    (hnil : m = [] ↔ m' = []) (h : sep.intercalate m = sep.intercalate m') :
    sep.intercalate (x :: m) = sep.intercalate (x :: m') := by
  cases m with
  | nil => rw [hnil.mp rfl]
  | cons y m =>
    cases m' with
    | nil => exact absurd (hnil.mpr rfl) (List.cons_ne_nil y m)
    | cons y' m' => rw [List.intercalate_cons_cons, List.intercalate_cons_cons, h]

namespace Document

/-! ### What becomes of each line -/

/-- The language that a line opens a block in: the line is a fence whose grammar the registry
knows, `code` naming `universal`. -/
def blockLanguage? (r : Registry) (line : Bytes) : Option Language :=
  (fenceName? line).bind fun name =>
    r.find? (if name = Bytes.ofString "code" then Bytes.ofString "universal" else name)

/-- The lines of a document as they are shown, read top to bottom. A line that opens a block
starts one that runs to the next closing fence, or to the last line; the block is shown as its
highlighted code, each line of it followed by a line break. A prompt line outside such a block is
shown as a highlighted shell command after a `$ ` prompt. Every other line is kept. -/
def shownLines (r : Registry) (shell : Language) (theme : Bytes) (lines : List Bytes) :
    List Bytes :=
  match lines with
  | [] => []
  | line :: rest =>
    match blockLanguage? r line with
    | some lang =>
      let body := rest.takeWhile fun l => !isClosing l
      wrap (lang.highlight (body.flatMap (· ++ [0x0A]))) theme ::
        shownLines r shell theme (rest.drop (body.length + 1))
    | none =>
      if prompt.isPrefixOf line then
        wrap (shell.highlight (Bytes.ofString "$ " ++ line.drop prompt.length)) theme ::
          shownLines r shell theme rest
      else line :: shownLines r shell theme rest
termination_by lines.length
decreasing_by
  all_goals simp only [List.length_drop, List.length_cons]
  all_goals omega

section Shown

variable {r : Registry} {shell : Language} {theme line : Bytes} {rest : List Bytes}

theorem shownLines_of_block {lang : Language} (h : blockLanguage? r line = some lang) :
    shownLines r shell theme (line :: rest) =
      wrap (lang.highlight ((rest.takeWhile fun l => !isClosing l).flatMap (· ++ [0x0A]))) theme ::
        shownLines r shell theme (rest.drop ((rest.takeWhile fun l => !isClosing l).length + 1)) := by
  rw [shownLines, h]

theorem shownLines_of_prompt (h : blockLanguage? r line = none) (hp : prompt.isPrefixOf line = true) :
    shownLines r shell theme (line :: rest) =
      wrap (shell.highlight (Bytes.ofString "$ " ++ line.drop prompt.length)) theme ::
        shownLines r shell theme rest := by
  rw [shownLines, h, if_pos hp]

theorem shownLines_of_plain (h : blockLanguage? r line = none) (hp : prompt.isPrefixOf line = false) :
    shownLines r shell theme (line :: rest) = line :: shownLines r shell theme rest := by
  rw [shownLines, h, if_neg (by simp [hp])]

/-- Lines that open no block and hold no prompt are all kept. -/
theorem shownLines_eq_self {lines : List Bytes}
    (h : ∀ line ∈ lines, blockLanguage? r line = none ∧ prompt.isPrefixOf line = false) :
    shownLines r shell theme lines = lines := by
  induction lines with
  | nil => rw [shownLines]
  | cons line rest ih =>
    obtain ⟨hb, hp⟩ := h line List.mem_cons_self
    rw [shownLines_of_plain hb hp, ih fun l hl => h l (List.mem_cons_of_mem line hl)]

end Shown

theorem prompt_length : prompt.length = 4 := by decide +kernel

/-! ### Segments and jobs -/

/-- The text of the document that a segment stands for. -/
def Segment.raw : Segment → Bytes
  | .text line => line
  | .job raw _ => raw

/-- The number of a segment's job. -/
def Segment.index? : Segment → Option Nat
  | .text _ => none
  | .job _ i => some i

/-- A fence that passes the registry check opens a block in the language the check found. -/
theorem blockLanguage?_of_filter_eq_some {r : Registry} {line name : Bytes}
    (h : (fenceName? line).filter (fun name =>
      (r.find? (if name = Bytes.ofString "code" then Bytes.ofString "universal" else name)).isSome) =
        some name) :
    ∃ lang, r.find? (if name = Bytes.ofString "code" then Bytes.ofString "universal" else name) =
      some lang ∧ blockLanguage? r line = some lang := by
  obtain ⟨hname, hfound⟩ := Option.filter_eq_some_iff.mp h
  obtain ⟨lang, hlang⟩ := Option.isSome_iff_exists.mp hfound
  exact ⟨lang, hlang, by simp [blockLanguage?, hname, hlang]⟩

theorem blockLanguage?_of_filter_eq_none {r : Registry} {line : Bytes}
    (h : (fenceName? line).filter (fun name =>
      (r.find? (if name = Bytes.ofString "code" then Bytes.ofString "universal" else name)).isSome) =
        none) :
    blockLanguage? r line = none := by
  unfold blockLanguage?
  cases hname : fenceName? line with
  | none => rfl
  | some name =>
    rw [hname, Option.filter_some] at h
    simpa using h

theorem split_fst_eq_nil_iff (r : Registry) (lines : List Bytes) (k : Nat) :
    (split r lines k).1 = [] ↔ lines = [] := by
  fun_cases split r lines k <;> simp

theorem indices_split (r : Registry) (lines : List Bytes) (k : Nat) :
    (split r lines k).1.filterMap Segment.index? = List.range' k (split r lines k).2.length := by
  fun_induction split r lines k with
  | case1 => rfl
  | case2 k line rest fence name hfence grammar body after code raw segs js hsplit ih =>
    rw [hsplit] at ih
    simp [Segment.index?, ih, List.range'_succ]
  | case3 k line rest fence hfence hprompt segs js hsplit ih =>
    rw [hsplit] at ih
    simp [Segment.index?, ih, List.range'_succ]
  | case4 k line rest fence hfence hprompt segs js hsplit ih =>
    rw [hsplit] at ih
    exact (List.filterMap_cons_none rfl).trans ih

/-- Every job names a grammar that the registry knows, when it knows `shell`. -/
theorem find?_isSome_of_mem_split {r : Registry} (hshell : (r.find? (Bytes.ofString "shell")).isSome)
    (lines : List Bytes) (k : Nat) : ∀ j ∈ (split r lines k).2, (r.find? j.grammar).isSome := by
  fun_induction split r lines k with
  | case1 => simp
  | case2 k line rest fence name hfence grammar body after code raw segs js hsplit ih =>
    rw [hsplit] at ih
    intro j hj
    rcases List.mem_cons.mp hj with rfl | hj
    · obtain ⟨lang, hlang, -⟩ := blockLanguage?_of_filter_eq_some hfence
      simp [grammar, hlang]
    · exact ih j hj
  | case3 k line rest fence hfence hprompt segs js hsplit ih =>
    rw [hsplit] at ih
    intro j hj
    rcases List.mem_cons.mp hj with rfl | hj
    · exact hshell
    · exact ih j hj
  | case4 k line rest fence hfence hprompt segs js hsplit ih =>
    rw [hsplit] at ih
    exact ih

theorem intercalate_cons_split {r : Registry} {lines : List Bytes} {k : Nat} {segs : List Segment}
    {js : List Job} (hsplit : split r lines k = (segs, js))
    (ih : [0x0A].intercalate ((split r lines k).1.map Segment.raw) = [0x0A].intercalate lines)
    (x : Bytes) : [0x0A].intercalate (x :: segs.map Segment.raw) = [0x0A].intercalate (x :: lines) := by
  rw [hsplit] at ih
  have hnil := split_fst_eq_nil_iff r lines k
  rw [hsplit] at hnil
  exact intercalate_cons_congr _ _ (by simpa using hnil) ih

theorem raw_split (r : Registry) (lines : List Bytes) (k : Nat) :
    [0x0A].intercalate ((split r lines k).1.map Segment.raw) = [0x0A].intercalate lines := by
  fun_induction split r lines k with
  | case1 => rfl
  | case2 k line rest fence name hfence grammar body after code raw segs js hsplit ih =>
    have hbody : rest.take body.length = body :=
      (List.prefix_iff_eq_take.mp (List.takeWhile_prefix _)).symm
    have hrest : body ++ after.take 1 ++ after.drop 1 = rest := by
      rw [List.append_assoc, List.take_append_drop, ← hbody]
      exact List.take_append_drop _ _
    simp only [List.map_cons, Segment.raw]
    rw [intercalate_cons_split hsplit ih,
      show raw = [0x0A].intercalate (line :: body ++ after.take 1) from rfl,
      intercalate_cons_intercalate _ (by simp), List.cons_append, List.cons_append, hrest]
  | case3 k line rest fence hfence hprompt segs js hsplit ih => exact intercalate_cons_split hsplit ih _
  | case4 k line rest fence hfence hprompt segs js hsplit ih => exact intercalate_cons_split hsplit ih _

theorem render_job {r : Registry} {lang : Language} {grammar : Bytes} (h : r.find? grammar = some lang)
    (theme raw code : Bytes) (pre : List Outcome) (js : List Job) :
    Segment.render theme (pre ++ (⟨grammar, code⟩ :: js).map r.run) (.job raw pre.length) =
      wrap (lang.highlight code) theme := by
  have hat : (pre ++ (⟨grammar, code⟩ :: js).map r.run)[pre.length]? = some (.ok (lang.highlight code)) := by
    rw [List.getElem?_append_right (Nat.le_refl _), Nat.sub_self, List.map_cons, List.getElem?_cons_zero,
      Registry.run_of_find? h]
  simp only [Segment.render, hat]

/-- With the batch's answers in job order after `pre`, the segments are written as the lines are
shown: each segment finds the answer with its own number, and that answer is markup. -/
theorem render_split {r : Registry} {shell : Language}
    (hshell : r.find? (Bytes.ofString "shell") = some shell) (theme : Bytes) (lines : List Bytes)
    (k : Nat) : ∀ pre : List Outcome, pre.length = k →
      (split r lines k).1.map (Segment.render theme (pre ++ (split r lines k).2.map r.run)) =
        shownLines r shell theme lines := by
  fun_induction split r lines k with
  | case1 =>
    intro pre _
    rw [shownLines]
    rfl
  | case2 k line rest fence name hfence grammar body after code raw segs js hsplit ih =>
    intro pre hpre
    obtain ⟨lang, hlang, hblock⟩ := blockLanguage?_of_filter_eq_some hfence
    replace hlang : r.find? grammar = some lang := hlang
    have hnext : segs.map (Segment.render theme (pre ++ (⟨grammar, code⟩ :: js).map r.run)) =
        shownLines r shell theme (after.drop 1) := by
      have h := ih (pre ++ [r.run ⟨grammar, code⟩]) (by simp [hpre])
      rw [hsplit] at h
      simpa using h
    have hdrop : after.drop 1 = rest.drop (body.length + 1) := List.drop_drop
    rw [shownLines_of_block hblock]
    dsimp only
    rw [List.map_cons, hnext, hdrop, ← hpre, render_job hlang]
  | case3 k line rest fence hfence hprompt segs js hsplit ih =>
    intro pre hpre
    have hblock := blockLanguage?_of_filter_eq_none hfence
    have hnext : segs.map (Segment.render theme
        (pre ++ (⟨Bytes.ofString "shell", Bytes.ofString "$ " ++ line.drop 4⟩ :: js).map r.run)) =
          shownLines r shell theme rest := by
      have h := ih (pre ++ [r.run ⟨Bytes.ofString "shell", Bytes.ofString "$ " ++ line.drop 4⟩])
        (by simp [hpre])
      rw [hsplit] at h
      simpa using h
    rw [shownLines_of_prompt hblock hprompt]
    dsimp only
    rw [List.map_cons, hnext, ← hpre, render_job hshell, prompt_length]
  | case4 k line rest fence hfence hprompt segs js hsplit ih =>
    intro pre hpre
    have hblock := blockLanguage?_of_filter_eq_none hfence
    have hnext := ih pre hpre
    rw [hsplit] at hnext
    rw [shownLines_of_plain hblock (Bool.eq_false_iff.mpr hprompt)]
    dsimp only
    rw [List.map_cons, hnext]
    rfl

theorem highlight_not_cancelled (r : Registry) (theme doc : Bytes) :
    highlight r theme false doc =
      .ok ([0x0A].intercalate ((split r (doc.splitOn 0x0A) 0).1.map
        (Segment.render (if theme = [] then defaultTheme else theme)
          ((split r (doc.splitOn 0x0A) 0).2.map r.run)))) := rfl

/-- For every registry that registering builds from the built-in one, with a batch that is not
cancelled, a document comes back as its shown lines, joined by line breaks: each block in the
language of its fence, each prompt line outside a block as a shell command, every other line as it
is. Every segment finds markup under its job's number, the segments spell the document, and a
document with no block and no prompt comes back unchanged. -/
theorem highlight_shows_lines (r : Registry) (hr : r.Reachable) (theme doc : Bytes) :
    ∃ shell, r.find? (Bytes.ofString "shell") = some shell ∧
      highlight r theme false doc =
        .ok ([0x0A].intercalate
          (shownLines r shell (if theme = [] then defaultTheme else theme) (doc.splitOn 0x0A))) ∧
      (∀ raw i, Segment.job raw i ∈ (split r (doc.splitOn 0x0A) 0).1 →
        ∃ markup, (r.highlightAll (split r (doc.splitOn 0x0A) 0).2 false).1[i]? = some (.ok markup)) ∧
      [0x0A].intercalate ((split r (doc.splitOn 0x0A) 0).1.map Segment.raw) = doc ∧
      ((∀ line ∈ doc.splitOn 0x0A, blockLanguage? r line = none ∧ prompt.isPrefixOf line = false) →
        highlight r theme false doc = .ok doc) := by
  obtain ⟨shell, hshell⟩ := hr.find?_shell
  have hshown : highlight r theme false doc =
      .ok ([0x0A].intercalate
        (shownLines r shell (if theme = [] then defaultTheme else theme) (doc.splitOn 0x0A))) := by
    have hrender := render_split hshell (if theme = [] then defaultTheme else theme) (doc.splitOn 0x0A) 0 [] rfl
    rw [List.nil_append] at hrender
    rw [highlight_not_cancelled, hrender]
  refine ⟨shell, hshell, hshown, ?_, ?_, ?_⟩
  · intro raw i hi
    have hidx : i ∈ List.range' 0 (split r (doc.splitOn 0x0A) 0).2.length := by
      rw [← indices_split]
      exact List.mem_filterMap.mpr ⟨_, hi, rfl⟩
    have hlt : i < (split r (doc.splitOn 0x0A) 0).2.length := by
      simpa using List.mem_range'.mp hidx
    obtain ⟨lang, hlang⟩ := Option.isSome_iff_exists.mp
      (find?_isSome_of_mem_split (by simp [hshell]) _ 0 _ (List.getElem_mem hlt))
    refine ⟨lang.highlight (split r (doc.splitOn 0x0A) 0).2[i].code, ?_⟩
    rw [Registry.highlightAll_not_cancelled, List.getElem?_map, List.getElem?_eq_getElem hlt,
      Option.map_some, Registry.run_of_find? hlang]
  · rw [raw_split, List.intercalate_splitOn]
  · intro hplain
    rw [hshown, shownLines_eq_self hplain, List.intercalate_splitOn]

/-- The built-in registry with `Py` registered, and a document with a block in that language, a
line of text and a prompt. -/
theorem highlight_shows_lines_registered :
    let r := Registry.builtin.register (Bytes.ofString "Py") Builtin.universal
    let theme := Bytes.ofString "dark"
    let doc := Bytes.ofString "```py\nx = 1\n```\nthen\n>>> ls 2"
    r.Reachable ∧
      ∃ shell, r.find? (Bytes.ofString "shell") = some shell ∧
        highlight r theme false doc =
          .ok ([0x0A].intercalate
            (shownLines r shell (if theme = [] then defaultTheme else theme) (doc.splitOn 0x0A))) ∧
        (∀ raw i, Segment.job raw i ∈ (split r (doc.splitOn 0x0A) 0).1 →
          ∃ markup, (r.highlightAll (split r (doc.splitOn 0x0A) 0).2 false).1[i]? = some (.ok markup)) ∧
        [0x0A].intercalate ((split r (doc.splitOn 0x0A) 0).1.map Segment.raw) = doc ∧
        ((∀ line ∈ doc.splitOn 0x0A, blockLanguage? r line = none ∧ prompt.isPrefixOf line = false) →
          highlight r theme false doc = .ok doc) :=
  ⟨.register _ _ .builtin, highlight_shows_lines _ (.register _ _ .builtin) _ _⟩

end Document

end SyntaxShade
