import Mathlib.Data.List.Nodup
import Mathlib.Data.PNat.Basic
import Mathlib.Logic.Relation
import SyntaxShade.Proofs.Registry.Lookup
/-! A batch on a pool of workers as a system of atomic steps, the workers finishing in any order.
Every run stops and returns `Registry.highlightAll` (`Batch.returns_in_job_order`). -/
namespace SyntaxShade

/-- The first job whose grammar the registry knows. -/
def Registry.firstKnown? (r : Registry) (jobs : List Job) : Option Nat :=
  jobs.findIdx? fun j => (r.find? j.grammar).isSome

namespace Batch

/-- The slots of a pool: as many as workers are asked for, or one per processor when the number
asked for is not positive. -/
def slotCount (workers : Int) (procs : ℕ+) : Nat := if workers ≤ 0 then procs else workers.toNat

theorem slotCount_pos (workers : Int) (procs : ℕ+) : 0 < slotCount workers procs := by
  unfold slotCount
  split
  · exact procs.pos
  · omega

/-- A job handed to a worker: its place in the batch, its language and its code. -/
structure Task where
  index : Nat
  lang : Language
  code : Bytes

/-- Where the loop that submits the jobs is. -/
inductive Phase where
  /-- Walking the jobs. -/
  | loop
  /-- Stopped with the error it will return, waiting for the workers. -/
  | draining (err : Option Error)
  /-- Returned with the error. -/
  | returned (err : Option Error)

/-- A moment of a batch run: the loop's phase and the index of its job, the tasks that workers
hold, and the answers so far. -/
structure State where
  phase : Phase
  next : Nat
  running : List Task
  results : List Outcome

/-- A batch before its loop starts: every answer is empty markup. -/
def start (jobs : List Job) : State := ⟨.loop, 0, [], List.replicate jobs.length (.ok [])⟩

/-- The work left in a run: two for each job the loop has still to pass, one for each task a
worker holds, and two for stopping and returning. -/
def State.workLeft (n : Nat) (s : State) : Nat :=
  match s.phase with
  | .loop => 2 * (n - s.next) + s.running.length + 2
  | .draining _ => s.running.length + 1
  | .returned _ => s.running.length

section Run

variable (r : Registry) (jobs : List Job) (cancelled : Bool) (slots : Nat)

/-- The atomic actions of a batch run on a pool of `slots` slots. -/
inductive Step : State → State → Prop where
  /-- A job whose grammar is unknown fails alone, and the loop goes on. -/
  | unknown {i running results job e} (hjob : jobs[i]? = some job)
      (hlookup : r.lookup job.grammar = .error e) :
      Step ⟨.loop, i, running, results⟩ ⟨.loop, i + 1, running, results.set i (.error e)⟩
  /-- A job whose grammar is known takes a free slot and goes to a worker. -/
  | submit {i running results job lang} (hjob : jobs[i]? = some job)
      (hlookup : r.lookup job.grammar = .ok lang) (hgo : cancelled = false)
      (hfree : running.length < slots) :
      Step ⟨.loop, i, running, results⟩ ⟨.loop, i + 1, ⟨i, lang, job.code⟩ :: running, results⟩
  /-- Waiting for a slot, the loop sees the cancellation. -/
  | cancelWaiting {i running results job lang} (hjob : jobs[i]? = some job)
      (hlookup : r.lookup job.grammar = .ok lang) (hstop : cancelled = true) :
      Step ⟨.loop, i, running, results⟩ ⟨.draining (some .canceled), i, running, results⟩
  /-- Having taken a free slot, the loop sees the cancellation and gives the slot back. -/
  | cancelSlotted {i running results job lang} (hjob : jobs[i]? = some job)
      (hlookup : r.lookup job.grammar = .ok lang) (hstop : cancelled = true)
      (hfree : running.length < slots) :
      Step ⟨.loop, i, running, results⟩ ⟨.draining (some .canceled), i, running, results⟩
  /-- The loop has passed every job. -/
  | finish {i running results} (hend : jobs[i]? = none) :
      Step ⟨.loop, i, running, results⟩ ⟨.draining none, i, running, results⟩
  /-- A worker finishes its task and writes the markup to the task's place. -/
  | complete {phase i pre post results} {t : Task} :
      Step ⟨phase, i, pre ++ t :: post, results⟩
        ⟨phase, i, pre ++ post, results.set t.index (.ok (t.lang.highlight t.code))⟩
  /-- With the loop stopped and every worker done, the batch returns. -/
  | returns {err i results} :
      Step ⟨.draining err, i, [], results⟩ ⟨.returned err, i, [], results⟩

/-- The moments that a run of the batch reaches. -/
def Reachable (s : State) : Prop := Relation.ReflTransGen (Step r jobs cancelled slots) (start jobs) s

/-- The answers at a moment when the loop has passed the jobs before `next` and workers hold
`running`: a passed job that no worker holds has its answer, every other job empty markup. -/
def view (next : Nat) (running : List Task) : List Outcome :=
  jobs.mapIdx fun k job => if k < next ∧ k ∉ running.map Task.index then r.run job else .ok []

/-- Where the loop may stop, and with what error: past the last job with none, or, in a cancelled
batch, at a job whose grammar is known with the cancellation. -/
def Stopped (next : Nat) (err : Option Error) : Prop :=
  (jobs.length ≤ next ∧ err = none) ∨
    (cancelled = true ∧ err = some .canceled ∧
      ∃ job, jobs[next]? = some job ∧ (r.find? job.grammar).isSome)

/-- What the phase says: a stopped loop stopped where it may, and a returned batch has no task
left. -/
def PhaseOk : Phase → Nat → List Task → Prop
  | .loop, _, _ => True
  | .draining err, next, _ => Stopped r jobs cancelled next err
  | .returned err, next, running => Stopped r jobs cancelled next err ∧ running = []

/-- What holds at every moment of a run. -/
structure Inv (s : State) : Prop where
  next_le : s.next ≤ jobs.length
  results_eq : s.results = view r jobs s.next s.running
  running_passed : ∀ t ∈ s.running, t.index < s.next
  running_known : ∀ t ∈ s.running,
    ∃ job, jobs[t.index]? = some job ∧ r.find? job.grammar = some t.lang ∧ t.code = job.code
  nodup : (s.running.map Task.index).Nodup
  cancelled_idle : cancelled = true → s.running = []
  cancelled_passed : cancelled = true →
    ∀ k < s.next, ∀ job, jobs[k]? = some job → r.find? job.grammar = none
  phase_ok : PhaseOk r jobs cancelled s.phase s.next s.running

/-- What a batch owes, job by job. Without cancellation, a job whose grammar is known has its
markup, and no error is returned. A job whose grammar is unknown is refused as an unknown grammar,
unless the batch is cancelled and an earlier job's grammar is known. In a cancelled batch the first
job whose grammar is known and every later job have empty markup, and the cancellation is returned
exactly when there is such a job. -/
structure Answers (results : List Outcome) (err : Option Error) : Prop where
  length_eq : results.length = jobs.length
  markup : cancelled = false → ∀ (i : Nat) (job : Job) (lang : Language), jobs[i]? = some job →
    r.find? job.grammar = some lang → results[i]? = some (.ok (lang.highlight job.code))
  refused : ∀ (i : Nat) (job : Job), jobs[i]? = some job → r.find? job.grammar = none →
    (cancelled = true → ∀ f, r.firstKnown? jobs = some f → i < f) →
    results[i]? = some (.error (.unknownGrammar job.grammar))
  skipped : cancelled = true → ∀ f, r.firstKnown? jobs = some f → ∀ i, f ≤ i → i < jobs.length →
    results[i]? = some (.ok [])
  err_none : (cancelled = false ∨ r.firstKnown? jobs = none) → err = none
  err_canceled : cancelled = true → ∀ f, r.firstKnown? jobs = some f → err = some .canceled

end Run

/-! ### The first job whose grammar is known -/

section FirstKnown

variable {r : Registry} {jobs : List Job}

theorem firstKnown?_eq_none_iff :
    r.firstKnown? jobs = none ↔
      ∀ (k : Nat) (job : Job), jobs[k]? = some job → r.find? job.grammar = none := by
  unfold Registry.firstKnown?
  rw [List.findIdx?_eq_none_iff]
  constructor
  · intro h k job hjob
    exact Option.not_isSome_iff_eq_none.mp (by simpa using h job (List.mem_of_getElem? hjob))
  · intro h job hmem
    obtain ⟨k, hk⟩ := List.mem_iff_getElem?.mp hmem
    simp [h k job hk]

theorem firstKnown?_eq_some_iff {f : Nat} :
    r.firstKnown? jobs = some f ↔
      (∃ job, jobs[f]? = some job ∧ (r.find? job.grammar).isSome) ∧
        ∀ k < f, ∀ job, jobs[k]? = some job → r.find? job.grammar = none := by
  unfold Registry.firstKnown?
  rw [List.findIdx?_eq_some_iff_getElem]
  constructor
  · rintro ⟨hf, hknown, hbefore⟩
    refine ⟨⟨jobs[f], List.getElem?_eq_getElem hf, hknown⟩, fun k hk job hjob => ?_⟩
    obtain ⟨hk', rfl⟩ := List.getElem?_eq_some_iff.mp hjob
    exact Option.not_isSome_iff_eq_none.mp (hbefore k hk)
  · rintro ⟨⟨job, hjob, hknown⟩, hbefore⟩
    obtain ⟨hf, rfl⟩ := List.getElem?_eq_some_iff.mp hjob
    refine ⟨hf, hknown, fun k hk => ?_⟩
    rw [hbefore k hk _ (List.getElem?_eq_getElem (by omega))]
    exact Bool.false_ne_true

theorem highlightAll_of_firstKnown?_eq_none (cancelled : Bool) (h : r.firstKnown? jobs = none) :
    r.highlightAll jobs cancelled = (jobs.map r.run, none) := by
  cases cancelled with
  | false => rfl
  | true =>
    unfold Registry.highlightAll
    rw [if_pos rfl]
    unfold Registry.firstKnown? at h
    rw [h]

theorem highlightAll_of_firstKnown?_eq_some {f : Nat} (h : r.firstKnown? jobs = some f) :
    r.highlightAll jobs true =
      ((jobs.take f).map r.run ++ (jobs.drop f).map fun _ => .ok [], some .canceled) := by
  unfold Registry.highlightAll
  rw [if_pos rfl]
  unfold Registry.firstKnown? at h
  rw [h]

end FirstKnown

/-! ### What the batch answers -/

section Answers

variable (r : Registry) (jobs : List Job)

theorem answers_map_run (cancelled : Bool) (hgo : cancelled = false ∨ r.firstKnown? jobs = none) :
    Answers r jobs cancelled (jobs.map r.run) none := by
  have hnever : cancelled = true → ∀ f, r.firstKnown? jobs = some f → False := by
    intro hc f hf
    rcases hgo with hgo | hgo
    · rw [hgo] at hc
      cases hc
    · rw [hgo] at hf
      cases hf
  exact {
    length_eq := List.length_map ..
    markup := fun _ i job lang hjob hlang => by
      rw [List.getElem?_map, hjob, Option.map_some, Registry.run_of_find? hlang]
    refused := fun i job hjob hnone _ => by
      rw [List.getElem?_map, hjob, Option.map_some, Registry.run_of_find?_eq_none hnone]
    skipped := fun hc f hf => (hnever hc f hf).elim
    err_none := fun _ => rfl
    err_canceled := fun hc f hf => (hnever hc f hf).elim }

theorem answers_cancelled {f : Nat} (hf : r.firstKnown? jobs = some f) :
    Answers r jobs true ((jobs.take f).map r.run ++ (jobs.drop f).map fun _ => .ok [])
      (some .canceled) where
  length_eq := by
    have hle : f ≤ jobs.length := by
      obtain ⟨⟨job, hjob, -⟩, -⟩ := firstKnown?_eq_some_iff.mp hf
      exact (List.getElem?_eq_some_iff.mp hjob).1.le
    simp only [List.length_append, List.length_map, List.length_take, List.length_drop]
    omega
  markup hc := nomatch hc
  refused i job hjob hnone hbefore := by
    have hi : i < f := hbefore rfl f hf
    have hlen : i < (jobs.take f).length := by
      rw [List.length_take]
      exact Nat.lt_min.mpr ⟨hi, (List.getElem?_eq_some_iff.mp hjob).1⟩
    rw [List.getElem?_append_left (by rwa [List.length_map]), List.getElem?_map, List.getElem?_take,
      if_pos hi, hjob, Option.map_some, Registry.run_of_find?_eq_none hnone]
  skipped _ f' hf' i hi hlt := by
    rw [hf] at hf'
    cases hf'
    have hlen : (List.map r.run (jobs.take f)).length = f := by
      rw [List.length_map, List.length_take]
      omega
    rw [List.getElem?_append_right (by omega), hlen, List.getElem?_map, List.getElem?_drop,
      Nat.add_sub_cancel' hi, List.getElem?_eq_getElem hlt, Option.map_some]
  err_none h := by
    rcases h with h | h
    · cases h
    · rw [hf] at h
      cases h
  err_canceled _ _ _ := rfl

/-- The answers that `highlightAll` gives are the ones a batch owes. -/
theorem highlightAll_answers (cancelled : Bool) :
    Answers r jobs cancelled (r.highlightAll jobs cancelled).1 (r.highlightAll jobs cancelled).2 := by
  cases hfirst : r.firstKnown? jobs with
  | none =>
    rw [highlightAll_of_firstKnown?_eq_none cancelled hfirst]
    exact answers_map_run r jobs cancelled (.inr hfirst)
  | some f =>
    cases cancelled with
    | false => exact answers_map_run r jobs false (.inl rfl)
    | true =>
      rw [highlightAll_of_firstKnown?_eq_some hfirst]
      exact answers_cancelled r jobs hfirst

end Answers

/-! ### The answers at a moment of a run -/

section View

variable (r : Registry) (jobs : List Job)

theorem length_view (next : Nat) (running : List Task) :
    (view r jobs next running).length = jobs.length :=
  List.length_mapIdx

theorem getElem?_view (next : Nat) (running : List Task) (k : Nat) :
    (view r jobs next running)[k]? =
      jobs[k]?.map fun job => if k < next ∧ k ∉ running.map Task.index then r.run job else .ok [] :=
  List.getElem?_mapIdx

variable {r jobs}

theorem view_congr {next next' : Nat} {running running' : List Task}
    (h : ∀ k, (k < next ∧ k ∉ running.map Task.index ↔ k < next' ∧ k ∉ running'.map Task.index)) :
    view r jobs next running = view r jobs next' running' := by
  apply List.ext_getElem?
  intro k
  rw [getElem?_view, getElem?_view]
  simp only [h k]

theorem set_view {next next' : Nat} {running running' : List Task} {k : Nat} {job : Job}
    (hjob : jobs[k]? = some job) (hk : k < next' ∧ k ∉ running'.map Task.index)
    (h : ∀ m ≠ k,
      (m < next ∧ m ∉ running.map Task.index ↔ m < next' ∧ m ∉ running'.map Task.index)) :
    (view r jobs next running).set k (r.run job) = view r jobs next' running' := by
  apply List.ext_getElem?
  intro m
  rw [List.getElem?_set, length_view, getElem?_view, getElem?_view]
  by_cases hm : k = m
  · subst hm
    rw [if_pos rfl, if_pos (List.getElem?_eq_some_iff.mp hjob).1, hjob, Option.map_some, if_pos hk]
  · rw [if_neg hm]
    simp only [h m (Ne.symm hm)]

theorem start_eq_view : (start jobs).results = view r jobs 0 [] := by
  apply List.ext_getElem?
  intro k
  rw [getElem?_view]
  simp only [start, List.getElem?_replicate, Nat.not_lt_zero, false_and, if_false]
  cases hk : jobs[k]? with
  | none => simp [List.getElem?_eq_none_iff.mp hk]
  | some job => simp [(List.getElem?_eq_some_iff.mp hk).1]

theorem view_nil {next : Nat} (hle : next ≤ jobs.length) :
    view r jobs next [] = (jobs.take next).map r.run ++ (jobs.drop next).map fun _ => .ok [] := by
  have hlen : ((jobs.take next).map r.run).length = next := by
    rw [List.length_map, List.length_take]
    omega
  apply List.ext_getElem?
  intro k
  rw [getElem?_view, List.getElem?_append, hlen]
  by_cases hk : k < next
  · rw [if_pos hk, List.getElem?_map, List.getElem?_take, if_pos hk]
    simp only [hk, List.map_nil, List.not_mem_nil, not_false_eq_true, and_self, if_true]
  · rw [if_neg hk, List.getElem?_map, List.getElem?_drop, Nat.add_sub_cancel' (by omega)]
    simp only [hk, false_and, if_false]

end View

/-! ### What every moment of a run keeps -/

section Inv

variable {r : Registry} {jobs : List Job} {cancelled : Bool} {slots : Nat}

theorem not_mem_map_index {running : List Task} {i : Nat} (h : ∀ t ∈ running, t.index < i) :
    i ∉ running.map Task.index := fun hi => by
  obtain ⟨t, ht, hti⟩ := List.mem_map.mp hi
  have := h t ht
  omega

theorem inv_start : Inv r jobs cancelled (start jobs) where
  next_le := Nat.zero_le _
  results_eq := start_eq_view
  running_passed _ h := nomatch h
  running_known _ h := nomatch h
  nodup := List.nodup_nil
  cancelled_idle _ := rfl
  cancelled_passed _ _ h := absurd h (Nat.not_lt_zero _)
  phase_ok := trivial

theorem Inv.unknown {i : Nat} {running : List Task} {results : List Outcome} {job : Job}
    {e : Error} (hinv : Inv r jobs cancelled ⟨.loop, i, running, results⟩)
    (hjob : jobs[i]? = some job) (hlookup : r.lookup job.grammar = .error e) :
    Inv r jobs cancelled ⟨.loop, i + 1, running, results.set i (.error e)⟩ := by
  obtain ⟨hnone, rfl⟩ := Registry.lookup_eq_error_iff.mp hlookup
  have hpassed : ∀ t ∈ running, t.index < i := hinv.running_passed
  have hresults : results = view r jobs i running := hinv.results_eq
  refine ⟨(List.getElem?_eq_some_iff.mp hjob).1, ?_, fun t ht => Nat.lt_succ_of_lt (hpassed t ht),
    hinv.running_known, hinv.nodup, hinv.cancelled_idle, ?_, trivial⟩
  · show results.set i (.error (.unknownGrammar job.grammar)) = view r jobs (i + 1) running
    rw [hresults, ← Registry.run_of_find?_eq_none hnone]
    exact set_view hjob ⟨Nat.lt_succ_self i, not_mem_map_index hpassed⟩ fun m hm =>
      and_congr_left' (by omega)
  · intro hc k hk job' hjob'
    rcases Nat.lt_succ_iff_lt_or_eq.mp hk with hk | rfl
    · exact hinv.cancelled_passed hc k hk job' hjob'
    · rw [hjob] at hjob'
      cases hjob'
      exact hnone

theorem Inv.submit {i : Nat} {running : List Task} {results : List Outcome} {job : Job}
    {lang : Language} (hinv : Inv r jobs cancelled ⟨.loop, i, running, results⟩)
    (hjob : jobs[i]? = some job) (hlookup : r.lookup job.grammar = .ok lang)
    (hgo : cancelled = false) :
    Inv r jobs cancelled ⟨.loop, i + 1, ⟨i, lang, job.code⟩ :: running, results⟩ := by
  have hpassed : ∀ t ∈ running, t.index < i := hinv.running_passed
  have hresults : results = view r jobs i running := hinv.results_eq
  refine ⟨(List.getElem?_eq_some_iff.mp hjob).1, ?_, ?_, ?_,
    List.nodup_cons.mpr ⟨not_mem_map_index hpassed, hinv.nodup⟩, fun hc => ?_, fun hc => ?_, trivial⟩
  · show results = view r jobs (i + 1) (⟨i, lang, job.code⟩ :: running)
    rw [hresults]
    refine view_congr fun m => ?_
    rw [List.map_cons, List.mem_cons, not_or]
    dsimp only
    constructor
    · rintro ⟨hlt, hm⟩
      exact ⟨by omega, by omega, hm⟩
    · rintro ⟨hlt, hne, hm⟩
      exact ⟨by omega, hm⟩
  · intro t ht
    rcases List.mem_cons.mp ht with rfl | ht
    · exact Nat.lt_succ_self i
    · exact Nat.lt_succ_of_lt (hpassed t ht)
  · intro t ht
    rcases List.mem_cons.mp ht with rfl | ht
    · exact ⟨job, hjob, Registry.lookup_eq_ok_iff.mp hlookup, rfl⟩
    · exact hinv.running_known t ht
  · rw [hgo] at hc
    cases hc
  · rw [hgo] at hc
    cases hc

theorem Inv.cancel {i : Nat} {running : List Task} {results : List Outcome} {job : Job}
    {lang : Language} (hinv : Inv r jobs cancelled ⟨.loop, i, running, results⟩)
    (hjob : jobs[i]? = some job) (hlookup : r.lookup job.grammar = .ok lang)
    (hstop : cancelled = true) :
    Inv r jobs cancelled ⟨.draining (some .canceled), i, running, results⟩ :=
  { hinv with
    phase_ok := .inr ⟨hstop, rfl, job, hjob, by rw [Registry.lookup_eq_ok_iff.mp hlookup]; rfl⟩ }

theorem Inv.finish {i : Nat} {running : List Task} {results : List Outcome}
    (hinv : Inv r jobs cancelled ⟨.loop, i, running, results⟩) (hend : jobs[i]? = none) :
    Inv r jobs cancelled ⟨.draining none, i, running, results⟩ :=
  { hinv with phase_ok := .inl ⟨List.getElem?_eq_none_iff.mp hend, rfl⟩ }

theorem Inv.complete {phase : Phase} {i : Nat} {pre post : List Task} {results : List Outcome}
    {t : Task} (hinv : Inv r jobs cancelled ⟨phase, i, pre ++ t :: post, results⟩) :
    Inv r jobs cancelled
      ⟨phase, i, pre ++ post, results.set t.index (.ok (t.lang.highlight t.code))⟩ := by
  have hsub : List.Sublist (pre ++ post) (pre ++ t :: post) :=
    (List.sublist_cons_self t post).append_left pre
  have ht : t ∈ pre ++ t :: post := List.mem_append_right pre List.mem_cons_self
  have hresults : results = view r jobs i (pre ++ t :: post) := hinv.results_eq
  have hnodup : ((pre ++ t :: post).map Task.index).Nodup := hinv.nodup
  obtain ⟨job, hjob, hlang, hcode⟩ := hinv.running_known t ht
  have hfree : t.index ∉ (pre ++ post).map Task.index := by
    rw [List.map_append, List.map_cons, List.nodup_middle, List.nodup_cons] at hnodup
    rw [List.map_append]
    exact hnodup.1
  refine ⟨hinv.next_le, ?_, fun u hu => hinv.running_passed u (hsub.subset hu),
    fun u hu => hinv.running_known u (hsub.subset hu), List.Nodup.sublist (hsub.map Task.index) hinv.nodup,
    fun hc => absurd (hinv.cancelled_idle hc) (by simp), hinv.cancelled_passed, ?_⟩
  · show results.set t.index (.ok (t.lang.highlight t.code)) = view r jobs i (pre ++ post)
    rw [hresults, hcode, ← Registry.run_of_find? hlang]
    refine set_view hjob ⟨hinv.running_passed t ht, hfree⟩ fun m hm => and_congr_right' ?_
    simp only [List.map_append, List.map_cons, List.mem_append, List.mem_cons, hm, false_or]
  · have hphase : PhaseOk r jobs cancelled phase i (pre ++ t :: post) := hinv.phase_ok
    cases phase with
    | loop => trivial
    | draining err => exact hphase
    | returned err => exact absurd hphase.2 (by simp)

theorem Inv.returns {err : Option Error} {i : Nat} {results : List Outcome}
    (hinv : Inv r jobs cancelled ⟨.draining err, i, [], results⟩) :
    Inv r jobs cancelled ⟨.returned err, i, [], results⟩ :=
  { hinv with phase_ok := ⟨hinv.phase_ok, rfl⟩ }

theorem Inv.step {s s' : State} (hinv : Inv r jobs cancelled s)
    (h : Step r jobs cancelled slots s s') : Inv r jobs cancelled s' := by
  cases h with
  | unknown hjob hlookup => exact hinv.unknown hjob hlookup
  | submit hjob hlookup hgo _ => exact hinv.submit hjob hlookup hgo
  | cancelWaiting hjob hlookup hstop => exact hinv.cancel hjob hlookup hstop
  | cancelSlotted hjob hlookup hstop _ => exact hinv.cancel hjob hlookup hstop
  | finish hend => exact hinv.finish hend
  | complete => exact hinv.complete
  | returns => exact hinv.returns

theorem Reachable.inv {s : State} (h : Reachable r jobs cancelled slots s) :
    Inv r jobs cancelled s := by
  induction h with
  | refl => exact inv_start
  | tail _ hstep ih => exact ih.step hstep

end Inv

/-! ### Runs stop, and stop only where the batch returns -/

section Progress

variable {r : Registry} {jobs : List Job} {cancelled : Bool} {slots : Nat}

theorem Step.complete_first {phase : Phase} {i : Nat} {t : Task} {rest : List Task}
    {results : List Outcome} :
    Step r jobs cancelled slots ⟨phase, i, t :: rest, results⟩
      ⟨phase, i, rest, results.set t.index (.ok (t.lang.highlight t.code))⟩ :=
  @Step.complete r jobs cancelled slots phase i [] rest results t

/-- A run is stuck only where the batch has returned. -/
theorem exists_step {s : State} (hslots : 0 < slots) (hnot : ∀ err, s.phase ≠ .returned err) :
    ∃ s', Step r jobs cancelled slots s s' := by
  obtain ⟨phase, i, running, results⟩ := s
  cases phase with
  | loop =>
    cases hjob : jobs[i]? with
    | none => exact ⟨_, .finish hjob⟩
    | some job =>
      cases hlookup : r.lookup job.grammar with
      | error e => exact ⟨_, .unknown hjob hlookup⟩
      | ok lang =>
        cases cancelled with
        | true => exact ⟨_, .cancelWaiting hjob hlookup rfl⟩
        | false =>
          by_cases hfree : running.length < slots
          · exact ⟨_, .submit hjob hlookup rfl hfree⟩
          · -- every slot is taken, so a worker holds a task that it can finish
            have hheld : running ≠ [] := fun h => by
              rw [h, List.length_nil] at hfree
              exact hfree hslots
            obtain ⟨t, rest, rfl⟩ := List.exists_cons_of_ne_nil hheld
            exact ⟨_, Step.complete_first⟩
  | draining err =>
    cases running with
    | nil => exact ⟨_, .returns⟩
    | cons t rest => exact ⟨_, Step.complete_first⟩
  | returned err => exact absurd rfl (hnot err)

theorem workLeft_lt_of_step {s s' : State} (h : Step r jobs cancelled slots s s') :
    s'.workLeft jobs.length < s.workLeft jobs.length := by
  cases h with
  | unknown hjob _ =>
    have := (List.getElem?_eq_some_iff.mp hjob).1
    simp only [State.workLeft]
    omega
  | submit hjob _ _ _ =>
    have := (List.getElem?_eq_some_iff.mp hjob).1
    simp only [State.workLeft, List.length_cons]
    omega
  | cancelWaiting | cancelSlotted | finish =>
    simp only [State.workLeft]
    omega
  | @complete phase =>
    cases phase <;> simp only [State.workLeft, List.length_append, List.length_cons] <;> omega
  | returns =>
    simp only [State.workLeft, List.length_nil]
    omega

/-- No run goes on for ever: each action lowers the work left. -/
theorem wellFounded_step : WellFounded fun s' s => Step r jobs cancelled slots s s' :=
  Subrelation.wf (fun h => workLeft_lt_of_step h) (measure (State.workLeft jobs.length)).wf

/-- Every run can be carried on until the batch returns. -/
theorem Reachable.exists_returned (hslots : 0 < slots) {s : State}
    (hs : Reachable r jobs cancelled slots s) :
    ∃ s' err, Reachable r jobs cancelled slots s' ∧ s'.phase = .returned err := by
  revert hs
  refine @WellFounded.induction State _ (@wellFounded_step r jobs cancelled slots) (fun s => Reachable r jobs cancelled slots s →
    ∃ s' err, Reachable r jobs cancelled slots s' ∧ s'.phase = .returned err) s fun s ih hs => ?_
  by_cases hret : ∃ err, s.phase = .returned err
  · obtain ⟨err, h⟩ := hret
    exact ⟨s, err, hs, h⟩
  · obtain ⟨s', hstep⟩ := exists_step hslots fun err h => hret ⟨err, h⟩
    exact ih s' hstep (Relation.ReflTransGen.tail hs hstep)

/-- What a run returns is what `highlightAll` answers. -/
theorem Reachable.returns_highlightAll {s : State} {err : Option Error}
    (hs : Reachable r jobs cancelled slots s) (hret : s.phase = .returned err) :
    (s.results, err) = r.highlightAll jobs cancelled := by
  have hinv := hs.inv
  have hphase : PhaseOk r jobs cancelled s.phase s.next s.running := hinv.phase_ok
  rw [hret] at hphase
  obtain ⟨hstop, hidle⟩ := hphase
  rw [hinv.results_eq, hidle, view_nil hinv.next_le]
  rcases hstop with ⟨hlen, rfl⟩ | ⟨rfl, rfl, job, hjob, hknown⟩
  · rw [List.take_of_length_le hlen, List.drop_of_length_le hlen, List.map_nil, List.append_nil]
    cases cancelled with
    | false => rfl
    | true =>
      refine (highlightAll_of_firstKnown?_eq_none true
        (firstKnown?_eq_none_iff.mpr fun k job hjob => ?_)).symm
      exact hinv.cancelled_passed rfl k (by have := (List.getElem?_eq_some_iff.mp hjob).1; omega) job hjob
  · rw [highlightAll_of_firstKnown?_eq_some
      (firstKnown?_eq_some_iff.mpr ⟨⟨job, hjob, hknown⟩, hinv.cancelled_passed rfl⟩)]

end Progress

/-- However many workers are asked for and in whatever order they finish, no run of a batch goes
on for ever, every run can be carried on until the batch returns, a run stops only where the batch
has returned, and then it has returned what `highlightAll` answers, which is what the batch owes
job by job. -/
theorem returns_in_job_order (r : Registry) (jobs : List Job) (cancelled : Bool) (workers : Int)
    (procs : ℕ+) :
    WellFounded (fun s' s => Step r jobs cancelled (slotCount workers procs) s s') ∧
    (∃ s err, Reachable r jobs cancelled (slotCount workers procs) s ∧ s.phase = .returned err) ∧
    ∀ s, Reachable r jobs cancelled (slotCount workers procs) s →
      ((∀ s', ¬ Step r jobs cancelled (slotCount workers procs) s s') →
        ∃ err, s.phase = .returned err) ∧
      ∀ err, s.phase = .returned err →
        (s.results, err) = r.highlightAll jobs cancelled ∧ Answers r jobs cancelled s.results err := by
  have hslots := slotCount_pos workers procs
  refine ⟨wellFounded_step, Reachable.exists_returned hslots Relation.ReflTransGen.refl,
    fun s hs => ⟨fun hstuck => ?_, fun err hret => ?_⟩⟩
  · by_cases hret : ∃ err, s.phase = .returned err
    · exact hret
    · obtain ⟨s', hstep⟩ := exists_step hslots fun err h => hret ⟨err, h⟩
      exact absurd hstep (hstuck s')
  · have heq := hs.returns_highlightAll hret
    have hanswers := highlightAll_answers r jobs cancelled
    rw [← heq] at hanswers
    exact ⟨heq, hanswers⟩

end Batch

end SyntaxShade
