import LintRun.Schedule

/-!
# Accounting for jobs

A job of a run is in one of three places: it waits in the queue, a worker has it in hand, or its
result has been delivered. Every move of a worker hands jobs on from one place to another, so that
at any time all three places together hold the jobs of the run, each as often as it was given
(`accounted_of_reachable`). When no worker is going to move again, the queue is empty and no
worker has a job in hand, and so the results are those of exactly the jobs of the run
(`results_perm_of_complete`).

A failure is reported once, before its result is delivered. So the diagnostics are at any time
those of the results that have been delivered or are about to be (`diagnostics_of_reachable`).
-/

set_option autoImplicit false

namespace LintRun

/-- The job that a worker has in hand. -/
def Worker.job? : Worker → Option Job
  | .idle | .stopped => none
  | .running job | .lost job => some job
  | .finished result | .reported result => some result.job

/-- The result that a worker has in hand and whose failure, if there is one, has been reported. -/
def Worker.undelivered? : Worker → Option JobResult
  | .reported result => some result
  | .idle | .running _ | .finished _ | .stopped | .lost _ => none

namespace Schedule

/-- The jobs that the workers have in hand. -/
def inHand (s : Schedule) : List Job :=
  s.workers.filterMap Worker.job?

/-- All jobs of a state, wherever they are. -/
def accounted (s : Schedule) : List Job :=
  s.queue ++ s.inHand ++ s.results.map (·.job)

/-- The results that are about to be delivered. -/
def undelivered (s : Schedule) : List JobResult :=
  s.workers.filterMap Worker.undelivered?

/-- The diagnostics about the failures in some results. -/
def failures (results : List JobResult) : List Diagnostic :=
  (results.filterMap JobResult.failure?).map Diagnostic.ofJobError

/-- When a worker turns to something else, what is picked from what it did gives way to what is
picked from what it does now. -/
theorem pick_setWorker {α : Type} (pick : Worker → Option α) {s : Schedule} {i : Nat}
    {worker : Worker} (other : Worker) (here : s.workers[i]? = some worker) :
    ((pick worker).toList ++ (s.setWorker i other).workers.filterMap pick).Perm
      ((pick other).toList ++ s.workers.filterMap pick) := by
  obtain ⟨inside, at_i⟩ := List.getElem?_eq_some_iff.mp here
  have split : s.workers = s.workers.take i ++ worker :: s.workers.drop (i + 1) := by
    rw [← at_i, ← List.drop_eq_getElem_cons inside, List.take_append_drop]
  have picked : ∀ w : Worker,
      (s.workers.take i ++ w :: s.workers.drop (i + 1)).filterMap pick =
        (s.workers.take i).filterMap pick ++
          ((pick w).toList ++ (s.workers.drop (i + 1)).filterMap pick) := by
    intro w
    rw [List.filterMap_append, List.filterMap_cons]
    cases pick w <;> rfl
  have before : s.workers.filterMap pick = (s.workers.take i).filterMap pick ++
      ((pick worker).toList ++ (s.workers.drop (i + 1)).filterMap pick) := by
    rw [← picked, ← split]
  have after : (s.setWorker i other).workers.filterMap pick = (s.workers.take i).filterMap pick ++
      ((pick other).toList ++ (s.workers.drop (i + 1)).filterMap pick) := by
    rw [← picked, setWorker, List.set_eq_take_append_cons_drop, if_pos inside]
  rw [before, after]
  refine ((List.perm_append_comm_assoc _ _ _).append_left _).trans ?_
  refine (List.perm_append_comm_assoc _ _ _).trans ?_
  exact (List.perm_append_comm_assoc _ _ _).append_left _

/-! ## Jobs -/

/-- A move hands jobs on, and loses or gains none. -/
theorem Step.accounted_perm {s t : Schedule} (move : Step s t) : t.accounted.Perm s.accounted := by
  cases move with
  | @take i job rest idle waiting =>
    have hands := pick_setWorker Worker.job? (s := { s with queue := rest }) (.running job) idle
    rw [accounted, accounted, waiting]
    exact (((hands.append_left rest).trans List.perm_middle).append_right _)
  | @finish i job outcome running =>
    have hands := pick_setWorker Worker.job? (.finished ⟨job, outcome⟩) running
    exact (((List.perm_cons _).mp hands).append_left _).append_right _
  | @report i r e finished failed =>
    have hands := pick_setWorker Worker.job? (s := s.addDiagnostic e) (.reported r) finished
    exact (((List.perm_cons _).mp hands).append_left _).append_right _
  | @pass i r finished succeeded =>
    have hands := pick_setWorker Worker.job? (.reported r) finished
    exact (((List.perm_cons _).mp hands).append_left _).append_right _
  | @deliver i r reported =>
    have hands := pick_setWorker Worker.job? (s := s.addResult r) .idle reported
    have results : ((s.addResult r).setWorker i .idle).results.map (·.job) =
        s.results.map (·.job) ++ [r.job] := List.map_append
    rw [accounted, accounted, results, List.append_assoc, List.append_assoc]
    refine List.Perm.append_left _ ?_
    rw [← List.append_assoc]
    exact List.perm_append_comm.trans (hands.append_right _)
  | stop idle empty =>
    have hands := pick_setWorker Worker.job? .stopped idle
    exact (hands.append_left _).append_right _

/-- **At any time the jobs of a run are accounted for.** -/
theorem accounted_of_reachable {concurrency : Nat} {jobs : List Job} {s : Schedule}
    (reached : Reachable (start concurrency jobs) s) : s.accounted.Perm jobs := by
  induction reached with
  | refl =>
    have noJob : (start concurrency jobs).inHand = [] := by
      rw [inHand, start, List.filterMap_replicate]
      rfl
    rw [accounted, noJob, List.append_nil]
    exact .of_eq (List.append_nil _)
  | step _ move ih => exact move.accounted_perm.trans ih

/-- What holds of the workers besides: none of them is lost, one of them stops only when the queue
is empty, and there is one if there is a job. -/
structure Staffed (s : Schedule) : Prop where
  kept : ∀ worker ∈ s.workers, ∀ job, worker ≠ .lost job
  stopped : .stopped ∈ s.workers → s.queue = []
  manned : s.workers = [] → s.queue = []

theorem staffed_start (concurrency : Nat) (jobs : List Job) : Staffed (start concurrency jobs) where
  kept worker member job lost := by
    rw [List.eq_of_mem_replicate member] at lost
    cases lost
  stopped member := by cases List.eq_of_mem_replicate member
  manned none := by
    rw [start, List.replicate_eq_nil_iff] at none
    have noJob : jobs.length = 0 := by omega
    exact List.length_eq_zero_iff.mp noJob

theorem Staffed.setWorker {s : Schedule} (staffed : Staffed s) (i : Nat) {other : Worker}
    (keeps : ∀ job, other ≠ .lost job) (stops : other = .stopped → s.queue = []) :
    Staffed (s.setWorker i other) where
  kept worker member job lost := by
    rcases List.mem_or_eq_of_mem_set member with before | same
    · exact staffed.kept worker before job lost
    · exact keeps job (same.symm.trans lost)
  stopped member := by
    rcases List.mem_or_eq_of_mem_set member with before | same
    · exact staffed.stopped before
    · exact stops same.symm
  manned none := by
    rw [Schedule.setWorker, List.set_eq_nil_iff] at none
    exact staffed.manned none

theorem Staffed.step {s t : Schedule} (staffed : Staffed s) (move : Step s t) : Staffed t := by
  cases move with
  | @take i job rest idle waiting =>
    -- No worker has stopped as long as a job waits.
    have busy : s.queue ≠ [] := fun empty => List.cons_ne_nil _ _ (waiting.symm.trans empty)
    have taken : Staffed { s with queue := rest } :=
      ⟨staffed.kept, fun member => absurd (staffed.stopped member) busy,
        fun none => absurd (staffed.manned none) busy⟩
    exact taken.setWorker i nofun nofun
  | @finish i job outcome running => exact staffed.setWorker i nofun nofun
  | @report i r e finished failed =>
    have reported : Staffed (s.addDiagnostic e) := ⟨staffed.kept, staffed.stopped, staffed.manned⟩
    exact reported.setWorker i nofun nofun
  | @pass i r finished succeeded => exact staffed.setWorker i nofun nofun
  | @deliver i r reported =>
    have delivered : Staffed (s.addResult r) := ⟨staffed.kept, staffed.stopped, staffed.manned⟩
    exact delivered.setWorker i nofun nofun
  | @stop i idle empty => exact staffed.setWorker i nofun fun _ => empty

theorem staffed_of_reachable {concurrency : Nat} {jobs : List Job} {s : Schedule}
    (reached : Reachable (start concurrency jobs) s) : Staffed s := by
  induction reached with
  | refl => exact staffed_start concurrency jobs
  | step _ move ih => exact ih.step move

/-- When no worker is going to move again, every one of them has stopped. -/
theorem Staffed.all_stopped {s : Schedule} (staffed : Staffed s) (complete : s.isComplete = true) :
    ∀ worker ∈ s.workers, worker = .stopped := by
  intro worker member
  have still := List.all_eq_true.mp complete worker member
  cases worker with
  | stopped => rfl
  | lost job => exact absurd rfl (staffed.kept _ member job)
  | _ => cases still

/-- **A run that is over has delivered the results of exactly its jobs.** -/
theorem results_perm_of_complete {concurrency : Nat} {jobs : List Job} {s : Schedule}
    (reached : Reachable (start concurrency jobs) s) (complete : s.isComplete = true) :
    (s.results.map (·.job)).Perm jobs := by
  have staffed := staffed_of_reachable reached
  have stopped := staffed.all_stopped complete
  have handsFree : s.inHand = [] := by
    refine List.filterMap_eq_nil_iff.mpr fun worker member => ?_
    rw [stopped worker member]
    rfl
  have queueEmpty : s.queue = [] := by
    cases workers : s.workers with
    | nil => exact staffed.manned workers
    | cons worker rest =>
      have member : worker ∈ s.workers := workers ▸ List.mem_cons_self
      exact staffed.stopped (stopped worker member ▸ member)
  have accounts := accounted_of_reachable reached
  rw [accounted, queueEmpty, handsFree] at accounts
  exact accounts

/-! ## Diagnostics -/

theorem failures_perm {first second : List JobResult} (perm : first.Perm second) :
    (failures first).Perm (failures second) :=
  (perm.filterMap _).map _

theorem failures_cons_none {r : JobResult} (succeeded : r.failure? = none)
    (results : List JobResult) : failures (r :: results) = failures results := by
  rw [failures, List.filterMap_cons_none succeeded]
  rfl

theorem failures_cons_some {r : JobResult} {e : JobError} (failed : r.failure? = some e)
    (results : List JobResult) :
    failures (r :: results) = Diagnostic.ofJobError e :: failures results := by
  rw [failures, List.filterMap_cons_some failed]
  rfl

/-- Whether the diagnostics are those of the results that are delivered or about to be. -/
def Reported (s : Schedule) : Prop :=
  s.diagnostics.Perm (failures (s.undelivered ++ s.results))

/-- A move that leaves the diagnostics alone keeps them right if it leaves the failures alone. -/
theorem Reported.of_failures {s t : Schedule} (reported : Reported s)
    (diagnostics : t.diagnostics = s.diagnostics)
    (same : (failures (t.undelivered ++ t.results)).Perm
      (failures (s.undelivered ++ s.results))) : Reported t := by
  rw [Reported, diagnostics]
  exact reported.trans same.symm

theorem Reported.step {s t : Schedule} (reported : Reported s) (move : Step s t) : Reported t := by
  cases move with
  | @take i job rest idle waiting =>
    have hands :=
      pick_setWorker (s := { s with queue := rest }) Worker.undelivered? (.running job) idle
    exact reported.of_failures rfl (failures_perm (hands.append_right _))
  | @finish i job outcome running =>
    have hands := pick_setWorker Worker.undelivered? (.finished ⟨job, outcome⟩) running
    exact reported.of_failures rfl (failures_perm (hands.append_right _))
  | @report i r e finished failed =>
    have hands : ((s.addDiagnostic e).setWorker i (.reported r)).undelivered.Perm
        (r :: s.undelivered) :=
          pick_setWorker (s := s.addDiagnostic e) Worker.undelivered? (.reported r) finished
    have owed := failures_perm (hands.append_right s.results)
    rw [List.cons_append, failures_cons_some failed] at owed
    refine List.Perm.trans ?_ owed.symm
    exact (List.perm_append_singleton _ _).trans (reported.cons _)
  | @pass i r finished succeeded =>
    have hands : (s.setWorker i (.reported r)).undelivered.Perm (r :: s.undelivered) :=
      pick_setWorker Worker.undelivered? (.reported r) finished
    have owed := failures_perm (hands.append_right s.results)
    rw [List.cons_append, failures_cons_none succeeded] at owed
    exact reported.of_failures rfl owed
  | @deliver i r reported' =>
    have hands : (r :: ((s.addResult r).setWorker i .idle).undelivered).Perm s.undelivered :=
      
          pick_setWorker (s := s.addResult r) Worker.undelivered? .idle reported'
    refine reported.of_failures rfl (failures_perm ?_)
    show (_ ++ (s.results ++ [r])).Perm _
    rw [← List.append_assoc]
    exact List.perm_append_comm.trans (hands.append_right _)
  | @stop i idle empty =>
    have hands := pick_setWorker Worker.undelivered? .stopped idle
    exact reported.of_failures rfl (failures_perm (hands.append_right _))

/-- At any time the failures of the results that are delivered or about to be have been reported,
each of them once. -/
theorem diagnostics_of_reachable {concurrency : Nat} {jobs : List Job} {s : Schedule}
    (reached : Reachable (start concurrency jobs) s) : Reported s := by
  induction reached with
  | refl =>
    have noResult : (start concurrency jobs).undelivered = [] := by
      rw [undelivered, start, List.filterMap_replicate]
      rfl
    rw [Reported, noResult]
    exact .refl _
  | step _ move ih => exact ih.step move

/-- **A run that is over has reported the failures in its results, each of them once.** -/
theorem diagnostics_perm_of_complete {concurrency : Nat} {jobs : List Job} {s : Schedule}
    (reached : Reachable (start concurrency jobs) s) (complete : s.isComplete = true) :
    s.diagnostics.Perm (failures s.results) := by
  have stopped := (staffed_of_reachable reached).all_stopped complete
  have delivered : s.undelivered = [] := by
    refine List.filterMap_eq_nil_iff.mpr fun worker member => ?_
    rw [stopped worker member]
    rfl
  have reported := diagnostics_of_reachable reached
  rwa [Reported, delivered] at reported

end Schedule

end LintRun
