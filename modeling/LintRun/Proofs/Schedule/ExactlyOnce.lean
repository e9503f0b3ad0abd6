import Mathlib.Algebra.GroupWithZero.Nat
import Mathlib.Data.List.Perm.Subperm
import LintRun.Proofs.Schedule.Orders

/-!
# Jobs run once

A worker begins a job when it turns to running it. The jobs that are begun in a run of the workers,
in their order, are the ones that have left the queue (`Run.begun_append_queue`). So every job is
begun at most once, and what has been begun is in the hands of a worker or delivered.

Every move leaves one move less to be made (`Step.movesLeft_eq`), and a worker that has not stopped
can always move. So a run can be continued to the end from wherever it is, and it cannot go on
without end. Together with the accounts of jobs and failures this says that every job of a run is
run exactly once and every failure reported exactly once (`exactlyOnce_of_reachable`).
-/

set_option autoImplicit false

namespace LintRun

/-- The job that a worker begins when it turns from one thing to another. -/
def Worker.begins? : Worker → Worker → Option Job
  | .running _, _ => none
  | _, .running job => some job
  | _, _ => none

/-- The number of moves that a worker still makes if it is given no other job. -/
def Worker.movesLeft : Worker → Nat
  | .running _ => 4
  | .finished _ => 3
  | .reported _ => 2
  | .idle => 1
  | .stopped | .lost _ => 0

namespace Schedule

/-- The jobs that the workers begin between two states. -/
def begunBetween (s t : Schedule) : List Job :=
  (s.workers.zip t.workers).filterMap fun pair => pair.1.begins? pair.2

/-- The runs of the workers, each with the jobs that are begun in it, the first one first. -/
inductive Run (first : Schedule) : List Job → Schedule → Prop where
  | refl : Run first [] first
  | step {begun : List Job} {s t : Schedule} :
      Run first begun s → Step s t → Run first (begun ++ begunBetween s t) t

/-- The number of moves that the workers still make: four for each job and one to stop. -/
def movesLeft (s : Schedule) : Nat :=
  4 * s.queue.length + (s.workers.map Worker.movesLeft).sum

variable {concurrency : Nat} {jobs begun : List Job} {first s t : Schedule}

/-! ## One worker moves -/

theorem begins?_self (worker : Worker) : worker.begins? worker = none := by
  cases worker <;> rfl

theorem begins_same (workers : List Worker) :
    ((workers.zip workers).filterMap fun pair => pair.1.begins? pair.2) = [] := by
  induction workers with
  | nil => rfl
  | cons worker rest ih =>
    simp only [List.zip_cons_cons, List.filterMap_cons, begins?_self]
    exact ih

theorem begins_set {workers : List Worker} {i : Nat} {worker : Worker} (other : Worker)
    (here : workers[i]? = some worker) :
    ((workers.zip (workers.set i other)).filterMap fun pair => pair.1.begins? pair.2) =
      (worker.begins? other).toList := by
  induction workers generalizing i with
  | nil => cases here
  | cons head rest ih =>
    cases i with
    | zero =>
      obtain rfl := Option.some.inj here
      rw [List.set_cons_zero, List.zip_cons_cons, List.filterMap_cons, begins_same]
      cases head.begins? other <;> rfl
    | succ i =>
      simp only [List.set_cons_succ, List.zip_cons_cons, List.filterMap_cons, begins?_self]
      exact ih here

theorem sum_movesLeft_set {workers : List Worker} {i : Nat} {worker : Worker} (other : Worker)
    (here : workers[i]? = some worker) :
    ((workers.set i other).map Worker.movesLeft).sum + worker.movesLeft =
      (workers.map Worker.movesLeft).sum + other.movesLeft := by
  induction workers generalizing i with
  | nil => cases here
  | cons head rest ih =>
    cases i with
    | zero =>
      obtain rfl := Option.some.inj here
      simp only [List.set_cons_zero, List.map_cons, List.sum_cons]
      omega
    | succ i =>
      have tail := ih here
      simp only [List.set_cons_succ, List.map_cons, List.sum_cons]
      omega

/-- A move begins the jobs by which the queue gets shorter. -/
theorem Step.begunBetween_append_queue (move : Step s t) :
    begunBetween s t ++ t.queue = s.queue := by
  cases move with
  | @take i job rest idle waiting =>
    have begins : begunBetween s ({ s with queue := rest }.setWorker i (.running job)) = [job] :=
      begins_set (.running job) idle
    rw [begins, waiting]
    rfl
  | @finish i job outcome running =>
    exact congrArg (· ++ s.queue) (begins_set (.finished ⟨job, outcome⟩) running)
  | @report i r e finished failed =>
    exact congrArg (· ++ s.queue) (begins_set (.reported r) finished)
  | @pass i r finished succeeded =>
    exact congrArg (· ++ s.queue) (begins_set (.reported r) finished)
  | @deliver i r reported => exact congrArg (· ++ s.queue) (begins_set .idle reported)
  | @stop i idle empty => exact congrArg (· ++ s.queue) (begins_set .stopped idle)

/-- Every move leaves one move less. -/
theorem Step.movesLeft_eq (move : Step s t) : s.movesLeft = t.movesLeft + 1 := by
  cases move with
  | @take i job rest idle waiting =>
    have moved := sum_movesLeft_set (.running job) idle
    simp only [Worker.movesLeft] at moved
    simp only [movesLeft, setWorker, waiting, List.length_cons]
    omega
  | @finish i job outcome running =>
    have moved := sum_movesLeft_set (.finished ⟨job, outcome⟩) running
    simp only [Worker.movesLeft] at moved
    simp only [movesLeft, setWorker]
    omega
  | @report i r e finished failed =>
    have moved := sum_movesLeft_set (.reported r) finished
    simp only [Worker.movesLeft] at moved
    simp only [movesLeft, setWorker, addDiagnostic]
    omega
  | @pass i r finished succeeded =>
    have moved := sum_movesLeft_set (.reported r) finished
    simp only [Worker.movesLeft] at moved
    simp only [movesLeft, setWorker]
    omega
  | @deliver i r reported =>
    have moved := sum_movesLeft_set .idle reported
    simp only [Worker.movesLeft] at moved
    simp only [movesLeft, setWorker, addResult]
    omega
  | @stop i idle empty =>
    have moved := sum_movesLeft_set .stopped idle
    simp only [Worker.movesLeft] at moved
    simp only [movesLeft, setWorker]
    omega

theorem Step.length_workers (move : Step s t) : t.workers.length = s.workers.length := by
  cases move <;> exact List.length_set

/-! ## Runs -/

theorem Run.reachable (run : Run first begun s) : Reachable first s := by
  induction run with
  | refl => exact .refl
  | step _ move ih => exact ih.step move

/-- Every state that can be reached is reached by a run. -/
theorem Reachable.exists_run (reached : Reachable first s) : ∃ begun, Run first begun s := by
  induction reached with
  | refl => exact ⟨[], .refl⟩
  | step _ move ih =>
    obtain ⟨begun, run⟩ := ih
    exact ⟨_, run.step move⟩

/-- **The jobs that are begun in a run are those that have left the queue**, in their order. -/
theorem Run.begun_append_queue (run : Run first begun s) : begun ++ s.queue = first.queue := by
  induction run with
  | refl => rfl
  | step _ move ih => rw [List.append_assoc, move.begunBetween_append_queue, ih]

/-- What has been begun is in the hands of a worker or delivered. -/
theorem Run.begun_perm (run : Run (start concurrency jobs) begun s) :
    begun.Perm (s.inHand ++ s.results.map (·.job)) := by
  have accounts := accounted_of_reachable run.reachable
  have left : begun ++ s.queue = jobs := run.begun_append_queue
  rw [accounted, ← left, List.append_assoc] at accounts
  exact (List.perm_append_left_iff s.queue).mp (List.perm_append_comm.trans accounts.symm)

theorem length_workers_of_reachable (reached : Reachable (start concurrency jobs) s) :
    s.workers.length = min (max concurrency 1) jobs.length := by
  induction reached with
  | refl => exact List.length_replicate
  | step _ move ih => exact move.length_workers.trans ih

/-! ## The end of a run -/

/-- A worker that has not stopped can move. -/
theorem exists_step_of_mem {worker : Worker} (member : worker ∈ s.workers)
    (kept : ∀ job, worker ≠ .lost job) (going : worker ≠ .stopped) : ∃ t, Step s t := by
  obtain ⟨i, here⟩ := List.getElem?_of_mem member
  cases worker with
  | idle =>
    cases waiting : s.queue with
    | nil => exact ⟨_, .stop here waiting⟩
    | cons job rest => exact ⟨_, .take here waiting⟩
  | running job => exact ⟨_, .finish (.ok default) here⟩
  | finished result =>
    cases failure : result.failure? with
    | none => exact ⟨_, .pass here failure⟩
    | some e => exact ⟨_, .report here failure⟩
  | reported result => exact ⟨_, .deliver here⟩
  | stopped => exact absurd rfl going
  | lost job => exact absurd rfl (kept job)

/-- From wherever a run is, it can be continued until all workers have stopped. -/
theorem Staffed.exists_all_stopped (staffed : Staffed s) :
    ∃ t, Reachable s t ∧ ∀ worker ∈ t.workers, worker = .stopped := by
  induction left : s.movesLeft generalizing s with
  | zero =>
    refine ⟨s, .refl, fun worker member => ?_⟩
    by_contra going
    obtain ⟨t, move⟩ := exists_step_of_mem member (staffed.kept worker member) going
    have more := move.movesLeft_eq
    omega
  | succ n ih =>
    by_cases halted : ∀ worker ∈ s.workers, worker = .stopped
    · exact ⟨s, .refl, halted⟩
    · obtain ⟨worker, member, going⟩ : ∃ worker ∈ s.workers, worker ≠ .stopped := by
        simpa only [not_forall, exists_prop] using halted
      obtain ⟨next, move⟩ := exists_step_of_mem member (staffed.kept worker member) going
      have less := move.movesLeft_eq
      obtain ⟨t, reached, stopped⟩ := ih (staffed.step move) (by omega)
      exact ⟨t, (Reachable.single move).trans reached, stopped⟩

theorem isComplete_of_all_stopped (stopped : ∀ worker ∈ s.workers, worker = .stopped) :
    s.isComplete = true := by
  refine List.all_eq_true.mpr fun worker member => ?_
  rw [stopped worker member]

/-! ## Exactly once -/

/-- What holds of a state to which the workers bring some jobs. -/
structure ExactlyOnce (concurrency : Nat) (jobs : List Job) (s : Schedule) : Prop where
  /-- No more jobs are running than are allowed at a time. -/
  bounded : s.runningJobs.length ≤ min (max concurrency 1) jobs.length
  /-- The state is the end of a run. -/
  run : ∃ begun, Run (start concurrency jobs) begun s
  /-- In every run to this state, the jobs that were begun are the first ones of the jobs, each of
  them once, and they are in the hands of the workers or delivered. -/
  begunOnce : ∀ begun, Run (start concurrency jobs) begun s →
    begun ++ s.queue = jobs ∧ begun.Perm (s.inHand ++ s.results.map (·.job))
  /-- The failures in the results that are delivered have been reported, each of them once. -/
  reported : (failures s.results).Subperm s.diagnostics
  /-- When all workers have stopped, the results are those of exactly the jobs, and the diagnostics
  are those of exactly the failures among them. -/
  delivered : (∀ worker ∈ s.workers, worker = .stopped) →
    (s.results.map (·.job)).Perm jobs ∧ s.diagnostics.Perm (failures s.results)
  /-- The run can be continued to this end. -/
  ends : ∃ t, Reachable s t ∧ ∀ worker ∈ t.workers, worker = .stopped

/-- **Every job runs exactly once, and every failure is reported exactly once**, whatever the order
in which the workers move and whatever comes out of the jobs. -/
theorem exactlyOnce_of_reachable (reached : Reachable (start concurrency jobs) s) :
    ExactlyOnce concurrency jobs s where
  bounded := by
    rw [← length_workers_of_reachable reached]
    exact List.length_filterMap_le _ _
  run := reached.exists_run
  begunOnce begun run := ⟨run.begun_append_queue, run.begun_perm⟩
  reported := by
    have owed : (failures (s.undelivered ++ s.results)).Perm s.diagnostics :=
      (diagnostics_of_reachable reached).symm
    rw [failures, List.filterMap_append, List.map_append] at owed
    exact (List.sublist_append_right _ _).subperm.trans owed.subperm
  delivered stopped := by
    have complete := isComplete_of_all_stopped stopped
    exact ⟨results_perm_of_complete reached complete,
      diagnostics_perm_of_complete reached complete⟩
  ends := (staffed_of_reachable reached).exists_all_stopped

/-! Two workers and three jobs, of which the second one cannot be started. -/

namespace ThreeJobs

def job (id : Nat) : Job :=
  { id, linter := "vet", path := "a", program := "go", args := ["a"] }

/-- The outcome of a job that ends without success. -/
def exited (id : Nat) : JobResult :=
  ⟨job id, .ok { status := some 1 }⟩

def missing : JobError :=
  { linter := "vet", path := "a", fault := .launch "go" "No such file or directory (os error 2)" }

def unstarted : JobResult :=
  ⟨job 1, .error missing⟩

/-- The second job fails first, its worker runs the third one, and the first job ends last. -/
def ended : Schedule where
  queue := []
  workers := [.stopped, .stopped]
  results := [unstarted, exited 2, exited 0]
  diagnostics := [Diagnostic.ofJobError missing]

theorem reachable_ended : Reachable (start 2 [job 0, job 1, job 2]) ended := by
  have taken : Reachable (start 2 [job 0, job 1, job 2])
      { queue := [job 2], workers := [.running (job 0), .running (job 1)] } :=
    (Reachable.refl.step (.take (i := 0) rfl rfl)).step (.take (i := 1) rfl rfl)
  have failed := taken.trans (reachable_delivered (i := 1) unstarted rfl)
  have retaken := failed.step (.take (i := 1) rfl rfl)
  have second := retaken.trans (reachable_delivered (i := 1) (exited 2) rfl)
  have last := second.trans (reachable_delivered (i := 0) (exited 0) rfl)
  exact (last.step (.stop (i := 0) rfl rfl)).step (.stop (i := 1) rfl rfl)

end ThreeJobs

open ThreeJobs in
theorem exactlyOnce_ended :
    Reachable (start 2 [job 0, job 1, job 2]) ended ∧ ExactlyOnce 2 [job 0, job 1, job 2] ended ∧
      (ended.results.map (·.job)).Perm [job 0, job 1, job 2] ∧
      ended.diagnostics.Perm (failures ended.results) := by
  have once := exactlyOnce_of_reachable reachable_ended
  exact ⟨reachable_ended, once, once.delivered (by simp [ended])⟩

end Schedule

end LintRun
