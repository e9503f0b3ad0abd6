import LintRun.Proofs.Schedule.Accounting

/-!
# Orders of completion

When there is a worker for every job, the results can arrive in any order
(`exists_complete_of_perm`). Every worker takes a job before any of them goes on; then the jobs
are finished and delivered one by one, in the order that is asked for; and at last every worker
finds the queue empty.

When the outcomes of the jobs are fixed, two runs of the same jobs deliver the same results and
report the same failures, each run in some order (`Completes.results_perm`).
-/

set_option autoImplicit false

namespace LintRun.Schedule

theorem Reachable.trans {first s t : Schedule} (before : Reachable first s)
    (after : Reachable s t) : Reachable first t := by
  induction after with
  | refl => exact before
  | step _ move ih => exact ih.step move

theorem Reachable.single {s t : Schedule} (move : Step s t) : Reachable s t :=
  Reachable.refl.step move

theorem worker_at (front back : List Worker) (worker : Worker) :
    (front ++ worker :: back)[front.length]? = some worker := by
  rw [List.getElem?_append_right (Nat.le_refl _), Nat.sub_self]
  rfl

theorem set_worker_at (front back : List Worker) (worker other : Worker) :
    (front ++ worker :: back).set front.length other = front ++ other :: back := by
  rw [List.set_append_right _ _ (Nat.le_refl _), Nat.sub_self]
  rfl

/-! ## Taking the jobs -/

/-- The workers that follow those with a job take the jobs that wait, one each. -/
theorem reachable_taken (taken waiting : List Job) :
    Reachable
      { queue := waiting
        workers := taken.map .running ++ List.replicate waiting.length .idle }
      { queue := [], workers := (taken ++ waiting).map .running } := by
  induction waiting generalizing taken with
  | nil =>
    rw [List.length_nil, List.replicate_zero, List.append_nil, List.append_nil]
    exact .refl
  | cons job rest ih =>
    have idle := worker_at (taken.map .running) (List.replicate rest.length .idle) .idle
    have move := Step.take (s :=
      { queue := job :: rest
        workers := taken.map .running ++ .idle :: List.replicate rest.length .idle }) idle rfl
    rw [setWorker, set_worker_at] at move
    have next := ih (taken ++ [job])
    rw [List.map_append, List.append_assoc, List.append_assoc] at next
    exact (Reachable.single move).trans next

/-- With a worker for every job, all jobs can be taken before any of them ends. -/
theorem reachable_all_running {concurrency : Nat} {jobs : List Job}
    (enough : jobs.length ≤ concurrency) :
    Reachable (start concurrency jobs) { queue := [], workers := jobs.map .running } := by
  have workers : min (max concurrency 1) jobs.length = jobs.length := by omega
  have run := reachable_taken [] jobs
  rw [start, workers]
  exact run

/-! ## Delivering the results -/

/-- A worker that runs a job can finish it with any outcome, report it and deliver it. -/
theorem reachable_delivered {s : Schedule} {i : Nat} (r : JobResult)
    (running : s.workers[i]? = some (.running r.job)) :
    Reachable s
      { queue := s.queue
        workers := s.workers.set i .idle
        results := s.results ++ [r]
        diagnostics := s.diagnostics ++ r.failure?.toList.map Diagnostic.ofJobError } := by
  have inside : i < s.workers.length := (List.getElem?_eq_some_iff.mp running).1
  have finish : Step s (s.setWorker i (.finished r)) := Step.finish r.outcome running
  have finished : (s.setWorker i (.finished r)).workers[i]? = some (.finished r) :=
    List.getElem?_set_self inside
  have report : Step (s.setWorker i (.finished r))
      { queue := s.queue
        workers := s.workers.set i (.reported r)
        results := s.results
        diagnostics := s.diagnostics ++ r.failure?.toList.map Diagnostic.ofJobError } := by
    cases failure : r.failure? with
    | none =>
      have move := Step.pass finished failure
      rw [setWorker, setWorker, List.set_set] at move
      rw [Option.toList_none, List.map_nil, List.append_nil]
      exact move
    | some e =>
      have move := Step.report finished failure
      rw [setWorker, addDiagnostic, setWorker, List.set_set] at move
      exact move
  refine ((Reachable.single finish).step report).step ?_
  have move := Step.deliver (i := i) (r := r) (s :=
    { queue := s.queue
      workers := s.workers.set i (.reported r)
      results := s.results
      diagnostics := s.diagnostics ++ r.failure?.toList.map Diagnostic.ofJobError })
    (List.getElem?_set_self inside)
  rw [setWorker, addResult, List.set_set] at move
  exact move

/-- A job that runs does not run any more when its worker is idle. -/
theorem runningJobs_perm {s t : Schedule} {front back : List Worker} {job : Job}
    (before : s.workers = front ++ .running job :: back)
    (after : t.workers = front ++ .idle :: back) :
    s.runningJobs.Perm (job :: t.runningJobs) := by
  rw [runningJobs, runningJobs, before, after, List.filterMap_append, List.filterMap_append]
  exact List.perm_middle

/-- The results of the jobs that run can be delivered in any order. -/
theorem exists_delivered {s : Schedule} (results : List JobResult)
    (perm : (results.map (·.job)).Perm s.runningJobs)
    (busy : ∀ worker ∈ s.workers, worker = .idle ∨ ∃ job, worker = .running job) :
    ∃ t, Reachable s t ∧ t.queue = s.queue ∧ t.results = s.results ++ results ∧
      ∀ worker ∈ t.workers, worker = .idle := by
  induction results generalizing s with
  | nil =>
    refine ⟨s, .refl, rfl, (List.append_nil _).symm, fun worker member => ?_⟩
    refine (busy worker member).resolve_right fun ⟨job, running⟩ => ?_
    have inside : job ∈ s.runningJobs :=
      List.mem_filterMap.mpr ⟨worker, member, by rw [running]⟩
    exact List.not_mem_nil (perm.mem_iff.mpr inside)
  | cons r rest ih =>
    -- The worker that runs the first job asked for delivers its result before any other moves.
    have inside : r.job ∈ s.runningJobs := perm.mem_iff.mp List.mem_cons_self
    obtain ⟨worker, member, runs⟩ := List.mem_filterMap.mp inside
    have running : worker = .running r.job := by
      cases worker <;> cases runs
      rfl
    subst running
    obtain ⟨front, back, split⟩ := List.append_of_mem member
    have delivered := reachable_delivered r (by rw [split]; exact worker_at front back _)
    rw [split, set_worker_at] at delivered
    have stillBusy : ∀ worker ∈ front ++ .idle :: back,
        worker = .idle ∨ ∃ job, worker = .running job := by
      intro worker member
      rw [split] at busy
      rcases List.mem_append.mp member with before | after
      · exact busy worker (List.mem_append_left _ before)
      · rcases List.mem_cons.mp after with here | later
        · exact .inl here
        · exact busy worker (List.mem_append_right _ (List.mem_cons_of_mem _ later))
    obtain ⟨t, reached, queue, results, idle⟩ := ih (s :=
      { queue := s.queue
        workers := front ++ .idle :: back
        results := s.results ++ [r]
        diagnostics := s.diagnostics ++ r.failure?.toList.map Diagnostic.ofJobError })
      (perm.trans (runningJobs_perm split rfl)).cons_inv stillBusy
    exact ⟨t, delivered.trans reached, queue, by rw [results, List.append_assoc]; rfl, idle⟩

/-! ## Stopping -/

/-- Idle workers that find the queue empty stop, one after the other. -/
theorem reachable_stopped {s : Schedule} (empty : s.queue = []) (stopped idle : Nat)
    (workers : s.workers = List.replicate stopped .stopped ++ List.replicate idle .idle) :
    Reachable s { s with workers := List.replicate (stopped + idle) .stopped } := by
  induction idle generalizing s stopped with
  | zero =>
    rw [List.replicate_zero, List.append_nil] at workers
    rw [Nat.add_zero, ← workers]
    exact .refl
  | succ idle ih =>
    have next : s.workers[(List.replicate stopped Worker.stopped).length]? = some .idle := by
      rw [workers]
      exact worker_at _ _ _
    have move := Step.stop next empty
    rw [setWorker, workers, List.replicate_succ, set_worker_at] at move
    have rest := ih (s :=
      { s with
        workers := List.replicate stopped .stopped ++ .stopped :: List.replicate idle .idle })
      empty (stopped + 1) (by rw [List.replicate_succ', List.append_assoc]; rfl)
    rw [Nat.add_right_comm, Nat.add_assoc] at rest
    exact (Reachable.single move).trans rest

/-- **With a worker for every job, the results can arrive in any order.** -/
theorem exists_complete_of_perm {concurrency : Nat} {jobs : List Job}
    (enough : jobs.length ≤ concurrency) {results : List JobResult}
    (perm : (results.map (·.job)).Perm jobs) :
    ∃ s, Reachable (start concurrency jobs) s ∧ s.isComplete = true ∧ s.results = results := by
  have running : runningJobs { queue := [], workers := jobs.map .running } = jobs := by
    rw [runningJobs, List.filterMap_map]
    exact List.filterMap_some
  obtain ⟨t, delivered, empty, arrived, idle⟩ := exists_delivered
    (s := { queue := [], workers := jobs.map .running }) results (by rw [running]; exact perm)
    fun worker member => by
      obtain ⟨job, -, same⟩ := List.mem_map.mp member
      exact .inr ⟨job, same.symm⟩
  have workers : t.workers = List.replicate 0 .stopped ++ List.replicate t.workers.length .idle :=
    List.eq_replicate_iff.mpr ⟨rfl, idle⟩
  refine ⟨_, ((reachable_all_running enough).trans delivered).trans
    (reachable_stopped empty 0 t.workers.length workers), ?_, arrived⟩
  rw [isComplete, List.all_eq_true]
  intro worker member
  rw [List.eq_of_mem_replicate member]

/-! ## Jobs with fixed outcomes -/

/-- The result of a job whose outcome is fixed. -/
def resultOf (outcome : Job → JobOutcome) (job : Job) : JobResult :=
  ⟨job, outcome job⟩

/-- Whether a run of some jobs whose outcomes are fixed can end in a schedule. -/
structure Completes (concurrency : Nat) (jobs : List Job) (outcome : Job → JobOutcome)
    (s : Schedule) : Prop where
  reached : Reachable (start concurrency jobs) s
  complete : s.isComplete = true
  fixed : ∀ r ∈ s.results, r.outcome = outcome r.job

variable {concurrency : Nat} {jobs : List Job} {outcome : Job → JobOutcome} {s t : Schedule}

/-- The results that are delivered are those of the jobs. -/
theorem Completes.results_perm_map (ended : Completes concurrency jobs outcome s) :
    s.results.Perm (jobs.map (resultOf outcome)) := by
  have perm := (results_perm_of_complete ended.reached ended.complete).map (resultOf outcome)
  have same : (s.results.map (·.job)).map (resultOf outcome) = s.results := by
    rw [List.map_map, List.map_congr_left (g := id), List.map_id]
    intro r member
    rw [Function.comp, resultOf, ← ended.fixed r member]
    rfl
  rwa [same] at perm

/-- **The same results are delivered in every run.** -/
theorem Completes.results_perm (ended : Completes concurrency jobs outcome s)
    (ended' : Completes concurrency jobs outcome t) : s.results.Perm t.results :=
  ended.results_perm_map.trans ended'.results_perm_map.symm

/-- The same failures are reported in every run. -/
theorem Completes.diagnostics_perm (ended : Completes concurrency jobs outcome s)
    (ended' : Completes concurrency jobs outcome t) : s.diagnostics.Perm t.diagnostics :=
  (diagnostics_perm_of_complete ended.reached ended.complete).trans <|
    (failures_perm (ended.results_perm ended')).trans
      (diagnostics_perm_of_complete ended'.reached ended'.complete).symm

/-- With a worker for every job, the jobs can end in any order. -/
theorem exists_completes_of_perm (enough : jobs.length ≤ concurrency) {order : List Job}
    (perm : order.Perm jobs) :
    ∃ s, Completes concurrency jobs outcome s ∧ s.results = order.map (resultOf outcome) := by
  have jobsOf : ((order.map (resultOf outcome)).map (·.job)).Perm jobs := by
    rw [List.map_map]
    exact (List.Perm.of_eq (List.map_id order)).trans perm
  obtain ⟨s, reached, complete, results⟩ := exists_complete_of_perm enough jobsOf
  refine ⟨s, ⟨reached, complete, fun r member => ?_⟩, results⟩
  rw [results] at member
  obtain ⟨job, -, rfl⟩ := List.mem_map.mp member
  rfl

end LintRun.Schedule
