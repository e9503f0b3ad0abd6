import LintRun.Proofs.Schedule.ExactlyOnce

/-!
# The run that is carried out

`Schedule.complete` carries out one run of the workers. `Carried` says what one worker does in it:
it makes a move that the workers can make, or a job that it runs ends, or it is lost with the job.
Each leaves fewer moves to be made (`Carried.movesLeft_lt`), and `complete` allows for all of them,
so it goes on until no worker moves (`complete_halted`). Then the run is over, unless some job goes
on for ever (`isComplete_of_halted`).

What every step preserves holds of the run (`completeFrom_induct`). So if every job that is run ends
with an outcome (`EndsIn`), what holds of all runs of the workers holds of this one
(`complete_spec`).
-/

set_option autoImplicit false

namespace LintRun.Schedule

variable {World : Type} {run : World → Job → JobEnd × World}
variable {world next : World} {s t : Schedule} {i fuel concurrency : Nat} {jobs : List Job}

/-! ## One step -/

/-- What one worker does in a run that is carried out. -/
inductive Carried (run : World → Job → JobEnd × World) (world : World) (s : Schedule) :
    World → Schedule → Prop where
  /-- A move by which no job ends. -/
  | move {t : Schedule} (move : Step s t)
      (ended : ∀ (i : Nat) (r : JobResult), t.workers[i]? = some (.finished r) →
        s.workers[i]? = some (.finished r)) : Carried run world s world t
  | finish {i : Nat} {job : Job} {outcome : JobOutcome} {next : World}
      (running : s.workers[i]? = some (.running job))
      (ran : run world job = (.outcome outcome, next)) :
      Carried run world s next (s.setWorker i (.finished ⟨job, outcome⟩))
  | lose {i : Nat} {job : Job} {next : World} (running : s.workers[i]? = some (.running job))
      (ran : run world job = (.lost, next)) : Carried run world s next (s.setWorker i (.lost job))

/-- A worker that turns to anything but the end of a job leaves the ends of jobs where they are. -/
theorem finished_of_set (other : Worker) (unfinished : ∀ r, other ≠ .finished r)
    {workers : List Worker} {i j : Nat} {r : JobResult}
    (here : (workers.set i other)[j]? = some (.finished r)) :
    workers[j]? = some (.finished r) := by
  by_cases same : i = j
  · subst same
    obtain ⟨inside, -⟩ := List.getElem?_eq_some_iff.mp here
    rw [List.length_set] at inside
    rw [List.getElem?_set_self inside] at here
    exact absurd (Option.some.inj here) (unfinished r)
  · exact (List.getElem?_set_ne same).symm.trans here

theorem carried_of_move? (moved : move? run world s i = some (next, t)) :
    Carried run world s next t := by
  rw [move?] at moved
  cases here : s.workers[i]? with
  | none =>
    rw [here] at moved
    cases moved
  | some worker =>
    rw [here] at moved
    cases worker with
    | idle =>
      cases waiting : s.queue with
      | nil =>
        simp only [waiting] at moved
        cases moved
        exact .move (.stop here waiting) fun _ _ =>
          finished_of_set .stopped fun _ => Worker.noConfusion
      | cons job rest =>
        simp only [waiting] at moved
        cases moved
        exact .move (.take here waiting) fun _ _ =>
          finished_of_set (.running job) fun _ => Worker.noConfusion
    | running job =>
      cases ran : run world job with
      | mk result after =>
        cases result with
        | outcome outcome =>
          simp only [ran] at moved
          cases moved
          exact .finish here ran
        | lost =>
          simp only [ran] at moved
          cases moved
          exact .lose here ran
        | endless =>
          simp only [ran] at moved
          cases moved
    | finished result =>
      cases failure : result.failure? with
      | none =>
        simp only [failure] at moved
        cases moved
        exact .move (.pass here failure) fun _ _ =>
          finished_of_set (.reported result) fun _ => Worker.noConfusion
      | some e =>
        simp only [failure] at moved
        cases moved
        exact .move (.report here failure) fun _ _ =>
          finished_of_set (.reported result) fun _ => Worker.noConfusion
    | reported result =>
      cases moved
      exact .move (.deliver here) fun _ _ => finished_of_set .idle fun _ => Worker.noConfusion
    | stopped => cases moved
    | lost job => cases moved

/-- Every step leaves fewer moves. -/
theorem Carried.movesLeft_lt (carried : Carried run world s next t) :
    t.movesLeft < s.movesLeft := by
  cases carried with
  | move move ended =>
    have less := move.movesLeft_eq
    omega
  | @finish i job outcome next running ran =>
    have less := (Step.finish outcome running).movesLeft_eq
    omega
  | @lose i job next running ran =>
    have moved := sum_movesLeft_set (.lost job) running
    simp only [Worker.movesLeft] at moved
    simp only [movesLeft, setWorker]
    omega

/-- A worker moves unless it has stopped, is lost or runs a job for ever. -/
theorem exists_move? (world : World) {worker : Worker} (here : s.workers[i]? = some worker)
    (kept : ∀ job, worker ≠ .lost job) (going : worker ≠ .stopped)
    (ends : ∀ job, worker = .running job → (run world job).1 ≠ .endless) :
    ∃ next, move? run world s i = some next := by
  rw [move?, here]
  cases worker with
  | idle => cases s.queue <;> exact ⟨_, rfl⟩
  | running job =>
    cases ran : run world job with
    | mk result after =>
      cases result with
      | outcome outcome => exact ⟨_, by simp only [ran]; rfl⟩
      | lost => exact ⟨_, by simp only [ran]; rfl⟩
      | endless => exact absurd (congrArg Prod.fst ran) (ends job rfl)
  | finished result =>
    cases failure : result.failure? <;> exact ⟨_, by simp only [failure]; rfl⟩
  | reported result => exact ⟨_, rfl⟩
  | stopped => exact absurd rfl going
  | lost job => exact absurd rfl (kept job)

/-- When no worker moves, the run is over unless a job goes on for ever. -/
theorem isComplete_of_halted (halted : ∀ i, move? run world s i = none)
    (ends : ∀ job, .running job ∈ s.workers → (run world job).1 ≠ .endless) :
    s.isComplete = true := by
  refine List.all_eq_true.mpr fun worker member => ?_
  obtain ⟨i, here⟩ := List.getElem?_of_mem member
  have stuck : ∀ next, move? run world s i ≠ some next := fun next moved =>
    Option.some_ne_none next (moved.symm.trans (halted i))
  cases worker with
  | stopped => rfl
  | lost job => rfl
  | _ =>
    obtain ⟨next, moved⟩ := exists_move? world here nofun nofun fun job same =>
      ends job (same ▸ member)
    exact absurd moved (stuck next)

/-! ## The run -/

/-- **What every step preserves holds of the run.** -/
theorem completeFrom_induct {motive : World → Schedule → Prop}
    (step : ∀ {world next s t}, motive world s → Carried run world s next t → motive next t)
    (first : motive world s) :
    motive (completeFrom run fuel world s).1 (completeFrom run fuel world s).2 := by
  induction fuel generalizing world s with
  | zero => exact first
  | succ fuel ih =>
    rw [completeFrom]
    cases found : (List.range s.workers.length).findSome? (move? run world s) with
    | none => exact first
    | some next =>
      obtain ⟨i, -, moved⟩ := List.exists_of_findSome?_eq_some found
      exact ih (step first (carried_of_move? moved))

/-- The workers go on until none moves if they are given enough moves. -/
theorem completeFrom_halted (enough : s.movesLeft ≤ fuel) (i : Nat) :
    move? run (completeFrom run fuel world s).1 (completeFrom run fuel world s).2 i = none := by
  induction fuel generalizing world s with
  | zero =>
    refine Option.eq_none_iff_forall_ne_some.mpr fun next moved => ?_
    have less := (carried_of_move? moved).movesLeft_lt
    exact absurd (Nat.lt_of_lt_of_le less enough) (Nat.not_lt_zero _)
  | succ fuel ih =>
    rw [completeFrom]
    cases found : (List.range s.workers.length).findSome? (move? run world s) with
    | none =>
      by_cases inside : i < s.workers.length
      · exact List.findSome?_eq_none_iff.mp found i (List.mem_range.mpr inside)
      · show move? run world s i = none
        rw [move?, List.getElem?_eq_none (Nat.le_of_not_lt inside)]
    | some next =>
      obtain ⟨i, -, moved⟩ := List.exists_of_findSome?_eq_some found
      have less := (carried_of_move? moved).movesLeft_lt
      exact ih (by omega)

theorem movesLeft_start (concurrency : Nat) (jobs : List Job) :
    (start concurrency jobs).movesLeft = 4 * jobs.length + min (max concurrency 1) jobs.length := by
  simp only [movesLeft, start, List.map_replicate, List.sum_replicate_nat, Worker.movesLeft,
    Nat.mul_one]

theorem complete_halted (i : Nat) :
    move? run (complete run world concurrency jobs).1 (complete run world concurrency jobs).2 i =
      none := by
  refine completeFrom_halted ?_ i
  rw [movesLeft_start]
  omega

/-- Whether in some worlds every job that is run ends with an outcome and in one of them again. -/
structure EndsIn (run : World → Job → JobEnd × World) (inside : World → Prop) : Prop where
  outcome : ∀ {world}, inside world → ∀ job, ∃ outcome, (run world job).1 = .outcome outcome
  stays : ∀ {world}, inside world → ∀ job, inside (run world job).2

/-- **Some jobs are run to the end**, in a run that the workers can make. -/
theorem complete_spec {inside : World → Prop} (ends : EndsIn run inside) (here : inside world)
    (concurrency : Nat) (jobs : List Job) :
    Reachable (start concurrency jobs) (complete run world concurrency jobs).2 ∧
      (complete run world concurrency jobs).2.isComplete = true := by
  have reached : inside (complete run world concurrency jobs).1 ∧
      Reachable (start concurrency jobs) (complete run world concurrency jobs).2 := by
    refine completeFrom_induct (motive := fun world s =>
      inside world ∧ Reachable (start concurrency jobs) s) ?_ ⟨here, .refl⟩
    rintro world next s t ⟨here, reached⟩ carried
    cases carried with
    | move move ended => exact ⟨here, reached.step move⟩
    | @finish i job outcome next running ran =>
      have stays := ends.stays here job
      rw [ran] at stays
      exact ⟨stays, reached.step (.finish outcome running)⟩
    | @lose i job next running ran =>
      obtain ⟨outcome, ended⟩ := ends.outcome here job
      rw [ran] at ended
      cases ended
  refine ⟨reached.2, isComplete_of_halted complete_halted fun job _ endless => ?_⟩
  obtain ⟨outcome, ended⟩ := ends.outcome reached.1 job
  rw [endless] at ended
  cases ended

end LintRun.Schedule
