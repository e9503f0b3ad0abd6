import Mathlib.Logic.Relation
import LintRun.Duration.Parser
import LintRun.Proofs.Pipeline.Accounts

/-!
# Jobs with a limit of time

A job whose limit ends beyond the last reading of the clock comes to no outcome, not even to a
failure, and its worker is lost with it. A job without a limit may go on for ever, and then its
worker makes no more moves.

`LimitedStep` has the moves of the workers for jobs with a limit: the usual ones, of which the end
of a job takes a time at which its limit fits, and the loss of a worker, which takes a time at which
it does not. In the states that are reached by these moves every job is accounted for, but a run
that is over has one result for each job only if no worker was lost. No worker is lost if the limit
fits at every time; if it fits at none, all are, and nothing is delivered or reported
(`limitedRun_of_reachable`). A limit that does not fit can be written as well as any other, and the
report of a run with one is empty, whatever the programs of its jobs do (`run_of_unfit`,
`endless_limit`).
-/

set_option autoImplicit false

namespace LintRun

open Duration

namespace Schedule

/-- The moves of the workers when their jobs have a limit and the clock shows certain readings. -/
inductive LimitedStep (now : Duration → Prop) (limit : Option Duration) :
    Schedule → Schedule → Prop where
  /-- A usual move. A job that comes to its end was begun at a time at which its limit fits. -/
  | move {s t : Schedule} (move : Step s t)
      (timely : ∀ (i : Nat) (r : JobResult), t.workers[i]? = some (.finished r) →
        s.workers[i]? = some (.finished r) ∨ ∃ start, now start ∧ start.Fits limit) :
      LimitedStep now limit s t
  /-- A job was begun at a time at which its limit does not fit. -/
  | lose {s : Schedule} {i : Nat} {job : Job} {start : Duration}
      (running : s.workers[i]? = some (.running job)) (reading : now start)
      (beyond : ¬ start.Fits limit) : LimitedStep now limit s (s.setWorker i (.lost job))

/-- The states that the workers can bring about when their jobs have a limit. -/
abbrev LimitedReachable (now : Duration → Prop) (limit : Option Duration) :
    Schedule → Schedule → Prop :=
  Relation.ReflTransGen (LimitedStep now limit)

section Moves

variable {now : Duration → Prop} {limit : Option Duration} {concurrency : Nat} {jobs : List Job}
  {s t : Schedule} {job : Job}

/-! ## What one move does -/

theorem LimitedStep.accounted_perm (moved : LimitedStep now limit s t) :
    t.accounted.Perm s.accounted := by
  cases moved with
  | move move _ => exact move.accounted_perm
  | @lose i job start running reading beyond =>
    have hands := pick_setWorker Worker.job? (.lost job) running
    exact (((List.perm_cons _).mp hands).append_left _).append_right _

theorem LimitedStep.length_workers (moved : LimitedStep now limit s t) :
    t.workers.length = s.workers.length := by
  cases moved with
  | move move _ => exact move.length_workers
  | lose => exact List.length_set

/-- A worker that is lost stays lost. -/
theorem Step.lost_mem (move : Step s t) (lost : .lost job ∈ s.workers) : .lost job ∈ t.workers := by
  obtain ⟨place, at_place⟩ := List.getElem?_of_mem lost
  have stays : ∀ {i : Nat} {worker other : Worker}, s.workers[i]? = some worker →
      worker ≠ .lost job → .lost job ∈ s.workers.set i other := by
    intro i worker other here kept
    have elsewhere : i ≠ place := by
      rintro rfl
      exact kept (Option.some.inj (here.symm.trans at_place))
    exact List.mem_of_getElem? ((List.getElem?_set_ne elsewhere).trans at_place)
  cases move with
  | take idle waiting => exact stays idle nofun
  | finish outcome running => exact stays running nofun
  | report finished failed => exact stays finished nofun
  | pass finished succeeded => exact stays finished nofun
  | deliver reported => exact stays reported nofun
  | stop idle empty => exact stays idle nofun

/-- A worker stops only when the queue is empty. -/
def StopsAtEnd (s : Schedule) : Prop :=
  .stopped ∈ s.workers → s.queue = []

theorem StopsAtEnd.setWorker (stops : StopsAtEnd s) (i : Nat) {other : Worker}
    (going : other = .stopped → s.queue = []) : StopsAtEnd (s.setWorker i other) := by
  intro member
  rcases List.mem_or_eq_of_mem_set member with before | same
  · exact stops before
  · exact going same.symm

theorem LimitedStep.stopsAtEnd (moved : LimitedStep now limit s t) (stops : StopsAtEnd s) :
    StopsAtEnd t := by
  cases moved with
  | lose running reading beyond => exact stops.setWorker _ nofun
  | move move _ =>
    cases move with
    | @take i job rest idle waiting =>
      have busy : .stopped ∉ s.workers := fun member =>
        List.cons_ne_nil _ _ (waiting.symm.trans (stops member))
      have taken : StopsAtEnd { s with queue := rest } := fun member => absurd member busy
      exact taken.setWorker i nofun
    | finish outcome running => exact stops.setWorker _ nofun
    | report finished failed => exact StopsAtEnd.setWorker stops _ nofun
    | pass finished succeeded => exact stops.setWorker _ nofun
    | deliver reported => exact StopsAtEnd.setWorker stops _ nofun
    | stop idle empty => exact stops.setWorker _ fun _ => empty

/-- No job has come to an end. -/
structure Barren (s : Schedule) : Prop where
  results : s.results = []
  diagnostics : s.diagnostics = []
  unfinished : ∀ worker ∈ s.workers, ∀ r, worker ≠ .finished r ∧ worker ≠ .reported r

theorem Barren.setWorker (barren : Barren s) (i : Nat) {other : Worker}
    (unfinished : ∀ r, other ≠ .finished r ∧ other ≠ .reported r) :
    Barren (s.setWorker i other) where
  results := barren.results
  diagnostics := barren.diagnostics
  unfinished worker member := by
    rcases List.mem_or_eq_of_mem_set member with before | same
    · exact barren.unfinished worker before
    · rw [same]
      exact unfinished

/-- Nothing comes to an end when the limit fits at no time. -/
theorem LimitedStep.barren (never : ∀ start, now start → ¬ start.Fits limit)
    (moved : LimitedStep now limit s t) (barren : Barren s) : Barren t := by
  cases moved with
  | lose running reading beyond => exact barren.setWorker _ fun _ => ⟨nofun, nofun⟩
  | move move timely =>
    cases move with
    | @take i job rest idle waiting =>
      have taken : Barren { s with queue := rest } :=
        ⟨barren.results, barren.diagnostics, barren.unfinished⟩
      exact taken.setWorker i fun _ => ⟨nofun, nofun⟩
    | @finish i job outcome running =>
      obtain ⟨inside, -⟩ := List.getElem?_eq_some_iff.mp running
      rcases timely i ⟨job, outcome⟩ (List.getElem?_set_self inside) with
        before | ⟨start, seen, fits⟩
      · cases running.symm.trans before
      · exact absurd fits (never start seen)
    | @report i r e finished failed =>
      exact absurd rfl (barren.unfinished _ (List.mem_of_getElem? finished) r).1
    | @pass i r finished succeeded =>
      exact absurd rfl (barren.unfinished _ (List.mem_of_getElem? finished) r).1
    | @deliver i r reported =>
      exact absurd rfl (barren.unfinished _ (List.mem_of_getElem? reported) r).2
    | stop idle empty => exact barren.setWorker _ fun _ => ⟨nofun, nofun⟩

/-! ## Runs -/

theorem accounted_of_limited (reached : LimitedReachable now limit (start concurrency jobs) s) :
    s.accounted.Perm jobs := by
  induction reached with
  | refl => exact accounted_of_reachable .refl
  | tail _ moved ih => exact moved.accounted_perm.trans ih

theorem length_workers_of_limited
    (reached : LimitedReachable now limit (start concurrency jobs) s) :
    s.workers.length = min (max concurrency 1) jobs.length := by
  induction reached with
  | refl => exact List.length_replicate
  | tail _ moved ih => exact moved.length_workers.trans ih

theorem stopsAtEnd_of_limited (reached : LimitedReachable now limit (start concurrency jobs) s) :
    StopsAtEnd s := by
  induction reached with
  | refl => exact fun member => absurd (List.eq_of_mem_replicate member) nofun
  | tail _ moved ih => exact moved.stopsAtEnd ih

theorem barren_of_limited (never : ∀ start, now start → ¬ start.Fits limit)
    (reached : LimitedReachable now limit (start concurrency jobs) s) : Barren s := by
  induction reached with
  | refl =>
    refine ⟨rfl, rfl, fun worker member r => ?_⟩
    rw [List.eq_of_mem_replicate member]
    exact ⟨nofun, nofun⟩
  | tail _ moved ih => exact moved.barren never ih

/-- A state in which no worker is lost is reached by usual moves. -/
theorem reachable_of_limited (reached : LimitedReachable now limit (start concurrency jobs) s)
    (kept : ∀ job, .lost job ∉ s.workers) : Reachable (start concurrency jobs) s := by
  induction reached with
  | refl => exact .refl
  | @tail t u before moved ih =>
    cases moved with
    | move move _ => exact (ih fun job lost => kept job (move.lost_mem lost)).step move
    | @lose i job start running reading beyond =>
      obtain ⟨inside, -⟩ := List.getElem?_eq_some_iff.mp running
      exact absurd (List.mem_set inside (.lost job)) (kept job)

/-- No worker is lost when the limit fits at every time. -/
theorem kept_of_limited (always : ∀ start, now start → start.Fits limit)
    (reached : LimitedReachable now limit (start concurrency jobs) s) :
    Reachable (start concurrency jobs) s := by
  induction reached with
  | refl => exact .refl
  | tail _ moved ih =>
    cases moved with
    | move move _ => exact ih.step move
    | lose running reading beyond => exact absurd (always _ reading) beyond

/-- When the limit fits at some time, all usual moves can be made. -/
theorem limited_of_reachable (sometimes : ∃ start, now start ∧ start.Fits limit)
    (reached : Reachable s t) : LimitedReachable now limit s t := by
  induction reached with
  | refl => exact .refl
  | step _ move ih => exact ih.tail (.move move fun _ _ _ => .inr sometimes)

/-- A run that is over and has lost a worker has no result for some job. -/
theorem not_perm_of_lost (reached : LimitedReachable now limit (start concurrency jobs) s)
    (lost : .lost job ∈ s.workers) : ¬ (s.results.map (·.job)).Perm jobs := by
  intro delivered
  have accounts := (accounted_of_limited reached).length_eq
  have inHand : job ∈ s.inHand := List.mem_filterMap.mpr ⟨.lost job, lost, rfl⟩
  have some_inHand := List.length_pos_of_mem inHand
  have same := delivered.length_eq
  rw [accounted, List.length_append, List.length_append] at accounts
  omega

/-- What holds of a state to which the workers bring some jobs with a limit. -/
structure LimitedRun (now : Duration → Prop) (limit : Option Duration) (concurrency : Nat)
    (jobs : List Job) (s : Schedule) : Prop where
  /-- The limit has an end on the clock exactly if it fits. -/
  expiry_iff : ∀ start given : Duration, limit = some given →
    ((start.expiry? given).isSome = true ↔ start.Fits limit)
  /-- A job that is run with a limit comes to an outcome exactly if the limit fits. -/
  outcome_iff : ∀ (launch : Launch) (directory : Option String) (host : Host) (job : Job)
    (given : Duration), limit = some given →
      ((∃ outcome, (job.run launch directory limit host).1 = .outcome outcome) ↔
        host.clock.Fits limit)
  /-- A job is lost exactly if its limit does not fit. -/
  lost_iff : ∀ (launch : Launch) (directory : Option String) (host : Host) (job : Job),
    (job.run launch directory limit host).1 = .lost ↔ ¬ host.clock.Fits limit
  /-- A job goes on for ever only if it has no limit. -/
  unlimited : ∀ (launch : Launch) (directory : Option String) (host : Host) (job : Job),
    (job.run launch directory limit host).1 = .endless → limit = none
  /-- The jobs are in the queue, with a worker, lost or not, or delivered. -/
  accounted : s.accounted.Perm jobs
  /-- A run that is over has one result for each job exactly if no worker is lost. -/
  once_iff : s.isComplete = true →
    ((s.results.map (·.job)).Perm jobs ↔ ∀ job, .lost job ∉ s.workers)
  /-- A run that is over and has lost no worker has reported the failures, each of them once. -/
  reported : s.isComplete = true → (∀ job, .lost job ∉ s.workers) →
    s.diagnostics.Perm (failures s.results)
  /-- No worker is lost when the limit fits at every time. -/
  kept : (∀ start, now start → start.Fits limit) → ∀ job, .lost job ∉ s.workers
  /-- Nothing is delivered or reported when the limit fits at no time, and every worker is lost in
  the end. -/
  barren : (∀ start, now start → ¬ start.Fits limit) → s.results = [] ∧ s.diagnostics = [] ∧
    (s.isComplete = true → ∀ worker ∈ s.workers, ∃ job, worker = .lost job)

/-- When nothing comes to an end, every worker is lost in the end: none of them finds the queue
empty, because there are no more workers than jobs. -/
theorem all_lost_of_barren (never : ∀ start, now start → ¬ start.Fits limit)
    (reached : LimitedReachable now limit (start concurrency jobs) s)
    (complete : s.isComplete = true) : ∀ worker ∈ s.workers, ∃ job, worker = .lost job := by
  have going : .stopped ∉ s.workers := by
    intro stopped
    have accounts := (accounted_of_limited reached).length_eq
    rw [accounted, stopsAtEnd_of_limited reached stopped, (barren_of_limited never reached).results,
      List.nil_append, List.map_nil, List.append_nil] at accounts
    have fewer : s.inHand.length < s.workers.length :=
      List.length_filterMap_lt_length_iff_exists.mpr ⟨.stopped, stopped, rfl⟩
    have workers := length_workers_of_limited reached
    omega
  intro worker member
  have still := List.all_eq_true.mp complete worker member
  cases worker with
  | stopped => exact absurd member going
  | lost job => exact ⟨job, rfl⟩
  | _ => cases still

/-- **Every job has its result exactly as far as its limit fits.** -/
theorem limitedRun_of_reachable (reached : LimitedReachable now limit (start concurrency jobs) s) :
    LimitedRun now limit concurrency jobs s where
  expiry_iff := fun start given same => same ▸ isSome_expiry?_iff_fits start given
  outcome_iff _ _ _ _ _ limited := Job.run_limited_iff limited
  lost_iff _ _ _ _ := Job.run_eq_lost_iff
  unlimited _ _ _ _ := Job.limit_eq_none_of_endless
  accounted := accounted_of_limited reached
  once_iff complete :=
    ⟨fun delivered _ lost => not_perm_of_lost reached lost delivered,
      fun kept => results_perm_of_complete (reachable_of_limited reached kept) complete⟩
  reported complete kept :=
    diagnostics_perm_of_complete (reachable_of_limited reached kept) complete
  kept always job lost :=
    (staffed_of_reachable (kept_of_limited always reached)).kept _ lost job rfl
  barren never :=
    have unfinished := barren_of_limited never reached
    ⟨unfinished.results, unfinished.diagnostics, all_lost_of_barren never reached⟩

end Moves

/-! ### A limit that ends near the last reading

One worker has two jobs. The limit of the first one fits, and that of the second one, which is begun
later, does not. -/

namespace NearTheEnd

open ThreeJobs (job exited)

/-- Ten seconds less than the clock counts. -/
def nearlyAll : Duration :=
  { zero with seconds := 9223372036854775798, seconds_lt := by decide }

def early : Duration :=
  { zero with seconds := 5, seconds_lt := by decide }

def late : Duration :=
  { zero with seconds := 10, seconds_lt := by decide }

def Read (start : Duration) : Prop :=
  start = early ∨ start = late

def ended : Schedule where
  queue := []
  workers := [.lost (job 1)]
  results := [exited 0]

theorem limitedReachable_ended :
    LimitedReachable Read (some nearlyAll) (start 1 [job 0, job 1]) ended := by
  have taken : Reachable (start 1 [job 0, job 1])
      { queue := [job 1], workers := [.running (job 0)] } :=
    Reachable.refl.step (.take (i := 0) rfl rfl)
  have delivered := taken.trans (reachable_delivered (i := 0) (exited 0) rfl)
  have retaken : Reachable (start 1 [job 0, job 1])
      { queue := [], workers := [.running (job 1)], results := [exited 0] } :=
    delivered.step (.take (i := 0) rfl rfl)
  have inTime : ∃ start, Read start ∧ start.Fits (some nearlyAll) := ⟨early, .inl rfl, by decide⟩
  exact (limited_of_reachable inTime retaken).tail
    (@LimitedStep.lose _ _ _ 0 (job 1) late rfl (.inr rfl) (by decide))

end NearTheEnd

open NearTheEnd in
open ThreeJobs (job) in
theorem limitedRun_ended :
    LimitedReachable Read (some nearlyAll) (start 1 [job 0, job 1]) ended ∧
      LimitedRun Read (some nearlyAll) 1 [job 0, job 1] ended ∧ ended.isComplete = true ∧
      ¬ (ended.results.map (·.job)).Perm [job 0, job 1] := by
  have run := limitedRun_of_reachable limitedReachable_ended
  refine ⟨limitedReachable_ended, run, rfl, fun delivered => ?_⟩
  exact (run.once_iff rfl).mp delivered (job 1) (List.mem_singleton_self _)

/-! ## The run that is carried out -/

section Completion

variable {launch : Launch} {directory : Option String} {limit : Option Duration}

/-- What is carried out for jobs with a limit are moves of workers with a limit. -/
theorem Carried.limited {now : Duration → Prop} {host next : Host} {s t : Schedule}
    (carried : Carried (Job.run launch directory limit) host s next t) (seen : now host.clock) :
    LimitedStep now limit s t := by
  cases carried with
  | move move ended => exact .move move fun i r finished => .inl (ended i r finished)
  | finish running ran =>
    have fits : host.clock.Fits limit := Decidable.of_not_not fun unfit => by
      rw [Job.run_of_not_fits unfit] at ran
      cases ran
    exact .move (.finish _ running) fun _ _ _ => .inr ⟨host.clock, seen, fits⟩
  | lose running ran =>
    exact .lose running seen (Job.run_eq_lost_iff.mp (congrArg Prod.fst ran))

/-- When a limit does not fit, a run leaves the host as it is and comes to its end. -/
theorem complete_of_unfit (launch : Launch) (directory : Option String) {host : Host}
    (unfit : ¬ host.clock.Fits limit) (concurrency : Nat) (jobs : List Job) :
    let ended := complete (Job.run launch directory limit) host concurrency jobs
    LimitedReachable (· = host.clock) limit (start concurrency jobs) ended.2 ∧
      ended.2.isComplete = true := by
  intro ended
  have reached : ended.1 = host ∧
      LimitedReachable (· = host.clock) limit (start concurrency jobs) ended.2 := by
    refine completeFrom_induct (motive := fun world s =>
      world = host ∧ LimitedReachable (· = host.clock) limit (start concurrency jobs) s) ?_
      ⟨rfl, .refl⟩
    rintro _ next s t ⟨rfl, reached⟩ carried
    refine ⟨?_, reached.tail (carried.limited rfl)⟩
    cases carried with
    | move => rfl
    | finish running ran =>
      rw [Job.run_of_not_fits unfit] at ran
      exact (congrArg Prod.snd ran).symm
    | lose running ran =>
      rw [Job.run_of_not_fits unfit] at ran
      exact (congrArg Prod.snd ran).symm
  refine ⟨reached.2, isComplete_of_halted complete_halted fun job _ endless => ?_⟩
  rw [reached.1, Job.run_of_not_fits unfit] at endless
  cases endless

end Completion

end Schedule

namespace Pipeline

variable {r : Registry} {p : Policy}

/-- When no job has come to an end, there is nothing to report. -/
theorem report_of_barren {s : Schedule} (barren : s.Barren) (read : SourceKey → Option String)
    (sources : List SourceKey) :
    (report r p read sources s).issues = [] ∧
      (p.warnUnmatchedNolint = false → (report r p read sources s).diagnostics = []) := by
  have none_shown : shown r p (kept r p read []) = [] := by
    rw [shown, Aggregation.apply]
    cases p.aggregate <;> rfl
  rw [report_eq, barren.results, barren.diagnostics]
  refine ⟨?_, fun off => ?_⟩
  · rw [none_shown]
    exact List.mergeSort_nil
  · rw [unmatchedDiagnostics, off]
    rfl

/-- **A run whose limit does not fit reports nothing**: no issue, and no failure either. -/
theorem run_of_unfit (launch : Launch) {host : Host} (unfit : ¬ host.clock.Fits p.deadline?)
    (jobs : List Job) :
    ∃ report, run launch host r p jobs = some report ∧ report.issues = [] ∧
      (p.warnUnmatchedNolint = false → report.diagnostics = []) := by
  obtain ⟨reached, complete⟩ :=
    Schedule.complete_of_unfit launch (some p.root) unfit p.concurrency jobs
  have barren := Schedule.barren_of_limited (fun start same => same ▸ unfit) reached
  exact ⟨_, if_pos complete, report_of_barren barren _ _⟩

/-! ### A limit that fits at no time -/

namespace Endless

open Schedule.ThreeJobs (job)

/-- More seconds than the clock counts, but no more than a limit can have. -/
def limit : Duration :=
  { zero with seconds := 10000000000000000000, seconds_lt := by decide }

def settings : PolicyBuilder :=
  { Sample.settings false [] with deadline := limit }

/-- The settings as they are when they have been checked. -/
def policy : Policy :=
  { Sample.policy false [] with deadline := limit }

open scoped Regex.SizeRule in
theorem build_settings : settings.build {} = .ok policy := by
  rw [PolicyBuilder.build, settings, Sample.settings, Sample.checkFormat_empty]
  rfl

theorem not_fits (start : Duration) : ¬ start.Fits (some limit) :=
  not_fits_of_clockEnd_le (by decide) start

theorem expiry?_eq_none (start : Duration) : start.expiry? limit = none :=
  Option.not_isSome_iff_eq_none.mp fun reading =>
    not_fits start ((isSome_expiry?_iff_fits start limit).mp reading)

/-- What one worker comes to with one job. -/
def ended : Schedule where
  queue := []
  workers := [.lost (job 0)]

theorem complete_of_lost {run : Host → Job → JobEnd × Host} {host : Host}
    (lost : run host (job 0) = (.lost, host)) (concurrency : Nat) :
    Schedule.complete run host concurrency [job 0] = (host, ended) := by
  have one : min (max concurrency 1) [job 0].length = 1 := by
    rw [List.length_singleton]
    omega
  rw [Schedule.complete, Schedule.start, one]
  simp [Schedule.completeFrom, Schedule.move?, lost, Schedule.setWorker, ended]

end Endless

open Endless Regex.SizeRule in
open Schedule.ThreeJobs (job) in
/-- A limit can be written and set that has no end on the clock, at whatever time it begins.
Whatever the program of a job would do, the worker is lost with the job, and the report does not
tell. -/
theorem endless_limit :
    ofText? "10000000000000000000s" = some Endless.limit ∧ settings.build {} = .ok policy ∧
      policy.deadline? = some Endless.limit ∧
      (∀ start : Duration, start.expiry? Endless.limit = none) ∧
      (∀ (launch : Launch) (host : Host),
        (Schedule.complete (Job.run launch (some policy.root) policy.deadline?) host
          policy.concurrency [job 0]).2 = ended) ∧
      ended.isComplete = true ∧ ended.queue = [] ∧ .lost (job 0) ∈ ended.workers ∧
      ended.results.length ≠ [job 0].length ∧
      ∀ (launch : Launch) (host : Host), ∃ report,
        run launch host .empty policy [job 0] = some report ∧ report.issues = [] ∧
          report.diagnostics = [] := by
  have limited : policy.deadline? = some Endless.limit := by decide
  refine ⟨by decide, build_settings, limited, expiry?_eq_none, fun launch host => ?_, rfl,
    rfl, List.mem_singleton_self _, by decide, fun launch host => ?_⟩
  · rw [limited]
    exact congrArg Prod.snd (complete_of_lost (Job.run_of_not_fits (not_fits host.clock)) _)
  · have unfit : ¬ host.clock.Fits policy.deadline? := limited ▸ not_fits _
    obtain ⟨report, reported, issues, diagnostics⟩ :=
      run_of_unfit (r := .empty) launch unfit [job 0]
    exact ⟨report, reported, issues, diagnostics rfl⟩

end Pipeline

end LintRun
