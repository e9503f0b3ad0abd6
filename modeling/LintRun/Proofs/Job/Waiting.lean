import LintRun.Process
import LintRun.Proofs.Results

/-!
# Waiting for a job

The end of a limit is a reading of the clock, and the clock has readings for fewer seconds than a
limit can have (`Duration.Fits`). A job is lost exactly if the end of its limit has no reading
(`Job.run_eq_lost_iff`), whatever its process does.

Otherwise what becomes of the job depends on what is seen of its process. It gives output exactly if
the end of the process and all that it prints come in time and can be had
(`Course.collect_eq_ok_iff`). With a limit it always comes to an outcome (`Job.run_limited_iff`).
Only without one can it go on for ever (`Job.limit_eq_none_of_endless`).
-/

set_option autoImplicit false

namespace LintRun

namespace Duration

/-! ## The end of a limit -/

/-- The nanoseconds that the clock counts before its readings end. -/
def clockEnd : Nat :=
  UInt64.size / 2 * nanosPerSecond

/-- Whether the clock has a reading for the end of a limit that begins at one of its readings. -/
def Fits (start : Duration) (limit : Option Duration) : Prop :=
  ∀ given, limit = some given → start.totalNanos + given.totalNanos < clockEnd

instance (start : Duration) (limit : Option Duration) : Decidable (start.Fits limit) :=
  match limit with
  | none => isTrue nofun
  | some given =>
    decidable_of_iff (start.totalNanos + given.totalNanos < clockEnd)
      ⟨fun less _ same => Option.some.inj same ▸ less, fun fits => fits given rfl⟩

theorem ofNanos?_eq_some {n : Nat} (inside : n / nanosPerSecond < UInt64.size) :
    ∃ d, ofNanos? n = some d ∧ d.seconds = n / nanosPerSecond :=
  ⟨_, dif_pos inside, rfl⟩

theorem isSome_expiry?_iff (start given : Duration) :
    (start.expiry? given).isSome = true ↔ start.totalNanos + given.totalNanos < clockEnd := by
  have smaller : UInt64.size / 2 < UInt64.size := by decide
  rw [clockEnd, ← Nat.div_lt_iff_lt_mul (by decide : 0 < nanosPerSecond), expiry?]
  generalize start.totalNanos + given.totalNanos = n
  by_cases inside : n / nanosPerSecond < UInt64.size
  · obtain ⟨d, found, seconds⟩ := ofNanos?_eq_some inside
    rw [found, ← seconds, Option.filter_some]
    split
    · rename_i less
      exact iff_of_true rfl (of_decide_eq_true less)
    · rename_i more
      exact iff_of_false nofun fun less => more (decide_eq_true less)
  · have none : ofNanos? n = none := dif_neg inside
    rw [none]
    exact iff_of_false nofun fun less => inside (Nat.lt_trans less smaller)

theorem isSome_expiry?_iff_fits (start given : Duration) :
    (start.expiry? given).isSome = true ↔ start.Fits (some given) := by
  rw [isSome_expiry?_iff]
  exact ⟨fun less _ same => Option.some.inj same ▸ less, fun fits => fits given rfl⟩

/-- A limit that is longer than the clock counts fits at no time. -/
theorem not_fits_of_clockEnd_le {given : Duration} (long : clockEnd ≤ given.totalNanos)
    (start : Duration) : ¬ start.Fits (some given) := by
  intro fits
  have less := fits given rfl
  omega

/-- Nothing is started exactly if the limit does not fit. -/
theorem late_iff (start : Duration) (limit : Option Duration) :
    (limit.any fun given => (start.expiry? given).isNone) = true ↔ ¬ start.Fits limit := by
  cases limit with
  | none => exact iff_of_false Bool.false_ne_true fun unfit => unfit nofun
  | some given =>
    rw [Option.any_some, ← isSome_expiry?_iff_fits, Option.isNone_iff_eq_none,
      Option.not_isSome_iff_eq_none]

end Duration

/-! ## Waiting -/

/-- Whether something that comes is not looked for in vain until the limit has passed. -/
def Arrival.InTime {α : Type} (arrival : Arrival α) (limit : Option Duration) : Prop :=
  ∀ given, limit = some given → ∀ last, arrival.missed = some last → last < given.totalNanos

theorem Arrival.inTime_some {α : Type} {arrival : Arrival α} {given : Duration} :
    arrival.InTime (some given) ↔ arrival.missed.any (given.totalNanos ≤ ·) = false := by
  cases seen : arrival.missed with
  | none => exact iff_of_true (fun _ _ last some => nomatch seen.symm.trans some) rfl
  | some last =>
    rw [Option.any_some, decide_eq_false_iff_not, Nat.not_le]
    constructor
    · exact fun inTime => inTime given rfl last seen
    · rintro before _ ⟨⟩ _ same
      exact Option.some.inj (seen.symm.trans same) ▸ before

/-- What can be had once it has come. -/
theorem mapError_eq_ok_iff {α : Type} {found : Except String α} {value : α} :
    (found.mapError fun reason => Halt.fault (.io reason)) = .ok value ↔ found = .ok value := by
  cases found with
  | error reason => exact iff_of_false nofun nofun
  | ok found => exact ⟨fun same => by cases same; rfl, fun same => by cases same; rfl⟩

namespace Course

variable {α : Type} {limit : Option Duration}

/-- **What comes in time and can be had is waited for**, and nothing else is. -/
theorem await_eq_ok_iff {awaited : Option (Arrival α)} {value : α} :
    await limit awaited = .ok value ↔
      ∃ arrival, awaited = some arrival ∧ arrival.InTime limit ∧ arrival.value = .ok value := by
  cases awaited with
  | none =>
    refine iff_of_false ?_ ?_
    · cases limit <;> nofun
    · rintro ⟨arrival, absent, -⟩
      cases absent
  | some arrival =>
    simp only [Option.some.injEq, exists_eq_left']
    cases limit with
    | none =>
      rw [await, mapError_eq_ok_iff]
      exact ⟨fun same => ⟨nofun, same⟩, And.right⟩
    | some given =>
      rw [await, Arrival.inTime_some]
      split
      · rename_i passed
        exact iff_of_false nofun fun inTime => Bool.false_ne_true (inTime.1.symm.trans passed)
      · rename_i waiting
        rw [mapError_eq_ok_iff, and_iff_right (Bool.not_eq_true _ ▸ waiting)]

/-- The pipe that is exhausted first is waited for first, but for a result both are. -/
theorem collect_eq_ok_iff {course : Course} {output : RawOutput} :
    course.collect limit = .ok output ↔
      await limit course.exit = .ok output.status ∧
        (∃ printed, await limit course.stdout = .ok printed ∧
          Text.decodeLossy printed = output.stdout) ∧
        ∃ printed, await limit course.stderr = .ok printed ∧
          Text.decodeLossy printed = output.stderr := by
  obtain ⟨stdout, stderr, status⟩ := output
  rw [collect, bind_eq_ok_iff]
  split
  · simp only [bind_eq_ok_iff]
    constructor
    · rintro ⟨_, exit, _, stdout, _, stderr, ⟨⟩⟩
      exact ⟨exit, ⟨_, stdout, rfl⟩, ⟨_, stderr, rfl⟩⟩
    · rintro ⟨exit, ⟨_, stdout, rfl⟩, ⟨_, stderr, rfl⟩⟩
      exact ⟨_, exit, _, stdout, _, stderr, rfl⟩
  · simp only [bind_eq_ok_iff]
    constructor
    · rintro ⟨_, exit, _, stderr, _, stdout, ⟨⟩⟩
      exact ⟨exit, ⟨_, stdout, rfl⟩, ⟨_, stderr, rfl⟩⟩
    · rintro ⟨exit, ⟨_, stdout, rfl⟩, ⟨_, stderr, rfl⟩⟩
      exact ⟨_, exit, _, stderr, _, stdout, rfl⟩

/-- Why there is no output under a limit. -/
inductive Hinders (limit : Option Duration) : Halt → Prop where
  | io (reason : String) : Hinders limit (.fault (.io reason))
  | timeout {given : Duration} (limited : limit = some given) :
      Hinders limit (.fault (.timeout given))
  | endless (unlimited : limit = none) : Hinders limit .endless

theorem await_failsOnly (awaited : Option (Arrival α)) :
    FailsOnly (Hinders limit) (await limit awaited) := by
  have had (found : Except String α) :
      FailsOnly (Hinders limit) (found.mapError fun reason => .fault (.io reason)) := by
    cases found with
    | error reason => exact .error (.io reason)
    | ok value => exact .ok value
  cases awaited with
  | none =>
    cases limit with
    | none => exact .error (.endless rfl)
    | some given => exact .error (.timeout rfl)
  | some arrival =>
    cases limit with
    | none => exact had arrival.value
    | some given =>
      rw [await]
      split
      · exact .error (.timeout rfl)
      · exact had arrival.value

theorem collect_failsOnly (course : Course) :
    FailsOnly (Hinders limit) (course.collect limit) := by
  refine (await_failsOnly course.exit).bind fun status => ?_
  split
  · exact (await_failsOnly _).bind fun _ => (await_failsOnly _).bind fun _ => .ok _
  · exact (await_failsOnly _).bind fun _ => (await_failsOnly _).bind fun _ => .ok _

end Course

/-! ## The end of a job -/

namespace Job

variable {launch : Launch} {directory : Option String} {limit : Option Duration} {host : Host}
  {job : Job}

theorem run_of_fits (fits : host.clock.Fits limit) :
    job.run launch directory limit host =
      match launch host directory job with
      | (.error reason, after) =>
        (.outcome (.error (job.failure (.launch job.program reason))), after)
      | (.ok course, after) => (job.endOf (course.collect limit), after) :=
  if_neg fun late => (Duration.late_iff host.clock limit).mp late fits

/-- Nothing is done for a job whose limit does not fit. -/
theorem run_of_not_fits (unfit : ¬ host.clock.Fits limit) :
    job.run launch directory limit host = (.lost, host) :=
  if_pos ((Duration.late_iff host.clock limit).mpr unfit)

/-- What becomes of a job whose limit fits. -/
theorem run_cases (launch : Launch) (directory : Option String) (job : Job)
    (fits : host.clock.Fits limit) :
    (∃ outcome, (job.run launch directory limit host).1 = .outcome outcome) ∨
      limit = none ∧ (job.run launch directory limit host).1 = .endless := by
  rw [run_of_fits fits]
  cases launch host directory job with
  | mk begun after =>
    cases begun with
    | error reason => exact .inl ⟨_, rfl⟩
    | ok course =>
      cases collected : course.collect limit with
      | ok output => exact .inl ⟨_, congrArg job.endOf collected⟩
      | error halt =>
        cases Course.collect_failsOnly course halt collected with
        | io reason => exact .inl ⟨_, congrArg job.endOf collected⟩
        | timeout limited => exact .inl ⟨_, congrArg job.endOf collected⟩
        | endless unlimited => exact .inr ⟨unlimited, congrArg job.endOf collected⟩

/-- **A job is lost exactly if its limit does not fit.** -/
theorem run_eq_lost_iff :
    (job.run launch directory limit host).1 = .lost ↔ ¬ host.clock.Fits limit := by
  constructor
  · intro lost fits
    rcases run_cases launch directory job fits with ⟨outcome, ended⟩ | ⟨-, endless⟩
    · cases lost.symm.trans ended
    · cases lost.symm.trans endless
  · intro unfit
    rw [run_of_not_fits unfit]

/-- **A job with a limit comes to an outcome exactly if the limit fits.** -/
theorem run_limited_iff {given : Duration} (limited : limit = some given) :
    (∃ outcome, (job.run launch directory limit host).1 = .outcome outcome) ↔
      host.clock.Fits limit := by
  constructor
  · rintro ⟨outcome, ended⟩
    refine Decidable.of_not_not fun unfit => ?_
    cases ended.symm.trans (run_eq_lost_iff.mpr unfit)
  · intro fits
    refine (run_cases launch directory job fits).resolve_right ?_
    rintro ⟨unlimited, -⟩
    cases limited.symm.trans unlimited

/-- Only without a limit does a job go on for ever. -/
theorem limit_eq_none_of_endless
    (endless : (job.run launch directory limit host).1 = .endless) : limit = none := by
  have fits : host.clock.Fits limit := Decidable.of_not_not fun unfit => by
    cases endless.symm.trans (run_eq_lost_iff.mpr unfit)
  rcases run_cases launch directory job fits with ⟨outcome, ended⟩ | ⟨unlimited, -⟩
  · cases endless.symm.trans ended
  · exact unlimited

end Job

end LintRun
