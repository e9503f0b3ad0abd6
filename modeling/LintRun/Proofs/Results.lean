import Mathlib.Data.List.Defs

/-!
# Results of computations

What can be said of a computation that has not failed: of its steps, of the steps of a fold, and of
a result that is only known by what is made of it. And with which errors a computation can fail when
it is known with which its steps can (`FailsOnly`).
-/

set_option autoImplicit false

namespace LintRun

variable {ε α β : Type}

theorem bind_eq_ok_iff {x : Except ε α} {f : α → Except ε β} {b : β} :
    x >>= f = .ok b ↔ ∃ a, x = .ok a ∧ f a = .ok b := by
  cases x with
  | error e => exact iff_of_false nofun nofun
  | ok a =>
    constructor
    · exact fun result => ⟨a, rfl, result⟩
    · rintro ⟨_, ⟨⟩, result⟩
      exact result

/-- What a computation with a result has come to on its way. -/
theorem exists_ok_of_bind {x : Except ε α} {f : α → Except ε β} {b : β}
    (result : x >>= f = .ok b) : ∃ a, x = .ok a ∧ f a = .ok b :=
  bind_eq_ok_iff.mp result

theorem exists_ok_of_isSome {x : Except ε α} (result : x.toOption.isSome = true) :
    ∃ a, x = .ok a := by
  cases x with
  | error e => cases result
  | ok a => exact ⟨a, rfl⟩

theorem toOption_eq_some_iff {x : Except ε α} {a : α} : x.toOption = some a ↔ x = .ok a := by
  cases x with
  | error e => exact iff_of_false nofun nofun
  | ok b => exact ⟨fun same => congrArg Except.ok (Option.some.inj same), fun same => same ▸ rfl⟩

/-- A result is known when what is made of it is. -/
theorem exists_ok_of_map {x : Except ε α} {f : α → β} {b : β}
    (result : x.toOption.map f = some b) : ∃ a, x = .ok a ∧ f a = b := by
  cases x with
  | error e => cases result
  | ok a => exact ⟨a, rfl, Option.some.inj result⟩

/-- When every element of a list has a result, the results stand in the order of the elements. -/
theorem forall₂_of_mapM {f : α → Except ε β} {xs : List α} {ys : List β}
    (result : xs.mapM f = .ok ys) : List.Forall₂ (fun x y => f x = .ok y) xs ys := by
  induction xs generalizing ys with
  | nil =>
    cases result
    exact .nil
  | cons x rest ih =>
    rw [List.mapM_cons] at result
    obtain ⟨y, first, result⟩ := exists_ok_of_bind result
    obtain ⟨others, ofRest, result⟩ := exists_ok_of_bind result
    cases result
    exact .cons first (ih ofRest)

/-- What holds of the start of a fold and is kept by its steps holds of its result. -/
theorem holds_of_foldlM {motive : β → Prop} {f : β → α → Except ε β} {xs : List α}
    {b b' : β} (start : motive b)
    (step : ∀ x ∈ xs, ∀ b b', motive b → f b x = .ok b' → motive b')
    (result : xs.foldlM f b = .ok b') : motive b' := by
  induction xs generalizing b with
  | nil =>
    cases result
    exact start
  | cons x rest ih =>
    rw [List.foldlM_cons] at result
    obtain ⟨next, first, result⟩ := exists_ok_of_bind result
    refine ih (step x List.mem_cons_self b next start first) (fun y later => ?_) result
    exact step y (List.mem_cons_of_mem x later)

/-- Whether a computation can fail only with errors of a kind. -/
def FailsOnly (kind : ε → Prop) (x : Except ε α) : Prop :=
  ∀ e, x = .error e → kind e

namespace FailsOnly

variable {kind : ε → Prop}

theorem ok (a : α) : FailsOnly kind (.ok a) :=
  nofun

theorem error {e : ε} (holds : kind e) : FailsOnly kind (.error e : Except ε α) := by
  rintro _ ⟨⟩
  exact holds

theorem bind {x : Except ε α} {f : α → Except ε β} (first : FailsOnly kind x)
    (next : ∀ a, FailsOnly kind (f a)) : FailsOnly kind (x >>= f) := by
  intro e failed
  cases x with
  | error fault =>
    obtain rfl : fault = e := Except.error.inj failed
    exact first fault rfl
  | ok a => exact next a e failed

theorem mapM {f : α → Except ε β} (step : ∀ a, FailsOnly kind (f a)) (xs : List α) :
    FailsOnly kind (xs.mapM f) := by
  induction xs with
  | nil => exact .ok []
  | cons x rest ih =>
    rw [List.mapM_cons]
    exact (step x).bind fun _ => ih.bind fun _ => .ok _

end FailsOnly

end LintRun
