import Mathlib.Data.List.Basic
import Mathlib.Tactic.Common

namespace IcSqliteVfs.Semantics

/-! # Runs of a step function

A run is the list of its calls.  A property of the states reached is related to
a condition on the calls, each checked in the state before it.
-/

universe u

variable {σ : Type} {γ : Type u} (step : γ → σ → σ)

/-- Every state of the run has the property, the first and the last included. -/
def Always (holds : σ → Prop) : List γ → σ → Prop
  | [], state => holds state
  | call :: rest, state => holds state ∧ Always holds rest (step call state)

/-- Every call of the run is allowed in the state that it finds. -/
def Throughout (allowed : γ → σ → Prop) : List γ → σ → Prop
  | [], _ => True
  | call :: rest, state => allowed call state ∧ Throughout allowed rest (step call state)

variable {step} {holds : σ → Prop} {allowed : γ → σ → Prop}

theorem Always.first {calls : List γ} {state : σ} (always : Always step holds calls state) : holds state := by
  cases calls with
  | nil => exact always
  | cons call rest => exact always.1

theorem Always.imp {weaker : σ → Prop} (weakens : ∀ state, holds state → weaker state) {calls : List γ} {state : σ}
    (always : Always step holds calls state) : Always step weaker calls state := by
  induction calls generalizing state with
  | nil => exact weakens state always
  | cons call rest ih => exact ⟨weakens state always.1, ih always.2⟩

theorem Throughout.imp {weaker : γ → σ → Prop} (weakens : ∀ call state, allowed call state → weaker call state)
    {calls : List γ} {state : σ} (meets : Throughout step allowed calls state) : Throughout step weaker calls state := by
  induction calls generalizing state with
  | nil => trivial
  | cons call rest ih => exact ⟨weakens call state meets.1, ih meets.2⟩

theorem Always.and_throughout {calls : List γ} {state : σ} (always : Always step holds calls state)
    (meets : Throughout step allowed calls state) :
    Throughout step (fun call state => holds state ∧ allowed call state) calls state := by
  induction calls generalizing state with
  | nil => trivial
  | cons call rest ih => exact ⟨⟨always.1, meets.1⟩, ih always.2 meets.2⟩

/-- The invariant rule. -/
theorem always_of_keeps (keeps : ∀ call state, holds state → holds (step call state)) (calls : List γ) {state : σ}
    (start : holds state) : Always step holds calls state := by
  induction calls generalizing state with
  | nil => exact start
  | cons call rest ih => exact ⟨start, ih (keeps call state start)⟩

/-- The invariant rule for calls that meet a condition. -/
theorem always_of_throughout (keeps : ∀ call state, holds state → allowed call state → holds (step call state))
    {calls : List γ} {state : σ} (start : holds state) (meets : Throughout step allowed calls state) :
    Always step holds calls state := by
  induction calls generalizing state with
  | nil => exact start
  | cons call rest ih => exact ⟨start, ih (keeps call state start meets.1) meets.2⟩

/-- Where each call keeps the property exactly when it meets the condition, so
does each run. -/
theorem always_iff_throughout
    (exactly : ∀ call state, holds state → (holds (step call state) ↔ allowed call state))
    {calls : List γ} {state : σ} (start : holds state) :
    Always step holds calls state ↔ Throughout step allowed calls state := by
  constructor
  · intro always
    induction calls generalizing state with
    | nil => trivial
    | cons call rest ih =>
        have next : holds (step call state) := always.2.first
        exact ⟨(exactly call state start).mp next, ih next always.2⟩
  · exact always_of_throughout (fun call state held => (exactly call state held).mpr) start

end IcSqliteVfs.Semantics
