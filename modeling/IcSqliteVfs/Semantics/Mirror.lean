import IcSqliteVfs.Semantics.Coupling

namespace IcSqliteVfs.Semantics

/-! # One call for another

Two calls, possibly on two kinds of states, are run side by side.  They end with
the same outcome, and a relation tells what it leaves in the states.
-/

namespace Action

variable {σ τ ε ε' α β : Type}

/-- From related states both calls end with the same outcome, and leave states
that one relation relates after a value and another one otherwise. -/
def Mirrors (before : σ → τ → Prop) (call : Action σ ε α) (other : Action τ ε α) (good bad : σ → τ → Prop) : Prop :=
  ∀ left right, before left right →
    (call left).1 = (other right).1 ∧
      match (call left).1 with
      | .ok _ => good (call left).2 (other right).2
      | .err _ => bad (call left).2 (other right).2
      | .panic => bad (call left).2 (other right).2

variable {before good bad : σ → τ → Prop} {call : Action σ ε α} {other : Action τ ε α}

theorem mirrors_panic (holds : ∀ left right, before left right → bad left right) :
    Mirrors before (panic : Action σ ε α) panic good bad :=
  fun left right related => ⟨rfl, holds left right related⟩

theorem mirrors_modify {update : σ → σ} {change : τ → τ}
    (holds : ∀ left right, before left right → good (update left) (change right)) :
    Mirrors before (modify update : Action σ ε Unit) (modify change) good bad :=
  fun left right related => ⟨rfl, holds left right related⟩

theorem Mirrors.imp {stronger better worse : σ → τ → Prop} (mirrors : Mirrors before call other good bad)
    (onStart : ∀ left right, stronger left right → before left right)
    (onGood : ∀ left right, good left right → better left right)
    (onBad : ∀ left right, bad left right → worse left right) : Mirrors stronger call other better worse := by
  intro left right related
  obtain ⟨same, after⟩ := mirrors left right (onStart left right related)
  refine ⟨same, ?_⟩
  cases ended : (call left).1 with
  | ok value =>
      rw [ended] at after
      exact onGood _ _ after
  | err error =>
      rw [ended] at after
      exact onBad _ _ after
  | panic =>
      rw [ended] at after
      exact onBad _ _ after

theorem Mirrors.bind {rest : α → Action σ ε β} {otherRest : α → Action τ ε β} {final : σ → τ → Prop}
    (start : Mirrors before call other good bad)
    (continues : ∀ value, Mirrors good (rest value) (otherRest value) final bad) :
    Mirrors before (call >>= rest) (other >>= otherRest) final bad := by
  intro left right related
  obtain ⟨same, after⟩ := start left right related
  rw [bind_apply, bind_apply]
  cases leftEnd : call left with
  | mk outcome leftNext =>
      cases rightEnd : other right with
      | mk otherOutcome rightNext =>
          rw [leftEnd, rightEnd] at same after
          cases same
          cases outcome with
          | ok value => exact continues value leftNext rightNext after
          | err error => exact ⟨rfl, after⟩
          | panic => exact ⟨rfl, after⟩

theorem Mirrors.mapError {convert : ε → ε'} (mirrors : Mirrors before call other good bad) :
    Mirrors before (Action.mapError convert call) (Action.mapError convert other) good bad := by
  intro left right related
  obtain ⟨same, after⟩ := mirrors left right related
  rw [Action.mapError, Action.mapError]
  cases leftEnd : call left with
  | mk outcome leftNext =>
      cases rightEnd : other right with
      | mk otherOutcome rightNext =>
          rw [leftEnd, rightEnd] at same after
          cases same
          cases outcome with
          | ok value => exact ⟨rfl, after⟩
          | err error => exact ⟨rfl, after⟩
          | panic => exact ⟨rfl, after⟩

end Action

end IcSqliteVfs.Semantics
