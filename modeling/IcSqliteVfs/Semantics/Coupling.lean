import IcSqliteVfs.Semantics.Action

namespace IcSqliteVfs.Semantics

/-! # Two runs of one call

A call is run from two states.  It ends alike in both: the outcomes are equal,
and so is whatever the relation between the states that it leaves says.
-/

namespace Action

variable {σ ε ε' α β : Type}

/-- From related states the call ends with the same outcome, and leaves states
that one relation relates after a value and another one otherwise. -/
def Couples (before : σ → σ → Prop) (call : Action σ ε α) (good bad : σ → σ → Prop) : Prop :=
  ∀ left right, before left right →
    (call left).1 = (call right).1 ∧
      match (call left).1 with
      | .ok _ => good (call left).2 (call right).2
      | .err _ => bad (call left).2 (call right).2
      | .panic => bad (call left).2 (call right).2

variable {before good bad : σ → σ → Prop}

/-- From one state a call has one ending. -/
theorem couples_eq (call : Action σ ε α) : Couples Eq call Eq Eq := by
  intro left right same
  subst same
  refine ⟨rfl, ?_⟩
  cases (call left).1 with
  | ok value => rfl
  | err error => rfl
  | panic => rfl

theorem couples_pure (value : α) (holds : ∀ left right, before left right → good left right) :
    Couples before (pure value : Action σ ε α) good bad :=
  fun left right related => ⟨rfl, holds left right related⟩

theorem couples_fail (error : ε) (holds : ∀ left right, before left right → bad left right) :
    Couples before (fail error : Action σ ε α) good bad :=
  fun left right related => ⟨rfl, holds left right related⟩

theorem Couples.imp {stronger better worse : σ → σ → Prop} {call : Action σ ε α}
    (couples : Couples before call good bad) (onStart : ∀ left right, stronger left right → before left right)
    (onGood : ∀ left right, good left right → better left right)
    (onBad : ∀ left right, bad left right → worse left right) : Couples stronger call better worse := by
  intro left right related
  obtain ⟨same, after⟩ := couples left right (onStart left right related)
  refine ⟨same, ?_⟩
  cases ended : (call left).1 with
  | ok value =>
      rw [ended] at after
      exact onGood _ _ after
  | err error =>
      rw [ended] at after
      exact onBad _ _ after
  | panic =>
      rw [ended] at after
      exact onBad _ _ after

theorem Couples.bind {first : Action σ ε α} {rest : α → Action σ ε β} {final : σ → σ → Prop}
    (start : Couples before first good bad) (continues : ∀ value, Couples good (rest value) final bad) :
    Couples before (first >>= rest) final bad := by
  intro left right related
  obtain ⟨same, after⟩ := start left right related
  rw [bind_apply, bind_apply]
  cases leftEnd : first left with
  | mk outcome leftNext =>
      cases rightEnd : first right with
      | mk other rightNext =>
          rw [leftEnd, rightEnd] at same after
          cases same
          cases outcome with
          | ok value => exact continues value leftNext rightNext after
          | err error => exact ⟨rfl, after⟩
          | panic => exact ⟨rfl, after⟩

theorem ofExcept_ok_bind (value : α) (rest : α → Action σ ε β) : (ofExcept (.ok value) >>= rest) = rest value := rfl

/-- The outcome of the first call is looked at. -/
theorem Couples.attempt_bind {first : Action σ ε α} {rest : Outcome ε α → Action σ ε β} {final : σ → σ → Prop}
    (start : Couples before first good bad) (onOk : ∀ value, Couples good (rest (.ok value)) final bad)
    (onErr : ∀ error, Couples bad (rest (.err error)) final bad) :
    Couples before (attempt first >>= rest) final bad := by
  intro left right related
  obtain ⟨same, after⟩ := start left right related
  rw [bind_apply, bind_apply, attempt, attempt]
  cases leftEnd : first left with
  | mk outcome leftNext =>
      cases rightEnd : first right with
      | mk other rightNext =>
          rw [leftEnd, rightEnd] at same after
          cases same
          cases outcome with
          | ok value => exact onOk value leftNext rightNext after
          | err error => exact onErr error leftNext rightNext after
          | panic => exact ⟨rfl, after⟩

theorem Couples.onError {call : Action σ ε α} {cleanup : σ → σ} (couples : Couples before call good bad)
    (cleaned : ∀ left right, bad left right → bad (cleanup left) (cleanup right)) :
    Couples before (Action.onError call cleanup) good bad := by
  intro left right related
  obtain ⟨same, after⟩ := couples left right related
  rw [Action.onError, Action.onError]
  cases leftEnd : call left with
  | mk outcome leftNext =>
      cases rightEnd : call right with
      | mk other rightNext =>
          rw [leftEnd, rightEnd] at same after
          cases same
          cases outcome with
          | ok value => exact ⟨rfl, after⟩
          | err error => exact ⟨rfl, cleaned _ _ after⟩
          | panic => exact ⟨rfl, after⟩

theorem Couples.mapError {call : Action σ ε α} {convert : ε → ε'} (couples : Couples before call good bad) :
    Couples before (Action.mapError convert call) good bad := by
  intro left right related
  obtain ⟨same, after⟩ := couples left right related
  rw [Action.mapError, Action.mapError]
  cases leftEnd : call left with
  | mk outcome leftNext =>
      cases rightEnd : call right with
      | mk other rightNext =>
          rw [leftEnd, rightEnd] at same after
          cases same
          cases outcome with
          | ok value => exact ⟨rfl, after⟩
          | err error => exact ⟨rfl, after⟩
          | panic => exact ⟨rfl, after⟩

/-- What both relations say of the states left, whatever the ending. -/
theorem Couples.ends {call : Action σ ε α} {left right : σ} (couples : Couples before call bad bad)
    (related : before left right) : (call left).1 = (call right).1 ∧ bad (call left).2 (call right).2 := by
  obtain ⟨same, after⟩ := couples left right related
  refine ⟨same, ?_⟩
  cases ended : (call left).1 with
  | ok value =>
      rw [ended] at after
      exact after
  | err error =>
      rw [ended] at after
      exact after
  | panic =>
      rw [ended] at after
      exact after

end Action

end IcSqliteVfs.Semantics
