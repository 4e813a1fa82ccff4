import IcSqliteVfs.Semantics.Action

namespace IcSqliteVfs.Semantics

/-! # Observed calls

A call's inner steps are not visible in its outcome.  An observed call is the
same program run next to a history; erasing the history gives the call back.
-/

/-- A state and what was seen on the way to it, oldest first. -/
structure Watched (σ κ : Type) where
  state : σ
  seen : List κ

namespace Action

variable {σ κ ε α β : Type}

/-- Run a call and write down what it did. -/
def watch (observe : σ → Outcome ε α → σ → κ) (call : Action σ ε α) : Action (Watched σ κ) ε α := fun watched =>
  let (outcome, next) := call watched.state
  (outcome, ⟨next, watched.seen ++ [observe watched.state outcome next]⟩)

/-- Read the state next to the history. -/
def look : Action (Watched σ κ) ε σ := fun watched => (.ok watched.state, watched)

/-- The observed call is the call, and only adds to the history. -/
def Erases (observed : Action (Watched σ κ) ε α) (call : Action σ ε α) : Prop :=
  ∀ watched, ∃ added, observed watched =
    ((call watched.state).1, ⟨(call watched.state).2, watched.seen ++ added⟩)

section Erases

theorem erases_watch (observe : σ → Outcome ε α → σ → κ) (call : Action σ ε α) :
    Erases (watch observe call) call := fun _ => ⟨_, rfl⟩

theorem erases_pure (value : α) : Erases (pure value : Action (Watched σ κ) ε α) (pure value) := by
  intro watched
  exact ⟨[], by simp⟩

theorem erases_fail (error : ε) : Erases (fail error : Action (Watched σ κ) ε α) (fail error) := by
  intro watched
  exact ⟨[], by simp⟩

theorem erases_look : Erases (look : Action (Watched σ κ) ε σ) read := by
  intro watched
  exact ⟨[], by simp [look]⟩

theorem Erases.bind {observed : Action (Watched σ κ) ε α} {call : Action σ ε α}
    {observedRest : α → Action (Watched σ κ) ε β} {rest : α → Action σ ε β} (first : Erases observed call)
    (continues : ∀ value, Erases (observedRest value) (rest value)) :
    Erases (observed >>= observedRest) (call >>= rest) := by
  intro watched
  obtain ⟨added, ended⟩ := first watched
  rw [bind_apply, bind_apply, ended]
  cases call watched.state with
  | mk outcome next =>
      cases outcome with
      | ok value =>
          obtain ⟨more, finished⟩ := continues value ⟨next, watched.seen ++ added⟩
          exact ⟨added ++ more, by rw [← List.append_assoc]; exact finished⟩
      | err error => exact ⟨added, rfl⟩
      | panic => exact ⟨added, rfl⟩

end Erases

/-- What a projection of the state forgets does not matter to the call, unless
the call ends with the mark set; a set mark stays. -/
structure Forgets (project : σ → σ) (marked : σ → Prop) (call : Action σ ε α) : Prop where
  stays : ∀ state, marked state → marked (call state).2
  same : ∀ state, marked (call state).2 ∨ call (project state) = ((call state).1, project (call state).2)

section Forgets

variable {project : σ → σ} {marked : σ → Prop}

theorem forgets_pure (value : α) : Forgets project marked (pure value : Action σ ε α) :=
  ⟨fun _ holds => holds, fun _ => .inr rfl⟩

theorem forgets_fail (error : ε) : Forgets project marked (fail error : Action σ ε α) :=
  ⟨fun _ holds => holds, fun _ => .inr rfl⟩

theorem forgets_panic : Forgets project marked (panic : Action σ ε α) :=
  ⟨fun _ holds => holds, fun _ => .inr rfl⟩

theorem forgets_require (condition : Prop) [Decidable condition] :
    Forgets project marked (require condition : Action σ ε Unit) := by
  rw [require]
  split
  · exact forgets_pure ()
  · exact forgets_panic

theorem forgets_modify {update : σ → σ} (stays : ∀ state, marked state → marked (update state))
    (commutes : ∀ state, update (project state) = project (update state)) :
    Forgets project marked (modify update : Action σ ε Unit) :=
  ⟨stays, fun state => .inr (by rw [modify_apply, modify_apply, commutes])⟩

theorem Forgets.bind {first : Action σ ε α} {rest : α → Action σ ε β} (start : Forgets project marked first)
    (continues : ∀ value, Forgets project marked (rest value)) : Forgets project marked (first >>= rest) := by
  constructor
  · intro state holds
    have after := start.stays state holds
    rw [bind_apply]
    cases ended : first state with
    | mk outcome next =>
        rw [ended] at after
        cases outcome with
        | ok value => exact (continues value).stays next after
        | err error => exact after
        | panic => exact after
  · intro state
    have same := start.same state
    rw [bind_apply, bind_apply]
    cases ended : first state with
    | mk outcome next =>
        rw [ended] at same
        cases outcome with
        | ok value =>
            rcases same with after | projected
            · exact .inl ((continues value).stays next after)
            · rw [projected]
              exact (continues value).same next
        | err error =>
            rcases same with after | projected
            · exact .inl after
            · exact .inr (by rw [projected])
        | panic =>
            rcases same with after | projected
            · exact .inl after
            · exact .inr (by rw [projected])

/-- A call that reads the state, if it does the same with the projected state. -/
theorem forgets_read_bind {rest : σ → Action σ ε α} (continues : ∀ state, Forgets project marked (rest state))
    (blind : ∀ state, rest (project state) = rest state) : Forgets project marked (read >>= rest) := by
  constructor
  · intro state holds
    exact (continues state).stays state holds
  · intro state
    rw [read_bind_apply, read_bind_apply, blind]
    exact (continues state).same state

end Forgets

end Action

end IcSqliteVfs.Semantics
