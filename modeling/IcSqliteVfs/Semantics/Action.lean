import Mathlib.Tactic.Common

namespace IcSqliteVfs.Semantics

/-! # Fallible stateful calls

A call reads and changes a state and ends with a value, with a reported error,
or by unwinding.  The state survives all three endings: an early return keeps
the writes made before it, as a callee's side effects do.
-/

/-- How a call ends. -/
inductive Outcome (ε α : Type) where
  | ok (value : α)
  | err (error : ε)
  | panic
deriving DecidableEq, Repr

namespace Outcome

variable {ε α : Type}

def isOk : Outcome ε α → Bool
  | .ok _ => true
  | _ => false

end Outcome

def Action (σ ε α : Type) : Type := σ → Outcome ε α × σ

namespace Action

variable {σ τ ε α β : Type}

instance : Monad (Action σ ε) where
  pure value := fun state => (.ok value, state)
  bind first rest := fun state =>
    match first state with
    | (.ok value, next) => rest value next
    | (.err error, next) => (.err error, next)
    | (.panic, next) => (.panic, next)

/-- Return early with an error. -/
def fail (error : ε) : Action σ ε α := fun state => (.err error, state)

/-- Unwind. -/
def panic : Action σ ε α := fun state => (.panic, state)

def read : Action σ ε σ := fun state => (.ok state, state)

def modify (update : σ → σ) : Action σ ε Unit := fun state => (.ok (), update state)

/-- An assertion of the source: unwind unless the condition holds. -/
def require (condition : Prop) [Decidable condition] : Action σ ε Unit :=
  if condition then pure () else panic

/-- A pure computation that may fail. -/
def ofExcept : Except ε α → Action σ ε α
  | .ok value => pure value
  | .error error => fail error

/-- Run a call on one component of the state. -/
def zoom (get : σ → τ) (set : τ → σ → σ) (call : Action τ ε α) : Action σ ε α := fun state =>
  let (outcome, part) := call (get state)
  (outcome, set part state)

/-- Run a call and, whatever its ending, a cleanup that cannot fail: the order
in which a scope drops its guards. -/
def finally_ (call : Action σ ε α) (cleanup : σ → σ) : Action σ ε α := fun state =>
  let (outcome, next) := call state
  (outcome, cleanup next)

/-- Hand the outcome of a call, error included, to the caller as a value. -/
def attempt (call : Action σ ε α) : Action σ ε (Outcome ε α) := fun state =>
  match call state with
  | (.ok value, next) => (.ok (.ok value), next)
  | (.err error, next) => (.ok (.err error), next)
  | (.panic, next) => (.panic, next)

/-- Clean up after a reported error, and pass it on. -/
def onError (call : Action σ ε α) (cleanup : σ → σ) : Action σ ε α := fun state =>
  match call state with
  | (.ok value, next) => (.ok value, next)
  | (.err error, next) => (.err error, cleanup next)
  | (.panic, next) => (.panic, next)

/-- The error of a callee as an error of its caller. -/
def mapError {ε' : Type} (convert : ε → ε') (call : Action σ ε α) : Action σ ε' α := fun state =>
  match call state with
  | (.ok value, next) => (.ok value, next)
  | (.err error, next) => (.err (convert error), next)
  | (.panic, next) => (.panic, next)

variable {state next : σ} {value : α}

@[simp] theorem pure_apply : (pure value : Action σ ε α) state = (.ok value, state) := rfl

@[simp] theorem fail_apply (error : ε) : (fail error : Action σ ε α) state = (.err error, state) := rfl

@[simp] theorem panic_apply : (panic : Action σ ε α) state = (.panic, state) := rfl

@[simp] theorem read_apply : (read : Action σ ε σ) state = (.ok state, state) := rfl

@[simp] theorem modify_apply (update : σ → σ) :
    (modify update : Action σ ε Unit) state = (.ok (), update state) := rfl

theorem bind_apply (first : Action σ ε α) (rest : α → Action σ ε β) :
    (first >>= rest) state =
      match first state with
      | (.ok value, next) => rest value next
      | (.err error, next) => (.err error, next)
      | (.panic, next) => (.panic, next) := rfl

theorem bind_of_ok {first : Action σ ε α} (rest : α → Action σ ε β)
    (ended : first state = (.ok value, next)) : (first >>= rest) state = rest value next := by
  rw [bind_apply, ended]

theorem bind_of_err {first : Action σ ε α} {error : ε} (rest : α → Action σ ε β)
    (ended : first state = (.err error, next)) : (first >>= rest) state = (.err error, next) := by
  rw [bind_apply, ended]

theorem bind_of_panic {first : Action σ ε α} (rest : α → Action σ ε β)
    (ended : first state = (.panic, next)) : (first >>= rest) state = (.panic, next) := by
  rw [bind_apply, ended]

@[simp] theorem pure_bind_apply (rest : α → Action σ ε β) :
    ((pure value : Action σ ε α) >>= rest) state = rest value state := rfl

@[simp] theorem fail_bind_apply (error : ε) (rest : α → Action σ ε β) :
    ((fail error : Action σ ε α) >>= rest) state = (.err error, state) := rfl

@[simp] theorem read_bind_apply (rest : σ → Action σ ε β) :
    ((read : Action σ ε σ) >>= rest) state = rest state state := rfl

@[simp] theorem modify_bind_apply (update : σ → σ) (rest : Unit → Action σ ε β) :
    ((modify update : Action σ ε Unit) >>= rest) state = rest () (update state) := rfl

theorem require_of {condition : Prop} [Decidable condition] (holds : condition) :
    (require condition : Action σ ε Unit) state = (.ok (), state) := by
  simp [require, holds]

/-- An assertion that let the call go on. -/
theorem require_eq_ok {condition : Prop} [Decidable condition] {returned : Unit} :
    (require condition : Action σ ε Unit) state = (.ok returned, next) ↔ condition ∧ next = state := by
  rw [require]
  split
  · rename_i holds
    constructor
    · intro ended
      exact ⟨holds, (Prod.mk.inj ended).2.symm⟩
    · rintro ⟨_, rfl⟩
      rfl
  · rename_i fails
    constructor
    · intro ended
      cases ended
    · intro both
      exact absurd both.1 fails

@[simp] theorem ofExcept_ok : (ofExcept (.ok value) : Action σ ε α) state = (.ok value, state) := rfl

@[simp] theorem ofExcept_error (error : ε) :
    (ofExcept (.error error) : Action σ ε α) state = (.err error, state) := rfl

theorem zoom_of {get : σ → τ} {set : τ → σ → σ} {call : Action τ ε α} {outcome : Outcome ε α}
    {part : τ} (ended : call (get state) = (outcome, part)) :
    zoom get set call state = (outcome, set part state) := by
  simp [zoom, ended]

theorem attempt_of_ok {call : Action σ ε α} (ended : call state = (.ok value, next)) :
    attempt call state = (.ok (.ok value), next) := by
  rw [attempt, ended]

/-- The calls that ended well inside a sequence that ended well. -/
theorem bind_eq_ok {first : Action σ ε α} {rest : α → Action σ ε β} {result : β} :
    (first >>= rest) state = (.ok result, next) ↔
      ∃ value middle, first state = (.ok value, middle) ∧ rest value middle = (.ok result, next) := by
  rw [bind_apply]
  cases ended : first state with
  | mk outcome middle =>
      cases outcome with
      | ok value => simp
      | err error => simp
      | panic => simp

/-- A sequence ends well if its parts do. -/
theorem bind_fst_eq_ok {first : Action σ ε α} {rest : α → Action σ ε β} {result : β} :
    ((first >>= rest) state).1 = .ok result ↔
      ∃ value middle, first state = (.ok value, middle) ∧ (rest value middle).1 = .ok result := by
  rw [bind_apply]
  cases first state with
  | mk outcome middle =>
      cases outcome with
      | ok value => simp
      | err error => simp
      | panic => simp

/-- The same, with a property of the state that it ends in. -/
theorem bind_eq_ok_and {first : Action σ ε α} {rest : α → Action σ ε β} {result : β} {post : σ → Prop} :
    (∃ last, (first >>= rest) state = (.ok result, last) ∧ post last) ↔
      ∃ value middle, first state = (.ok value, middle) ∧
        ∃ last, rest value middle = (.ok result, last) ∧ post last := by
  rw [bind_apply]
  cases first state with
  | mk outcome middle =>
      cases outcome with
      | ok value => simp
      | err error => simp
      | panic => simp

/-- Where a sequence that unwound did so. -/
theorem bind_eq_panic {first : Action σ ε α} {rest : α → Action σ ε β} :
    (first >>= rest) state = (.panic, next) ↔
      first state = (.panic, next) ∨
        ∃ value middle, first state = (.ok value, middle) ∧ rest value middle = (.panic, next) := by
  rw [bind_apply]
  cases ended : first state with
  | mk outcome middle =>
      cases outcome with
      | ok value => simp
      | err error => simp
      | panic => simp

/-- Whatever its ending, the call keeps a property of the state; the value it
returns has a property of its own. -/
def Keeps (kept : σ → Prop) (call : Action σ ε α) (result : α → Prop) : Prop :=
  ∀ state, kept state → kept (call state).2 ∧ ∀ value, (call state).1 = .ok value → result value

section Keeps

variable {kept : σ → Prop} {result : α → Prop}

theorem keeps_pure (holds : result value) : Keeps kept (pure value : Action σ ε α) result := by
  intro state invariant
  refine ⟨invariant, ?_⟩
  intro returned same
  obtain rfl := Outcome.ok.inj same
  exact holds

theorem keeps_fail (error : ε) : Keeps kept (fail error : Action σ ε α) result := by
  intro state invariant
  refine ⟨invariant, ?_⟩
  intro returned same
  cases same

theorem keeps_panic : Keeps kept (panic : Action σ ε α) result := by
  intro state invariant
  refine ⟨invariant, ?_⟩
  intro returned same
  cases same

theorem keeps_read : Keeps kept (read : Action σ ε σ) kept := by
  intro state invariant
  refine ⟨invariant, ?_⟩
  intro returned same
  obtain rfl := Outcome.ok.inj same
  exact invariant

theorem keeps_modify {update : σ → σ} (updated : ∀ state, kept state → kept (update state)) :
    Keeps kept (modify update : Action σ ε Unit) fun _ => True :=
  fun state invariant => ⟨updated state invariant, fun _ _ => True.intro⟩

theorem keeps_require (condition : Prop) [Decidable condition] :
    Keeps kept (require condition : Action σ ε Unit) fun _ => condition := by
  rw [require]
  split
  · exact keeps_pure ‹_›
  · exact keeps_panic

theorem Keeps.bind {first : Action σ ε α} {rest : α → Action σ ε β} {final : β → Prop}
    (start : Keeps kept first result) (continues : ∀ value, result value → Keeps kept (rest value) final) :
    Keeps kept (first >>= rest) final := by
  intro state invariant
  obtain ⟨after, returned⟩ := start state invariant
  rw [bind_apply]
  cases ended : first state with
  | mk outcome middle =>
      rw [ended] at after returned
      cases outcome with
      | ok value => exact continues value (returned value rfl) middle after
      | err error => exact ⟨after, fun _ same => by cases same⟩
      | panic => exact ⟨after, fun _ same => by cases same⟩

theorem Keeps.mapError {ε' : Type} {call : Action σ ε α} {convert : ε → ε'} (keeps : Keeps kept call result) :
    Keeps kept (Action.mapError convert call) result := by
  intro state invariant
  obtain ⟨after, returned⟩ := keeps state invariant
  rw [Action.mapError]
  cases ended : call state with
  | mk outcome next =>
      rw [ended] at after returned
      cases outcome with
      | ok value => exact ⟨after, fun _ same => returned _ (by rw [Outcome.ok.inj same])⟩
      | err error => exact ⟨after, fun _ same => by cases same⟩
      | panic => exact ⟨after, fun _ same => by cases same⟩

theorem Keeps.attempt {call : Action σ ε α} (keeps : Keeps kept call result) :
    Keeps kept (Action.attempt call) fun _ => True := by
  intro state invariant
  have after := (keeps state invariant).1
  rw [Action.attempt]
  cases ended : call state with
  | mk outcome next =>
      rw [ended] at after
      cases outcome with
      | ok value => exact ⟨after, fun _ _ => True.intro⟩
      | err error => exact ⟨after, fun _ _ => True.intro⟩
      | panic => exact ⟨after, fun _ _ => True.intro⟩

theorem Keeps.imp {call : Action σ ε α} {weaker : α → Prop} (keeps : Keeps kept call result)
    (weakens : ∀ value, result value → weaker value) : Keeps kept call weaker :=
  fun state invariant => ⟨(keeps state invariant).1,
    fun value same => weakens value ((keeps state invariant).2 value same)⟩

end Keeps

/-- The call ends well, with a value and a state that satisfy the postcondition. -/
def Returns (call : Action σ ε α) (state : σ) (post : α → σ → Prop) : Prop :=
  ∃ value next, call state = (.ok value, next) ∧ post value next

theorem returns_pure {post : α → σ → Prop} (holds : post value state) :
    Returns (pure value : Action σ ε α) state post :=
  ⟨value, state, rfl, holds⟩

theorem returns_modify {update : σ → σ} {post : Unit → σ → Prop} (holds : post () (update state)) :
    Returns (modify update : Action σ ε Unit) state post :=
  ⟨(), update state, rfl, holds⟩

theorem returns_of {call : Action σ ε α} {post : α → σ → Prop} (ended : call state = (.ok value, next))
    (holds : post value next) : Returns call state post :=
  ⟨value, next, ended, holds⟩

theorem Returns.bind {first : Action σ ε α} {rest : α → Action σ ε β} {middle : α → σ → Prop}
    {post : β → σ → Prop} (start : Returns first state middle)
    (continues : ∀ value next, middle value next → Returns (rest value) next post) :
    Returns (first >>= rest) state post := by
  obtain ⟨value, next, ended, holds⟩ := start
  obtain ⟨result, last, finished, final⟩ := continues value next holds
  exact ⟨result, last, by rw [bind_of_ok rest ended, finished], final⟩

/-- A first call whose outcome is known. -/
theorem returns_after {first : Action σ ε α} {rest : α → Action σ ε β} {post : β → σ → Prop}
    (ended : first state = (.ok value, next)) (continues : Returns (rest value) next post) :
    Returns (first >>= rest) state post := by
  obtain ⟨result, last, finished, holds⟩ := continues
  exact ⟨result, last, by rw [bind_of_ok rest ended, finished], holds⟩

theorem Returns.imp {call : Action σ ε α} {post weaker : α → σ → Prop} (returns : Returns call state post)
    (weakens : ∀ value next, post value next → weaker value next) : Returns call state weaker := by
  obtain ⟨value, next, ended, holds⟩ := returns
  exact ⟨value, next, ended, weakens value next holds⟩

/-- What the call leaves: a value and a state with one property if it ends well,
a state with another if it does not. -/
def Leaves (call : Action σ ε α) (state : σ) (good : α → σ → Prop) (bad : σ → Prop) : Prop :=
  match call state with
  | (.ok value, next) => good value next
  | (.err _, next) => bad next
  | (.panic, next) => bad next

section Leaves

variable {good : α → σ → Prop} {bad : σ → Prop}

theorem leaves_of_ok {call : Action σ ε α} (ended : call state = (.ok value, next)) (holds : good value next) :
    Leaves call state good bad := by
  rw [Leaves, ended]
  exact holds

theorem leaves_of_err {call : Action σ ε α} {error : ε} (ended : call state = (.err error, next))
    (holds : bad next) : Leaves call state good bad := by
  rw [Leaves, ended]
  exact holds

theorem leaves_pure (holds : good value state) : Leaves (pure value : Action σ ε α) state good bad := holds

theorem leaves_fail (error : ε) (holds : bad state) : Leaves (fail error : Action σ ε α) state good bad := holds

theorem leaves_panic (holds : bad state) : Leaves (panic : Action σ ε α) state good bad := holds

theorem leaves_modify {update : σ → σ} {left : Unit → σ → Prop} (holds : left () (update state)) :
    Leaves (modify update : Action σ ε Unit) state left bad := holds

theorem leaves_after_ok {first : Action σ ε α} {rest : α → Action σ ε β} {final : β → σ → Prop}
    (ended : first state = (.ok value, next)) (continues : Leaves (rest value) next final bad) :
    Leaves (first >>= rest) state final bad := by
  rw [Leaves, bind_of_ok rest ended]
  exact continues

theorem leaves_read_bind {rest : σ → Action σ ε α} (continues : Leaves (rest state) state good bad) :
    Leaves (read >>= rest) state good bad := continues

theorem Leaves.bind {first : Action σ ε α} {rest : α → Action σ ε β} {final : β → σ → Prop}
    (start : Leaves first state good bad)
    (continues : ∀ value next, good value next → Leaves (rest value) next final bad) :
    Leaves (first >>= rest) state final bad := by
  rw [Leaves] at start
  rw [Leaves, bind_apply]
  cases ended : first state with
  | mk outcome next =>
      rw [ended] at start
      cases outcome with
      | ok value => exact continues value next start
      | err error => exact start
      | panic => exact start

theorem Leaves.imp {call : Action σ ε α} {better : α → σ → Prop} {worse : σ → Prop}
    (leaves : Leaves call state good bad) (onGood : ∀ value next, good value next → better value next)
    (onBad : ∀ next, bad next → worse next) : Leaves call state better worse := by
  rw [Leaves] at leaves ⊢
  cases ended : call state with
  | mk outcome next =>
      rw [ended] at leaves
      cases outcome with
      | ok value => exact onGood value next leaves
      | err error => exact onBad next leaves
      | panic => exact onBad next leaves

/-- What the cleanup makes of both endings. -/
theorem Leaves.finally_ {call : Action σ ε α} {cleanup : σ → σ}
    (leaves : Leaves call state (fun value next => good value (cleanup next)) fun next => bad (cleanup next)) :
    Leaves (Action.finally_ call cleanup) state good bad := by
  rw [Leaves] at leaves
  rw [Leaves, Action.finally_]
  cases ended : call state with
  | mk outcome next =>
      rw [ended] at leaves
      cases outcome with
      | ok value => exact leaves
      | err error => exact leaves
      | panic => exact leaves

theorem Leaves.panicked {call : Action σ ε α} (leaves : Leaves call state good bad)
    (ended : call state = (.panic, next)) : bad next := by
  rw [Leaves, ended] at leaves
  exact leaves

/-- A property that both endings have is a property of the state left. -/
theorem Leaves.after {call : Action σ ε α} (leaves : Leaves call state (fun _ => bad) bad) :
    bad (call state).2 := by
  rw [Leaves] at leaves
  cases ended : call state with
  | mk outcome next =>
      rw [ended] at leaves
      cases outcome with
      | ok value => exact leaves
      | err error => exact leaves
      | panic => exact leaves

theorem Leaves.zoom {get : σ → τ} {set : τ → σ → σ} {call : Action τ ε α}
    (leaves : Leaves call (get state) (fun value part => good value (set part state))
      fun part => bad (set part state)) :
    Leaves (Action.zoom get set call) state good bad := by
  rw [Leaves] at leaves
  rw [Leaves, Action.zoom]
  cases ended : call (get state) with
  | mk outcome part =>
      rw [ended] at leaves
      cases outcome with
      | ok value => exact leaves
      | err error => exact leaves
      | panic => exact leaves

theorem Keeps.leaves {kept : σ → Prop} {result : α → Prop} {call : Action σ ε α}
    (keeps : Keeps kept call result) (start : kept state) :
    Leaves call state (fun value next => kept next ∧ result value) kept := by
  obtain ⟨after, returned⟩ := keeps state start
  rw [Leaves]
  cases ended : call state with
  | mk outcome next =>
      rw [ended] at after returned
      cases outcome with
      | ok value => exact ⟨after, returned value rfl⟩
      | err error => exact after
      | panic => exact after

theorem keeps_of_leaves {kept : σ → Prop} {result : α → Prop} {call : Action σ ε α}
    (leaves : ∀ state, kept state → Leaves call state (fun value next => kept next ∧ result value) kept) :
    Keeps kept call result := by
  intro state start
  have left := leaves state start
  rw [Leaves] at left
  cases ended : call state with
  | mk outcome next =>
      rw [ended] at left
      cases outcome with
      | ok value =>
          refine ⟨left.1, ?_⟩
          intro returned same
          obtain rfl := Outcome.ok.inj same
          exact left.2
      | err error => exact ⟨left, fun _ same => by cases same⟩
      | panic => exact ⟨left, fun _ same => by cases same⟩

end Leaves

/-- What the call leaves if it returns, which it does. -/
def Ends (call : Action σ ε α) (state : σ) (good : α → σ → Prop) (bad : σ → Prop) : Prop :=
  match call state with
  | (.ok value, next) => good value next
  | (.err _, next) => bad next
  | (.panic, _) => False

section Ends

variable {good : α → σ → Prop} {bad : σ → Prop}

theorem ends_of_ok {call : Action σ ε α} (ended : call state = (.ok value, next)) (holds : good value next) :
    Ends call state good bad := by
  rw [Ends, ended]
  exact holds

theorem ends_of_err {call : Action σ ε α} {error : ε} (ended : call state = (.err error, next))
    (holds : bad next) : Ends call state good bad := by
  rw [Ends, ended]
  exact holds

theorem ends_pure (holds : good value state) : Ends (pure value : Action σ ε α) state good bad := holds

theorem ends_fail (error : ε) (holds : bad state) : Ends (fail error : Action σ ε α) state good bad := holds

theorem ends_after_ok {first : Action σ ε α} {rest : α → Action σ ε β} {final : β → σ → Prop}
    (ended : first state = (.ok value, next)) (continues : Ends (rest value) next final bad) :
    Ends (first >>= rest) state final bad := by
  rw [Ends, bind_of_ok rest ended]
  exact continues

theorem ends_read_bind {rest : σ → Action σ ε α} (continues : Ends (rest state) state good bad) :
    Ends (read >>= rest) state good bad := continues

theorem Ends.bind {first : Action σ ε α} {rest : α → Action σ ε β} {final : β → σ → Prop}
    (start : Ends first state good bad)
    (continues : ∀ value next, good value next → Ends (rest value) next final bad) :
    Ends (first >>= rest) state final bad := by
  rw [Ends] at start
  rw [Ends, bind_apply]
  cases ended : first state with
  | mk outcome next =>
      rw [ended] at start
      cases outcome with
      | ok value => exact continues value next start
      | err error => exact start
      | panic => exact start

theorem Ends.imp {call : Action σ ε α} {better : α → σ → Prop} {worse : σ → Prop}
    (ends : Ends call state good bad) (onGood : ∀ value next, good value next → better value next)
    (onBad : ∀ next, bad next → worse next) : Ends call state better worse := by
  rw [Ends] at ends ⊢
  cases ended : call state with
  | mk outcome next =>
      rw [ended] at ends
      cases outcome with
      | ok value => exact onGood value next ends
      | err error => exact onBad next ends
      | panic => exact ends

theorem Ends.ok {call : Action σ ε α} (ends : Ends call state good bad) (returned : (call state).1 = .ok value) :
    good value (call state).2 := by
  rw [Ends] at ends
  cases ended : call state with
  | mk outcome next =>
      rw [ended] at ends returned
      cases returned
      exact ends

theorem Ends.not_panic {call : Action σ ε α} (ends : Ends call state good bad) : (call state).1 ≠ .panic := by
  intro panicked
  rw [Ends] at ends
  cases ended : call state with
  | mk outcome next =>
      rw [ended] at ends panicked
      cases panicked
      exact ends

/-- A property that both endings have is a property of the state left. -/
theorem Ends.after {call : Action σ ε α} (ends : Ends call state (fun _ => bad) bad) : bad (call state).2 := by
  rw [Ends] at ends
  cases ended : call state with
  | mk outcome next =>
      rw [ended] at ends
      cases outcome with
      | ok value => exact ends
      | err error => exact ends
      | panic => exact ends.elim

theorem Ends.zoom {get : σ → τ} {set : τ → σ → σ} {call : Action τ ε α}
    (ends : Ends call (get state) (fun value part => good value (set part state))
      fun part => bad (set part state)) :
    Ends (Action.zoom get set call) state good bad := by
  rw [Ends] at ends
  rw [Ends, Action.zoom]
  cases ended : call (get state) with
  | mk outcome part =>
      rw [ended] at ends
      cases outcome with
      | ok value => exact ends
      | err error => exact ends
      | panic => exact ends

/-- What the cleanup makes of both endings. -/
theorem Ends.finally_ {call : Action σ ε α} {cleanup : σ → σ}
    (ends : Ends call state (fun value next => good value (cleanup next)) fun next => bad (cleanup next)) :
    Ends (Action.finally_ call cleanup) state good bad := by
  rw [Ends] at ends
  rw [Ends, Action.finally_]
  cases ended : call state with
  | mk outcome next =>
      rw [ended] at ends
      cases outcome with
      | ok value => exact ends
      | err error => exact ends
      | panic => exact ends

/-- The caller goes on with either ending. -/
theorem Ends.attempt_bind {call : Action σ ε α} {rest : Outcome ε α → Action σ ε β} {final : β → σ → Prop}
    {worse : σ → Prop} (start : Ends call state good bad)
    (onGood : ∀ value next, good value next → Ends (rest (.ok value)) next final worse)
    (onBad : ∀ error next, bad next → Ends (rest (.err error)) next final worse) :
    Ends (attempt call >>= rest) state final worse := by
  rw [Ends] at start
  rw [Ends, bind_apply, attempt]
  cases ended : call state with
  | mk outcome next =>
      rw [ended] at start
      cases outcome with
      | ok value => exact onGood value next start
      | err error => exact onBad error next start
      | panic => exact start

end Ends

/-- The call does what another does, or unwinds where the other might go on. -/
def Interrupts (faulty call : Action σ ε α) : Prop :=
  ∀ state, faulty state = call state ∨ (faulty state).1 = .panic

section Interrupts

theorem interrupts_self (call : Action σ ε α) : Interrupts call call := fun _ => .inl rfl

theorem Interrupts.bind {faulty call : Action σ ε α} {faultyRest rest : α → Action σ ε β}
    (first : Interrupts faulty call) (continues : ∀ value, Interrupts (faultyRest value) (rest value)) :
    Interrupts (faulty >>= faultyRest) (call >>= rest) := by
  intro state
  rcases first state with same | panicked
  · rw [bind_apply, bind_apply, same]
    cases call state with
    | mk outcome next =>
        cases outcome with
        | ok value => exact continues value next
        | err error => exact .inl rfl
        | panic => exact .inl rfl
  · refine .inr ?_
    rw [bind_apply]
    cases ended : faulty state with
    | mk outcome next =>
        rw [ended] at panicked
        cases panicked
        rfl

theorem Interrupts.zoom {get : σ → τ} {set : τ → σ → σ} {faulty call : Action τ ε α}
    (interrupts : Interrupts faulty call) : Interrupts (zoom get set faulty) (Action.zoom get set call) := by
  intro state
  rcases interrupts (get state) with same | panicked
  · exact .inl (by rw [Action.zoom, Action.zoom, same])
  · exact .inr panicked

/-- Where the faulty call ends well, the other does the same. -/
theorem Interrupts.returned {faulty call : Action σ ε α} (interrupts : Interrupts faulty call)
    (ended : faulty state = (.ok value, next)) : call state = (.ok value, next) := by
  rcases interrupts state with same | panicked
  · rw [← same, ended]
  · rw [ended] at panicked
    cases panicked

end Interrupts

end Action

end IcSqliteVfs.Semantics
