import IcSqliteVfs.Db.Statement
import IcSqliteVfs.Semantics.Run

namespace IcSqliteVfs.Db

open IcSqliteVfs.Semantics IcSqliteVfs.Semantics.Action

/-! # Borrowed bindings

A call may bind text and blobs of its caller without a copy.  Whatever the call
comes to, the statement holds no pointer into them when the caller gets them back.
-/

variable {δ κ ε α β τ ς : Type} {sql : Program δ κ}

def Binding.isBorrowed : Binding → Bool
  | .borrowed _ => true
  | _ => false

/-- No binding points into memory of a caller. -/
def Statement.Owned (self : Statement sql) : Prop := ∀ binding ∈ self.bindings, binding.isBorrowed = false

theorem Statement.owned_cleared {self : Statement sql} (cleared : self.bindings = Statement.cleared sql) :
    self.Owned := by
  intro binding member
  rw [cleared] at member
  rw [List.eq_of_mem_replicate member]
  rfl

theorem Statement.owned_clearBindings (self : Statement sql) : self.clearBindings.Owned :=
  Statement.owned_cleared rfl

theorem Statement.Owned.hold {self : Statement sql} (owned : self.Owned) (index : Nat) {binding : Binding}
    (copied : binding.isBorrowed = false) : (self.hold index binding).Owned := by
  intro held member
  rcases List.mem_or_eq_of_mem_set member with old | rfl
  · exact owned held old
  · exact copied

/-! ## Copied parameters -/

/-- The call keeps the statement free of pointers. -/
abbrev KeepsOwned (call : StatementM sql ε α) : Prop := Keeps Statement.Owned call fun _ => True

theorem KeepsOwned.and_then {first : StatementM sql ε α} {rest : α → StatementM sql ε β} (start : KeepsOwned first)
    (continues : ∀ value, KeepsOwned (rest value)) : KeepsOwned (first >>= rest) :=
  Keeps.bind start fun value _ => continues value

theorem keepsOwned_fail (error : ε) : KeepsOwned (fail error : StatementM sql ε α) := keeps_fail error

theorem keepsOwned_pure (value : α) : KeepsOwned (pure value : StatementM sql ε α) := keeps_pure trivial

theorem keepsOwned_ofExcept (result : Except ε α) : KeepsOwned (ofExcept result : StatementM sql ε α) := by
  cases result with
  | ok value => exact keepsOwned_pure value
  | error error => exact keepsOwned_fail error

theorem keepsOwned_sqliteReset : KeepsOwned (sqliteReset : StatementM sql ε (Option Failure)) :=
  fun _ owned => ⟨owned, fun _ _ => trivial⟩

theorem keepsOwned_reset : KeepsOwned (reset : StatementM sql DbError Unit) := by
  refine keepsOwned_sqliteReset.and_then fun failure => ?_
  cases failure with
  | none => exact keepsOwned_pure ()
  | some failure => exact keepsOwned_fail _

theorem keepsOwned_resetCounted (actual : Nat) : KeepsOwned (resetCounted actual : StatementM sql DbError Unit) := by
  rw [resetCounted]
  split
  · exact keepsOwned_fail _
  · exact keepsOwned_reset

section Copied

variable (index : Nat) {binding : Binding} (copied : binding.isBorrowed = false)

include copied

theorem keepsOwned_bindWith : KeepsOwned (bindWith index binding : StatementM sql DbError Unit) := by
  have bound : KeepsOwned (sqliteBind index binding : StatementM sql DbError Int) := by
    intro self owned
    refine ⟨?_, fun _ _ => trivial⟩
    unfold sqliteBind
    split
    · split
      · exact owned
      · refine owned.hold index ?_
        split
        · exact copied
        · rfl
    · exact owned
    · exact owned
  refine bound.and_then fun code => ?_
  rw [bindResult]
  split
  · exact keepsOwned_pure ()
  · exact keepsOwned_fail _

theorem keepsOwned_bindSized (length : Nat) (tooLarge : DbError) :
    KeepsOwned (bindSized length tooLarge index binding : StatementM sql DbError Unit) := by
  rw [bindSized]
  split
  · exact keepsOwned_bindWith index copied
  · exact keepsOwned_fail _

end Copied

theorem Value.keepsOwned_bindTo (index : Nat) (value : Value) :
    KeepsOwned (value.bindTo index : StatementM sql DbError Unit) := by
  cases value with
  | text value => exact keepsOwned_bindSized index rfl _ _
  | integer value => exact keepsOwned_bindWith index rfl
  | real bits => exact keepsOwned_bindWith index rfl
  | blob value => exact keepsOwned_bindSized index rfl _ _
  | null => exact keepsOwned_bindWith index rfl

theorem keepsOwned_bindAllFrom (values : List Value) (index : Nat) :
    KeepsOwned (bindAllFrom index values : StatementM sql DbError Unit) := by
  induction values generalizing index with
  | nil => exact keepsOwned_pure ()
  | cons value rest ih =>
      refine KeepsOwned.and_then (keepsOwned_ofExcept _) fun param => ?_
      exact (Value.keepsOwned_bindTo param value).and_then fun _ => ih (index + 1)

theorem keepsOwned_resetAndBind (values : List Value) :
    KeepsOwned (resetAndBind values : StatementM sql DbError Unit) := by
  refine keepsOwned_reset.and_then fun _ => ?_
  split
  · exact keepsOwned_pure ()
  · rw [bindAllWithCount]
    split
    · exact keepsOwned_fail _
    · exact keepsOwned_bindAllFrom values 0

theorem keepsOwned_bindNamedEach (expected : List String) (values : List (String × Value)) :
    KeepsOwned (bindNamedEach expected values : StatementM sql DbError Unit) := by
  induction values with
  | nil => exact keepsOwned_pure ()
  | cons pair rest ih =>
      rw [bindNamedEach]
      split
      · exact keepsOwned_fail _
      split
      · exact keepsOwned_fail _
      split
      · exact keepsOwned_fail _
      · exact (Value.keepsOwned_bindTo _ pair.2).and_then fun _ => ih

theorem keepsOwned_resetAndBindNamed (values : List (String × Value)) :
    KeepsOwned (resetAndBindNamed values : StatementM sql DbError Unit) := by
  refine keepsOwned_reset.and_then fun _ => ?_
  refine KeepsOwned.and_then (keepsOwned_ofExcept _) fun expected => ?_
  dsimp only
  split
  · exact keepsOwned_fail _
  · split
    · exact keepsOwned_fail _
    · exact keepsOwned_bindNamedEach expected values

theorem keepsOwned_bindCheckedFrom (check : Nat → Except QueryError Unit) (values : List Value) (index : Nat) :
    KeepsOwned (bindCheckedFrom check index values : StatementM sql QueryError Unit) := by
  induction values generalizing index with
  | nil => exact keepsOwned_pure ()
  | cons value rest ih =>
      refine KeepsOwned.and_then (keepsOwned_ofExcept _) fun _ => ?_
      refine KeepsOwned.and_then (Keeps.mapError (keepsOwned_ofExcept _)) fun param => ?_
      refine KeepsOwned.and_then (Keeps.attempt (Keeps.mapError (Value.keepsOwned_bindTo param value))) fun bound => ?_
      refine KeepsOwned.and_then (keepsOwned_ofExcept _) fun _ => ?_
      cases bound with
      | ok value => exact ih (index + 1)
      | err error => exact keepsOwned_fail error
      | panic => exact keeps_panic

/-- A step leaves the bindings alone. -/
theorem sqliteStep_bindings (self : Statement sql) :
    Returns (sqliteStep : StatementM sql ε Stepped) self fun _ next => next.bindings = self.bindings := by
  unfold Returns sqliteStep
  split
  · exact ⟨_, _, rfl, rfl⟩
  · exact ⟨_, _, rfl, rfl⟩
  · exact ⟨_, _, rfl, rfl⟩

theorem Statement.Owned.same {self next : Statement sql} (owned : self.Owned)
    (bindings : next.bindings = self.bindings) : next.Owned := by
  intro binding member
  rw [bindings] at member
  exact owned binding member

theorem keepsOwned_sqliteStep : KeepsOwned (sqliteStep : StatementM sql ε Stepped) := by
  intro self owned
  obtain ⟨stepped, next, ended, same⟩ := sqliteStep_bindings (ε := ε) self
  rw [ended]
  exact ⟨owned.same same, fun _ _ => trivial⟩

/-! ## Rows -/

/-- The rows clear what they borrowed when they are dropped. -/
def Rows.Guards (rows : Rows) (self : Statement sql) : Prop := rows.clearBindingsOnDrop = false → self.Owned

theorem Rows.clearStaticBindings_owned {rows : Rows} {self : Statement sql} (guards : rows.Guards self) :
    ((rows.clearStaticBindings : StatementM sql ε Rows) self).2.Owned := by
  rw [Rows.clearStaticBindings]
  cases clears : rows.clearBindingsOnDrop with
  | false => exact guards clears
  | true => exact Statement.owned_clearBindings self

theorem Rows.Guards.same {rows : Rows} {self next : Statement sql} (guards : rows.Guards self)
    (bindings : next.bindings = self.bindings) : rows.Guards next :=
  fun clears => (guards clears).same bindings

theorem Rows.answer_guards {rows : Rows} {self : Statement sql} (guards : rows.Guards self) (read : Row → τ)
    (stepped : Stepped) :
    Returns (rows.answer read stepped : StatementM sql ε _) self fun answer next => answer.2.Guards next := by
  cases stepped with
  | row row => exact returns_pure guards
  | done => exact ⟨_, _, rfl, fun _ => Rows.clearStaticBindings_owned (ε := ε) guards⟩
  | failed failure => exact returns_pure guards

theorem Rows.nextRow_guards {rows : Rows} {self : Statement sql} (guards : rows.Guards self) :
    Returns (rows.nextRow : StatementM sql ε _) self fun answer next => answer.2.Guards next := by
  rw [Rows.nextRow]
  split
  · exact returns_pure guards
  · exact (sqliteStep_bindings self).bind fun stepped _ same => Rows.answer_guards (guards.same same) id stepped

theorem Rows.nextTextLenZero_guards {rows : Rows} {self : Statement sql} (guards : rows.Guards self) :
    Returns (rows.nextTextLenZero : StatementM sql ε _) self fun answer next => answer.2.Guards next :=
  (sqliteStep_bindings self).bind fun stepped _ same => Rows.answer_guards (guards.same same) _ stepped

/-- Wherever the caller drops the rows, nothing borrowed is left. -/
theorem RowProgram.owned_perform (program : RowProgram δ α) {rows : Rows} {self : Statement sql}
    (guards : rows.Guards self) : ((program.perform rows : StatementM sql ε α) self).2.Owned := by
  induction program generalizing rows self with
  | drop result => exact Rows.clearStaticBindings_owned (ε := ε) guards
  | unwind => exact Rows.clearStaticBindings_owned (ε := ε) guards
  | nextRow rest ih =>
      obtain ⟨answer, next, ended, kept⟩ := Rows.nextRow_guards (ε := ε) guards
      rw [RowProgram.perform, bind_of_ok _ ended]
      exact ih answer.1 kept
  | nextTextLenZero rest ih =>
      obtain ⟨answer, next, ended, kept⟩ := Rows.nextTextLenZero_guards (ε := ε) guards
      rw [RowProgram.perform, bind_of_ok _ ended]
      exact ih answer.1 kept
  | elsewhere change rest ih => exact ih (guards.same rfl)

theorem keepsOwned_perform (program : RowProgram δ α) :
    KeepsOwned (program.perform Rows.copied : StatementM sql ε α) :=
  fun _ owned => ⟨program.owned_perform fun _ => owned, fun _ _ => trivial⟩

/-! ## Borrowed parameters -/

/-- The call returns, with a value or an error. -/
abbrev Comes (call : StatementM sql ε α) (self : Statement sql) : Prop := Ends call self (fun _ _ => True) fun _ => True

theorem Comes.and_then {first next : StatementM sql ε Unit} {self : Statement sql} (start : Comes first self)
    (continues : ∀ self, Comes next self) : Comes (first >>= fun _ => next) self :=
  Ends.bind start fun _ after _ => continues after

theorem comes_bindWith (index : Nat) (binding : Binding) (self : Statement sql) :
    Comes (bindWith index binding : StatementM sql DbError Unit) self := by
  have bound : Returns (sqliteBind index binding : StatementM sql DbError Int) self fun _ _ => True := by
    unfold Returns sqliteBind
    split
    · split
      · exact ⟨_, _, rfl, trivial⟩
      · exact ⟨_, _, rfl, trivial⟩
    · exact ⟨_, _, rfl, trivial⟩
    · exact ⟨_, _, rfl, trivial⟩
  obtain ⟨code, next, ended, _⟩ := bound
  refine ends_after_ok ended ?_
  rw [bindResult]
  split
  · exact ends_pure trivial
  · exact ends_fail _ trivial

theorem comes_bindSized (length : Nat) (tooLarge : DbError) (index : Nat) (binding : Binding) (self : Statement sql) :
    Comes (bindSized length tooLarge index binding : StatementM sql DbError Unit) self := by
  rw [bindSized]
  split
  · exact comes_bindWith index binding self
  · exact ends_fail _ trivial

theorem comes_bindTextsFrom (values : List String) (index : Nat) (self : Statement sql) :
    Comes (bindTextsFrom index values : StatementM sql DbError Unit) self := by
  induction values generalizing index self with
  | nil => exact ends_pure trivial
  | cons value rest ih => exact Comes.and_then (comes_bindSized _ _ index _ self) (ih (index + 1))

theorem ends_resetCounted (actual : Nat) {self : Statement sql} (owned : self.Owned) :
    Ends (resetCounted actual : StatementM sql DbError Unit) self (fun _ => Statement.Owned) Statement.Owned := by
  rw [resetCounted]
  split
  · exact ends_fail _ owned
  · refine ends_after_ok (show sqliteReset self = (.ok self.phase.failure, _) from rfl) ?_
    cases self.phase.failure with
    | none => exact ends_pure owned
    | some failure => exact ends_fail _ owned

/-- What is cleared after an error is clean. -/
theorem Comes.onError {bind : StatementM sql DbError Unit} {self : Statement sql} (comes : Comes bind self) :
    Ends (Action.onError bind Statement.clearBindings) self (fun _ _ => True) Statement.Owned := by
  rw [Comes, Ends] at comes
  rw [Ends, Action.onError]
  cases ended : bind self with
  | mk outcome next =>
      rw [ended] at comes
      cases outcome with
      | ok value => trivial
      | err error => exact Statement.owned_clearBindings next
      | panic => exact comes

theorem comes_counted {actual : Nat} {bind : StatementM sql DbError Unit} (comes : ∀ self, Comes bind self)
    {self : Statement sql} (owned : self.Owned) : Comes (resetCounted actual >>= fun _ => bind) self :=
  Ends.bind (Ends.imp (ends_resetCounted actual owned) (fun _ _ _ => trivial) fun _ _ => trivial)
    fun _ next _ => comes next

theorem ends_resetAndBindTextIter (values : List String) {self : Statement sql} (owned : self.Owned) :
    Ends (resetAndBindTextIter values : StatementM sql DbError Unit) self (fun _ _ => True) Statement.Owned :=
  Ends.bind (ends_resetCounted values.length owned) fun _ next _ => Comes.onError (comes_bindTextsFrom values 1 next)

/-! ## Calls -/

/-- A call that ends with nothing borrowed after a binding that returned, or
cleaned up after itself. -/
theorem keepsOwned_of_ends {bind : StatementM sql ε α} {rest : α → StatementM sql ε β}
    (binds : ∀ self, Statement.Owned self → Ends bind self (fun _ _ => True) Statement.Owned)
    (cleans : ∀ value self, (rest value self).2.Owned) : KeepsOwned (bind >>= rest) := by
  intro self owned
  refine ⟨?_, fun _ _ => trivial⟩
  have bound := binds self owned
  rw [Ends] at bound
  rw [bind_apply]
  cases ended : bind self with
  | mk outcome next =>
      rw [ended] at bound
      cases outcome with
      | ok value => exact cleans value next
      | err error => exact bound
      | panic => exact bound.elim

theorem owned_after_ofExcept (self : Statement sql) (result : Except ε α) :
    ((Action.modify Statement.clearBindings >>= fun _ => ofExcept result : StatementM sql ε α) self).2.Owned := by
  rw [modify_bind_apply]
  cases result with
  | ok value => exact Statement.owned_clearBindings self
  | error error => exact Statement.owned_clearBindings self

theorem keepsOwned_stepBorrowed {bind : StatementM sql DbError Unit}
    (comes : ∀ self, Statement.Owned self → Comes bind self) (finish : Stepped → Except DbError α) :
    KeepsOwned (stepBorrowed bind finish) := by
  refine keepsOwned_of_ends (fun self owned => Comes.onError (comes self owned)) fun _ self => ?_
  obtain ⟨stepped, next, ended, _⟩ := sqliteStep_bindings (ε := DbError) self
  rw [bind_of_ok _ ended]
  exact owned_after_ofExcept next _

theorem keepsOwned_queryTextIter (values : List String) (rows : RowProgram δ α) :
    KeepsOwned (queryTextIter values rows : StatementM sql DbError α) :=
  keepsOwned_of_ends (fun _ owned => ends_resetAndBindTextIter values owned) fun _ _ =>
    rows.owned_perform nofun

/-- The sum comes to an end with nothing borrowed, or traps. -/
theorem textLenSum_owned (turns : Nat) (total : UInt64) (self : Statement sql) :
    Ends (textLenSum turns total : StatementM sql DbError _) self
      (fun sum next => sum.isSome → next.Owned) Statement.Owned := by
  induction turns generalizing total self with
  | zero => exact ends_pure nofun
  | succ turns ih =>
      obtain ⟨stepped, next, ended, _⟩ := sqliteStep_bindings (ε := DbError) self
      refine ends_after_ok ended ?_
      cases stepped with
      | row row => exact ih _ next
      | done => exact ends_of_ok rfl fun _ => Statement.owned_clearBindings next
      | failed failure => exact ends_of_err rfl (Statement.owned_clearBindings next)

theorem keepsOwned_queryTextIterTextLenSum (turns : Nat) (values : List String) :
    KeepsOwned (queryTextIterTextLenSum turns values : StatementM sql DbError UInt64) := by
  intro self owned
  refine ⟨?_, fun _ _ => trivial⟩
  have ends : Ends (Action.onError (resetAndBindTextIter values) Statement.clearBindings >>= fun _ => textLenSum turns 0)
      self (fun sum next => sum.isSome → next.Owned) Statement.Owned := by
    have comes : Comes (resetAndBindTextIter values) self :=
      Ends.imp (ends_resetAndBindTextIter values owned) (fun _ _ _ => trivial) fun _ _ => trivial
    exact Ends.bind comes.onError fun _ next _ => textLenSum_owned turns 0 next
  rw [Ends] at ends
  rw [queryTextIterTextLenSum, orTrap]
  cases ended : (Action.onError (resetAndBindTextIter values) Statement.clearBindings >>=
      fun _ => textLenSum turns 0) self with
  | mk outcome next =>
      rw [ended] at ends
      cases outcome with
      | ok sum =>
          cases sum with
          | none => exact owned
          | some total => exact ends rfl
      | err error => exact ends
      | panic => exact ends.elim

section Forms

variable (first second : Int64) (text other : String) (blob : List UInt8) (self : Statement sql) (owned : self.Owned)

include owned

theorem comes_resetAndBindSingleTextBorrowed : Comes (resetAndBindSingleTextBorrowed text) self :=
  comes_counted (comes_bindSized _ _ 1 _) owned

theorem comes_resetAndBindTwoTextBorrowed : Comes (resetAndBindTwoTextBorrowed text other) self :=
  comes_counted (fun self => Comes.and_then (comes_bindSized _ _ 1 _ self) (comes_bindSized _ _ 2 _)) owned

theorem comes_resetAndBindI64TextBorrowed : Comes (resetAndBindI64TextBorrowed first text) self :=
  comes_counted (fun self => Comes.and_then (comes_bindWith 1 _ self) (comes_bindSized _ _ 2 _)) owned

theorem comes_resetAndBindI64BlobBorrowed : Comes (resetAndBindI64BlobBorrowed first blob) self :=
  comes_counted (fun self => Comes.and_then (comes_bindWith 1 _ self) (comes_bindSized _ _ 2 _)) owned

theorem comes_resetAndBindI64I64TextBorrowed : Comes (resetAndBindI64I64TextBorrowed first second text) self :=
  comes_counted (fun self => Comes.and_then (comes_bindWith 1 _ self) fun self =>
    Comes.and_then (comes_bindWith 2 _ self) (comes_bindSized _ _ 3 _)) owned

end Forms

theorem keepsOwned_query (values : List Value) (rows : RowProgram δ α) :
    KeepsOwned (query values rows : StatementM sql DbError α) :=
  (keepsOwned_resetAndBind values).and_then fun _ => keepsOwned_perform rows

theorem keepsOwned_queryNamed (values : List (String × Value)) (rows : RowProgram δ α) :
    KeepsOwned (queryNamed values rows : StatementM sql DbError α) :=
  (keepsOwned_resetAndBindNamed values).and_then fun _ => keepsOwned_perform rows

theorem KeepsOwned.ofExcept {call : StatementM sql ε (Except ε α)} (keeps : KeepsOwned call) :
    KeepsOwned (call >>= fun result => Action.ofExcept result) :=
  keeps.and_then keepsOwned_ofExcept

theorem keepsOwned_queryWithBindCheck (values : List Value) (check : Nat → Except QueryError Unit)
    (rows : RowProgram δ α) : KeepsOwned (queryWithBindCheck values check rows : StatementM sql QueryError α) := by
  refine KeepsOwned.and_then (Keeps.mapError keepsOwned_reset) fun _ => ?_
  split
  · exact keepsOwned_fail _
  · exact (keepsOwned_bindCheckedFrom check values 0).and_then fun _ => keepsOwned_perform rows

theorem StatementCall.keepsOwned (call : StatementCall δ α) :
    KeepsOwned (call.perform : StatementM sql QueryError α) := by
  cases call with
  | execute values =>
      refine Keeps.mapError ((keepsOwned_resetAndBind values).and_then fun _ => ?_)
      exact keepsOwned_sqliteStep.and_then fun _ => keepsOwned_ofExcept _
  | executeNamed values =>
      refine Keeps.mapError ((keepsOwned_resetAndBindNamed values).and_then fun _ => ?_)
      exact keepsOwned_sqliteStep.and_then fun _ => keepsOwned_ofExcept _
  | executeTextText first second =>
      exact Keeps.mapError (keepsOwned_stepBorrowed (comes_resetAndBindTwoTextBorrowed first second) _)
  | executeI64Text first second =>
      exact Keeps.mapError (keepsOwned_stepBorrowed (comes_resetAndBindI64TextBorrowed first second) _)
  | executeI64Blob first second =>
      exact Keeps.mapError (keepsOwned_stepBorrowed (comes_resetAndBindI64BlobBorrowed first second) _)
  | executeI64I64Text first second third =>
      exact Keeps.mapError (keepsOwned_stepBorrowed (comes_resetAndBindI64I64TextBorrowed first second third) _)
  | query values rows => exact Keeps.mapError (keepsOwned_query values rows)
  | queryNamed values rows => exact Keeps.mapError (keepsOwned_queryNamed values rows)
  | queryWithBindCheck values check rows => exact keepsOwned_queryWithBindCheck values check rows
  | queryI64 value rows =>
      refine Keeps.mapError (KeepsOwned.and_then ?_ fun _ => keepsOwned_perform rows)
      exact (keepsOwned_resetCounted 1).and_then fun _ => keepsOwned_bindWith 1 rfl
  | queryTexts values rows => exact Keeps.mapError (keepsOwned_queryTextIter values rows)
  | queryTextIter values rows => exact Keeps.mapError (keepsOwned_queryTextIter values rows)
  | queryTextIterEphemeral values rows => exact Keeps.mapError (keepsOwned_queryTextIter values rows)
  | queryTextIterTextLenSum turns values => exact Keeps.mapError (keepsOwned_queryTextIterTextLenSum turns values)
  | queryOne values f => exact Keeps.mapError (keepsOwned_query values _).ofExcept
  | queryOneNamed values f => exact Keeps.mapError (keepsOwned_queryNamed values _).ofExcept
  | queryOptional values f => exact Keeps.mapError (keepsOwned_query values _).ofExcept
  | queryOptionalNamed values f => exact Keeps.mapError (keepsOwned_queryNamed values _).ofExcept
  | queryAll turns values f seen => exact Keeps.mapError (keepsOwned_query values _).ofExcept
  | queryAllNamed turns values f seen => exact Keeps.mapError (keepsOwned_queryNamed values _).ofExcept
  | queryScalar read values => exact Keeps.mapError (keepsOwned_query values _).ofExcept
  | queryScalarNamed read values => exact Keeps.mapError (keepsOwned_queryNamed values _).ofExcept
  | queryOptionalScalar read values => exact Keeps.mapError (keepsOwned_query values _).ofExcept
  | queryOptionalScalarNamed read values => exact Keeps.mapError (keepsOwned_queryNamed values _).ofExcept
  | queryColumn turns read values => exact Keeps.mapError (keepsOwned_query values _).ofExcept
  | queryColumnNamed turns read values => exact Keeps.mapError (keepsOwned_queryNamed values _).ofExcept
  | queryOptionalStringText value =>
      exact Keeps.mapError (keepsOwned_stepBorrowed (comes_resetAndBindSingleTextBorrowed value) _)
  | queryOptionalStringTextLen value =>
      exact Keeps.mapError (keepsOwned_stepBorrowed (comes_resetAndBindSingleTextBorrowed value) _)

theorem StatementEvent.owned_perform (event : StatementEvent δ) (self : Statement sql) (owned : self.Owned) :
    (event.perform self).Owned := by
  cases event with
  | call made => exact (made.keepsOwned self owned).1
  | elsewhere change => exact owned
  | returned => exact Statement.owned_clearBindings _

/-- Whatever is called on a statement, and wherever a call fails, is left early
or unwinds: after each call, and after its return to the cache, the statement
holds no pointer into the parameters of its callers. -/
theorem no_borrowed_binding_outlives_its_call (sql : Program δ κ) (database : δ) (events : List (StatementEvent δ)) :
    Always StatementEvent.perform Statement.Owned events (Statement.prepared sql database) :=
  always_of_keeps StatementEvent.owned_perform events (Statement.owned_cleared rfl)

/-- A call that borrows two texts holds them while it steps. -/
example :
    let sql : Program Unit Unit := ⟨[some "?1", some "?2"], by decide, fun _ _ _ => 0, fun _ _ _ => (.done, ())⟩
    let bound := (resetAndBindTwoTextBorrowed "a" "b" (Statement.prepared sql ())).2
    bound.bindings = [.borrowed (.text "a"), .borrowed (.text "b")] ∧
      (executeTextText "a" "b" (Statement.prepared sql ())).2.bindings = [.unbound, .unbound] := by
  decide

end IcSqliteVfs.Db
