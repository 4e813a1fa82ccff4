import IcSqliteVfs.Db.StatementReuse
import IcSqliteVfs.Semantics.Mirror

namespace IcSqliteVfs.Db

open IcSqliteVfs.Semantics IcSqliteVfs.Semantics.Action

/-! # The specialised calls

A statement has calls for parameters of fixed types, which borrow them, bind them
without a loop and clear them afterwards.  Each ends as the general call does.
-/

variable {δ κ ε α β τ : Type} {sql : Program δ κ}

/-- The general call with the same parameters; the others are general already. -/
def StatementCall.plain : StatementCall δ α → StatementCall δ α
  | .executeTextText first second => .execute [.text first, .text second]
  | .executeI64Text first second => .execute [.integer first, .text second]
  | .executeI64Blob first second => .execute [.integer first, .blob second]
  | .executeI64I64Text first second third => .execute [.integer first, .integer second, .text third]
  | .queryI64 value rows => .query [.integer value] rows
  | .queryTexts values rows => .query (values.map .text) rows
  | .queryTextIter values rows => .query (values.map .text) rows
  | .queryTextIterEphemeral values rows => .query (values.map .text) rows
  | .queryOptionalStringText value => .queryOptional [.text value] readStringColumnZero
  | .queryOptionalStringTextLen value => .queryOptional [.text value] fun row => .ok (readStringColumnZeroLen row)
  | call => call

def endsRows : Except DbError (Option τ) → Bool
  | .ok none => true
  | _ => false

/-- The text lengths of rows that have ended are not asked for. -/
def RowProgram.Heeds : RowProgram δ α → Bool → Prop
  | .drop _, _ => True
  | .unwind, _ => True
  | .nextRow rest, done => ∀ answer, (rest answer).Heeds (done || endsRows answer)
  | .nextTextLenZero rest, done => done = false ∧ ∀ answer, (rest answer).Heeds (endsRows answer)
  | .elsewhere _ rest, done => rest.Heeds done

def StatementCall.Heeds : StatementCall δ α → Prop
  | .queryTexts _ rows => rows.Heeds false
  | .queryTextIter _ rows => rows.Heeds false
  | .queryTextIterEphemeral _ rows => rows.Heeds false
  | _ => True

/-! ## Statements that cannot be told apart -/

/-- The same run, with the same values bound. -/
structure SameRun (first second : Statement sql) : Prop where
  database : first.database = second.database
  phase : first.phase = second.phase
  values : first.bindings.map Binding.value = second.bindings.map Binding.value

structure SameReady (first second : Statement sql) : Prop extends SameRun first second where
  ready : first.phase = .ready

/-- What the next call would go by. -/
structure SamePhase (first second : Statement sql) : Prop where
  database : first.database = second.database
  phase : first.phase = second.phase

structure SameFailure (first second : Statement sql) : Prop where
  database : first.database = second.database
  failure : first.phase.failure = second.phase.failure

theorem SamePhase.clearBindings {first second : Statement sql} (same : SamePhase first second) :
    SamePhase first.clearBindings second := ⟨same.database, same.phase⟩

theorem SameFailure.clearBindings {first second : Statement sql} (same : SameFailure first second) :
    SameFailure first.clearBindings second := ⟨same.database, same.failure⟩

/-! ## Binding -/

theorem SameReady.hold {first second : Statement sql} (alike : SameReady first second) (index : Nat)
    {binding other : Binding} (same : binding.value = other.value) :
    SameReady (first.hold index binding) (second.hold index other) where
  database := alike.database
  phase := alike.phase
  values := by simp [Statement.hold, List.map_set, alike.values, same]
  ready := alike.ready

/-- One statement, of which the call reports nothing old or has the right number of values. -/
def Opens (count : Nat) (first second : Statement sql) : Prop :=
  first = second ∧ (first.phase.failure = none ∨ parameterCount sql = count)

section Calls

variable {call : StatementCall δ α}

/-- One statement, which the call may be made on. -/
def Calls (call : StatementCall δ α) (first second : Statement sql) : Prop :=
  first = second ∧ (first.phase.failure = none ∨ ¬ call.Miscounted sql)

theorem Calls.opens {count : Nat} (counted : call.counted = some count) (first second : Statement sql)
    (calls : Calls call first second) : Opens count first second := by
  obtain ⟨same, clean⟩ := calls
  refine ⟨same, clean.imp_right fun matching => ?_⟩
  by_contra differ
  exact matching ⟨count, counted, differ⟩

end Calls

end IcSqliteVfs.Db
