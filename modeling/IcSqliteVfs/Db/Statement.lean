import IcSqliteVfs.Db.Error
import IcSqliteVfs.Semantics.Action

namespace IcSqliteVfs.Db

open IcSqliteVfs.Semantics

/-! # Prepared statements

A statement is reset, bound and stepped through SQLite's interface.  SQLite is
given by what a step of the statement does for the values that are bound; which
bindings it holds, and whether it runs, is kept here.
-/

/-- A real number is given by its bits. -/
inductive Value where
  | text (value : String)
  | integer (value : Int64)
  | real (bits : UInt64)
  | blob (value : List UInt8)
  | null
deriving DecidableEq, Repr

/-- What a statement holds for a parameter: nothing, a value that it copied
(`SQLITE_TRANSIENT`, and every number), or a pointer into the caller's memory
(`SQLITE_STATIC`). -/
inductive Binding where
  | unbound
  | copied (value : Value)
  | borrowed (value : Value)
deriving DecidableEq, Repr

def Binding.value : Binding → Value
  | .unbound => .null
  | .copied value => value
  | .borrowed value => value

/-- A column of the current row, with the length that `sqlite3_column_bytes`
gives: a number is converted to text for it. -/
structure Column where
  value : Value
  bytes : Nat
deriving DecidableEq, Repr

abbrev Row : Type := List Column

/-- The error that a step ended with. -/
structure Failure where
  code : Int
  message : String
  failed : code ≠ sqliteOk
deriving DecidableEq

def Failure.error (failure : Failure) : DbError := classifySqliteError failure.code failure.message

inductive StepEnding (κ : Type) where
  | row (row : Row) (cursor : κ)
  | done
  | failed (failure : Failure)

/-- A statement as SQLite compiled it: the parameters, each with the name it
has, no name twice; the code that binding a parameter ends with; and the steps
of the program, from its start or from where it stopped. -/
structure Program (δ κ : Type) where
  parameters : List (Option String)
  distinct : (parameters.filterMap id).Nodup
  bindCode : δ → Nat → Binding → Int
  step : List Value → Option κ → δ → StepEnding κ × δ

inductive Phase (κ : Type) where
  | ready
  | running (cursor : κ)
  | halted (failure : Option Failure)

/-- The error of the last step, if it failed and the statement was not reset since. -/
def Phase.failure {κ : Type} : Phase κ → Option Failure
  | .ready => none
  | .running _ => none
  | .halted failure => failure

/-- A step of a statement that has ended starts it again. -/
def Phase.cursor {κ : Type} : Phase κ → Option κ
  | .ready => none
  | .running cursor => some cursor
  | .halted _ => none

variable {δ κ : Type} {ε α τ ς : Type}

@[ext]
structure Statement (sql : Program δ κ) where
  database : δ
  bindings : List Binding
  phase : Phase κ
  width : bindings.length = sql.parameters.length

namespace Statement

variable (sql : Program δ κ)

def cleared : List Binding := List.replicate sql.parameters.length .unbound

/-- A statement that was just prepared. -/
def prepared (database : δ) : Statement sql :=
  ⟨database, cleared sql, .ready, List.length_replicate⟩

end Statement

abbrev StatementM (sql : Program δ κ) (ε : Type) : Type → Type := Action (Statement sql) ε

/-! ## SQLite's interface -/

section Interface

variable {sql : Program δ κ}

/-- The number of parameters that the wrapper keeps. -/
def parameterCount (sql : Program δ κ) : Nat := sql.parameters.length

/-- `sqlite3_reset`: the statement is ready whatever it answers. -/
def sqliteReset : StatementM sql ε (Option Failure) := fun self =>
  (.ok self.phase.failure, { self with phase := .ready })

/-- `sqlite3_clear_bindings`. -/
def Statement.clearBindings (self : Statement sql) : Statement sql :=
  { self with bindings := Statement.cleared sql, width := List.length_replicate }

def Statement.hold (self : Statement sql) (index : Nat) (binding : Binding) : Statement sql :=
  { self with bindings := self.bindings.set (index - 1) binding, width := by rw [List.length_set, self.width] }

/-- `sqlite3_bind_*`: a parameter that cannot be bound is left without a value. -/
def sqliteBind (index : Nat) (binding : Binding) : StatementM sql ε Int := fun self =>
  match self.phase with
  | .ready =>
      if index = 0 ∨ sql.parameters.length < index then (.ok sqliteRange, self)
      else
        let code := sql.bindCode self.database index binding
        (.ok code, self.hold index (if code = sqliteOk then binding else .unbound))
  | .running _ => (.ok sqliteMisuse, self)
  | .halted _ => (.ok sqliteMisuse, self)

/-- What `sqlite3_step` tells. -/
inductive Stepped where
  | row (row : Row)
  | done
  | failed (failure : Failure)

def sqliteStep : StatementM sql ε Stepped := fun self =>
  match sql.step (self.bindings.map Binding.value) self.phase.cursor self.database with
  | (.row row cursor, database) => (.ok (.row row), { self with database, phase := .running cursor })
  | (.done, database) => (.ok .done, { self with database, phase := .halted none })
  | (.failed failure, database) => (.ok (.failed failure), { self with database, phase := .halted (some failure) })

end Interface

/-! ## Binding -/

/-- `c_int`'s largest value. -/
def maxCInt : Nat := 2147483647

section Bind

variable {sql : Program δ κ}

def bindResult (code : Int) : StatementM sql DbError Unit :=
  if code = sqliteOk then pure () else Action.fail (.sqlite code "sqlite bind failed")

def bindWith (index : Nat) (binding : Binding) : StatementM sql DbError Unit := do
  let code ← sqliteBind index binding
  bindResult code

/-- A text or blob whose length SQLite can be told. -/
def bindSized (length : Nat) (tooLarge : DbError) (index : Nat) (binding : Binding) : StatementM sql DbError Unit :=
  if length ≤ maxCInt then bindWith index binding else Action.fail tooLarge

def bindText (index : Nat) (value : String) : StatementM sql DbError Unit :=
  bindSized value.utf8ByteSize .textTooLarge index (.copied (.text value))

def bindTextStatic (index : Nat) (value : String) : StatementM sql DbError Unit :=
  bindSized value.utf8ByteSize .textTooLarge index (.borrowed (.text value))

def bindBlob (index : Nat) (value : List UInt8) : StatementM sql DbError Unit :=
  bindSized value.length .blobTooLarge index (.copied (.blob value))

/-- An empty blob is bound to a byte of the program, not of the caller. -/
def bindBlobStatic (index : Nat) (value : List UInt8) : StatementM sql DbError Unit :=
  bindSized value.length .blobTooLarge index (if value.isEmpty then .copied (.blob []) else .borrowed (.blob value))

def bindI64 (index : Nat) (value : Int64) : StatementM sql DbError Unit := bindWith index (.copied (.integer value))

def bindF64 (index : Nat) (bits : UInt64) : StatementM sql DbError Unit := bindWith index (.copied (.real bits))

def bindNull (index : Nat) : StatementM sql DbError Unit := bindWith index (.copied .null)

/-- The values that can be bound; other crates cannot name the statement that
an implementation of their own would bind to. -/
def Value.bindTo (index : Nat) : Value → StatementM sql DbError Unit
  | .text value => bindText index value
  | .integer value => bindI64 index value
  | .real bits => bindF64 index bits
  | .blob value => bindBlob index value
  | .null => bindNull index

/-- The number of a parameter as a `c_int`. -/
def parameterIndex (index : Nat) : Except DbError Nat :=
  if index ≤ maxCInt then .ok index else .error .tooManyParameters

/-- The loop of `bind_all_with_count`, from the parameter with the given position on. -/
def bindAllFrom : Nat → List Value → StatementM sql DbError Unit
  | _, [] => pure ()
  | index, value :: rest => do
      let param ← Action.ofExcept (parameterIndex (index + 1))
      value.bindTo param
      bindAllFrom (index + 1) rest

def bindAllWithCount (values : List Value) (expected : Nat) : StatementM sql DbError Unit :=
  if values.length ≠ expected then Action.fail (.parameterCountMismatch expected values.length)
  else bindAllFrom 0 values

/-- The loop of `named_parameters`. -/
def namedParametersFrom : Nat → List (Option String) → Except DbError (List String)
  | _, [] => .ok []
  | index, name :: rest => do
      let number ← parameterIndex index
      match name with
      | none => .error (.anonymousParameterInNamedBind number)
      | some name => do
          let names ← namedParametersFrom (index + 1) rest
          .ok (name :: names)

def namedParameters (sql : Program δ κ) : Except DbError (List String) := namedParametersFrom 1 sql.parameters

/-- `sqlite3_bind_parameter_index`: no parameter has the number zero. -/
def bindParameterIndex (sql : Program δ κ) (name : String) : Nat :=
  match sql.parameters.findIdx? (· = some name) with
  | some position => position + 1
  | none => 0

/-- The last loop of `bind_named_all`. -/
def bindNamedEach (expected : List String) : List (String × Value) → StatementM sql DbError Unit
  | [] => pure ()
  | (name, value) :: rest =>
      if name ∉ expected then Action.fail (.parameterNotFound name)
      else if '\x00' ∈ name.toList then Action.fail .interiorNul
      else if bindParameterIndex sql name = 0 then Action.fail (.parameterNotFound name)
      else do
        value.bindTo (bindParameterIndex sql name)
        bindNamedEach expected rest

/-- The first expected name that is not provided. -/
def missingName (expected provided : List String) : Option String := expected.find? (· ∉ provided)

def bindNamedAll (values : List (String × Value)) : StatementM sql DbError Unit := do
  let expected ← Action.ofExcept (namedParameters sql)
  let provided := (values.map Prod.fst).dedup
  if provided.length ≠ values.length ∨ values.length ≠ expected.length then
    Action.fail (.parameterCountMismatch expected.length values.length)
  else
    match missingName expected provided with
    | some name => Action.fail (.parameterNotFound name)
    | none => bindNamedEach expected values

end Bind

/-! ## Resetting and binding -/

section ResetAndBind

variable {sql : Program δ κ}

/-- Every form resets the statement first and gives up if SQLite reports an error. -/
def reset : StatementM sql DbError Unit := do
  match ← sqliteReset with
  | some failure => Action.fail failure.error
  | none => pure ()

def resetAndBind (values : List Value) : StatementM sql DbError Unit := do
  reset
  if parameterCount sql = 0 ∧ values = [] then pure ()
  else bindAllWithCount values (parameterCount sql)

def resetAndBindNamed (values : List (String × Value)) : StatementM sql DbError Unit := do
  reset
  bindNamedAll values

/-- The specialised forms compare the number of parameters before the reset. -/
def resetCounted (actual : Nat) : StatementM sql DbError Unit :=
  if parameterCount sql ≠ actual then Action.fail (.parameterCountMismatch (parameterCount sql) actual)
  else reset

def resetAndBindSingleTextBorrowed (value : String) : StatementM sql DbError Unit := do
  resetCounted 1
  bindTextStatic 1 value

def resetAndBindSingleI64 (value : Int64) : StatementM sql DbError Unit := do
  resetCounted 1
  bindI64 1 value

def resetAndBindTwoTextBorrowed (first second : String) : StatementM sql DbError Unit := do
  resetCounted 2
  bindTextStatic 1 first
  bindTextStatic 2 second

/-- The loop of `reset_and_bind_text_iter`. -/
def bindTextsFrom : Nat → List String → StatementM sql DbError Unit
  | _, [] => pure ()
  | param, value :: rest => do
      bindTextStatic param value
      bindTextsFrom (param + 1) rest

/-- This form clears the bindings itself when one of them fails. -/
def resetAndBindTextIter (values : List String) : StatementM sql DbError Unit := do
  resetCounted values.length
  Action.onError (bindTextsFrom 1 values) Statement.clearBindings

def resetAndBindI64TextBorrowed (first : Int64) (second : String) : StatementM sql DbError Unit := do
  resetCounted 2
  bindI64 1 first
  bindTextStatic 2 second

def resetAndBindI64BlobBorrowed (first : Int64) (second : List UInt8) : StatementM sql DbError Unit := do
  resetCounted 2
  bindI64 1 first
  bindBlobStatic 2 second

def resetAndBindI64I64TextBorrowed (first second : Int64) (third : String) : StatementM sql DbError Unit := do
  resetCounted 3
  bindI64 1 first
  bindI64 2 second
  bindTextStatic 3 third

end ResetAndBind

/-! ## Rows -/

structure Rows where
  done : Bool
  clearBindingsOnDrop : Bool
deriving DecidableEq, Repr

section Rows

variable {sql : Program δ κ}

def Rows.copied : Rows := ⟨false, false⟩

def Rows.borrowed : Rows := ⟨false, true⟩

/-- `clear_static_bindings`, also what dropping the rows does. -/
def Rows.clearStaticBindings (rows : Rows) : StatementM sql ε Rows := fun self =>
  (.ok { rows with clearBindingsOnDrop := false }, if rows.clearBindingsOnDrop then self.clearBindings else self)

/-- What `next_row` and `next_text_len_zero` make of a step; an error does not end the rows. -/
def Rows.answer (rows : Rows) (read : Row → τ) : Stepped → StatementM sql ε (Except DbError (Option τ) × Rows)
  | .row row => pure (.ok (some (read row)), rows)
  | .done => do
      let rows ← Rows.clearStaticBindings { rows with done := true }
      pure (.ok none, rows)
  | .failed failure => pure (.error failure.error, rows)

def Rows.nextRow (rows : Rows) : StatementM sql ε (Except DbError (Option Row) × Rows) :=
  if rows.done then pure (.ok none, rows)
  else do
    let stepped ← sqliteStep
    rows.answer id stepped

/-- `sqlite3_column_bytes` of the first column; a row without columns has none. -/
def readStringColumnZeroLen (row : Row) : Nat := (row.head?.map Column.bytes).getD 0

/-- It does not look at whether the rows are done. -/
def Rows.nextTextLenZero (rows : Rows) : StatementM sql ε (Except DbError (Option Nat) × Rows) := do
  let stepped ← sqliteStep
  rows.answer readStringColumnZeroLen stepped

/-- What a caller does with the rows it got: it asks for rows, looks at the
answers, lets other statements change the database, and drops the rows in the
end, on its way out with a value or unwinding. -/
inductive RowProgram (δ α : Type) : Type where
  | drop (result : α)
  | unwind
  | nextRow (rest : Except DbError (Option Row) → RowProgram δ α)
  | nextTextLenZero (rest : Except DbError (Option Nat) → RowProgram δ α)
  | elsewhere (change : δ → δ) (rest : RowProgram δ α)

def RowProgram.perform : RowProgram δ α → Rows → StatementM sql ε α
  | .drop result, rows => do
      let _ ← rows.clearStaticBindings
      pure result
  | .unwind, rows => do
      let _ ← rows.clearStaticBindings
      Action.panic
  | .nextRow rest, rows => do
      let (answer, rows) ← rows.nextRow
      (rest answer).perform rows
  | .nextTextLenZero rest, rows => do
      let (answer, rows) ← rows.nextTextLenZero
      (rest answer).perform rows
  | .elsewhere change rest, rows => do
      Action.modify fun self => { self with database := change self.database }
      rest.perform rows

end Rows

/-! ## The calls -/

section Calls

variable {sql : Program δ κ}

/-- `sqlite3_errmsg` after a step that gave a row. -/
def rowAvailable : DbError := classifySqliteError sqliteRow "another row available"

/-- A statement that is executed may not give a row. -/
def expectDone : Stepped → Except DbError Unit
  | .done => .ok ()
  | .row _ => .error rowAvailable
  | .failed failure => .error failure.error

def execute (values : List Value) : StatementM sql DbError Unit := do
  resetAndBind values
  let stepped ← sqliteStep
  Action.ofExcept (expectDone stepped)

def executeNamed (values : List (String × Value)) : StatementM sql DbError Unit := do
  resetAndBindNamed values
  let stepped ← sqliteStep
  Action.ofExcept (expectDone stepped)

/-- The calls with borrowed parameters clear the bindings when binding fails and
when the statement was stepped. -/
def stepBorrowed (bind : StatementM sql DbError Unit) (finish : Stepped → Except DbError α) :
    StatementM sql DbError α := do
  Action.onError bind Statement.clearBindings
  let stepped ← sqliteStep
  Action.modify Statement.clearBindings
  Action.ofExcept (finish stepped)

def executeTextText (first second : String) : StatementM sql DbError Unit :=
  stepBorrowed (resetAndBindTwoTextBorrowed first second) expectDone

def executeI64Text (first : Int64) (second : String) : StatementM sql DbError Unit :=
  stepBorrowed (resetAndBindI64TextBorrowed first second) expectDone

def executeI64Blob (first : Int64) (second : List UInt8) : StatementM sql DbError Unit :=
  stepBorrowed (resetAndBindI64BlobBorrowed first second) expectDone

def executeI64I64Text (first second : Int64) (third : String) : StatementM sql DbError Unit :=
  stepBorrowed (resetAndBindI64I64TextBorrowed first second third) expectDone

/-- The queries hand the rows to the caller. -/
def query (values : List Value) (rows : RowProgram δ α) : StatementM sql DbError α := do
  resetAndBind values
  rows.perform Rows.copied

def queryNamed (values : List (String × Value)) (rows : RowProgram δ α) : StatementM sql DbError α := do
  resetAndBindNamed values
  rows.perform Rows.copied

/-- The loop of `query_with_bind_check`; the check is given by its answers in turn. -/
def bindCheckedFrom (check : Nat → Except QueryError Unit) : Nat → List Value → StatementM sql QueryError Unit
  | _, [] => pure ()
  | index, value :: rest => do
      Action.ofExcept (check (2 * index))
      let param ← Action.mapError QueryError.database (Action.ofExcept (parameterIndex (index + 1)))
      let bound ← Action.attempt (Action.mapError QueryError.database (value.bindTo param))
      Action.ofExcept (check (2 * index + 1))
      match bound with
      | .ok _ => bindCheckedFrom check (index + 1) rest
      | .err error => Action.fail error
      | .panic => Action.panic

def queryWithBindCheck (values : List Value) (check : Nat → Except QueryError Unit) (rows : RowProgram δ α) :
    StatementM sql QueryError α := do
  Action.mapError QueryError.database reset
  if values.length ≠ parameterCount sql then
    Action.fail (.database (.parameterCountMismatch (parameterCount sql) values.length))
  else do
    bindCheckedFrom check 0 values
    rows.perform Rows.copied

def queryI64 (value : Int64) (rows : RowProgram δ α) : StatementM sql DbError α := do
  resetAndBindSingleI64 value
  rows.perform Rows.copied

def queryTextIter (values : List String) (rows : RowProgram δ α) : StatementM sql DbError α := do
  resetAndBindTextIter values
  rows.perform Rows.borrowed

def queryTexts (values : List String) (rows : RowProgram δ α) : StatementM sql DbError α :=
  queryTextIter values rows

def queryTextIterEphemeral (values : List String) (rows : RowProgram δ α) : StatementM sql DbError α :=
  queryTextIter values rows

/-- The loop of `query_text_iter_text_len_sum`, for as many turns as it is watched. -/
def textLenSum : Nat → UInt64 → StatementM sql DbError (Option UInt64)
  | 0, _ => pure none
  | turns + 1, total => do
      match ← sqliteStep with
      | .row row => textLenSum turns (total + UInt64.ofNat (readStringColumnZeroLen row))
      | .done => do
          Action.modify Statement.clearBindings
          pure (some total)
      | .failed failure => do
          Action.modify Statement.clearBindings
          Action.fail failure.error

/-- A call that does not come to an end traps on the instruction limit, which
undoes what it did. -/
def orTrap (call : StatementM sql ε (Option α)) : StatementM sql ε α := fun self =>
  match call self with
  | (.ok (some value), next) => (.ok value, next)
  | (.ok none, _) => (.panic, self)
  | (.err error, next) => (.err error, next)
  | (.panic, next) => (.panic, next)

def queryTextIterTextLenSum (turns : Nat) (values : List String) : StatementM sql DbError UInt64 := orTrap do
  Action.onError (resetAndBindTextIter values) Statement.clearBindings
  textLenSum turns 0

/-- One row is read and mapped. -/
def readOne (empty : Except DbError τ) (f : Row → Except DbError τ) : RowProgram δ (Except DbError τ) :=
  .nextRow fun answer => .drop <|
    match answer with
    | .ok (some row) => f row
    | .ok none => empty
    | .error error => .error error

def queryOne (values : List Value) (f : Row → Except DbError τ) : StatementM sql DbError τ := do
  let result ← query values (readOne (.error .notFound) f)
  Action.ofExcept result

def queryOneNamed (values : List (String × Value)) (f : Row → Except DbError τ) : StatementM sql DbError τ := do
  let result ← queryNamed values (readOne (.error .notFound) f)
  Action.ofExcept result

def queryOptional (values : List Value) (f : Row → Except DbError τ) : StatementM sql DbError (Option τ) := do
  let result ← query values (readOne (.ok none) fun row => (f row).map some)
  Action.ofExcept result

def queryOptionalNamed (values : List (String × Value)) (f : Row → Except DbError τ) :
    StatementM sql DbError (Option τ) := do
  let result ← queryNamed values (readOne (.ok none) fun row => (f row).map some)
  Action.ofExcept result

/-- The loop of `query_all`.  The mapping may remember what it saw; a caller that
has waited for all the turns gives up. -/
def readAll (f : ς → Row → Except DbError τ × ς) : Nat → ς → List τ → RowProgram δ (Except DbError (List τ))
  | 0, _, _ => .unwind
  | turns + 1, seen, output => .nextRow fun answer =>
      match answer with
      | .ok (some row) =>
          match f seen row with
          | (.ok value, seen) => readAll f turns seen (output ++ [value])
          | (.error error, _) => .drop (.error error)
      | .ok none => .drop (.ok output)
      | .error error => .drop (.error error)

def queryAll (turns : Nat) (values : List Value) (f : ς → Row → Except DbError τ × ς) (seen : ς) :
    StatementM sql DbError (List τ) := do
  let result ← query values (readAll f turns seen [])
  Action.ofExcept result

def queryAllNamed (turns : Nat) (values : List (String × Value)) (f : ς → Row → Except DbError τ × ς) (seen : ς) :
    StatementM sql DbError (List τ) := do
  let result ← queryNamed values (readAll f turns seen [])
  Action.ofExcept result

/-- `Row::get`, for the type that `read` reads. -/
def Row.get (read : Row → Nat → Except DbError τ) (row : Row) (index : Nat) : Except DbError τ :=
  if index < row.length then read row index else .error (.columnOutOfRange index row.length)

def queryScalar (read : Row → Nat → Except DbError τ) (values : List Value) : StatementM sql DbError τ :=
  queryOne values fun row => Row.get read row 0

def queryScalarNamed (read : Row → Nat → Except DbError τ) (values : List (String × Value)) :
    StatementM sql DbError τ :=
  queryOneNamed values fun row => Row.get read row 0

def queryOptionalScalar (read : Row → Nat → Except DbError τ) (values : List Value) :
    StatementM sql DbError (Option τ) :=
  queryOptional values fun row => Row.get read row 0

def queryOptionalScalarNamed (read : Row → Nat → Except DbError τ) (values : List (String × Value)) :
    StatementM sql DbError (Option τ) :=
  queryOptionalNamed values fun row => Row.get read row 0

def queryColumn (turns : Nat) (read : Row → Nat → Except DbError τ) (values : List Value) :
    StatementM sql DbError (List τ) :=
  queryAll turns values (fun _ row => (Row.get read row 0, ())) ()

def queryColumnNamed (turns : Nat) (read : Row → Nat → Except DbError τ) (values : List (String × Value)) :
    StatementM sql DbError (List τ) :=
  queryAllNamed turns values (fun _ row => (Row.get read row 0, ())) ()

def Value.typeName : Value → String
  | .integer _ => "INTEGER"
  | .real _ => "REAL"
  | .text _ => "TEXT"
  | .blob _ => "BLOB"
  | .null => "NULL"

/-- A text that is not UTF-8 is read as what replaces its bad bytes. -/
def readStringColumnZero (row : Row) : Except DbError String :=
  match (row.head?.map Column.value).getD .null with
  | .text value => .ok value
  | other => .error (.typeMismatch 0 "TEXT" other.typeName)

/-- At most one row is looked at. -/
def optionalRow (read : Row → Except DbError τ) : Stepped → Except DbError (Option τ)
  | .row row => (read row).map some
  | .done => .ok none
  | .failed failure => .error failure.error

def queryOptionalStringText (value : String) : StatementM sql DbError (Option String) :=
  stepBorrowed (resetAndBindSingleTextBorrowed value) (optionalRow readStringColumnZero)

def queryOptionalStringTextLen (value : String) : StatementM sql DbError (Option Nat) :=
  stepBorrowed (resetAndBindSingleTextBorrowed value) (optionalRow fun row => .ok (readStringColumnZeroLen row))

/-- A call on a statement, by the type of what it returns. -/
inductive StatementCall (δ : Type) : Type → Type 1 where
  | execute (values : List Value) : StatementCall δ Unit
  | executeNamed (values : List (String × Value)) : StatementCall δ Unit
  | executeTextText (first second : String) : StatementCall δ Unit
  | executeI64Text (first : Int64) (second : String) : StatementCall δ Unit
  | executeI64Blob (first : Int64) (second : List UInt8) : StatementCall δ Unit
  | executeI64I64Text (first second : Int64) (third : String) : StatementCall δ Unit
  | query {α : Type} (values : List Value) (rows : RowProgram δ α) : StatementCall δ α
  | queryNamed {α : Type} (values : List (String × Value)) (rows : RowProgram δ α) : StatementCall δ α
  | queryWithBindCheck {α : Type} (values : List Value) (check : Nat → Except QueryError Unit)
      (rows : RowProgram δ α) : StatementCall δ α
  | queryI64 {α : Type} (value : Int64) (rows : RowProgram δ α) : StatementCall δ α
  | queryTexts {α : Type} (values : List String) (rows : RowProgram δ α) : StatementCall δ α
  | queryTextIter {α : Type} (values : List String) (rows : RowProgram δ α) : StatementCall δ α
  | queryTextIterEphemeral {α : Type} (values : List String) (rows : RowProgram δ α) : StatementCall δ α
  | queryTextIterTextLenSum (turns : Nat) (values : List String) : StatementCall δ UInt64
  | queryOne {τ : Type} (values : List Value) (f : Row → Except DbError τ) : StatementCall δ τ
  | queryOneNamed {τ : Type} (values : List (String × Value)) (f : Row → Except DbError τ) : StatementCall δ τ
  | queryOptional {τ : Type} (values : List Value) (f : Row → Except DbError τ) : StatementCall δ (Option τ)
  | queryOptionalNamed {τ : Type} (values : List (String × Value)) (f : Row → Except DbError τ) :
      StatementCall δ (Option τ)
  | queryAll {τ ς : Type} (turns : Nat) (values : List Value) (f : ς → Row → Except DbError τ × ς) (seen : ς) :
      StatementCall δ (List τ)
  | queryAllNamed {τ ς : Type} (turns : Nat) (values : List (String × Value))
      (f : ς → Row → Except DbError τ × ς) (seen : ς) : StatementCall δ (List τ)
  | queryScalar {τ : Type} (read : Row → Nat → Except DbError τ) (values : List Value) : StatementCall δ τ
  | queryScalarNamed {τ : Type} (read : Row → Nat → Except DbError τ) (values : List (String × Value)) :
      StatementCall δ τ
  | queryOptionalScalar {τ : Type} (read : Row → Nat → Except DbError τ) (values : List Value) :
      StatementCall δ (Option τ)
  | queryOptionalScalarNamed {τ : Type} (read : Row → Nat → Except DbError τ) (values : List (String × Value)) :
      StatementCall δ (Option τ)
  | queryColumn {τ : Type} (turns : Nat) (read : Row → Nat → Except DbError τ) (values : List Value) :
      StatementCall δ (List τ)
  | queryColumnNamed {τ : Type} (turns : Nat) (read : Row → Nat → Except DbError τ)
      (values : List (String × Value)) : StatementCall δ (List τ)
  | queryOptionalStringText (value : String) : StatementCall δ (Option String)
  | queryOptionalStringTextLen (value : String) : StatementCall δ (Option Nat)

/-- Only the checked query has errors of its own. -/
def ofDb : StatementM sql DbError α → StatementM sql QueryError α := Action.mapError QueryError.database

def StatementCall.perform {α : Type} : StatementCall δ α → StatementM sql QueryError α
  | .execute values => ofDb (Db.execute values)
  | .executeNamed values => ofDb (Db.executeNamed values)
  | .executeTextText first second => ofDb (Db.executeTextText first second)
  | .executeI64Text first second => ofDb (Db.executeI64Text first second)
  | .executeI64Blob first second => ofDb (Db.executeI64Blob first second)
  | .executeI64I64Text first second third => ofDb (Db.executeI64I64Text first second third)
  | .query values rows => ofDb (Db.query values rows)
  | .queryNamed values rows => ofDb (Db.queryNamed values rows)
  | .queryWithBindCheck values check rows => Db.queryWithBindCheck values check rows
  | .queryI64 value rows => ofDb (Db.queryI64 value rows)
  | .queryTexts values rows => ofDb (Db.queryTexts values rows)
  | .queryTextIter values rows => ofDb (Db.queryTextIter values rows)
  | .queryTextIterEphemeral values rows => ofDb (Db.queryTextIterEphemeral values rows)
  | .queryTextIterTextLenSum turns values => ofDb (Db.queryTextIterTextLenSum turns values)
  | .queryOne values f => ofDb (Db.queryOne values f)
  | .queryOneNamed values f => ofDb (Db.queryOneNamed values f)
  | .queryOptional values f => ofDb (Db.queryOptional values f)
  | .queryOptionalNamed values f => ofDb (Db.queryOptionalNamed values f)
  | .queryAll turns values f seen => ofDb (Db.queryAll turns values f seen)
  | .queryAllNamed turns values f seen => ofDb (Db.queryAllNamed turns values f seen)
  | .queryScalar read values => ofDb (Db.queryScalar read values)
  | .queryScalarNamed read values => ofDb (Db.queryScalarNamed read values)
  | .queryOptionalScalar read values => ofDb (Db.queryOptionalScalar read values)
  | .queryOptionalScalarNamed read values => ofDb (Db.queryOptionalScalarNamed read values)
  | .queryColumn turns read values => ofDb (Db.queryColumn turns read values)
  | .queryColumnNamed turns read values => ofDb (Db.queryColumnNamed turns read values)
  | .queryOptionalStringText value => ofDb (Db.queryOptionalStringText value)
  | .queryOptionalStringTextLen value => ofDb (Db.queryOptionalStringTextLen value)

/-- What happens to a statement: it is called; other statements change the
database; or its guard is dropped, which returns it to the cache, from where it
is handed out again. -/
inductive StatementEvent (δ : Type) : Type 1 where
  | call {α : Type} (made : StatementCall δ α)
  | elsewhere (change : δ → δ)
  | returned

/-- `CachedStatement::drop`, which does not look at what the reset reports. -/
def Statement.returned (self : Statement sql) : Statement sql :=
  Statement.clearBindings { self with phase := .ready }

def StatementEvent.perform : StatementEvent δ → Statement sql → Statement sql
  | .call made, self => (made.perform self).2
  | .elsewhere change, self => { self with database := change self.database }
  | .returned, self => self.returned

end Calls

end IcSqliteVfs.Db
