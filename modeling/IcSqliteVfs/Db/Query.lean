import IcSqliteVfs.Db.Statement

namespace IcSqliteVfs.Db

open IcSqliteVfs.Semantics

/-! # Measured queries

One statement is run under limits for instructions, rows and bytes.  SQLite and
the host are given by what they answer during the query; the program's part is
when it looks at which limit, and what it leaves on the connection.
-/

/-! ## The budget -/

structure QueryBudget where
  maxInstructions : Option UInt64
  maxRows : UInt64
  maxResultBytes : UInt64
  progressInterval : UInt32
  maxSqlBytes : Option UInt32
  maxValueBytes : Option UInt32
deriving DecidableEq, Repr

def QueryBudget.default : QueryBudget where
  maxInstructions := none
  maxRows := 10000
  maxResultBytes := 1048576
  progressInterval := 1000
  maxSqlBytes := some 1048576
  maxValueBytes := some 1048576

def QueryBudget.unlimited : QueryBudget :=
  { QueryBudget.default with
    maxRows := 18446744073709551615
    maxResultBytes := 18446744073709551615
    maxSqlBytes := none
    maxValueBytes := none }

/-- `1..=i32::MAX`. -/
def fitsCInt (limit : UInt32) : Bool := limit ≠ 0 ∧ limit ≤ 2147483647

/-- Whether the instruction counter can be read is a matter of the build. -/
def QueryBudget.validate (budget : QueryBudget) (counting : Bool) : Except QueryError Unit :=
  if ¬ fitsCInt budget.progressInterval then
    .error (.invalidQueryBudget "progress_interval must be 1..=i32::MAX")
  else if ¬ ([budget.maxSqlBytes, budget.maxValueBytes].reduceOption.all fitsCInt) then
    .error (.invalidQueryBudget "SQL/value limits must be 1..=i32::MAX")
  else if budget.maxInstructions.isSome ∧ ¬ counting then .error .instructionCounterUnavailable
  else .ok ()

/-! ## The connection -/

/-- A limit of a connection: `sqlite3_limit` keeps it within bounds. -/
structure SqliteLimit (lower upper : Int) where
  value : Int
  atLeast : lower ≤ value
  atMost : value ≤ upper
deriving DecidableEq, Repr

/-- `sqlite3_limit`: a negative value changes nothing. -/
def SqliteLimit.set {lower upper : Int} (self : SqliteLimit lower upper) (value : Int) : SqliteLimit lower upper :=
  if value < 0 then self
  else
    ⟨max lower (min value upper), Int.le_max_left _ _,
      Int.max_le.mpr ⟨Int.le_trans self.atLeast self.atMost, Int.min_le_right _ _⟩⟩

theorem SqliteLimit.set_value {lower upper : Int} (nonnegative : 0 ≤ lower) (self other : SqliteLimit lower upper) :
    self.set other.value = other := by
  have positive : ¬ other.value < 0 := Int.not_lt.mpr (Int.le_trans nonnegative other.atLeast)
  have fits : max lower (min other.value upper) = other.value := by
    rw [Int.min_eq_left other.atMost, Int.max_eq_right other.atLeast]
  rw [SqliteLimit.set, if_neg positive]
  rcases other with ⟨value, atLeast, atMost⟩
  simp only [SqliteLimit.mk.injEq]
  exact fits

/-- `SQLITE_LIMIT_SQL_LENGTH` and `SQLITE_LIMIT_LENGTH`. -/
abbrev SqlLengthLimit : Type := SqliteLimit 0 1000000000

abbrev ValueLengthLimit : Type := SqliteLimit 30 1000000000

/-- What a query changes of its connection: a progress handler is given by the
number of steps between its calls. -/
@[ext]
structure QueryConnection where
  queryObserverActive : Bool
  sqlLimit : SqlLengthLimit
  valueLimit : ValueLengthLimit
  progressHandler : Option UInt32
deriving DecidableEq, Repr

/-- Nothing but an observer installs a progress handler. -/
def QueryConnection.Observed (self : QueryConnection) : Prop :=
  self.queryObserverActive = false → self.progressHandler = none

/-- The lower one of the limit and a limit of the budget. -/
def lowered {lower upper : Int} (limit : SqliteLimit lower upper) (bytes : Option UInt32) : SqliteLimit lower upper :=
  match bytes with
  | some bytes => limit.set (min limit.value (Int.ofNat bytes.toNat))
  | none => limit

/-- What `ObserverGuard::enter` does to a connection without an observer. -/
def QueryConnection.enter (self : QueryConnection) (budget : QueryBudget) : QueryConnection where
  queryObserverActive := true
  sqlLimit := lowered self.sqlLimit budget.maxSqlBytes
  valueLimit := lowered self.valueLimit budget.maxValueBytes
  progressHandler := if budget.maxInstructions.isSome then some budget.progressInterval else self.progressHandler

/-- What an observer has to put back. -/
structure ObserverGuard where
  sqlLimit : SqlLengthLimit
  valueLimit : ValueLengthLimit
  progressInstalled : Bool

def QueryConnection.guard (self : QueryConnection) (budget : QueryBudget) : ObserverGuard :=
  ⟨self.sqlLimit, self.valueLimit, budget.maxInstructions.isSome⟩

def ObserverGuard.drop (guard : ObserverGuard) (connection : QueryConnection) : QueryConnection where
  queryObserverActive := false
  sqlLimit := connection.sqlLimit.set guard.sqlLimit.value
  valueLimit := connection.valueLimit.set guard.valueLimit.value
  progressHandler := if guard.progressInstalled then none else connection.progressHandler

/-- The guard undoes what it did. -/
theorem drop_enter {connection : QueryConnection} (observed : connection.Observed)
    (idle : connection.queryObserverActive = false) (budget : QueryBudget) :
    (connection.guard budget).drop (connection.enter budget) = connection := by
  ext
  · exact idle.symm
  · exact SqliteLimit.set_value (by decide) _ _
  · exact SqliteLimit.set_value (by decide) _ _
  · rw [ObserverGuard.drop, QueryConnection.guard, QueryConnection.enter, observed idle]
    cases budget.maxInstructions with
    | none => rfl
    | some limit => rfl

namespace Query

/-! ## The call -/

structure QueryMetrics where
  instructions : Option UInt64
  prepareInstructions : Option UInt64
  bindInstructions : Option UInt64
  executeInstructions : Option UInt64
  resultRows : UInt64
  resultBytes : UInt64
deriving DecidableEq, Repr

def QueryMetrics.default : QueryMetrics := ⟨none, none, none, none, 0, 0⟩

structure QueryReport (τ : Type) where
  result : Except QueryError (List τ)
  metrics : QueryMetrics

def QueryReport.failed {τ : Type} (error : QueryError) : QueryReport τ := ⟨.error error, .default⟩

/-- What the host and SQLite answer in one query: the instruction counter, if there
is one, by the number of the reading; the errors of opening the connection, of
preparing, of binding each value; how often the progress handler is called in the
meantime; and the rows, with the error behind them, if there is one. -/
structure QueryHost where
  counter : Option (Nat → UInt64)
  opened : Option DbError
  prepared : Option DbError
  preparing : Nat
  readOnly : Bool
  bindRefused : Option DbError
  bindings : List (Option DbError)
  rows : List Row
  stepping : Nat → Nat
  ending : Option DbError

/-- What the query reads and changes: the connection, how often the counter was
read, the flag of the `BudgetState`, the metrics, and the state of the mapper. -/
structure QueryCall (μ : Type) where
  connection : QueryConnection
  readings : Nat
  exceeded : Bool
  metrics : QueryMetrics
  mapper : μ

abbrev QueryM (μ : Type) : Type → Type := Action (QueryCall μ) QueryError

/-- The fixed part of a `BudgetState`. -/
structure BudgetLimit where
  start : Option UInt64
  limit : Option UInt64

def saturatingSub (left right : UInt64) : UInt64 := if right ≤ left then left - right else 0

def saturatingAdd (left right : UInt64) : UInt64 := UInt64.ofNat (min (left.toNat + right.toNat) (2 ^ 64 - 1))

variable {μ τ α : Type}

/-- A `Result` that is looked at later; a panic is not one. -/
def result (phase : QueryM μ α) : QueryM μ (Except QueryError α) := fun call =>
  match phase call with
  | (.ok value, next) => (.ok (.ok value), next)
  | (.err error, next) => (.ok (.error error), next)
  | (.panic, next) => (.panic, next)

section Counter

variable (host : QueryHost)

def instructionCounter : QueryM μ (Option UInt64) := fun call =>
  match host.counter with
  | some counter => (.ok (some (counter call.readings)), { call with readings := call.readings + 1 })
  | none => (.ok none, call)

def delta (start : Option UInt64) : QueryM μ (Option UInt64) := do
  let current ← instructionCounter host
  match start, current with
  | some start, some current => pure (some (saturatingSub current start))
  | _, _ => pure none

/-- The instructions since the start are more than the limit. -/
def BudgetLimit.isOver (self : BudgetLimit) (current : Option UInt64) : Bool :=
  match self.start, current, self.limit with
  | some start, some current, some limit => limit < saturatingSub current start
  | _, _, _ => false

def BudgetLimit.checkAt (self : BudgetLimit) (current : Option UInt64) : QueryM μ Unit := fun call =>
  let exceeded := call.exceeded || self.isOver current
  (if exceeded then .err (.budgetExceeded .instructions) else .ok (), { call with exceeded })

def BudgetLimit.check (self : BudgetLimit) : QueryM μ Unit :=
  match self.limit with
  | none => pure ()
  | some _ => do
      let current ← instructionCounter host
      self.checkAt current

/-- The calls of the progress handler until one of them interrupts SQLite. -/
def BudgetLimit.progress (self : BudgetLimit) : Nat → QueryM μ Bool
  | 0 => pure false
  | times + 1 => do
      match ← result (self.check host) with
      | .ok _ => self.progress times
      | .error _ => pure true

def interrupted : DbError := .sqlite 9 "interrupted"

/-- A call into SQLite with the error that it ends with, unless the progress
handler interrupts it. -/
def BudgetLimit.watched (self : BudgetLimit) (times : Nat) (error : Option DbError) : QueryM μ (Option DbError) := do
  if ← self.progress host (if self.limit.isSome then times else 0) then pure (some interrupted) else pure error

end Counter

/-- `error?` of a result that is kept until after a check. -/
def raise : Option DbError → QueryM μ Unit
  | some error => Action.fail (.database error)
  | none => pure ()

def columnPayload (column : Column) : UInt64 :=
  match column.value with
  | .integer _ => 8
  | .real _ => 8
  | .text _ => UInt64.ofNat (min column.bytes maxCInt)
  | .blob _ => UInt64.ofNat (min column.bytes maxCInt)
  | .null => 0

def payloadBytes (row : Row) : UInt64 := row.foldl (fun total column => saturatingAdd total (columnPayload column)) 0

/-- The row and byte limits; a row within them is counted. -/
def admitRow (budget : QueryBudget) (row : Row) : QueryM μ Unit := fun call =>
  if budget.maxRows ≤ call.metrics.resultRows then (.err (.budgetExceeded .rows), call)
  else if saturatingSub budget.maxResultBytes call.metrics.resultBytes < payloadBytes row then
    (.err (.budgetExceeded .resultBytes), call)
  else
    (.ok (), { call with metrics := { call.metrics with
      resultRows := call.metrics.resultRows + 1
      resultBytes := call.metrics.resultBytes + payloadBytes row } })

/-- The mapper may keep a state of its own, fail, or panic. -/
def callMapper (map : Row → Action μ DbError τ) (row : Row) : QueryM μ (Except DbError τ) := fun call =>
  match map row call.mapper with
  | (.ok value, mapper) => (.ok (.ok value), { call with mapper })
  | (.err error, mapper) => (.ok (.error error), { call with mapper })
  | (.panic, mapper) => (.panic, { call with mapper })

section Run

variable (host : QueryHost) (budget : QueryBudget) (map : Row → Action μ DbError τ)

/-- A step between two checks, looked at after the second one. -/
def step (state : BudgetLimit) (times : Nat) (error : Option DbError) : QueryM μ Unit := do
  state.check host
  let stepped ← state.watched host times error
  state.check host
  raise stepped

/-- The loop over the rows that are left. -/
def scan (state : BudgetLimit) : List Row → List τ → QueryM μ (List τ)
  | [], output => do
      step host state (host.stepping 0) host.ending
      pure output
  | row :: rest, output => do
      step host state (host.stepping (rest.length + 1)) none
      admitRow budget row
      let mapped ← callMapper map row
      state.check host
      match mapped with
      | .ok value => scan state rest (output ++ [value])
      | .error error => Action.fail (.database error)

/-- The loop of `query_with_bind_check`. -/
def bindChecked (state : BudgetLimit) : List (Option DbError) → QueryM μ Unit
  | [] => pure ()
  | bound :: rest => do
      state.check host
      state.check host
      raise bound
      bindChecked state rest

def bindValues (state : BudgetLimit) : QueryM μ Unit := do
  raise host.bindRefused
  if budget.maxInstructions.isSome then bindChecked host state host.bindings
  else raise (host.bindings.findSome? id)

/-- A phase of the query, with the instructions it took. -/
def timed (phase : QueryM μ α) (record : Option UInt64 → QueryMetrics → QueryMetrics) :
    QueryM μ (Except QueryError α) := do
  let start ← instructionCounter host
  let ended ← result phase
  let spent ← delta host start
  Action.modify fun call => { call with metrics := record spent call.metrics }
  pure ended

/-- A phase whose error is looked at after a check. -/
def checkedPhase (state : BudgetLimit) (phase : QueryM μ Unit) (record : Option UInt64 → QueryMetrics → QueryMetrics) :
    QueryM μ Unit := do
  let ended ← timed host phase record
  state.check host
  Action.ofExcept ended

def prepareSql (state : BudgetLimit) : QueryM μ Unit := do
  raise (← state.watched host host.preparing host.prepared)

/-- What is done while the observer is active. -/
def observed (state : BudgetLimit) (sql : String) : QueryM μ (List τ) :=
  if budget.maxSqlBytes.any (fun limit => limit.toNat < sql.utf8ByteSize) then Action.fail .sqlTooLong
  else do
    checkedPhase host state (prepareSql host state) fun spent metrics => { metrics with prepareInstructions := spent }
    if ¬ host.readOnly then Action.fail .queryNotReadOnly
    else do
      checkedPhase host state (bindValues host budget state)
        fun spent metrics => { metrics with bindInstructions := spent }
      let scanned ← timed host (scan host budget map state host.rows [])
        fun spent metrics => { metrics with executeInstructions := spent }
      Action.ofExcept scanned

/-- The observer is entered, and dropped however the query ends. -/
def withObserver (body : QueryM μ α) : QueryM μ α := fun call =>
  if call.connection.queryObserverActive then (.err .queryObserverActive, call)
  else
    Action.finally_ body
      (fun ended => { ended with connection := (call.connection.guard budget).drop ended.connection })
      { call with connection := call.connection.enter budget }

/-- The closure of the query, on the connection that was opened for it. -/
def measured (state : BudgetLimit) (sql : String) : QueryM μ (List τ) := do
  raise host.opened
  state.check host
  withObserver budget (observed host budget map state sql)

/-- The last check, which also covers the cleanup. -/
def conclude (state : BudgetLimit) (ended : Except QueryError (List τ)) : QueryM μ (QueryReport τ) := do
  let checked ← result (state.check host)
  let call ← Action.read
  pure ⟨checked.bind fun _ => ended, call.metrics⟩

/-- The query after its budget was found valid. -/
def runValid (sql : String) : QueryM μ (QueryReport τ) := do
  let start ← instructionCounter host
  Action.modify fun call => { call with exceeded := false, metrics := .default }
  let ended ← result (measured host budget map ⟨start, budget.maxInstructions⟩ sql)
  let spent ← delta host start
  Action.modify fun call => { call with metrics := { call.metrics with instructions := spent } }
  conclude host ⟨start, budget.maxInstructions⟩ ended

def run (sql : String) : QueryM μ (QueryReport τ) :=
  match budget.validate host.counter.isSome with
  | .error error => pure (.failed error)
  | .ok _ => runValid host budget map sql

end Run

end Query

end IcSqliteVfs.Db
