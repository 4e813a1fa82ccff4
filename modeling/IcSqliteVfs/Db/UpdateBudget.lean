import IcSqliteVfs.Db.BudgetedFile
import IcSqliteVfs.Db.Query

namespace IcSqliteVfs.Db

open IcSqliteVfs.Semantics IcSqliteVfs.Stable IcSqliteVfs.SqliteVfs

/-! # Budgeted updates

One SQL write is run in a transaction of its own, under limits for instructions
and for the pages it makes dirty.  SQLite, the host and the values that are bound
are given by what they answer during the update; the program's part is the order
of the checks, the guards and the publication.
-/

/-! ## The budget -/

inductive UpdateBudgetKind where
  | instructions
  | dirtyPages
  | changedBytes
deriving DecidableEq, Repr

inductive UpdateError where
  | database (error : DbError)
  | budgetExceeded (kind : UpdateBudgetKind)
  | invalidBudget (reason : String)
  | instructionCounterUnavailable
  | unsupportedStatement
  | query (error : QueryError)
deriving DecidableEq, Repr

structure UpdateBudget where
  maxInstructions : Option UInt64
  commitReserveInstructions : UInt64
  maxDirtyPages : UInt64
  maxChangedBytes : UInt64
  progressInterval : UInt32
  maxSqlBytes : Option UInt32
  maxValueBytes : Option UInt32
deriving DecidableEq, Repr

def UpdateBudget.default : UpdateBudget where
  maxInstructions := none
  commitReserveInstructions := 10000000
  maxDirtyPages := 64
  maxChangedBytes := 1048576
  progressInterval := 1000
  maxSqlBytes := some 1048576
  maxValueBytes := some 1048576

/-- What is left of the instructions for the time before the publication. -/
def UpdateBudget.executionLimit (self : UpdateBudget) : Except UpdateError (Option UInt64) :=
  match self.maxInstructions with
  | some limit =>
      if self.commitReserveInstructions = 0 ∨ limit ≤ self.commitReserveInstructions then
        .error (.invalidBudget "commit reserve must be positive and smaller than max_instructions")
      else .ok (some (limit - self.commitReserveInstructions))
  | none => .ok none

def UpdateBudget.queryBudget (self : UpdateBudget) (executionLimit : Option UInt64) : QueryBudget :=
  { QueryBudget.default with
    maxInstructions := executionLimit
    maxSqlBytes := self.maxSqlBytes
    maxValueBytes := self.maxValueBytes
    progressInterval := self.progressInterval }

def classify : QueryError → UpdateError
  | .budgetExceeded _ => .budgetExceeded .instructions
  | .instructionCounterUnavailable => .instructionCounterUnavailable
  | .invalidQueryBudget reason => .invalidBudget reason
  | .database error => .database error
  | error => .query error

structure UpdateMetrics where
  instructions : Option UInt64
  prepareInstructions : Option UInt64
  bindInstructions : Option UInt64
  executeInstructions : Option UInt64
  commitInstructions : Option UInt64
  peakDirtyPages : Nat
  overlayPeakBytes : Nat
  committedBytes : Nat
  committedOverSoftLimit : Bool
deriving DecidableEq, Repr

def UpdateMetrics.default : UpdateMetrics := ⟨none, none, none, none, none, 0, 0, 0, false⟩

structure UpdateReport where
  result : Except UpdateError UInt64
  metrics : UpdateMetrics

def UpdateReport.failed (error : UpdateError) : UpdateReport := ⟨.error error, .default⟩

/-! ## The authorizer -/

inductive AuthorizerAction where
  | createIndex | createTable | createTrigger | createView | createVtable
  | dropIndex | dropTable | dropTrigger | dropView | dropVtable
  | alterTable | reindex | analyze
  | transaction | savepoint | pragma | attach | detach
  | createTempTable | createTempIndex | createTempTrigger | createTempView
  | dropTempTable | dropTempIndex | dropTempTrigger | dropTempView
  | other
deriving DecidableEq, Repr

/-- What SQLite asks the authorizer, with the texts it passes. -/
structure Authorization where
  action : AuthorizerAction
  first : Option String
  second : Option String
  database : Option String
deriving DecidableEq, Repr

namespace Authorization

def changesSchema (self : Authorization) : Bool :=
  self.action ∈ [.createIndex, .createTable, .createTrigger, .createView, .createVtable,
    .dropIndex, .dropTable, .dropTrigger, .dropView, .dropVtable, .alterTable, .reindex, .analyze]

def temporary (self : Authorization) : Bool := self.database = some "temp"

/-- FTS5 reads this one when it starts to write. -/
def readsDataVersion (self : Authorization) : Bool :=
  self.action = .pragma ∧ self.temporary = false ∧ self.second = none ∧ self.first = some "data_version"

def forbidden (self : Authorization) : Bool :=
  self.action ∈ [.transaction, .savepoint, .pragma, .attach, .detach,
    .createTempTable, .createTempIndex, .createTempTrigger, .createTempView,
    .dropTempTable, .dropTempIndex, .dropTempTrigger, .dropTempView]

/-- Whether the authorizer answers `SQLITE_DENY`. -/
def denied (self : Authorization) : Bool :=
  if self.readsDataVersion then false else self.temporary || self.forbidden

end Authorization

/-- A statement that asks for a denied action fails. -/
def notAuthorized : DbError := .sqlite 23 "not authorized"

/-! ## SQLite in one update -/

/-- A call into SQLite on the write connection: what it does to the main file and
to the transaction, how often the progress handler is called and what the
authorizer is asked in the meantime, and the error it ends with. -/
structure SqliteCall (δ : Type) where
  fileCalls : List OverlayCall
  effect : Option δ → Option δ
  progress : Nat
  authorizations : List Authorization
  error : Option DbError

def SqliteCall.answer {δ : Type} (self : SqliteCall δ) (authorizer : Bool) : Option DbError :=
  if authorizer ∧ self.authorizations.any Authorization.denied then some notAuthorized else self.error

/-- What the host, SQLite and the bound values answer in one update.  The steps
that return a row are followed by the one that does not. -/
structure UpdateHost (δ : Type) where
  counter : Option (Nat → UInt64)
  opened : Option DbError
  opening : List OverlayCall
  sqlLimit : SqlLengthLimit
  valueLimit : ValueLengthLimit
  begun : Option DbError
  authorized : Option DbError
  prepared : SqliteCall δ
  readOnly : Bool
  bindRefused : Option DbError
  bindings : List (Outcome DbError Unit)
  rows : List (SqliteCall δ)
  ending : SqliteCall δ
  changes : UInt64
  committed : SqliteCall δ
  rollingBack : List OverlayCall

/-- What the transaction of `DbHandle::update` also asks of SQLite. -/
def UpdateHost.run {δ : Type} (self : UpdateHost δ) : SqliteRun := ⟨self.opened, self.begun, [], none⟩

/-- The instruction counter of this host. -/
def UpdateHost.query {δ : Type} (self : UpdateHost δ) : Query.QueryHost where
  counter := self.counter
  opened := none
  prepared := none
  preparing := 0
  readOnly := self.readOnly
  bindRefused := none
  bindings := []
  rows := []
  stepping := fun _ => 0
  ending := none

/-- The settings of a connection that was just opened. -/
def UpdateHost.fresh {δ : Type} (self : UpdateHost δ) : QueryConnection := ⟨false, self.sqlLimit, self.valueLimit, none⟩

/-- What the update reads and changes: the handle, the settings of its write
connection and whether an authorizer is installed there; the variables of `run`.
The last two fields are read by nothing: what was seen of the dirty pages, and
what `commit_update` answered, if it was called. -/
structure UpdateCall (δ ω : Type) where
  handle : HandleState δ ω
  settings : QueryConnection
  authorizer : Bool
  readings : Nat
  exceeded : Bool
  schemaChange : Bool
  published : Bool
  metrics : UpdateMetrics
  seen : List BudgetEvent
  commitAnswer : Option (Outcome StableMemoryError Unit)

abbrev BudgetedM (δ ω : Type) : Type → Type := Action (UpdateCall δ ω) UpdateError

section Call

variable {δ ω α : Type}

namespace UpdateCall

/-- The part of the update that the instruction budget is about. -/
def query (self : UpdateCall δ ω) : Query.QueryCall Unit := ⟨self.settings, self.readings, self.exceeded, .default, ()⟩

def withQuery (query : Query.QueryCall Unit) (self : UpdateCall δ ω) : UpdateCall δ ω :=
  { self with settings := query.connection, readings := query.readings, exceeded := query.exceeded }

def withHandle (handle : HandleState δ ω) (self : UpdateCall δ ω) : UpdateCall δ ω := { self with handle }

/-- Calls on the main file, and what they ask of the overlay. -/
def onFile (calls : List OverlayCall) (self : UpdateCall δ ω) : UpdateCall δ ω :=
  { self with
    handle := { self.handle with context := fileCallsOn calls self.handle.context }
    seen := fileSeenOn calls self.handle.context self.seen }

def onTransaction (effect : Option δ → Option δ) (self : UpdateCall δ ω) : UpdateCall δ ω :=
  { self with handle := { self.handle with
    writeConnection := self.handle.writeConnection.map fun connection => ⟨effect connection.transaction⟩ } }

/-- The authorizer notes a change of the schema. -/
def authorizing (authorizations : List Authorization) (self : UpdateCall δ ω) : UpdateCall δ ω :=
  { self with schemaChange :=
      self.schemaChange || (self.authorizer && authorizations.any Authorization.changesSchema) }

def performed (sqlite : SqliteCall δ) (self : UpdateCall δ ω) : UpdateCall δ ω :=
  ((self.onFile sqlite.fileCalls).onTransaction sqlite.effect).authorizing sqlite.authorizations

/-- A ROLLBACK outside of a transaction does nothing. -/
def rolledBack (host : UpdateHost δ) (self : UpdateCall δ ω) : UpdateCall δ ω :=
  match self.handle.writeConnection.bind Connection.transaction with
  | some _ => (self.onFile host.rollingBack).onTransaction fun _ => none
  | none => self

/-- The end of a `WriteConnectionGuard`. -/
def dropConnectionGuard (host : UpdateHost δ) (self : UpdateCall δ ω) : UpdateCall δ ω :=
  let cleared := self.withHandle self.handle.clearReadConnection
  if self.published then cleared
  else (cleared.rolledBack host).withHandle (cleared.rolledBack host).handle.clearWriteConnection

def dropOverlay (self : UpdateCall δ ω) : UpdateCall δ ω := self.withHandle self.handle.dropOverlay

/-- The variables of `run` as they are at its start. -/
def started (self : UpdateCall δ ω) : UpdateCall δ ω :=
  { self with
    exceeded := false
    schemaChange := false
    published := false
    metrics := .default
    seen := [.resident 0]
    commitAnswer := none }

end UpdateCall

namespace Update

def onHandle (call : HandleM δ ω α) : BudgetedM δ ω α :=
  Action.zoom UpdateCall.handle UpdateCall.withHandle (Action.mapError .database call)

def onQuery (phase : Query.QueryM Unit α) : BudgetedM δ ω α :=
  Action.zoom UpdateCall.query UpdateCall.withQuery (Action.mapError classify phase)

/-- `error?`. -/
def raise : Option DbError → BudgetedM δ ω Unit
  | some error => Action.fail (.database error)
  | none => pure ()

/-- `result?`. -/
def settled : Outcome UpdateError α → BudgetedM δ ω α
  | .ok value => pure value
  | .err error => Action.fail error
  | .panic => Action.panic

def exceededKind (bytes : Bool) : UpdateBudgetKind := if bytes then .changedBytes else .dirtyPages

def record (change : UpdateMetrics → UpdateMetrics) : BudgetedM δ ω Unit :=
  Action.modify fun call => { call with metrics := change call.metrics }

section Run

variable (host : UpdateHost δ) (budget : UpdateBudget) (state : Query.BudgetLimit) (sql : String)

def check : BudgetedM δ ω Unit := onQuery (state.check host.query)

def instructionCounter : BudgetedM δ ω (Option UInt64) := onQuery (Query.instructionCounter host.query)

def delta (start : Option UInt64) : BudgetedM δ ω (Option UInt64) := onQuery (Query.delta host.query start)

/-- A phase with the instructions it took; its error is looked at later. -/
def timed (phase : BudgetedM δ ω α) (change : Option UInt64 → UpdateMetrics → UpdateMetrics) :
    BudgetedM δ ω (Outcome UpdateError α) := do
  let before ← instructionCounter host
  let ended ← Action.attempt phase
  let spent ← delta host before
  record (change spent)
  pure ended

/-- A call into SQLite while the observer is active. -/
def sqliteCall (sqlite : SqliteCall δ) : BudgetedM δ ω (Option DbError) := do
  Action.modify (UpdateCall.performed sqlite)
  let call ← Action.read
  onQuery (state.watched host.query sqlite.progress (sqlite.answer call.authorizer))

def prepareSql : BudgetedM δ ω Unit := do
  raise (← sqliteCall host state host.prepared)

/-- `bind_to` of a value that the caller supplied. -/
def bindTo : Outcome DbError Unit → BudgetedM δ ω (Option DbError)
  | .ok _ => pure none
  | .err error => pure (some error)
  | .panic => Action.panic

/-- The loop of `query_with_bind_check`. -/
def bindChecked : List (Outcome DbError Unit) → BudgetedM δ ω Unit
  | [] => pure ()
  | value :: rest => do
      check host state
      let bound ← bindTo value
      check host state
      raise bound
      bindChecked rest

/-- The loop of `bind_all_with_count`. -/
def bindAll : List (Outcome DbError Unit) → BudgetedM δ ω Unit
  | [] => pure ()
  | value :: rest => do
      raise (← bindTo value)
      bindAll rest

def bindValues : BudgetedM δ ω Unit := do
  raise host.bindRefused
  if state.limit.isSome then bindChecked host state host.bindings else bindAll host.bindings

/-- The loop over the rows; rows that the statement returns are dropped. -/
def drain : List (SqliteCall δ) → BudgetedM δ ω Unit
  | [] => pure ()
  | step :: rest => do
      check host state
      let row ← sqliteCall host state step
      check host state
      raise row
      drain rest

/-- The statement, up to the number of rows it changed. -/
def execute : BudgetedM δ ω UInt64 :=
  if budget.maxSqlBytes.any (fun limit => limit.toNat < sql.utf8ByteSize) then Action.fail (.query .sqlTooLong)
  else do
    let prepared ← timed host (prepareSql host state) fun spent metrics => { metrics with prepareInstructions := spent }
    check host state
    settled prepared
    if host.readOnly then Action.fail .unsupportedStatement
    else do
      let bound ← timed host (bindValues host state) fun spent metrics => { metrics with bindInstructions := spent }
      check host state
      settled bound
      let stepped ← timed host (drain host state (host.rows ++ [host.ending]))
        fun spent metrics => { metrics with executeInstructions := spent }
      settled stepped
      let call ← Action.read
      pure (if call.schemaChange then 0 else host.changes)

/-- The authorizer is entered, and dropped however the statement ends. -/
def withAuthorizer (body : BudgetedM δ ω α) : BudgetedM δ ω α :=
  match host.authorized with
  | some error => Action.fail (.database error)
  | none => fun call =>
      Action.finally_ body (fun ended => { ended with authorizer := false }) { call with authorizer := true }

/-- The observer is entered, and dropped however the transaction ends. -/
def withObserver (queryBudget : QueryBudget) (body : BudgetedM δ ω α) : BudgetedM δ ω α := fun call =>
  if call.settings.queryObserverActive then (.err (classify .queryObserverActive), call)
  else
    Action.finally_ body
      (fun ended => { ended with settings := (call.settings.guard queryBudget).drop ended.settings })
      { call with settings := call.settings.enter queryBudget }

/-- A COMMIT that succeeds ends the transaction, and its database is in the overlay. -/
def endTransaction : Option DbError → BudgetedM δ ω (Option DbError)
  | some error => pure (some error)
  | none => fun call =>
      match call.handle.writeConnection.bind Connection.transaction with
      | none => (.ok (some (.sqlite 1 "cannot commit - no transaction is active")), call)
      | some database =>
          (.ok none, call.withHandle
            { call.handle with overlayDatabase := database, writeConnection := some ⟨none⟩ })

def commitSql : BudgetedM δ ω (Option DbError) := do
  let committed ← sqliteCall host state host.committed
  endTransaction committed

/-- The dirty pages fit the budget. -/
def checkStats (stats : WriteStats) : BudgetedM δ ω Unit :=
  match stats.exceeded with
  | some bytes => Action.fail (.budgetExceeded (exceededKind bytes))
  | none => pure ()

/-- What is done while the observer is active: the number of changed rows, the
counter before COMMIT, and the statistics of the overlay after it. -/
def observed : BudgetedM δ ω (UInt64 × Option UInt64 × WriteStats) := do
  let changes ← withAuthorizer host (execute host budget state sql)
  check host state
  let before ← instructionCounter host
  let committed ← commitSql host state
  let spent ← delta host before
  record fun metrics => { metrics with commitInstructions := spent }
  check host state
  raise committed
  let call ← Action.read
  checkStats call.handle.context.writeStats
  pure (changes, before, call.handle.context.writeStats)

/-- `stable_blob::commit_update`. -/
def commitOverlay : BudgetedM δ ω Unit := fun call =>
  let (outcome, context) := commitUpdate call.handle.context
  let next := { call with handle := { call.handle with context }, commitAnswer := some outcome }
  match outcome with
  | .ok _ => (.ok (), next)
  | .err error => (.err (.database (.stable error)), next)
  | .panic => (.panic, next)

def publish (before : Option UInt64) (stats : WriteStats) : BudgetedM δ ω Unit := do
  let call ← Action.read
  record fun metrics => { metrics with peakDirtyPages := stats.dirtyPages, overlayPeakBytes := stats.peakBytes }
  commitOverlay
  Action.modify fun next => { next with published := true, handle := next.handle.publish }
  record fun metrics => { metrics with
    committedBytes := min (call.handle.context.dirtyPageCount * sqlitePageSize) (u64Bound - 1) }
  let spent ← delta host before
  record fun metrics => { metrics with commitInstructions := spent }

def transact (queryBudget : QueryBudget) : BudgetedM δ ω UInt64 := do
  check host state
  onHandle (beginSql host.run)
  let (changes, before, stats) ← withObserver queryBudget (observed host budget state sql)
  check host state
  publish host before stats
  pure changes

/-- A refused page overrules the result. -/
def concluded (body : BudgetedM δ ω α) : BudgetedM δ ω α := do
  let result ← Action.attempt body
  let call ← Action.read
  let stats := call.handle.context.writeStats
  record fun metrics => { metrics with
    peakDirtyPages := max metrics.peakDirtyPages stats.dirtyPages
    overlayPeakBytes := max metrics.overlayPeakBytes stats.peakBytes }
  checkStats stats
  settled result

def takeWriteConnection : BudgetedM δ ω Unit := do
  let call ← Action.read
  match call.handle.writeConnection with
  | some _ => pure ()
  | none => do
      Action.modify (UpdateCall.onFile host.opening)
      onHandle (writeConnection host.run)
      Action.modify fun call => { call with settings := host.fresh, authorizer := false }

def withinOverlay (queryBudget : QueryBudget) : BudgetedM δ ω UInt64 := do
  onHandle (onContext (setWriteBudget budget.maxDirtyPages.toNat budget.maxChangedBytes.toNat))
  takeWriteConnection host
  Action.finally_ (concluded (transact host budget state sql queryBudget)) (UpdateCall.dropConnectionGuard host)

def withinContext (queryBudget : QueryBudget) : BudgetedM δ ω UInt64 := do
  onHandle rejectActiveReadConnection
  onHandle (Action.modify HandleState.clearReadConnection)
  let _ ← onHandle (onContext beginUpdate)
  onHandle (Action.modify HandleState.openOverlay)
  Action.finally_ (withinOverlay host budget state sql queryBudget) UpdateCall.dropOverlay

end Run

/-- The measured total is over the limit. -/
def overSoftLimit (limit used : Option UInt64) : Bool :=
  match limit, used with
  | some limit, some used => limit < used
  | _, _ => false

def report (budget : UpdateBudget) (spent : Option UInt64) : Outcome UpdateError UInt64 → BudgetedM δ ω UpdateReport
  | .ok changes => do
      record fun metrics => { metrics with
        instructions := spent
        committedOverSoftLimit := overSoftLimit budget.maxInstructions spent }
      let call ← Action.read
      pure ⟨.ok changes, call.metrics⟩
  | .err error => do
      record fun metrics => { metrics with instructions := spent }
      let call ← Action.read
      pure ⟨.error error, call.metrics⟩
  | .panic => Action.panic

/-- The update after its budget was found valid. -/
def runValid (host : UpdateHost δ) (budget : UpdateBudget) (limit : Option UInt64) (sql : String) :
    BudgetedM δ ω UpdateReport := do
  let start ← instructionCounter host
  let result ← Action.attempt (withinContext host budget ⟨start, limit⟩ sql (budget.queryBudget limit))
  let spent ← delta host start
  report budget spent result

def runChecked (host : UpdateHost δ) (budget : UpdateBudget) (sql : String) : BudgetedM δ ω UpdateReport :=
  match budget.executionLimit with
  | .error error => pure (.failed error)
  | .ok limit =>
      match (budget.queryBudget limit).validate host.counter.isSome with
      | .error error => pure (.failed (classify error))
      | .ok _ => runValid host budget limit sql

def run (host : UpdateHost δ) (budget : UpdateBudget) (sql : String) : BudgetedM δ ω UpdateReport := do
  Action.modify UpdateCall.started
  runChecked host budget sql

end Update

end Call

end IcSqliteVfs.Db
