import IcSqliteVfs.Db.Migrate
import IcSqliteVfs.Semantics.Observation
import IcSqliteVfs.SqliteVfs.FileSafety

namespace IcSqliteVfs.Db

open IcSqliteVfs.Data IcSqliteVfs.Semantics IcSqliteVfs.Stable IcSqliteVfs.SqliteVfs

/-! # Handles that call one another

The closure of a query or of an update may call further operations, on its own
handle or on another one.  They share the thread-locals: the active context, the
cached connections, the read depths and the overlays.  SQLite is given by the calls
that it makes on the main files, and by the errors that it reports.
-/

/-- The thread-locals, and the read-only main files that were opened so far.  A
write connection is given by the context of its main file. -/
structure Facade (ι : Type) where
  defaultContext : Option ι
  currentContext : Option ι
  contexts : ι → Context
  files : Nat → IcStableFile
  fileContexts : Nat → ι
  opened : Nat
  readConnections : ι → Option Nat
  writeConnections : ι → Option ι
  activeReadConnections : List (ι × Nat)

/-- What SQLite does for a piece of SQL on a write connection. -/
structure SqlRun where
  calls : List OverlayCall
  error : Option DbError

inductive ReadCall where
  | xRead (amount : Int32) (offset : Int64)
  | xFileSize
deriving DecidableEq, Repr

/-- What SQLite does for the pragmas of a read-only connection. -/
structure ReadOpening where
  calls : List ReadCall
  error : Option DbError

/-- The SQL of an update around its closure. -/
structure UpdateSql where
  pragmas : SqlRun
  begin_ : SqlRun
  commit : SqlRun
  rollback : SqlRun

/-- An operation of a handle; the SQL of a migration is what its closure executes. -/
inductive Operation (ι : Type) where
  | query (context : ι) (opening : ReadOpening)
  | update (context : ι) (sql : UpdateSql)
  | migrate (context : ι) (sql : UpdateSql) (applied : SqlRun) (migrations : List Migration)
  | adoptMigrationChecksums (context : ι) (sql : UpdateSql) (adopted : SqlRun)
  | refreshChecksum (context : ι)
  | refreshChecksumChunk (context : ι) (maxBytes : UInt64)

def Operation.context {ι : Type} : Operation ι → ι
  | .query context _ => context
  | .update context _ => context
  | .migrate context _ _ _ => context
  | .adoptMigrationChecksums context _ _ => context
  | .refreshChecksum context => context
  | .refreshChecksumChunk context _ => context

def Operation.isQuery {ι : Type} : Operation ι → Bool
  | .query _ _ => true
  | _ => false

/-- A query or an update whose closure is running, with what the closure was handed. -/
inductive Frame (ι : Type) where
  | reading (context : ι) (connection : Nat)
  | writing (context file : ι)

def Frame.context {ι : Type} : Frame ι → ι
  | .reading context _ => context
  | .writing context _ => context

/-- What a run is judged by: the reads of the queries' main files, and the
operations with the closures that they were called in. -/
inductive FacadeEvent (ι : Type) where
  | read (context : ι) (before : Facade ι) (amount : Int32) (offset : Int64)
      (outcome : Outcome DbError (ResultCode × List UInt8))
  | fileSize (context : ι) (before : Facade ι) (outcome : Outcome DbError (ResultCode × Option Nat))
  | called (operation : Operation ι) (frames : List (Frame ι)) (before : Facade ι) (outcome : Outcome DbError Unit)
      (after : Facade ι)

abbrev FacadeM (ι : Type) : Type → Type := Action (Watched (Facade ι) (FacadeEvent ι)) DbError

namespace Facade

variable {ι α : Type}

def onState (call : Action (Facade ι) DbError α) : FacadeM ι α :=
  Action.zoom Watched.state (fun state watched => { watched with state }) call

/-- Run a call and write down what it did. -/
def note (observe : Facade ι → Outcome DbError α → Facade ι → FacadeEvent ι) (call : FacadeM ι α) : FacadeM ι α :=
  fun watched =>
    let (outcome, next) := call watched
    (outcome, ⟨next.state, next.seen ++ [observe watched.state outcome next.state]⟩)

/-! ## The active context -/

def activeContextId (facade : Facade ι) : Option ι := facade.currentContext.or facade.defaultContext

def setCurrent (current : Option ι) (facade : Facade ι) : Facade ι := { facade with currentContext := current }

def withContext (context : ι) (call : FacadeM ι α) : FacadeM ι α := fun watched =>
  Action.finally_ call (fun left => { left with state := left.state.setCurrent watched.state.currentContext })
    { watched with state := watched.state.setCurrent (some context) }

variable [DecidableEq ι]

def setContext (context : ι) (next : Context) (facade : Facade ι) : Facade ι :=
  { facade with contexts := Function.update facade.contexts context next }

/-- A call on the memory and the overlay of the active context. -/
def onActive (call : ContextM α) : FacadeM ι α := onState fun facade =>
  match facade.activeContextId with
  | none => (.err (.stable .notInitialized), facade)
  | some context =>
      let (outcome, next) := Action.mapError DbError.stable call (facade.contexts context)
      (outcome, facade.setContext context next)

/-! ## The main files -/

/-- A method of a read-only file, in the context that the file was opened in. -/
def onFile (connection : Nat) (call : VfsM α) : FacadeM ι α := fun watched =>
  withContext (watched.state.fileContexts connection) (onState fun facade =>
    match facade.activeContextId with
    | none => (.err (.stable .notInitialized), facade)
    | some context =>
        let (outcome, vfs) := Action.mapError DbError.stable call ⟨facade.contexts context, facade.files⟩
        (outcome, { facade.setContext context vfs.context with files := vfs.files })) watched

def xRead (context : ι) (connection : Nat) (amount : Int32) (offset : Int64) : FacadeM ι (ResultCode × List UInt8) :=
  note (fun before outcome _ => .read context before amount offset outcome)
    (onFile connection (SqliteVfs.xRead connection amount offset))

def xFileSize (context : ι) (connection : Nat) : FacadeM ι (ResultCode × Option Nat) :=
  note (fun before outcome _ => .fileSize context before outcome) (onFile connection (SqliteVfs.xFileSize connection))

def readCalls (context : ι) (connection : Nat) : List ReadCall → FacadeM ι Unit
  | [] => pure ()
  | .xRead amount offset :: rest => do
      let _ ← xRead context connection amount offset
      readCalls context connection rest
  | .xFileSize :: rest => do
      let _ ← xFileSize context connection
      readCalls context connection rest

/-- A method of the file of a write connection.  What SQLite makes of the result
is up to it. -/
def writeFile (file : ι) (call : OverlayCall) : FacadeM ι Unit :=
  withContext file (onActive (Action.modify fun context => (call.onContext context).2))

def fileCalls (file : ι) : List OverlayCall → FacadeM ι Unit
  | [] => pure ()
  | call :: rest => do
      writeFile file call
      fileCalls file rest

def reply : Option DbError → FacadeM ι Unit
  | none => pure ()
  | some error => Action.fail error

def execute (file : ι) (sql : SqlRun) : FacadeM ι Unit := do
  fileCalls file sql.calls
  reply sql.error

/-- `SQLITE_CANTOPEN`. -/
def cantOpen : DbError := .sqlite 14 "unable to open database file"

/-- The context of the main file that is opened. -/
def xOpen : FacadeM ι ι := do
  let watched ← Action.read
  match watched.state.activeContextId with
  | none => Action.fail cantOpen
  | some context => do
      match ← Action.attempt (onActive (onContextStore Superblock.load)) with
      | .ok block => if block.isImporting then Action.fail cantOpen else pure context
      | .err _ => Action.fail cantOpen
      | .panic => Action.panic

/-- `file::install` for a read-only file. -/
def installed (file : ι) (facade : Facade ι) : Facade ι :=
  { facade with
    files := Function.update facade.files facade.opened (IcStableFile.new true)
    fileContexts := Function.update facade.fileContexts facade.opened file
    opened := facade.opened + 1 }

def openReadOnly (context : ι) (opening : ReadOpening) : FacadeM ι Nat := do
  let file ← xOpen
  let connection ← onState fun facade => (.ok facade.opened, facade.installed file)
  readCalls context connection opening.calls
  reply opening.error
  pure connection

/-! ## The connections -/

def cacheReadConnection (context : ι) (connection : Option Nat) (facade : Facade ι) : Facade ι :=
  { facade with readConnections := Function.update facade.readConnections context connection }

def cacheWriteConnection (context : ι) (file : Option ι) (facade : Facade ι) : Facade ι :=
  { facade with writeConnections := Function.update facade.writeConnections context file }

def clearReadConnection (context : ι) : FacadeM ι Unit := onState (Action.modify (cacheReadConnection context none))

def clearWriteConnection (context : ι) : FacadeM ι Unit := onState (Action.modify (cacheWriteConnection context none))

def writeConnection (context : ι) (pragmas : SqlRun) : FacadeM ι ι := do
  let watched ← Action.read
  match watched.state.writeConnections context with
  | some file => pure file
  | none => do
      let file ← xOpen
      execute file pragmas
      onState (Action.modify (cacheWriteConnection context (some file)))
      pure file

def readConnection (context : ι) (opening : ReadOpening) : FacadeM ι Nat := do
  let watched ← Action.read
  match watched.state.readConnections context with
  | some connection => pure connection
  | none => do
      let connection ← openReadOnly context opening
      onState (Action.modify (cacheReadConnection context (some connection)))
      pure connection

/-! ## The read depths -/

def readDepth (facade : Facade ι) (context : ι) : Nat := (facade.activeReadConnections.lookup context).getD 0

def rejectActiveReadConnection (context : ι) : FacadeM ι Unit := onState fun facade =>
  if facade.readDepth context = 0 then (.ok (), facade) else (.err .readConnectionInUse, facade)

/-- `ReadGuard::enter`. -/
def enterRead (context : ι) (facade : Facade ι) : Facade ι :=
  { facade with activeReadConnections := upsert context (· + 1) 1 facade.activeReadConnections }

/-- What `ReadGuard` leaves of the entries. -/
def leftReads (context : ι) (entries : List (ι × Nat)) : List (ι × Nat) :=
  match entries.lookup context with
  | none => entries
  | some depth =>
      if depth - 1 = 0 then swapRemove entries (entries.findIdx fun entry => entry.1 = context)
      else replaceValue context (depth - 1) entries

def leaveRead (context : ι) (facade : Facade ι) : Facade ι :=
  { facade with activeReadConnections := leftReads context facade.activeReadConnections }

/-! ## The operations -/

def query (context : ι) (opening : ReadOpening) (f : Nat → FacadeM ι Unit) : FacadeM ι Unit :=
  withContext context do
    let connection ← readConnection context opening
    onState (Action.modify (enterRead context))
    Action.finally_ (f connection) fun left => { left with state := left.state.leaveRead context }

/-- COMMIT, then the publication of what it wrote. -/
def commitImmediate (file : ι) (sql : UpdateSql) : FacadeM ι Unit := do
  match ← Action.attempt (execute file sql.commit) with
  | .ok () => onActive commitUpdate
  | .err error => do
      fileCalls file sql.rollback.calls
      Action.fail error
  | .panic => Action.panic

def runImmediate (file : ι) (sql : UpdateSql) (f : FacadeM ι Unit) : FacadeM ι Unit := do
  execute file sql.begin_
  match ← Action.attempt f with
  | .ok () => commitImmediate file sql
  | .err error => do
      fileCalls file sql.rollback.calls
      onActive rollbackUpdate
      Action.fail error
  | .panic => Action.panic

/-- What an update does while its overlay is open. -/
def withinOverlay (context : ι) (sql : UpdateSql) (f : ι → FacadeM ι Unit) : FacadeM ι Unit := do
  let file ← writeConnection context sql.pragmas
  match ← Action.attempt (runImmediate file sql (f file)) with
  | .ok () => clearReadConnection context
  | .err error => do
      clearReadConnection context
      clearWriteConnection context
      Action.fail error
  | .panic => Action.panic

/-- The drop of the `OverlayGuard` goes to the context that is active then. -/
def update (context : ι) (sql : UpdateSql) (f : ι → FacadeM ι Unit) : FacadeM ι Unit :=
  withContext context do
    rejectActiveReadConnection context
    clearReadConnection context
    let _ ← onActive beginUpdate
    Action.finally_ (withinOverlay context sql f) fun left => (onActive rollbackUpdate left).2

def storeTargetVersion (context : ι) (target : UInt64) : FacadeM ι Unit := do
  let block ← onActive (onContextStore Superblock.load)
  if block.schemaVersion < target then do
    clearReadConnection context
    onActive (onContextStore (Superblock.store { block with schemaVersion := target }))
  else pure ()

def migrate (context : ι) (sql : UpdateSql) (applied : SqlRun) (migrations : List Migration) : FacadeM ι Unit := do
  update context sql fun file => execute file applied
  withContext context (storeTargetVersion context (targetVersion migrations))

def adoptMigrationChecksums (context : ι) (sql : UpdateSql) (adopted : SqlRun) : FacadeM ι Unit :=
  update context sql fun file => execute file adopted

/-- Both refreshes differ in what they call on the image. -/
def refreshWith (context : ι) (refresh : ContextM α) : FacadeM ι Unit :=
  withContext context do
    rejectActiveReadConnection context
    clearReadConnection context
    let _ ← onActive refresh
    pure ()

def refreshChecksum (context : ι) : FacadeM ι Unit := refreshWith context SqliteVfs.refreshChecksum

def refreshChecksumChunk (context : ι) (maxBytes : UInt64) : FacadeM ι Unit :=
  refreshWith context (SqliteVfs.refreshChecksumChunk maxBytes.toNat)

/-- An operation with the closure that it was given, if it takes one. -/
def perform (operation : Operation ι) (body : Frame ι → FacadeM ι Unit) : FacadeM ι Unit :=
  match operation with
  | .query context opening => query context opening fun connection => body (.reading context connection)
  | .update context sql => update context sql fun file => body (.writing context file)
  | .migrate context sql applied migrations => migrate context sql applied migrations
  | .adoptMigrationChecksums context sql adopted => adoptMigrationChecksums context sql adopted
  | .refreshChecksum context => refreshChecksum context
  | .refreshChecksumChunk context maxBytes => refreshChecksumChunk context maxBytes

end Facade

/-! ## Closures -/

/-- A closure, by what it does next: it returns, has SQLite use a connection of one of
the closures around it, counted from the innermost one, or calls an operation
with a closure of its own and goes on with the result. -/
inductive Closure (ι : Type) where
  | ret (error : Option DbError)
  | xRead (frame : Nat) (amount : Int32) (offset : Int64) (rest : ResultCode × List UInt8 → Closure ι)
  | xFileSize (frame : Nat) (rest : ResultCode × Option Nat → Closure ι)
  | writeFile (frame : Nat) (method : OverlayCall) (rest : Closure ι)
  | call (operation : Operation ι) (body : Closure ι) (rest : Outcome DbError Unit → Closure ι)

/-- A connection that the closure was not handed cannot be used. -/
def Closure.exec {ι : Type} [DecidableEq ι] (frames : List (Frame ι)) : Closure ι → FacadeM ι Unit
  | .ret error => Facade.reply error
  | .xRead frame amount offset rest =>
      match frames[frame]? with
      | some (.reading context connection) => do
          let answer ← Facade.xRead context connection amount offset
          (rest answer).exec frames
      | _ => (rest (.ioErrRead, [])).exec frames
  | .xFileSize frame rest =>
      match frames[frame]? with
      | some (.reading context connection) => do
          let answer ← Facade.xFileSize context connection
          (rest answer).exec frames
      | _ => (rest (.ioErrFstat, none)).exec frames
  | .writeFile frame method rest =>
      match frames[frame]? with
      | some (.writing _ file) => do
          Facade.writeFile file method
          rest.exec frames
      | _ => rest.exec frames
  | .call operation body rest => do
      let outcome ← Action.attempt (Facade.note (fun before outcome after => .called operation frames before outcome after)
        (Facade.perform operation fun frame => body.exec (frame :: frames)))
      (rest outcome).exec frames

end IcSqliteVfs.Db
