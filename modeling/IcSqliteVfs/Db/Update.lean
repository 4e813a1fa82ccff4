import IcSqliteVfs.Db.Error
import IcSqliteVfs.SqliteVfs.Atomicity

namespace IcSqliteVfs.SqliteVfs

open IcSqliteVfs.Semantics IcSqliteVfs.Stable

/-! # The overlay of an update -/

/-- The calls that SQLite makes on the main file. -/
def fileCallsOn (calls : List OverlayCall) (context : Context) : Context :=
  calls.foldl (fun context call => (call.onContext context).2) context

variable {context next : Context} {block : Superblock} {base : List UInt8}

/-- An update begins with a new overlay, or with an error and the overlay of before. -/
theorem Live.beginUpdate_ends (live : Live context block base) :
    (∃ next, beginUpdate context = (.ok block.dbSize, next) ∧ context.overlay = none ∧
      next.overlay = some (Overlay.new block.dbSize.toNat) ∧ Quiet block base context next) ∨
    ∃ error next, beginUpdate context = (.err error, next) ∧ next.overlay = context.overlay ∧
      Quiet block base context next := by
  let warm : Context := { context with store := { context.store with superblockCache := some block } }
  have loaded : Live warm block base := live.loaded
  rw [beginUpdate, Action.bind_of_ok _ (onContextStore_of live.serves.coherent.load_eq)]
  split
  · exact .inr ⟨_, warm, rfl, rfl, loaded, rfl⟩
  · split
    · exact .inr ⟨_, warm, rfl, rfl, loaded, rfl⟩
    · by_cases idle : context.overlay = none
      · refine .inl ⟨{ warm with overlay := some (Overlay.new block.dbSize.toNat) }, ?_, idle, rfl,
          loaded.withOverlay ?_, rfl⟩
        · exact Action.bind_of_ok _ (beginOverlay_of_none (show warm.overlay = none from idle) _)
        · intro overlay same
          obtain rfl := Option.some.inj same
          exact Overlay.sound_new block.dbSize.toNat_lt
      · obtain ⟨overlay, active⟩ := Option.ne_none_iff_exists'.mp idle
        have refused := beginOverlay_of_some (show warm.overlay = some overlay from active) block.dbSize.toNat
        exact .inr ⟨_, warm, Action.bind_of_err _ refused, rfl, loaded, rfl⟩

/-- An update is begun on a context without one, or refused. -/
theorem Live.beginUpdate_cases (live : Live context block base) (idle : context.overlay = none) :
    (∃ overlay next, beginUpdate context = (.ok block.dbSize, next) ∧ next.overlay = some overlay ∧
      Quiet block base context next) ∨
    ∃ error next, beginUpdate context = (.err error, next) ∧ next.overlay = none ∧ Quiet block base context next := by
  rcases live.beginUpdate_ends with begun | refused
  · obtain ⟨next, begins, _, active, quiet⟩ := begun
    exact .inl ⟨_, next, begins, active, quiet⟩
  · obtain ⟨error, next, refused, same, quiet⟩ := refused
    exact .inr ⟨error, next, refused, same.trans idle, quiet⟩

theorem Quiet.trans {last : Context} (first : Quiet block base context next) (second : Quiet block base next last) :
    Quiet block base context last :=
  ⟨second.live, second.memory.trans first.memory⟩

/-- The calls on the main file go to the overlay. -/
theorem Live.fileCallsOn_quiet (calls : List OverlayCall) {overlay : Overlay} (live : Live context block base)
    (active : context.overlay = some overlay) :
    Quiet block base context (fileCallsOn calls context) := by
  induction calls generalizing context overlay with
  | nil => exact ⟨live, rfl⟩
  | cons call rest ih =>
      have quiet := live.call_overlay active call
      have open_ : ∃ after, (call.onContext context).2.overlay = some after := by
        rw [call.onContext_of_overlay active]
        exact ⟨_, rfl⟩
      obtain ⟨after, still⟩ := open_
      exact quiet.trans (ih quiet.live still)

end IcSqliteVfs.SqliteVfs

namespace IcSqliteVfs.Db

open IcSqliteVfs.Semantics IcSqliteVfs.Stable IcSqliteVfs.SqliteVfs

/-! # Updates of a handle

`DbHandle::update` opens an overlay over the committed image, runs a closure in
a transaction of the cached write connection, and publishes the overlay.  SQLite
is given by what it answers in one update.
-/

/-- A connection to the main file, with the database that its open transaction
has come to. -/
structure Connection (δ : Type) where
  transaction : Option δ
deriving DecidableEq, Repr

/-- What an update of one context reads and changes: the database that SQLite finds
in the committed image and the one that it finds in the overlay; what lies outside
of them is not undone by a rollback. -/
structure HandleState (δ ω : Type) where
  context : Context
  database : δ
  overlayDatabase : δ
  outside : ω
  activeReads : Nat
  readConnection : Bool
  writeConnection : Option (Connection δ)

/-- SQLite in one update: the error of opening a connection, of BEGIN and of
COMMIT, and the calls that it makes on the main file until it has committed. -/
structure SqliteRun where
  opened : Option DbError
  begun : Option DbError
  fileCalls : List OverlayCall
  committed : Option DbError

abbrev HandleM (δ ω : Type) : Type → Type := Action (HandleState δ ω) DbError

/-- What the SQL of a closure works on: the main file, and over it the transaction
that the connection is in, if it still is in one. -/
structure Session (δ : Type) where
  file : δ
  transaction : Option δ
deriving DecidableEq, Repr

/-- What a closure does with the connection and outside of it.  Its SQL may also
end the transaction, or begin another one. -/
abbrev UpdateClosure (δ ω α : Type) : Type := Action (Session δ × ω) DbError α

variable {δ ω α : Type}

/-- A session in the transaction that the update begins. -/
def Session.begun (database : δ) : Session δ := ⟨database, some database⟩

/-- A closure that leaves the transaction to the update. -/
def withinTransaction (f : Action (δ × ω) DbError α) : UpdateClosure δ ω α := fun (session, outside) =>
  match session.transaction with
  | some database =>
      let (outcome, changed, outside) := f (database, outside)
      (outcome, { session with transaction := some changed }, outside)
  | none => (.panic, session, outside)

@[simp] theorem withinTransaction_begun (f : Action (δ × ω) DbError α) (database : δ) (outside : ω) :
    withinTransaction f (.begun database, outside) =
      ((f (database, outside)).1, ⟨database, some (f (database, outside)).2.1⟩, (f (database, outside)).2.2) := rfl

def onContext (call : ContextM α) : HandleM δ ω α :=
  Action.zoom HandleState.context (fun context self => { self with context }) (Action.mapError DbError.stable call)

def rejectActiveReadConnection : HandleM δ ω Unit := fun self =>
  if self.activeReads = 0 then (.ok (), self) else (.err .readConnectionInUse, self)

def HandleState.clearReadConnection (self : HandleState δ ω) : HandleState δ ω := { self with readConnection := false }

def HandleState.clearWriteConnection (self : HandleState δ ω) : HandleState δ ω := { self with writeConnection := none }

/-- A new connection is idle. -/
def writeConnection (run : SqliteRun) : HandleM δ ω Unit := fun self =>
  match self.writeConnection with
  | some _ => (.ok (), self)
  | none =>
      match run.opened with
      | some error => (.err error, self)
      | none => (.ok (), { self with writeConnection := some ⟨none⟩ })

/-- SQLite refuses to begin inside of a transaction. -/
def beginSql (run : SqliteRun) : HandleM δ ω Unit := fun self =>
  match self.writeConnection with
  | some ⟨some _⟩ => (.err (.sqlite 1 "cannot start a transaction within a transaction"), self)
  | some ⟨none⟩ =>
      match run.begun with
      | some error => (.err error, self)
      | none => (.ok (), { self with writeConnection := some ⟨some self.overlayDatabase⟩ })
  | none => (.panic, self)

def runClosure (f : UpdateClosure δ ω α) : HandleM δ ω α := fun self =>
  match self.writeConnection with
  | some connection =>
      let (outcome, session, outside) := f (⟨self.overlayDatabase, connection.transaction⟩, self.outside)
      (outcome, { self with
        overlayDatabase := session.file
        outside
        writeConnection := some ⟨session.transaction⟩ })
  | none => (.panic, self)

/-- The connection is out of the transaction; the result of a ROLLBACK is not looked at. -/
def rollbackSql : HandleM δ ω Unit := Action.modify fun self => { self with writeConnection := some ⟨none⟩ }

/-- COMMIT, and a ROLLBACK if it fails: the transaction is over, and its database
is in the overlay if it was committed. -/
def commitSql (run : SqliteRun) : HandleM δ ω Unit := fun self =>
  let ended := { self with
    context := fileCallsOn run.fileCalls self.context
    writeConnection := some ⟨none⟩ }
  match self.writeConnection.bind Connection.transaction, run.committed with
  | none, _ => (.err (.sqlite 1 "cannot commit - no transaction is active"), ended)
  | some _, some error => (.err error, ended)
  | some database, none => (.ok (), { ended with overlayDatabase := database })

/-- A published image is what SQLite reads from then on. -/
def HandleState.publish (self : HandleState δ ω) : HandleState δ ω := { self with database := self.overlayDatabase }

/-- SQLite's COMMIT, then the publication of what it wrote. -/
def commitImmediate (run : SqliteRun) (value : α) : HandleM δ ω α := do
  commitSql run
  onContext commitUpdate
  Action.modify HandleState.publish
  pure value

/-- What `run_immediate` does inside of the transaction. -/
def endTransaction (run : SqliteRun) (f : UpdateClosure δ ω α) : HandleM δ ω α := do
  match ← Action.attempt (runClosure f) with
  | .ok value => commitImmediate run value
  | .err error => do
      rollbackSql
      onContext rollbackUpdate
      Action.fail error
  | .panic => Action.panic

def runImmediate (run : SqliteRun) (f : UpdateClosure δ ω α) : HandleM δ ω α := do
  beginSql run
  endTransaction run f

/-- What follows the transaction: after an error the write connection is not used again. -/
def finishUpdate (call : HandleM δ ω α) : HandleM δ ω α := fun self =>
  match call self with
  | (.ok value, next) => (.ok value, next.clearReadConnection)
  | (.err error, next) => (.err error, next.clearReadConnection.clearWriteConnection)
  | (.panic, next) => (.panic, next)

/-- An overlay that was not written reads as the committed image. -/
def HandleState.openOverlay (self : HandleState δ ω) : HandleState δ ω := { self with overlayDatabase := self.database }

/-- `OverlayGuard`. -/
def HandleState.dropOverlay (self : HandleState δ ω) : HandleState δ ω :=
  { self with context := { self.context with overlay := none } }

/-- What an update does while its overlay is open. -/
def withinOverlay (run : SqliteRun) (f : UpdateClosure δ ω α) : HandleM δ ω α := do
  writeConnection run
  finishUpdate (runImmediate run f)

def update (run : SqliteRun) (f : UpdateClosure δ ω α) : HandleM δ ω α := do
  rejectActiveReadConnection
  Action.modify HandleState.clearReadConnection
  let _ ← onContext beginUpdate
  Action.modify HandleState.openOverlay
  Action.finally_ (withinOverlay run f) HandleState.dropOverlay

/-! ## What an update leaves -/

variable {context next : Context} {self : HandleState δ ω} {block : Superblock} {base : List UInt8}

theorem onContext_of_ok {call : ContextM α} {value : α} (ended : call self.context = (.ok value, next)) :
    (onContext call : HandleM δ ω α) self = (.ok value, { self with context := next }) := by
  rw [onContext, Action.zoom, Action.mapError, ended]

theorem onContext_of_err {call : ContextM α} {error : StableMemoryError}
    (ended : call self.context = (.err error, next)) :
    (onContext call : HandleM δ ω α) self = (.err (.stable error), { self with context := next }) := by
  rw [onContext, Action.zoom, Action.mapError, ended]

/-- The image and the database that SQLite reads from it are those of before. -/
structure Unpublished (block : Superblock) (base : List UInt8) (before after : HandleState δ ω) : Prop where
  quiet : Quiet block base before.context after.context
  database : after.database = before.database
  activeReads : after.activeReads = before.activeReads

/-- No cached write connection is inside of a transaction. -/
def HandleState.Settled (self : HandleState δ ω) : Prop :=
  ∀ connection ∈ self.writeConnection, connection.transaction = none

theorem settled_of_idle (idle : self.writeConnection = some ⟨none⟩) : self.Settled := by
  intro connection cached
  rw [idle] at cached
  obtain rfl := Option.some.inj cached
  rfl

theorem settled_of_none (empty : self.writeConnection = none) : self.Settled := by
  intro connection cached
  rw [empty] at cached
  cases cached

/-- The block that is served has the schema version of this one. -/
def SameSchema (block : Superblock) (context : Context) : Prop :=
  ∃ served base, Live context served base ∧ served.schemaVersion = block.schemaVersion

theorem schemaVersion_committedBlock (block : Superblock) (size : Nat) (zeroExtents : List ZeroExtent) :
    (committedBlock block true size zeroExtents).stamped.schemaVersion = block.schemaVersion := rfl

/-- The closure in the transaction that an update begins on this handle. -/
def HandleState.closureRun (self : HandleState δ ω) (f : UpdateClosure δ ω α) :
    Outcome DbError α × Session δ × ω :=
  f (.begun self.database, self.outside)

/-- How an update came to an end: the closure returned and its database was
published; an error left the image alone; or the closure panicked. -/
inductive UpdateEnded (f : UpdateClosure δ ω α) (block : Superblock) (base : List UInt8) (before : HandleState δ ω) :
    Outcome DbError α → HandleState δ ω → Prop where
  | published {value : α} {after : HandleState δ ω} (returned : (before.closureRun f).1 = .ok value)
      (database : (before.closureRun f).2.1.transaction = some after.database)
      (outside : after.outside = (before.closureRun f).2.2)
      (connection : after.writeConnection = some ⟨none⟩) (closed : after.context.overlay = none)
      (schema : SameSchema block after.context) : UpdateEnded f block base before (.ok value) after
  | failed {error : DbError} {after : HandleState δ ω} (left : Unpublished block base before after)
      (outside : after.outside = before.outside ∨ after.outside = (before.closureRun f).2.2)
      (settled : before.Settled → after.Settled) : UpdateEnded f block base before (.err error) after
  | unwound {after : HandleState δ ω} (panicked : (before.closureRun f).1 = .panic)
      (left : Unpublished block base before after) (outside : after.outside = (before.closureRun f).2.2)
      (connection : after.writeConnection = some ⟨(before.closureRun f).2.1.transaction⟩) :
      UpdateEnded f block base before .panic after

theorem commitImmediate_cases (run : SqliteRun) {overlay : Overlay} (live : Live self.context block base)
    (active : self.context.overlay = some overlay) (value : α) :
    (∃ context changed, self.writeConnection = some ⟨some changed⟩ ∧ SameSchema block context ∧
      context.overlay = none ∧ commitImmediate run value self = (.ok value,
        { self with context, database := changed, overlayDatabase := changed, writeConnection := some ⟨none⟩ })) ∨
    ∃ error after, Unpublished block base self after ∧ after.outside = self.outside ∧
      after.writeConnection = some ⟨none⟩ ∧ commitImmediate run value self = (.err error, after) := by
  have written := live.fileCallsOn_quiet run.fileCalls active
  let ended : HandleState δ ω :=
    { self with context := fileCallsOn run.fileCalls self.context, writeConnection := some ⟨none⟩ }
  have left : Unpublished block base self ended := ⟨written, rfl, rfl⟩
  rw [commitImmediate]
  cases connected : self.writeConnection.bind Connection.transaction with
  | none =>
      have stopped : (commitSql run : HandleM δ ω Unit) self =
          (.err (.sqlite 1 "cannot commit - no transaction is active"), ended) := by
        simp only [commitSql, connected]
        rfl
      exact .inr ⟨_, _, left, rfl, rfl, Action.bind_of_err _ stopped⟩
  | some changed =>
      cases failed : run.committed with
      | some error =>
          have stopped : (commitSql run : HandleM δ ω Unit) self = (.err error, ended) := by
            simp only [commitSql, connected, failed]
            rfl
          exact .inr ⟨_, _, left, rfl, rfl, Action.bind_of_err _ stopped⟩
      | none =>
          have open_ : self.writeConnection = some ⟨some changed⟩ := by
            obtain ⟨connection, cached, inside⟩ := Option.bind_eq_some_iff.mp connected
            rw [cached, ← inside]
          let done : HandleState δ ω := { ended with overlayDatabase := changed }
          have committed : (commitSql run : HandleM δ ω Unit) self = (.ok (), done) := by
            simp only [commitSql, connected, failed]
            rfl
          rw [Action.bind_of_ok _ committed]
          rcases written.live.commitUpdate_cases with quiet | stored | refused
          · obtain ⟨next, ended, closed, same⟩ := quiet
            have kept : (onContext commitUpdate : HandleM δ ω Unit) done = (.ok (), { done with context := next }) :=
              onContext_of_ok ended
            exact .inl ⟨next, changed, open_, ⟨block, base, same.live, rfl⟩, closed, Action.bind_of_ok _ kept⟩
          · obtain ⟨active, zeroExtents, grown, image, ended, _, _, after⟩ := stored
            have kept : (onContext commitUpdate : HandleM δ ω Unit) done = (.ok (), { done with context := _ }) :=
              onContext_of_ok ended
            exact .inl ⟨_, changed, open_, ⟨_, image, after, schemaVersion_committedBlock block _ _⟩, rfl,
              Action.bind_of_ok _ kept⟩
          · obtain ⟨error, next, ended, _, same⟩ := refused
            have stopped : (onContext commitUpdate : HandleM δ ω Unit) done =
                (.err (.stable error), { done with context := next }) := onContext_of_err ended
            exact .inr ⟨.stable error, { done with context := next }, ⟨written.trans same, rfl, rfl⟩, rfl, rfl,
              Action.bind_of_err _ stopped⟩

/-- The handle after BEGIN. -/
def HandleState.inTransaction (self : HandleState δ ω) : HandleState δ ω :=
  { self with writeConnection := some ⟨some self.overlayDatabase⟩ }

/-- The handle after the closure ran. -/
def HandleState.ran (self : HandleState δ ω) (f : UpdateClosure δ ω α) : HandleState δ ω :=
  { self with
    overlayDatabase := (self.closureRun f).2.1.file
    outside := (self.closureRun f).2.2
    writeConnection := some ⟨(self.closureRun f).2.1.transaction⟩ }

theorem runClosure_eq (f : UpdateClosure δ ω α) (fresh : self.overlayDatabase = self.database) :
    runClosure f self.inTransaction = ((self.closureRun f).1, self.ran f) := by
  simp only [runClosure, HandleState.inTransaction, fresh]
  rfl

theorem beginSql_cases (run : SqliteRun) {connection : Connection δ} (connected : self.writeConnection = some connection) :
    (beginSql run self = (.ok (), self.inTransaction) ∧
      connection.transaction = none ∧ run.begun = none) ∨
    ∃ error, beginSql run self = (.err error, self) := by
  rcases connection with ⟨transaction⟩
  cases transaction with
  | some database => exact .inr ⟨.sqlite 1 _, by rw [beginSql, connected]⟩
  | none =>
      cases refused : run.begun with
      | some error => exact .inr ⟨error, by simp only [beginSql, connected, refused]⟩
      | none => exact .inl ⟨by simp only [beginSql, connected, refused]; rfl, rfl, rfl⟩

theorem endTransaction_ended (run : SqliteRun) (f : UpdateClosure δ ω α) {overlay : Overlay}
    (live : Live self.context block base) (active : self.context.overlay = some overlay)
    (fresh : self.overlayDatabase = self.database) :
    UpdateEnded f block base self (endTransaction run f self.inTransaction).1
      (endTransaction run f self.inTransaction).2 := by
  have ran := runClosure_eq f fresh
  rw [endTransaction]
  cases returned : (self.closureRun f).1 with
  | ok value =>
      rw [returned] at ran
      rw [Action.bind_of_ok _ (Action.attempt_of_ok ran)]
      have kept : Live (self.ran f).context block base := live
      rcases commitImmediate_cases run kept active value with done | stopped
      · obtain ⟨context, changed, open_, schema, closed, ended⟩ := done
        dsimp only
        rw [ended]
        exact .published returned (congrArg Connection.transaction (Option.some.inj open_)) rfl rfl closed schema
      · obtain ⟨error, after, left, outside, idle, ended⟩ := stopped
        dsimp only
        rw [ended]
        exact .failed ⟨left.quiet, left.database, left.activeReads⟩ (.inr outside) fun _ => settled_of_idle idle
  | err error =>
      have attempted : Action.attempt (runClosure f) self.inTransaction = (.ok (.err error), self.ran f) := by
        rw [Action.attempt, ran, returned]
      rw [Action.bind_of_ok _ attempted]
      exact .failed ⟨⟨live.closed, rfl⟩, rfl, rfl⟩ (.inr rfl) fun _ => settled_of_idle rfl
  | panic =>
      have attempted : Action.attempt (runClosure f) self.inTransaction = (.panic, self.ran f) := by
        rw [Action.attempt, ran, returned]
      rw [Action.bind_of_panic _ attempted]
      exact .unwound returned ⟨⟨live, rfl⟩, rfl, rfl⟩ rfl rfl

section Ended

variable {f : UpdateClosure δ ω α} {outcome : Outcome DbError α} {before after : HandleState δ ω}

/-- What was done before the transaction published nothing. -/
theorem UpdateEnded.since (left : Unpublished block base before self) (outside : self.outside = before.outside)
    (connected : before.Settled → self.Settled) (ended : UpdateEnded f block base self outcome after) : UpdateEnded f block base before outcome after := by
  have ran : self.closureRun f = before.closureRun f := by
    rw [HandleState.closureRun, left.database, outside]
    rfl
  cases ended with
  | published returned database outside connection closed schema =>
      rw [ran] at returned database outside
      exact .published returned database outside connection closed schema
  | failed later ends settled =>
      rw [ran, outside] at ends
      exact .failed ⟨left.quiet.trans later.quiet, later.database.trans left.database,
        later.activeReads.trans left.activeReads⟩ ends fun idle =>
        settled (connected idle)
  | unwound panicked later ends connection =>
      rw [ran] at panicked ends connection
      exact .unwound panicked ⟨left.quiet.trans later.quiet, later.database.trans left.database,
        later.activeReads.trans left.activeReads⟩ ends connection

theorem SameSchema.closed {context : Context} (schema : SameSchema block context) :
    SameSchema block { context with overlay := none } := by
  obtain ⟨served, base, live, same⟩ := schema
  exact ⟨served, base, live.closed, same⟩

theorem UpdateEnded.dropOverlay (ended : UpdateEnded f block base self outcome after) :
    UpdateEnded f block base self outcome after.dropOverlay := by
  cases ended with
  | published returned database outside connection closed schema =>
      exact .published returned database outside connection rfl schema.closed
  | failed left outside settled =>
      exact .failed ⟨⟨left.quiet.live.closed, left.quiet.memory⟩, left.database, left.activeReads⟩ outside settled
  | unwound panicked left outside connection =>
      exact .unwound panicked ⟨⟨left.quiet.live.closed, left.quiet.memory⟩, left.database, left.activeReads⟩ outside connection

theorem UpdateEnded.finished {call : HandleM δ ω α} (ended : UpdateEnded f block base self (call self).1 (call self).2) :
    UpdateEnded f block base self (finishUpdate call self).1 (finishUpdate call self).2 := by
  rw [finishUpdate]
  cases came : call self with
  | mk outcome next =>
      rw [came] at ended
      cases ended with
      | published returned database outside connection closed schema =>
          exact .published returned database outside connection closed schema
      | failed left outside settled =>
          exact .failed ⟨left.quiet, left.database, left.activeReads⟩ outside fun _ => settled_of_none rfl
      | unwound panicked left outside connection => exact .unwound panicked left outside connection

end Ended

theorem runImmediate_ended (run : SqliteRun) (f : UpdateClosure δ ω α) {overlay : Overlay}
    {connection : Connection δ} (live : Live self.context block base)
    (active : self.context.overlay = some overlay) (fresh : self.overlayDatabase = self.database)
    (connected : self.writeConnection = some connection) :
    UpdateEnded f block base self (runImmediate run f self).1 (runImmediate run f self).2 := by
  rcases beginSql_cases run connected with ⟨began, _, _⟩ | ⟨error, refused⟩
  · rw [runImmediate, Action.bind_of_ok _ began]
    exact endTransaction_ended run f live active fresh
  · rw [runImmediate, Action.bind_of_err _ refused]
    exact .failed ⟨⟨live, rfl⟩, rfl, rfl⟩ (.inl rfl) id

theorem writeConnection_cases (run : SqliteRun) (self : HandleState δ ω) :
    (∃ connection, writeConnection run self = (.ok (), { self with writeConnection := some connection }) ∧
      (self.Settled → connection.transaction = none)) ∨
    ∃ error, writeConnection run self = (.err error, self) := by
  cases cached : self.writeConnection with
  | some connection =>
      refine .inl ⟨connection, ?_, fun settled => settled connection cached⟩
      simp only [writeConnection, cached]
      rw [← cached]
  | none =>
      cases refused : run.opened with
      | some error => exact .inr ⟨error, by simp only [writeConnection, cached, refused]⟩
      | none => exact .inl ⟨⟨none⟩, by simp only [writeConnection, cached, refused], fun _ => rfl⟩

theorem withinOverlay_ended (run : SqliteRun) (f : UpdateClosure δ ω α) {overlay : Overlay}
    (live : Live self.context block base) (active : self.context.overlay = some overlay)
    (fresh : self.overlayDatabase = self.database) :
    UpdateEnded f block base self (withinOverlay run f self).1 (withinOverlay run f self).2 := by
  rcases writeConnection_cases run self with ⟨connection, connected, idle⟩ | ⟨error, failed⟩
  · rw [withinOverlay, Action.bind_of_ok _ connected]
    let joined : HandleState δ ω := { self with writeConnection := some connection }
    have kept : Live joined.context block base := live
    have left : Unpublished block base self joined := ⟨⟨live, rfl⟩, rfl, rfl⟩
    have settled : self.Settled → joined.Settled := by
      intro settled
      exact settled_of_idle (congrArg some (congrArg Connection.mk (idle settled)))
    exact (runImmediate_ended run f kept active fresh rfl).finished.since left rfl settled
  · rw [withinOverlay, Action.bind_of_err _ failed]
    exact .failed ⟨⟨live, rfl⟩, rfl, rfl⟩ (.inl rfl) id

section Begins

variable {run : SqliteRun} {f : UpdateClosure δ ω α}

theorem update_of_reading (reading : self.activeReads ≠ 0) :
    update run f self = (.err .readConnectionInUse, self) := by
  rw [update]
  exact Action.bind_of_err _ (by rw [rejectActiveReadConnection, if_neg reading])

theorem update_of_refused {error : StableMemoryError} (unread : self.activeReads = 0)
    (refused : beginUpdate self.context = (.err error, context)) :
    update run f self = (.err (.stable error), { self.clearReadConnection with context }) := by
  have passed : (rejectActiveReadConnection : HandleM δ ω Unit) self = (.ok (), self) := by
    rw [rejectActiveReadConnection, if_pos unread]
  rw [update, Action.bind_of_ok _ passed, Action.modify_bind_apply]
  exact Action.bind_of_err _ (onContext_of_err refused)

/-- The handle with the overlay of an update that has begun. -/
def HandleState.opened (self : HandleState δ ω) (context : Context) : HandleState δ ω :=
  HandleState.openOverlay { self.clearReadConnection with context }

theorem update_of_begun {size : UInt64} (unread : self.activeReads = 0)
    (begins : beginUpdate self.context = (.ok size, context)) :
    update run f self = Action.finally_ (withinOverlay run f) HandleState.dropOverlay (self.opened context) := by
  have passed : (rejectActiveReadConnection : HandleM δ ω Unit) self = (.ok (), self) := by
    rw [rejectActiveReadConnection, if_pos unread]
  have began : (onContext beginUpdate : HandleM δ ω UInt64) self.clearReadConnection =
      (.ok size, { self.clearReadConnection with context }) := onContext_of_ok begins
  rw [update, Action.bind_of_ok _ passed, Action.modify_bind_apply, Action.bind_of_ok _ began,
    Action.modify_bind_apply]
  rfl

end Begins

/-- Every update of an idle handle: it publishes what its closure left in the
transaction, or leaves the image alone; its overlay is gone in either case. -/
theorem update_ended (run : SqliteRun) (f : UpdateClosure δ ω α) (live : Live self.context block base)
    (idle : self.context.overlay = none) :
    UpdateEnded f block base self (update run f self).1 (update run f self).2 ∧
      (update run f self).2.context.overlay = none := by
  by_cases unread : self.activeReads = 0
  · rcases live.beginUpdate_cases idle with begun | refused
    · obtain ⟨overlay, context, begins, active, quiet⟩ := begun
      rw [update_of_begun unread begins]
      have left : Unpublished block base self (self.opened context) := ⟨quiet, rfl, rfl⟩
      have within := withinOverlay_ended run f (show Live (self.opened context).context block base from quiet.live)
        active rfl
      exact ⟨(within.since left rfl id).dropOverlay, rfl⟩
    · obtain ⟨error, context, refused, closed, quiet⟩ := refused
      rw [update_of_refused unread refused]
      exact ⟨.failed ⟨quiet, rfl, rfl⟩ (.inl rfl) id, closed⟩
  · rw [update_of_reading unread]
    exact ⟨.failed ⟨⟨live, rfl⟩, rfl, rfl⟩ (.inl rfl) id, idle⟩

/-- A handle between two calls: its superblock can be loaded and no update is open. -/
structure HandleState.Initialized (handle : HandleState δ ω) : Prop where
  idle : handle.context.overlay = none
  live : ∃ block base, Live handle.context block base

/-- An update leaves the handle initialised, whatever its closure does. -/
theorem HandleState.Initialized.update (initialized : self.Initialized) (run : SqliteRun) (f : UpdateClosure δ ω α) :
    (Db.update run f self).2.Initialized := by
  obtain ⟨block, base, live⟩ := initialized.live
  obtain ⟨ended, closed⟩ := update_ended run f live initialized.idle
  refine ⟨closed, ?_⟩
  cases came : Db.update run f self with
  | mk outcome after =>
      rw [came] at ended
      cases ended with
      | published _ _ _ _ _ schema =>
          obtain ⟨served, image, servedLive, _⟩ := schema
          exact ⟨served, image, servedLive⟩
      | failed left _ _ => exact ⟨block, base, left.quiet.live⟩
      | unwound _ left _ _ => exact ⟨block, base, left.quiet.live⟩

end IcSqliteVfs.Db
