import IcSqliteVfs.Db.FacadeCoherence

namespace IcSqliteVfs.Db

open IcSqliteVfs.Semantics IcSqliteVfs.Stable IcSqliteVfs.SqliteVfs

/-! # Any tree of nested operations

The operations are taken one after the other, with whatever their closures do in
between; a closure that leaves what it found makes its operation leave what it found.
-/

namespace Facade

variable {ι α β : Type} [DecidableEq ι] {shape : Shape ι} {reads : ι → Option Nat} {context : ι} {connection : Nat}
  {watched : Watched (Facade ι) (FacadeEvent ι)}

/-- Wherever this shape is found, the call returns and leaves it. -/
def Settles (shape : Shape ι) (reads : ι → Option Nat) (call : FacadeM ι α) : Prop :=
  ∀ watched, At shape reads watched → Action.Ends call watched (fun _ => At shape reads) (At shape reads)

theorem settles_pure (value : α) : Settles shape reads (pure value : FacadeM ι α) := fun _ holds => holds

theorem Settles.bind {first : FacadeM ι α} {rest : α → FacadeM ι β} (start : Settles shape reads first)
    (continues : ∀ value, Settles shape reads (rest value)) : Settles shape reads (first >>= rest) :=
  fun watched holds => (start watched holds).bind fun value next after => continues value next after

theorem settles_reply (error : Option DbError) : Settles shape reads (reply error : FacadeM ι Unit) := by
  cases error with
  | none => exact settles_pure ()
  | some error => exact fun _ holds => holds

/-- The guard of `with_context` puts back the active context. -/
theorem At.withContext {call : FacadeM ι α} {good : α → Prop} (holds : At shape reads watched)
    (ends : ∀ entered, At (shape.within context) reads entered → Action.Ends call entered
      (fun value next => good value ∧ At (shape.within context) reads next) (At (shape.within context) reads)) :
    Action.Ends (Facade.withContext context call) watched (fun value next => good value ∧ At shape reads next)
      (At shape reads) := by
  have current : watched.state.currentContext = shape.currentContext := by
    rw [← holds.shape_eq]
    rfl
  have restored : ∀ next, At (shape.within context) reads next →
      At shape reads { next with state := next.state.setCurrent watched.state.currentContext } := by
    intro next after
    rw [current]
    exact after.setCurrent shape.currentContext
  exact Action.Ends.finally_ ((ends _ (holds.setCurrent (some context))).imp
    (fun _ next after => ⟨after.1, restored next after.2⟩) restored)

theorem Settles.withContext {call : FacadeM ι α} (settles : Settles (shape.within context) reads call) :
    Settles shape reads (withContext context call) := by
  intro watched holds
  have ended : Action.Ends (Facade.withContext context call) watched (fun _ next => True ∧ At shape reads next)
      (At shape reads) := holds.withContext fun entered inside =>
    (settles entered inside).imp (fun _ _ after => ⟨True.intro, after⟩) fun _ after => after
  exact ended.imp (fun _ _ after => after.2) fun _ after => after

/-! ## The active context -/

theorem onActive_of_ok {call : ContextM α} {value : α} {next : Context}
    (active : watched.state.activeContextId = some context)
    (ended : call (watched.state.contexts context) = (.ok value, next)) :
    onActive call watched = (.ok value, { watched with state := watched.state.setContext context next }) := by
  simp only [onActive, onState, Action.zoom, active, Action.mapError, ended]

theorem onActive_of_err {call : ContextM α} {error : StableMemoryError} {next : Context}
    (active : watched.state.activeContextId = some context)
    (ended : call (watched.state.contexts context) = (.err error, next)) :
    onActive call watched =
      (.err (.stable error), { watched with state := watched.state.setContext context next }) := by
  simp only [onActive, onState, Action.zoom, active, Action.mapError, ended]

theorem At.onActive {call : ContextM α} {good : α → Watched (Facade ι) (FacadeEvent ι) → Prop}
    {bad : Watched (Facade ι) (FacadeEvent ι) → Prop} (holds : At shape reads watched)
    (within : shape.currentContext = some context)
    (ends : ∀ block base, Live (watched.state.contexts context) block base →
      block.dbBaseOffset.toNat % sqlitePageSize = 0 →
      Action.Ends call (watched.state.contexts context)
        (fun value next => good value { watched with state := watched.state.setContext context next })
        fun next => bad { watched with state := watched.state.setContext context next }) :
    Action.Ends (onActive call) watched good bad := by
  obtain ⟨block, base, live, aligned⟩ := holds.coherent.hosts context
  have ended := ends block base live aligned
  rw [Action.Ends] at ended
  cases left : call (watched.state.contexts context) with
  | mk outcome next =>
      rw [left] at ended
      cases outcome with
      | ok value => exact Action.ends_of_ok (onActive_of_ok (holds.active within) left) ended
      | err error => exact Action.ends_of_err (onActive_of_err (holds.active within) left) ended
      | panic => exact ended.elim

/-- A call that keeps the image, the memory and the overlay. -/
theorem At.quietly {next : Context} {block : Superblock} {base : List UInt8} (holds : At shape reads watched)
    (live : Live (watched.state.contexts context) block base) (aligned : block.dbBaseOffset.toNat % sqlitePageSize = 0)
    (quiet : Quiet block base (watched.state.contexts context) next)
    (overlay : next.overlay.isSome = shape.updating context) :
    At shape reads { watched with state := watched.state.setContext context next } := by
  have after := holds.quiet live aligned quiet
  rwa [overlay, Shape.setUpdating_self rfl] at after

theorem At.load (holds : At shape reads watched) (within : shape.currentContext = some context) :
    Action.Ends (Facade.onActive (onContextStore Superblock.load)) watched (fun _ => At shape reads) (At shape reads) := by
  refine holds.onActive within fun block base live aligned => ?_
  refine Action.ends_of_ok (onContextStore_of live.serves.coherent.load_eq) ?_
  exact holds.quietly live aligned ⟨live.loaded, rfl⟩ (holds.updating_eq context)

/-! ## Main files -/

/-- A call on a main file that is written goes to its overlay. -/
theorem settles_writeFile (updating : shape.updating context = true) (method : OverlayCall) :
    Settles shape reads (writeFile context method) := by
  refine Settles.withContext fun watched holds => holds.onActive rfl fun block base live aligned => ?_
  have active := holds.updating_eq context
  rw [show (shape.within context).updating context = true from updating] at active
  obtain ⟨overlay, found⟩ := Option.isSome_iff_exists.mp active
  have still : (method.onContext (watched.state.contexts context)).2.overlay.isSome = true := by
    rw [method.onContext_of_overlay found]
    rfl
  exact Action.ends_of_ok rfl
    (holds.quietly live aligned (live.call_overlay found method) (still.trans updating.symm))

theorem settles_fileCalls (updating : shape.updating context = true) (calls : List OverlayCall) :
    Settles shape reads (fileCalls context calls) := by
  induction calls with
  | nil => exact settles_pure ()
  | cons call rest ih => exact (settles_writeFile updating call).bind fun _ => ih

theorem settles_execute (updating : shape.updating context = true) (sql : SqlRun) :
    Settles shape reads (execute context sql) :=
  (settles_fileCalls updating sql.calls).bind fun _ => settles_reply sql.error

/-- A main file that is opened is one of the active context. -/
theorem At.xOpen (holds : At shape reads watched) (within : shape.currentContext = some context) :
    Action.Ends Facade.xOpen watched (fun file next => file = context ∧ At shape reads next) (At shape reads) := by
  rw [Facade.xOpen]
  refine Action.ends_read_bind ?_
  rw [holds.active within]
  refine (holds.load within).attempt_bind ?_ fun _ _ after => after
  intro block next after
  dsimp only
  split
  · exact after
  · exact ⟨rfl, after⟩

/-! ## Reads of a query -/

/-- A file was read in its context. -/
def reread (context : ι) (connection : Nat) (next : Context) (file : IcStableFile) (facade : Facade ι) : Facade ι :=
  { facade.setContext context next with files := (setFile connection file ⟨next, facade.files⟩).files }

theorem onFile_of {call : VfsM α} {value : α} {next : Context} {file : IcStableFile}
    (opened : watched.state.fileContexts connection = context)
    (ended : call ⟨watched.state.contexts context, watched.state.files⟩ =
      (.ok value, setFile connection file ⟨next, watched.state.files⟩)) :
    onFile connection call watched =
      (.ok value, { watched with state := watched.state.reread context connection next file }) := by
  subst opened
  simp only [onFile, Facade.withContext, Action.finally_, onState, Action.zoom, activeContextId, setCurrent,
    Option.some_or, Action.mapError, ended]
  rfl

/-- Reading a file of an open query leaves it a file of that query. -/
theorem At.reread {block : Superblock} {base : List UInt8} {next : Context} {file : IcStableFile}
    (holds : At shape reads watched) (belongs : watched.state.Belongs context connection)
    (aligned : block.dbBaseOffset.toNat % sqlitePageSize = 0)
    (live : Live (watched.state.contexts context) block base)
    (reread : Reread (watched.state.contexts context) block base next file) :
    At shape reads { watched with state := watched.state.reread context connection next file } ∧
      (watched.state.reread context connection next file).Belongs context connection := by
  have own : ∀ other, watched.state.readConnections context = some other →
      UpToDate next ((setFile connection file ⟨next, watched.state.files⟩).files other) := by
    intro other found
    by_cases same : other = connection
    · rw [same, setFile_files]
      exact reread.upToDate
    · rw [show (setFile connection file ⟨next, watched.state.files⟩).files other = watched.state.files other from
        if_neg same]
      exact (holds.coherent.cached context other found).upToDate.kept live reread.quiet
  have others : ∀ other, watched.state.fileContexts other ≠ context →
      (setFile connection file ⟨next, watched.state.files⟩).files other = watched.state.files other := by
    intro other foreign
    refine if_neg ?_
    rintro rfl
    exact foreign belongs.context_eq
  constructor
  · have after := holds.changed (.intro block base reread.quiet.live aligned) own others
    rwa [reread.overlay, holds.updating_eq, Shape.setUpdating_self rfl] at after
  · refine ⟨belongs.context_eq, belongs.known, ?_⟩
    change UpToDate (Function.update watched.state.contexts context next context)
      ((setFile connection file ⟨next, watched.state.files⟩).files connection)
    rw [Function.update_self, setFile_files]
    exact reread.upToDate

theorem At.xRead (holds : At shape reads watched) (belongs : watched.state.Belongs context connection) (amount : Int32)
    (offset : Int64) :
    Action.Ends (Facade.xRead context connection amount offset) watched
      (fun _ next => At shape reads next ∧ next.state.Belongs context connection) (At shape reads) := by
  obtain ⟨block, base, live, aligned⟩ := holds.coherent.hosts context
  let vfs : Vfs := ⟨watched.state.contexts context, watched.state.files⟩
  have here : Live vfs.context block base := live
  obtain ⟨next, file, ended, reread⟩ := here.xRead_of aligned belongs.upToDate amount offset
  obtain ⟨after, still⟩ := holds.reread belongs aligned live reread
  rw [Action.Ends, Facade.xRead, note, onFile_of belongs.context_eq ended]
  exact ⟨after.noted ⟨base, live.committedImage_eq, rfl⟩, still⟩

theorem At.xFileSize (holds : At shape reads watched) (belongs : watched.state.Belongs context connection) :
    Action.Ends (Facade.xFileSize context connection) watched
      (fun _ next => At shape reads next ∧ next.state.Belongs context connection) (At shape reads) := by
  obtain ⟨block, base, live, aligned⟩ := holds.coherent.hosts context
  let vfs : Vfs := ⟨watched.state.contexts context, watched.state.files⟩
  have here : Live vfs.context block base := live
  obtain ⟨next, file, ended, reread⟩ := here.xFileSize_of belongs.upToDate
  obtain ⟨after, still⟩ := holds.reread belongs aligned live reread
  rw [Action.Ends, Facade.xFileSize, note, onFile_of belongs.context_eq ended]
  exact ⟨after.noted ⟨base, live.committedImage_eq, rfl⟩, still⟩

theorem At.readCalls (calls : List ReadCall) (holds : At shape reads watched)
    (belongs : watched.state.Belongs context connection) :
    Action.Ends (Facade.readCalls context connection calls) watched
      (fun _ next => At shape reads next ∧ next.state.Belongs context connection) (At shape reads) := by
  induction calls generalizing watched with
  | nil => exact ⟨holds, belongs⟩
  | cons call rest ih =>
      cases call with
      | xRead amount offset =>
          exact (holds.xRead belongs amount offset).bind fun _ next after => ih after.1 after.2
      | xFileSize => exact (holds.xFileSize belongs).bind fun _ next after => ih after.1 after.2

/-! ## Queries -/

/-- A file that was just opened has kept nothing yet, and is nobody else's. -/
theorem At.installed (holds : At shape reads watched) (context : ι) :
    At shape reads { watched with state := watched.state.installed context } ∧
      (watched.state.installed context).Belongs context watched.state.opened := by
  constructor
  · refine ⟨⟨holds.coherent.hosts, fun other connection found => ?_, holds.coherent.reading, holds.coherent.distinct,
      holds.coherent.writers⟩, holds.right, holds.shape_eq, holds.reads_eq⟩
    have belongs := holds.coherent.cached other connection found
    have older : connection ≠ watched.state.opened := Nat.ne_of_lt belongs.known
    refine ⟨?_, Nat.lt_succ_of_lt belongs.known, ?_⟩
    · exact (Function.update_of_ne older ..).trans belongs.context_eq
    · change UpToDate (watched.state.contexts other)
        (Function.update watched.state.files watched.state.opened (IcStableFile.new true) connection)
      rw [Function.update_of_ne older]
      exact belongs.upToDate
  · refine ⟨Function.update_self .., Nat.lt_succ_self _, ?_⟩
    change UpToDate (watched.state.contexts context)
      (Function.update watched.state.files watched.state.opened (IcStableFile.new true) watched.state.opened)
    rw [Function.update_self]
    exact upToDate_new _

theorem At.openReadOnly (holds : At shape reads watched) (within : shape.currentContext = some context)
    (opening : ReadOpening) :
    Action.Ends (Facade.openReadOnly context opening) watched
      (fun connection next => At shape reads next ∧ next.state.Belongs context connection) (At shape reads) := by
  refine (holds.xOpen within).bind ?_
  rintro file opened ⟨rfl, after⟩
  obtain ⟨installed, belongs⟩ := after.installed file
  refine Action.ends_after_ok rfl ((installed.readCalls opening.calls belongs).bind ?_)
  rintro _ next ⟨read, still⟩
  cases opening.error with
  | none => exact ⟨read, still⟩
  | some error => exact read

/-- A query runs on the connection that is open already, if there is one. -/
theorem At.readConnection (holds : At shape reads watched) (within : shape.currentContext = some context)
    (opening : ReadOpening) :
    Action.Ends (Facade.readConnection context opening) watched
      (fun connection next => At shape reads next ∧ next.state.readConnections context = some connection)
      (At shape reads) := by
  refine Action.ends_read_bind ?_
  cases cached : watched.state.readConnections context with
  | some connection => exact ⟨holds, cached⟩
  | none =>
      have idle : shape.readDepth context = 0 := by
        by_contra deep
        have reading := holds.coherent.reading context
        rw [holds.readDepth_eq] at reading
        exact reading (Nat.pos_of_ne_zero deep) cached
      refine (holds.openReadOnly within opening).bind ?_
      rintro connection next ⟨after, belongs⟩
      refine ⟨after.cachedRead idle fun other same => ?_, Function.update_self ..⟩
      obtain rfl := Option.some.inj same
      exact belongs

/-- What a query leaves, if its closure leaves what it found. -/
theorem settles_query {f : Nat → FacadeM ι Unit} (opening : ReadOpening)
    (closure : ∀ connection, (0 < shape.readDepth context → reads context = some connection) →
      Settles ((shape.within context).setDepth context (shape.readDepth context + 1))
        (Function.update reads context (some connection)) (f connection)) :
    Settles shape reads (query context opening f) := by
  refine Settles.withContext fun watched holds => ?_
  refine (holds.readConnection rfl opening).bind ?_
  rintro connection next ⟨after, cached⟩
  have known : 0 < (shape.within context).readDepth context → reads context = some connection := by
    intro deep
    rw [← after.reads_eq context deep]
    exact cached
  refine Action.ends_after_ok rfl (Action.Ends.finally_ ?_)
  exact (closure connection known _ (after.entered cached)).imp (fun _ _ last => last.left known) fun _ last => last.left known

/-! ## Updates -/

/-- Behind the overlay of an update, open or not. -/
def Behind (shape : Shape ι) (reads : ι → Option Nat) (context : ι) (watched : Watched (Facade ι) (FacadeEvent ι)) :
    Prop := ∃ updating, At (shape.setUpdating context updating) reads watched

/-- The same, but for a read connection that an update may have left behind its image. -/
def Stale (shape : Shape ι) (reads : ι → Option Nat) (context : ι) (watched : Watched (Facade ι) (FacadeEvent ι)) :
    Prop := Behind shape reads context { watched with state := watched.state.cacheReadConnection context none }

/-- The shape inside of an update. -/
abbrev Shape.writing (context : ι) (shape : Shape ι) : Shape ι := (shape.within context).setUpdating context true

theorem Shape.writing_updating (shape : Shape ι) (context : ι) : (shape.writing context).updating context = true :=
  Function.update_self ..

theorem At.stale (holds : At (shape.writing context) reads watched) (idle : shape.readDepth context = 0) :
    Stale (shape.within context) reads context watched :=
  ⟨true, holds.cleared idle⟩

/-- The connection of an update is one to its own context. -/
theorem At.writeConnection (holds : At (shape.writing context) reads watched) (pragmas : SqlRun) :
    Action.Ends (Facade.writeConnection context pragmas) watched
      (fun file next => file = context ∧ At (shape.writing context) reads next) (At (shape.writing context) reads) := by
  refine Action.ends_read_bind ?_
  cases cached : watched.state.writeConnections context with
  | some file => exact ⟨holds.coherent.writers context file cached, holds⟩
  | none =>
      refine (holds.xOpen rfl).bind ?_
      rintro file opened ⟨rfl, after⟩
      refine (settles_execute (shape.writing_updating file) pragmas opened after).bind fun _ next ready => ?_
      exact ⟨rfl, ready.cachedWrite fun _ same => (Option.some.inj same).symm⟩

theorem At.commitUpdate (holds : At (shape.writing context) reads watched) (idle : shape.readDepth context = 0) :
    Action.Ends (Facade.onActive SqliteVfs.commitUpdate) watched (fun _ => Stale (shape.within context) reads context)
      (Stale (shape.within context) reads context) := by
  have published : ∀ {next : Context}, Hosts next ∧ next.overlay = none → Stale (shape.within context) reads context
      { watched with state := watched.state.setContext context next } := by
    rintro next ⟨hosts, closed⟩
    have after := (holds.cleared idle).renewed (Function.update_self ..) hosts
    rw [closed, Shape.setUpdating_setUpdating] at after
    exact ⟨_, after⟩
  refine holds.onActive rfl fun block base live aligned => ?_
  exact (live.commitUpdate_ends aligned).imp (fun _ _ => published) fun _ => published

theorem At.rollbackUpdate {updating : Bool} (holds : At (shape.setUpdating context updating) reads watched)
    (within : shape.currentContext = some context) :
    Action.Ends (Facade.onActive SqliteVfs.rollbackUpdate) watched
      (fun _ => At (shape.setUpdating context false) reads) (At (shape.setUpdating context false) reads) := by
  refine holds.onActive within fun block base live aligned => Action.ends_of_ok rfl ?_
  have after := holds.quiet live aligned ⟨live.closed, rfl⟩
  rwa [Shape.setUpdating_setUpdating] at after

theorem At.commitImmediate (holds : At (shape.writing context) reads watched) (idle : shape.readDepth context = 0)
    (sql : UpdateSql) :
    Action.Ends (Facade.commitImmediate context sql) watched (fun _ => Stale (shape.within context) reads context)
      (Stale (shape.within context) reads context) := by
  have updating := shape.writing_updating context
  refine (settles_execute updating sql.commit watched holds).attempt_bind ?_ ?_
  · exact fun _ next committed => committed.commitUpdate idle
  · intro error next failed
    have rolledBack := (settles_fileCalls updating sql.rollback.calls next failed).imp (fun _ _ after => after)
      fun _ after => after.stale idle
    exact rolledBack.bind fun _ _ after => after.stale idle

/-- What `run_immediate` leaves, if the closure leaves what it found. -/
theorem At.runImmediate {f : FacadeM ι Unit} (holds : At (shape.writing context) reads watched)
    (idle : shape.readDepth context = 0) (sql : UpdateSql) (closure : Settles (shape.writing context) reads f) :
    Action.Ends (Facade.runImmediate context sql f) watched (fun _ => Stale (shape.within context) reads context)
      (Stale (shape.within context) reads context) := by
  have updating := shape.writing_updating context
  have began := (settles_execute updating sql.begin_ watched holds).imp (fun _ _ after => after)
    fun _ after => after.stale idle
  refine began.bind fun _ next inside => ?_
  refine (closure next inside).attempt_bind ?_ ?_
  · exact fun _ last ended => ended.commitImmediate idle sql
  · intro error last failed
    have rolledBack := (settles_fileCalls updating sql.rollback.calls last failed).imp (fun _ _ after => after)
      fun _ after => after.stale idle
    refine rolledBack.bind fun _ open_ after => ?_
    have cleared : ∀ final, At ((shape.within context).setUpdating context false) reads final →
        Stale (shape.within context) reads context final := fun final closed => ⟨false, closed.cleared idle⟩
    exact ((after.rollbackUpdate rfl).imp (fun _ => cleared) cleared).bind fun _ final closed => closed

theorem At.withinOverlay {f : ι → FacadeM ι Unit} (holds : At (shape.writing context) reads watched)
    (idle : shape.readDepth context = 0) (sql : UpdateSql) (closure : Settles (shape.writing context) reads (f context)) :
    Action.Ends (Facade.withinOverlay context sql f) watched (fun _ => Behind (shape.within context) reads context)
      (Behind (shape.within context) reads context) := by
  have connected := (holds.writeConnection sql.pragmas).imp (fun _ _ after => after) fun _ after =>
    (⟨true, after⟩ : Behind (shape.within context) reads context _)
  refine connected.bind ?_
  rintro file next ⟨rfl, after⟩
  refine (after.runImmediate idle sql closure).attempt_bind ?_ ?_
  · exact fun _ last stale => stale
  · rintro error last ⟨updating, cleared⟩
    exact ⟨updating, cleared.cachedWrite fun _ same => by cases same⟩

theorem reject_of_idle (idle : watched.state.readDepth context = 0) :
    rejectActiveReadConnection context watched = (.ok (), watched) := by
  simp only [rejectActiveReadConnection, onState, Action.zoom, if_pos idle]

theorem reject_of_reading (reading : ¬ watched.state.readDepth context = 0) :
    rejectActiveReadConnection context watched = (.err .readConnectionInUse, watched) := by
  simp only [rejectActiveReadConnection, onState, Action.zoom, if_neg reading]

/-- What an operation does that may change the image, behind the check for open queries. -/
theorem At.unlessReading {rest : FacadeM ι α} {good : α → Watched (Facade ι) (FacadeEvent ι) → Prop}
    (holds : At shape reads watched)
    (continues : ∀ cleared, shape.readDepth context = 0 → At shape reads cleared →
      cleared.state.readConnections context = none → Action.Ends rest cleared good (At shape reads)) :
    Action.Ends (do
      rejectActiveReadConnection context
      clearReadConnection context
      rest) watched good (At shape reads) := by
  by_cases idle : shape.readDepth context = 0
  · have passed : watched.state.readDepth context = 0 := by
      rw [holds.readDepth_eq]
      exact idle
    refine Action.ends_after_ok (reject_of_idle passed) (Action.ends_after_ok rfl ?_)
    exact continues _ idle (holds.cleared idle) (Function.update_self ..)
  · have reading : ¬ watched.state.readDepth context = 0 := by
      rw [holds.readDepth_eq]
      exact idle
    exact Action.ends_of_err (Action.bind_of_err _ (reject_of_reading reading)) holds

/-- What an update leaves, if its closure leaves what it found. -/
theorem At.update {f : ι → FacadeM ι Unit} (holds : At shape reads watched) (sql : UpdateSql)
    (closure : Settles (shape.writing context) reads (f context)) :
    Action.Ends (Facade.update context sql f) watched
      (fun _ next => shape.readDepth context = 0 ∧ At shape reads next) (At shape reads) := by
  refine holds.withContext fun entered inside => inside.unlessReading fun cleared idle at_ _ => ?_
  have began : Action.Ends (Facade.onActive beginUpdate) cleared
      (fun _ next => (shape.within context).updating context = false ∧ At (shape.writing context) reads next)
      (At (shape.within context) reads) := by
    refine at_.onActive rfl fun block base live aligned => ?_
    have found := at_.updating_eq context
    rcases live.beginUpdate_ends with begun | refused
    · obtain ⟨next, ended, none, opened, quiet⟩ := begun
      have after := at_.quiet live aligned quiet
      rw [none] at found
      rw [opened] at after
      exact Action.ends_of_ok ended ⟨found.symm, after⟩
    · obtain ⟨error, next, ended, same, quiet⟩ := refused
      rw [← same] at found
      exact Action.ends_of_err ended (at_.quietly live aligned quiet found)
  refine began.bind ?_
  rintro _ next ⟨closed, open_⟩
  refine Action.Ends.finally_ ?_
  have dropped : ∀ last, Behind (shape.within context) reads context last →
      At (shape.within context) reads (Facade.onActive SqliteVfs.rollbackUpdate last).2 := by
    rintro last ⟨updating, left⟩
    have after := (left.rollbackUpdate rfl).after
    rwa [Shape.setUpdating_self closed] at after
  exact (open_.withinOverlay idle sql closure).imp (fun _ last behind => ⟨idle, dropped last behind⟩) dropped

/-! ## Refreshes and migrations -/

theorem settles_refreshWith {refresh : ContextM α}
    (rehosts : ∀ {before : Context} {block : Superblock} {base : List UInt8}, Live before block base →
      block.dbBaseOffset.toNat % sqlitePageSize = 0 →
      Action.Ends refresh before (fun _ => Rehosts before) (Rehosts before)) :
    Settles shape reads (refreshWith context refresh) := by
  refine Settles.withContext fun watched holds => holds.unlessReading fun cleared idle at_ none => ?_
  have refreshed : ∀ next, Rehosts (cleared.state.contexts context) next →
      At (shape.within context) reads { cleared with state := cleared.state.setContext context next } := by
    intro next rehosted
    have after := at_.renewed none rehosted.hosts
    rwa [rehosted.overlay, at_.updating_eq, Shape.setUpdating_self rfl] at after
  have ended : Action.Ends (onActive refresh) cleared (fun _ => At (shape.within context) reads)
      (At (shape.within context) reads) :=
    at_.onActive rfl fun block base live aligned => (rehosts live aligned).imp (fun _ => refreshed) refreshed
  exact ended.bind fun _ _ after => after

theorem At.storeTargetVersion (holds : At shape reads watched) (within : shape.currentContext = some context)
    (idle : shape.readDepth context = 0) (target : UInt64) :
    Action.Ends (Facade.storeTargetVersion context target) watched (fun _ => At shape reads) (At shape reads) := by
  have loaded : Action.Ends (Facade.onActive (onContextStore Superblock.load)) watched
      (fun block next => At shape reads next ∧ ∃ base, Live (next.state.contexts context) block base ∧
        block.dbBaseOffset.toNat % sqlitePageSize = 0) (At shape reads) := by
    refine holds.onActive within fun block base live aligned => ?_
    refine Action.ends_of_ok (onContextStore_of live.serves.coherent.load_eq)
      ⟨holds.quietly live aligned ⟨live.loaded, rfl⟩ (holds.updating_eq context), base, ?_, aligned⟩
    change Live (Function.update watched.state.contexts context _ context) block base
    rw [Function.update_self]
    exact live.loaded
  refine loaded.bind ?_
  rintro block next ⟨after, base, live, aligned⟩
  split
  · refine Action.ends_after_ok rfl ((after.cleared idle).onActive within fun stored image same sameAligned => ?_)
    obtain rfl := live.block_eq same
    have edit : SameImage stored { stored with schemaVersion := target } := ⟨rfl, rfl, rfl, rfl, rfl⟩
    obtain ⟨ended, edited⟩ := live.store_edited edit (live.imported_of ⟨rfl, rfl, rfl⟩)
    refine Action.ends_of_ok ended ?_
    have renewed := (after.cleared idle).renewed (Function.update_self ..) (.intro _ base edited (by
      rw [Superblock.stamped_dbBaseOffset]
      exact aligned))
    rwa [show (next.state.contexts context).overlay.isSome = shape.updating context from after.updating_eq context,
      Shape.setUpdating_self rfl] at renewed
  · exact after

theorem settles_migrate (sql : UpdateSql) (applied : SqlRun) (migrations : List Migration) :
    Settles shape reads (migrate context sql applied migrations) := by
  intro watched holds
  refine (holds.update sql (settles_execute (shape.writing_updating context) applied)).bind ?_
  rintro _ next ⟨idle, after⟩
  have stores : Action.Ends (Facade.withContext context (storeTargetVersion context (targetVersion migrations))) next
      (fun _ last => True ∧ At shape reads last) (At shape reads) := after.withContext fun entered inside =>
    (inside.storeTargetVersion rfl idle _).imp (fun _ _ last => ⟨True.intro, last⟩) fun _ last => last
  exact stores.imp (fun _ _ last => last.2) fun _ last => last

/-! ## Refusals -/

omit [DecidableEq ι] in
theorem withContext_of_err {call : FacadeM ι α} {error : DbError} {next : Watched (Facade ι) (FacadeEvent ι)}
    (ended : call { watched with state := watched.state.setCurrent (some context) } = (.err error, next)) :
    withContext context call watched =
      (.err error, { next with state := next.state.setCurrent watched.state.currentContext }) := by
  simp only [withContext, Action.finally_, ended]

/-- A call on the image that refuses an overlay. -/
def RefusesOverlay (call : ContextM α) : Prop :=
  ∀ {before : Context} {block : Superblock} {base : List UInt8} {overlay : Overlay}, Live before block base →
    before.overlay = some overlay → ∃ error next, call before = (.err error, next) ∧ next.overlay = before.overlay ∧
      next.store.memory = before.store.memory

theorem refusesOverlay_beginUpdate : RefusesOverlay beginUpdate := by
  intro before block base overlay live active
  rcases live.beginUpdate_ends with begun | refused
  · obtain ⟨_, _, none, _⟩ := begun
    rw [active] at none
    cases none
  · obtain ⟨error, next, ended, same, quiet⟩ := refused
    exact ⟨error, next, ended, same, quiet.memory⟩

theorem refusesOverlay_of_reject {rest : Unit → ContextM α} : RefusesOverlay (rejectDuringUpdate >>= rest) :=
  fun _ active => ⟨_, _, Action.bind_of_err _ (rejected_of_active active), rfl, rfl⟩

/-- What is refused while its context is busy has changed nothing that is open. -/
theorem At.refused {call : ContextM α} {rest : α → FacadeM ι Unit} (holds : At shape reads watched)
    (busy : 0 < shape.readDepth context ∨ shape.updating context = true) (refuses : RefusesOverlay call) :
    ∃ error next, Facade.withContext context (do
        rejectActiveReadConnection context
        clearReadConnection context
        let value ← Facade.onActive call
        rest value) watched = (.err error, next) ∧ Undisturbed watched.state next.state := by
  by_cases idle : watched.state.readDepth context = 0
  · obtain ⟨block, base, live, _⟩ := holds.coherent.hosts context
    have updating : (watched.state.contexts context).overlay.isSome = true := by
      rw [holds.readDepth_eq] at idle
      rw [holds.updating_eq]
      exact busy.resolve_left (idle ▸ Nat.lt_irrefl 0)
    obtain ⟨overlay, active⟩ := Option.isSome_iff_exists.mp updating
    obtain ⟨error, next, ended, same, memory⟩ := refuses live active
    let entered : Watched (Facade ι) (FacadeEvent ι) :=
      { watched with state := watched.state.setCurrent (some context) }
    let cleared : Watched (Facade ι) (FacadeEvent ι) :=
      { entered with state := entered.state.cacheReadConnection context none }
    have passed : rejectActiveReadConnection context entered = (.ok (), entered) := reject_of_idle idle
    have clears : clearReadConnection context entered = (.ok (), cleared) := rfl
    have stopped : Facade.onActive call cleared =
        (.err (.stable error), { cleared with state := cleared.state.setContext context next }) :=
      onActive_of_err rfl ended
    have ends : (do
        rejectActiveReadConnection context
        clearReadConnection context
        let value ← Facade.onActive call
        rest value) entered =
        (.err (.stable error), { cleared with state := cleared.state.setContext context next }) := by
      rw [Action.bind_of_ok _ passed, Action.bind_of_ok _ clears, Action.bind_of_err _ stopped]
    refine ⟨_, _, withContext_of_err ends, ?_, ?_, rfl, ?_⟩
    · intro other
      change (Function.update watched.state.contexts context next other).overlay = _
      by_cases here : other = context
      · rw [here, Function.update_self]
        exact same
      · rw [Function.update_of_ne here]
    · intro other
      change (Function.update watched.state.contexts context next other).store.memory = _
      by_cases here : other = context
      · rw [here, Function.update_self]
        exact memory
      · rw [Function.update_of_ne here]
    · intro other deep
      change Function.update watched.state.readConnections context none other = _
      refine Function.update_of_ne ?_ ..
      rintro rfl
      rw [idle] at deep
      cases deep
  · exact ⟨_, _, withContext_of_err (Action.bind_of_err _ (reject_of_reading idle)), fun _ => rfl, fun _ => rfl, rfl,
      fun _ _ => rfl⟩

theorem At.perform_refused (holds : At shape reads watched) (operation : Operation ι)
    (body : Frame ι → FacadeM ι Unit) (changes : operation.isQuery = false)
    (busy : 0 < shape.readDepth operation.context ∨ shape.updating operation.context = true) :
    ∃ error next, perform operation body watched = (.err error, next) ∧ Undisturbed watched.state next.state := by
  cases operation with
  | query context opening => cases changes
  | update context sql => exact holds.refused busy refusesOverlay_beginUpdate
  | migrate context sql applied migrations =>
      obtain ⟨error, next, ended, same⟩ := holds.refused busy refusesOverlay_beginUpdate
      exact ⟨error, next, Action.bind_of_err _ ended, same⟩
  | adoptMigrationChecksums context sql adopted => exact holds.refused busy refusesOverlay_beginUpdate
  | refreshChecksum context => exact holds.refused busy refusesOverlay_of_reject
  | refreshChecksumChunk context maxBytes => exact holds.refused busy refusesOverlay_of_reject

/-! ## Closures -/

/-- The connection that a closure was handed is still there. -/
def InScope (shape : Shape ι) (reads : ι → Option Nat) : Frame ι → Prop
  | .reading context connection => 0 < shape.readDepth context ∧ reads context = some connection
  | .writing context file => file = context ∧ shape.updating context = true

omit [DecidableEq ι] in
theorem InScope.busy {frame : Frame ι} (scope : InScope shape reads frame) :
    0 < shape.readDepth frame.context ∨ shape.updating frame.context = true := by
  cases frame with
  | reading context connection => exact .inl scope.1
  | writing context file => exact .inr scope.2

theorem InScope.queried {frame : Frame ι} (scope : InScope shape reads frame)
    (known : 0 < shape.readDepth context → reads context = some connection) :
    InScope ((shape.within context).setDepth context (shape.readDepth context + 1))
      (Function.update reads context (some connection)) frame := by
  cases frame with
  | reading other open_ =>
      obtain ⟨deep, cached⟩ := scope
      rw [InScope, Shape.setDepth_readDepth]
      by_cases same : other = context
      · subst same
        rw [if_pos rfl, Function.update_self, ← known deep, cached]
        exact ⟨Nat.succ_pos _, rfl⟩
      · rw [if_neg same, Function.update_of_ne same]
        exact ⟨deep, cached⟩
  | writing other file => exact scope

theorem InScope.updated {frame : Frame ι} (scope : InScope shape reads frame) :
    InScope (shape.writing context) reads frame := by
  cases frame with
  | reading other open_ => exact scope
  | writing other file =>
      refine ⟨scope.1, ?_⟩
      change Function.update shape.updating context true other = true
      by_cases same : other = context
      · rw [same, Function.update_self]
      · rw [Function.update_of_ne same]
        exact scope.2

/-- An operation leaves what it found, if closures do wherever their connections are. -/
theorem settles_perform (operation : Operation ι) {frames : List (Frame ι)} {body : Frame ι → FacadeM ι Unit}
    (scope : ∀ frame ∈ frames, InScope shape reads frame)
    (closure : ∀ {inner : Shape ι} {open_ : ι → Option Nat} (frame : Frame ι),
      (∀ other ∈ frame :: frames, InScope inner open_ other) → Settles inner open_ (body frame)) :
    Settles shape reads (perform operation body) := by
  cases operation with
  | query context opening =>
      refine settles_query opening fun connection known => closure _ ?_
      refine List.forall_mem_cons.mpr ⟨⟨?_, Function.update_self ..⟩, fun frame member => (scope frame member).queried known⟩
      rw [Shape.setDepth_readDepth, if_pos rfl]
      exact Nat.succ_pos _
  | update context sql =>
      have inside : Settles (shape.writing context) reads (body (.writing context context)) :=
        closure _ (List.forall_mem_cons.mpr
          ⟨⟨rfl, shape.writing_updating context⟩, fun frame member => (scope frame member).updated⟩)
      exact fun watched holds => (holds.update sql inside).imp (fun _ _ after => after.2) fun _ after => after
  | migrate context sql applied migrations => exact settles_migrate sql applied migrations
  | adoptMigrationChecksums context sql adopted =>
      have adopts : Settles (shape.writing context) reads (execute context adopted) :=
        settles_execute (shape.writing_updating context) adopted
      exact fun watched holds => (holds.update sql adopts).imp (fun _ _ after => after.2) fun _ after => after
  | refreshChecksum context =>
      exact settles_refreshWith fun live aligned => live.refreshChecksum_ends aligned
  | refreshChecksumChunk context maxBytes =>
      exact settles_refreshWith fun live aligned => live.refreshChecksumChunk_ends aligned maxBytes.toNat

theorem At.restored {next : Watched (Facade ι) (FacadeEvent ι)} (holds : At shape reads watched)
    (after : At shape reads next) : Restored watched.state next.state where
  activeContextId := by
    have same : next.state.shape = watched.state.shape := after.shape_eq.trans holds.shape_eq.symm
    have current : next.state.currentContext = watched.state.currentContext := congrArg Shape.currentContext same
    have default_ : next.state.defaultContext = watched.state.defaultContext := congrArg Shape.defaultContext same
    rw [activeContextId, current, default_]
    rfl
  readDepth := fun _ => by rw [after.readDepth_eq, holds.readDepth_eq]
  updating := fun _ => by rw [after.updating_eq, holds.updating_eq]

/-- The event of an operation is right. -/
theorem At.called {operation : Operation ι} {frames : List (Frame ι)} {body : Frame ι → FacadeM ι Unit}
    (holds : At shape reads watched) (scope : ∀ frame ∈ frames, InScope shape reads frame)
    (settles : Settles shape reads (perform operation body)) :
    Action.Ends (note (fun before outcome after => .called operation frames before outcome after)
      (perform operation body)) watched (fun _ => At shape reads) (At shape reads) := by
  have ends := settles watched holds
  have refused : operation.isQuery = false → Busy frames operation.context →
      ∃ error next, perform operation body watched = (.err error, next) ∧ Undisturbed watched.state next.state := by
    rintro changes ⟨frame, member, here⟩
    exact holds.perform_refused operation body changes (here ▸ (scope frame member).busy)
  rw [Action.Ends] at ends
  rw [Action.Ends, note]
  cases ended : perform operation body watched with
  | mk outcome next =>
      rw [ended] at ends refused
      have right : At shape reads next →
          (FacadeEvent.called operation frames watched.state outcome next.state).Right := by
        refine fun after => ⟨holds.restored after, fun changes busy => ?_⟩
        obtain ⟨error, last, same, undisturbed⟩ := refused changes busy
        obtain ⟨rfl, rfl⟩ := Prod.mk.inj same
        exact ⟨⟨error, rfl⟩, undisturbed⟩
      cases outcome with
      | ok value => exact ends.noted (right ends)
      | err error => exact ends.noted (right ends)
      | panic => exact ends

/-- Whatever a closure does, it leaves what it found. -/
theorem settles_exec (closure : Closure ι) {frames : List (Frame ι)}
    (scope : ∀ frame ∈ frames, InScope shape reads frame) : Settles shape reads (closure.exec frames) := by
  induction closure generalizing shape reads frames with
  | ret error => exact settles_reply error
  | xRead frame amount offset rest ih =>
      rw [Closure.exec]
      split
      · rename_i context connection found
        intro watched holds
        obtain ⟨deep, cached⟩ := scope _ (List.mem_of_getElem? found)
        have belongs := holds.coherent.cached context connection ((holds.reads_eq context deep).trans cached)
        exact (holds.xRead belongs amount offset).bind fun answer next after => ih answer scope next after.1
      · exact ih _ scope
  | xFileSize frame rest ih =>
      rw [Closure.exec]
      split
      · rename_i context connection found
        intro watched holds
        obtain ⟨deep, cached⟩ := scope _ (List.mem_of_getElem? found)
        have belongs := holds.coherent.cached context connection ((holds.reads_eq context deep).trans cached)
        exact (holds.xFileSize belongs).bind fun answer next after => ih answer scope next after.1
      · exact ih _ scope
  | writeFile frame method rest ih =>
      rw [Closure.exec]
      split
      · rename_i context file found
        obtain ⟨rfl, updating⟩ := scope _ (List.mem_of_getElem? found)
        exact (settles_writeFile updating method).bind fun _ => ih scope
      · exact ih scope
  | call operation body rest bodyIh restIh =>
      have performs : Settles shape reads (perform operation fun frame => body.exec (frame :: frames)) :=
        settles_perform operation scope fun frame inner => bodyIh inner
      intro watched holds
      exact (holds.called scope performs).attempt_bind (fun _ next after => restIh _ scope next after)
        fun _ next after => restIh _ scope next after

/-! ## From the first call on -/

/-- Handles over these stores.  No main file is open yet, so that it does not matter
which contexts the numbers have. -/
def initialized (defaultContext : Option ι) (opened : ι → Store) (fileContexts : Nat → ι) : Facade ι where
  defaultContext := defaultContext
  currentContext := none
  contexts := fun context => ⟨opened context, none⟩
  files := fun _ => IcStableFile.new true
  fileContexts := fileContexts
  opened := 0
  readConnections := fun _ => none
  writeConnections := fun _ => none
  activeReadConnections := []

theorem hosts_opened {context : Context} {opened : Store} (usable : Usable (fun block _ => Aligned block) context)
    (opens : initializeHandle context.store = (.ok (), opened)) : Hosts ⟨opened, none⟩ := by
  obtain ⟨block, base, _, presents, _⟩ := safe_opened usable opens fun _ => true
  exact .intro block base presents.live presents.aligned

theorem at_initialized {defaultContext : Option ι} {opened : ι → Store} {fileContexts : Nat → ι}
    (hosts : ∀ context, Hosts ⟨opened context, none⟩) :
    At (initialized defaultContext opened fileContexts).shape (fun _ => none)
      ⟨initialized defaultContext opened fileContexts, []⟩ where
  coherent :=
    { hosts
      cached := fun _ _ found => by cases found
      reading := fun _ deep => absurd deep (Nat.lt_irrefl 0)
      distinct := List.nodup_nil
      writers := fun _ _ found => by cases found }
  right := fun _ member => absurd member List.not_mem_nil
  shape_eq := rfl
  reads_eq := fun _ _ => rfl

end Facade

/-- Over whatever earlier calls have left in the memories of any number of handles, let
closures nest operations in any way.  Every read of a query's main file answers
from the committed image of its context; an operation that may change an
image is refused while its context is busy, and then leaves the overlays and the
open queries alone; and what a call found it has put back when it returns. -/
theorem nested_operations_are_coherent {ι : Type} [DecidableEq ι] (grants : ι → Nat → Bool)
    (before : ι → List BlobCall) (opened : ι → Store)
    (opens : ∀ context, initializeHandle (BlobCall.runAll (before context) (Context.fresh (grants context))).store =
      (.ok (), opened context))
    (defaultContext : Option ι) (fileContexts : Nat → ι) (closure : Closure ι) :
    let ended := closure.exec [] ⟨Facade.initialized defaultContext opened fileContexts, []⟩
    ended.1 ≠ .panic ∧ ∀ event ∈ ended.2.seen, event.Right := by
  intro ended
  have hosts : ∀ context, Hosts ⟨opened context, none⟩ := fun context =>
    Facade.hosts_opened (usable_runAll survivesEvery_aligned (before context) (usable_fresh (grants context)))
      (opens context)
  let start := Facade.initialized defaultContext opened fileContexts
  have settles : Facade.Settles start.shape (fun _ => none) (closure.exec []) :=
    Facade.settles_exec closure fun _ member => absurd member List.not_mem_nil
  have ends := settles ⟨start, []⟩ (Facade.at_initialized hosts)
  exact ⟨ends.not_panic, ends.after.right⟩

/-- SQLite that reports no errors and touches the main file in its COMMIT only. -/
def obligingSql : UpdateSql := ⟨⟨[], none⟩, ⟨[], none⟩, ⟨[.write 4 [9]], none⟩, ⟨[], none⟩⟩

/-- An update that queries its own image, and from there tries to update it again
and updates that of the other handle. -/
def queryInsideOfUpdate : Closure Bool :=
  .call (.update true obligingSql)
    (.writeFile 0 (.write 0 [1, 2, 3])
      (.call (.query true ⟨[.xFileSize], none⟩)
        (.call (.update true obligingSql) (.ret none) fun _ =>
          .call (.update false obligingSql) (.ret none) fun _ =>
            .xRead 0 4 0 fun _ => .ret (some .notFound))
        fun _ => .call (.refreshChecksum true) (.ret none) fun _ => .ret none))
    fun _ => .call (.query true ⟨[], none⟩) (.xRead 0 4 0 fun _ => .ret none) fun _ => .ret none

theorem query_inside_of_update_is_coherent :
    ∃ opened, initializeHandle (Context.fresh fun _ => true).store = (.ok (), opened) ∧
      let ended := queryInsideOfUpdate.exec [] ⟨Facade.initialized none (fun _ => opened) fun _ => true, []⟩
      ended.1 ≠ .panic ∧ ∀ event ∈ ended.2.seen, event.Right := by
  have pristine : Pristine (Context.fresh fun _ => true).store := ⟨rfl, rfl⟩
  obtain ⟨after, ended, serves⟩ := pristine.load_granted rfl
  have opens : initializeHandle (Context.fresh fun _ => true).store =
      (.ok (), { after with superblockCache := some Superblock.fresh }) := by
    rw [initializeHandle, Action.bind_of_ok _ ended, ensureCurrentLayout_of serves]
  exact ⟨_, opens, nested_operations_are_coherent (fun _ _ => true) (fun _ => []) _ (fun _ => opens) none _ _⟩

end IcSqliteVfs.Db
