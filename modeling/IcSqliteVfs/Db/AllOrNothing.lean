import IcSqliteVfs.Db.QueryBudget
import IcSqliteVfs.Db.UpdateBudget
import IcSqliteVfs.Db.UpdateExit

namespace IcSqliteVfs.Db

open IcSqliteVfs.Semantics IcSqliteVfs.Stable IcSqliteVfs.SqliteVfs

/-! # All of an update, or nothing

Up to `commit_update` a budgeted update works on its overlay alone; the guards
end it on the side of the publication that it has reached.
-/

namespace Update

variable {δ ω α : Type} {before : HandleState δ ω} {block : Superblock} {base : List UInt8} {budget : UpdateBudget}
  {settings : QueryConnection} {authorizer : Bool} {host : UpdateHost δ} {state : Query.BudgetLimit} {sql : String}
  {call : UpdateCall δ ω}

/-! ## Before the publication -/

/-- An update that has published nothing, on a connection with these settings. -/
structure Pending (before : HandleState δ ω) (block : Superblock) (base : List UInt8) (budget : UpdateBudget)
    (settings : QueryConnection) (authorizer : Bool) (call : UpdateCall δ ω) : Prop where
  file : Budgeted before.context.store.memory block base budget.maxDirtyPages.toNat budget.maxChangedBytes.toNat
    call.seen call.handle.context
  database : call.handle.database = before.database
  activeReads : call.handle.activeReads = before.activeReads
  settings_eq : call.settings = settings
  authorizer_eq : call.authorizer = authorizer
  unpublished : call.published = false
  uncommitted : call.commitAnswer = none

/-- COMMIT has ended the transaction. -/
structure Committing (before : HandleState δ ω) (block : Superblock) (base : List UInt8) (budget : UpdateBudget)
    (settings : QueryConnection) (call : UpdateCall δ ω) : Prop where
  pending : Pending before block base budget settings false call
  idle : call.handle.writeConnection = some ⟨none⟩

/-- The counter, its flag and the metrics do not matter. -/
def Blind (kept : UpdateCall δ ω → Prop) : Prop :=
  ∀ call readings exceeded metrics, kept call → kept { call with readings, exceeded, metrics }

theorem blind_pending : Blind (Pending before block base budget settings authorizer) :=
  fun _ _ _ _ pending => ⟨pending.file, pending.database, pending.activeReads, pending.settings_eq,
    pending.authorizer_eq, pending.unpublished, pending.uncommitted⟩

theorem blind_committing : Blind (Committing before block base budget settings) :=
  fun call readings exceeded metrics committing =>
    ⟨blind_pending call readings exceeded metrics committing.pending, committing.idle⟩

section Blind

variable {kept : UpdateCall δ ω → Prop}

/-- A call of the budget that leaves the connection alone. -/
theorem Blind.onQuery (blind : Blind kept) {phase : Query.QueryM Unit α}
    (alone : ∀ query, (phase query).2.connection = query.connection) :
    Action.Keeps kept (Update.onQuery phase) fun _ => True := by
  intro call holds
  refine ⟨?_, fun _ _ => trivial⟩
  have connection := alone call.query
  rw [Update.onQuery, Action.zoom, Action.mapError]
  cases ended : phase call.query with
  | mk outcome next =>
      rw [ended] at connection
      have kept : kept (call.withQuery next) := by
        rw [UpdateCall.withQuery, show next.connection = call.settings from connection]
        exact blind call next.readings next.exceeded call.metrics holds
      cases outcome with
      | ok value => exact kept
      | err error => exact kept
      | panic => exact kept

theorem Blind.check (blind : Blind kept) (host : UpdateHost δ) (state : Query.BudgetLimit) :
    Action.Keeps kept (Update.check host state) fun _ => True := by
  apply blind.onQuery
  intro query
  rcases Query.check_cases host.query state query with passed | stopped
  · obtain ⟨next, ended, ticked⟩ := passed
    rw [ended]
    exact ticked.connection
  · obtain ⟨next, ended, ticked, _⟩ := stopped
    rw [ended]
    exact ticked.connection

theorem Blind.counter_returns (blind : Blind kept) (host : UpdateHost δ) (holds : kept call) :
    Action.Returns (Update.instructionCounter host) call fun _ => kept := by
  obtain ⟨reading, next, ended, _, _, _, _, ticked⟩ :=
    @Query.instructionCounter_returns _ host.query ⟨none, none⟩ call.query
  refine ⟨reading, call.withQuery next, ?_, ?_⟩
  · rw [Update.instructionCounter, Update.onQuery, Action.zoom, Action.mapError, ended]
  · rw [UpdateCall.withQuery, show next.connection = call.settings from ticked.connection]
    exact blind call next.readings next.exceeded call.metrics holds

theorem Blind.instructionCounter (blind : Blind kept) (host : UpdateHost δ) :
    Action.Keeps kept (Update.instructionCounter host) fun _ => True := by
  intro call holds
  obtain ⟨reading, next, ended, kept⟩ := blind.counter_returns host holds
  rw [ended]
  exact ⟨kept, fun _ _ => trivial⟩

theorem Blind.delta_returns (blind : Blind kept) (host : UpdateHost δ) (start : Option UInt64) (holds : kept call) :
    Action.Returns (Update.delta host start) call fun _ => kept := by
  obtain ⟨spent, next, ended, _, ticked⟩ := @Query.delta_returns _ host.query ⟨none, none⟩ start call.query
  refine ⟨spent, call.withQuery next, by rw [Update.delta, Update.onQuery, Action.zoom, Action.mapError, ended], ?_⟩
  rw [UpdateCall.withQuery, show next.connection = call.settings from ticked.connection]
  exact blind call next.readings next.exceeded call.metrics holds

theorem Blind.delta (blind : Blind kept) (host : UpdateHost δ) (start : Option UInt64) :
    Action.Keeps kept (Update.delta host start) fun _ => True := by
  intro call holds
  obtain ⟨spent, next, ended, kept⟩ := blind.delta_returns host start holds
  rw [ended]
  exact ⟨kept, fun _ _ => trivial⟩

theorem Blind.watched (blind : Blind kept) (host : UpdateHost δ) (state : Query.BudgetLimit) (times : Nat)
    (error : Option DbError) :
    Action.Keeps kept (Update.onQuery (state.watched host.query times error)) fun _ => True := by
  apply blind.onQuery
  intro query
  obtain ⟨_, next, ended, ticked, _⟩ := Query.watched_returns host.query state times error query
  rw [ended]
  exact ticked.connection

theorem Blind.record (blind : Blind kept) (change : UpdateMetrics → UpdateMetrics) :
    Action.Keeps kept (Update.record change) fun _ => True :=
  Action.keeps_modify fun call holds => blind call call.readings call.exceeded (change call.metrics) holds

theorem Blind.timed (blind : Blind kept) {phase : BudgetedM δ ω α} {result : α → Prop}
    (keeps : Action.Keeps kept phase result) (change : Option UInt64 → UpdateMetrics → UpdateMetrics) :
    Action.Keeps kept (Update.timed host phase change) fun _ => True := by
  refine (blind.instructionCounter host).bind fun start _ => keeps.attempt.bind fun ended _ => ?_
  refine (blind.delta host start).bind fun spent _ => (blind.record _).bind fun _ _ => ?_
  exact Action.keeps_pure trivial

theorem keeps_raise (error : Option DbError) : Action.Keeps kept (raise error) fun _ => True := by
  cases error with
  | none => exact Action.keeps_pure trivial
  | some error => exact Action.keeps_fail _

theorem keeps_settled (outcome : Outcome UpdateError α) : Action.Keeps kept (settled outcome) fun _ => True := by
  cases outcome with
  | ok value => exact Action.keeps_pure trivial
  | err error => exact Action.keeps_fail _
  | panic => exact Action.keeps_panic

theorem keeps_bindTo (value : Outcome DbError Unit) : Action.Keeps kept (bindTo value) fun _ => True := by
  cases value with
  | ok _ => exact Action.keeps_pure trivial
  | err error => exact Action.keeps_pure trivial
  | panic => exact Action.keeps_panic

theorem Blind.bindChecked (blind : Blind kept) (host : UpdateHost δ) (state : Query.BudgetLimit)
    (values : List (Outcome DbError Unit)) : Action.Keeps kept (Update.bindChecked host state values) fun _ => True := by
  induction values with
  | nil => exact Action.keeps_pure trivial
  | cons value rest ih =>
      refine (blind.check host state).bind fun _ _ => (keeps_bindTo value).bind fun bound _ => ?_
      exact (blind.check host state).bind fun _ _ => (keeps_raise bound).bind fun _ _ => ih

theorem keeps_bindAll (values : List (Outcome DbError Unit)) : Action.Keeps kept (bindAll values) fun _ => True := by
  induction values with
  | nil => exact Action.keeps_pure trivial
  | cons value rest ih => exact (keeps_bindTo value).bind fun bound _ => (keeps_raise bound).bind fun _ _ => ih

theorem Blind.bindValues (blind : Blind kept) : Action.Keeps kept (Update.bindValues host state) fun _ => True := by
  refine (keeps_raise host.bindRefused).bind fun _ _ => ?_
  split
  · exact blind.bindChecked host state _
  · exact keeps_bindAll _

end Blind

/-! ## The statement -/

theorem Pending.onFile (pending : Pending before block base budget settings authorizer call)
    (calls : List OverlayCall) : Pending before block base budget settings authorizer (call.onFile calls) :=
  ⟨pending.file.fileCalls calls, pending.database, pending.activeReads, pending.settings_eq, pending.authorizer_eq,
    pending.unpublished, pending.uncommitted⟩

theorem Pending.onTransaction (pending : Pending before block base budget settings authorizer call)
    (effect : Option δ → Option δ) : Pending before block base budget settings authorizer (call.onTransaction effect) :=
  ⟨pending.file, pending.database, pending.activeReads, pending.settings_eq, pending.authorizer_eq,
    pending.unpublished, pending.uncommitted⟩

theorem Pending.performed (pending : Pending before block base budget settings authorizer call)
    (sqlite : SqliteCall δ) : Pending before block base budget settings authorizer (call.performed sqlite) := by
  have ran := (pending.onFile sqlite.fileCalls).onTransaction sqlite.effect
  exact ⟨ran.file, ran.database, ran.activeReads, ran.settings_eq, ran.authorizer_eq, ran.unpublished, ran.uncommitted⟩

theorem keeps_sqliteCall (sqlite : SqliteCall δ) :
    Action.Keeps (Pending before block base budget settings authorizer) (sqliteCall host state sqlite)
      fun _ => True := by
  refine (Action.keeps_modify fun _ pending => pending.performed sqlite).bind fun _ _ => ?_
  refine Action.keeps_read.bind fun call _ => ?_
  exact blind_pending.watched host state _ _

theorem keeps_drain (steps : List (SqliteCall δ)) :
    Action.Keeps (Pending before block base budget settings authorizer) (drain host state steps) fun _ => True := by
  induction steps with
  | nil => exact Action.keeps_pure trivial
  | cons step rest ih =>
      refine (blind_pending.check host state).bind fun _ _ => (keeps_sqliteCall step).bind fun row _ => ?_
      exact (blind_pending.check host state).bind fun _ _ => (keeps_raise row).bind fun _ _ => ih

theorem keeps_execute :
    Action.Keeps (Pending before block base budget settings authorizer) (execute host budget state sql)
      fun _ => True := by
  have blind : Blind (Pending before block base budget settings authorizer) := blind_pending
  have prepares : Action.Keeps (Pending before block base budget settings authorizer) (prepareSql host state)
      fun _ => True := (keeps_sqliteCall host.prepared).bind fun error _ => keeps_raise error
  rw [execute]
  split
  · exact Action.keeps_fail _
  · refine (blind.timed prepares _).bind fun prepared _ => (blind.check host state).bind fun _ _ => ?_
    refine (keeps_settled prepared).bind fun _ _ => ?_
    split
    · exact Action.keeps_fail _
    · refine (blind.timed blind.bindValues _).bind fun bound _ => (blind.check host state).bind fun _ _ => ?_
      refine (keeps_settled bound).bind fun _ _ => (blind.timed (keeps_drain _) _).bind fun stepped _ => ?_
      refine (keeps_settled stepped).bind fun _ _ => Action.keeps_read.bind fun call _ => ?_
      exact Action.keeps_pure trivial

/-- The authorizer is gone after the statement. -/
theorem keeps_withAuthorizer {body : BudgetedM δ ω α} {result : α → Prop}
    (keeps : Action.Keeps (Pending before block base budget settings true) body result) :
    Action.Keeps (Pending before block base budget settings false) (withAuthorizer host body) fun _ => True := by
  rw [withAuthorizer]
  cases host.authorized with
  | some error => exact Action.keeps_fail _
  | none =>
      intro call pending
      have entered : Pending before block base budget settings true { call with authorizer := true } :=
        ⟨pending.file, pending.database, pending.activeReads, pending.settings_eq, rfl, pending.unpublished,
          pending.uncommitted⟩
      have left := (keeps _ entered).1
      exact ⟨⟨left.file, left.database, left.activeReads, left.settings_eq, rfl, left.unpublished, left.uncommitted⟩,
        fun _ _ => trivial⟩

/-! ## COMMIT -/

theorem commitSql_leaves (pending : Pending before block base budget settings false call) :
    Action.Leaves (commitSql host state) call
      (fun committed next => Pending before block base budget settings false next ∧
        (committed = none → next.handle.writeConnection = some ⟨none⟩))
      (Pending before block base budget settings false) := by
  refine ((keeps_sqliteCall host.committed).leaves pending).bind fun committed next kept => ?_
  cases committed with
  | some error => exact Action.leaves_pure ⟨kept.1, fun same => (by cases same)⟩
  | none =>
      cases inside : next.handle.writeConnection.bind Connection.transaction with
      | none =>
          have ended : (endTransaction none : BudgetedM δ ω (Option DbError)) next =
              (.ok (some (.sqlite 1 "cannot commit - no transaction is active")), next) := by
            simp only [endTransaction, inside]
          exact Action.leaves_of_ok ended ⟨kept.1, fun same => (by cases same)⟩
      | some database =>
          have done := kept.1
          refine Action.leaves_of_ok (by simp only [endTransaction, inside]; rfl) ?_
          exact ⟨⟨done.file, done.database, done.activeReads, done.settings_eq, done.authorizer_eq, done.unpublished,
            done.uncommitted⟩, fun _ => rfl⟩

theorem checkStats_of_none {stats : WriteStats} (fits : stats.exceeded = none) :
    (checkStats stats : BudgetedM δ ω Unit) call = (.ok (), call) := by
  simp only [checkStats, fits]
  rfl

theorem checkStats_of_some {stats : WriteStats} {bytes : Bool} (refused : stats.exceeded = some bytes) :
    (checkStats stats : BudgetedM δ ω Unit) call = (.err (.budgetExceeded (exceededKind bytes)), call) := by
  simp only [checkStats, refused]
  rfl

/-- The observed part ends with a finished transaction and no refused page, or with nothing. -/
theorem observed_leaves (pending : Pending before block base budget settings false call) :
    Action.Leaves (observed host budget state sql) call
      (fun _ next => Committing before block base budget settings next ∧
        next.handle.context.writeStats.exceeded = none)
      (Pending before block base budget settings false) := by
  have blind : Blind (Pending before block base budget settings false) := blind_pending
  refine ((keeps_withAuthorizer keeps_execute).leaves pending).bind fun changes executed kept => ?_
  refine ((blind.check host state).leaves kept.1).bind fun _ checked kept => ?_
  refine ((blind.instructionCounter host).leaves kept.1).bind fun start counted kept => ?_
  refine (commitSql_leaves kept.1).bind fun committed ended kept => ?_
  cases committed with
  | some error =>
      refine ((blind.delta host start).leaves kept.1).bind fun spent measured kept => ?_
      refine ((blind.record _).leaves kept.1).bind fun _ recorded kept => ?_
      refine ((blind.check host state).leaves kept.1).bind fun _ checked kept => ?_
      exact Action.leaves_fail _ kept.1
  | none =>
      have idle : Committing before block base budget settings ended := ⟨kept.1, kept.2 rfl⟩
      have later : Blind (Committing before block base budget settings) := blind_committing
      have lost : ∀ next, Committing before block base budget settings next →
          Pending before block base budget settings false next := fun _ committing => committing.pending
      refine (((later.delta host start).leaves idle).imp (fun _ _ kept => kept) lost).bind fun spent measured kept => ?_
      refine (((later.record _).leaves kept.1).imp (fun _ _ kept => kept) lost).bind fun _ recorded kept => ?_
      refine (((later.check host state).leaves kept.1).imp (fun _ _ kept => kept) lost).bind fun _ checked kept => ?_
      refine Action.leaves_after_ok (show raise none checked = (.ok (), checked) from rfl)
        (Action.leaves_read_bind ?_)
      cases refused : checked.handle.context.writeStats.exceeded with
      | some bytes =>
          have stopped := @checkStats_of_some _ _ checked _ _ refused
          exact Action.leaves_of_err (Action.bind_of_err _ stopped) kept.1.pending
      | none =>
          have passed := @checkStats_of_none _ _ checked _ refused
          exact Action.leaves_of_ok (Action.bind_of_ok _ passed) ⟨kept.1, refused⟩

/-- The observer is gone after the transaction. -/
theorem withObserver_leaves {body : BudgetedM δ ω α} {queryBudget : QueryBudget} {post : UpdateCall δ ω → Prop}
    (observed : settings.Observed) (pending : Pending before block base budget settings false call)
    (leaves : ∀ entered, Pending before block base budget (settings.enter queryBudget) false entered →
      Action.Leaves body entered
        (fun _ next => Committing before block base budget (settings.enter queryBudget) next ∧ post next)
        (Pending before block base budget (settings.enter queryBudget) false))
    (unset : ∀ call settings, post call → post { call with settings }) :
    Action.Leaves (withObserver queryBudget body) call
      (fun _ next => Committing before block base budget settings next ∧ post next)
      (Pending before block base budget settings false) := by
  rw [Action.Leaves, withObserver]
  cases active : call.settings.queryObserverActive with
  | true => exact pending
  | false =>
      have idle : settings.queryObserverActive = false := by
        rw [← pending.settings_eq]
        exact active
      have entered : Pending before block base budget (settings.enter queryBudget) false
          { call with settings := call.settings.enter queryBudget } :=
        ⟨pending.file, pending.database, pending.activeReads, by rw [pending.settings_eq], pending.authorizer_eq,
          pending.unpublished, pending.uncommitted⟩
      let restore : UpdateCall δ ω → UpdateCall δ ω := fun next =>
        { next with settings := (call.settings.guard queryBudget).drop next.settings }
      have restored : ∀ next, Pending before block base budget (settings.enter queryBudget) false next →
          Pending before block base budget settings false (restore next) := by
        intro next left
        refine ⟨left.file, left.database, left.activeReads, ?_, left.authorizer_eq, left.unpublished, left.uncommitted⟩
        rw [show (restore next).settings = (call.settings.guard queryBudget).drop next.settings from rfl,
          left.settings_eq, pending.settings_eq]
        exact drop_enter observed idle queryBudget
      have dropped : Action.Leaves body { call with settings := call.settings.enter queryBudget }
          (fun _ next => Committing before block base budget settings (restore next) ∧ post (restore next))
          fun next => Pending before block base budget settings false (restore next) := by
        refine (leaves _ entered).imp (fun _ next kept => ?_) restored
        exact ⟨⟨restored next kept.1.pending, kept.1.idle⟩, unset next _ kept.2⟩
      have finished : Action.Leaves (Action.finally_ body restore) { call with settings := call.settings.enter queryBudget }
          (fun _ next => Committing before block base budget settings next ∧ post next)
          (Pending before block base budget settings false) := dropped.finally_
      exact finished

/-! ## The publication -/

/-- `commit_update` has returned. -/
structure Published (before : HandleState δ ω) (settings : QueryConnection) (call : UpdateCall δ ω) : Prop where
  live : ∃ served image, Live call.handle.context served image
  closed : call.handle.context.overlay = none
  activeReads : call.handle.activeReads = before.activeReads
  settings_eq : call.settings = settings
  authorizer_eq : call.authorizer = false
  idle : call.handle.writeConnection = some ⟨none⟩
  published : call.published = true
  committed : call.commitAnswer = some (.ok ())
  granted : ∀ event ∈ call.seen, ¬ event.Refused

/-- `commit_update` has failed. -/
structure Rejected (before : HandleState δ ω) (block : Superblock) (base : List UInt8) (settings : QueryConnection)
    (call : UpdateCall δ ω) : Prop where
  quiet : Quiet block base before.context call.handle.context
  database : call.handle.database = before.database
  activeReads : call.handle.activeReads = before.activeReads
  settings_eq : call.settings = settings
  authorizer_eq : call.authorizer = false
  idle : call.handle.writeConnection = some ⟨none⟩
  unpublished : call.published = false
  failed : ∃ error, call.commitAnswer = some (.err error)
  granted : ∀ event ∈ call.seen, ¬ event.Refused

/-- Nothing was published. -/
inductive Failed (before : HandleState δ ω) (block : Superblock) (base : List UInt8) (budget : UpdateBudget)
    (settings : QueryConnection) (call : UpdateCall δ ω) : Prop where
  | pending (pending : Pending before block base budget settings false call)
  | rejected (rejected : Rejected before block base settings call)

theorem blind_published : Blind (Published before settings) :=
  fun _ _ _ _ done => ⟨done.live, done.closed, done.activeReads, done.settings_eq, done.authorizer_eq, done.idle,
    done.published, done.committed, done.granted⟩

theorem blind_failed : Blind (Failed before block base budget settings) := by
  intro call readings exceeded metrics failed
  cases failed with
  | pending pending => exact .pending (blind_pending call readings exceeded metrics pending)
  | rejected lost =>
      exact .rejected ⟨lost.quiet, lost.database, lost.activeReads, lost.settings_eq, lost.authorizer_eq, lost.idle,
        lost.unpublished, lost.failed, lost.granted⟩

theorem Pending.quiet (pending : Pending before block base budget settings authorizer call) :
    Quiet block base before.context call.handle.context :=
  ⟨pending.file.live, pending.file.memory_eq⟩

/-- With a clear marker no page was refused. -/
theorem Pending.granted (pending : Pending before block base budget settings authorizer call)
    (clear : call.handle.context.writeStats.exceeded = none) : ∀ event ∈ call.seen, ¬ event.Refused := by
  intro event member refused
  have marked := pending.file.exceeded_iff.mpr ⟨event, member, refused⟩
  rw [clear] at marked
  cases marked

theorem commitOverlay_leaves (committing : Committing before block base budget settings call)
    (clear : call.handle.context.writeStats.exceeded = none) :
    Action.Leaves commitOverlay call
      (fun _ next => Published before settings { next with published := true, handle := next.handle.publish })
      (Failed before block base budget settings) := by
  have pending := committing.pending
  have granted := pending.granted clear
  rcases pending.file.live.commitUpdate_cases with quiet | stored | refused
  · obtain ⟨context, ended, closed, same⟩ := quiet
    refine Action.leaves_of_ok (by rw [commitOverlay, ended]) ?_
    exact ⟨⟨block, base, same.live⟩, closed, pending.activeReads, pending.settings_eq, pending.authorizer_eq,
      committing.idle, rfl, rfl, granted⟩
  · obtain ⟨overlay, zeroExtents, grown, image, ended, _, _, after⟩ := stored
    refine Action.leaves_of_ok (by rw [commitOverlay, ended]) ?_
    exact ⟨⟨_, image, after⟩, rfl, pending.activeReads, pending.settings_eq, pending.authorizer_eq,
      committing.idle, rfl, rfl, granted⟩
  · obtain ⟨error, context, ended, _, same⟩ := refused
    refine Action.leaves_of_err (by rw [commitOverlay, ended]) (.rejected ?_)
    exact ⟨pending.quiet.trans same, pending.database, pending.activeReads, pending.settings_eq, pending.authorizer_eq,
      committing.idle, pending.unpublished, ⟨error, rfl⟩, granted⟩

theorem publish_leaves (committing : Committing before block base budget settings call)
    (clear : call.handle.context.writeStats.exceeded = none) (start : Option UInt64) (stats : WriteStats) :
    Action.Leaves (publish host start stats) call (fun _ => Published before settings)
      (Failed before block base budget settings) := by
  have recorded := blind_committing call call.readings call.exceeded
    { call.metrics with peakDirtyPages := stats.dirtyPages, overlayPeakBytes := stats.peakBytes } committing
  refine Action.leaves_read_bind (Action.leaves_after_ok (Action.modify_apply _) ?_)
  refine (commitOverlay_leaves recorded clear).bind fun _ next done => ?_
  refine Action.leaves_after_ok (Action.modify_apply _) (Action.leaves_after_ok (Action.modify_apply _) ?_)
  obtain ⟨spent, measured, ended, kept⟩ := blind_published.delta_returns host start
    (blind_published _ next.readings next.exceeded _ done)
  refine Action.leaves_after_ok ended (Action.leaves_modify ?_)
  exact blind_published measured measured.readings measured.exceeded _ kept

/-! ## Around the publication -/

theorem keeps_beginSql (run : SqliteRun) :
    Action.Keeps (Pending before block base budget settings authorizer) (onHandle (beginSql run)) fun _ => True := by
  intro call pending
  have after : ∃ connection, (beginSql run call.handle).2 = { call.handle with writeConnection := connection } := by
    rw [beginSql]
    split
    · exact ⟨_, rfl⟩
    · split
      · exact ⟨_, rfl⟩
      · exact ⟨_, rfl⟩
    · exact ⟨_, rfl⟩
  obtain ⟨connection, after⟩ := after
  refine ⟨?_, fun _ _ => trivial⟩
  rw [onHandle, Action.zoom, Action.mapError]
  cases ended : beginSql run call.handle with
  | mk outcome next =>
      rw [ended] at after
      have kept : Pending before block base budget settings authorizer (call.withHandle next) := by
        rw [show next = { call.handle with writeConnection := connection } from after]
        exact ⟨pending.file, pending.database, pending.activeReads, pending.settings_eq, pending.authorizer_eq,
          pending.unpublished, pending.uncommitted⟩
      cases outcome with
      | ok value => exact kept
      | err error => exact kept
      | panic => exact kept

theorem transact_leaves (observed : settings.Observed) (pending : Pending before block base budget settings false call)
    (queryBudget : QueryBudget) :
    Action.Leaves (transact host budget state sql queryBudget) call (fun _ => Published before settings)
      (Failed before block base budget settings) := by
  have failed : ∀ next, Pending before block base budget settings false next →
      Failed before block base budget settings next := fun _ pending => .pending pending
  refine (((blind_pending.check host state).leaves pending).imp (fun _ _ kept => kept.1) failed).bind
    fun _ checked pending => ?_
  refine (((keeps_beginSql host.run).leaves pending).imp (fun _ _ kept => kept.1) failed).bind fun _ begun pending => ?_
  have entered : Action.Leaves (withObserver queryBudget (Update.observed host budget state sql)) begun
      (fun _ next => Committing before block base budget settings next ∧
        next.handle.context.writeStats.exceeded = none)
      (Pending before block base budget settings false) :=
    withObserver_leaves observed pending (fun _ entered => observed_leaves entered) fun _ _ clear => clear
  refine (entered.imp (fun _ _ kept => kept) failed).bind fun result ended kept => ?_
  have ready : Blind fun next : UpdateCall δ ω => Committing before block base budget settings next ∧
      next.handle.context.writeStats.exceeded = none :=
    fun call readings exceeded metrics kept => ⟨blind_committing call readings exceeded metrics kept.1, kept.2⟩
  refine (((ready.check host state).leaves kept).imp (fun _ _ kept => kept.1) fun _ kept => failed _ kept.1.pending).bind
    fun _ last kept => ?_
  exact (publish_leaves kept.1 kept.2 _ _).bind fun _ _ done => Action.leaves_pure done

theorem Published.writeStats (done : Published before settings call) :
    call.handle.context.writeStats.exceeded = none := by
  simp only [Context.writeStats, done.closed]

/-- The last look at the dirty pages does not overrule a publication. -/
theorem concluded_leaves {body : BudgetedM δ ω α}
    (leaves : Action.Leaves body call (fun _ => Published before settings)
      (Failed before block base budget settings)) :
    Action.Leaves (concluded body) call (fun _ => Published before settings)
      (Failed before block base budget settings) := by
  rw [Action.Leaves] at leaves
  cases came : body call with
  | mk outcome next =>
      rw [came] at leaves
      cases outcome with
      | ok value =>
          refine Action.leaves_after_ok (Action.attempt_of_ok came) (Action.leaves_read_bind ?_)
          refine Action.leaves_after_ok (Action.modify_apply _) ?_
          refine Action.leaves_after_ok (checkStats_of_none leaves.writeStats) (Action.leaves_pure ?_)
          exact blind_published next next.readings next.exceeded _ leaves
      | err error =>
          have attempted : Action.attempt body call = (.ok (.err error), next) := by rw [Action.attempt, came]
          refine Action.leaves_after_ok attempted (Action.leaves_read_bind ?_)
          refine Action.leaves_after_ok (Action.modify_apply _) ?_
          have kept := blind_failed next next.readings next.exceeded
            { next.metrics with
              peakDirtyPages := max next.metrics.peakDirtyPages next.handle.context.writeStats.dirtyPages
              overlayPeakBytes := max next.metrics.overlayPeakBytes next.handle.context.writeStats.peakBytes } leaves
          cases marked : next.handle.context.writeStats.exceeded with
          | some bytes => exact Action.leaves_of_err (Action.bind_of_err _ (checkStats_of_some marked)) kept
          | none => exact Action.leaves_after_ok (checkStats_of_none marked) (Action.leaves_fail _ kept)
      | panic =>
          have attempted : Action.attempt body call = (.panic, next) := by rw [Action.attempt, came]
          rw [Action.Leaves, concluded, Action.bind_of_panic _ attempted]
          exact leaves

/-! ## The guards -/

/-- What an update leaves that has published nothing and given up its connection. -/
structure Abandoned (before : HandleState δ ω) (block : Superblock) (base : List UInt8) (settings : QueryConnection)
    (call : UpdateCall δ ω) : Prop where
  quiet : Quiet block base before.context call.handle.context
  database : call.handle.database = before.database
  activeReads : call.handle.activeReads = before.activeReads
  settings_eq : call.settings = settings
  authorizer_eq : call.authorizer = false
  uncommitted : call.commitAnswer ≠ some (.ok ())
  unreached : (∃ event ∈ call.seen, event.Refused) → call.commitAnswer = none
  cleared : call.handle.writeConnection = none

theorem Pending.rolledBack (pending : Pending before block base budget settings authorizer call) :
    Pending before block base budget settings authorizer (call.rolledBack host) := by
  rw [UpdateCall.rolledBack]
  split
  · exact (pending.onFile host.rollingBack).onTransaction _
  · exact pending

theorem Pending.clearReadConnection (pending : Pending before block base budget settings authorizer call) :
    Pending before block base budget settings authorizer (call.withHandle call.handle.clearReadConnection) :=
  ⟨pending.file, pending.database, pending.activeReads, pending.settings_eq, pending.authorizer_eq,
    pending.unpublished, pending.uncommitted⟩

theorem Published.dropConnectionGuard (done : Published before settings call) :
    Published before settings (call.dropConnectionGuard host) := by
  rw [UpdateCall.dropConnectionGuard]
  simp only [done.published]
  exact ⟨done.live, done.closed, done.activeReads, done.settings_eq, done.authorizer_eq, done.idle,
    done.published, done.committed, done.granted⟩

/-- The connection as the guard gives it up. -/
def givenUp (host : UpdateHost δ) (call : UpdateCall δ ω) : UpdateCall δ ω :=
  (call.withHandle call.handle.clearReadConnection).rolledBack host

theorem dropConnectionGuard_of_unpublished (unpublished : call.published = false) :
    call.dropConnectionGuard host =
      (givenUp host call).withHandle (givenUp host call).handle.clearWriteConnection := by
  rw [UpdateCall.dropConnectionGuard, unpublished]
  rfl

theorem Failed.dropConnectionGuard (failed : Failed before block base budget settings call) :
    Abandoned before block base settings (call.dropConnectionGuard host) := by
  cases failed with
  | pending pending =>
      have ended : Pending before block base budget settings false (givenUp host call) :=
        pending.clearReadConnection.rolledBack
      rw [dropConnectionGuard_of_unpublished pending.unpublished]
      refine ⟨ended.quiet, ended.database, ended.activeReads, ended.settings_eq, ended.authorizer_eq, ?_,
        fun _ => ended.uncommitted, rfl⟩
      intro answered
      have never : none = some (Outcome.ok ()) := ended.uncommitted.symm.trans answered
      cases never
  | rejected lost =>
      -- COMMIT has ended the transaction, so that there is nothing to roll back.
      have outside : givenUp host call = call.withHandle call.handle.clearReadConnection := by
        have idle : (call.withHandle call.handle.clearReadConnection).handle.writeConnection = some ⟨none⟩ := lost.idle
        rw [givenUp, UpdateCall.rolledBack, idle]
        rfl
      obtain ⟨error, answered⟩ := lost.failed
      rw [dropConnectionGuard_of_unpublished lost.unpublished, outside]
      refine ⟨lost.quiet, lost.database, lost.activeReads, lost.settings_eq, lost.authorizer_eq, ?_, ?_, rfl⟩
      · intro published
        have never : some (Outcome.err error) = some (Outcome.ok ()) := answered.symm.trans published
        cases never
      · rintro ⟨event, member, refused⟩
        exact absurd refused (lost.granted event member)

/-! ## The whole call -/

/-- The settings of the connection that an update works on. -/
def settingsFor (host : UpdateHost δ) (call : UpdateCall δ ω) : QueryConnection :=
  if call.handle.writeConnection.isSome then call.settings else host.fresh

/-- What an update leaves that has published: the connection stays, out of its transaction. -/
structure Succeeded (host : UpdateHost δ) (before after : UpdateCall δ ω) : Prop where
  begun : before.handle.context.overlay = none
  done : Published before.handle (settingsFor host before) after

/-- What an update leaves that has published nothing: the connection that it was
given, or none. -/
structure Undone (host : UpdateHost δ) (block : Superblock) (base : List UInt8) (before after : UpdateCall δ ω) :
    Prop where
  quiet : Quiet block base before.handle.context after.handle.context
  database : after.handle.database = before.handle.database
  activeReads : after.handle.activeReads = before.handle.activeReads
  overlay : after.handle.context.overlay = before.handle.context.overlay
  uncommitted : after.commitAnswer ≠ some (.ok ())
  unreached : (∃ event ∈ after.seen, event.Refused) → after.commitAnswer = none
  connection : after.handle.writeConnection = none ∨ after.handle.writeConnection = before.handle.writeConnection
  settings_eq : after.settings = before.settings ∨ after.settings = settingsFor host before
  authorizer_eq : after.authorizer = before.authorizer

theorem onHandle_of_ok {phase : HandleM δ ω α} {value : α} {next : HandleState δ ω}
    (ended : phase call.handle = (.ok value, next)) : onHandle phase call = (.ok value, call.withHandle next) := by
  rw [onHandle, Action.zoom, Action.mapError, ended]

theorem onHandle_of_err {phase : HandleM δ ω α} {error : DbError} {next : HandleState δ ω}
    (ended : phase call.handle = (.err error, next)) :
    onHandle phase call = (.err (.database error), call.withHandle next) := by
  rw [onHandle, Action.zoom, Action.mapError, ended]

/-- A cached connection is taken as it is; a new one has no observer and no authorizer. -/
theorem takeWriteConnection_leaves (pending : Pending before block base budget call.settings false call) :
    Action.Leaves (takeWriteConnection host) call
      (fun _ next => Pending before block base budget (settingsFor host call) false next)
      fun next => Pending before block base budget call.settings false next ∧
        next.handle.writeConnection = call.handle.writeConnection := by
  refine Action.leaves_read_bind ?_
  cases cached : call.handle.writeConnection with
  | some connection =>
      refine Action.leaves_pure ?_
      rw [settingsFor, cached]
      exact pending
  | none =>
      have read := pending.onFile host.opening
      have uncached : (call.onFile host.opening).handle.writeConnection = none := cached
      refine Action.leaves_after_ok (Action.modify_apply _) ?_
      cases refused : host.opened with
      | some error =>
          have failed : writeConnection host.run (call.onFile host.opening).handle =
              (.err error, (call.onFile host.opening).handle) := by
            simp only [writeConnection, uncached, UpdateHost.run, refused]
          exact Action.leaves_of_err (Action.bind_of_err _ (onHandle_of_err failed)) ⟨read, uncached⟩
      | none =>
          have opened : writeConnection host.run (call.onFile host.opening).handle =
              (.ok (), { (call.onFile host.opening).handle with writeConnection := some ⟨none⟩ }) := by
            simp only [writeConnection, uncached, UpdateHost.run, refused]
          refine Action.leaves_after_ok (onHandle_of_ok opened) (Action.leaves_modify ?_)
          rw [settingsFor, cached]
          exact ⟨read.file, read.database, read.activeReads, rfl, rfl, read.unpublished, read.uncommitted⟩

/-- The variables of `run` are new. -/
structure Starts (call : UpdateCall δ ω) : Prop where
  unpublished : call.published = false
  uncommitted : call.commitAnswer = none
  seen : call.seen = [.resident 0]

theorem Published.dropOverlay (done : Published before settings call) : Published before settings call.dropOverlay := by
  obtain ⟨served, image, live⟩ := done.live
  exact ⟨⟨served, image, live.closed⟩, rfl, done.activeReads, done.settings_eq, done.authorizer_eq, done.idle,
    done.published, done.committed, done.granted⟩

section Whole

variable {initial : UpdateCall δ ω} {context : Context}

theorem observed_settingsFor (observed : initial.settings.Observed) : (settingsFor host initial).Observed := by
  rw [settingsFor]
  split
  · exact observed
  · exact fun _ => rfl

/-- The connection could not be opened. -/
theorem Pending.undone (pending : Pending initial.handle block base budget initial.settings false call)
    (unhooked : initial.authorizer = false) (idle : initial.handle.context.overlay = none)
    (connection : call.handle.writeConnection = initial.handle.writeConnection) :
    Undone host block base initial call.dropOverlay := by
  refine ⟨⟨pending.quiet.live.closed, pending.quiet.memory⟩, pending.database, pending.activeReads, idle.symm, ?_,
    fun _ => pending.uncommitted, .inr connection, .inl pending.settings_eq, pending.authorizer_eq.trans unhooked.symm⟩
  intro answered
  have never : none = some (Outcome.ok ()) := pending.uncommitted.symm.trans answered
  cases never

theorem Abandoned.undone (abandoned : Abandoned initial.handle block base (settingsFor host initial) call)
    (unhooked : initial.authorizer = false) (idle : initial.handle.context.overlay = none) :
    Undone host block base initial call.dropOverlay :=
  ⟨⟨abandoned.quiet.live.closed, abandoned.quiet.memory⟩, abandoned.database, abandoned.activeReads, idle.symm,
    abandoned.uncommitted, abandoned.unreached, .inl abandoned.cleared, .inr abandoned.settings_eq,
    abandoned.authorizer_eq.trans unhooked.symm⟩

/-- What the update does while its overlay is open, and the end of the overlay. -/
theorem withinOverlay_leaves (starts : Starts initial) (observed : initial.settings.Observed)
    (unhooked : initial.authorizer = false) (idle : initial.handle.context.overlay = none)
    (quiet : Quiet block base initial.handle.context context)
    (active : context.overlay = some (Overlay.new block.dbSize.toNat)) (queryBudget : QueryBudget) :
    Action.Leaves (Action.finally_ (withinOverlay host budget state sql queryBudget) UpdateCall.dropOverlay)
      (initial.withHandle (initial.handle.opened context)) (fun _ => Succeeded host initial)
      (Undone host block base initial) := by
  apply Action.Leaves.finally_
  obtain ⟨next, set, budgeted⟩ := budgeted_new quiet.live active budget.maxDirtyPages.toNat budget.maxChangedBytes.toNat
  have opened : (onContext (setWriteBudget budget.maxDirtyPages.toNat budget.maxChangedBytes.toNat) : HandleM δ ω Unit)
      (initial.handle.opened context) = (.ok (), { initial.handle.opened context with context := next }) :=
    onContext_of_ok set
  refine Action.leaves_after_ok (onHandle_of_ok opened) ?_
  let limited : UpdateCall δ ω := initial.withHandle { initial.handle.opened context with context := next }
  have pending : Pending initial.handle block base budget initial.settings false limited := by
    refine ⟨?_, rfl, rfl, rfl, unhooked, starts.unpublished, starts.uncommitted⟩
    rw [← quiet.memory, show limited.seen = [.resident 0] from starts.seen]
    exact budgeted
  have took : Action.Leaves (takeWriteConnection host) limited
      (fun _ next => Pending initial.handle block base budget (settingsFor host initial) false next)
      fun next => Undone host block base initial next.dropOverlay :=
    (takeWriteConnection_leaves pending).imp (fun _ _ kept => kept) fun next kept => kept.1.undone unhooked idle kept.2
  refine Action.Leaves.bind took fun _ taken pending => Action.Leaves.finally_ ?_
  have ended := concluded_leaves (@transact_leaves _ _ _ _ _ _ _ host state sql _ (observed_settingsFor observed)
    pending queryBudget)
  refine ended.imp (fun _ next done => ?_) fun next failed => ?_
  · exact ⟨idle, done.dropConnectionGuard.dropOverlay⟩
  · exact failed.dropConnectionGuard.undone unhooked idle

/-- Short of its overlay an update changes nothing but what is cached for reading. -/
theorem Starts.undone (starts : Starts initial) {handle : HandleState δ ω}
    (quiet : Quiet block base initial.handle.context handle.context)
    (overlay : handle.context.overlay = initial.handle.context.overlay)
    (database : handle.database = initial.handle.database) (activeReads : handle.activeReads = initial.handle.activeReads)
    (connection : handle.writeConnection = initial.handle.writeConnection) :
    Undone host block base initial (initial.withHandle handle) := by
  refine ⟨quiet, database, activeReads, overlay, ?_, fun _ => starts.uncommitted, .inr connection, .inl rfl, rfl⟩
  intro answered
  have never : none = some (Outcome.ok ()) := starts.uncommitted.symm.trans answered
  cases never

theorem withinContext_leaves (starts : Starts initial) (live : Live initial.handle.context block base)
    (observed : initial.settings.Observed)
    (unhooked : initial.handle.context.overlay = none → initial.authorizer = false) (queryBudget : QueryBudget) :
    Action.Leaves (withinContext host budget state sql queryBudget) initial (fun _ => Succeeded host initial)
      (Undone host block base initial) := by
  by_cases unread : initial.handle.activeReads = 0
  · have passed : (rejectActiveReadConnection : HandleM δ ω Unit) initial.handle = (.ok (), initial.handle) := by
      rw [rejectActiveReadConnection, if_pos unread]
    refine Action.leaves_after_ok (onHandle_of_ok passed) (Action.leaves_after_ok (onHandle_of_ok rfl) ?_)
    rcases live.beginUpdate_ends with begun | refused
    · obtain ⟨context, begins, idle, active, quiet⟩ := begun
      have began : (onContext beginUpdate : HandleM δ ω UInt64) initial.handle.clearReadConnection =
          (.ok block.dbSize, { initial.handle.clearReadConnection with context }) := onContext_of_ok begins
      refine Action.leaves_after_ok (onHandle_of_ok began) (Action.leaves_after_ok (onHandle_of_ok rfl) ?_)
      exact withinOverlay_leaves starts observed (unhooked idle) idle quiet active queryBudget
    · obtain ⟨error, context, refuses, overlay, quiet⟩ := refused
      have stopped : (onContext beginUpdate : HandleM δ ω UInt64) initial.handle.clearReadConnection =
          (.err (.stable error), { initial.handle.clearReadConnection with context }) := onContext_of_err refuses
      exact Action.leaves_of_err (Action.bind_of_err _ (onHandle_of_err stopped))
        (starts.undone quiet overlay rfl rfl rfl)
  · have stopped : (rejectActiveReadConnection : HandleM δ ω Unit) initial.handle =
        (.err .readConnectionInUse, initial.handle) := by
      rw [rejectActiveReadConnection, if_neg unread]
    exact Action.leaves_of_err (Action.bind_of_err _ (onHandle_of_err stopped))
      (starts.undone ⟨live, rfl⟩ rfl rfl rfl rfl)

theorem blind_succeeded : Blind (Succeeded host initial) :=
  fun call readings exceeded metrics succeeded =>
    ⟨succeeded.begun, blind_published call readings exceeded metrics succeeded.done⟩

theorem blind_undone : Blind (Undone host block base initial) :=
  fun _ _ _ _ undone => ⟨undone.quiet, undone.database, undone.activeReads, undone.overlay, undone.uncommitted,
    undone.unreached, undone.connection, undone.settings_eq, undone.authorizer_eq⟩

/-- The update reports the number of changed rows. -/
def Reports (outcome : Outcome UpdateError UpdateReport) : Prop :=
  ∃ report changes, outcome = .ok report ∧ report.result = .ok changes

/-- The result of an update is on the side of the publication that it has reached. -/
def Settles (host : UpdateHost δ) (block : Superblock) (base : List UInt8) (before : UpdateCall δ ω)
    (ended : Outcome UpdateError UpdateReport × UpdateCall δ ω) : Prop :=
  (Reports ended.1 ∧ Succeeded host before ended.2) ∨ (¬ Reports ended.1 ∧ Undone host block base before ended.2)

theorem not_reports_of_error {error : UpdateError} {metrics : UpdateMetrics} :
    ¬ Reports (.ok ⟨.error error, metrics⟩) := by
  rintro ⟨report, changes, same, returned⟩
  obtain rfl := Outcome.ok.inj same
  cases returned

theorem report_settles (spent : Option UInt64) {outcome : Outcome UpdateError UInt64}
    (leaves : match outcome with
      | .ok _ => Succeeded host initial call
      | _ => Undone host block base initial call) :
    Settles host block base initial (report budget spent outcome call) := by
  cases outcome with
  | ok changes =>
      exact .inl ⟨⟨_, changes, rfl, rfl⟩, blind_succeeded call call.readings call.exceeded _ leaves⟩
  | err error =>
      exact .inr ⟨not_reports_of_error, blind_undone call call.readings call.exceeded _ leaves⟩
  | panic =>
      refine .inr ⟨?_, leaves⟩
      rintro ⟨report, changes, same, _⟩
      cases same

/-- The call that `run` was entered with, but for its variables. -/
structure Enters (call initial : UpdateCall δ ω) : Prop where
  starts : Starts initial
  handle : initial.handle = call.handle
  settings : initial.settings = call.settings
  authorizer : initial.authorizer = call.authorizer

theorem enters_started (call : UpdateCall δ ω) : Enters call call.started := ⟨⟨rfl, rfl, rfl⟩, rfl, rfl, rfl⟩

theorem blind_enters : Blind (Enters call) :=
  fun _ _ _ _ enters => ⟨⟨enters.starts.unpublished, enters.starts.uncommitted, enters.starts.seen⟩, enters.handle,
    enters.settings, enters.authorizer⟩

theorem Settles.entered {ended : Outcome UpdateError UpdateReport × UpdateCall δ ω} (enters : Enters call initial)
    (settles : Settles host block base initial ended) : Settles host block base call ended := by
  have same : settingsFor host initial = settingsFor host call := by
    rw [settingsFor, settingsFor, enters.handle, enters.settings]
  rcases settles with ⟨reports, succeeded⟩ | ⟨silent, undone⟩
  · refine .inl ⟨reports, ?_, ?_⟩
    · rw [← enters.handle]
      exact succeeded.begun
    · rw [← enters.handle, ← same]
      exact succeeded.done
  · rcases undone with ⟨quiet, database, activeReads, overlay, uncommitted, unreached, connection, settings, authorizer⟩
    rw [enters.handle] at quiet database activeReads overlay connection
    rw [same, enters.settings] at settings
    exact .inr ⟨silent, quiet, database, activeReads, overlay, uncommitted, unreached, connection, settings,
      authorizer.trans enters.authorizer⟩

/-- An update that was entered settles. -/
theorem runValid_settles (enters : Enters call initial) (live : Live call.handle.context block base)
    (observed : call.settings.Observed) (unhooked : call.handle.context.overlay = none → call.authorizer = false)
    (limit : Option UInt64) : Settles host block base call (runValid host budget limit sql initial) := by
  obtain ⟨start, counted, ended, kept⟩ := blind_enters.counter_returns host enters
  rw [runValid, Action.bind_of_ok _ ended]
  have left := @withinContext_leaves _ _ block base budget host ⟨start, limit⟩ sql counted kept.starts
    (by rw [kept.handle]; exact live) (by rw [kept.settings]; exact observed)
    (by rw [kept.handle, kept.authorizer]; exact unhooked) (budget.queryBudget limit)
  rw [Action.Leaves] at left
  refine Settles.entered kept ?_
  cases came : withinContext host budget ⟨start, limit⟩ sql (budget.queryBudget limit) counted with
  | mk outcome next =>
      rw [came] at left
      cases outcome with
      | ok changes =>
          obtain ⟨spent, measured, last, succeeded⟩ := blind_succeeded.delta_returns host start left
          rw [Action.bind_of_ok _ (Action.attempt_of_ok came), Action.bind_of_ok _ last]
          exact report_settles spent succeeded
      | err error =>
          have attempted : Action.attempt (withinContext host budget ⟨start, limit⟩ sql (budget.queryBudget limit))
              counted = (.ok (.err error), next) := by rw [Action.attempt, came]
          obtain ⟨spent, measured, last, undone⟩ := blind_undone.delta_returns host start left
          rw [Action.bind_of_ok _ attempted, Action.bind_of_ok _ last]
          exact report_settles spent undone
      | panic =>
          have attempted : Action.attempt (withinContext host budget ⟨start, limit⟩ sql (budget.queryBudget limit))
              counted = (.panic, next) := by rw [Action.attempt, came]
          rw [Action.bind_of_panic _ attempted]
          refine .inr ⟨?_, left⟩
          rintro ⟨report, changes, same, _⟩
          cases same

/-- Every budgeted update settles. -/
theorem run_settles (live : Live call.handle.context block base) (observed : call.settings.Observed)
    (unhooked : call.handle.context.overlay = none → call.authorizer = false) :
    Settles host block base call (run host budget sql call) := by
  have refused : ∀ error, Settles host block base call
      ((pure (.failed error) : BudgetedM δ ω UpdateReport) call.started) := by
    intro error
    have undone : Undone host block base call.started call.started :=
      (enters_started call).starts.undone ⟨live, rfl⟩ rfl rfl rfl rfl
    exact Settles.entered (enters_started call) (.inr ⟨not_reports_of_error, undone⟩)
  rw [run, Action.modify_bind_apply, runChecked]
  cases budget.executionLimit with
  | error error => exact refused error
  | ok limit =>
      dsimp only
      cases (budget.queryBudget limit).validate host.counter.isSome with
      | error error => exact refused (classify error)
      | ok _ => exact runValid_settles (enters_started call) live observed unhooked limit

end Whole

end Update

/-! # Updates of a closure -/

section Closure

variable {δ ω α : Type} {self : HandleState δ ω} {block : Superblock} {base : List UInt8} {run : SqliteRun}
  {f : UpdateClosure δ ω α}

/-- What `DbHandle::update` does up to the call of `commit_update`. -/
def untilCommit (run : SqliteRun) (f : UpdateClosure δ ω α) : HandleM δ ω α := do
  rejectActiveReadConnection
  Action.modify HandleState.clearReadConnection
  let _ ← onContext beginUpdate
  Action.modify HandleState.openOverlay
  writeConnection run
  beginSql run
  let value ← runClosure f
  commitSql run
  pure value

theorem finishUpdate_ok_iff {call : HandleM δ ω α} {value : α} :
    (finishUpdate call self).1 = .ok value ↔ (call self).1 = .ok value := by
  rw [finishUpdate]
  cases call self with
  | mk outcome next =>
      cases outcome with
      | ok returned => rfl
      | err error => rfl
      | panic => rfl

/-- The publication is reached from a transaction that has committed. -/
theorem commitImmediate_returns_iff {value returned : α} :
    (commitImmediate run value self).1 = .ok returned ↔
      ∃ middle, (commitSql run : HandleM δ ω Unit) self = (.ok (), middle) ∧
        (commitUpdate middle.context).1 = .ok () ∧ value = returned := by
  rw [commitImmediate, Action.bind_fst_eq_ok]
  constructor
  · rintro ⟨_, middle, committed, later⟩
    obtain ⟨_, published, answered, rest⟩ := Action.bind_fst_eq_ok.mp later
    refine ⟨middle, committed, ?_, Outcome.ok.inj rest⟩
    rw [onContext, Action.zoom, Action.mapError] at answered
    cases came : commitUpdate middle.context with
    | mk outcome context =>
        rw [came] at answered
        cases outcome with
        | ok _ => rfl
        | err error => cases answered
        | panic => cases answered
  · rintro ⟨middle, committed, answered, rfl⟩
    refine ⟨(), middle, committed, ?_⟩
    cases came : commitUpdate middle.context with
    | mk outcome context =>
        rw [came] at answered
        obtain rfl : outcome = .ok () := answered
        rw [Action.bind_of_ok _ (onContext_of_ok came)]
        rfl

theorem endTransaction_ok_iff {value : α} :
    (endTransaction run f self).1 = .ok value ↔
      ∃ ran, runClosure f self = (.ok value, ran) ∧ ∃ middle, (commitSql run : HandleM δ ω Unit) ran = (.ok (), middle) ∧
        (commitUpdate middle.context).1 = .ok () := by
  rw [endTransaction]
  cases came : runClosure f self with
  | mk outcome ran =>
      cases outcome with
      | ok returned =>
          rw [Action.bind_of_ok _ (Action.attempt_of_ok came)]
          refine commitImmediate_returns_iff.trans ?_
          constructor
          · rintro ⟨middle, committed, answered, rfl⟩
            exact ⟨ran, rfl, middle, committed, answered⟩
          · rintro ⟨_, same, middle, committed, answered⟩
            cases same
            exact ⟨middle, committed, answered, rfl⟩
      | err error =>
          have attempted : Action.attempt (runClosure f) self = (.ok (.err error), ran) := by rw [Action.attempt, came]
          rw [Action.bind_of_ok _ attempted]
          constructor
          · intro returned
            cases returned
          · rintro ⟨_, same, _⟩
            cases same
      | panic =>
          have attempted : Action.attempt (runClosure f) self = (.panic, ran) := by rw [Action.attempt, came]
          rw [Action.bind_of_panic _ attempted]
          constructor
          · intro returned
            cases returned
          · rintro ⟨_, same, _⟩
            cases same

/-- An update returns exactly if `commit_update` is reached and returns. -/
theorem update_ok_iff {value : α} :
    (update run f self).1 = .ok value ↔
      ∃ reached, untilCommit run f self = (.ok value, reached) ∧ (commitUpdate reached.context).1 = .ok () := by
  have inside : ∀ begun : HandleState δ ω, (endTransaction run f begun).1 = .ok value ↔
      ∃ reached, (runClosure f >>= fun value => commitSql run >>= fun _ => pure value : HandleM δ ω α) begun =
        (.ok value, reached) ∧ (commitUpdate reached.context).1 = .ok () := by
    intro begun
    rw [endTransaction_ok_iff, Action.bind_eq_ok_and]
    constructor
    · rintro ⟨ran, returned, middle, committed, answered⟩
      exact ⟨value, ran, returned, middle, Action.bind_of_ok _ committed, answered⟩
    · rintro ⟨returned, ran, came, last, ended, answered⟩
      obtain ⟨_, middle, committed, rest⟩ := Action.bind_eq_ok.mp ended
      cases rest
      exact ⟨ran, came, last, committed, answered⟩
  rw [update, untilCommit, Action.bind_fst_eq_ok, Action.bind_eq_ok_and]
  refine exists_congr fun _ => exists_congr fun allowed => and_congr_right fun _ => ?_
  rw [Action.modify_bind_apply, Action.modify_bind_apply, Action.bind_fst_eq_ok, Action.bind_eq_ok_and]
  refine exists_congr fun _ => exists_congr fun begun => and_congr_right fun _ => ?_
  rw [Action.modify_bind_apply, Action.modify_bind_apply]
  change (withinOverlay run f begun.openOverlay).1 = .ok value ↔ _
  rw [withinOverlay, Action.bind_fst_eq_ok, Action.bind_eq_ok_and]
  refine exists_congr fun _ => exists_congr fun joined => and_congr_right fun _ => ?_
  rw [finishUpdate_ok_iff, runImmediate, Action.bind_fst_eq_ok, Action.bind_eq_ok_and]
  exact exists_congr fun _ => exists_congr fun inTransaction => and_congr_right fun _ => inside inTransaction

/-- An update that fails gives its connection up, unless it did not get to use it. -/
theorem withinOverlay_err_connection {error : DbError} (failed : (withinOverlay run f self).1 = .err error) :
    (withinOverlay run f self).2.writeConnection = none ∨
      (withinOverlay run f self).2.writeConnection = self.writeConnection := by
  rcases writeConnection_cases run self with ⟨connection, connected, _⟩ | ⟨reason, refused⟩
  · rw [withinOverlay, Action.bind_of_ok _ connected] at failed ⊢
    rw [finishUpdate] at failed ⊢
    cases came : runImmediate run f { self with writeConnection := some connection } with
    | mk outcome next =>
        rw [came] at failed
        cases outcome with
        | ok value => cases failed
        | err error => exact .inl rfl
        | panic => cases failed
  · rw [withinOverlay, Action.bind_of_err _ refused]
    exact .inr rfl

/-- What an update leaves that does not return. -/
structure Fails (block : Superblock) (base : List UInt8) (before : HandleState δ ω)
    (ended : Outcome DbError α × HandleState δ ω) : Prop where
  left : Unpublished block base before ended.2
  connection : ∀ error, ended.1 = .err error →
    ended.2.writeConnection = none ∨ ended.2.writeConnection = before.writeConnection

/-- An update returns with its connection out of the transaction, or it fails; its overlay is gone. -/
theorem update_cases (live : Live self.context block base) (run : SqliteRun) (f : UpdateClosure δ ω α) :
    (update run f self).2.context.overlay = self.context.overlay ∧
      (((∃ value, (update run f self).1 = .ok value) ∧ (update run f self).2.writeConnection = some ⟨none⟩) ∨
        ((∀ value, (update run f self).1 ≠ .ok value) ∧ Fails block base self (update run f self))) := by
  by_cases unread : self.activeReads = 0
  · rcases live.beginUpdate_ends with begun | refused
    · obtain ⟨context, begins, idle, _, _⟩ := begun
      obtain ⟨ended, closed⟩ := update_ended run f live idle
      refine ⟨closed.trans idle.symm, ?_⟩
      have connection : ∀ error, (update run f self).1 = .err error →
          (update run f self).2.writeConnection = none ∨
            (update run f self).2.writeConnection = self.writeConnection := by
        intro error failed
        rw [update_of_begun unread begins] at failed ⊢
        exact withinOverlay_err_connection failed
      cases came : update run f self with
      | mk outcome after =>
          rw [came] at ended connection
          cases ended with
          | published _ _ _ idle _ _ => exact .inl ⟨⟨_, rfl⟩, idle⟩
          | failed left _ _ => exact .inr ⟨nofun, left, connection⟩
          | unwound _ left _ _ => exact .inr ⟨nofun, left, nofun⟩
    · obtain ⟨error, context, refuses, same, quiet⟩ := refused
      rw [update_of_refused unread refuses]
      exact ⟨same, .inr ⟨nofun, ⟨quiet, rfl, rfl⟩, fun _ _ => .inr rfl⟩⟩
  · rw [update_of_reading unread]
    exact ⟨rfl, .inr ⟨nofun, ⟨⟨live, rfl⟩, rfl, rfl⟩, fun _ _ => .inr rfl⟩⟩

end Closure

/-! # Both of them -/

section Both

variable {δ ω : Type} {call : UpdateCall δ ω} {block : Superblock} {base : List UInt8}

/-- Both kinds of updates end on the side of the publication that they have
reached, whatever SQLite, the host, the bound values or the closure do.  An update
inside of another one is refused, and has no overlay of its own. -/
theorem updates_are_all_or_nothing (live : Live call.handle.context block base) (observed : call.settings.Observed)
    (unhooked : call.handle.context.overlay = none → call.authorizer = false) :
    (∀ (host : UpdateHost δ) (budget : UpdateBudget) (sql : String),
      let ended := Update.run host budget sql call
      let after := ended.2
      (Update.Reports ended.1 ↔ after.commitAnswer = some (.ok ())) ∧
      (¬ Update.Reports ended.1 → Quiet block base call.handle.context after.handle.context) ∧
      ((∃ event ∈ after.seen, event.Refused) →
        after.commitAnswer = none ∧ Quiet block base call.handle.context after.handle.context) ∧
      (∀ report kind, ended.1 = .ok report → report.result = .error (.budgetExceeded kind) →
        after.commitAnswer ≠ some (.ok ())) ∧
      after.handle.context.overlay = call.handle.context.overlay ∧
      -- A connection that stays is the one from before, or a new one, with its settings.
      (after.handle.writeConnection.isSome →
        after.settings = Update.settingsFor host call ∧ after.authorizer = call.authorizer ∧
        ((Update.Reports ended.1 ∧ after.handle.writeConnection = some ⟨none⟩) ∨
          (¬ Update.Reports ended.1 ∧ after.handle.writeConnection = call.handle.writeConnection))) ∧
      -- The next update finds what this one has found.
      ((∃ served image, Live after.handle.context served image) ∧ after.settings.Observed ∧
        (after.handle.context.overlay = none → after.authorizer = false))) ∧
    (∀ (α : Type) (run : SqliteRun) (f : UpdateClosure δ ω α),
      let ended := update run f call.handle
      let after := ended.2
      (∀ value, ended.1 = .ok value ↔
        ∃ reached, untilCommit run f call.handle = (.ok value, reached) ∧
          (commitUpdate reached.context).1 = .ok ()) ∧
      ((∀ value, ended.1 ≠ .ok value) → Quiet block base call.handle.context after.context) ∧
      after.context.overlay = call.handle.context.overlay ∧
      ((∃ value, ended.1 = .ok value) → after.writeConnection = some ⟨none⟩) ∧
      (∀ error, ended.1 = .err error →
        after.writeConnection = none ∨ after.writeConnection = call.handle.writeConnection)) := by
  constructor
  · intro host budget sql ended after
    have settled : ∀ next : UpdateCall δ ω, next.settings = call.settings ∨
        next.settings = Update.settingsFor host call → next.settings.Observed := by
      rintro next (same | same)
      · rw [same]
        exact observed
      · rw [same]
        exact Update.observed_settingsFor observed
    have settles : Update.Settles host block base call ended := Update.run_settles live observed unhooked
    rcases settles with ⟨reports, idle, done⟩ | ⟨silent, undone⟩
    · refine ⟨⟨fun _ => done.committed, fun _ => reports⟩, fun silent => absurd reports silent, ?_, ?_,
        done.closed.trans idle.symm, ?_, done.live, settled after (.inr done.settings_eq), fun _ => done.authorizer_eq⟩
      · rintro ⟨event, member, refused⟩
        exact absurd refused (done.granted event member)
      · intro report kind returned exceeded
        obtain ⟨other, changes, same, result⟩ := reports
        obtain rfl := Outcome.ok.inj (returned.symm.trans same)
        rw [exceeded] at result
        cases result
      · intro _
        exact ⟨done.settings_eq, done.authorizer_eq.trans (unhooked idle).symm, .inl ⟨reports, done.idle⟩⟩
    · refine ⟨⟨fun reports => absurd reports silent, fun published => absurd published undone.uncommitted⟩,
        fun _ => undone.quiet, fun refused => ⟨undone.unreached refused, undone.quiet⟩,
        fun _ _ _ _ => undone.uncommitted, undone.overlay, ?_, ⟨block, base, undone.quiet.live⟩,
        settled after undone.settings_eq, ?_⟩
      · intro cached
        have kept : after.handle.writeConnection = call.handle.writeConnection := by
          rcases undone.connection with cleared | kept
          · rw [show after.handle.writeConnection = none from cleared] at cached
            cases cached
          · exact kept
        have same : Update.settingsFor host call = call.settings := by
          rw [Update.settingsFor, if_pos (by rw [← kept]; exact cached)]
        refine ⟨?_, undone.authorizer_eq, .inr ⟨silent, kept⟩⟩
        rcases undone.settings_eq with before | taken
        · exact before.trans same.symm
        · exact taken
      · intro closed
        exact undone.authorizer_eq.trans (unhooked (undone.overlay.symm.trans closed))
  · intro α run f ended after
    obtain ⟨overlay, came⟩ := update_cases live run f
    rcases came with ⟨⟨value, returned⟩, idle⟩ | ⟨silent, fails⟩
    · refine ⟨fun _ => update_ok_iff, fun silent => absurd returned (silent value), overlay, fun _ => idle, ?_⟩
      intro error failed
      have never : Outcome.ok value = Outcome.err error := returned.symm.trans failed
      cases never
    · exact ⟨fun _ => update_ok_iff, fun _ => fails.left.quiet, overlay, fun ⟨value, returned⟩ =>
        absurd returned (silent value), fails.connection⟩

end Both

/-! # A budgeted insert -/

/-- A fresh handle before its first update. -/
def freshCall : UpdateCall Nat Unit where
  handle := freshHandle
  settings := ⟨false, ⟨1000000, by decide, by decide⟩, ⟨1000000, by decide, by decide⟩, none⟩
  authorizer := false
  readings := 0
  exceeded := false
  schemaChange := false
  published := false
  metrics := .default
  seen := []
  commitAnswer := none

/-- SQLite makes these calls on the main file and reports success. -/
def insertingHost (fileCalls : List OverlayCall) : UpdateHost Nat where
  counter := none
  opened := none
  opening := []
  sqlLimit := ⟨1000000, by decide, by decide⟩
  valueLimit := ⟨1000000, by decide, by decide⟩
  begun := none
  authorized := none
  prepared := ⟨[], id, 0, [], none⟩
  readOnly := false
  bindRefused := none
  bindings := [.ok ()]
  rows := []
  ending := ⟨[], Option.map (· + 1), 0, [], none⟩
  changes := 1
  committed := ⟨fileCalls, id, 0, [], none⟩
  rollingBack := []

/-- A statement that only reads is published; one whose page is refused is not,
although SQLite reported success. -/
theorem insert_is_all_or_nothing :
    Update.Reports (Update.run (insertingHost [.read 0 16]) .default "INSERT" freshCall).1 ∧
    (Update.run (insertingHost [.write 0 [7]]) { UpdateBudget.default with maxDirtyPages := 0 } "INSERT"
      freshCall).2.commitAnswer = none := by
  obtain ⟨block, base, live⟩ := initialized_freshHandle.live
  have all := @updates_are_all_or_nothing Nat Unit freshCall block base live (fun _ => rfl) fun _ => rfl
  have reading := all.1 (insertingHost [.read 0 16]) .default "INSERT"
  have writing := all.1 (insertingHost [.write 0 [7]]) { UpdateBudget.default with maxDirtyPages := 0 } "INSERT"
  exact ⟨reading.1.mpr (by decide +kernel), (writing.2.2.1 ⟨.admission 1 false, by decide +kernel, trivial⟩).1⟩

end IcSqliteVfs.Db
