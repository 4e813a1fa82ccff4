import IcSqliteVfs.Db.Update

namespace IcSqliteVfs.SqliteVfs

open IcSqliteVfs.Semantics IcSqliteVfs.Stable

variable {left right : Context} {block : Superblock} {base : List UInt8}

/-- Beginning an update does not depend on what was cached of the superblock. -/
theorem Live.beginUpdate_congr (onLeft : Live left block base) (onRight : Live right block base)
    (memory : left.store.memory = right.store.memory) (grants : left.store.grants = right.store.grants)
    (overlay : left.overlay = right.overlay) : beginUpdate left = beginUpdate right := by
  have same : ({ left with store := { left.store with superblockCache := some block } } : Context) =
      { right with store := { right.store with superblockCache := some block } } := by
    simp only [memory, grants, overlay]
  rw [beginUpdate, Action.bind_of_ok _ (onContextStore_of onLeft.serves.coherent.load_eq),
    Action.bind_of_ok _ (onContextStore_of onRight.serves.coherent.load_eq), same]

end IcSqliteVfs.SqliteVfs

namespace IcSqliteVfs.Db

open IcSqliteVfs.Semantics IcSqliteVfs.Stable IcSqliteVfs.SqliteVfs

/-! # How an update is left

The overlay is dropped by a guard on every exit.  The transaction of the cached
write connection is ended by code that an unwinding closure skips.
-/

variable {δ ω α β : Type} {self left right : HandleState δ ω} {block : Superblock} {base : List UInt8}

/-! ## The next update -/

/-- Handles over the same committed image, in the same environment. -/
structure Alike (left right : HandleState δ ω) : Prop where
  memory : left.context.store.memory = right.context.store.memory
  grants : left.context.store.grants = right.context.store.grants
  overlay : left.context.overlay = right.context.overlay
  database : left.database = right.database
  outside : left.outside = right.outside
  activeReads : left.activeReads = right.activeReads

theorem Alike.refl (self : HandleState δ ω) : Alike self self := ⟨rfl, rfl, rfl, rfl, rfl, rfl⟩

/-- Two calls with the same result that leave the same behind. -/
structure SameEnd (left right : Outcome DbError α × HandleState δ ω) : Prop where
  outcome : left.1 = right.1
  state : Alike left.2 right.2

/-- The handle at the start of the transaction, on a connection that is not in one. -/
def HandleState.connected (self : HandleState δ ω) (context : Context) : HandleState δ ω :=
  { self.opened context with writeConnection := some ⟨none⟩ }

theorem writeConnection_of_settled (settled : self.Settled) {run : SqliteRun}
    (opens : self.writeConnection = none → run.opened = none) :
    writeConnection run self = (.ok (), { self with writeConnection := some ⟨none⟩ }) := by
  cases cached : self.writeConnection with
  | none => simp only [writeConnection, cached, opens cached]
  | some connection =>
      have idle : connection = ⟨none⟩ := congrArg Connection.mk (settled connection cached)
      simp only [writeConnection, cached]
      rw [← idle, ← cached]

/-- Up to its transaction an update is told apart only by its context. -/
theorem update_of_settled (settled : self.Settled) {run : SqliteRun} (f : UpdateClosure δ ω α)
    {size : UInt64} {context : Context} (unread : self.activeReads = 0)
    (begins : beginUpdate self.context = (.ok size, context))
    (opens : self.writeConnection = none → run.opened = none) :
    update run f self = Action.finally_ (finishUpdate (runImmediate run f)) HandleState.dropOverlay
      (self.connected context) := by
  have joined : (writeConnection run : HandleM δ ω Unit) (self.opened context) = (.ok (), self.connected context) :=
    writeConnection_of_settled (show (self.opened context).Settled from settled) opens
  rw [update_of_begun unread begins, Action.finally_, withinOverlay, Action.bind_of_ok _ joined, Action.finally_]

/-- Whether a connection was cached makes no difference to an update, as long as
it is not in a transaction and a new one can be opened. -/
theorem Alike.update (alike : Alike left right) (onLeft : Live left.context block base)
    (onRight : Live right.context block base) (idle : left.context.overlay = none)
    (leftSettled : left.Settled) (rightSettled : right.Settled) {run : SqliteRun} (opens : run.opened = none)
    (f : UpdateClosure δ ω α) : SameEnd (update run f left) (update run f right) := by
  by_cases unread : right.activeReads = 0
  · have unreadLeft := alike.activeReads.trans unread
    have same := onLeft.beginUpdate_congr onRight alike.memory alike.grants alike.overlay
    rcases onLeft.beginUpdate_cases idle with begun | refused
    · obtain ⟨overlay, context, begins, _, _⟩ := begun
      have connected : left.connected context = right.connected context := by
        rcases alike with ⟨_, _, _, database, outside, activeReads⟩
        simp only [HandleState.connected, HandleState.opened, HandleState.openOverlay,
          HandleState.clearReadConnection, database, outside, activeReads]
      rw [update_of_settled leftSettled f unreadLeft begins fun _ => opens,
        update_of_settled rightSettled f unread (same ▸ begins) fun _ => opens, connected]
      exact ⟨rfl, .refl _⟩
    · obtain ⟨error, context, refuses, _, _⟩ := refused
      rw [update_of_refused unreadLeft refuses, update_of_refused unread (same ▸ refuses)]
      exact ⟨rfl, rfl, rfl, rfl, alike.database, alike.outside, alike.activeReads⟩
  · rw [update_of_reading (alike.activeReads ▸ unread), update_of_reading unread]
    exact ⟨rfl, alike⟩

/-! ## Where the closure is reached -/

section Finished

variable (call : HandleM δ ω α) (self : HandleState δ ω)

end Finished

/-- A handle that was just initialised over an empty memory. -/
def freshHandle : HandleState Nat Unit where
  context := ⟨freshStore, none⟩
  database := 0
  overlayDatabase := 0
  outside := ()
  activeReads := 0
  readConnection := false
  writeConnection := none

theorem initialized_freshHandle : freshHandle.Initialized where
  idle := rfl
  live := ⟨Superblock.fresh, [], serves_freshStore, fun importing => (by cases importing),
    fun _ active => (by cases active)⟩

end IcSqliteVfs.Db
