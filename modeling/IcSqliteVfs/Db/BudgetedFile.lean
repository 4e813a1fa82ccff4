import IcSqliteVfs.Db.Update
import IcSqliteVfs.SqliteVfs.WriteBudget

namespace IcSqliteVfs.SqliteVfs

open IcSqliteVfs.Semantics IcSqliteVfs.Stable

/-! # The main file under a write budget

SQLite reads, writes and truncates the main file while the overlay of an update
is open.  The pages that these calls ask for are observed next to the calls.
-/

namespace Overlay

/-! ## Reads admit nothing -/

/-- The budget and the dirty pages are these. -/
def Untouched (budget : Option WriteBudget) (pages : List (Nat × List UInt8)) (frame : OverlayFrame) : Prop :=
  frame.self.writeBudget = budget ∧ frame.self.pages = pages

variable {budget : Option WriteBudget} {pages : List (Nat × List UInt8)}

theorem untouched_checkedAdd (left right : Nat) :
    Action.Keeps (Untouched budget pages) (checkedAdd left right) fun _ => True := by
  rw [checkedAdd]
  split
  · exact Action.keeps_pure trivial
  · exact Action.keeps_fail _

theorem untouched_slicePage (page : List UInt8) (start count : Nat) :
    Action.Keeps (Untouched budget pages) (slicePage page start count) fun _ => True :=
  (Action.keeps_require _).bind fun _ _ => Action.keeps_pure trivial

theorem untouched_insertCleanPage (pageNo : Nat) (page : List UInt8) :
    Action.Keeps (Untouched budget pages) (insertCleanPage pageNo page) fun _ => True := by
  apply Action.keeps_modify
  intro frame untouched
  dsimp only
  split
  · exact untouched
  · exact untouched

theorem untouched_onStore {α : Type} (call : StoreM α) :
    Action.Keeps (Untouched budget pages) (onStore call) fun _ => True :=
  fun _ untouched => ⟨untouched, fun _ _ => trivial⟩

theorem untouched_readPageSlice (pageNo start count : Nat) :
    Action.Keeps (Untouched budget pages) (readPageSlice pageNo start count) fun _ => True := by
  rw [readPageSlice]
  refine Action.keeps_read.bind fun frame _ => ?_
  cases frame.self.dirtyPage pageNo with
  | some page => exact untouched_slicePage _ _ _
  | none =>
      dsimp only
      split
      · exact Action.keeps_pure trivial
      · cases frame.self.cleanPage pageNo with
        | some page => exact untouched_slicePage _ _ _
        | none =>
            refine (untouched_onStore _).bind fun page _ => (untouched_slicePage _ _ _).bind fun _ _ => ?_
            exact (untouched_insertCleanPage _ _).bind fun _ _ => Action.keeps_pure trivial

theorem untouched_readRange (offset count turns copiedTotal : Nat) :
    Action.Keeps (Untouched budget pages) (readRange offset count turns copiedTotal) fun _ => True := by
  induction turns generalizing copiedTotal with
  | zero => exact Action.keeps_pure trivial
  | succ turns ih =>
      rw [readRange]
      split
      · refine (untouched_checkedAdd _ _).bind fun _ _ => (untouched_readPageSlice _ _ _).bind fun _ _ => ?_
        exact (ih _).bind fun _ _ => Action.keeps_pure trivial
      · exact Action.keeps_pure trivial

theorem calm_readAt (offset count : Nat) : Calm (readAt offset count) := by
  intro frame
  have kept : Action.Keeps (Untouched frame.self.writeBudget frame.self.pages) (readAt offset count) fun _ => True := by
    rw [readAt]
    refine Action.keeps_read.bind fun _ _ => ?_
    split
    · exact Action.keeps_pure trivial
    · split
      · exact Action.keeps_pure trivial
      · exact (untouched_readRange _ _ _ _).bind fun _ _ => Action.keeps_pure trivial
  obtain ⟨budget, pages⟩ := (kept frame ⟨rfl, rfl⟩).1
  exact ⟨budget, (congrArg List.length pages).le⟩

end Overlay

/-! ## Every call, observed -/

namespace OverlayCall

def watch : OverlayCall → WatchedM Answer
  | .read offset count => do
      let answer ← Overlay.Watching.see (Overlay.readAt offset.toNat count)
      pure (some answer)
  | .write offset bytes => (OverlayChange.write offset bytes).watch
  | .truncate size => (OverlayChange.truncate size).watch

theorem watch_erases (call : OverlayCall) : Action.Erases call.watch call.perform := by
  cases call with
  | read offset count => exact (Action.erases_watch _ _).bind fun answer => Action.erases_pure (some answer)
  | write offset bytes => exact OverlayChange.watch_erases (.write offset bytes)
  | truncate size => exact OverlayChange.watch_erases (.truncate size)

variable {memory : Memory} {block : Superblock} {base : List UInt8} {maxPages maxBytes : Nat}

theorem keeps_watch (call : OverlayCall) :
    Action.Keeps (Overlay.Accounted memory block base maxPages maxBytes) call.watch fun _ => True := by
  cases call with
  | read offset count =>
      exact (Overlay.keeps_see (Overlay.keeps_readAt _ _) (Overlay.calm_readAt _ _)).bind
        fun _ _ => Action.keeps_pure trivial
  | write offset bytes => exact OverlayChange.keeps_watch (.write offset bytes)
  | truncate size => exact OverlayChange.keeps_watch (.truncate size)

/-- What was seen of the pages after the call, on a context with these events before it. -/
def seenOn (call : OverlayCall) (context : Context) (seen : List BudgetEvent) : List BudgetEvent :=
  match context.overlay with
  | some overlay => (call.watch ⟨⟨overlay, context.store⟩, seen⟩).2.seen
  | none => seen

end OverlayCall

/-- The pages that the calls of `fileCallsOn` ask for. -/
def fileSeenOn : List OverlayCall → Context → List BudgetEvent → List BudgetEvent
  | [], _, seen => seen
  | call :: rest, context, seen => fileSeenOn rest (call.onContext context).2 (call.seenOn context seen)

/-- `overlay::write_stats`. -/
def Context.writeStats (context : Context) : WriteStats :=
  match context.overlay with
  | some overlay => overlay.writeStats
  | none => {}

/-- `overlay::dirty_page_count`. -/
def Context.dirtyPageCount (context : Context) : Nat :=
  match context.overlay with
  | some overlay => overlay.pages.length
  | none => 0

/-- The overlay of a budgeted update, with what was seen of its pages. -/
structure Budgeted (memory : Memory) (block : Superblock) (base : List UInt8) (maxPages maxBytes : Nat)
    (seen : List BudgetEvent) (context : Context) : Prop where
  live : Live context block base
  accounted : ∃ overlay, context.overlay = some overlay ∧
    Overlay.Accounted memory block base maxPages maxBytes ⟨⟨overlay, context.store⟩, seen⟩

section Budgeted

variable {memory : Memory} {block : Superblock} {base : List UInt8} {maxPages maxBytes : Nat}
  {seen : List BudgetEvent} {context : Context}

theorem Budgeted.memory_eq (budgeted : Budgeted memory block base maxPages maxBytes seen context) :
    context.store.memory = memory := by
  obtain ⟨_, _, accounted⟩ := budgeted.accounted
  exact accounted.steady.memory_eq

theorem Budgeted.fileCall (budgeted : Budgeted memory block base maxPages maxBytes seen context) (call : OverlayCall) :
    Budgeted memory block base maxPages maxBytes (call.seenOn context seen) (call.onContext context).2 := by
  obtain ⟨overlay, active, accounted⟩ := budgeted.accounted
  obtain ⟨added, erased⟩ := call.watch_erases ⟨⟨overlay, context.store⟩, seen⟩
  have kept := (call.keeps_watch _ accounted).1
  refine ⟨(budgeted.live.call_overlay active call).live, ?_⟩
  rw [call.onContext_of_overlay active]
  refine ⟨_, rfl, ?_⟩
  have events : call.seenOn context seen = seen ++ added := by
    simp only [OverlayCall.seenOn, active, erased]
  rw [events]
  rw [erased] at kept
  exact kept

theorem Budgeted.fileCalls (budgeted : Budgeted memory block base maxPages maxBytes seen context)
    (calls : List OverlayCall) :
    Budgeted memory block base maxPages maxBytes (fileSeenOn calls context seen) (fileCallsOn calls context) := by
  induction calls generalizing context seen with
  | nil => exact budgeted
  | cons call rest ih => exact ih (budgeted.fileCall call)

/-- The marker is set exactly if a page was refused. -/
theorem Budgeted.exceeded_iff (budgeted : Budgeted memory block base maxPages maxBytes seen context) :
    context.writeStats.exceeded.isSome ↔ ∃ event ∈ seen, event.Refused := by
  obtain ⟨overlay, active, accounted⟩ := budgeted.accounted
  simp only [Context.writeStats, active]
  exact accounted.stats.exceeded_iff

/-- The budget of a new overlay. -/
theorem budgeted_new (live : Live context block base)
    (active : context.overlay = some (Overlay.new block.dbSize.toNat)) (maxPages maxBytes : Nat) :
    ∃ next, setWriteBudget maxPages maxBytes context = (.ok (), next) ∧
      Budgeted context.store.memory block base maxPages maxBytes [.resident 0] next := by
  have accounted := Overlay.accounted_budgeted live.serves maxPages maxBytes
  rw [live.serves.size_eq] at accounted
  refine ⟨{ context with overlay := some (Overlay.budgeted maxPages maxBytes block.dbSize.toNat) }, ?_, ?_, ?_⟩
  · rw [setWriteBudget, Action.read_bind_apply]
    simp only [active]
    rfl
  · apply live.withOverlay
    intro overlay same
    obtain rfl := Option.some.inj same
    exact accounted.steady.sound
  · exact ⟨_, rfl, accounted⟩

end Budgeted

end IcSqliteVfs.SqliteVfs
