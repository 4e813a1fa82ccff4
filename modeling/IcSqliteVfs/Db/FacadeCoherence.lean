import IcSqliteVfs.Db.Facade
import IcSqliteVfs.SqliteVfs.CommittedReads

namespace IcSqliteVfs.Db

open IcSqliteVfs.Data IcSqliteVfs.Semantics IcSqliteVfs.Stable IcSqliteVfs.SqliteVfs

/-! # Nested operations stay coherent

Every operation puts back what its guards have saved, so that a closure finds after a
call what it found before it; and a cached read connection never outlives the
image that it was opened on.
-/

namespace Facade

variable {ι α : Type} [DecidableEq ι]

/-! ## What a run is judged by -/

/-- What a call has put back when it returns. -/
structure Restored (before after : Facade ι) : Prop where
  activeContextId : after.activeContextId = before.activeContextId
  readDepth : ∀ context, after.readDepth context = before.readDepth context
  updating : ∀ context, (after.contexts context).overlay.isSome = (before.contexts context).overlay.isSome

/-- The overlays, the images and the files of the open queries are as they were. -/
structure Undisturbed (before after : Facade ι) : Prop where
  overlay : ∀ context, (after.contexts context).overlay = (before.contexts context).overlay
  memory : ∀ context, (after.contexts context).store.memory = (before.contexts context).store.memory
  files : after.files = before.files
  readConnections : ∀ context, 0 < before.readDepth context →
    after.readConnections context = before.readConnections context

/-- A query or an update of the context is open. -/
def Busy (frames : List (Frame ι)) (context : ι) : Prop := ∃ frame ∈ frames, frame.context = context

end Facade

/-- Reads answer from the committed image, calls put back what they found, and an
update is refused while its context is busy. -/
def FacadeEvent.Right {ι : Type} [DecidableEq ι] : FacadeEvent ι → Prop
  | .read context before amount offset outcome =>
      ∃ image, committedImage (before.contexts context) = some image ∧ outcome = .ok (readOf image amount offset)
  | .fileSize context before outcome =>
      ∃ image, committedImage (before.contexts context) = some image ∧ outcome = .ok (sizeResult image.length)
  | .called operation frames before outcome after =>
      Facade.Restored before after ∧
        (operation.isQuery = false → Facade.Busy frames operation.context →
          (∃ error, outcome = .err error) ∧ Facade.Undisturbed before after)

namespace Facade

variable {ι α : Type} [DecidableEq ι]

/-! ## The invariant -/

/-- A read-only file of this context whose snapshot and cache are those of the image. -/
structure Belongs (facade : Facade ι) (context : ι) (connection : Nat) : Prop where
  context_eq : facade.fileContexts connection = context
  known : connection < facade.opened
  upToDate : UpToDate (facade.contexts context) (facade.files connection)

structure Coherent (facade : Facade ι) : Prop where
  hosts : ∀ context, Hosts (facade.contexts context)
  cached : ∀ context connection, facade.readConnections context = some connection → facade.Belongs context connection
  reading : ∀ context, 0 < facade.readDepth context → facade.readConnections context ≠ none
  distinct : (facade.activeReadConnections.map Prod.fst).Nodup
  writers : ∀ context file, facade.writeConnections context = some file → file = context

/-- The part of the thread-locals that guards put back. -/
@[ext]
structure Shape (ι : Type) where
  defaultContext : Option ι
  currentContext : Option ι
  readDepth : ι → Nat
  updating : ι → Bool

def shape (facade : Facade ι) : Shape ι where
  defaultContext := facade.defaultContext
  currentContext := facade.currentContext
  readDepth := facade.readDepth
  updating := fun context => (facade.contexts context).overlay.isSome

def Shape.within (context : ι) (shape : Shape ι) : Shape ι := { shape with currentContext := some context }

def Shape.setUpdating (context : ι) (updating : Bool) (shape : Shape ι) : Shape ι :=
  { shape with updating := Function.update shape.updating context updating }

def Shape.setDepth (context : ι) (depth : Nat) (shape : Shape ι) : Shape ι :=
  { shape with readDepth := Function.update shape.readDepth context depth }

@[simp] theorem Shape.setDepth_readDepth (shape : Shape ι) (context other : ι) (depth : Nat) :
    (shape.setDepth context depth).readDepth other = if other = context then depth else shape.readDepth other :=
  Function.update_apply ..

theorem Shape.setUpdating_self {shape : Shape ι} {context : ι} {updating : Bool}
    (same : shape.updating context = updating) : shape.setUpdating context updating = shape := by
  rw [setUpdating, ← same, Function.update_eq_self]

@[simp] theorem Shape.setUpdating_setUpdating (shape : Shape ι) (context : ι) (first second : Bool) :
    (shape.setUpdating context first).setUpdating context second = shape.setUpdating context second := by
  simp only [setUpdating, Function.update_idem]

/-- A coherent state of this shape, in which the open queries have these connections
and whose history is right. -/
structure At (shape : Shape ι) (reads : ι → Option Nat) (watched : Watched (Facade ι) (FacadeEvent ι)) : Prop where
  coherent : watched.state.Coherent
  right : ∀ event ∈ watched.seen, event.Right
  shape_eq : watched.state.shape = shape
  reads_eq : ∀ context, 0 < shape.readDepth context → watched.state.readConnections context = reads context

variable {facade : Facade ι} {shape : Shape ι} {reads : ι → Option Nat} {context : ι} {connection : Nat}
  {watched : Watched (Facade ι) (FacadeEvent ι)} {next : Context} {files : Nat → IcStableFile}
  {block : Superblock} {base : List UInt8}

theorem At.readDepth_eq (holds : At shape reads watched) : watched.state.readDepth = shape.readDepth := by
  rw [← holds.shape_eq]
  rfl

theorem At.updating_eq (holds : At shape reads watched) (context : ι) :
    (watched.state.contexts context).overlay.isSome = shape.updating context := by
  rw [← holds.shape_eq]
  rfl

theorem At.active (holds : At shape reads watched) (within : shape.currentContext = some context) :
    watched.state.activeContextId = some context := by
  rw [← holds.shape_eq] at within
  rw [activeContextId, show watched.state.currentContext = some context from within]
  rfl

theorem At.noted {event : FacadeEvent ι} (holds : At shape reads watched) (right : event.Right) :
    At shape reads ⟨watched.state, watched.seen ++ [event]⟩ := by
  refine ⟨holds.coherent, ?_, holds.shape_eq, holds.reads_eq⟩
  intro other member
  rcases List.mem_append.mp member with old | new
  · exact holds.right other old
  · rw [List.mem_singleton.mp new]
    exact right

/-! ### Changes of one context -/

theorem Coherent.changed (coherent : facade.Coherent) (hosts : Hosts next)
    (own : ∀ connection, facade.readConnections context = some connection → UpToDate next (files connection))
    (others : ∀ connection, facade.fileContexts connection ≠ context → files connection = facade.files connection) :
    Coherent { facade.setContext context next with files } where
  hosts := by
    intro other
    change Hosts (Function.update facade.contexts context next other)
    by_cases same : other = context
    · rw [same, Function.update_self]
      exact hosts
    · rw [Function.update_of_ne same]
      exact coherent.hosts other
  cached := by
    intro other connection found
    have belongs := coherent.cached other connection found
    refine ⟨belongs.context_eq, belongs.known, ?_⟩
    change UpToDate (Function.update facade.contexts context next other) (files connection)
    by_cases same : other = context
    · subst same
      rw [Function.update_self]
      exact own connection found
    · rw [Function.update_of_ne same, others connection (by rw [belongs.context_eq]; exact same)]
      exact belongs.upToDate
  reading := coherent.reading
  distinct := coherent.distinct
  writers := coherent.writers

theorem shape_changed (facade : Facade ι) (context : ι) (next : Context) (files : Nat → IcStableFile) :
    ({ facade.setContext context next with files } : Facade ι).shape =
      facade.shape.setUpdating context next.overlay.isSome := by
  ext other
  · rfl
  · rfl
  · rfl
  · change (Function.update facade.contexts context next other).overlay.isSome =
      Function.update facade.shape.updating context next.overlay.isSome other
    by_cases same : other = context
    · rw [same, Function.update_self, Function.update_self]
    · rw [Function.update_of_ne same, Function.update_of_ne same]
      rfl

theorem At.changed (holds : At shape reads watched) (hosts : Hosts next)
    (own : ∀ connection, watched.state.readConnections context = some connection → UpToDate next (files connection))
    (others : ∀ connection, watched.state.fileContexts connection ≠ context →
      files connection = watched.state.files connection) :
    At (shape.setUpdating context next.overlay.isSome) reads
      { watched with state := { watched.state.setContext context next with files } } where
  coherent := holds.coherent.changed hosts own others
  right := holds.right
  shape_eq := by rw [shape_changed, holds.shape_eq]
  reads_eq := holds.reads_eq

/-- The image and the memory are as they were. -/
theorem At.quiet (holds : At shape reads watched) (live : Live (watched.state.contexts context) block base)
    (aligned : block.dbBaseOffset.toNat % sqlitePageSize = 0)
    (quiet : Quiet block base (watched.state.contexts context) next) :
    At (shape.setUpdating context next.overlay.isSome) reads
      { watched with state := watched.state.setContext context next } :=
  holds.changed (.intro block base quiet.live aligned)
    (fun connection found => (holds.coherent.cached context connection found).upToDate.kept live quiet) fun _ _ => rfl

/-- Without a cached read connection the image may be another one. -/
theorem At.renewed (holds : At shape reads watched) (none : watched.state.readConnections context = none)
    (hosts : Hosts next) :
    At (shape.setUpdating context next.overlay.isSome) reads
      { watched with state := watched.state.setContext context next } :=
  holds.changed hosts (fun _ found => by rw [none] at found; cases found) fun _ _ => rfl

/-! ### Changes of the connections and of the active context -/

theorem At.setCurrent (holds : At shape reads watched) (current : Option ι) :
    At { shape with currentContext := current } reads { watched with state := watched.state.setCurrent current } where
  coherent :=
    ⟨holds.coherent.hosts, fun context connection found =>
      have belongs := holds.coherent.cached context connection found
      ⟨belongs.context_eq, belongs.known, belongs.upToDate⟩,
      holds.coherent.reading, holds.coherent.distinct, holds.coherent.writers⟩
  right := holds.right
  shape_eq := by rw [← holds.shape_eq]; rfl
  reads_eq := holds.reads_eq

/-- An idle context may change its cached connection. -/
theorem At.cachedRead (holds : At shape reads watched) (idle : shape.readDepth context = 0)
    {cached : Option Nat} (belongs : ∀ connection, cached = some connection → watched.state.Belongs context connection) :
    At shape reads { watched with state := watched.state.cacheReadConnection context cached } where
  coherent := by
    refine ⟨holds.coherent.hosts, ?_, ?_, holds.coherent.distinct, holds.coherent.writers⟩
    · intro other connection found
      change Function.update watched.state.readConnections context cached other = some connection at found
      have kept : watched.state.Belongs other connection := by
        by_cases same : other = context
        · subst same
          rw [Function.update_self] at found
          exact belongs connection found
        · rw [Function.update_of_ne same] at found
          exact holds.coherent.cached other connection found
      exact ⟨kept.context_eq, kept.known, kept.upToDate⟩
    · intro other reading
      have deep : 0 < watched.state.readDepth other := reading
      change Function.update watched.state.readConnections context cached other ≠ none
      by_cases same : other = context
      · rw [same, holds.readDepth_eq, idle] at deep
        cases deep
      · rw [Function.update_of_ne same]
        exact holds.coherent.reading other deep
  right := holds.right
  shape_eq := holds.shape_eq
  reads_eq := by
    intro other deep
    change Function.update watched.state.readConnections context cached other = reads other
    by_cases same : other = context
    · rw [same, idle] at deep
      cases deep
    · rw [Function.update_of_ne same]
      exact holds.reads_eq other deep

theorem At.cleared (holds : At shape reads watched) (idle : shape.readDepth context = 0) :
    At shape reads { watched with state := watched.state.cacheReadConnection context none } :=
  holds.cachedRead idle fun _ found => by cases found

theorem At.cachedWrite (holds : At shape reads watched) {cached : Option ι}
    (own : ∀ file, cached = some file → file = context) :
    At shape reads { watched with state := watched.state.cacheWriteConnection context cached } where
  coherent := by
    refine ⟨holds.coherent.hosts, fun other connection found => ?_, holds.coherent.reading, holds.coherent.distinct, ?_⟩
    · have belongs := holds.coherent.cached other connection found
      exact ⟨belongs.context_eq, belongs.known, belongs.upToDate⟩
    · intro other file found
      change Function.update watched.state.writeConnections context cached other = some file at found
      by_cases same : other = context
      · rw [same, Function.update_self] at found
        rw [same]
        exact own file found
      · rw [Function.update_of_ne same] at found
        exact holds.coherent.writers other file found
  right := holds.right
  shape_eq := holds.shape_eq
  reads_eq := holds.reads_eq

/-! ### Read depths -/

theorem nodup_upsert {entries : List (ι × Nat)} (distinct : (entries.map Prod.fst).Nodup) (context : ι)
    (revise : Nat → Nat) (fresh : Nat) : ((upsert context revise fresh entries).map Prod.fst).Nodup := by
  induction entries with
  | nil => simp [upsert]
  | cons entry rest ih =>
      obtain ⟨new, others⟩ := List.nodup_cons.mp distinct
      rw [upsert]
      split
      · exact distinct
      · rename_i differs
        refine List.nodup_cons.mpr ⟨?_, ih others⟩
        rw [← lookup_eq_none_of, lookup_upsert, if_neg differs]
        exact lookup_eq_none_of.mpr new

theorem readDepth_enterRead (facade : Facade ι) (context other : ι) :
    (facade.enterRead context).readDepth other =
      if other = context then facade.readDepth context + 1 else facade.readDepth other := by
  rw [readDepth, enterRead]
  dsimp only
  rw [lookup_upsert]
  by_cases same : other = context
  · rw [if_pos same, if_pos same, readDepth]
    cases facade.activeReadConnections.lookup context <;> rfl
  · rw [if_neg same, if_neg same]
    rfl

theorem leaveRead_spec (distinct : (facade.activeReadConnections.map Prod.fst).Nodup) (context : ι) :
    ((facade.leaveRead context).activeReadConnections.map Prod.fst).Nodup ∧
      ∀ other, (facade.leaveRead context).readDepth other =
        if other = context then facade.readDepth context - 1 else facade.readDepth other := by
  simp only [leaveRead, leftReads, readDepth]
  cases found : facade.activeReadConnections.lookup context with
  | none =>
      refine ⟨distinct, fun other => ?_⟩
      by_cases same : other = context
      · rw [if_pos same, same]
        simp only [found]
        rfl
      · rw [if_neg same]
  | some depth =>
      dsimp only
      by_cases last : depth - 1 = 0
      · obtain ⟨still, gone⟩ := swapRemove_lookup distinct found
        rw [if_pos last]
        refine ⟨still, fun other => ?_⟩
        rw [gone]
        by_cases same : other = context
        · rw [if_pos same, if_pos same]
          exact last.symm
        · rw [if_neg same, if_neg same]
      · rw [if_neg last, map_fst_replaceValue]
        refine ⟨distinct, fun other => ?_⟩
        rw [lookup_replaceValue found]
        by_cases same : other = context
        · rw [if_pos same, if_pos same]
          rfl
        · rw [if_neg same, if_neg same]

theorem At.entered (holds : At shape reads watched)
    (cached : watched.state.readConnections context = some connection) :
    At (shape.setDepth context (shape.readDepth context + 1)) (Function.update reads context (some connection))
      { watched with state := watched.state.enterRead context } where
  coherent := by
    refine ⟨holds.coherent.hosts, fun other connection found => ?_, ?_, nodup_upsert holds.coherent.distinct _ _ _,
      holds.coherent.writers⟩
    · have belongs := holds.coherent.cached other connection found
      exact ⟨belongs.context_eq, belongs.known, belongs.upToDate⟩
    · intro other deep
      rw [readDepth_enterRead] at deep
      change watched.state.readConnections other ≠ none
      by_cases same : other = context
      · rw [same, cached]
        nofun
      · rw [if_neg same] at deep
        exact holds.coherent.reading other deep
  right := holds.right
  shape_eq := by
    rw [← holds.shape_eq]
    refine Shape.ext rfl rfl (funext fun other => ?_) rfl
    rw [Shape.setDepth_readDepth]
    exact readDepth_enterRead watched.state context other
  reads_eq := by
    intro other deep
    change watched.state.readConnections other = Function.update reads context (some connection) other
    rw [Shape.setDepth_readDepth] at deep
    by_cases same : other = context
    · rw [same, Function.update_self, cached]
    · rw [Function.update_of_ne same]
      rw [if_neg same] at deep
      exact holds.reads_eq other deep

/-- The guard of a query puts back the depth that the query found. -/
theorem At.left (holds : At (shape.setDepth context (shape.readDepth context + 1))
      (Function.update reads context (some connection)) watched)
    (open_ : 0 < shape.readDepth context → reads context = some connection) :
    At shape reads { watched with state := watched.state.leaveRead context } := by
  obtain ⟨distinct, depths⟩ := leaveRead_spec holds.coherent.distinct context
  have restored : ∀ other, (watched.state.leaveRead context).readDepth other = shape.readDepth other := by
    intro other
    rw [depths, holds.readDepth_eq, Shape.setDepth_readDepth, Shape.setDepth_readDepth, if_pos rfl]
    by_cases same : other = context
    · rw [if_pos same, same]
      rfl
    · rw [if_neg same, if_neg same]
  have deeper : ∀ other, 0 < shape.readDepth other →
      0 < (shape.setDepth context (shape.readDepth context + 1)).readDepth other := by
    intro other deep
    rw [Shape.setDepth_readDepth]
    split
    · exact Nat.succ_pos _
    · exact deep
  refine ⟨⟨holds.coherent.hosts, fun other connection found => ?_, fun other deep => ?_, distinct,
    holds.coherent.writers⟩, holds.right, ?_, fun other deep => ?_⟩
  · have belongs := holds.coherent.cached other connection found
    exact ⟨belongs.context_eq, belongs.known, belongs.upToDate⟩
  · rw [restored] at deep
    refine holds.coherent.reading other ?_
    rw [holds.readDepth_eq]
    exact deeper other deep
  · have defaults : watched.state.shape.defaultContext = shape.defaultContext := by rw [holds.shape_eq]; rfl
    have current : watched.state.shape.currentContext = shape.currentContext := by rw [holds.shape_eq]; rfl
    have updating : watched.state.shape.updating = shape.updating := by rw [holds.shape_eq]; rfl
    exact Shape.ext defaults current (funext restored) updating
  · have kept := holds.reads_eq other (deeper other deep)
    change watched.state.readConnections other = reads other
    by_cases same : other = context
    · subst same
      rw [kept, Function.update_self, open_ deep]
    · rw [kept, Function.update_of_ne same]

end Facade

end IcSqliteVfs.Db
