import IcSqliteVfs.SqliteVfs.FlatFile
import IcSqliteVfs.SqliteVfs.Import
import IcSqliteVfs.SqliteVfs.OverlaySound

namespace IcSqliteVfs.SqliteVfs

open IcSqliteVfs.Data IcSqliteVfs.Semantics IcSqliteVfs.Stable

/-! # Runs of every entry point of a context

Calls arrive in any order: reads and writes with and without an overlay,
commits that were never begun, imports between transactions, an upgrade that
keeps nothing but the memory.
-/

/-- `overlay::set_write_budget`, which expects an active overlay. -/
def setWriteBudget (maxPages maxBytes : Nat) : ContextM Unit := do
  let context ← Action.read
  match context.overlay with
  | none => Action.panic
  | some overlay =>
      setOverlay (some { overlay with writeBudget := some ⟨maxPages, maxBytes, {}⟩ })

inductive BlobCall where
  | load
  | file (call : OverlayCall)
  | beginUpdate
  | setWriteBudget (maxPages maxBytes : UInt64)
  | commitUpdate
  | rollbackUpdate
  | checksum
  | refreshChecksum
  | refreshChecksumChunk (maxBytes : UInt64)
  | storeSchemaVersion (targetVersion : UInt64)
  | beginImport (totalSize expectedChecksum : UInt64)
  | importChunk (offset : UInt64) (bytes : List UInt8)
  | finishImport
  | cancelImport
  | upgrade
deriving DecidableEq, Repr

namespace BlobCall

def ignore {α : Type} (call : ContextM α) : ContextM Unit := do
  let _ ← call
  pure ()

def perform : BlobCall → ContextM Unit
  | .load => ignore (onContextStore Superblock.load)
  | .file call => ignore call.onContext
  | .beginUpdate => ignore SqliteVfs.beginUpdate
  | .setWriteBudget maxPages maxBytes => SqliteVfs.setWriteBudget maxPages.toNat maxBytes.toNat
  | .commitUpdate => SqliteVfs.commitUpdate
  | .rollbackUpdate => SqliteVfs.rollbackUpdate
  | .checksum => ignore SqliteVfs.checksum
  | .refreshChecksum => ignore SqliteVfs.refreshChecksum
  | .refreshChecksumChunk maxBytes => ignore (SqliteVfs.refreshChecksumChunk maxBytes.toNat)
  | .storeSchemaVersion targetVersion => onContextStore (SqliteVfs.storeSchemaVersion targetVersion)
  | .beginImport totalSize expectedChecksum => SqliteVfs.beginImport totalSize expectedChecksum
  | .importChunk offset bytes => SqliteVfs.importChunk offset bytes
  | .finishImport => SqliteVfs.finishImport
  | .cancelImport => SqliteVfs.cancelImport
  | .upgrade => Action.modify fun context => ⟨{ context.store with superblockCache := none }, none⟩

theorem ignore_after {α : Type} (call : ContextM α) (context : Context) :
    (ignore call context).2 = (call context).2 := by
  rw [ignore, Action.bind_apply]
  cases call context with
  | mk outcome next => cases outcome <;> rfl

/-- The context after the call, whatever it returned. -/
def after (context : Context) (call : BlobCall) : Context := (call.perform context).2

/-- Reads and writes go to an overlay, and there are no imports. -/
def Transactional (context : Context) : BlobCall → Prop
  | .file _ => context.overlay.isSome = true
  | .beginImport _ _ => False
  | .importChunk _ _ => False
  | .finishImport => False
  | .cancelImport => False
  | _ => True

def runAll (calls : List BlobCall) (context : Context) : Context := calls.foldl after context

end BlobCall

/-! ## What every call keeps -/

/-- A context whose stored block can be loaded and serves this image. -/
structure Live (context : Context) (block : Superblock) (base : List UInt8) : Prop where
  serves : Serves context.store block base
  imported : block.isImporting = true → superblockSize ≤ block.importBaseOffset.toNat ∧
    block.importBaseOffset.toNat + block.importWrittenUntil.toNat ≤ context.store.memory.capacity
  sound : ∀ overlay, context.overlay = some overlay → overlay.Sound

/-- A context that was never used, or whose block and image have a property. -/
inductive Usable (kept : Superblock → List UInt8 → Prop) (context : Context) : Prop where
  | unused (pristine : Pristine context.store) (overlay : context.overlay = none)
  | live (block : Superblock) (base : List UInt8) (live : Live context block base) (holds : kept block base)

variable {kept : Superblock → List UInt8 → Prop} {context next : Context} {block edited : Superblock}
  {base : List UInt8}

theorem usable_fresh (grants : Nat → Bool) : Usable kept (Context.fresh grants) := .unused ⟨rfl, rfl⟩ rfl

/-- The call was about the cache or the overlay only. -/
structure Quiet (block : Superblock) (base : List UInt8) (context next : Context) : Prop where
  live : Live next block base
  memory : next.store.memory = context.store.memory

theorem Live.loaded (live : Live context block base) :
    Live { context with store := { context.store with superblockCache := some block } } block base :=
  ⟨live.serves.warm, live.imported, live.sound⟩

theorem Live.withOverlay (live : Live context block base) {overlay : Option Overlay}
    (sound : ∀ active, overlay = some active → active.Sound) : Live { context with overlay } block base :=
  ⟨live.serves, live.imported, sound⟩

theorem Live.closed (live : Live context block base) : Live { context with overlay := none } block base :=
  live.withOverlay fun _ active => by cases active

/-- A load stores the fresh block on first use, and finds the stored one later. -/
theorem Usable.load (fresh : kept Superblock.fresh []) (usable : Usable kept context) :
    Action.Leaves Superblock.load context.store
      (fun block after => ∃ base, Live { context with store := after } block base ∧ kept block base)
      fun after => Usable kept { context with store := after } := by
  cases usable with
  | unused pristine overlay =>
      rcases pristine.load_cases with loaded | refused
      · obtain ⟨after, ended, serves, _⟩ := loaded
        refine Action.leaves_of_ok ended ⟨[], ⟨serves, ?_, ?_⟩, fresh⟩
        · intro importing
          cases importing
        · intro active found
          rw [show context.overlay = none from overlay] at found
          cases found
      · obtain ⟨error, after, ended, same⟩ := refused
        exact Action.leaves_of_err ended (.unused same overlay)
  | live block base live holds =>
      exact Action.leaves_of_ok live.serves.coherent.load_eq ⟨base, live.loaded, holds⟩

theorem Usable.loadThen {α : Type} {rest : Superblock → ContextM α} {good : α → Context → Prop}
    (fresh : kept Superblock.fresh []) (usable : Usable kept context)
    (continues : ∀ block base context, Live context block base → kept block base →
      Action.Leaves (rest block) context good (Usable kept)) :
    Action.Leaves (onContextStore Superblock.load >>= rest) context good (Usable kept) := by
  have loaded : Action.Leaves (onContextStore Superblock.load) context
      (fun block next => ∃ base, Live next block base ∧ kept block base) (Usable kept) :=
    Action.Leaves.zoom (usable.load fresh)
  refine Action.Leaves.bind loaded ?_
  intro block next found
  obtain ⟨base, live, holds⟩ := found
  exact continues block base next live holds

theorem passed_of_idle (idle : context.overlay = none) : rejectDuringUpdate context = (.ok (), context) := by
  rw [rejectDuringUpdate, Action.read_bind_apply]
  simp only [idle]
  rfl

theorem rejected_of_active {overlay : Overlay} (active : context.overlay = some overlay) :
    rejectDuringUpdate context = (.err .updateInProgress, context) := by
  rw [rejectDuringUpdate, Action.read_bind_apply]
  simp only [active]
  rfl

theorem rejectDuringUpdate_cases (context : Context) :
    (context.overlay = none ∧ rejectDuringUpdate context = (.ok (), context)) ∨
    rejectDuringUpdate context = (.err .updateInProgress, context) := by
  cases active : context.overlay with
  | none => exact .inl ⟨rfl, passed_of_idle active⟩
  | some overlay => exact .inr (rejected_of_active active)

theorem Usable.unlessUpdating {α : Type} {rest : Unit → ContextM α} {good : α → Context → Prop}
    (usable : Usable kept context) (continues : Action.Leaves (rest ()) context good (Usable kept)) :
    Action.Leaves (rejectDuringUpdate >>= rest) context good (Usable kept) := by
  rcases rejectDuringUpdate_cases context with passed | stopped
  · exact Action.leaves_after_ok passed.2 continues
  · exact Action.leaves_of_err (Action.bind_of_err _ stopped) usable

/-! ## Edits of the stored block -/

/-- A block stored in place of the loaded one, with the same image under it. -/
theorem Live.store_edited (live : Live context block base) (same : SameImage block edited)
    (imported : edited.isImporting = true → superblockSize ≤ edited.importBaseOffset.toNat ∧
      edited.importBaseOffset.toNat + edited.importWrittenUntil.toNat ≤ context.store.memory.capacity) :
    onContextStore edited.store context = (.ok (), { context with store := edited.storedIn context.store }) ∧
      Live { context with store := edited.storedIn context.store } edited.stamped base := by
  obtain ⟨stored, serves⟩ := live.serves.store_edited same
  exact ⟨onContextStore_of stored, serves, imported, live.sound⟩

/-- The edit has nothing to do with imports. -/
structure SameImport (block edited : Superblock) : Prop where
  isImporting : edited.isImporting = block.isImporting
  importBaseOffset : edited.importBaseOffset = block.importBaseOffset
  importWrittenUntil : edited.importWrittenUntil = block.importWrittenUntil

theorem Live.imported_of (live : Live context block base) (same : SameImport block edited) :
    edited.isImporting = true → superblockSize ≤ edited.importBaseOffset.toNat ∧
      edited.importBaseOffset.toNat + edited.importWrittenUntil.toNat ≤ context.store.memory.capacity := by
  intro importing
  rw [same.importBaseOffset, same.importWrittenUntil]
  exact live.imported (same.isImporting ▸ importing)

theorem sameImport_certified (block : Superblock) (checksum : UInt64) :
    SameImport block (certified block checksum) := by
  refine ⟨?_, rfl, rfl⟩
  simp only [Superblock.isImporting, certified, Superblock.clearChecksumRefresh]
  rw [clear_and_other _ (by decide), clear_and_other _ (by decide)]

theorem sameImport_refreshStarted (block : Superblock) : SameImport block (refreshStarted block) := by
  refine ⟨?_, rfl, rfl⟩
  simp only [Superblock.isImporting, refreshStarted]
  rw [set_and_other _ (by decide)]

theorem sameImport_clearChecksumRefresh (block : Superblock) : SameImport block block.clearChecksumRefresh := by
  refine ⟨?_, rfl, rfl⟩
  simp only [Superblock.isImporting, Superblock.clearChecksumRefresh]
  rw [clear_and_other _ (by decide)]

theorem sameImport_committedBlock (block : Superblock) (advanceTx : Bool) (size : Nat)
    (zeroExtents : List ZeroExtent) : SameImport block (committedBlock block advanceTx size zeroExtents) := by
  cases advanceTx with
  | false => exact ⟨rfl, rfl, rfl⟩
  | true =>
      refine ⟨?_, rfl, rfl⟩
      simp only [Superblock.isImporting, committedBlock, Superblock.withCommittedTx, Superblock.withDbImage,
        Superblock.clearChecksumRefresh]
      rw [clear_and_other _ (by decide), set_and_other _ (by decide)]

theorem Live.editThen {α : Type} (live : Live context block base) (same : SameImage block edited)
    (imports : SameImport block edited) {rest : Unit → ContextM α}
    (continues : ∀ next, Live next edited.stamped base →
      Action.Leaves (rest ()) next (fun _ => Usable kept) (Usable kept)) :
    Action.Leaves (onContextStore edited.store >>= rest) context (fun _ => Usable kept) (Usable kept) := by
  obtain ⟨stored, after⟩ := live.store_edited same (live.imported_of imports)
  exact Action.leaves_after_ok stored (continues _ after)

/-! ## Commits -/

theorem Live.rewarmed (live : Live context block base) {after : Store}
    (memory : after.memory = context.store.memory) (cache : after.superblockCache = some block) :
    Live { context with store := after } block base := by
  have serves := live.serves
  refine ⟨⟨⟨?_, .inr cache⟩, ?_, ?_⟩, ?_, live.sound⟩
  · rw [memory]
    exact serves.coherent.accepted
  · rw [memory]
    exact serves.readable
  · rw [memory]
    exact serves.image_eq
  · rw [memory]
    exact live.imported

theorem Live.commitOverlay_cases (live : Live context block base) {overlay : Overlay} (sound : overlay.Sound)
    (advanceTx : Bool) :
    (∃ zeroExtents grown published, commitOverlay overlay advanceTx context.store =
        (.ok (), publishedIn block overlay advanceTx zeroExtents grown) ∧
      Prepared block overlay zeroExtents { context.store with superblockCache := some block } grown ∧
      Live { context with store := publishedIn block overlay advanceTx zeroExtents grown }
        (committedBlock block advanceTx overlay.size zeroExtents).stamped published) ∨
    (∃ error after, commitOverlay overlay advanceTx context.store = (.err error, after) ∧
      after.memory = context.store.memory ∧ Live { context with store := after } block base) := by
  have coherent := live.serves.coherent
  have dbBase := live.serves.readable.base
  rcases SqliteVfs.commitOverlay_cases coherent dbBase sound.pageLength sound.size advanceTx with done | failed
  · obtain ⟨zeroExtents, grown, prepared, ended⟩ := done
    obtain ⟨stored, readable⟩ := publishedIn_usable coherent dbBase advanceTx prepared sound.size
    refine .inl ⟨zeroExtents, grown, _, ended, prepared, ⟨stored, readable, rfl⟩, ?_, live.sound⟩
    intro importing
    have same := sameImport_committedBlock block advanceTx overlay.size zeroExtents
    obtain ⟨behind, room⟩ := live.imported_of same importing
    refine ⟨behind, room.trans ?_⟩
    change context.store.memory.capacity ≤ (publishedIn block overlay advanceTx zeroExtents grown).memory.capacity
    rw [publishedIn, Superblock.storedIn_capacity, Memory.capacity, Memory.capacity, withCommitPages_pages]
    exact Nat.mul_le_mul_right _ prepared.pages
  · obtain ⟨error, after, ended, memory, cache⟩ := failed
    exact .inr ⟨error, after, ended, memory, live.rewarmed memory cache⟩

/-- A commit of the active overlay publishes it or leaves everything but the
overlay alone. -/
theorem Live.commitUpdate_cases (live : Live context block base) :
    (∃ next, commitUpdate context = (.ok (), next) ∧ next.overlay = none ∧ Quiet block base context next) ∨
    (∃ overlay zeroExtents grown published,
      commitUpdate context = (.ok (), ⟨publishedIn block overlay true zeroExtents grown, none⟩) ∧
      context.overlay = some overlay ∧
      Prepared block overlay zeroExtents { context.store with superblockCache := some block } grown ∧
      Live ⟨publishedIn block overlay true zeroExtents grown, none⟩
        (committedBlock block true overlay.size zeroExtents).stamped published) ∨
    (∃ error next, commitUpdate context = (.err error, next) ∧ next.overlay = none ∧
      Quiet block base context next) := by
  rw [commitUpdate, Action.read_bind_apply]
  cases active : context.overlay with
  | none => exact .inl ⟨context, rfl, active, live, rfl⟩
  | some overlay =>
      by_cases empty : overlay.isEmpty = true
      · simp only [if_pos empty]
        exact .inl ⟨_, rfl, rfl, live.closed, rfl⟩
      · simp only [if_neg empty]
        rw [setOverlay, Action.modify_bind_apply]
        rcases live.closed.commitOverlay_cases (live.sound overlay active) true with done | failed
        · obtain ⟨zeroExtents, grown, published, ended, prepared, after⟩ := done
          exact .inr (.inl ⟨overlay, zeroExtents, grown, published, onContextStore_of ended, rfl, prepared, after⟩)
        · obtain ⟨error, after, ended, memory, same⟩ := failed
          exact .inr (.inr ⟨error, _, onContextStore_of ended, rfl, same, memory⟩)

theorem commitUpdate_of_none (overlay : context.overlay = none) :
    commitUpdate context = (.ok (), context) := by
  rw [commitUpdate, Action.read_bind_apply]
  simp only [overlay]
  rfl

theorem Usable.commitUpdate (usable : Usable kept context)
    (committed : ∀ block base size zeroExtents published, kept block base →
      kept (committedBlock block true size zeroExtents).stamped published) :
    Action.Leaves commitUpdate context (fun _ => Usable kept) (Usable kept) := by
  cases usable with
  | unused pristine overlay =>
      exact Action.leaves_of_ok (commitUpdate_of_none overlay) (.unused pristine overlay)
  | live block base live holds =>
      rcases live.commitUpdate_cases with quiet | done | failed
      · obtain ⟨next, ended, _, same⟩ := quiet
        exact Action.leaves_of_ok ended (.live block base same.live holds)
      · obtain ⟨overlay, zeroExtents, grown, published, ended, _, _, after⟩ := done
        exact Action.leaves_of_ok ended (.live _ published after (committed block base _ _ _ holds))
      · obtain ⟨error, next, ended, _, same⟩ := failed
        exact Action.leaves_of_err ended (.live block base same.live holds)

/-! ## Reads and writes through the overlay -/

/-- Every call made through an overlay, with or without an error, only touches
the overlay and the cache. -/
theorem OverlayCall.keeps_perform (memory : Memory) (block : Superblock) (base : List UInt8)
    (call : OverlayCall) : Action.Keeps (Overlay.Steady memory block base) call.perform fun _ => True := by
  cases call with
  | read offset count =>
      exact Action.Keeps.bind (Overlay.keeps_readAt _ _) fun _ _ => Action.keeps_pure True.intro
  | write offset bytes =>
      exact Action.Keeps.bind (Overlay.keeps_writeAt _ _) fun _ _ => Action.keeps_pure True.intro
  | truncate size =>
      exact Action.Keeps.bind (Overlay.keeps_truncate size.toNat_lt) fun _ _ => Action.keeps_pure True.intro

theorem Live.call_overlay (live : Live context block base) {overlay : Overlay}
    (active : context.overlay = some overlay) (call : OverlayCall) :
    Quiet block base context (call.onContext context).2 := by
  have start : Overlay.Steady context.store.memory block base ⟨overlay, context.store⟩ :=
    ⟨live.sound overlay active, live.serves, rfl⟩
  obtain ⟨steady, _⟩ := call.keeps_perform context.store.memory block base _ start
  rw [call.onContext_of_overlay active]
  refine ⟨⟨steady.serves, ?_, ?_⟩, steady.memory_eq⟩
  · rw [steady.memory_eq]
    exact live.imported
  · intro other found
    obtain rfl := Option.some.inj found
    exact steady.sound

theorem Usable.callOverlay (usable : Usable kept context) {overlay : Overlay}
    (active : context.overlay = some overlay) (call : OverlayCall) :
    Usable kept (call.onContext context).2 := by
  cases usable with
  | unused pristine none =>
      rw [active] at none
      cases none
  | live block base live holds => exact .live block base (live.call_overlay active call).live holds

/-! ## Transactions and checksums -/

theorem Live.beginOverlay (live : Live context block base) :
    Action.Leaves (SqliteVfs.beginOverlay block.dbSize.toNat) context (fun _ => Quiet block base context)
      (Quiet block base context) := by
  rw [SqliteVfs.beginOverlay]
  refine Action.leaves_read_bind ?_
  cases active : context.overlay with
  | some overlay => exact Action.leaves_fail _ ⟨live, rfl⟩
  | none =>
      refine Action.leaves_modify ⟨live.withOverlay ?_, rfl⟩
      intro overlay new
      obtain rfl := Option.some.inj new
      exact Overlay.sound_new block.dbSize.toNat_lt

theorem Usable.beginUpdate (fresh : kept Superblock.fresh []) (usable : Usable kept context) :
    Action.Leaves SqliteVfs.beginUpdate context (fun _ => Usable kept) (Usable kept) := by
  refine usable.loadThen fresh fun block base next live holds => ?_
  split
  · exact Action.leaves_fail _ (.live block base live holds)
  · split
    · exact Action.leaves_fail _ (.live block base live holds)
    · have begun : Action.Leaves (SqliteVfs.beginOverlay block.dbSize.toNat) next (fun _ => Usable kept)
          (Usable kept) :=
        live.beginOverlay.imp (fun _ _ quiet => .live block base quiet.live holds)
          fun _ quiet => .live block base quiet.live holds
      exact Action.Leaves.bind begun fun _ _ same => Action.leaves_pure same

/-- In an environment that grants the first page the first transaction opens. -/
theorem beginUpdate_granted (grants : Nat → Bool) (granted : grants 0 = true) :
    ∃ begun, beginUpdate (Context.fresh grants) = (.ok 0, begun) ∧
      begun.overlay = some (Overlay.new 0) ∧ Live begun Superblock.fresh [] := by
  have pristine : Pristine (Context.fresh grants).store := ⟨rfl, rfl⟩
  obtain ⟨after, ended, serves⟩ := pristine.load_granted granted
  have live : Live { Context.fresh grants with store := after } Superblock.fresh [] := by
    refine ⟨serves, fun importing => (by cases importing), fun overlay active => (by cases active)⟩
  refine ⟨⟨after, some (Overlay.new 0)⟩, ?_, rfl, live.withOverlay ?_⟩
  · rw [beginUpdate, Action.bind_of_ok _ (onContextStore_of ended)]
    rfl
  · intro overlay active
    obtain rfl := Option.some.inj active
    exact Overlay.sound_new (by decide)

theorem Usable.closed (usable : Usable kept context) : Usable kept { context with overlay := none } := by
  cases usable with
  | unused pristine overlay => exact .unused pristine rfl
  | live block base live holds => exact .live block base live.closed holds

theorem Usable.upgraded (usable : Usable kept context) :
    Usable kept ⟨{ context.store with superblockCache := none }, none⟩ := by
  cases usable with
  | unused pristine overlay => exact .unused ⟨pristine.pages, rfl⟩ rfl
  | live block base live holds =>
      have serves := live.serves
      refine .live block base ⟨⟨serves.coherent.cold, serves.readable, serves.image_eq⟩, live.imported, ?_⟩ holds
      intro overlay active
      cases active

theorem Usable.setWriteBudget (usable : Usable kept context) (maxPages maxBytes : Nat) :
    Action.Leaves (SqliteVfs.setWriteBudget maxPages maxBytes) context (fun _ => Usable kept) (Usable kept) := by
  rw [SqliteVfs.setWriteBudget]
  refine Action.leaves_read_bind ?_
  cases active : context.overlay with
  | none => exact Action.leaves_panic usable
  | some overlay =>
      cases usable with
      | unused pristine none =>
          rw [active] at none
          cases none
      | live block base live holds =>
          refine Action.leaves_modify (.live block base (live.withOverlay ?_) holds)
          intro budgeted same
          obtain rfl := Option.some.inj same
          have sound := live.sound overlay active
          exact ⟨sound.pageLength, sound.cleanLength, sound.size⟩

theorem Live.checksum_eq (live : Live context block base) :
    onContextStore (checksumLogicalRange block block.dbSize.toNat) context =
      (.ok (fnv1a64 base), context) :=
  onContextStore_of (checksumLogicalRange_of live.serves)

theorem Usable.checksum (fresh : kept Superblock.fresh []) (usable : Usable kept context) :
    Action.Leaves SqliteVfs.checksum context
      (fun checksum next => ∃ block base, Live next block base ∧ kept block base ∧ checksum = fnv1a64 base)
      (Usable kept) :=
  usable.unlessUpdating (usable.loadThen fresh fun block base _ live holds =>
    Action.leaves_of_ok live.checksum_eq ⟨block, base, live, holds, rfl⟩)

theorem Usable.refreshChecksum (fresh : kept Superblock.fresh []) (usable : Usable kept context)
    (certify : ∀ block base, kept block base → kept (certified block (fnv1a64 base)).stamped base) :
    Action.Leaves SqliteVfs.refreshChecksum context (fun _ => Usable kept) (Usable kept) := by
  refine usable.unlessUpdating (Action.Leaves.bind (usable.checksum fresh) ?_)
  intro checksum next summed
  obtain ⟨block, base, live, holds, rfl⟩ := summed
  refine Action.leaves_after_ok (onContextStore_of live.serves.coherent.load_eq) ?_
  have same : SameImage block (certified block (fnv1a64 base)) := ⟨rfl, rfl, rfl, rfl, rfl⟩
  refine live.loaded.editThen same (sameImport_certified _ _) fun after stored => ?_
  exact Action.leaves_pure (.live _ base stored (certify block base holds))

theorem Usable.storeSchemaVersion (fresh : kept Superblock.fresh []) (usable : Usable kept context)
    (targetVersion : UInt64)
    (versioned : ∀ block base, kept block base →
      kept (Superblock.stamped { block with schemaVersion := targetVersion }) base) :
    Action.Leaves (onContextStore (SqliteVfs.storeSchemaVersion targetVersion)) context (fun _ => Usable kept)
      (Usable kept) := by
  refine Action.Leaves.zoom (Action.Leaves.bind (usable.load fresh) ?_)
  intro block after loaded
  obtain ⟨base, live, holds⟩ := loaded
  split
  · have same : SameImage block { block with schemaVersion := targetVersion } := ⟨rfl, rfl, rfl, rfl, rfl⟩
    have stored := live.store_edited same (live.imported_of ⟨rfl, rfl, rfl⟩)
    exact Action.leaves_of_ok (live.serves.store_edited same).1
      (.live _ base stored.2 (versioned block base holds))
  · exact Action.leaves_pure (.live block base live holds)

/-! ## Chunks of a checksum -/

theorem sameImport_resumed (block : Superblock) : SameImport block (resumed block) := by
  rw [resumed]
  split
  · exact ⟨rfl, rfl, rfl⟩
  · exact sameImport_refreshStarted block

theorem SameImport.trans {last : Superblock} (first : SameImport block edited) (second : SameImport edited last) :
    SameImport block last where
  isImporting := second.isImporting.trans first.isImporting
  importBaseOffset := second.importBaseOffset.trans first.importBaseOffset
  importWrittenUntil := second.importWrittenUntil.trans first.importWrittenUntil

theorem sameImport_scanned (block : Superblock) (base : List UInt8) (maxBytes : Nat) :
    SameImport block (scanned block base maxBytes) := by
  rw [scanned, refreshAdvanced]
  split
  · exact SameImport.trans ⟨rfl, rfl, rfl⟩ (sameImport_certified _ _)
  · exact ⟨rfl, rfl, rfl⟩

/-- A chunk is refused, drops progress of another transaction and starts over,
or leaves the scanned block. -/
theorem Live.refreshLoaded_cases (live : Live context block base) (maxBytes : Nat)
    (again : ContextM ChecksumRefresh) :
    (block.isImporting = true ∧
      refreshLoaded maxBytes again block context = (.err .importAlreadyStarted, context)) ∨
    (block.isChecksumRefreshing = true ∧ block.checksumRefreshTxId ≠ block.lastTxId ∧
      ∃ next, refreshLoaded maxBytes again block context = again next ∧
        next.overlay = context.overlay ∧ next.store.memory.pages = context.store.memory.pages ∧
        Live next block.clearChecksumRefresh.stamped base) ∨
    ((resumed block).checksumRefreshTxId = (resumed block).lastTxId ∧
      ∃ next, refreshLoaded maxBytes again block context =
          (.ok (reported (resumed block) base maxBytes), next) ∧ next.overlay = context.overlay ∧
        next.store.memory.pages = context.store.memory.pages ∧ Live next (scanned (resumed block) base maxBytes).stamped base) := by
  rw [refreshLoaded]
  by_cases importing : block.isImporting = true
  · exact .inl ⟨importing, by rw [if_pos importing]; rfl⟩
  · by_cases foreign : (resumed block).checksumRefreshTxId ≠ (resumed block).lastTxId
    · have refreshing : block.isChecksumRefreshing = true := by
        by_contra idle
        rw [resumed, if_neg idle] at foreign
        exact foreign rfl
      have unchanged : resumed block = block := by rw [resumed, if_pos refreshing]
      have same : SameImage block block.clearChecksumRefresh := ⟨rfl, rfl, rfl, rfl, rfl⟩
      obtain ⟨stored, after⟩ :=
        live.store_edited same (live.imported_of (sameImport_clearChecksumRefresh block))
      rw [unchanged] at foreign
      refine .inr (.inl ⟨refreshing, foreign,
        { context with store := block.clearChecksumRefresh.storedIn context.store }, ?_, rfl,
        Superblock.storedIn_pages _ _, after⟩)
      simp only [if_neg importing, unchanged, if_pos foreign]
      rw [Action.bind_of_ok _ stored]
    · have advanced := (sameImage_resumed block).trans (sameImage_scanned (resumed block) base maxBytes)
      have imports := (sameImport_resumed block).trans (sameImport_scanned (resumed block) base maxBytes)
      obtain ⟨_, after⟩ := live.store_edited advanced (live.imported_of imports)
      have ended := refreshRange_of live.serves (sameImage_resumed block) maxBytes
      refine .inr (.inr ⟨not_not.mp foreign,
        { context with store := (scanned (resumed block) base maxBytes).storedIn context.store }, ?_, rfl,
        Superblock.storedIn_pages _ _, after⟩)
      simp only [if_neg importing, if_neg foreign]
      exact onContextStore_of ended

/-- After dropping foreign progress a chunk starts over, so one more call is enough. -/
theorem not_refreshing_cleared (block : Superblock) :
    block.clearChecksumRefresh.stamped.isChecksumRefreshing = false := by
  have cleared : block.clearChecksumRefresh.stamped.flags = block.flags &&& ~~~flagChecksumRefreshing := rfl
  rw [Superblock.isChecksumRefreshing, cleared, clear_and_self]
  rfl

/-- What a chunk needs of an invariant: it survives dropping the progress and
scanning on with progress of the last transaction. -/
structure SurvivesChunks (kept : Superblock → List UInt8 → Prop) : Prop where
  cleared : ∀ block base, kept block base → kept block.clearChecksumRefresh.stamped base
  scanned : ∀ block base maxBytes, kept block base → base.length = block.dbSize.toNat →
    (resumed block).checksumRefreshTxId = (resumed block).lastTxId →
    kept (scanned (resumed block) base maxBytes).stamped base

theorem Usable.refreshWithin (fresh : kept Superblock.fresh []) (survives : SurvivesChunks kept)
    (maxBytes calls : Nat) (usable : Usable kept context) :
    Action.Leaves (refreshChecksumChunkWithin maxBytes calls) context (fun _ => Usable kept) (Usable kept) := by
  induction calls generalizing context with
  | zero => exact Action.leaves_panic usable
  | succ calls ih =>
      rw [refreshChecksumChunkWithin]
      refine usable.unlessUpdating ?_
      split
      · exact Action.leaves_fail _ usable
      · refine usable.loadThen fresh fun block base next live holds => ?_
        rcases live.refreshLoaded_cases maxBytes (refreshChecksumChunkWithin maxBytes calls) with
          refused | restarted | advanced
        · exact Action.leaves_of_err refused.2 (.live block base live holds)
        · obtain ⟨_, _, cleared, same, _, _, after⟩ := restarted
          rw [Action.Leaves, same]
          exact ih (.live _ base after (survives.cleared block base holds))
        · obtain ⟨current, last, ended, _, _, after⟩ := advanced
          exact Action.leaves_of_ok ended
            (.live _ base after (survives.scanned block base maxBytes holds live.serves.size_eq current))

theorem Usable.refreshChecksumChunk (fresh : kept Superblock.fresh []) (survives : SurvivesChunks kept)
    (usable : Usable kept context) (maxBytes : Nat) :
    Action.Leaves (SqliteVfs.refreshChecksumChunk maxBytes) context (fun _ => Usable kept) (Usable kept) :=
  usable.refreshWithin fresh survives maxBytes 2

/-- The bound on the calls is never reached. -/
theorem Live.refreshChecksumChunk_returns (live : Live context block base) (maxBytes : Nat) :
    (SqliteVfs.refreshChecksumChunk maxBytes context).1 ≠ .panic := by
  have chunk : ∀ {context : Context} {block : Superblock} (calls : Nat), Live context block base →
      (block.isChecksumRefreshing = true → ∀ {next : Context},
        Live next block.clearChecksumRefresh.stamped base →
        (refreshChecksumChunkWithin maxBytes calls next).1 ≠ .panic) →
      (refreshChecksumChunkWithin maxBytes (calls + 1) context).1 ≠ .panic := by
    intro context block calls live continues
    rw [refreshChecksumChunkWithin]
    rcases rejectDuringUpdate_cases context with passed | stopped
    · rw [Action.bind_of_ok _ passed.2]
      by_cases empty : maxBytes = 0
      · rw [if_pos empty]
        simp
      · rw [if_neg empty, Action.bind_of_ok _ (onContextStore_of live.serves.coherent.load_eq)]
        rcases live.loaded.refreshLoaded_cases maxBytes (refreshChecksumChunkWithin maxBytes calls) with
          refused | restarted | advanced
        · rw [refused.2]
          simp
        · obtain ⟨refreshing, _, next, same, _, _, after⟩ := restarted
          rw [same]
          exact continues refreshing after
        · obtain ⟨_, next, ended, _, _, _⟩ := advanced
          rw [ended]
          simp
    · rw [Action.bind_of_err _ stopped]
      simp
  refine chunk 1 live fun _ next cleared => chunk 0 cleared ?_
  intro refreshing
  rw [not_refreshing_cleared] at refreshing
  cases refreshing

/-! ## One transactional call -/

/-- What transactions, refreshes and schema versions need of an invariant. -/
structure SurvivesCalls (kept : Superblock → List UInt8 → Prop) : Prop extends SurvivesChunks kept where
  fresh : kept Superblock.fresh []
  committed : ∀ block base size zeroExtents published, kept block base →
    kept (committedBlock block true size zeroExtents).stamped published
  certified : ∀ block base, kept block base → kept (certified block (fnv1a64 base)).stamped base
  versioned : ∀ block base targetVersion, kept block base →
    kept (Superblock.stamped { block with schemaVersion := targetVersion }) base

theorem Usable.transactional (survives : SurvivesCalls kept) (usable : Usable kept context) (call : BlobCall)
    (transactional : call.Transactional context) : Usable kept (call.after context) := by
  cases call with
  | load =>
      exact (usable.loadThen survives.fresh fun block base _ live holds =>
        Action.leaves_pure (.live block base live holds)).after
  | file call =>
      obtain ⟨overlay, active⟩ := Option.isSome_iff_exists.mp transactional
      rw [BlobCall.after, BlobCall.perform, BlobCall.ignore_after]
      exact usable.callOverlay active call
  | beginUpdate =>
      rw [BlobCall.after, BlobCall.perform, BlobCall.ignore_after]
      exact (usable.beginUpdate survives.fresh).after
  | setWriteBudget maxPages maxBytes => exact (usable.setWriteBudget _ _).after
  | commitUpdate => exact (usable.commitUpdate survives.committed).after
  | rollbackUpdate => exact usable.closed
  | checksum =>
      rw [BlobCall.after, BlobCall.perform, BlobCall.ignore_after]
      refine ((usable.checksum survives.fresh).imp ?_ fun _ same => same).after
      intro checksum next summed
      obtain ⟨block, base, live, holds, _⟩ := summed
      exact .live block base live holds
  | refreshChecksum =>
      rw [BlobCall.after, BlobCall.perform, BlobCall.ignore_after]
      exact (usable.refreshChecksum survives.fresh survives.certified).after
  | refreshChecksumChunk maxBytes =>
      rw [BlobCall.after, BlobCall.perform, BlobCall.ignore_after]
      exact (usable.refreshChecksumChunk survives.fresh survives.toSurvivesChunks _).after
  | storeSchemaVersion targetVersion =>
      exact (usable.storeSchemaVersion survives.fresh _
        fun block base holds => survives.versioned block base _ holds).after
  | beginImport totalSize expectedChecksum => exact transactional.elim
  | importChunk offset bytes => exact transactional.elim
  | finishImport => exact transactional.elim
  | cancelImport => exact transactional.elim
  | upgrade => exact usable.upgraded

end IcSqliteVfs.SqliteVfs
