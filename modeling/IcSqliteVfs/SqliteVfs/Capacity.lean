import IcSqliteVfs.SqliteVfs.Atomicity

namespace IcSqliteVfs.SqliteVfs

open IcSqliteVfs.Data IcSqliteVfs.Semantics IcSqliteVfs.Stable

/-! # Physical capacity

Memory is asked for when a context is opened, when a superblock is stored and
when an overlay is committed.  Without imports the image never moves, so what
is allocated is the superblock's page and the pages of the largest image.
-/

/-- `DbHandle::initialize`, less registering the VFS. -/
def initializeHandle : StoreM Unit := do
  let _ ← Superblock.load
  ensureCurrentLayout

namespace BlobCall

def isImport : BlobCall → Bool
  | .beginImport _ _ => true
  | .importChunk _ _ => true
  | .finishImport => true
  | .cancelImport => true
  | _ => false

end BlobCall

/-- The size of the committed image; there is none before the first load. -/
def committedSize (context : Context) : Nat :=
  match (Superblock.load context.store).1 with
  | .ok block => block.dbSize.toNat
  | _ => 0

/-- The largest committed size in the states of a run. -/
def peakCommittedSize : List BlobCall → Context → Nat
  | [], context => committedSize context
  | call :: rest, context => max (committedSize context) (peakCommittedSize rest (call.after context))

theorem committedSize_le_peak (calls : List BlobCall) (context : Context) :
    committedSize context ≤ peakCommittedSize calls context := by
  cases calls with
  | nil => exact Nat.le_refl _
  | cons call rest => exact le_max_left _ _

variable {context next : Context} {block after : Superblock} {base : List UInt8}

theorem Live.committedSize_eq (live : Live context block base) : committedSize context = block.dbSize.toNat := by
  simp only [committedSize, live.serves.coherent.load_eq]

/-! ## What one call leaves -/

/-- The image has its size and its place. -/
structure SamePlace (block after : Superblock) : Prop where
  dbSize : after.dbSize = block.dbSize
  dbBaseOffset : after.dbBaseOffset = block.dbBaseOffset
  pageTableOffset : after.pageTableOffset = block.pageTableOffset

theorem SamePlace.trans {last : Superblock} (first : SamePlace block after) (second : SamePlace after last) :
    SamePlace block last where
  dbSize := second.dbSize.trans first.dbSize
  dbBaseOffset := second.dbBaseOffset.trans first.dbBaseOffset
  pageTableOffset := second.pageTableOffset.trans first.pageTableOffset

theorem samePlace_scanned (block : Superblock) (base : List UInt8) (maxBytes : Nat) :
    SamePlace block (scanned (resumed block) base maxBytes) := by
  have resumes : SamePlace block (resumed block) := by
    rw [resumed]
    split <;> exact ⟨rfl, rfl, rfl⟩
  refine resumes.trans ?_
  rw [scanned, refreshAdvanced]
  split <;> exact ⟨rfl, rfl, rfl⟩

/-- The image is where it was, in a memory of the same size. -/
inductive Settled (context : Context) (block : Superblock) (base : List UInt8) (next : Context) : Prop where
  | intro (after : Superblock) (live : Live next after base) (same : SamePlace block after)
      (pages : next.store.memory.pages = context.store.memory.pages)

/-- A call that is no import leaves the image where it is, or publishes one and
leaves the pages that its last page slot needs. -/
inductive Left (context : Context) (block : Superblock) (base : List UInt8) (next : Context) : Prop where
  | settled (settled : Settled context block base next)
  | published (size : Nat) (advanceTx : Bool) (zeroExtents : List ZeroExtent) (published : List UInt8)
      (bounded : size < u64Bound)
      (live : Live next (committedBlock block advanceTx size zeroExtents).stamped published)
      (growth : ∃ stop, block.dbBaseOffset.toNat + size ≤ stop ∧
        stop ≤ block.dbBaseOffset.toNat + pageCountForSize size * sqlitePageSize ∧
        next.store.memory.pages = pagesFor context.store.memory.pages stop)

theorem Quiet.left (quiet : Quiet block base context next) : Left context block base next :=
  .settled (.intro block quiet.live ⟨rfl, rfl, rfl⟩ (by rw [quiet.memory]))

theorem Quiet.leftBy {middle : Context} (quiet : Quiet block base context middle)
    (left : Left middle block base next) : Left context block base next := by
  cases left with
  | settled settled =>
      obtain ⟨after, live, same, pages⟩ := settled
      exact .settled (.intro after live same (by rw [pages, quiet.memory]))
  | published size advanceTx zeroExtents published bounded live growth =>
      rw [quiet.memory] at growth
      exact .published size advanceTx zeroExtents published bounded live growth

theorem Prepared.left {overlay : Overlay} {zeroExtents : List ZeroExtent} {before grown : Store}
    (prepared : Prepared block overlay zeroExtents before grown) (advanceTx : Bool)
    (memory : before.memory = context.store.memory) (bounded : overlay.size < u64Bound)
    {published : List UInt8} (store : next.store = publishedIn block overlay advanceTx zeroExtents grown)
    (live : Live next (committedBlock block advanceTx overlay.size zeroExtents).stamped published) :
    Left context block base next := by
  obtain ⟨stop, above, within, pages⟩ := prepared.growth
  refine .published overlay.size advanceTx zeroExtents published bounded live ⟨stop, above, within, ?_⟩
  rw [store, publishedIn, Superblock.storedIn_pages, withCommitPages_pages, pages, memory]

theorem Live.commitUpdate_left (live : Live context block base) :
    Left context block base (commitUpdate context).2 := by
  rcases live.commitUpdate_cases with quiet | done | failed
  · obtain ⟨next, ended, _, same⟩ := quiet
    rw [ended]
    exact same.left
  · obtain ⟨overlay, zeroExtents, grown, published, ended, active, prepared, after⟩ := done
    rw [ended]
    exact prepared.left true rfl (live.sound overlay active).size rfl after
  · obtain ⟨error, next, ended, _, same⟩ := failed
    rw [ended]
    exact same.left

/-! ### Direct changes -/

theorem Live.directOverlay (live : Live context block base) {change : OverlayM Unit}
    (keeps : ∀ memory, Action.Keeps (Overlay.Steady memory block base) change fun _ => True) :
    Action.Leaves (SqliteVfs.directOverlay change) context.store
      (fun direct after => direct.Sound ∧ Quiet block base context { context with store := after })
      fun after => Quiet block base context { context with store := after } := by
  have warm := live.loaded
  rw [SqliteVfs.directOverlay]
  refine Action.leaves_after_ok (ensureCurrentLayout_of live.serves) ?_
  refine Action.leaves_after_ok warm.serves.coherent.load_eq ?_
  exact (warm.loaded.onNewOverlay keeps).imp
    (fun direct after built => ⟨built.1, built.2.live, built.2.memory⟩) fun after same => ⟨same.live, same.memory⟩

theorem Live.commitDirect_left (live : Live context block base) {direct : Overlay} (sound : direct.Sound) :
    Action.Leaves (commitOverlay direct false) context.store
      (fun _ after => Left context block base { context with store := after })
      fun after => Left context block base { context with store := after } := by
  rcases live.commitOverlay_cases sound false with done | failed
  · obtain ⟨zeroExtents, grown, published, ended, prepared, after⟩ := done
    exact Action.leaves_of_ok ended (prepared.left false rfl sound.size rfl after)
  · obtain ⟨error, after, ended, memory, same⟩ := failed
    exact Action.leaves_of_err ended (Quiet.left ⟨same, memory⟩)

theorem Live.directWrite_left (live : Live context block base) (offset : Nat) (bytes : List UInt8) :
    Action.Leaves (directWrite offset bytes) context.store
      (fun _ after => Left context block base { context with store := after })
      fun after => Left context block base { context with store := after } := by
  rw [directWrite]
  split
  · exact Action.leaves_pure (Quiet.left ⟨live, rfl⟩)
  · have built := (live.directOverlay fun memory => Overlay.keeps_writeAt offset bytes).imp
      (fun _ _ same => same) fun _ same => same.left
    refine Action.Leaves.bind built fun direct after opened => ?_
    exact (opened.2.live.commitDirect_left opened.1).imp (fun _ _ left => opened.2.leftBy left)
      fun _ left => opened.2.leftBy left

theorem Live.directTruncate_left (live : Live context block base) {size : Nat} (bounded : size < u64Bound) :
    Action.Leaves (directTruncate size) context.store
      (fun _ after => Left context block base { context with store := after })
      fun after => Left context block base { context with store := after } := by
  have built := (live.directOverlay fun memory => Overlay.keeps_truncate bounded).imp
    (fun _ _ same => same) fun _ same => same.left
  refine Action.Leaves.bind built fun direct after opened => ?_
  split
  · exact Action.leaves_pure opened.2.left
  · exact (opened.2.live.commitDirect_left opened.1).imp (fun _ _ left => opened.2.leftBy left)
      fun _ left => opened.2.leftBy left

theorem Live.readBase_left (live : Live context block base) (offset count : Nat) :
    Action.Leaves (readBaseAt offset count) context.store
      (fun _ after => Left context block base { context with store := after })
      fun after => Left context block base { context with store := after } := by
  rw [readBaseAt]
  split
  · exact Action.leaves_pure (Quiet.left ⟨live, rfl⟩)
  · refine Action.leaves_after_ok live.serves.coherent.load_eq ?_
    exact Action.leaves_of_ok (readBaseAtWithBlock_of live.loaded.serves.readable offset count)
      (Quiet.left ⟨live.loaded, rfl⟩)

theorem Live.file_left (live : Live context block base) (call : OverlayCall) :
    Left context block base (call.onContext context).2 := by
  cases active : context.overlay with
  | some overlay => exact (live.call_overlay active call).left
  | none =>
      apply Action.Leaves.after
      cases call with
      | read offset count =>
          rw [OverlayCall.onContext, readAt]
          refine Action.Leaves.bind (Action.leaves_read_bind ?_) fun _ _ same => Action.leaves_pure same
          simp only [active]
          exact Action.Leaves.zoom (live.readBase_left _ _)
      | write offset bytes =>
          rw [OverlayCall.onContext, writeAt]
          refine Action.Leaves.bind (Action.leaves_read_bind ?_) fun _ _ same => Action.leaves_pure same
          simp only [active]
          exact Action.Leaves.zoom (live.directWrite_left _ _)
      | truncate size =>
          rw [OverlayCall.onContext, truncate]
          refine Action.Leaves.bind (Action.leaves_read_bind ?_) fun _ _ same => Action.leaves_pure same
          simp only [active]
          exact Action.Leaves.zoom (live.directTruncate_left size.toNat_lt)

/-! ### Transactions and checksums -/

theorem Live.loadThen {α : Type} {rest : Superblock → ContextM α} {good : α → Context → Prop}
    {bad : Context → Prop} (live : Live context block base)
    (continues : Action.Leaves (rest block)
      { context with store := { context.store with superblockCache := some block } } good bad) :
    Action.Leaves (onContextStore Superblock.load >>= rest) context good bad :=
  Action.leaves_after_ok (onContextStore_of live.serves.coherent.load_eq) continues

theorem Live.unlessUpdating_left {α : Type} {rest : Unit → ContextM α} (live : Live context block base)
    (continues : Action.Leaves (rest ()) context (fun _ => Left context block base) (Left context block base)) :
    Action.Leaves (rejectDuringUpdate >>= rest) context (fun _ => Left context block base)
      (Left context block base) := by
  rcases rejectDuringUpdate_cases context with passed | stopped
  · exact Action.leaves_after_ok passed.2 continues
  · exact Action.leaves_of_err (Action.bind_of_err _ stopped) (Quiet.left ⟨live, rfl⟩)

/-- A block stored over the loaded one. -/
theorem Live.edited_left (live : Live context block base) {edited : Superblock} (same : SameImage block edited)
    (imports : SameImport block edited) (place : SamePlace block edited) :
    Action.Leaves (onContextStore edited.store) context (fun _ => Left context block base)
      (Left context block base) := by
  obtain ⟨stored, after⟩ := live.store_edited same (live.imported_of imports)
  refine Action.leaves_of_ok stored (.settled (.intro edited.stamped after ?_ (Superblock.storedIn_pages _ _)))
  exact ⟨place.dbSize, place.dbBaseOffset, place.pageTableOffset⟩

theorem Live.beginUpdate_left (live : Live context block base) :
    Action.Leaves beginUpdate context (fun _ => Left context block base) (Left context block base) := by
  refine live.loadThen ?_
  have loaded : Quiet block base context
      { context with store := { context.store with superblockCache := some block } } := ⟨live.loaded, rfl⟩
  split
  · exact Action.leaves_fail _ loaded.left
  · split
    · exact Action.leaves_fail _ loaded.left
    · have begun := loaded.live.beginOverlay.imp (fun _ _ quiet => loaded.leftBy quiet.left)
        fun _ quiet => loaded.leftBy quiet.left
      exact Action.Leaves.bind begun fun _ _ left => Action.leaves_pure left

theorem Live.setWriteBudget_left (live : Live context block base) (maxPages maxBytes : Nat) :
    Action.Leaves (setWriteBudget maxPages maxBytes) context (fun _ => Left context block base)
      (Left context block base) := by
  rw [setWriteBudget]
  refine Action.leaves_read_bind ?_
  cases active : context.overlay with
  | none => exact Action.leaves_panic (Quiet.left ⟨live, rfl⟩)
  | some overlay =>
      refine Action.leaves_modify (Quiet.left ⟨live.withOverlay ?_, rfl⟩)
      intro budgeted same
      obtain rfl := Option.some.inj same
      have sound := live.sound overlay active
      exact ⟨sound.pageLength, sound.cleanLength, sound.size⟩

theorem Live.checksum_left (live : Live context block base) :
    Action.Leaves checksum context
      (fun checksum next => checksum = fnv1a64 base ∧ Quiet block base context next)
      (Left context block base) := by
  rcases rejectDuringUpdate_cases context with passed | stopped
  · refine Action.leaves_after_ok passed.2 (live.loadThen ?_)
    exact Action.leaves_of_ok live.loaded.checksum_eq ⟨rfl, live.loaded, rfl⟩
  · exact Action.leaves_of_err (Action.bind_of_err _ stopped) (Quiet.left ⟨live, rfl⟩)

theorem Live.refreshChecksum_left (live : Live context block base) :
    Action.Leaves refreshChecksum context (fun _ => Left context block base) (Left context block base) := by
  refine live.unlessUpdating_left (Action.Leaves.bind live.checksum_left ?_)
  rintro checksum next ⟨rfl, quiet⟩
  refine quiet.live.loadThen ?_
  have loaded : Quiet block base context
      { next with store := { next.store with superblockCache := some block } } := ⟨quiet.live.loaded, quiet.memory⟩
  have same : SameImage block (certified block (fnv1a64 base)) := ⟨rfl, rfl, rfl, rfl, rfl⟩
  have stored := (loaded.live.edited_left same (sameImport_certified _ _) ⟨rfl, rfl, rfl⟩).imp
    (fun _ _ left => loaded.leftBy left) fun _ left => loaded.leftBy left
  exact Action.Leaves.bind stored fun _ _ left => Action.leaves_pure left

theorem Live.refreshWithin_settled (live : Live context block base) (maxBytes calls : Nat) :
    Action.Leaves (refreshChecksumChunkWithin maxBytes calls) context (fun _ => Settled context block base)
      (Settled context block base) := by
  induction calls generalizing context block with
  | zero => exact Action.leaves_panic (.intro block live ⟨rfl, rfl, rfl⟩ rfl)
  | succ calls ih =>
      have unchanged : Settled context block base context := .intro block live ⟨rfl, rfl, rfl⟩ rfl
      rw [refreshChecksumChunkWithin]
      rcases rejectDuringUpdate_cases context with passed | stopped
      · refine Action.leaves_after_ok passed.2 ?_
        split
        · exact Action.leaves_fail _ unchanged
        · refine live.loadThen ?_
          rcases live.loaded.refreshLoaded_cases maxBytes (refreshChecksumChunkWithin maxBytes calls) with
            refused | restarted | advanced
          · exact Action.leaves_of_err refused.2 (.intro block live.loaded ⟨rfl, rfl, rfl⟩ rfl)
          · -- The progress dropped first is not where the image is.
            obtain ⟨_, _, cleared, same, _, pages, after⟩ := restarted
            have widen : ∀ last, Settled cleared block.clearChecksumRefresh.stamped base last →
                Settled context block base last := by
              rintro last ⟨final, finalLive, place, finalPages⟩
              have dropped : SamePlace block block.clearChecksumRefresh.stamped := ⟨rfl, rfl, rfl⟩
              exact .intro final finalLive (dropped.trans place) (finalPages.trans pages)
            rw [Action.Leaves, same]
            exact (ih after).imp (fun _ last => widen last) widen
          · obtain ⟨_, last, ended, _, pages, after⟩ := advanced
            have place := samePlace_scanned block base maxBytes
            exact Action.leaves_of_ok ended
              (.intro _ after ⟨place.dbSize, place.dbBaseOffset, place.pageTableOffset⟩ pages)
      · exact Action.leaves_of_err (Action.bind_of_err _ stopped) unchanged

theorem Live.storeSchemaVersion_left (live : Live context block base) (targetVersion : UInt64) :
    Action.Leaves (onContextStore (storeSchemaVersion targetVersion)) context (fun _ => Left context block base)
      (Left context block base) := by
  have loaded : Quiet block base context
      { context with store := { context.store with superblockCache := some block } } := ⟨live.loaded, rfl⟩
  refine Action.Leaves.zoom (Action.leaves_after_ok live.serves.coherent.load_eq ?_)
  split
  · have same : SameImage block { block with schemaVersion := targetVersion } := ⟨rfl, rfl, rfl, rfl, rfl⟩
    obtain ⟨stored, after⟩ := live.loaded.serves.store_edited same
    refine Action.leaves_of_ok stored (.settled (.intro _ ⟨after, live.imported_of ⟨rfl, rfl, rfl⟩, live.sound⟩
      ⟨rfl, rfl, rfl⟩ (Superblock.storedIn_pages _ _)))
  · exact Action.leaves_pure loaded.left

theorem Live.perform_left (live : Live context block base) (call : BlobCall) (plain : call.isImport = false) :
    Left context block base (call.after context) := by
  cases call with
  | load =>
      rw [BlobCall.after, BlobCall.perform, BlobCall.ignore_after, onContextStore_of live.serves.coherent.load_eq]
      exact Quiet.left ⟨live.loaded, rfl⟩
  | file call =>
      rw [BlobCall.after, BlobCall.perform, BlobCall.ignore_after]
      exact live.file_left call
  | beginUpdate =>
      rw [BlobCall.after, BlobCall.perform, BlobCall.ignore_after]
      exact live.beginUpdate_left.after
  | setWriteBudget maxPages maxBytes => exact (live.setWriteBudget_left _ _).after
  | commitUpdate => exact live.commitUpdate_left
  | rollbackUpdate => exact Quiet.left ⟨live.closed, rfl⟩
  | checksum =>
      rw [BlobCall.after, BlobCall.perform, BlobCall.ignore_after]
      exact (live.checksum_left.imp (fun _ _ summed => summed.2.left) fun _ left => left).after
  | refreshChecksum =>
      rw [BlobCall.after, BlobCall.perform, BlobCall.ignore_after]
      exact live.refreshChecksum_left.after
  | refreshChecksumChunk maxBytes =>
      rw [BlobCall.after, BlobCall.perform, BlobCall.ignore_after]
      exact .settled (live.refreshWithin_settled maxBytes.toNat 2).after
  | storeSchemaVersion targetVersion => exact (live.storeSchemaVersion_left _).after
  | upgrade =>
      have serves := live.serves
      refine Quiet.left ⟨⟨⟨serves.coherent.cold, serves.readable, serves.image_eq⟩, live.imported, ?_⟩, rfl⟩
      intro overlay active
      cases active
  | beginImport totalSize expectedChecksum => cases plain
  | importChunk offset bytes => cases plain
  | finishImport => cases plain
  | cancelImport => cases plain

/-! ## Runs -/

/-- The pages of the superblock and of an image of the peak size, with the
committed image inside. -/
inductive Fitted (peak : Nat) (context : Context) : Prop where
  | intro (block : Superblock) (base : List UInt8) (live : Live context block base)
      (dbBaseOffset : block.dbBaseOffset.toNat = stablePageSize) (pageTableOffset : block.pageTableOffset = 0)
      (below : block.dbSize.toNat ≤ peak)
      (pages : context.store.memory.pages = 1 + divCeil peak stablePageSize)

/-- Neither the last byte of an image nor its last page slot needs a page more
than the image itself. -/
theorem pagesFor_published {pages peak size stop : Nat} (held : pages = 1 + divCeil peak stablePageSize)
    (above : stablePageSize + size ≤ stop)
    (within : stop ≤ stablePageSize + pageCountForSize size * sqlitePageSize) :
    pagesFor pages stop = 1 + divCeil (max peak size) stablePageSize := by
  simp only [pagesFor, divCeil, pageCountForSize, stablePageSize, sqlitePageSize] at *
  omega

theorem Fitted.step {peak : Nat} (fitted : Fitted peak context) (call : BlobCall) (plain : call.isImport = false) :
    Fitted (max peak (committedSize (call.after context))) (call.after context) := by
  obtain ⟨block, base, live, dbBaseOffset, pageTableOffset, below, pages⟩ := fitted
  cases live.perform_left call plain with
  | settled settled =>
      obtain ⟨after, afterLive, same, samePages⟩ := settled
      have size : committedSize (call.after context) ≤ peak := by
        rw [afterLive.committedSize_eq, same.dbSize]
        exact below
      rw [max_eq_left size]
      refine .intro after base afterLive ?_ (same.pageTableOffset.trans pageTableOffset) ?_ (samePages.trans pages)
      · rw [same.dbBaseOffset, dbBaseOffset]
      · rw [same.dbSize]
        exact below
  | published size advanceTx zeroExtents published bounded afterLive growth =>
      obtain ⟨stop, above, within, grown⟩ := growth
      have sizeValue : (committedBlock block advanceTx size zeroExtents).stamped.dbSize.toNat = size := by
        rw [Superblock.stamped_dbSize, committedBlock_dbSize]
        exact UInt64.toNat_ofNat_of_lt' bounded
      rw [dbBaseOffset] at above within
      rw [afterLive.committedSize_eq, sizeValue]
      refine .intro _ published afterLive ?_ ?_ (by rw [sizeValue]; exact le_max_right _ _) ?_
      · rw [Superblock.stamped_dbBaseOffset, committedBlock_dbBaseOffset, dbBaseOffset]
      · cases advanceTx <;> rfl
      · rw [grown, pagesFor_published pages above within]

theorem Fitted.runAll {peak : Nat} (calls : List BlobCall) (plain : ∀ call ∈ calls, call.isImport = false)
    (fitted : Fitted peak context) :
    Fitted (max peak (peakCommittedSize calls context)) (BlobCall.runAll calls context) := by
  have size : committedSize context ≤ peak := by
    obtain ⟨block, base, live, _, _, below, _⟩ := fitted
    rw [live.committedSize_eq]
    exact below
  induction calls generalizing context peak with
  | nil =>
      rw [peakCommittedSize, max_eq_left size]
      exact fitted
  | cons call rest ih =>
      have stepped := fitted.step call (plain call List.mem_cons_self)
      have later := ih (fun other member => plain other (List.mem_cons_of_mem _ member)) stepped (le_max_right _ _)
      have reached := committedSize_le_peak rest (call.after context)
      rw [max_assoc, max_eq_right reached] at later
      rw [peakCommittedSize, ← max_assoc, max_eq_left size]
      exact later

/-- A handle that could be initialized holds the superblock's page and nothing else. -/
theorem fitted_initialized {grants : Nat → Bool} {opened : Store}
    (opens : initializeHandle (Context.fresh grants).store = (.ok (), opened)) : Fitted 0 ⟨opened, none⟩ := by
  have pristine : Pristine (Context.fresh grants).store := ⟨rfl, rfl⟩
  rw [initializeHandle] at opens
  rcases pristine.load_cases with loaded | refused
  · obtain ⟨after, ended, serves, pages⟩ := loaded
    rw [Action.bind_of_ok _ ended, ensureCurrentLayout_of serves] at opens
    obtain rfl := (Prod.mk.inj opens).2
    refine .intro Superblock.fresh [] ⟨serves.warm, ?_, ?_⟩ fresh_dbBaseOffset rfl (Nat.le_refl _) pages
    · intro importing
      cases importing
    · intro overlay active
      cases active
  · obtain ⟨error, after, ended, _⟩ := refused
    rw [Action.bind_of_err _ ended] at opens
    cases opens

/-- After any run of transactions, direct changes and checksum refreshes, with
any growth refused on the way, a context holds the superblock's page and the
pages of the largest image it ever committed.  The image starts behind the
superblock, there is no page table, and every page slot of the image, the last
one included, lies inside the memory. -/
theorem stable_size_is_that_of_the_peak_image (grants : Nat → Bool) (opened : Store)
    (opens : initializeHandle (Context.fresh grants).store = (.ok (), opened)) (calls : List BlobCall)
    (plain : ∀ call ∈ calls, call.isImport = false) :
    let final := BlobCall.runAll calls ⟨opened, none⟩
    final.store.memory.pages = 1 + divCeil (peakCommittedSize calls ⟨opened, none⟩) stablePageSize ∧
      ∃ block loaded, Superblock.load final.store = (.ok block, loaded) ∧
        block.dbBaseOffset = 65536 ∧ block.pageTableOffset = 0 ∧
        ∀ pageNo, pageNo < activePageCount block →
          block.dbBaseOffset.toNat + (pageNo + 1) * sqlitePageSize ≤ final.store.memory.capacity := by
  intro final
  have fitted := (fitted_initialized opens).runAll calls plain
  rw [Nat.zero_max] at fitted
  obtain ⟨block, base, live, dbBaseOffset, pageTableOffset, below, pages⟩ := fitted
  refine ⟨pages, block, _, live.serves.coherent.load_eq, UInt64.toNat_inj.mp dbBaseOffset, pageTableOffset, ?_⟩
  intro pageNo active
  rw [dbBaseOffset, Memory.capacity, pages]
  simp only [activePageCount, pageCountForSize, divCeil, stablePageSize, sqlitePageSize] at active below ⊢
  omega

/-- A sparse write behind the first stable page, committed after a larger one
was rolled back. -/
theorem stable_size_of_sparse_commit :
    ∃ opened, initializeHandle (Context.fresh fun _ => true).store = (.ok (), opened) ∧
      let calls : List BlobCall := [.beginUpdate, .file (.write 200000 [1]), .rollbackUpdate, .beginUpdate,
        .file (.write 70000 [1]), .commitUpdate]
      (BlobCall.runAll calls ⟨opened, none⟩).store.memory.pages =
        1 + divCeil (peakCommittedSize calls ⟨opened, none⟩) stablePageSize := by
  have pristine : Pristine (Context.fresh fun _ => true).store := ⟨rfl, rfl⟩
  obtain ⟨after, ended, serves⟩ := pristine.load_granted rfl
  have opens : initializeHandle (Context.fresh fun _ => true).store =
      (.ok (), { after with superblockCache := some Superblock.fresh }) := by
    rw [initializeHandle, Action.bind_of_ok _ ended, ensureCurrentLayout_of serves]
  exact ⟨_, opens, (stable_size_is_that_of_the_peak_image _ _ opens _ (by decide)).1⟩

end IcSqliteVfs.SqliteVfs
