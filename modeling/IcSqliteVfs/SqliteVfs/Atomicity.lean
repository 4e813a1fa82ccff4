import IcSqliteVfs.SqliteVfs.BlobRun

namespace IcSqliteVfs.SqliteVfs

open IcSqliteVfs.Data IcSqliteVfs.Semantics IcSqliteVfs.Stable

/-! # Commits are atomic -/

/-- No property of block and image beyond being loadable and readable. -/
abbrev Sane (context : Context) : Prop := Usable (fun _ _ => True) context

/-- What direct changes and imports need of an invariant as well. -/
structure SurvivesEvery (kept : Superblock → List UInt8 → Prop) : Prop extends SurvivesCalls kept where
  direct : ∀ block base size zeroExtents published, kept block base →
    kept (committedBlock block false size zeroExtents).stamped published
  begun : ∀ block base pages totalSize expectedChecksum, kept block base →
    kept (importBegun block (pages * stablePageSize) totalSize expectedChecksum).stamped base
  written : ∀ block base stop published, kept block base →
    kept (Superblock.stamped { block with importWrittenUntil := stop }) published
  importCleared : ∀ block base, kept block base → kept (importCleared block).stamped base
  importFinished : ∀ block base checksum published, kept block base → block.isImporting = true →
    kept (importFinished block checksum).stamped published

variable {kept : Superblock → List UInt8 → Prop} {context next : Context} {block edited : Superblock}
  {base : List UInt8}

/-! ## Direct changes -/

theorem Live.onNewOverlay (live : Live context block base) {change : OverlayM Unit}
    (keeps : ∀ memory, Action.Keeps (Overlay.Steady memory block base) change fun _ => True) :
    Action.Leaves (SqliteVfs.onNewOverlay block.dbSize.toNat change) context.store
      (fun direct after => direct.Sound ∧ Quiet block base context { context with store := after })
      fun after => Quiet block base context { context with store := after } := by
  have start : Overlay.Steady context.store.memory block base
      ⟨Overlay.new block.dbSize.toNat, context.store⟩ :=
    ⟨Overlay.sound_new block.dbSize.toNat_lt, live.serves, rfl⟩
  obtain ⟨steady, _⟩ := keeps _ _ start
  rw [Action.Leaves, SqliteVfs.onNewOverlay]
  cases ended : change ⟨Overlay.new block.dbSize.toNat, context.store⟩ with
  | mk outcome frame =>
      rw [ended] at steady
      have same : Quiet block base context { context with store := frame.store } := by
        refine ⟨⟨steady.serves, ?_, live.sound⟩, steady.memory_eq⟩
        rw [steady.memory_eq]
        exact live.imported
      cases outcome with
      | ok value => exact ⟨steady.sound, same⟩
      | err error => exact same
      | panic => exact same

theorem Live.commitDirect (survives : SurvivesEvery kept) (live : Live context block base) (holds : kept block base)
    {direct : Overlay} (sound : direct.Sound) :
    Action.Leaves (commitOverlay direct false) context.store
      (fun _ after => Usable kept { context with store := after })
      fun after => Usable kept { context with store := after } := by
  rcases live.commitOverlay_cases sound false with done | failed
  · obtain ⟨zeroExtents, grown, published, ended, _, after⟩ := done
    exact Action.leaves_of_ok ended (.live _ published after (survives.direct block base _ _ _ holds))
  · obtain ⟨error, after, ended, _, same⟩ := failed
    exact Action.leaves_of_err ended (.live block base same holds)

/-- The overlay behind a direct change, built on whatever block the context has. -/
theorem Usable.directOverlay (survives : SurvivesEvery kept) (usable : Usable kept context)
    {change : OverlayM Unit}
    (keeps : ∀ memory block base, Action.Keeps (Overlay.Steady memory block base) change fun _ => True) :
    Action.Leaves (SqliteVfs.directOverlay change) context.store
      (fun direct after => direct.Sound ∧
        ∃ block base, Live { context with store := after } block base ∧ kept block base)
      fun after => Usable kept { context with store := after } := by
  have layout : Action.Leaves ensureCurrentLayout context.store
      (fun _ after => Usable kept { context with store := after })
      fun after => Usable kept { context with store := after } := by
    refine Action.Leaves.bind (usable.load survives.fresh) ?_
    intro block after loaded
    obtain ⟨base, live, holds⟩ := loaded
    rw [if_pos live.serves.coherent.checked.layoutVersion]
    exact Action.leaves_pure (.live block base live holds)
  refine Action.Leaves.bind layout fun _ after same => ?_
  refine Action.Leaves.bind (same.load survives.fresh) ?_
  intro block loaded found
  obtain ⟨base, live, holds⟩ := found
  exact (live.onNewOverlay fun memory => keeps memory block base).imp
    (fun direct last built => ⟨built.1, block, base, built.2.live, holds⟩)
    fun last same => .live block base same.live holds

theorem Usable.directWrite (survives : SurvivesEvery kept) (usable : Usable kept context) (offset : Nat)
    (bytes : List UInt8) :
    Action.Leaves (SqliteVfs.directWrite offset bytes) context.store
      (fun _ after => Usable kept { context with store := after })
      fun after => Usable kept { context with store := after } := by
  rw [SqliteVfs.directWrite]
  split
  · exact Action.leaves_pure usable
  · refine Action.Leaves.bind
      (usable.directOverlay survives fun memory block base => Overlay.keeps_writeAt offset bytes) ?_
    intro direct after built
    obtain ⟨sound, block, base, live, holds⟩ := built
    exact live.commitDirect survives holds sound

theorem Usable.directTruncate (survives : SurvivesEvery kept) (usable : Usable kept context) {size : Nat}
    (bounded : size < u64Bound) :
    Action.Leaves (SqliteVfs.directTruncate size) context.store
      (fun _ after => Usable kept { context with store := after })
      fun after => Usable kept { context with store := after } := by
  rw [SqliteVfs.directTruncate]
  refine Action.Leaves.bind
    (usable.directOverlay survives fun memory block base => Overlay.keeps_truncate bounded) ?_
  intro direct after built
  obtain ⟨sound, block, base, live, holds⟩ := built
  split
  · exact Action.leaves_pure (.live block base live holds)
  · exact live.commitDirect survives holds sound

theorem Usable.readBase (fresh : kept Superblock.fresh []) (usable : Usable kept context) (offset count : Nat) :
    Action.Leaves (readBaseAt offset count) context.store
      (fun _ after => Usable kept { context with store := after })
      fun after => Usable kept { context with store := after } := by
  rw [readBaseAt]
  split
  · exact Action.leaves_pure usable
  · refine Action.Leaves.bind (usable.load fresh) ?_
    intro block after loaded
    obtain ⟨base, live, holds⟩ := loaded
    exact Action.leaves_of_ok (readBaseAtWithBlock_of live.serves.readable offset count)
      (.live block base live holds)

theorem Usable.file (survives : SurvivesEvery kept) (usable : Usable kept context) (call : OverlayCall) :
    Usable kept (call.onContext context).2 := by
  cases active : context.overlay with
  | some overlay => exact usable.callOverlay active call
  | none =>
      apply Action.Leaves.after
      cases call with
      | read offset count =>
          rw [OverlayCall.onContext, readAt]
          refine Action.Leaves.bind (Action.leaves_read_bind ?_) fun _ _ same => Action.leaves_pure same
          simp only [active]
          exact Action.Leaves.zoom (usable.readBase survives.fresh _ _)
      | write offset bytes =>
          rw [OverlayCall.onContext, writeAt]
          refine Action.Leaves.bind (Action.leaves_read_bind ?_) fun _ _ same => Action.leaves_pure same
          simp only [active]
          exact Action.Leaves.zoom (usable.directWrite survives _ _)
      | truncate size =>
          rw [OverlayCall.onContext, truncate]
          refine Action.Leaves.bind (Action.leaves_read_bind ?_) fun _ _ same => Action.leaves_pure same
          simp only [active]
          exact Action.Leaves.zoom (usable.directTruncate survives size.toNat_lt)

/-! ## Imports -/

theorem leaves_checkedAdd {good : Nat → Context → Prop} {bad : Context → Prop} {left right : Nat}
    (summed : left + right < u64Bound → good (left + right) context) (overflown : bad context) :
    Action.Leaves (checkedAdd left right : ContextM Nat) context good bad := by
  by_cases fits : left + right < u64Bound
  · exact Action.leaves_of_ok (checkedAdd_of fits context) (summed fits)
  · exact Action.leaves_of_err (checkedAdd_overflow fits context) overflown

theorem appendBase_of (store : Store) : appendBase store = (.ok store.memory.capacity, store) := by
  rw [appendBase, Action.read_bind_apply]
  exact checkedMul_of store.memory.addressable store

theorem Usable.beginImport (survives : SurvivesEvery kept) (usable : Usable kept context)
    (totalSize expectedChecksum : UInt64) :
    Action.Leaves (SqliteVfs.beginImport totalSize expectedChecksum) context (fun _ => Usable kept)
      (Usable kept) := by
  refine usable.unlessUpdating (usable.loadThen survives.fresh fun block base next live holds => ?_)
  have unchanged : Usable kept next := .live block base live holds
  split
  · exact Action.leaves_fail _ unchanged
  · refine Action.leaves_after_ok (onContextStore_of (appendBase_of next.store)) ?_
    have added : Action.Leaves (checkedAdd next.store.memory.capacity totalSize.toNat : ContextM Nat) next
        (fun _ after => next = after) (Usable kept) := leaves_checkedAdd (fun _ => rfl) unchanged
    refine Action.Leaves.bind added ?_
    rintro _ _ rfl
    have same : SameImage block
        (importBegun block next.store.memory.capacity totalSize expectedChecksum) :=
      ⟨rfl, rfl, rfl, rfl, rfl⟩
    have start : (UInt64.ofNat next.store.memory.capacity).toNat = next.store.memory.capacity :=
      UInt64.toNat_ofNat_of_lt' next.store.memory.addressable
    obtain ⟨stored, after⟩ := live.store_edited same (fun _ => by
      change superblockSize ≤ (UInt64.ofNat next.store.memory.capacity).toNat ∧
        (UInt64.ofNat next.store.memory.capacity).toNat + 0 ≤ next.store.memory.capacity
      rw [start]
      exact ⟨Nat.le_mul_of_pos_left _ live.serves.coherent.accepted.pages, Nat.le_of_eq (Nat.add_zero _)⟩)
    exact Action.leaves_of_ok stored (.live _ base after (survives.begun block base _ _ _ holds))

/-- Only the environment's answers have changed. -/
theorem Live.same (live : Live context block base) {after : Store} (same : context.store.Same after) :
    Live { context with store := after } block base := by
  have serves := live.serves
  refine ⟨⟨⟨?_, ?_⟩, ?_, ?_⟩, ?_, live.sound⟩
  · rw [same.memory]
    exact serves.coherent.accepted
  · rw [same.superblockCache]
    exact serves.coherent.cached
  · rw [same.memory]
    exact serves.readable
  · rw [same.memory]
    exact serves.image_eq
  · rw [same.memory]
    exact live.imported

/-- Bytes written behind the superblock leave it loadable and the image readable. -/
theorem Live.written (live : Live context block base) {after : Store}
    (pages : context.store.memory.pages ≤ after.memory.pages)
    (below : ∀ address, address < superblockSize →
      after.memory.bytes address = context.store.memory.bytes address)
    (cache : after.superblockCache = context.store.superblockCache) :
    Live { context with store := after } block (image after.memory block) := by
  have capacity : context.store.memory.capacity ≤ after.memory.capacity := Nat.mul_le_mul_right _ pages
  refine ⟨⟨⟨?_, ?_⟩, ⟨live.serves.readable.base, live.serves.readable.room.trans capacity⟩, rfl⟩, ?_, live.sound⟩
  · exact live.serves.coherent.accepted.frame pages below
  · rw [cache]
    exact live.serves.coherent.cached
  · intro importing
    obtain ⟨behind, room⟩ := live.imported importing
    exact ⟨behind, room.trans capacity⟩

theorem Usable.importChunk (survives : SurvivesEvery kept) (usable : Usable kept context) (offset : UInt64)
    (bytes : List UInt8) :
    Action.Leaves (SqliteVfs.importChunk offset bytes) context (fun _ => Usable kept) (Usable kept) := by
  refine usable.unlessUpdating (usable.loadThen survives.fresh fun block base next live holds => ?_)
  have unchanged : Usable kept next := .live block base live holds
  split
  · exact Action.leaves_fail _ unchanged
  · rename_i importing
    obtain ⟨behind, room⟩ := live.imported (not_not.mp importing)
    split
    · exact Action.leaves_fail _ unchanged
    · rename_i inOrder
      have expected : offset = block.importWrittenUntil := not_not.mp inOrder
      have stopAdded : Action.Leaves (checkedAdd offset.toNat bytes.length : ContextM Nat) next
          (fun stop after => next = after ∧ stop = offset.toNat + bytes.length ∧
            offset.toNat + bytes.length < u64Bound) (Usable kept) :=
        leaves_checkedAdd (fun fits => ⟨rfl, rfl, fits⟩) unchanged
      refine Action.Leaves.bind stopAdded ?_
      rintro _ _ ⟨rfl, rfl, fits⟩
      split
      · exact Action.leaves_fail _ unchanged
      · have physicalAdded : Action.Leaves
            (checkedAdd block.importBaseOffset.toNat offset.toNat : ContextM Nat) next
            (fun physical after => next = after ∧ physical = block.importBaseOffset.toNat + offset.toNat)
            (Usable kept) :=
          leaves_checkedAdd (fun _ => ⟨rfl, rfl⟩) unchanged
        refine Action.Leaves.bind physicalAdded ?_
        rintro _ _ ⟨rfl, rfl⟩
        rcases write_cases next.store (block.importBaseOffset.toNat + offset.toNat) bytes with done | failed
        · obtain ⟨after, ended, pages, below, cache, written, _⟩ := done
          refine Action.leaves_after_ok (onContextStore_of ended) ?_
          have writtenLive := live.written pages (fun address inside => below address (by omega)) cache
          have same : SameImage block
              { block with importWrittenUntil := UInt64.ofNat (offset.toNat + bytes.length) } :=
            ⟨rfl, rfl, rfl, rfl, rfl⟩
          have stopValue : (UInt64.ofNat (offset.toNat + bytes.length)).toNat = offset.toNat + bytes.length :=
            UInt64.toNat_ofNat_of_lt' fits
          obtain ⟨stored, last⟩ := writtenLive.store_edited same (fun _ => by
            refine ⟨behind, ?_⟩
            change block.importBaseOffset.toNat + (UInt64.ofNat (offset.toNat + bytes.length)).toNat ≤
              after.memory.capacity
            rw [stopValue]
            rcases written with empty | inside
            · obtain ⟨_, wide⟩ := writtenLive.imported (not_not.mp importing)
              rw [empty, expected]
              exact wide
            · omega)
          exact Action.leaves_of_ok stored (.live _ _ last (survives.written block base _ _ holds))
        · obtain ⟨error, after, ended, same⟩ := failed
          refine Action.leaves_of_err (Action.bind_of_err _ (onContextStore_of ended)) ?_
          exact .live block base (live.same same) holds

theorem Live.clearImport (survives : SurvivesEvery kept) (live : Live context block base) (holds : kept block base) :
    Action.Leaves (onContextStore (SqliteVfs.clearImport block)) context (fun _ => Usable kept) (Usable kept) := by
  have same : SameImage block (importCleared block) := ⟨rfl, rfl, rfl, rfl, rfl⟩
  obtain ⟨stored, after⟩ := live.store_edited same (fun importing => by
    rw [idle_importCleared] at importing
    cases importing)
  exact Action.leaves_of_ok stored (.live _ base after (survives.importCleared block base holds))

/-- The imported bytes become the image. -/
theorem Live.importFinished (survives : SurvivesEvery kept) (live : Live context block base)
    (holds : kept block base) (importing : block.isImporting = true)
    (whole : block.importWrittenUntil = block.importTotalSize) (checksum : UInt64) :
    Action.Leaves (onContextStore (SqliteVfs.importFinished block checksum).store) context
      (fun _ => Usable kept) (Usable kept) := by
  obtain ⟨behind, room⟩ := live.imported importing
  have coherent := live.serves.coherent
  have pages := coherent.accepted.pages
  have valid : (SqliteVfs.importFinished block checksum).validateZeroExtents = .ok () := by
    rw [Superblock.validateZeroExtents_iff]
    exact ⟨Nat.zero_le _, Data.Interval.normal_nil⟩
  refine Action.leaves_of_ok (onContextStore_of (Superblock.store_of pages valid))
    (.live (SqliteVfs.importFinished block checksum).stamped
      (image ((SqliteVfs.importFinished block checksum).storedIn context.store).memory
        (SqliteVfs.importFinished block checksum).stamped) ?_
      (survives.importFinished block base checksum _ holds importing))
  refine ⟨⟨Superblock.storedIn_coherent pages coherent.checked.magic rfl valid, ⟨behind, ?_⟩, rfl⟩, ?_, live.sound⟩
  · change block.importBaseOffset.toNat + block.importTotalSize.toNat ≤ context.store.memory.capacity
    rw [← whole]
    exact room
  · intro again
    change (SqliteVfs.importFinished block checksum).isImporting = true at again
    rw [idle_importFinished] at again
    cases again

theorem Usable.finishImport (survives : SurvivesEvery kept) (usable : Usable kept context) :
    Action.Leaves SqliteVfs.finishImport context (fun _ => Usable kept) (Usable kept) := by
  refine usable.unlessUpdating (usable.loadThen survives.fresh fun block base next live holds => ?_)
  have unchanged : Usable kept next := .live block base live holds
  split
  · exact Action.leaves_fail _ unchanged
  · rename_i importing
    split
    · exact Action.leaves_fail _ unchanged
    · rename_i whole
      have complete : block.importWrittenUntil = block.importTotalSize := not_not.mp whole
      have room := (live.imported (not_not.mp importing)).2
      rw [complete] at room
      refine Action.leaves_after_ok (onContextStore_of (checksumPhysicalRange_of room)) ?_
      split
      · exact Action.Leaves.bind (live.clearImport survives holds) fun _ _ cleared => Action.leaves_fail _ cleared
      · exact live.importFinished survives holds (not_not.mp importing) complete _

theorem Usable.cancelImport (survives : SurvivesEvery kept) (usable : Usable kept context) :
    Action.Leaves SqliteVfs.cancelImport context (fun _ => Usable kept) (Usable kept) := by
  refine usable.unlessUpdating (usable.loadThen survives.fresh fun block base next live holds => ?_)
  split
  · exact Action.leaves_fail _ (.live block base live holds)
  · exact live.clearImport survives holds

/-! ## Runs -/

theorem survivesEvery_true : SurvivesEvery fun _ _ => True where
  cleared := fun _ _ _ => True.intro
  scanned := fun _ _ _ _ _ _ => True.intro
  fresh := True.intro
  committed := fun _ _ _ _ _ _ => True.intro
  certified := fun _ _ _ => True.intro
  versioned := fun _ _ _ _ => True.intro
  direct := fun _ _ _ _ _ _ => True.intro
  begun := fun _ _ _ _ _ _ => True.intro
  written := fun _ _ _ _ _ => True.intro
  importCleared := fun _ _ _ => True.intro
  importFinished := fun _ _ _ _ _ _ => True.intro

theorem Usable.perform (survives : SurvivesEvery kept) (usable : Usable kept context) (call : BlobCall) :
    Usable kept (call.after context) := by
  by_cases transactional : call.Transactional context
  · exact usable.transactional survives.toSurvivesCalls call transactional
  · -- What is left are the direct calls and the imports.
    cases call with
    | file call =>
        rw [BlobCall.after, BlobCall.perform, BlobCall.ignore_after]
        exact usable.file survives call
    | beginImport totalSize expectedChecksum => exact (usable.beginImport survives _ _).after
    | importChunk offset bytes => exact (usable.importChunk survives _ _).after
    | finishImport => exact (usable.finishImport survives).after
    | cancelImport => exact (usable.cancelImport survives).after
    | _ => exact absurd True.intro transactional

theorem usable_runAll (survives : SurvivesEvery kept) (calls : List BlobCall) (usable : Usable kept context) :
    Usable kept (BlobCall.runAll calls context) := by
  induction calls generalizing context with
  | nil => exact usable
  | cons call rest ih => exact ih (usable.perform survives call)

theorem sane_runAll (calls : List BlobCall) (sane : Sane context) : Sane (BlobCall.runAll calls context) :=
  usable_runAll survivesEvery_true calls sane

/-! ## The commit that ends a run -/

theorem Live.readBaseAt_eq (live : Live context block base) (offset count : Nat) :
    (readBaseAt offset count context.store).1 =
      .ok (readFrom 0 base offset count, decide (count = 0 ∨ offset + count ≤ base.length)) := by
  rw [readBaseAt]
  by_cases none : count = 0
  · rw [if_pos none, none]
    rfl
  · have warm := live.loaded.serves
    rw [if_neg none, Action.bind_of_ok _ live.serves.coherent.load_eq,
      readBaseAtWithBlock_of warm.readable, warm.image_eq, warm.size_eq]

/-- Once the capacity is granted, nothing on the way to the published block fails. -/
theorem Live.publishes (live : Live context block base) {overlay : Overlay} (sound : overlay.Sound)
    {loaded prepared : Store} {found : Superblock} {zeroExtents : List ZeroExtent}
    (load : Superblock.load context.store = (.ok found, loaded))
    (prepare : prepareCommit found overlay loaded = (.ok zeroExtents, prepared)) (advanceTx : Bool) :
    prepared.memory.bytes = context.store.memory.bytes ∧
      ∃ published, publishCommit found overlay advanceTx zeroExtents prepared = (.ok (), published) := by
  have coherent := live.serves.coherent
  rw [coherent.load_eq] at load
  obtain ⟨sameBlock, rfl⟩ := Prod.mk.inj load
  obtain rfl := Outcome.ok.inj sameBlock
  rcases prepareCommit_cases block overlay { context.store with superblockCache := some block } with done | failed
  · obtain ⟨extents, grown, ended, checked⟩ := done
    rw [prepare] at ended
    obtain ⟨sameExtents, rfl⟩ := Prod.mk.inj ended
    obtain rfl := Outcome.ok.inj sameExtents
    have grownCoherent : Superblock.Coherent prepared block := by
      refine ⟨coherent.accepted.frame checked.pages ?_, .inr checked.superblockCache⟩
      intro address _
      rw [checked.bytes]
    have fit : PagesFit block (pageCountForSize overlay.size) overlay.pages prepared.memory :=
      ⟨sound.pageLength, checked.pageRoom⟩
    obtain ⟨limit, normal, _⟩ := zeroExtentsAfterCommit_spec (pageCountForSize_lt sound.size)
      coherent.checked.normal checked.extents
    exact ⟨checked.bytes, _, publishCommit_of grownCoherent live.serves.readable.base fit limit normal advanceTx⟩
  · obtain ⟨error, after, ended, _⟩ := failed
    rw [prepare] at ended
    cases ended

/-- After any run of calls from an empty memory, a commit closes the overlay
and never panics.  If it reports an error, the memory, the block that a load
returns and every read of the image are as before; and once its capacity is
granted, with no byte written yet, the page writes and the publication succeed. -/
theorem commit_update_is_atomic (grants : Nat → Bool) (calls : List BlobCall) :
    let before := BlobCall.runAll calls (Context.fresh grants)
    let outcome := (commitUpdate before).1
    let after := (commitUpdate before).2
    after.overlay = none ∧ outcome ≠ .panic ∧
    (∀ error, outcome = .err error →
      after.store.memory = before.store.memory ∧
      (Superblock.load after.store).1 = (Superblock.load before.store).1 ∧
      ∀ offset count,
        (readBaseAt offset count after.store).1 = (readBaseAt offset count before.store).1) ∧
    (∀ overlay block loaded zeroExtents prepared, before.overlay = some overlay →
      Superblock.load before.store = (.ok block, loaded) →
      prepareCommit block overlay loaded = (.ok zeroExtents, prepared) →
      prepared.memory.bytes = before.store.memory.bytes ∧
      ∃ published, publishCommit block overlay true zeroExtents prepared = (.ok (), published)) := by
  intro before outcome after
  have sane : Sane before := sane_runAll calls (usable_fresh grants)
  cases sane with
  | unused pristine overlay =>
      have ended := commitUpdate_of_none overlay
      simp only [outcome, after, ended]
      refine ⟨overlay, by simp, fun error same => (by cases same), ?_⟩
      intro active _ _ _ _ found
      rw [overlay] at found
      cases found
  | live block base live _ =>
      have publishes : ∀ overlay block loaded zeroExtents prepared, before.overlay = some overlay →
          Superblock.load before.store = (.ok block, loaded) →
          prepareCommit block overlay loaded = (.ok zeroExtents, prepared) →
          prepared.memory.bytes = before.store.memory.bytes ∧
          ∃ published, publishCommit block overlay true zeroExtents prepared = (.ok (), published) :=
        fun overlay _ _ _ _ active load prepare => live.publishes (live.sound overlay active) load prepare true
      rcases live.commitUpdate_cases with quiet | done | failed
      · obtain ⟨next, ended, closed, _⟩ := quiet
        simp only [outcome, after, ended]
        exact ⟨closed, by simp, fun error same => (by cases same), publishes⟩
      · obtain ⟨overlay, zeroExtents, grown, published, ended, _, _, _⟩ := done
        simp only [outcome, after, ended]
        exact ⟨trivial, by simp, fun error same => (by cases same), publishes⟩
      · obtain ⟨error, next, ended, closed, same⟩ := failed
        simp only [outcome, after, ended]
        refine ⟨closed, by simp, ?_, publishes⟩
        intro reported _
        refine ⟨same.memory, ?_, ?_⟩
        · rw [same.live.serves.coherent.load_eq, live.serves.coherent.load_eq]
        · intro offset count
          rw [same.live.readBaseAt_eq, live.readBaseAt_eq]

end IcSqliteVfs.SqliteVfs
