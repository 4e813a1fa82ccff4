import IcSqliteVfs.SqliteVfs.CertifiedRun

namespace IcSqliteVfs.SqliteVfs

open IcSqliteVfs.Data IcSqliteVfs.Semantics IcSqliteVfs.Stable

/-! # Refreshing the checksum in chunks

Progress lives in the superblock.  Each call hashes on from where the last one
stopped, and the last call publishes the checksum.
-/

/-- Where the next chunk starts. -/
def refreshPosition (block : Superblock) : Nat :=
  if block.isChecksumRefreshing then block.checksumRefreshOffset.toNat else 0

/-- Call with one chunk size after the other, until a call fails or reports completion. -/
def refreshUntilComplete : List UInt64 → Context → List (Outcome StableMemoryError ChecksumRefresh) × Context
  | [], context => ([], context)
  | chunk :: rest, context =>
      match refreshChecksumChunk chunk.toNat context with
      | (.ok report, next) =>
          if report.complete then ([.ok report], next)
          else
            let (reports, last) := refreshUntilComplete rest next
            (.ok report :: reports, last)
      | (outcome, next) => ([outcome], next)

/-- The offsets such calls reach: each goes on by its chunk or by what remains. -/
def scannedOffsets (size : Nat) : Nat → List UInt64 → List Nat
  | _, [] => []
  | start, chunk :: rest =>
      let stop := start + min chunk.toNat (size - start)
      if stop = size then [stop] else stop :: scannedOffsets size stop rest

/-- What a call reports at an offset. -/
def reportAt (file : List UInt8) (dbSize : UInt64) (offset : Nat) : ChecksumRefresh where
  complete := decide (offset = file.length)
  checksum := fnv1a64 (file.take offset)
  scannedBytes := UInt64.ofNat offset
  dbSize := dbSize

theorem scannedOffsets_reaches {size start : Nat} {chunks : List UInt64} (within : start ≤ size)
    (positive : ∀ chunk ∈ chunks, 0 < chunk) (enough : max 1 (size - start) ≤ chunks.length) :
    size ∈ scannedOffsets size start chunks := by
  induction chunks generalizing start with
  | nil =>
      rw [List.length_nil] at enough
      omega
  | cons chunk rest ih =>
      have nonzero : 0 < chunk.toNat := UInt64.lt_iff_toNat_lt.mp (positive chunk List.mem_cons_self)
      simp only [scannedOffsets]
      by_cases finished : start + min chunk.toNat (size - start) = size
      · rw [if_pos finished, finished]
        exact List.mem_singleton.mpr rfl
      · rw [if_neg finished]
        refine List.mem_cons_of_mem _ (ih (by omega) ?_ ?_)
        · exact fun other member => positive other (List.mem_cons_of_mem _ member)
        · rw [List.length_cons] at enough
          omega

/-! ## The invariant of transactions and refreshes without imports -/

structure Refreshable (block : Superblock) (base : List UInt8) : Prop extends Certified block base where
  notImporting : block.isImporting = false
  current : block.isChecksumRefreshing = true → block.checksumRefreshTxId = block.lastTxId

variable {context next : Context} {block : Superblock} {base : List UInt8}

theorem not_refreshing_certified (block : Superblock) (checksum : UInt64) :
    (certified block checksum).stamped.isChecksumRefreshing = false := by
  have flags : (certified block checksum).stamped.flags =
      block.flags &&& ~~~flagChecksumStale &&& ~~~flagChecksumRefreshing := rfl
  rw [Superblock.isChecksumRefreshing, flags, clear_and_self]
  rfl

theorem not_stale_certified (block : Superblock) (checksum : UInt64) :
    (certified block checksum).stamped.isChecksumStale = false := by
  have flags : (certified block checksum).stamped.flags =
      block.flags &&& ~~~flagChecksumStale &&& ~~~flagChecksumRefreshing := rfl
  rw [Superblock.isChecksumStale, flags, clear_and_other _ (by decide), clear_and_self]
  rfl

theorem not_refreshing_committed (block : Superblock) (size : Nat) (zeroExtents : List ZeroExtent) :
    (committedBlock block true size zeroExtents).stamped.isChecksumRefreshing = false := by
  have flags : (committedBlock block true size zeroExtents).stamped.flags =
      (block.flags ||| flagChecksumStale) &&& ~~~flagChecksumRefreshing := rfl
  rw [Superblock.isChecksumRefreshing, flags, clear_and_self]
  rfl

/-- Nothing is in progress, and the rest is the block's. -/
theorem refreshable_of_idle {edited : Superblock} (certified : Certified edited.stamped base)
    (same : SameImport block edited) (notImporting : block.isImporting = false)
    (idle : edited.stamped.isChecksumRefreshing = false) : Refreshable edited.stamped base where
  toCertified := certified
  notImporting := same.isImporting.trans notImporting
  current := by
    rw [idle]
    intro refreshing
    cases refreshing

theorem Refreshable.survivesCalls : SurvivesCalls Refreshable where
  cleared := by
    intro block base holds
    exact refreshable_of_idle holds.cleared (sameImport_clearChecksumRefresh block) holds.notImporting
      (not_refreshing_cleared block)
  scanned := by
    intro block base maxBytes holds size current
    have same := (sameImport_resumed block).trans (sameImport_scanned (resumed block) base maxBytes)
    refine ⟨Certified.survivesChunks.scanned block base maxBytes holds.toCertified size current,
      same.isImporting.trans holds.notImporting, ?_⟩
    intro refreshing
    rw [scanned, refreshAdvanced] at refreshing ⊢
    dsimp only at refreshing ⊢
    split at refreshing
    · rw [not_refreshing_certified] at refreshing
      cases refreshing
    · rename_i unfinished
      rw [if_neg unfinished]
      exact current
  fresh := ⟨certified_fresh, rfl, fun refreshing => by cases refreshing⟩
  committed := by
    intro block base size zeroExtents published holds
    exact refreshable_of_idle (Certified.ofCommit block size zeroExtents published)
      (sameImport_committedBlock block true size zeroExtents) holds.notImporting
      (not_refreshing_committed block size zeroExtents)
  certified := by
    intro block base holds
    exact refreshable_of_idle (Certified.ofWhole block base) (sameImport_certified block _) holds.notImporting
      (not_refreshing_certified block _)
  versioned := fun _ _ _ holds => ⟨⟨holds.published, holds.progress⟩, holds.notImporting, holds.current⟩

theorem Reached.refreshable {grants : Nat → Bool} (reached : Reached grants context) : Usable Refreshable context := by
  induction reached with
  | fresh => exact usable_fresh grants
  | call call reached transactional ih => exact ih.transactional Refreshable.survivesCalls call transactional

/-! ## One chunk -/

theorem resumed_offset (block : Superblock) :
    (resumed block).checksumRefreshOffset.toNat = refreshPosition block := by
  rw [resumed, refreshPosition]
  split
  · rfl
  · rfl

theorem resumed_current (holds : Refreshable block base) :
    (resumed block).checksumRefreshTxId = (resumed block).lastTxId := by
  rw [resumed]
  split
  · exact holds.current ‹_›
  · rfl

theorem Refreshable.position_le (holds : Refreshable block base) : refreshPosition block ≤ block.dbSize.toNat := by
  rw [refreshPosition]
  split
  · exact UInt64.le_iff_toNat_le.mp (holds.progress ‹_›).1
  · exact Nat.zero_le _

/-- Where a chunk of a block in this state stops. -/
def chunkStop (block : Superblock) (maxBytes : Nat) : Nat :=
  refreshPosition block + min maxBytes (block.dbSize.toNat - refreshPosition block)

theorem Refreshable.refreshStop_eq (holds : Refreshable block base) (maxBytes : Nat) :
    refreshStop (resumed block) maxBytes = chunkStop block maxBytes := by
  have within := holds.position_le
  have bound : block.dbSize.toNat < u64Bound := block.dbSize.toNat_lt
  rw [refreshStop, (sameImage_resumed block).dbSize, resumed_offset, chunkStop]
  omega

theorem Refreshable.rehashed (holds : Refreshable block base) (size : base.length = block.dbSize.toNat)
    (maxBytes : Nat) :
    foldFnv1a64 (resumed block).checksumRefreshHash (readFrom 0 base (refreshPosition block)
      (chunkStop block maxBytes - refreshPosition block)) = fnv1a64 (base.take (chunkStop block maxBytes)) := by
  obtain ⟨again, refreshing⟩ := holds.toCertified.resumed
  have within := holds.position_le
  rw [(again.progress refreshing).2, resumed_offset]
  refine foldFnv1a64_take ?_ ?_
  · exact Nat.le_add_right _ _
  · rw [chunkStop, size]
    omega

theorem Refreshable.reported_eq (holds : Refreshable block base) (size : base.length = block.dbSize.toNat)
    (maxBytes : Nat) :
    reported (resumed block) base maxBytes = reportAt base block.dbSize (chunkStop block maxBytes) := by
  have forward : max (refreshPosition block) (chunkStop block maxBytes) = chunkStop block maxBytes :=
    max_eq_right (Nat.le_add_right _ _)
  have same : (resumed block).dbSize = block.dbSize := (sameImage_resumed block).dbSize
  simp only [reported, holds.refreshStop_eq, resumed_offset, forward, holds.rehashed size, reportAt, same, size]
  rfl

/-- The block after a chunk: it goes on from the reported offset, or it is
finished and certified. -/
theorem Refreshable.scanned_eq (holds : Refreshable block base) (size : base.length = block.dbSize.toNat)
    (maxBytes : Nat) :
    (chunkStop block maxBytes ≠ base.length →
      refreshPosition (scanned (resumed block) base maxBytes).stamped = chunkStop block maxBytes) ∧
    (chunkStop block maxBytes = base.length →
      (scanned (resumed block) base maxBytes).stamped.checksum = fnv1a64 base ∧
      (scanned (resumed block) base maxBytes).stamped.isChecksumStale = false ∧
      (scanned (resumed block) base maxBytes).stamped.isChecksumRefreshing = false) := by
  have forward : max (refreshPosition block) (chunkStop block maxBytes) = chunkStop block maxBytes :=
    max_eq_right (Nat.le_add_right _ _)
  have same : (resumed block).dbSize = block.dbSize := (sameImage_resumed block).dbSize
  have bound : chunkStop block maxBytes < u64Bound := by
    have within := holds.position_le
    have addressable : block.dbSize.toNat < u64Bound := block.dbSize.toNat_lt
    rw [chunkStop]
    omega
  have unfolded : scanned (resumed block) base maxBytes =
      refreshAdvanced (resumed block) (chunkStop block maxBytes) (fnv1a64 (base.take (chunkStop block maxBytes))) := by
    simp only [scanned, holds.refreshStop_eq, resumed_offset, forward, holds.rehashed size]
  rw [unfolded, refreshAdvanced]
  constructor
  · intro unfinished
    have more : ¬ chunkStop block maxBytes = (resumed block).dbSize.toNat := by
      rw [same, ← size]
      exact unfinished
    rw [if_neg more, refreshPosition]
    have refreshing : (resumed block).isChecksumRefreshing = true := holds.toCertified.resumed.2
    refine Eq.trans (if_pos ?_) ?_
    · exact refreshing
    · exact UInt64.toNat_ofNat_of_lt' bound
  · intro finished
    have done : chunkStop block maxBytes = (resumed block).dbSize.toNat := by
      rw [same, ← size]
      exact finished
    rw [if_pos done, finished, List.take_length]
    exact ⟨rfl, not_stale_certified _ _, not_refreshing_certified _ _⟩

/-- A chunk of an idle context reports the offset it reached and leaves the scanned block. -/
theorem Live.refreshChunk_of (live : Live context block base) (holds : Refreshable block base)
    (idle : context.overlay = none) {maxBytes : Nat} (positive : maxBytes ≠ 0) :
    ∃ after, refreshChecksumChunk maxBytes context =
        (.ok (reportAt base block.dbSize (chunkStop block maxBytes)), after) ∧ after.overlay = none ∧
      Live after (scanned (resumed block) base maxBytes).stamped base := by
  have size := live.serves.size_eq
  rw [refreshChecksumChunk, refreshChecksumChunkWithin, Action.bind_of_ok _ (passed_of_idle idle), if_neg positive,
    Action.bind_of_ok _ (onContextStore_of live.serves.coherent.load_eq), ← holds.reported_eq size]
  rcases live.loaded.refreshLoaded_cases maxBytes (refreshChecksumChunkWithin maxBytes 1) with
    refused | restarted | advanced
  · rw [holds.notImporting] at refused
    cases refused.1
  · exact absurd (holds.current restarted.1) restarted.2.1
  · obtain ⟨_, after, ended, overlay, _, stored⟩ := advanced
    exact ⟨after, ended, overlay.trans idle, stored⟩

/-! ## Chunks until completion -/

theorem Live.refreshUntilComplete_of (live : Live context block base) (holds : Refreshable block base)
    (idle : context.overlay = none) (chunks : List UInt64) (positive : ∀ chunk ∈ chunks, 0 < chunk) :
    (refreshUntilComplete chunks context).1 =
      (scannedOffsets base.length (refreshPosition block) chunks).map
        (fun offset => .ok (reportAt base block.dbSize offset)) ∧
    (base.length ∈ scannedOffsets base.length (refreshPosition block) chunks →
      ∃ final, Live (refreshUntilComplete chunks context).2 final base ∧ final.checksum = fnv1a64 base ∧
        final.isChecksumStale = false ∧ final.isChecksumRefreshing = false) := by
  induction chunks generalizing context block with
  | nil => exact ⟨rfl, fun member => by cases member⟩
  | cons chunk rest ih =>
      have nonzero : chunk.toNat ≠ 0 :=
        Nat.pos_iff_ne_zero.mp (UInt64.lt_iff_toNat_lt.mp (positive chunk List.mem_cons_self))
      have size := live.serves.size_eq
      obtain ⟨after, ended, closed, stored⟩ := live.refreshChunk_of holds idle nonzero
      have kept := Refreshable.survivesCalls.scanned block base chunk.toNat holds size (resumed_current holds)
      obtain ⟨continues, finishes⟩ := holds.scanned_eq size chunk.toNat
      have reached : refreshPosition block + min chunk.toNat (base.length - refreshPosition block) =
          chunkStop block chunk.toNat := by
        rw [chunkStop, size]
      simp only [refreshUntilComplete, ended, scannedOffsets, reached]
      by_cases finished : chunkStop block chunk.toNat = base.length
      · have complete : (reportAt base block.dbSize (chunkStop block chunk.toNat)).complete = true :=
          decide_eq_true finished
        rw [if_pos complete, if_pos finished]
        exact ⟨rfl, fun _ => ⟨_, stored, finishes finished⟩⟩
      · have incomplete : ¬ (reportAt base block.dbSize (chunkStop block chunk.toNat)).complete = true := by
          rw [reportAt, decide_eq_true_eq]
          exact finished
        have dbSize : (scanned (resumed block) base chunk.toNat).stamped.dbSize = block.dbSize :=
          ((sameImage_resumed block).trans (sameImage_scanned (resumed block) base chunk.toNat)).dbSize
        obtain ⟨reports, completes⟩ := ih stored kept closed
          fun other member => positive other (List.mem_cons_of_mem _ member)
        rw [continues finished, dbSize] at reports
        rw [continues finished] at completes
        rw [if_neg incomplete, if_neg finished]
        refine ⟨by rw [List.map_cons, reports], ?_⟩
        intro member
        rcases List.mem_cons.mp member with here | later
        · exact absurd here.symm finished
        · exact completes later

/-! ## The first load of a context -/

theorem store_caches {store after : Store} (stored : block.store store = (.ok (), after)) :
    after.superblockCache = some block.stamped := by
  rw [Superblock.store, Superblock.storeWithCapacityCheck, Superblock.storeWith] at stored
  cases valid : block.validateZeroExtents with
  | error error =>
      rw [valid] at stored
      cases stored
  | ok _ =>
      rw [valid] at stored
      obtain ⟨_, middle, _, cached⟩ := Action.bind_eq_ok.mp stored
      rw [← (Prod.mk.inj cached).2]

theorem load_caches {store loaded : Store} (load : Superblock.load store = (.ok block, loaded)) :
    loaded.superblockCache = some block := by
  rw [Superblock.load, Action.read_bind_apply] at load
  cases cached : store.superblockCache with
  | some found =>
      simp only [cached] at load
      obtain ⟨rfl, rfl⟩ : found = block ∧ store = loaded := by simpa using load
      exact cached
  | none =>
      simp only [cached] at load
      split at load
      · obtain ⟨_, middle, stored, ended⟩ := Action.bind_eq_ok.mp load
        obtain ⟨rfl, rfl⟩ : Superblock.fresh = block ∧ middle = loaded := by simpa using ended
        rw [store_caches stored, Superblock.stamped_fresh]
      · obtain ⟨bytes, middle, _, checked⟩ := Action.bind_eq_ok.mp load
        cases decoded : Superblock.checkDecoded bytes with
        | error error =>
            rw [decoded] at checked
            cases checked
        | ok found =>
            rw [decoded] at checked
            obtain ⟨_, last, warmed, ended⟩ := Action.bind_eq_ok.mp checked
            obtain ⟨rfl, rfl⟩ : found = block ∧ last = loaded := by simpa using ended
            rw [← (Prod.mk.inj warmed).2]

theorem load_again {store loaded : Store} (load : Superblock.load store = (.ok block, loaded)) :
    Superblock.load loaded = (.ok block, loaded) := by
  rw [Superblock.load, Action.read_bind_apply]
  simp only [load_caches load]
  rfl

/-- A call that starts by loading does the same once the block is loaded. -/
theorem bind_load_eq {α : Type} {loaded : Store} (load : Superblock.load context.store = (.ok block, loaded))
    (rest : Superblock → ContextM α) :
    (onContextStore Superblock.load >>= rest) context =
      (onContextStore Superblock.load >>= rest) { context with store := loaded } := by
  have warm : onContextStore Superblock.load { context with store := loaded } =
      (.ok block, { context with store := loaded }) := Action.zoom_of (load_again load)
  rw [Action.bind_of_ok _ (onContextStore_of load), Action.bind_of_ok _ warm]

theorem checksum_of_load {loaded : Store} (idle : context.overlay = none)
    (load : Superblock.load context.store = (.ok block, loaded)) :
    SqliteVfs.checksum context = SqliteVfs.checksum { context with store := loaded } := by
  have loadedIdle : rejectDuringUpdate { context with store := loaded } = (.ok (), { context with store := loaded }) :=
    passed_of_idle idle
  rw [SqliteVfs.checksum, Action.bind_of_ok _ (passed_of_idle idle), bind_load_eq load,
    Action.bind_of_ok _ loadedIdle]

theorem refreshChecksum_of_load {loaded : Store} (idle : context.overlay = none)
    (load : Superblock.load context.store = (.ok block, loaded)) :
    SqliteVfs.refreshChecksum context = SqliteVfs.refreshChecksum { context with store := loaded } := by
  have loadedIdle : rejectDuringUpdate { context with store := loaded } = (.ok (), { context with store := loaded }) :=
    passed_of_idle idle
  rw [SqliteVfs.refreshChecksum, Action.bind_of_ok _ (passed_of_idle idle), Action.bind_of_ok _ loadedIdle,
    Action.bind_apply, checksum_of_load idle load, ← Action.bind_apply]

/-- A refresh in one go certifies the block that it found. -/
theorem Live.refreshChecksum_of_idle (live : Live context block base) (idle : context.overlay = none) :
    SqliteVfs.refreshChecksum context = (.ok (fnv1a64 base), { context with
        store := (certified block (fnv1a64 base)).storedIn { context.store with superblockCache := some block } }) ∧
      Live (SqliteVfs.refreshChecksum context).2 (certified block (fnv1a64 base)).stamped base := by
  have summed : SqliteVfs.checksum context =
      (.ok (fnv1a64 base), { context with store := { context.store with superblockCache := some block } }) := by
    rw [SqliteVfs.checksum, Action.bind_of_ok _ (passed_of_idle idle),
      Action.bind_of_ok _ (onContextStore_of live.serves.coherent.load_eq), live.loaded.checksum_eq]
  have same : SameImage block (certified block (fnv1a64 base)) := ⟨rfl, rfl, rfl, rfl, rfl⟩
  obtain ⟨stored, after⟩ := live.loaded.loaded.store_edited same
    (live.imported_of (sameImport_certified block (fnv1a64 base)))
  have ended : SqliteVfs.refreshChecksum context = (.ok (fnv1a64 base), { context with
      store := (certified block (fnv1a64 base)).storedIn { context.store with superblockCache := some block } }) := by
    rw [SqliteVfs.refreshChecksum, Action.bind_of_ok _ (passed_of_idle idle), Action.bind_of_ok _ summed,
      Action.bind_of_ok _ (onContextStore_of live.loaded.serves.coherent.load_eq), Action.bind_of_ok _ stored]
    rfl
  rw [ended]
  exact ⟨rfl, after⟩

end IcSqliteVfs.SqliteVfs
