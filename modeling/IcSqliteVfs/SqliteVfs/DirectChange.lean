import IcSqliteVfs.SqliteVfs.Capacity
import IcSqliteVfs.SqliteVfs.ChunkedRefresh
import IcSqliteVfs.SqliteVfs.FileSafety

namespace IcSqliteVfs.SqliteVfs

open IcSqliteVfs.Data IcSqliteVfs.Semantics IcSqliteVfs.Stable

/-! # Checksums after direct changes

A write or truncate outside a transaction stores the new image with
`store_db_image_without_tx`, which leaves the checksum fields as they are.
-/

/-- The block says of this image that its checksum is stale or right, and no
refresh goes on from the beginning of another image. -/
structure ChecksumHonest (block : Superblock) (file : List UInt8) : Prop where
  published : block.isChecksumStale = true ∨ block.checksum = fnv1a64 file
  progress : block.isChecksumRefreshing = true → block.checksumRefreshOffset.toNat ≤ file.length ∧
    block.checksumRefreshHash = fnv1a64 (file.take block.checksumRefreshOffset.toNat)

/-- Progress of a refresh belongs to the last transaction. -/
def RefreshCurrent (block : Superblock) (_ : List UInt8) : Prop :=
  block.isChecksumRefreshing = true → block.checksumRefreshTxId = block.lastTxId

variable {context : Context} {block : Superblock} {base : List UInt8}

theorem refreshCurrent_of_idle (idle : block.isChecksumRefreshing = false) : RefreshCurrent block base := by
  intro refreshing
  rw [idle] at refreshing
  cases refreshing

theorem not_refreshing_of_clearing {flags : UInt64} (edited : Superblock)
    (cleared : edited.flags = flags &&& ~~~flagChecksumRefreshing) : edited.isChecksumRefreshing = false := by
  rw [Superblock.isChecksumRefreshing, cleared, clear_and_self]
  rfl

theorem RefreshCurrent.survivesEvery : SurvivesEvery RefreshCurrent where
  cleared := fun block _ _ => refreshCurrent_of_idle (not_refreshing_cleared block)
  scanned := by
    intro block base maxBytes _ _ current refreshing
    rw [scanned, refreshAdvanced] at refreshing ⊢
    dsimp only at refreshing ⊢
    split at refreshing
    · rw [not_refreshing_certified] at refreshing
      cases refreshing
    · rename_i unfinished
      rw [if_neg unfinished]
      exact current
  fresh := refreshCurrent_of_idle rfl
  committed := fun block _ size zeroExtents _ _ =>
    refreshCurrent_of_idle (not_refreshing_committed block size zeroExtents)
  certified := fun block base _ => refreshCurrent_of_idle (not_refreshing_certified block (fnv1a64 base))
  versioned := fun _ _ _ current => current
  direct := fun _ _ _ _ _ current => current
  begun := fun block _ _ _ _ _ =>
    refreshCurrent_of_idle (not_refreshing_of_clearing _ rfl)
  written := fun _ _ _ _ current => current
  importCleared := by
    intro block base current refreshing
    have flags : (importCleared block).stamped.flags = block.flags &&& ~~~flagImporting := rfl
    rw [Superblock.isChecksumRefreshing, flags, clear_and_other _ (by decide)] at refreshing
    exact current refreshing
  importFinished := fun block _ _ _ _ _ =>
    refreshCurrent_of_idle (not_refreshing_of_clearing _ rfl)

/-! ## The block and the image after a direct change -/

/-- A committed direct change: the block is the old one with the changed image. -/
def ChangedTo (block : Superblock) (file : List UInt8) (after : Context) : Prop :=
  ∃ size zeroExtents, Live after (committedBlock block false size zeroExtents).stamped file

theorem Live.commitDirect_of {direct : Overlay} {built after : Store} {file : List UInt8}
    (same : Live { context with store := built } block base)
    (holds : Overlay.Holds block base ⟨direct, built⟩ file)
    (ended : commitOverlay direct false built = (.ok (), after)) :
    ChangedTo block file { context with store := after } := by
  have sound : direct.Sound := holds.sound
  have size : direct.size = file.length := holds.size
  rcases same.commitOverlay_cases sound false with done | failed
  · obtain ⟨zeroExtents, grown, published, committed, prepared, stored⟩ := done
    obtain rfl := (Prod.mk.inj (ended.symm.trans committed)).2
    have serves := publishedIn_serves same.serves false prepared (size ▸ holds.showing.shows) size sound.size
    obtain rfl : published = file := stored.serves.image_eq.symm.trans serves.image_eq
    exact ⟨_, _, stored⟩
  · obtain ⟨error, last, refused, _⟩ := failed
    rw [ended] at refused
    cases refused

theorem Live.directOverlay_ok (live : Live context block base) {change : OverlayM Unit} {overflows : Nat → Prop}
    {model : List UInt8 → List UInt8} (refines : Overlay.Refines block base change overflows model)
    (keeps : ∀ memory, Action.Keeps (Overlay.Steady memory block base) change fun _ => True)
    {direct : Overlay} {built : Store} (ended : SqliteVfs.directOverlay change context.store = (.ok direct, built)) :
    Overlay.Holds block base ⟨direct, built⟩ (model base) ∧ Live { context with store := built } block base := by
  have quiet := live.directOverlay keeps
  rw [Action.Leaves, ended] at quiet
  refine ⟨?_, quiet.2.live⟩
  have warm := live.loaded.serves
  have start := Overlay.holds_new warm
  rw [warm.size_eq] at start
  rw [SqliteVfs.directOverlay, Action.bind_of_ok _ (ensureCurrentLayout_of live.serves),
    Action.bind_of_ok _ warm.coherent.load_eq, SqliteVfs.onNewOverlay] at ended
  rcases refines _ base start with accepted | rejected
  · obtain ⟨_, _, frame, changed, kept⟩ := accepted
    rw [changed] at ended
    obtain ⟨rfl, rfl⟩ : frame.self = direct ∧ frame.store = built := by simpa using ended
    exact kept
  · rw [rejected.2] at ended
    cases ended

theorem Live.directWrite_ok (live : Live context block base) {offset : Nat} {bytes : List UInt8} {after : Store}
    (ended : SqliteVfs.directWrite offset bytes context.store = (.ok (), after)) :
    Live { context with store := after } block base ∧ splice 0 base offset bytes = base ∨
      ChangedTo block (splice 0 base offset bytes) { context with store := after } := by
  rw [SqliteVfs.directWrite] at ended
  by_cases empty : bytes.isEmpty = true
  · rw [if_pos empty] at ended
    obtain rfl := (Prod.mk.inj ended).2
    exact .inl ⟨live, by simp only [splice, empty, if_true]⟩
  · rw [if_neg empty] at ended
    obtain ⟨direct, built, opened, committed⟩ := Action.bind_eq_ok.mp ended
    obtain ⟨holds, same⟩ := live.directOverlay_ok (Overlay.writeAt_refines block base offset bytes)
      (fun memory => Overlay.keeps_writeAt offset bytes) opened
    exact .inr (same.commitDirect_of holds committed)

theorem Live.directTruncate_ok (live : Live context block base) {size : Nat} (bounded : size < u64Bound)
    {after : Store} (ended : SqliteVfs.directTruncate size context.store = (.ok (), after)) :
    Live { context with store := after } block base ∧ resize 0 base size = base ∨
      ChangedTo block (resize 0 base size) { context with store := after } := by
  rw [SqliteVfs.directTruncate] at ended
  obtain ⟨direct, built, opened, committed⟩ := Action.bind_eq_ok.mp ended
  obtain ⟨holds, same⟩ := live.directOverlay_ok (Overlay.truncate_refines block base bounded)
    (fun memory => Overlay.keeps_truncate bounded) opened
  by_cases empty : direct.isEmpty = true
  · rw [if_pos empty] at committed
    obtain rfl := (Prod.mk.inj committed).2
    exact .inl ⟨same, holds.file_eq empty⟩
  · rw [if_neg empty] at committed
    exact .inr (same.commitDirect_of holds committed)

theorem onContextStore_eq_ok {α : Type} {call : StoreM α} {value : α} {next : Context} :
    onContextStore call context = (.ok value, next) ↔
      ∃ store, call context.store = (.ok value, store) ∧ { context with store } = next := by
  rw [onContextStore, Action.zoom]
  cases call context.store with
  | mk outcome store => simp

theorem Live.readBase_ok (live : Live context block base) {offset count : Nat} {answer : List UInt8 × Bool}
    {after : Store} (ended : readBaseAt offset count context.store = (.ok answer, after)) :
    Live { context with store := after } block base := by
  rw [readBaseAt] at ended
  split at ended
  · obtain rfl := (Prod.mk.inj ended).2
    exact live
  · have warm := live.loaded
    rw [Action.bind_of_ok _ live.serves.coherent.load_eq, readBaseAtWithBlock_of warm.serves.readable] at ended
    obtain rfl := (Prod.mk.inj ended).2
    exact warm

/-- A direct call that returned: nothing changed, or the changed image was committed. -/
theorem Live.direct_ok (live : Live context block base) (idle : context.overlay = none) {call : OverlayCall}
    {answer : OverlayCall.Answer} {after : Context} (ended : call.onContext context = (.ok answer, after)) :
    after.overlay = none ∧
      (Live after block base ∧ call.applyTo base = base ∨ ChangedTo block (call.applyTo base) after) := by
  cases call with
  | read offset count =>
      rw [OverlayCall.onContext, readAt] at ended
      obtain ⟨bytes, last, read, finished⟩ := Action.bind_eq_ok.mp ended
      obtain rfl := (Prod.mk.inj finished).2
      rw [Action.read_bind_apply] at read
      simp only [idle] at read
      obtain ⟨store, based, rfl⟩ := onContextStore_eq_ok.mp read
      exact ⟨idle, .inl ⟨live.readBase_ok based, rfl⟩⟩
  | write offset bytes =>
      rw [OverlayCall.onContext, writeAt] at ended
      obtain ⟨_, last, wrote, finished⟩ := Action.bind_eq_ok.mp ended
      obtain rfl := (Prod.mk.inj finished).2
      rw [Action.read_bind_apply] at wrote
      simp only [idle] at wrote
      obtain ⟨store, direct, rfl⟩ := onContextStore_eq_ok.mp wrote
      exact ⟨idle, live.directWrite_ok direct⟩
  | truncate size =>
      rw [OverlayCall.onContext, SqliteVfs.truncate] at ended
      obtain ⟨_, last, cut, finished⟩ := Action.bind_eq_ok.mp ended
      obtain rfl := (Prod.mk.inj finished).2
      rw [Action.read_bind_apply] at cut
      simp only [idle] at cut
      obtain ⟨store, direct, rfl⟩ := onContextStore_eq_ok.mp cut
      exact ⟨idle, live.directTruncate_ok size.toNat_lt direct⟩

/-! ## Honest checksums -/

/-- The committed block keeps the checksum fields of the old one. -/
theorem checksumHonest_committed (block : Superblock) (size : Nat) (zeroExtents : List ZeroExtent)
    (file : List UInt8) :
    ChecksumHonest (committedBlock block false size zeroExtents).stamped file ↔ ChecksumHonest block file :=
  ⟨fun honest => ⟨honest.published, honest.progress⟩, fun honest => ⟨honest.published, honest.progress⟩⟩

/-- Chunks go on from an honest block to the checksum of its image. -/
theorem ChecksumHonest.refreshable (honest : ChecksumHonest block base) (size : base.length = block.dbSize.toNat)
    (current : RefreshCurrent block base) (notImporting : block.isImporting = false) : Refreshable block base where
  published := by
    intro fresh _
    rcases honest.published with stale | right
    · rw [fresh] at stale
      cases stale
    · exact right
  progress := by
    intro refreshing
    obtain ⟨within, hash⟩ := honest.progress refreshing
    exact ⟨UInt64.le_iff_toNat_le.mpr (size ▸ within), hash⟩
  notImporting := notImporting
  current := current

/-! ## Contexts whose block was not loaded yet -/

theorem directOverlay_of_load {store loaded : Store} (load : Superblock.load store = (.ok block, loaded))
    (change : OverlayM Unit) : directOverlay change store = directOverlay change loaded := by
  have layout : ensureCurrentLayout store = ensureCurrentLayout loaded := by
    rw [ensureCurrentLayout, Action.bind_of_ok _ load, Action.bind_of_ok _ (load_again load)]
  rw [directOverlay, Action.bind_apply, Action.bind_apply, layout]

theorem readBaseAt_of_load {store loaded : Store} (load : Superblock.load store = (.ok block, loaded))
    (offset : Nat) {count : Nat} (some : count ≠ 0) :
    readBaseAt offset count store = readBaseAt offset count loaded := by
  rw [readBaseAt, if_neg some, Action.bind_of_ok _ load, Action.bind_of_ok _ (load_again load)]

theorem onContextStore_congr {α : Type} {call : StoreM α} {loaded : Store} (same : call context.store = call loaded) :
    onContextStore call context = onContextStore call { context with store := loaded } := by
  rw [onContextStore, Action.zoom, Action.zoom, same]

/-- A call of a cold context does nothing, or what it does once the block is loaded. -/
theorem direct_of_load {loaded : Store} (idle : context.overlay = none)
    (load : Superblock.load context.store = (.ok block, loaded)) (call : OverlayCall) :
    (call.onContext context).2 = context ∨ call.onContext context = call.onContext { context with store := loaded } := by
  cases call with
  | read offset count =>
      by_cases none : count = 0
      · have skipped : SqliteVfs.readAt offset.toNat count context = (.ok ([], true), context) := by
          rw [readAt, Action.read_bind_apply]
          simp only [idle]
          exact onContextStore_of (by rw [readBaseAt, if_pos none]; rfl)
        exact .inl (by rw [OverlayCall.onContext, Action.bind_of_ok _ skipped]; rfl)
      · have same := onContextStore_congr (readBaseAt_of_load load offset.toNat none)
        refine .inr ?_
        rw [OverlayCall.onContext, Action.bind_apply, Action.bind_apply, readAt, Action.read_bind_apply,
          Action.read_bind_apply]
        simp only [idle, same]
  | write offset bytes =>
      by_cases none : bytes.isEmpty = true
      · have skipped : SqliteVfs.writeAt offset.toNat bytes context = (.ok (), context) := by
          rw [writeAt, Action.read_bind_apply]
          simp only [idle]
          exact onContextStore_of (by rw [directWrite, if_pos none]; rfl)
        exact .inl (by rw [OverlayCall.onContext, Action.bind_of_ok _ skipped]; rfl)
      · have direct : directWrite offset.toNat bytes context.store = directWrite offset.toNat bytes loaded := by
          rw [directWrite, if_neg none, Action.bind_apply, Action.bind_apply, directOverlay_of_load load]
        have same := onContextStore_congr direct
        refine .inr ?_
        rw [OverlayCall.onContext, Action.bind_apply, Action.bind_apply, writeAt, Action.read_bind_apply,
          Action.read_bind_apply]
        simp only [idle, same]
  | truncate size =>
      have direct : directTruncate size.toNat context.store = directTruncate size.toNat loaded := by
        rw [directTruncate, Action.bind_apply, Action.bind_apply, directOverlay_of_load load]
      have same := onContextStore_congr direct
      refine .inr ?_
      rw [OverlayCall.onContext, Action.bind_apply, Action.bind_apply, SqliteVfs.truncate, Action.read_bind_apply,
        Action.read_bind_apply]
      simp only [idle, same]

/-! ## A checksum that is certified and then outdated -/

/-- Hashing zeros only multiplies. -/
theorem toNat_foldFnv1a64_zeros (hash : UInt64) (count : Nat) :
    (foldFnv1a64 hash (List.replicate count 0)).toNat = hash.toNat * 0x00000100000001b3 ^ count % 2 ^ 64 := by
  induction count generalizing hash with
  | zero => simp [foldFnv1a64]
  | succ count ih =>
      have step : foldFnv1a64 hash (List.replicate (count + 1) 0) =
          foldFnv1a64 (fnvStep hash 0) (List.replicate count 0) := rfl
      have next : (fnvStep hash 0).toNat = hash.toNat * 0x00000100000001b3 % 2 ^ 64 := by
        simp [fnvStep]
      rw [step, ih, next, Nat.mod_mul_mod, Nat.mul_assoc, ← Nat.pow_succ']

theorem fnv1a64_zero_page : fnv1a64 (List.replicate 16384 0) ≠ fnv1a64 [] := by
  intro same
  have hashed := toNat_foldFnv1a64_zeros (fnv1a64 []) 16384
  have joined : foldFnv1a64 (fnv1a64 []) (List.replicate 16384 0) = fnv1a64 (List.replicate 16384 0) := rfl
  rw [joined, same] at hashed
  revert hashed
  decide +kernel

/-- The overlay of a truncate that grows an empty image by a page. -/
def onePageOverlay : Overlay := { Overlay.new 0 with size := 16384, zeroExtents := [⟨0, 1⟩] }

theorem truncate_onePage (store : Store) :
    Overlay.truncate 16384 ⟨Overlay.new 0, store⟩ = (.ok (), ⟨onePageOverlay, store⟩) := by
  have activated : Overlay.activatePages 0 16384 ⟨Overlay.new 0, store⟩ =
      (.ok (), ⟨{ Overlay.new 0 with zeroExtents := [⟨0, 1⟩] }, store⟩) := rfl
  have empty : (Overlay.new 0).size = 0 := rfl
  rw [Overlay.truncate, Action.read_bind_apply]
  dsimp only
  rw [empty, if_pos (by decide), Action.bind_of_ok _ activated]
  rfl

theorem zeroExtentsAfterCommit_onePage (extents : block.zeroExtents = []) (size : block.dbSize = 0) :
    zeroExtentsAfterCommit block onePageOverlay (pageCountForSize onePageOverlay.size) = .ok [⟨0, 1⟩] := by
  have resized : resizedExtent block onePageOverlay.size = [⟨0, 1⟩] := by
    rw [resizedExtent, size]
    rfl
  have merged : Data.Interval.normalize ([⟨0, 1⟩] ++ [(⟨0, 1⟩ : ZeroExtent)]) = [⟨0, 1⟩] := by
    rw [Data.Interval.normalize, List.mergeSort_of_pairwise (by decide)]
    decide
  have second : addZeroExtent maxZeroExtents [⟨0, 1⟩] ⟨0, 1⟩ = .ok [⟨0, 1⟩] := by
    rw [addZeroExtent, addZeroExtentWithoutLimit]
    simp only [merged]
    decide
  have added : addZeroExtents maxZeroExtents [] [⟨0, 1⟩, ⟨0, 1⟩] = .ok [⟨0, 1⟩] := by
    have first : addZeroExtent maxZeroExtents [] ⟨0, 1⟩ = .ok [⟨0, 1⟩] := by decide +kernel
    simp only [addZeroExtents, first]
    change (addZeroExtent maxZeroExtents [⟨0, 1⟩] ⟨0, 1⟩ >>= fun extents => Except.ok extents) = _
    rw [second]
    rfl
  rw [zeroExtentsAfterCommit, resized, extents]
  have listed : [⟨0, 1⟩] ++ onePageOverlay.zeroExtents = [(⟨0, 1⟩ : ZeroExtent), ⟨0, 1⟩] := rfl
  have slack : maxZeroExtents + (onePageOverlay.pages.filter fun entry =>
      entry.1 < pageCountForSize onePageOverlay.size).length = maxZeroExtents := rfl
  simp only [slack, listed, added]
  decide +kernel

/-- The first page of an empty memory that is granted everything. -/
theorem write_first_page {bytes : List UInt8} (nonempty : bytes ≠ []) (short : bytes.length ≤ stablePageSize) :
    write superblockOffset bytes (Context.fresh fun _ => true).store =
      (.ok (), ⟨(Memory.empty.grow true 1).2.write superblockOffset bytes, fun _ => true, none⟩) := by
  have positive : 0 < superblockOffset + bytes.length := Nat.add_pos_right _ (List.length_pos_iff.mpr nonempty)
  have fits : superblockOffset + bytes.length < u64Bound := by
    simp only [superblockOffset, stablePageSize, u64Bound] at short ⊢
    omega
  have onePage : divCeil (superblockOffset + bytes.length - 0) stablePageSize = 1 := by
    simp only [superblockOffset, divCeil, stablePageSize] at short positive ⊢
    omega
  have room : pagesFor 0 (superblockOffset + bytes.length) * stablePageSize < u64Bound := by
    simp only [superblockOffset, pagesFor, divCeil, stablePageSize, u64Bound] at short ⊢
    omega
  have grown : ensureCapacity (superblockOffset + bytes.length) (Context.fresh fun _ => true).store =
      (.ok (), ⟨(Memory.empty.grow true (divCeil (superblockOffset + bytes.length - 0) stablePageSize)).2,
        fun _ => true, none⟩) := ensureCapacity_grown rfl positive room
  rw [write, if_neg (by simpa using nonempty), Action.bind_of_ok _ (checkedAdd_of fits _),
    Action.bind_of_ok _ grown, onePage, writePrechecked_of]
  rw [superblockOffset, Nat.zero_add]
  exact short

theorem load_fresh_granted :
    Superblock.load (Context.fresh fun _ => true).store = (.ok Superblock.fresh, freshStore) := by
  have stored : Superblock.fresh.store (Context.fresh fun _ => true).store = (.ok (), freshStore) := by
    have wrote := write_first_page (Superblock.written_nonempty Superblock.fresh) (by
      rw [Superblock.length_take_encode]
      exact Superblock.fresh.stamped.encodedLenOf_le.trans (by decide))
    simp only [Superblock.store, Superblock.storeWithCapacityCheck, Superblock.storeWith, validateZeroExtents_fresh]
    rw [Action.bind_of_ok _ wrote]
    rfl
  have cold : (Context.fresh fun _ => true).store.superblockCache = none := rfl
  have empty : (Context.fresh fun _ => true).store.memory.size = 0 := rfl
  rw [Superblock.load, Action.read_bind_apply]
  simp only [cold, empty, if_true]
  rw [Action.bind_of_ok _ stored]
  rfl

/-- Growing an empty image by a page, in a memory that is granted more. -/
theorem Live.grow_onePage (live : Live context block []) (idle : context.overlay = none)
    (base : block.dbBaseOffset.toNat = dbRegionOffset) (size : block.dbSize = 0) (extents : block.zeroExtents = [])
    (granted : context.store.grants 0 = true) (pages : context.store.memory.pages ≤ 2) :
    ∃ after, OverlayCall.onContext (.truncate 16384) context = (.ok none, after) := by
  obtain ⟨store, warmEq, _, load, current, _⟩ := live.serves.warmed
  have warm : Live { context with store } block [] := warmEq ▸ live.loaded
  have opened : SqliteVfs.directOverlay (Overlay.truncate 16384) context.store = (.ok onePageOverlay, store) := by
    rw [SqliteVfs.directOverlay, Action.bind_of_ok _ current, Action.bind_of_ok _ load, size]
    change SqliteVfs.onNewOverlay 0 (Overlay.truncate 16384) _ = _
    rw [SqliteVfs.onNewOverlay, truncate_onePage]
  have room : pagesFor context.store.memory.pages (dbRegionOffset + 16384) * stablePageSize < u64Bound := by
    simp only [pagesFor, divCeil, dbRegionOffset, superblockOffset, superblockSize, stablePageSize, u64Bound]
    omega
  have prepared : ∃ grown, prepareCommit block onePageOverlay store = (.ok [⟨0, 1⟩], grown) := by
    have capacity : (ensureCapacity (dbRegionOffset + onePageOverlay.size) store).1 = .ok () := by
      rw [← warmEq]
      exact ensureCapacity_granted granted room
    have required : requiredEnd block (pageCountForSize onePageOverlay.size) onePageOverlay.pages
        (dbRegionOffset + onePageOverlay.size) store = (.ok (dbRegionOffset + onePageOverlay.size), store) := rfl
    cases ended : ensureCapacity (dbRegionOffset + onePageOverlay.size) store with
    | mk outcome grown =>
        rw [ended] at capacity
        obtain rfl : outcome = .ok () := capacity
        refine ⟨grown, ?_⟩
        rw [prepareCommit, zeroExtentsAfterCommit_onePage extents size, Action.bind_of_ok _ Action.ofExcept_ok, base,
          Action.bind_of_ok _ (checkedAdd_of (by decide) _), Action.bind_of_ok _ required, Action.bind_of_ok _ ended]
        rfl
  obtain ⟨grown, prepare⟩ := prepared
  have sound : onePageOverlay.Sound := ⟨fun _ member => (by cases member), fun _ member => (by cases member), by decide⟩
  obtain ⟨_, published, publish⟩ := warm.publishes sound load prepare false
  have direct : SqliteVfs.directTruncate 16384 context.store = (.ok (), published) := by
    rw [SqliteVfs.directTruncate, Action.bind_of_ok _ opened, if_neg (by decide), commitOverlay,
      Action.bind_of_ok _ load, commitOverlayInPlace, Action.bind_of_ok _ prepare, publish]
  have truncated : SqliteVfs.truncate 16384 context = (.ok (), { context with store := published }) := by
    rw [SqliteVfs.truncate, Action.read_bind_apply]
    simp only [idle]
    rw [← idle]
    exact onContextStore_of direct
  exact ⟨{ context with store := published }, by rw [OverlayCall.onContext]; exact Action.bind_of_ok _ truncated⟩

/-- After a refresh of the empty image, a truncate to one page returns; the block
it stores still has the checksum of the empty image. -/
theorem certified_then_grown :
    let before := BlobCall.runAll [.refreshChecksum] (Context.fresh fun _ => true)
    before.overlay = none ∧ ∃ block loaded after newBlock reloaded,
      Superblock.load before.store = (.ok block, loaded) ∧
      OverlayCall.onContext (.truncate 16384) before = (.ok none, after) ∧
      Superblock.load after.store = (.ok newBlock, reloaded) ∧
      image loaded.memory block = [] ∧ image reloaded.memory newBlock = List.replicate 16384 0 ∧
      newBlock.isChecksumStale = false ∧ newBlock.checksum = fnv1a64 [] := by
  intro before
  have fresh : Live ⟨freshStore, none⟩ Superblock.fresh [] :=
    ⟨serves_freshStore, fun importing => (by cases importing), fun _ active => (by cases active)⟩
  obtain ⟨refreshed, live⟩ := fresh.refreshChecksum_of_idle rfl
  have reached : before = (refreshChecksum ⟨freshStore, none⟩).2 := by
    change (BlobCall.ignore refreshChecksum (Context.fresh fun _ => true)).2 = _
    rw [BlobCall.ignore_after, refreshChecksum_of_load rfl load_fresh_granted]
    rfl
  rw [refreshed] at live
  rw [reached, refreshed]
  refine ⟨rfl, ?_⟩
  obtain ⟨after, truncated⟩ := live.grow_onePage rfl rfl rfl rfl rfl (by decide)
  obtain ⟨-, unchanged | changed⟩ := live.direct_ok rfl truncated
  · exact absurd (congrArg List.length unchanged.2) (by rw [OverlayCall.applyTo, length_resize]; decide)
  · obtain ⟨size, zeroExtents, stored⟩ := changed
    have zeros : ∀ count, resize (0 : UInt8) [] count = List.replicate count 0 := by
      intro count
      simp [resize]
    exact ⟨_, _, after, _, _, live.serves.coherent.load_eq, truncated, stored.serves.coherent.load_eq,
      live.serves.image_eq, stored.serves.image_eq.trans (zeros 16384),
      not_stale_certified Superblock.fresh (fnv1a64 []), rfl⟩

/-! ## Reachable contexts -/

/-- After any run of calls: a direct change that returns and changes the image
leaves an honest checksum exactly when the block that it found was already
honest about the changed image.  Then chunks of any sizes certify the new image. -/
theorem direct_change_keeps_checksum_honest_iff (grants : Nat → Bool) (calls : List BlobCall) (call : OverlayCall)
    (answer : OverlayCall.Answer) (after : Context) (block newBlock : Superblock) (loaded reloaded : Store) :
    let before := BlobCall.runAll calls (Context.fresh grants)
    let file := image loaded.memory block
    let newFile := image reloaded.memory newBlock
    before.overlay = none → Superblock.load before.store = (.ok block, loaded) →
    call.onContext before = (.ok answer, after) → Superblock.load after.store = (.ok newBlock, reloaded) →
    newFile ≠ file →
    newFile = call.applyTo file ∧
    (ChecksumHonest newBlock newFile ↔
      (block.isChecksumStale = true ∨ block.checksum = fnv1a64 (call.applyTo file)) ∧
      (block.isChecksumRefreshing = true →
        block.checksumRefreshOffset.toNat ≤ (call.applyTo file).length ∧
        block.checksumRefreshHash = fnv1a64 ((call.applyTo file).take block.checksumRefreshOffset.toNat))) ∧
    (ChecksumHonest newBlock newFile → newBlock.isImporting = false →
      ∀ chunks : List UInt64, (∀ chunk ∈ chunks, 0 < chunk) →
        max 1 (newFile.length - refreshPosition newBlock) ≤ chunks.length →
        ∃ final last, Superblock.load (refreshUntilComplete chunks after).2.store = (.ok final, last) ∧
          image last.memory final = newFile ∧ final.checksum = fnv1a64 newFile ∧
          final.isChecksumStale = false) := by
  intro before file newFile idle load changed reload differs
  have usable : Usable RefreshCurrent before :=
    usable_runAll RefreshCurrent.survivesEvery calls (usable_fresh grants)
  have found := usable.load RefreshCurrent.survivesEvery.fresh
  rw [Action.Leaves, load] at found
  obtain ⟨base, live, current⟩ := found
  obtain rfl : file = base := live.serves.image_eq
  rcases direct_of_load idle load call with same | warm
  · rw [changed] at same
    obtain rfl : after = before := same
    rw [load] at reload
    obtain ⟨rfl, rfl⟩ : block = newBlock ∧ loaded = reloaded := by simpa using reload
    exact absurd rfl differs
  · rw [changed] at warm
    obtain ⟨closed, unchanged | committed⟩ := live.direct_ok idle warm.symm
    · have again := unchanged.1.serves.coherent.load_eq
      rw [reload] at again
      obtain ⟨rfl, rfl⟩ : newBlock = block ∧ _ = reloaded := by simpa [eq_comm] using again
      exact absurd unchanged.1.serves.image_eq differs
    · obtain ⟨size, zeroExtents, stored⟩ := committed
      have again := stored.serves.coherent.load_eq
      rw [reload] at again
      obtain ⟨sameBlock, sameStore⟩ := Prod.mk.inj again
      obtain rfl := Outcome.ok.inj sameBlock
      have image : newFile = call.applyTo file := by
        rw [← stored.serves.image_eq]
        simp only [newFile, sameStore]
      rw [image]
      refine ⟨rfl, ?_, ?_⟩
      · rw [checksumHonest_committed]
        exact ⟨fun honest => ⟨honest.published, honest.progress⟩, fun honest => ⟨honest.1, honest.2⟩⟩
      · intro honest notImporting chunks positive enough
        have kept := RefreshCurrent.survivesEvery.direct block file size zeroExtents (call.applyTo file) current
        have ready := honest.refreshable stored.serves.size_eq kept notImporting
        have within : refreshPosition _ ≤ (call.applyTo file).length := stored.serves.size_eq ▸ ready.position_le
        obtain ⟨final, last, checksum, fresh, _⟩ := (stored.refreshUntilComplete_of ready closed chunks positive).2
          (scannedOffsets_reaches within positive enough)
        exact ⟨final, _, last.serves.coherent.load_eq, last.serves.image_eq, checksum, fresh⟩

theorem direct_change_keeps_checksum_honest_iff_grown :
    let before := BlobCall.runAll [.refreshChecksum] (Context.fresh fun _ => true)
    ∃ block loaded after newBlock reloaded,
      Superblock.load before.store = (.ok block, loaded) ∧
      OverlayCall.onContext (.truncate 16384) before = (.ok none, after) ∧
      Superblock.load after.store = (.ok newBlock, reloaded) ∧
      image reloaded.memory newBlock = resize 0 (image loaded.memory block) 16384 := by
  intro before
  obtain ⟨idle, block, loaded, after, newBlock, reloaded, load, truncated, reload, empty, zeros, _⟩ :=
    certified_then_grown
  have differs : image reloaded.memory newBlock ≠ image loaded.memory block := by
    rw [empty, zeros]
    exact fun same => absurd (congrArg List.length same) (by rw [List.length_replicate]; decide)
  exact ⟨block, loaded, after, newBlock, reloaded, load, truncated, reload,
    (direct_change_keeps_checksum_honest_iff (fun _ => true) [.refreshChecksum] (.truncate 16384) none after block
      newBlock loaded reloaded idle load truncated reload differs).1⟩

/-- The truncate leaves the certified checksum of the old image in place, and no stale flag. -/
theorem direct_truncate_leaves_outdated_checksum :
    let before := BlobCall.runAll [.refreshChecksum] (Context.fresh fun _ => true)
    before.overlay = none ∧ ∃ block loaded after newBlock reloaded,
      Superblock.load before.store = (.ok block, loaded) ∧
      OverlayCall.onContext (.truncate 16384) before = (.ok none, after) ∧
      Superblock.load after.store = (.ok newBlock, reloaded) ∧
      image reloaded.memory newBlock ≠ image loaded.memory block ∧
      newBlock.isChecksumStale = false ∧ newBlock.checksum ≠ fnv1a64 (image reloaded.memory newBlock) ∧
      ¬ ChecksumHonest newBlock (image reloaded.memory newBlock) := by
  intro before
  obtain ⟨idle, block, loaded, after, newBlock, reloaded, load, truncated, reload, empty, zeros, fresh, checksum⟩ :=
    certified_then_grown
  have outdated : newBlock.checksum ≠ fnv1a64 (image reloaded.memory newBlock) := by
    rw [checksum, zeros]
    exact fnv1a64_zero_page.symm
  refine ⟨idle, block, loaded, after, newBlock, reloaded, load, truncated, reload, ?_, fresh, outdated, ?_⟩
  · rw [empty, zeros]
    exact fun same => absurd (congrArg List.length same) (by rw [List.length_replicate]; decide)
  · intro honest
    rcases honest.published with stale | right
    · rw [fresh] at stale
      cases stale
    · exact outdated right

end IcSqliteVfs.SqliteVfs
