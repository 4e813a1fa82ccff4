import IcSqliteVfs.Stable.Codec
import IcSqliteVfs.Stable.Store

namespace IcSqliteVfs.Stable

open IcSqliteVfs.Data IcSqliteVfs.Semantics

namespace Superblock

/-! # Loading and storing the superblock -/

def cacheSuperblock (block : Superblock) : StoreM Unit :=
  Action.modify fun store => { store with superblockCache := some block }

/-- The block as it is written: current version, recomputed meta checksum. -/
def stamped (block : Superblock) : Superblock :=
  let block := { block with version := Stable.version }
  { block with metaChecksum := block.computeMetaChecksum }

/-- The shared body of `store_with_capacity_check` and `store_preallocated`,
which differ in how they write. -/
def storeWith (writeBytes : Nat → List UInt8 → StoreM Unit) (block : Superblock) : StoreM Unit :=
  match block.validateZeroExtents with
  | .error error => Action.fail error
  | .ok _ => do
      let block := block.stamped
      writeBytes superblockOffset (block.encode.take block.encodedLenOf)
      cacheSuperblock block

def storeWithCapacityCheck : Superblock → StoreM Unit := storeWith write
def storePreallocated : Superblock → StoreM Unit := storeWith writePrechecked
def store : Superblock → StoreM Unit := storeWithCapacityCheck

/-- The checks a decoded block has to pass, in their order. -/
def checkDecoded (bytes : List UInt8) : Except StableMemoryError Superblock :=
  let block := decode bytes
  if block.magic ≠ Stable.magic then .error .foreignStableMemoryImage
  else if block.version ≠ Stable.version then .error (.unsupportedLayoutVersion block.version.toUInt64)
  else if block.layoutVersion ≠ currentLayoutVersion then
    .error (.unsupportedLayoutVersion block.layoutVersion)
  else if maxZeroExtents < (u64FromLeBytes (eight bytes 144)).toNat then .error .metaChecksumMismatch
  else if ¬ block.verifyChecksum then .error .metaChecksumMismatch
  else if ¬ block.hasNormalizedZeroExtents then .error .metaChecksumMismatch
  else .ok block

def load : StoreM Superblock := do
  let current ← Action.read
  match current.superblockCache with
  | some block => pure block
  | none =>
      if current.memory.size = 0 then do
        fresh.store
        pure fresh
      else do
        let bytes ← readPreallocated superblockOffset encodedLen
        match checkDecoded bytes with
        | .error error => Action.fail error
        | .ok block => do
            cacheSuperblock block
            pure block

def pageCountForSize (size : Nat) : Nat := divCeil size IcSqliteVfs.sqlitePageSize

/-- The fields a commit replaces, with and without a transaction. -/
def withDbImage (block : Superblock) (dbBaseOffset : UInt64) (dbSize : Nat)
    (zeroExtents : List ZeroExtent) : Superblock :=
  { block with
    dbBaseOffset
    dbSize := UInt64.ofNat dbSize
    pageTableOffset := 0
    pageCount := UInt64.ofNat (pageCountForSize dbSize)
    layoutVersion := currentLayoutVersion
    zeroExtents }

def saturatingSucc (value : UInt64) : UInt64 := UInt64.ofNat (min (value.toNat + 1) (u64Bound - 1))

def withCommittedTx (block : Superblock) : Superblock :=
  clearChecksumRefresh
    { block with lastTxId := saturatingSucc block.lastTxId, flags := block.flags ||| flagChecksumStale }

def commitDbImage (dbBaseOffset : UInt64) (dbSize : Nat) (zeroExtents : List ZeroExtent) : StoreM Unit := do
  let block ← load
  (block.withDbImage dbBaseOffset dbSize zeroExtents).withCommittedTx.storePreallocated

def storeDbImageWithoutTx (dbBaseOffset : UInt64) (dbSize : Nat) (zeroExtents : List ZeroExtent) :
    StoreM Unit := do
  let block ← load
  (block.withDbImage dbBaseOffset dbSize zeroExtents).storePreallocated

/-! ## Validation and the normal form -/

theorem extentsInOrder_iff (extents : List ZeroExtent) (previousEnd : Option UInt64) :
    extentsInOrder previousEnd extents = true ↔
      Data.Interval.Normal extents ∧ ∀ stop ∈ previousEnd, ∀ extent ∈ extents, stop < extent.lower := by
  induction extents generalizing previousEnd with
  | nil => simp [extentsInOrder, Data.Interval.normal_nil]
  | cons extent rest ih =>
      rw [extentsInOrder]
      by_cases empty : extent.lower ≥ extent.upper
      · rw [if_pos empty]
        simp only [Bool.false_eq_true, false_iff, not_and]
        intro normal
        exact absurd (normal.nonempty extent (by simp)) (not_lt.mpr empty)
      · rw [if_neg empty]
        have proper : extent.Nonempty := not_le.mp empty
        by_cases touching : previousEnd.any (fun stop => extent.lower ≤ stop) = true
        · rw [if_pos touching]
          simp only [Bool.false_eq_true, false_iff, not_and]
          intro _ apart
          obtain ⟨stop, found, overlap⟩ := (Option.any_eq_true _ _).mp touching
          exact absurd (apart stop found extent (by simp)) (not_lt.mpr (by simpa using overlap))
        · rw [if_neg touching, ih]
          have clear : ∀ stop ∈ previousEnd, stop < extent.lower := by
            intro stop found
            have missed := mt (fun overlap => (Option.any_eq_true _ _).mpr ⟨stop, found, overlap⟩) touching
            exact not_le.mp (by simpa using missed)
          constructor
          · intro checked
            obtain ⟨normal, after⟩ := checked
            have separated : ∀ next ∈ rest, extent.upper < next.lower := after extent.upper rfl
            refine ⟨⟨?_, List.pairwise_cons.mpr ⟨separated, normal.separated⟩⟩, ?_⟩
            · intro member inList
              rcases List.mem_cons.mp inList with same | inRest
              · exact same ▸ proper
              · exact normal.nonempty member inRest
            · intro stop found member inList
              rcases List.mem_cons.mp inList with same | inRest
              · exact same ▸ clear stop found
              · exact (clear stop found).trans (proper.trans (separated member inRest))
          · intro whole
            obtain ⟨normal, _⟩ := whole
            obtain ⟨separated, others⟩ := List.pairwise_cons.mp normal.separated
            refine ⟨⟨fun member inRest => normal.nonempty member (by simp [inRest]), others⟩, ?_⟩
            intro stop found
            obtain rfl : extent.upper = stop := by simpa using found
            exact separated

theorem validateZeroExtents_iff (block : Superblock) :
    block.validateZeroExtents = .ok () ↔
      block.zeroExtents.length ≤ maxZeroExtents ∧ Data.Interval.Normal block.zeroExtents := by
  rw [validateZeroExtents]
  by_cases overrun : block.zeroExtents.length > maxZeroExtents
  · simp only [if_pos overrun, reduceCtorEq, false_iff, not_and]
    intro within
    omega
  · have ordered := extentsInOrder_iff block.zeroExtents none
    simp only [Option.not_mem_none, false_implies, implies_true, and_true] at ordered
    rw [if_neg overrun, ← ordered]
    split
    · simp [*]
      omega
    · simp [*]

/-! ## Coherence of the cache with the stored bytes -/

variable {block : Superblock} {store : Store}

@[simp] theorem stamped_zeroExtents : block.stamped.zeroExtents = block.zeroExtents := rfl

@[simp] theorem stamped_dbSize : block.stamped.dbSize = block.dbSize := rfl

@[simp] theorem stamped_dbBaseOffset : block.stamped.dbBaseOffset = block.dbBaseOffset := rfl

@[simp] theorem stamped_pageCount : block.stamped.pageCount = block.pageCount := rfl

theorem computeMetaChecksum_stamped : block.stamped.computeMetaChecksum = block.stamped.metaChecksum := rfl

theorem computeMetaChecksum_with (block : Superblock) (metaChecksum : UInt64) :
    { block with metaChecksum }.computeMetaChecksum = block.computeMetaChecksum := rfl

theorem stamped_with (current : block.version = Stable.version) :
    stamped { block with metaChecksum := block.computeMetaChecksum } =
      { block with metaChecksum := block.computeMetaChecksum } := by
  simp only [stamped, ← current, computeMetaChecksum_with]

theorem stamped_fresh : fresh.stamped = fresh := stamped_with rfl

theorem validateZeroExtents_congr {other : Superblock} (same : other.zeroExtents = block.zeroExtents) :
    other.validateZeroExtents = block.validateZeroExtents := by
  rw [validateZeroExtents, validateZeroExtents, same]

/-- A memory whose bytes a cold load accepts as this block. -/
structure Accepted (memory : Memory) (block : Superblock) : Prop where
  pages : 0 < memory.pages
  decoded : checkDecoded (memory.read superblockOffset encodedLen) = .ok block

/-- The bytes decode to the block, and so does the cache entry if there is one. -/
structure Coherent (store : Store) (block : Superblock) : Prop where
  accepted : Accepted store.memory block
  cached : store.superblockCache = none ∨ store.superblockCache = some block

/-- The checks that an accepted block has passed. -/
structure Checked (block : Superblock) : Prop where
  magic : block.magic = Stable.magic
  version : block.version = Stable.version
  layoutVersion : block.layoutVersion = currentLayoutVersion
  checksum : block.verifyChecksum = true
  zeroExtents : block.validateZeroExtents = .ok ()

theorem checked_of_decoded {bytes : List UInt8} (decoded : checkDecoded bytes = .ok block) : Checked block := by
  rw [checkDecoded] at decoded
  by_cases foreign : (decode bytes).magic ≠ Stable.magic
  · simp only [if_pos foreign] at decoded
    cases decoded
  · by_cases old : (decode bytes).version ≠ Stable.version
    · simp only [if_neg foreign, if_pos old] at decoded
      cases decoded
    · by_cases layout : (decode bytes).layoutVersion ≠ currentLayoutVersion
      · simp only [if_neg foreign, if_neg old, if_pos layout] at decoded
        cases decoded
      · by_cases overrun : maxZeroExtents < (u64FromLeBytes (eight bytes 144)).toNat
        · simp only [if_neg foreign, if_neg old, if_neg layout, if_pos overrun] at decoded
          cases decoded
        · by_cases corrupt : ¬ (decode bytes).verifyChecksum = true
          · simp only [if_neg foreign, if_neg old, if_neg layout, if_neg overrun, if_pos corrupt] at decoded
            cases decoded
          · by_cases unordered : ¬ (decode bytes).hasNormalizedZeroExtents = true
            · simp only [if_neg foreign, if_neg old, if_neg layout, if_neg overrun, if_neg corrupt,
                if_pos unordered] at decoded
              cases decoded
            · simp only [if_neg foreign, if_neg old, if_neg layout, if_neg overrun, if_neg corrupt,
                if_neg unordered] at decoded
              obtain rfl := Except.ok.inj decoded
              refine ⟨not_not.mp foreign, not_not.mp old, not_not.mp layout, not_not.mp corrupt, ?_⟩
              have normalized := not_not.mp unordered
              rw [hasNormalizedZeroExtents] at normalized
              cases valid : (decode bytes).validateZeroExtents with
              | ok value => rfl
              | error reason => simp [valid] at normalized

theorem Coherent.checked (coherent : Coherent store block) : Checked block :=
  checked_of_decoded coherent.accepted.decoded

theorem Checked.normal (checked : Checked block) : Data.Interval.Normal block.zeroExtents :=
  ((validateZeroExtents_iff block).mp checked.zeroExtents).2

theorem encodedLen_le_capacity {memory : Memory} (pages : 0 < memory.pages) :
    superblockOffset + encodedLen ≤ memory.capacity := by
  have whole : stablePageSize ≤ memory.capacity := Nat.le_mul_of_pos_left _ pages
  simp only [superblockOffset, encodedLen, extentsOffset, maxZeroExtents, zeroExtentBytes,
    stablePageSize] at whole ⊢
  omega

/-- A load, warm or cold, returns the block and leaves it in the cache. -/
theorem Coherent.load_eq (coherent : Coherent store block) :
    load store = (.ok block, { store with superblockCache := some block }) := by
  obtain ⟨⟨pages, decoded⟩, cached⟩ := coherent
  obtain ⟨memory, grants, cache⟩ := store
  rw [load, Action.read_bind_apply]
  rcases cached with cold | warm
  · have nonempty : ¬ memory.size = 0 := Nat.pos_iff_ne_zero.mp pages
    subst cold
    simp only [if_neg nonempty]
    rw [Action.bind_of_ok _ (readPreallocated_of (encodedLen_le_capacity pages)), decoded]
    rfl
  · subst warm
    rfl

theorem Coherent.cold (coherent : Coherent store block) :
    Coherent { store with superblockCache := none } block :=
  ⟨coherent.accepted, .inl rfl⟩

theorem Coherent.warm (coherent : Coherent store block) :
    Coherent { store with superblockCache := some block } block :=
  ⟨coherent.accepted, .inr rfl⟩

/-- Bytes past the superblock do not matter to it. -/
theorem Accepted.frame {memory other : Memory} (accepted : Accepted memory block)
    (pages : memory.pages ≤ other.pages)
    (bytes : ∀ address, address < superblockSize → other.bytes address = memory.bytes address) :
    Accepted other block := by
  have same : other.read superblockOffset encodedLen = memory.read superblockOffset encodedLen := by
    apply Memory.read_congr
    intro address _ below
    apply bytes
    simp only [superblockOffset, encodedLen, extentsOffset, maxZeroExtents, zeroExtentBytes, superblockSize,
      stablePageSize] at below ⊢
    omega
  exact ⟨Nat.lt_of_lt_of_le accepted.pages pages, by rw [same]; exact accepted.decoded⟩

/-- A buffer that starts with the written bytes of a stamped block is accepted
as that block, whatever an older, longer encoding left behind them. -/
theorem checkDecoded_of_startsWith {bytes : List UInt8}
    (starts : StartsWith bytes (block.stamped.headerChunks ++ block.stamped.extentChunks))
    (magicEq : block.magic = Stable.magic) (layoutEq : block.layoutVersion = currentLayoutVersion)
    (valid : block.validateZeroExtents = .ok ()) : checkDecoded bytes = .ok block.stamped := by
  have limit : block.stamped.zeroExtents.length ≤ maxZeroExtents :=
    ((validateZeroExtents_iff block).mp valid).1
  have decoded := decode_of_startsWith starts limit
  have count : (u64FromLeBytes (eight bytes 144)).toNat ≤ maxZeroExtents := by
    have word : u64FromLeBytes (eight bytes 144) =
        UInt64.ofNat (min block.stamped.zeroExtents.length (u64Bound - 1)) := decode_word starts 18 rfl
    rw [word, UInt64.toNat_ofNat']
    exact (Nat.mod_le _ _).trans ((Nat.min_le_left _ _).trans limit)
  have verified : block.stamped.verifyChecksum = true := beq_iff_eq.mpr computeMetaChecksum_stamped.symm
  have normalized : block.stamped.hasNormalizedZeroExtents = true := by
    rw [hasNormalizedZeroExtents, validateZeroExtents_congr stamped_zeroExtents, valid]
  have magicStamped : block.stamped.magic = Stable.magic := magicEq
  have versionStamped : block.stamped.version = Stable.version := rfl
  have layoutStamped : block.stamped.layoutVersion = currentLayoutVersion := layoutEq
  rw [checkDecoded, decoded]
  simp only [magicStamped, versionStamped, layoutStamped, verified, normalized, not_lt.mpr count, ne_eq,
    not_true_eq_false, if_false]

theorem written_room (block : Superblock) {memory : Memory} (pages : 0 < memory.pages) :
    superblockOffset + (block.stamped.encode.take block.stamped.encodedLenOf).length ≤ memory.capacity := by
  rw [length_take_encode]
  exact (Nat.add_le_add_left block.stamped.encodedLenOf_le _).trans (encodedLen_le_capacity pages)

theorem accepted_after_write {memory : Memory} (pages : 0 < memory.pages)
    (magicEq : block.magic = Stable.magic) (layoutEq : block.layoutVersion = currentLayoutVersion)
    (valid : block.validateZeroExtents = .ok ()) :
    Accepted (memory.write superblockOffset (block.stamped.encode.take block.stamped.encodedLenOf))
      block.stamped := by
  refine ⟨pages, checkDecoded_of_startsWith ?_ magicEq layoutEq valid⟩
  intro index inside
  have room := written_room block pages
  have written : index < (block.stamped.encode.take block.stamped.encodedLenOf).length := by
    rwa [take_encode]
  have within : index < encodedLen := by
    rw [length_take_encode] at written
    exact Nat.lt_of_lt_of_le written block.stamped.encodedLenOf_le
  have start : superblockOffset + index = index := Nat.zero_add index
  rw [Memory.getD_read, if_pos within, Memory.write_bytes _ room, start,
    if_pos ⟨Nat.zero_le _, by simpa [superblockOffset] using written⟩, take_encode]
  rfl

/-- The store that a successful `store` leaves. -/
def storedIn (block : Superblock) (store : Store) : Store :=
  { store with
    memory := store.memory.write superblockOffset (block.stamped.encode.take block.stamped.encodedLenOf)
    superblockCache := some block.stamped }

@[simp] theorem storedIn_pages (block : Superblock) (store : Store) :
    (block.storedIn store).memory.pages = store.memory.pages := rfl

@[simp] theorem storedIn_capacity (block : Superblock) (store : Store) :
    (block.storedIn store).memory.capacity = store.memory.capacity := rfl

/-- Storing a superblock writes nothing past its region. -/
theorem storedIn_bytes_past (block : Superblock) (pages : 0 < store.memory.pages) {address : Nat}
    (past : superblockSize ≤ address) :
    (block.storedIn store).memory.bytes address = store.memory.bytes address := by
  have short := block.stamped.encodedLenOf_le
  rw [storedIn, Memory.write_bytes _ (written_room block pages), length_take_encode]
  refine if_neg ?_
  simp only [superblockOffset, encodedLen, extentsOffset, maxZeroExtents, zeroExtentBytes, superblockSize,
    stablePageSize] at past short ⊢
  omega

theorem written_nonempty (block : Superblock) :
    block.stamped.encode.take block.stamped.encodedLenOf ≠ [] := by
  intro empty
  have length := congrArg List.length empty
  rw [length_take_encode] at length
  simp only [encodedLenOf, extentsOffset, List.length_nil] at length
  omega

/-- Both store routines reject the same blocks and leave the same store. -/
theorem storePreallocated_of (pages : 0 < store.memory.pages)
    (valid : block.validateZeroExtents = .ok ()) :
    block.storePreallocated store = (.ok (), block.storedIn store) := by
  simp only [storePreallocated, storeWith, valid]
  rw [Action.bind_of_ok _ (writePrechecked_of (written_room block pages))]
  rfl

theorem store_of (pages : 0 < store.memory.pages) (valid : block.validateZeroExtents = .ok ()) :
    block.store store = (.ok (), block.storedIn store) := by
  simp only [Superblock.store, storeWithCapacityCheck, storeWith, valid]
  rw [Action.bind_of_ok _ (write_of_room (written_nonempty block) (written_room block pages))]
  rfl

/-- Into any memory, empty or not: the block is stored after the capacity it
needs was granted, or nothing happens. -/
theorem store_cases (store : Store) (valid : block.validateZeroExtents = .ok ()) :
    (∃ grown, block.store store = (.ok (), block.storedIn grown) ∧ 0 < grown.memory.pages ∧
      grown.memory.pages = max store.memory.pages 1 ∧ grown.memory.bytes = store.memory.bytes) ∨
    (∃ error after, block.store store = (.err error, after) ∧ store.Same after) := by
  have present : ¬ (block.stamped.encode.take block.stamped.encodedLenOf).isEmpty = true :=
    fun empty => written_nonempty block (List.isEmpty_iff.mp empty)
  have positive : 0 < superblockOffset + (block.stamped.encode.take block.stamped.encodedLenOf).length :=
    Nat.lt_of_lt_of_le (List.length_pos_iff.mpr (written_nonempty block)) (Nat.le_add_left _ _)
  have fits : superblockOffset + (block.stamped.encode.take block.stamped.encodedLenOf).length < u64Bound := by
    rw [length_take_encode]
    refine Nat.lt_of_le_of_lt (Nat.add_le_add_left block.stamped.encodedLenOf_le _) ?_
    decide
  simp only [Superblock.store, storeWithCapacityCheck, storeWith, valid]
  rcases ensureCapacity_cases store
      (superblockOffset + (block.stamped.encode.take block.stamped.encodedLenOf).length) with granted | refused
  · obtain ⟨grown, ended, grownBy⟩ := granted
    have written : write superblockOffset (block.stamped.encode.take block.stamped.encodedLenOf) store =
        (.ok (), { grown with
          memory := grown.memory.write superblockOffset
            (block.stamped.encode.take block.stamped.encodedLenOf) }) := by
      rw [write, if_neg present, Action.bind_of_ok _ (checkedAdd_of fits store), Action.bind_of_ok _ ended,
        writePrechecked_of grownBy.room]
    have pages : grown.memory.pages = max store.memory.pages 1 := by
      have short := block.stamped.encodedLenOf_le
      rw [grownBy.pages, length_take_encode, pagesFor]
      rw [length_take_encode] at positive
      simp only [divCeil, stablePageSize, superblockOffset, encodedLen, extentsOffset, maxZeroExtents,
        zeroExtentBytes] at short positive ⊢
      omega
    refine .inl ⟨grown, ?_, by omega, pages, grownBy.bytes⟩
    rw [Action.bind_of_ok _ written]
    rfl
  · obtain ⟨error, after, ended, same⟩ := refused
    refine .inr ⟨error, after, ?_, same⟩
    rw [Action.bind_of_err]
    rw [write, if_neg present, Action.bind_of_ok _ (checkedAdd_of fits store), Action.bind_of_err _ ended]

/-- An environment that grants the first page of an empty memory. -/
theorem store_granted (valid : block.validateZeroExtents = .ok ()) (empty : store.memory.pages = 0)
    (granted : store.grants 0 = true) : (block.store store).1 = .ok () := by
  have written : (write superblockOffset (block.stamped.encode.take block.stamped.encodedLenOf) store).1 =
      .ok () := by
    apply write_granted granted
    have short := block.stamped.encodedLenOf_le
    rw [length_take_encode, empty]
    simp only [pagesFor, divCeil, stablePageSize, superblockOffset, u64Bound, encodedLen, extentsOffset,
      maxZeroExtents, zeroExtentBytes] at short ⊢
    omega
  simp only [Superblock.store, storeWithCapacityCheck, storeWith, valid]
  rw [Action.bind_apply]
  cases ended : write superblockOffset (block.stamped.encode.take block.stamped.encodedLenOf) store with
  | mk outcome next =>
      rw [ended] at written
      obtain rfl : outcome = .ok () := written
      rfl

theorem storeWith_rejects {error : StableMemoryError} (writeBytes : Nat → List UInt8 → StoreM Unit)
    (rejected : block.validateZeroExtents = .error error) :
    storeWith writeBytes block store = (.err error, store) := by
  simp only [storeWith, rejected]
  rfl

theorem storedIn_coherent (pages : 0 < store.memory.pages)
    (magicEq : block.magic = Stable.magic) (layoutEq : block.layoutVersion = currentLayoutVersion)
    (valid : block.validateZeroExtents = .ok ()) : Coherent (block.storedIn store) block.stamped :=
  ⟨accepted_after_write pages magicEq layoutEq valid, .inr rfl⟩

end Superblock

end IcSqliteVfs.Stable
