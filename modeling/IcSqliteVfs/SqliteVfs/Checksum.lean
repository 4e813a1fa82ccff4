import IcSqliteVfs.Data.Flags
import IcSqliteVfs.SqliteVfs.StableBlob

namespace IcSqliteVfs.SqliteVfs

open IcSqliteVfs.Data IcSqliteVfs.Semantics IcSqliteVfs.Stable

/-! # Certified checksums of the image -/

def checksumChunkLen : Nat := 16 * 1024

def rejectDuringUpdate : ContextM Unit := do
  let context ← Action.read
  match context.overlay with
  | some _ => Action.fail .updateInProgress
  | none => pure ()

/-- The loop that `checksum_logical_range` and `refresh_checksum_chunk` share;
each turn hashes at least one byte. -/
def hashLogicalRange (block : Superblock) (stop : Nat) : Nat → Nat → UInt64 → StoreM UInt64
  | 0, _, hash => pure hash
  | turns + 1, offset, hash =>
      if offset < stop then do
        let count := min (stop - offset) checksumChunkLen
        let bytes ← readLogicalRange block offset count
        hashLogicalRange block stop turns (offset + count) (foldFnv1a64 hash bytes)
      else pure hash

def checksumLogicalRange (block : Superblock) (count : Nat) : StoreM UInt64 :=
  hashLogicalRange block count count 0 (fnv1a64 [])

def checksum : ContextM UInt64 := do
  rejectDuringUpdate
  let block ← onContextStore Superblock.load
  onContextStore (checksumLogicalRange block block.dbSize.toNat)

/-- A block whose checksum was just computed over the whole image. -/
def certified (block : Superblock) (checksum : UInt64) : Superblock :=
  Superblock.clearChecksumRefresh { block with checksum, flags := block.flags &&& ~~~flagChecksumStale }

def refreshChecksum : ContextM UInt64 := do
  rejectDuringUpdate
  let checksum ← checksum
  let block ← onContextStore Superblock.load
  onContextStore (certified block checksum).store
  pure checksum

structure ChecksumRefresh where
  complete : Bool
  checksum : UInt64
  scannedBytes : UInt64
  dbSize : UInt64
deriving DecidableEq, Repr

/-- A refresh that starts at the beginning of the image. -/
def refreshStarted (block : Superblock) : Superblock :=
  { block with
    flags := block.flags ||| flagChecksumRefreshing
    checksumRefreshOffset := 0
    checksumRefreshHash := fnv1a64 []
    checksumRefreshTxId := block.lastTxId }

/-- What is stored after the bytes up to `offset` were hashed. -/
def refreshAdvanced (block : Superblock) (offset : Nat) (hash : UInt64) : Superblock :=
  let block :=
    { block with checksumRefreshOffset := UInt64.ofNat offset, checksumRefreshHash := hash }
  if offset = block.dbSize.toNat then certified block hash else block

/-- Where a chunk stops: `saturating_add`, cut at the size. -/
def refreshStop (block : Superblock) (maxBytes : Nat) : Nat :=
  min block.dbSize.toNat (min (block.checksumRefreshOffset.toNat + maxBytes) (u64Bound - 1))

/-- The body of `refresh_checksum_chunk` once progress and image belong to the
same transaction. -/
def refreshRange (block : Superblock) (maxBytes : Nat) : StoreM ChecksumRefresh := do
  let start := block.checksumRefreshOffset.toNat
  let stop := refreshStop block maxBytes
  let hash ← hashLogicalRange block stop (stop - start) start block.checksumRefreshHash
  let offset := max start stop
  (refreshAdvanced block offset hash).store
  pure {
    complete := offset == block.dbSize.toNat
    checksum := hash
    scannedBytes := UInt64.ofNat offset
    dbSize := block.dbSize }

/-- The block a chunk works on: progress already made, or a fresh start. -/
def resumed (block : Superblock) : Superblock :=
  if block.isChecksumRefreshing then block else refreshStarted block

/-- A chunk of a loaded block; `again` is the call the source makes to itself
after dropping progress that belongs to another transaction. -/
def refreshLoaded (maxBytes : Nat) (again : ContextM ChecksumRefresh) (block : Superblock) :
    ContextM ChecksumRefresh :=
  if block.isImporting then Action.fail .importAlreadyStarted
  else
    let block := resumed block
    if block.checksumRefreshTxId ≠ block.lastTxId then do
      onContextStore block.clearChecksumRefresh.store
      again
    else onContextStore (refreshRange block maxBytes)

/-- `calls` bounds how often the source may call itself. -/
def refreshChecksumChunkWithin (maxBytes : Nat) : Nat → ContextM ChecksumRefresh
  | 0 => Action.panic
  | calls + 1 => do
      rejectDuringUpdate
      if maxBytes = 0 then Action.fail .checksumRefreshChunkEmpty
      else do
        let block ← onContextStore Superblock.load
        refreshLoaded maxBytes (refreshChecksumChunkWithin maxBytes calls) block

def refreshChecksumChunk (maxBytes : Nat) : ContextM ChecksumRefresh :=
  refreshChecksumChunkWithin maxBytes 2

/-- What `DbHandle::migrate` stores behind its update. -/
def storeSchemaVersion (targetVersion : UInt64) : StoreM Unit := do
  let block ← Superblock.load
  if block.schemaVersion < targetVersion then
    Superblock.store { block with schemaVersion := targetVersion }
  else pure ()

/-! ## Hashing the image -/

variable {block edited : Superblock} {base : List UInt8} {store : Store}

theorem foldFnv1a64_append (hash : UInt64) (first second : List UInt8) :
    foldFnv1a64 (foldFnv1a64 hash first) second = foldFnv1a64 hash (first ++ second) :=
  (List.foldl_append ..).symm

theorem readFrom_zero (file : List UInt8) {count : Nat} (within : count ≤ file.length) :
    readFrom 0 file 0 count = file.take count := by
  apply ext_getD 0
  · rw [length_readFrom, List.length_take, Nat.min_eq_left within]
  · intro index inside
    rw [length_readFrom] at inside
    rw [getD_readFrom, if_pos inside, Nat.zero_add, getD_take, if_pos inside]

theorem hashLogicalRange_of (readable : Readable store.memory block) {stop : Nat}
    (within : stop ≤ block.dbSize.toNat) (turns offset : Nat) (hash : UInt64) (enough : stop - offset ≤ turns) :
    hashLogicalRange block stop turns offset hash store =
      (.ok (foldFnv1a64 hash (readFrom 0 (image store.memory block) offset (stop - offset))), store) := by
  induction turns generalizing offset hash with
  | zero =>
      have finished : stop - offset = 0 := by omega
      rw [hashLogicalRange, finished]
      rfl
  | succ turns ih =>
      rw [hashLogicalRange]
      by_cases unfinished : offset < stop
      · simp only [if_pos unfinished]
        generalize countEq : min (stop - offset) checksumChunkLen = count
        have progress : 0 < count ∧ offset + count ≤ stop := by
          simp only [checksumChunkLen] at countEq
          omega
        have split : stop - offset = count + (stop - (offset + count)) := by omega
        rw [Action.bind_of_ok _ (readLogicalRange_of readable (by omega)), ih (offset + count) _ (by omega),
          foldFnv1a64_append, split, readFrom_append]
      · have finished : stop - offset = 0 := by omega
        rw [if_neg unfinished, finished]
        rfl

theorem checksumLogicalRange_of (serves : Serves store block base) :
    checksumLogicalRange block block.dbSize.toNat store = (.ok (fnv1a64 base), store) := by
  rw [checksumLogicalRange, hashLogicalRange_of serves.readable (Nat.le_refl _) _ 0 _ (by omega), Nat.sub_zero,
    serves.image_eq, ← serves.size_eq, readFrom_zero base (Nat.le_refl _), List.take_length]
  rfl

/-! ## Storing an edited block -/

/-- The edit leaves alone what the image and the load checks depend on. -/
structure SameImage (block edited : Superblock) : Prop where
  magic : edited.magic = block.magic
  layoutVersion : edited.layoutVersion = block.layoutVersion
  dbSize : edited.dbSize = block.dbSize
  dbBaseOffset : edited.dbBaseOffset = block.dbBaseOffset
  zeroExtents : edited.zeroExtents = block.zeroExtents

theorem SameImage.trans {last : Superblock} (first : SameImage block edited) (second : SameImage edited last) :
    SameImage block last where
  magic := second.magic.trans first.magic
  layoutVersion := second.layoutVersion.trans first.layoutVersion
  dbSize := second.dbSize.trans first.dbSize
  dbBaseOffset := second.dbBaseOffset.trans first.dbBaseOffset
  zeroExtents := second.zeroExtents.trans first.zeroExtents

theorem SameImage.image_eq (same : SameImage block edited) (memory : Memory) :
    image memory edited = image memory block := by
  refine image_congr same.dbSize ?_
  intro position _
  rw [imageByte, imageByte, pageIsZeroMasked, pageIsZeroMasked, same.zeroExtents, same.dbBaseOffset]

theorem SameImage.readable {memory : Memory} (same : SameImage block edited) (readable : Readable memory block) :
    Readable memory edited := by
  refine ⟨?_, ?_⟩
  · rw [same.dbBaseOffset]
    exact readable.base
  · rw [same.dbBaseOffset, same.dbSize]
    exact readable.room

theorem Serves.store_edited (serves : Serves store block base) (same : SameImage block edited) :
    edited.store store = (.ok (), edited.storedIn store) ∧ Serves (edited.storedIn store) edited.stamped base := by
  have checked := serves.coherent.checked
  have pages := serves.coherent.accepted.pages
  have valid : edited.validateZeroExtents = .ok () := by
    rw [Superblock.validateZeroExtents_congr same.zeroExtents]
    exact checked.zeroExtents
  refine ⟨Superblock.store_of pages valid, ?_⟩
  refine ⟨Superblock.storedIn_coherent pages (same.magic.trans checked.magic)
    (same.layoutVersion.trans checked.layoutVersion) valid, ?_, ?_⟩
  · have readable := same.readable serves.readable
    exact ⟨readable.base, readable.room⟩
  · rw [← serves.image_eq]
    refine image_congr (Superblock.stamped_dbSize.trans same.dbSize) ?_
    intro position _
    have past := serves.readable.base
    rw [imageByte, imageByte, pageIsZeroMasked, pageIsZeroMasked, Superblock.stamped_zeroExtents, same.zeroExtents,
      Superblock.stamped_dbBaseOffset, same.dbBaseOffset,
      Superblock.storedIn_bytes_past edited pages (past.trans (Nat.le_add_right _ _))]

/-! ## One chunk -/

/-- The block that a chunk of the image leaves. -/
def scanned (block : Superblock) (base : List UInt8) (maxBytes : Nat) : Superblock :=
  let start := block.checksumRefreshOffset.toNat
  let stop := refreshStop block maxBytes
  refreshAdvanced block (max start stop) (foldFnv1a64 block.checksumRefreshHash (readFrom 0 base start (stop - start)))

/-- What a chunk of the image reports. -/
def reported (block : Superblock) (base : List UInt8) (maxBytes : Nat) : ChecksumRefresh :=
  let start := block.checksumRefreshOffset.toNat
  let stop := refreshStop block maxBytes
  { complete := max start stop == block.dbSize.toNat
    checksum := foldFnv1a64 block.checksumRefreshHash (readFrom 0 base start (stop - start))
    scannedBytes := UInt64.ofNat (max start stop)
    dbSize := block.dbSize }

theorem sameImage_resumed (block : Superblock) : SameImage block (resumed block) := by
  rw [resumed]
  split
  · exact ⟨rfl, rfl, rfl, rfl, rfl⟩
  · exact ⟨rfl, rfl, rfl, rfl, rfl⟩

theorem sameImage_scanned (block : Superblock) (base : List UInt8) (maxBytes : Nat) :
    SameImage block (scanned block base maxBytes) := by
  rw [scanned, refreshAdvanced]
  split
  · exact ⟨rfl, rfl, rfl, rfl, rfl⟩
  · exact ⟨rfl, rfl, rfl, rfl, rfl⟩

/-- Scanning with a block that shares its image with the stored one. -/
theorem refreshRange_of (serves : Serves store block base) (same : SameImage block edited) (maxBytes : Nat) :
    refreshRange edited maxBytes store =
      (.ok (reported edited base maxBytes), (scanned edited base maxBytes).storedIn store) := by
  have readable := same.readable serves.readable
  have seen : image store.memory edited = base := (same.image_eq store.memory).trans serves.image_eq
  have within : refreshStop edited maxBytes ≤ edited.dbSize.toNat := min_le_left _ _
  have hashed := hashLogicalRange_of readable within _ edited.checksumRefreshOffset.toNat
    edited.checksumRefreshHash (Nat.le_refl _)
  rw [seen] at hashed
  have stored := (serves.store_edited (same.trans (sameImage_scanned edited base maxBytes))).1
  rw [scanned] at stored
  rw [refreshRange, Action.bind_of_ok _ hashed, Action.bind_of_ok _ stored]
  rfl

end IcSqliteVfs.SqliteVfs
