import IcSqliteVfs.SqliteVfs.Checksum

namespace IcSqliteVfs.SqliteVfs

open IcSqliteVfs.Data IcSqliteVfs.Semantics IcSqliteVfs.Stable

/-! # Importing an image

The imported bytes go behind everything that was ever allocated, and become
the image when the import finishes.
-/

def appendBase : StoreM Nat := do
  let store ← Action.read
  checkedMul store.memory.size stablePageSize

def importBegun (block : Superblock) (importBaseOffset : Nat) (totalSize expectedChecksum : UInt64) : Superblock :=
  { Superblock.clearChecksumRefresh { block with flags := block.flags ||| flagImporting } with
    importExpectedChecksum := expectedChecksum
    importWrittenUntil := 0
    importTotalSize := totalSize
    importBaseOffset := UInt64.ofNat importBaseOffset }

def beginImport (totalSize expectedChecksum : UInt64) : ContextM Unit := do
  rejectDuringUpdate
  let block ← onContextStore Superblock.load
  if block.isImporting then Action.fail .importAlreadyStarted
  else do
    let importBaseOffset ← onContextStore appendBase
    let _ ← checkedAdd importBaseOffset totalSize.toNat
    onContextStore (importBegun block importBaseOffset totalSize expectedChecksum).store

def importChunk (offset : UInt64) (bytes : List UInt8) : ContextM Unit := do
  rejectDuringUpdate
  let block ← onContextStore Superblock.load
  if ¬ block.isImporting then Action.fail .importNotStarted
  else if offset ≠ block.importWrittenUntil then
    Action.fail (.importOutOfOrder offset.toNat block.importWrittenUntil.toNat)
  else do
    let stop ← checkedAdd offset.toNat bytes.length
    if block.importTotalSize.toNat < stop then
      Action.fail (.importOutOfBounds offset.toNat bytes.length block.importTotalSize.toNat)
    else do
      let physical ← checkedAdd block.importBaseOffset.toNat offset.toNat
      onContextStore (write physical bytes)
      onContextStore (Superblock.store { block with importWrittenUntil := UInt64.ofNat stop })

/-- The loop of `checksum_physical_range`. -/
def hashPhysicalRange (baseOffset stop : Nat) : Nat → Nat → UInt64 → StoreM UInt64
  | 0, _, hash => pure hash
  | turns + 1, offset, hash =>
      if offset < stop then do
        let count := min (stop - offset) checksumChunkLen
        let physical ← checkedAdd baseOffset offset
        let bytes ← readPreallocated physical count
        hashPhysicalRange baseOffset stop turns (offset + count) (foldFnv1a64 hash bytes)
      else pure hash

def checksumPhysicalRange (baseOffset count : Nat) : StoreM UInt64 :=
  hashPhysicalRange baseOffset count count 0 (fnv1a64 [])

def importCleared (block : Superblock) : Superblock :=
  { block with
    flags := block.flags &&& ~~~flagImporting
    importExpectedChecksum := 0
    importWrittenUntil := 0
    importTotalSize := 0
    importBaseOffset := 0 }

def clearImport (block : Superblock) : StoreM Unit := (importCleared block).store

def importFinished (block : Superblock) (checksum : UInt64) : Superblock :=
  { Superblock.clearChecksumRefresh
      { block with
        dbSize := block.importTotalSize
        dbBaseOffset := block.importBaseOffset
        pageTableOffset := 0
        pageCount := UInt64.ofNat (pageCountForSize block.importTotalSize.toNat)
        layoutVersion := currentLayoutVersion
        schemaVersion := 0
        flags := block.flags &&& ~~~flagImporting &&& ~~~flagChecksumStale
        zeroExtents := [] } with
    checksum
    importExpectedChecksum := 0
    importWrittenUntil := 0
    importTotalSize := 0
    importBaseOffset := 0 }

def finishImport : ContextM Unit := do
  rejectDuringUpdate
  let block ← onContextStore Superblock.load
  if ¬ block.isImporting then Action.fail .importNotStarted
  else if block.importWrittenUntil ≠ block.importTotalSize then
    Action.fail (.importIncomplete block.importWrittenUntil.toNat block.importTotalSize.toNat)
  else do
    let checksum ← onContextStore
      (checksumPhysicalRange block.importBaseOffset.toNat block.importTotalSize.toNat)
    if checksum ≠ block.importExpectedChecksum then do
      onContextStore (clearImport block)
      Action.fail (.checksumMismatch block.importExpectedChecksum checksum)
    else onContextStore (importFinished block checksum).store

def cancelImport : ContextM Unit := do
  rejectDuringUpdate
  let block ← onContextStore Superblock.load
  if ¬ block.isImporting then Action.fail .importNotStarted else onContextStore (clearImport block)

/-! ## When no import is open -/

theorem idle_importCleared (block : Superblock) : (importCleared block).isImporting = false := by
  simp only [Superblock.isImporting, importCleared]
  rw [clear_and_self]
  rfl

theorem idle_importFinished (block : Superblock) (checksum : UInt64) :
    (importFinished block checksum).isImporting = false := by
  simp only [Superblock.isImporting, importFinished, Superblock.clearChecksumRefresh]
  rw [clear_and_other _ (by decide), clear_and_other _ (by decide), clear_and_self]
  rfl

/-! ## Hashing the imported bytes -/

variable {store : Store}

theorem hashPhysicalRange_of {baseOffset stop : Nat} (room : baseOffset + stop ≤ store.memory.capacity)
    (turns offset : Nat) (hash : UInt64) (enough : stop - offset ≤ turns) :
    hashPhysicalRange baseOffset stop turns offset hash store =
      (.ok (foldFnv1a64 hash (store.memory.read (baseOffset + offset) (stop - offset))), store) := by
  induction turns generalizing offset hash with
  | zero =>
      have finished : stop - offset = 0 := by omega
      rw [hashPhysicalRange, finished]
      rfl
  | succ turns ih =>
      rw [hashPhysicalRange]
      by_cases unfinished : offset < stop
      · simp only [if_pos unfinished]
        generalize countEq : min (stop - offset) checksumChunkLen = count
        have progress : 0 < count ∧ offset + count ≤ stop := by
          simp only [checksumChunkLen] at countEq
          omega
        have split : stop - offset = count + (stop - (offset + count)) := by omega
        have inside : baseOffset + offset + count ≤ store.memory.capacity := by omega
        have fits : baseOffset + offset < u64Bound := by
          have addressable : store.memory.capacity < u64Bound := store.memory.addressable
          omega
        rw [Action.bind_of_ok _ (checkedAdd_of fits store), Action.bind_of_ok _ (readPreallocated_of inside),
          ih (offset + count) _ (by omega), foldFnv1a64_append, split, Memory.read_add, Nat.add_assoc]
      · have finished : stop - offset = 0 := by omega
        rw [if_neg unfinished, finished]
        rfl

theorem checksumPhysicalRange_of {baseOffset count : Nat} (room : baseOffset + count ≤ store.memory.capacity) :
    checksumPhysicalRange baseOffset count store =
      (.ok (fnv1a64 (store.memory.read baseOffset count)), store) := by
  rw [checksumPhysicalRange, hashPhysicalRange_of room count 0 _ (by omega)]
  rfl

end IcSqliteVfs.SqliteVfs
