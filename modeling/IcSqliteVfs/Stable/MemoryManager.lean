import IcSqliteVfs.Stable.MemoryLayout

namespace IcSqliteVfs.Stable

open IcSqliteVfs.Data IcSqliteVfs.Semantics

/-! # The memory manager -/

structure MemoryManagerInner where
  allocatedBuckets : Nat
  bucketSizeInPages : Nat
  memorySizesInPages : MemoryId → Nat
  memoryBuckets : MemoryId → List Nat

/-- A manager together with the raw memory it was given. -/
structure Manager where
  inner : MemoryManagerInner
  raw : Raw

abbrev ManagerM : Type → Type := Action Manager MemoryManagerInitError

def onRaw {α : Type} (call : RawM α) : ManagerM α :=
  Action.zoom Manager.raw (fun raw manager => { manager with raw }) call

def modifyInner (update : MemoryManagerInner → MemoryManagerInner) : ManagerM Unit :=
  Action.modify fun manager => { manager with inner := update manager.inner }

namespace MemoryManagerInner

def memorySize (inner : MemoryManagerInner) (id : MemoryId) : Nat := inner.memorySizesInPages id

def bucketSizeInBytes (inner : MemoryManagerInner) : Nat := inner.bucketSizeInPages * stablePageSize

def numBucketsNeeded (inner : MemoryManagerInner) (pages : Nat) : Nat :=
  (pages + inner.bucketSizeInPages - 1) / inner.bucketSizeInPages

def bucketAddress (inner : MemoryManagerInner) (bucket : Nat) : Nat :=
  bucketsOffsetInBytes + inner.bucketSizeInBytes * bucket

/-- The header, cut into chunks of eight bytes: magic, version and counts, the
reserved bytes, and a size for each memory. -/
def headerChunks (inner : MemoryManagerInner) : List (List UInt8) :=
  (managerMagic ++ [layoutVersion] ++ leBytes 2 inner.allocatedBuckets ++ leBytes 2 inner.bucketSizeInPages) ::
    List.replicate (headerReservedBytes / 8) (List.replicate 8 0) ++
    (List.finRange maxNumMemories).map fun id => leBytes 8 (inner.memorySizesInPages id)

@[irreducible] def header (inner : MemoryManagerInner) : List UInt8 := inner.headerChunks.flatten

def saveHeader (inner : MemoryManagerInner) (write : RawWrite) : RawM Unit := write 0 inner.header

/-- The tables of a manager without memories. -/
def fresh (bucketSizeInPages : UInt16) : MemoryManagerInner where
  allocatedBuckets := 0
  bucketSizeInPages := bucketSizeInPages.toNat
  memorySizesInPages _ := 0
  memoryBuckets _ := []

def new (bucketSizeInPages : UInt16) : RawM MemoryManagerInner := do
  writeGrowing (bucketAllocationsAddress 0) unallocatedTable
  (fresh bucketSizeInPages).saveHeader writeGrowing
  pure (fresh bucketSizeInPages)

end MemoryManagerInner

/-! ## Growing -/

/-- A `grow` past its checks: the manager and the buckets its rollback guard
would mark as unallocated again. -/
structure Allocation where
  manager : Manager
  rollback : List Nat

abbrev AllocationM : Type → Type := Action Allocation MemoryManagerInitError

def onManager {α : Type} (call : ManagerM α) : AllocationM α :=
  Action.zoom Allocation.manager (fun manager allocation => { allocation with manager }) call

section Recording

/- The raw writes that record a `grow` are a parameter, so that one of them may
panic; `Manager.grow` makes them with `writeGrowing`. -/
variable (write : RawWrite)

/-- One turn of the loop over the new buckets: push, mark in the table, remember
for the rollback, count. -/
def pushBucket (id : MemoryId) (bucket : Nat) : AllocationM Unit := do
  onManager (modifyInner fun inner => { inner with
    memoryBuckets := Function.update inner.memoryBuckets id (inner.memoryBuckets id ++ [bucket]) })
  onManager (onRaw (write (bucketAllocationsAddress bucket) [id.byte]))
  Action.modify fun allocation => { allocation with rollback := allocation.rollback ++ [bucket] }
  -- `checked_add(1).expect(..)` on a `u16`.
  Action.require (bucket + 1 < u16Bound)
  onManager (modifyInner fun inner => { inner with allocatedBuckets := bucket + 1 })

def allocateBucket (id : MemoryId) : AllocationM Unit := do
  let allocation ← Action.read
  pushBucket write id allocation.manager.inner.allocatedBuckets

def allocateBuckets (id : MemoryId) : Nat → AllocationM Unit
  | 0 => pure ()
  | count + 1 => do
      allocateBucket write id
      allocateBuckets id count

def recordSize (id : MemoryId) (newSize : Nat) : AllocationM Unit := do
  onManager (modifyInner fun inner => { inner with
    memorySizesInPages := Function.update inner.memorySizesInPages id newSize })
  let allocation ← Action.read
  onManager (onRaw (allocation.manager.inner.saveHeader write))

end Recording

/-- `AllocationRollback::drop` while unwinding. -/
def dropRollback (allocation : Allocation) : Manager :=
  allocation.rollback.foldl
    (fun manager bucket =>
      (onRaw (writeGrowing (bucketAllocationsAddress bucket) [unallocatedBucketMarker]) manager).2)
    allocation.manager

def withRollback (call : AllocationM Unit) : ManagerM Unit := fun manager =>
  match call ⟨manager, []⟩ with
  | (.ok value, allocation) => (.ok value, allocation.manager)
  | (.err error, allocation) => (.err error, allocation.manager)
  | (.panic, allocation) => (.panic, dropRollback allocation)

/-- Ask the raw memory for what is missing; `false` if it refuses. -/
def ensureRawPages (pagesNeeded : Nat) : RawM Bool := do
  let currentPages ← rawSize
  if currentPages < pagesNeeded then do
    let previous ← rawGrow (pagesNeeded - currentPages)
    pure (decide (0 ≤ previous))
  else pure true

/-- `grow` past its arithmetic: heap space, raw pages, then the buckets;
`false` if the environment refuses. -/
def growBuckets (write : RawWrite) (id : MemoryId) (newSize newBuckets : Nat) : ManagerM Bool := do
  let manager ← Action.read
  let reserved ← onRaw tryReserve
  if ¬ reserved then pure false
  else do
    let reserved ← onRaw tryReserve
    if ¬ reserved then pure false
    else do
      let dataPages := manager.inner.bucketSizeInPages * (newBuckets + manager.inner.allocatedBuckets)
      if u64Bound ≤ dataPages ∨ u64Bound ≤ bucketsOffsetInPages + dataPages then pure false
      else do
        let granted ← onRaw (ensureRawPages (bucketsOffsetInPages + dataPages))
        if ¬ granted then pure false
        else do
          withRollback do
            allocateBuckets write id newBuckets
            recordSize write id newSize
          pure true

/-- The arithmetic of `grow`, which reports every refusal as `-1`. -/
def growFrom (write : RawWrite) (inner : MemoryManagerInner) (id : MemoryId) (pages : Nat) : ManagerM Int :=
  let oldSize := inner.memorySize id
  let newSize := oldSize + pages
  if u64Bound ≤ newSize then pure (-1)
  else
    let newBuckets := inner.numBucketsNeeded newSize - inner.numBucketsNeeded oldSize
    let targetAllocatedBuckets := newBuckets + inner.allocatedBuckets
    if u64Bound ≤ targetAllocatedBuckets ∨ maxNumBuckets < targetAllocatedBuckets then pure (-1)
    else do
      let grown ← growBuckets write id newSize newBuckets
      pure (if grown then oldSize else -1)

def Manager.growVia (write : RawWrite) (id : MemoryId) (pages : Nat) : ManagerM Int := do
  let manager ← Action.read
  growFrom write manager.inner id pages

def Manager.grow (id : MemoryId) (pages : Nat) : ManagerM Int := Manager.growVia writeGrowing id pages

/-! ## Reading and writing -/

/-- What a call through a handle may change: the raw memory and the handle's cache. -/
structure Access where
  raw : Raw
  cache : BucketCache

abbrev AccessM : Type → Type := Action Access MemoryManagerInitError

def onAccessRaw {α : Type} (call : RawM α) : AccessM α :=
  Action.zoom Access.raw (fun raw access => { access with raw }) call

namespace MemoryManagerInner

def assertBounds (inner : MemoryManagerInner) (id : MemoryId) (offset count : Nat) : AccessM Unit := do
  Action.require (offset + count < u64Bound)
  Action.require (inner.memorySize id * stablePageSize < u64Bound)
  Action.require (offset + count ≤ inner.memorySize id * stablePageSize)

/-- The loop over the buckets under a range; the body gets the address of a
piece, its length and how much came before it.  Each turn handles at least one
byte. -/
def forEachBucket (inner : MemoryManagerInner) (id : MemoryId)
    (body : Nat → Nat → Nat → AccessM (List UInt8)) : Nat → Nat → Nat → Nat → Nat → AccessM (List UInt8)
  | 0, _, _, _, _ => pure []
  | turns + 1, bucketIdx, bucketOffset, count, handled =>
      if 0 < count then
        match (inner.memoryBuckets id)[bucketIdx]? with
        | none => Action.panic
        | some bucket => do
            let bucketAddress := inner.bucketAddress bucket
            let segmentLen := min (inner.bucketSizeInBytes - bucketOffset) count
            Action.modify fun access => { access with
              cache := ⟨⟨bucketIdx * inner.bucketSizeInBytes, inner.bucketSizeInBytes⟩, bucketAddress⟩ }
            let piece ← body (bucketAddress + bucketOffset) segmentLen handled
            let rest ← forEachBucket inner id body turns (bucketIdx + 1) 0 (count - segmentLen)
              (handled + segmentLen)
            pure (piece ++ rest)
      else pure []

def read (inner : MemoryManagerInner) (id : MemoryId) (offset count : Nat) : AccessM (List UInt8) :=
  if count = 0 then pure []
  else do
    inner.assertBounds id offset count
    let access ← Action.read
    match access.cache.get ⟨offset, count⟩ with
    | some real => onAccessRaw (rawRead real count)
    | none =>
        inner.forEachBucket id (fun address length _ => onAccessRaw (rawRead address length)) count
          (offset / inner.bucketSizeInBytes) (offset % inner.bucketSizeInBytes) count 0

def write (inner : MemoryManagerInner) (id : MemoryId) (offset : Nat) (source : List UInt8) : AccessM Unit :=
  if source.isEmpty then pure ()
  else do
    inner.assertBounds id offset source.length
    let access ← Action.read
    match access.cache.get ⟨offset, source.length⟩ with
    | some real => onAccessRaw (rawWrite real source)
    | none => do
        let _ ← inner.forEachBucket id
          (fun address length written => do
            onAccessRaw (rawWrite address (window source written length))
            pure [])
          source.length (offset / inner.bucketSizeInBytes) (offset % inner.bucketSizeInBytes) source.length 0
        pure ()

end MemoryManagerInner

end IcSqliteVfs.Stable
