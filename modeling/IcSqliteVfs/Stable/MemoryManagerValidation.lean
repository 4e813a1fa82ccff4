import IcSqliteVfs.Stable.MemoryManager

namespace IcSqliteVfs.Stable

open IcSqliteVfs.Data IcSqliteVfs.Semantics

/-! # Loading a layout

Corrupt images are rejected before they can become in-memory state.
-/

namespace MemoryManagerInner

def validateBackingMemorySize (size allocatedBuckets bucketSizeInPages : Nat) :
    Except MemoryManagerLayoutError Unit :=
  let requiredDataPages := bucketSizeInPages * allocatedBuckets
  if u64Bound ≤ requiredDataPages ∨ u64Bound ≤ bucketsOffsetInPages + requiredDataPages then
    .error .bucketRangeOverflows
  else if size < bucketsOffsetInPages + requiredDataPages then .error .backingMemoryTruncated
  else .ok ()

def readMemorySizes (header : List UInt8) (id : MemoryId) : Nat :=
  leValue (window header (3 + 1 + 2 + 2 + headerReservedBytes + id * 8) 8)

def validateMemorySizesFitBytes (sizes : MemoryId → Nat) : Except MemoryManagerLayoutError Unit :=
  match (List.finRange maxNumMemories).find? fun id => u64Bound ≤ sizes id * stablePageSize with
  | some id => .error (.memorySizeOverflowsBytes id)
  | none => .ok ()

/-- The loop that pushes the allocated buckets onto their owners' lists. -/
def pushBuckets : List UInt8 → Nat → (MemoryId → List Nat) →
    Except MemoryManagerLayoutError (MemoryId → List Nat)
  | [], _, memoryBuckets => .ok memoryBuckets
  | owner :: rest, bucket, memoryBuckets =>
      if inside : owner.toNat < maxNumMemories then
        pushBuckets rest (bucket + 1) (Function.update memoryBuckets ⟨owner.toNat, inside⟩
          (memoryBuckets ⟨owner.toNat, inside⟩ ++ [bucket]))
      else .error .allocatedBucketHasNoOwner

def validatedBuckets (table : List UInt8) (allocatedBuckets : Nat) :
    Except MemoryManagerLayoutError (MemoryId → List Nat) :=
  match pushBuckets (table.take allocatedBuckets) 0 fun _ => [] with
  | .error error => .error error
  | .ok memoryBuckets =>
      if (table.drop allocatedBuckets).any (· != unallocatedBucketMarker) then
        .error .unallocatedBucketHasOwner
      else .ok memoryBuckets

def validateBucketCounts (bucketSizeInPages : Nat) (sizes : MemoryId → Nat) (buckets : MemoryId → List Nat) :
    Except MemoryManagerLayoutError Unit :=
  match (List.finRange maxNumMemories).find? fun id =>
      (sizes id + bucketSizeInPages - 1) / bucketSizeInPages != (buckets id).length with
  | some id => .error (.memorySizeAndBucketsMismatch id)
  | none => .ok ()

/-- `try_load_validated_layout`, on the header and table bytes it reads. -/
def tryLoadValidatedLayout (size : Nat) (header table : List UInt8) :
    Except MemoryManagerLayoutError MemoryManagerInner :=
  let allocatedBuckets := leValue (window header 4 2)
  let bucketSizeInPages := leValue (window header 6 2)
  if maxNumBuckets < allocatedBuckets then .error .allocatedBucketsExceedsMaximum
  else if bucketSizeInPages = 0 then .error .bucketSizeIsZero
  else do
    let memorySizesInPages := readMemorySizes header
    validateMemorySizesFitBytes memorySizesInPages
    let memoryBuckets ← validatedBuckets table allocatedBuckets
    validateBucketCounts bucketSizeInPages memorySizesInPages memoryBuckets
    validateBackingMemorySize size allocatedBuckets bucketSizeInPages
    .ok { allocatedBuckets, bucketSizeInPages, memorySizesInPages, memoryBuckets }

def load : RawM MemoryManagerInner := do
  let header ← rawRead 0 headerSize
  Action.require (window header 0 3 = managerMagic)
  Action.require (header.getD 3 0 = layoutVersion)
  let table ← rawRead (bucketAllocationsAddress 0) maxNumBuckets
  let size ← rawSize
  match tryLoadValidatedLayout size header table with
  | .ok inner => pure inner
  | .error _ => Action.panic

def tryLoad : RawM MemoryManagerInner := do
  let header ← rawRead 0 headerSize
  if window header 0 3 ≠ managerMagic then Action.fail .nonMemoryManagerLayout
  else if header.getD 3 0 ≠ layoutVersion then Action.fail (.invalidLayout "Unsupported version.")
  else do
    let table ← rawRead (bucketAllocationsAddress 0) maxNumBuckets
    let size ← rawSize
    match tryLoadValidatedLayout size header table with
    | .ok inner => pure inner
    | .error error => Action.fail (.invalidLayout error.text)

def init (bucketSizeInPages : UInt16) : RawM MemoryManagerInner := do
  let size ← rawSize
  if size = 0 then new bucketSizeInPages
  else do
    let magic ← rawRead 0 3
    if magic = managerMagic then load else new bucketSizeInPages

def initStrict (bucketSizeInPages : UInt16) : RawM MemoryManagerInner := do
  let size ← rawSize
  if size = 0 then new bucketSizeInPages
  else do
    let magic ← rawRead 0 3
    if magic ≠ managerMagic then Action.fail .nonMemoryManagerLayout else tryLoad

end MemoryManagerInner

namespace MemoryManager

def initWithBucketSize (bucketSizeInPages : UInt16) : RawM MemoryManagerInner :=
  if bucketSizeInPages = 0 then Action.panic else MemoryManagerInner.init bucketSizeInPages

def initStrictWithBucketSize (bucketSizeInPages : UInt16) : RawM MemoryManagerInner :=
  if bucketSizeInPages = 0 then Action.fail .bucketSizeIsZero
  else MemoryManagerInner.initStrict bucketSizeInPages

def init : RawM MemoryManagerInner := initWithBucketSize bucketSizeInPages

def initStrict : RawM MemoryManagerInner := initStrictWithBucketSize bucketSizeInPages

end MemoryManager

end IcSqliteVfs.Stable
