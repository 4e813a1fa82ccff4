import IcSqliteVfs.Data.LittleEndian
import IcSqliteVfs.Semantics.Action
import IcSqliteVfs.Stable.RawMemory

namespace IcSqliteVfs.Stable

open IcSqliteVfs.Data IcSqliteVfs.Semantics

/-! # The layout under a memory manager -/

/-- `b"MGR"`. -/
def managerMagic : List UInt8 := [0x4d, 0x47, 0x52]
def layoutVersion : UInt8 := 1
def maxNumMemories : Nat := 255

/-- The values of the source's `u16` are the naturals below this bound. -/
def u16Bound : Nat := 2 ^ 16

def maxNumBuckets : Nat := 32768
def bucketSizeInPages : UInt16 := 128
def unallocatedBucketMarker : UInt8 := 255
def bucketsOffsetInPages : Nat := 1
def bucketsOffsetInBytes : Nat := bucketsOffsetInPages * stablePageSize
def headerReservedBytes : Nat := 32
def headerSize : Nat := 3 + 1 + 2 + 2 + headerReservedBytes + 255 * 8

/-- The marker for an unallocated bucket is not a memory id. -/
abbrev MemoryId : Type := Fin maxNumMemories

def MemoryId.byte (id : MemoryId) : UInt8 := UInt8.ofNat id

/-- The raw memory behind a manager, with the environment's answers to future
requests for pages and for heap space. -/
structure Raw where
  memory : Memory
  grants : Nat → Bool
  reserves : Nat → Bool

/-- A memory that nothing was ever written to. -/
def Raw.empty (grants reserves : Nat → Bool) : Raw := ⟨Memory.empty, grants, reserves⟩

inductive MemoryManagerLayoutError where
  | allocatedBucketsExceedsMaximum
  | bucketSizeIsZero
  | bucketRangeOverflows
  | backingMemoryTruncated
  | memorySizeOverflowsBytes (id : Nat)
  | allocatedBucketHasNoOwner
  | unallocatedBucketHasOwner
  | memorySizeAndBucketsMismatch (id : Nat)
deriving DecidableEq, Repr

def MemoryManagerLayoutError.text : MemoryManagerLayoutError → String
  | allocatedBucketsExceedsMaximum => "invalid memory manager header: allocated buckets exceeds maximum"
  | bucketSizeIsZero => "invalid memory manager header: bucket size is zero"
  | bucketRangeOverflows => "invalid memory manager header: bucket range overflows"
  | backingMemoryTruncated => "invalid memory manager layout: backing memory truncated"
  | memorySizeOverflowsBytes id => s!"invalid memory manager header: memory {id} size overflows bytes"
  | allocatedBucketHasNoOwner => "invalid memory manager allocation table: allocated bucket has no owner"
  | unallocatedBucketHasOwner => "invalid memory manager allocation table: unallocated bucket has owner"
  | memorySizeAndBucketsMismatch id =>
      s!"invalid memory manager layout: memory {id} size and buckets mismatch"

inductive MemoryManagerInitError where
  | bucketSizeIsZero
  | nonMemoryManagerLayout
  | invalidLayout (reason : String)
deriving DecidableEq, Repr

abbrev RawM : Type → Type := Action Raw MemoryManagerInitError

def rawSize : RawM Nat := do
  let raw ← Action.read
  pure raw.memory.size

def rawGrow (pages : Nat) : RawM Int := fun raw =>
  let (previous, memory) := raw.memory.grow (raw.grants 0) pages
  (.ok previous, { raw with memory, grants := fun request => raw.grants (request + 1) })

/-- Every backend traps on a range past its end. -/
def rawRead (offset count : Nat) : RawM (List UInt8) := do
  let raw ← Action.read
  Action.require (offset + count ≤ raw.memory.capacity)
  pure (raw.memory.read offset count)

def rawWrite (offset : Nat) (bytes : List UInt8) : RawM Unit := do
  let raw ← Action.read
  Action.require (offset + bytes.length ≤ raw.memory.capacity)
  Action.modify fun raw => { raw with memory := raw.memory.write offset bytes }

/-- `Vec::try_reserve`. -/
def tryReserve : RawM Bool := fun raw =>
  (.ok (raw.reserves 0), { raw with reserves := fun request => raw.reserves (request + 1) })

def bucketAllocationsAddress (bucket : Nat) : Nat := headerSize + bucket

/-- `[UNALLOCATED_BUCKET_MARKER; MAX_NUM_BUCKETS]`.  Irreducible, so that
nothing unfolds it into its bytes. -/
@[irreducible] def unallocatedTable : List UInt8 := List.replicate maxNumBuckets unallocatedBucketMarker

@[simp] theorem length_unallocatedTable : unallocatedTable.length = maxNumBuckets := by
  rw [unallocatedTable, List.length_replicate]

theorem getD_unallocatedTable {slot : Nat} (inside : slot < maxNumBuckets) (filler : UInt8) :
    unallocatedTable.getD slot filler = unallocatedBucketMarker := by
  have bound : slot < unallocatedTable.length := by rwa [length_unallocatedTable]
  have member := List.getElem_mem bound
  rw [List.getD_eq_getElem _ _ bound]
  generalize unallocatedTable[slot] = entry at member
  rw [unallocatedTable] at member
  exact List.eq_of_mem_replicate member

def writeGrowing (offset : Nat) (bytes : List UInt8) : RawM Unit := do
  Action.require (offset + bytes.length < u64Bound)
  let size ← rawSize
  Action.require (size * stablePageSize < u64Bound)
  if size * stablePageSize < offset + bytes.length then do
    let pages := (offset + bytes.length - size * stablePageSize + stablePageSize - 1) / stablePageSize
    let previous ← rawGrow pages
    Action.require (0 ≤ previous)
    rawWrite offset bytes
  else rawWrite offset bytes

/-- A way to write to the raw memory. -/
abbrev RawWrite : Type := Nat → List UInt8 → RawM Unit

/-! ## The bucket cache of a handle -/

structure VirtualSegment where
  address : Nat
  length : Nat
deriving DecidableEq, Repr

def virtualSegmentContains (address length otherAddress otherLength : Nat) : Bool :=
  if u64Bound - 1 - address < length then false
  else if u64Bound - 1 - otherAddress < otherLength then false
  else address ≤ otherAddress && otherAddress + otherLength ≤ address + length

def VirtualSegment.contains (segment other : VirtualSegment) : Bool :=
  virtualSegmentContains segment.address segment.length other.address other.length

/-- The last bucket a handle went through and where it lies. -/
structure BucketCache where
  bucket : VirtualSegment
  realAddress : Nat
deriving DecidableEq, Repr

def BucketCache.new : BucketCache := ⟨⟨0, 0⟩, 0⟩

def BucketCache.get (cache : BucketCache) (segment : VirtualSegment) : Option Nat :=
  if cache.bucket.contains segment then some (cache.realAddress + (segment.address - cache.bucket.address))
  else none

/-! ## What the raw calls do -/

variable {raw : Raw}

theorem rawRead_of {offset count : Nat} (room : offset + count ≤ raw.memory.capacity) :
    rawRead offset count raw = (.ok (raw.memory.read offset count), raw) := by
  rw [rawRead, Action.read_bind_apply, Action.bind_of_ok _ (Action.require_of room)]
  rfl

theorem rawWrite_of {offset : Nat} {bytes : List UInt8} (room : offset + bytes.length ≤ raw.memory.capacity) :
    rawWrite offset bytes raw = (.ok (), { raw with memory := raw.memory.write offset bytes }) := by
  rw [rawWrite, Action.read_bind_apply, Action.bind_of_ok _ (Action.require_of room)]
  rfl

/-- Where there is room, growing is not needed. -/
theorem writeGrowing_of {offset : Nat} {bytes : List UInt8}
    (room : offset + bytes.length ≤ raw.memory.capacity) :
    writeGrowing offset bytes raw = (.ok (), { raw with memory := raw.memory.write offset bytes }) := by
  have addressable : raw.memory.pages * stablePageSize < u64Bound := raw.memory.addressable
  have fits : offset + bytes.length < u64Bound := Nat.lt_of_le_of_lt room addressable
  have sized : rawSize raw = (.ok raw.memory.pages, raw) := rfl
  have enough : ¬ raw.memory.pages * stablePageSize < offset + bytes.length := Nat.not_lt.mpr room
  rw [writeGrowing, Action.bind_of_ok _ (Action.require_of fits), Action.bind_of_ok _ sized,
    Action.bind_of_ok _ (Action.require_of addressable), if_neg enough, rawWrite_of room]

/-- The pages asked for are enough, and less than one page too many. -/
theorem missing_pages {held needed : Nat} (short : held * stablePageSize < needed) :
    needed ≤ (held + (needed - held * stablePageSize + stablePageSize - 1) / stablePageSize) * stablePageSize ∧
      (held + (needed - held * stablePageSize + stablePageSize - 1) / stablePageSize) * stablePageSize <
        needed + stablePageSize := by
  simp only [stablePageSize] at short ⊢
  omega

/-- The outcome of a `grow`, whatever answer the memory gave. -/
theorem rawGrow_answered {pages : Nat} {grown : Int × Memory}
    (answered : raw.memory.grow (raw.grants 0) pages = grown) :
    ∃ after, rawGrow pages raw = (.ok grown.1, after) ∧ after.memory = grown.2 := by
  refine ⟨{ raw with memory := grown.2, grants := fun request => raw.grants (request + 1) }, ?_, rfl⟩
  rw [rawGrow, answered]

theorem rawGrow_of_granted {pages : Nat} (granted : raw.grants 0 = true)
    (fits : (raw.memory.pages + pages) * stablePageSize < u64Bound) :
    ∃ previous after, rawGrow pages raw = (.ok previous, after) ∧ 0 ≤ previous ∧
      after.memory.pages = raw.memory.pages + pages := by
  obtain ⟨grownPages, previous⟩ := raw.memory.grow_true fits
  have answered : raw.memory.grow (raw.grants 0) pages = raw.memory.grow true pages := by rw [granted]
  obtain ⟨after, requested, same⟩ := rawGrow_answered answered
  refine ⟨_, after, requested, ?_, ?_⟩
  · rw [previous]
    exact Int.natCast_nonneg _
  · rw [same, grownPages]

/-- A growing write returns if the environment grants the pages it lacks. -/
theorem writeGrowing_granted {offset : Nat} {bytes : List UInt8} (granted : raw.grants 0 = true)
    (short : raw.memory.pages * stablePageSize < offset + bytes.length)
    (fits : offset + bytes.length + stablePageSize < u64Bound) :
    Action.Returns (writeGrowing offset bytes) raw fun _ _ => True := by
  have addressable : raw.memory.pages * stablePageSize < u64Bound := raw.memory.addressable
  have below : offset + bytes.length < u64Bound := Nat.lt_of_le_of_lt (Nat.le_add_right _ _) fits
  have sized : rawSize raw = (.ok raw.memory.pages, raw) := rfl
  obtain ⟨enough, notMuch⟩ := missing_pages short
  obtain ⟨previous, after, requested, positive, grown⟩ := rawGrow_of_granted granted (notMuch.trans fits)
  have room : offset + bytes.length ≤ after.memory.capacity := by
    rw [Memory.capacity, grown]
    exact enough
  rw [writeGrowing]
  refine Action.returns_after (Action.require_of below) (Action.returns_after sized
    (Action.returns_after (Action.require_of addressable) ?_))
  rw [if_pos short]
  exact Action.returns_after requested (Action.returns_after (Action.require_of positive)
    (Action.returns_of (rawWrite_of room) trivial))

theorem rawGrow_returned {pages : Nat} {previous : Int} {after : Raw}
    (ended : rawGrow pages raw = (.ok previous, after)) (granted : 0 ≤ previous) :
    after.memory.pages = raw.memory.pages + pages ∧ after.memory.bytes = raw.memory.bytes := by
  obtain ⟨same, rfl⟩ := Prod.mk.inj ended
  obtain rfl := Outcome.ok.inj same
  exact ⟨(raw.memory.grow_granted granted).1, raw.memory.grow_bytes _ _⟩

/-- What a growing write that returned has done, whatever room there was before. -/
theorem writeGrowing_returned {offset : Nat} {bytes : List UInt8} {value : Unit} {after : Raw}
    (ended : writeGrowing offset bytes raw = (.ok value, after)) :
    raw.memory.pages ≤ after.memory.pages ∧ offset + bytes.length ≤ after.memory.capacity ∧
      ∀ address, after.memory.bytes address =
        if offset ≤ address ∧ address < offset + bytes.length then bytes.getD (address - offset) 0
        else raw.memory.bytes address := by
  have sized : rawSize raw = (.ok raw.memory.pages, raw) := rfl
  have addressable : raw.memory.pages * stablePageSize < u64Bound := raw.memory.addressable
  rw [writeGrowing] at ended
  obtain ⟨_, start, checked, afterCheck⟩ := Action.bind_eq_ok.mp ended
  obtain ⟨_, rfl⟩ := Action.require_eq_ok.mp checked
  rw [Action.bind_of_ok _ sized, Action.bind_of_ok _ (Action.require_of addressable)] at afterCheck
  by_cases short : start.memory.pages * stablePageSize < offset + bytes.length
  · rw [if_pos short] at afterCheck
    obtain ⟨previous, grown, requested, afterGrow⟩ := Action.bind_eq_ok.mp afterCheck
    obtain ⟨_, granted, asserted, finished⟩ := Action.bind_eq_ok.mp afterGrow
    obtain ⟨succeeded, rfl⟩ := Action.require_eq_ok.mp asserted
    obtain ⟨pagesEq, bytesEq⟩ := rawGrow_returned requested succeeded
    have room : offset + bytes.length ≤ granted.memory.capacity := by
      rw [Memory.capacity, pagesEq]
      exact (missing_pages short).1
    rw [rawWrite_of room] at finished
    obtain rfl := (Prod.mk.inj finished).2
    refine ⟨?_, room, fun address => ?_⟩
    · rw [Memory.write_pages, pagesEq]
      exact Nat.le_add_right _ _
    · rw [Memory.write_bytes _ room, bytesEq]
  · rw [if_neg short, rawWrite_of (Nat.not_lt.mp short)] at afterCheck
    obtain rfl := (Prod.mk.inj afterCheck).2
    exact ⟨Nat.le_refl _, Nat.not_lt.mp short, Memory.write_bytes _ (Nat.not_lt.mp short)⟩

end IcSqliteVfs.Stable
