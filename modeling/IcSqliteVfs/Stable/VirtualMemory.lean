import IcSqliteVfs.Stable.BucketAccess
import IcSqliteVfs.Stable.MemoryManagerValidation

namespace IcSqliteVfs.Stable

open IcSqliteVfs.Data IcSqliteVfs.Semantics

/-! # Virtual memories

Handles are taken from a manager, cloned and used in any order.  The other side
of the comparison is a memory of its own for each id.
-/

/-- A clone copies the cache as it is and fills its own from then on. -/
structure VirtualMemory where
  id : MemoryId
  cache : BucketCache
deriving DecidableEq, Repr

/-- A manager and the handles taken from it. -/
structure Machine where
  manager : Manager
  handles : List VirtualMemory

/-- The calls name a handle by its place in the list. -/
inductive Call where
  | get (id : MemoryId)
  | clone (handle : Nat)
  | size (handle : Nat)
  | grow (handle pages : Nat)
  | read (handle offset count : Nat)
  | write (handle offset : Nat) (source : List UInt8)
deriving DecidableEq, Repr

inductive Answer where
  | done
  | noHandle
  | size (pages : Nat)
  | grown (previous : Int)
  | bytes (values : List UInt8)
  | panicked
deriving DecidableEq, Repr

def Answer.of {ε α : Type} (answer : α → Answer) : Outcome ε α → Answer
  | .ok value => answer value
  | _ => .panicked

namespace Machine

/-- Run a read or a write through a handle and keep what it left in the cache. -/
def access {α : Type} (machine : Machine) (index : Nat) (handle : VirtualMemory) (call : AccessM α)
    (answer : α → Answer) : Answer × Machine :=
  let (outcome, access) := call ⟨machine.manager.raw, handle.cache⟩
  (Answer.of answer outcome, {
    manager := { machine.manager with raw := access.raw }
    handles := machine.handles.set index { handle with cache := access.cache } })

def perform (machine : Machine) (index : Nat) (call : VirtualMemory → Answer × Machine) : Answer × Machine :=
  match machine.handles[index]? with
  | none => (.noHandle, machine)
  | some handle => call handle

def step (machine : Machine) : Call → Answer × Machine
  | .get id => (.done, { machine with handles := machine.handles ++ [⟨id, BucketCache.new⟩] })
  | .clone index => machine.perform index fun handle =>
      (.done, { machine with handles := machine.handles ++ [handle] })
  | .size index => machine.perform index fun handle =>
      (.size (machine.manager.inner.memorySize handle.id), machine)
  | .grow index pages => machine.perform index fun handle =>
      let (outcome, manager) := Manager.grow handle.id pages machine.manager
      (Answer.of .grown outcome, { machine with manager })
  | .read index offset count => machine.perform index fun handle =>
      machine.access index handle (machine.manager.inner.read handle.id offset count) .bytes
  | .write index offset source => machine.perform index fun handle =>
      machine.access index handle (machine.manager.inner.write handle.id offset source) fun _ => .done

def run (machine : Machine) : List Call → List Answer × Machine
  | [] => ([], machine)
  | call :: calls =>
      let (answer, next) := machine.step call
      let (answers, last) := next.run calls
      (answer :: answers, last)

end Machine

/-! ## The abstract side -/

/-- A zero-initialised growable byte array for each id, and the id of each handle. -/
structure Isolated where
  memories : MemoryId → Memory
  handles : List MemoryId

namespace Isolated

def empty : Isolated := ⟨fun _ => Memory.empty, []⟩

def perform (isolated : Isolated) (index : Nat) (call : MemoryId → Answer × Isolated) : Answer × Isolated :=
  match isolated.handles[index]? with
  | none => (.noHandle, isolated)
  | some id => call id

/-- `granted` decides whether a grow succeeds. -/
def step (granted : Bool) (isolated : Isolated) : Call → Answer × Isolated
  | .get id => (.done, { isolated with handles := isolated.handles ++ [id] })
  | .clone index => isolated.perform index fun id =>
      (.done, { isolated with handles := isolated.handles ++ [id] })
  | .size index => isolated.perform index fun id => (.size (isolated.memories id).size, isolated)
  | .grow index pages => isolated.perform index fun id =>
      let (previous, memory) := (isolated.memories id).grow granted pages
      (.grown previous, { isolated with memories := Function.update isolated.memories id memory })
  | .read index offset count => isolated.perform index fun id =>
      if count = 0 then (.bytes [], isolated)
      else if offset + count ≤ (isolated.memories id).capacity then
        (.bytes ((isolated.memories id).read offset count), isolated)
      else (.panicked, isolated)
  | .write index offset source => isolated.perform index fun id =>
      if source = [] then (.done, isolated)
      else if offset + source.length ≤ (isolated.memories id).capacity then
        (.done, { isolated with
          memories := Function.update isolated.memories id ((isolated.memories id).write offset source) })
      else (.panicked, isolated)

/-- A run under a sequence of decisions, one for each call. -/
def run (decisions : Nat → Bool) (isolated : Isolated) : List Call → List Answer × Isolated
  | [] => ([], isolated)
  | call :: calls =>
      let (answer, next) := isolated.step (decisions 0) call
      let (answers, last) := next.run (fun later => decisions (later + 1)) calls
      (answer :: answers, last)

end Isolated

/-! ## The simulation -/

/-- The memory of an id lies in its buckets: what is stored there, up to the end
of the last bucket, is what the array of its own holds. -/
structure Holds (owners : List MemoryId) (inner : MemoryManagerInner) (raw : Memory)
    (memories : MemoryId → Memory) : Prop where
  sizes : ∀ id, (memories id).pages = inner.memorySizesInPages id
  bytes : ∀ id position, position < (owned owners id).length * inner.bucketSizeInBytes →
    (memories id).bytes position = raw.bytes (inner.addressOf id position)
  /-- Buckets nobody owns yet were never written to. -/
  unused : ∀ address, bucketsOffsetInBytes + inner.bucketSizeInBytes * owners.length ≤ address →
    raw.bytes address = 0

structure Simulates (owners : List MemoryId) (machine : Machine) (isolated : Isolated) : Prop where
  laid : Laid owners machine.manager.inner machine.manager.raw.memory
  recorded : Recorded owners machine.manager.inner machine.manager.raw.memory
  holds : Holds owners machine.manager.inner machine.manager.raw.memory isolated.memories
  handles : isolated.handles = machine.handles.map VirtualMemory.id
  cached : ∀ handle ∈ machine.handles, Cached machine.manager.inner handle.id handle.cache

variable {owners : List MemoryId} {inner : MemoryManagerInner} {raw : Memory} {memories : MemoryId → Memory}
  {id : MemoryId} {offset count : Nat} {source : List UInt8} {manager : Manager}

theorem Laid.addressOf_eq (laid : Laid owners inner raw) (id : MemoryId) (position : Nat) :
    inner.addressOf id position =
      place bucketsOffsetInBytes inner.bucketSizeInBytes (owned owners id) position := by
  rw [MemoryManagerInner.addressOf, laid.buckets]

/-- Positions inside a memory lie below the buckets nobody owns. -/
theorem Laid.addressOf_lt (laid : Laid owners inner raw) {position : Nat}
    (inside : position < (owned owners id).length * inner.bucketSizeInBytes) :
    inner.addressOf id position < bucketsOffsetInBytes + inner.bucketSizeInBytes * owners.length := by
  rw [laid.addressOf_eq]
  exact place_lt laid.unitBytes inside fun _ member => lt_of_mem_owned member

/-- A write goes nowhere near the header and the table. -/
theorem Written.below {before after : Memory} (written : Written inner id offset source before after)
    {address : Nat} (low : address < bucketsOffsetInBytes) : after.bytes address = before.bytes address := by
  apply written.outside
  intro index _ same
  have high : bucketsOffsetInBytes ≤ inner.addressOf id (offset + index) := start_le_place _
  omega

theorem Recorded.written {before after : Memory} (recorded : Recorded owners inner before)
    (written : Written inner id offset source before after) : Recorded owners inner after := by
  have low : headerSize + maxNumBuckets ≤ bucketsOffsetInBytes := by decide
  constructor
  · intro address below
    rw [written.below (by omega)]
    exact recorded.header address below
  · intro slot inside
    rw [written.below (by omega)]
    exact recorded.table slot inside

theorem Holds.capacity_eq (holds : Holds owners inner raw memories) (id : MemoryId) (offset count : Nat) :
    offset + count ≤ (memories id).capacity ↔ inner.inBounds id offset count := by
  rw [Memory.capacity, holds.sizes]
  rfl

section Steps

variable (laid : Laid owners inner raw) (holds : Holds owners inner raw memories)
include laid holds

theorem Holds.read_eq (bounds : inner.inBounds id offset count) :
    (memories id).read offset count = inner.bytesAt raw id offset count := by
  have room := laid.range_room bounds
  apply List.map_congr_left
  intro index member
  have inside := List.mem_range.mp member
  exact holds.bytes id _ (by omega)

/-- A write through one id is a write to its own array and to no other. -/
theorem Holds.written {after : Memory} (written : Written inner id offset source raw after)
    (bounds : inner.inBounds id offset source.length) :
    Holds owners inner after (Function.update memories id ((memories id).write offset source)) := by
  have room := laid.range_room bounds
  have fits := (holds.capacity_eq id offset source.length).mpr bounds
  refine ⟨?_, ?_, ?_⟩
  · intro other
    rw [Function.update_apply]
    split
    · rename_i same
      rw [Memory.write_pages, holds.sizes, same]
    · exact holds.sizes other
  · intro other position inside
    rw [Function.update_apply]
    by_cases same : other = id
    · subst same
      rw [if_pos rfl, Memory.write_bytes _ fits]
      by_cases hit : offset ≤ position ∧ position < offset + source.length
      · have stored := written.inside (position - offset) (by omega)
        have back : offset + (position - offset) = position := by omega
        rw [if_pos hit, ← stored, back]
      · rw [if_neg hit, holds.bytes other position inside, written.outside]
        intro index bound equal
        rw [laid.addressOf_eq, laid.addressOf_eq] at equal
        have position := place_inj laid.unitBytes (nodup_owned owners other) inside (by omega) equal
        omega
    · rw [if_neg same, holds.bytes other position inside, written.outside]
      intro index bound equal
      rw [laid.addressOf_eq, laid.addressOf_eq] at equal
      exact place_ne same laid.unitBytes inside (by omega) equal
  · intro address past
    rw [written.outside, holds.unused address past]
    intro index bound equal
    have inside : offset + index < (owned owners id).length * inner.bucketSizeInBytes := by omega
    have below := laid.addressOf_lt inside
    omega

end Steps

/-- Growing touches nothing behind the table. -/
theorem Extended.above {pages : Nat} {after : Manager} (extended : Extended id pages count manager after)
    (room : manager.inner.allocatedBuckets + count ≤ maxNumBuckets) {address : Nat}
    (high : bucketsOffsetInBytes ≤ address) :
    after.raw.memory.bytes address = manager.raw.memory.bytes address := by
  have low : headerSize + maxNumBuckets ≤ bucketsOffsetInBytes := by decide
  rw [extended.bytes, if_neg (by omega), if_neg (by omega)]

/-- New buckets come from the part nobody wrote to, so the array grows by zeros. -/
theorem Holds.extended {pages : Nat} {after : Manager} {grown : Memory}
    (laid : Laid owners manager.inner manager.raw.memory)
    (holds : Holds owners manager.inner manager.raw.memory memories)
    (extended : Extended id pages count manager after)
    (laidAfter : Laid (owners ++ List.replicate count id) after.inner after.raw.memory)
    (grownPages : grown.pages = (memories id).pages + pages) (grownBytes : grown.bytes = (memories id).bytes) :
    Holds (owners ++ List.replicate count id) after.inner after.raw.memory (Function.update memories id grown) := by
  have unit : after.inner.bucketSizeInBytes = manager.inner.bucketSizeInBytes := by
    rw [MemoryManagerInner.bucketSizeInBytes, MemoryManagerInner.bucketSizeInBytes, extended.bucketSizeInPages]
  have room : manager.inner.allocatedBuckets + count ≤ maxNumBuckets := by
    have limit := laidAfter.limit
    rwa [List.length_append, List.length_replicate, ← laid.allocated] at limit
  have sameBytes : ∀ other position, (Function.update memories id grown other).bytes position =
      (memories other).bytes position := by
    intro other position
    rw [Function.update_apply]
    split
    · rename_i same
      rw [grownBytes, same]
    · rfl
  refine ⟨?_, ?_, ?_⟩
  · intro other
    rw [extended.memorySizesInPages, Function.update_apply, Function.update_apply]
    split
    · rw [grownPages, holds.sizes]
    · exact holds.sizes other
  · intro other position inside
    obtain ⟨more, split, fresh⟩ := owned_extended owners count id other
    rw [split, unit] at inside
    rw [sameBytes, laidAfter.addressOf_eq, split, unit, extended.above room (start_le_place _)]
    by_cases old : position < (owned owners other).length * manager.inner.bucketSizeInBytes
    · rw [place_append more old, holds.bytes other position old, laid.addressOf_eq]
    · have behind := Nat.not_lt.mp old
      have high := @le_place_append bucketsOffsetInBytes _ _ _ _ _ laid.unitBytes behind inside fresh
      rw [holds.unused _ high]
      have whole : manager.inner.inBounds other 0 (manager.inner.memorySizesInPages other * stablePageSize) :=
        (Nat.zero_add _).le
      have room := laid.range_room whole
      apply (memories other).zeroed
      rw [holds.sizes]
      omega
  · intro address past
    rw [List.length_append, unit, Nat.mul_add] at past
    rw [extended.above room (by omega)]
    exact holds.unused address (by omega)

/-! ## Steps and runs -/

/-- Both sides answered the same and are still in step. -/
def Agree (left : Answer × Machine) (right : Answer × Isolated) : Prop :=
  left.1 = right.1 ∧ ∃ owners, Simulates owners left.2 right.2

variable {machine : Machine} {isolated : Isolated} {index : Nat} {handle : VirtualMemory}

theorem Simulates.perform (simulates : Simulates owners machine isolated) (index : Nat)
    {left : VirtualMemory → Answer × Machine} {right : MemoryId → Answer × Isolated}
    (agree : ∀ handle, machine.handles[index]? = some handle → Agree (left handle) (right handle.id)) :
    Agree (machine.perform index left) (isolated.perform index right) := by
  rw [Machine.perform, Isolated.perform, simulates.handles, List.getElem?_map]
  cases found : machine.handles[index]? with
  | none => exact ⟨rfl, owners, simulates⟩
  | some handle => exact agree handle found

/-- A new handle for an id that some handle or `get` names. -/
theorem Simulates.take (simulates : Simulates owners machine isolated)
    (cached : Cached machine.manager.inner handle.id handle.cache) :
    Simulates owners { machine with handles := machine.handles ++ [handle] }
      { isolated with handles := isolated.handles ++ [handle.id] } where
  laid := simulates.laid
  recorded := simulates.recorded
  holds := simulates.holds
  handles := by
    rw [simulates.handles, List.map_append]
    rfl
  cached := by
    intro other member
    rcases List.mem_append.mp member with old | new
    · exact simulates.cached other old
    · rw [List.mem_singleton.mp new]
      exact cached

/-- What an access may change: the raw memory, the array of its id, the cache of its handle. -/
theorem Simulates.accessed {after : Raw} {cache : BucketCache} {stored : MemoryId → Memory}
    (simulates : Simulates owners machine isolated) (found : machine.handles[index]? = some handle)
    (pages : after.memory.pages = machine.manager.raw.memory.pages)
    (recorded : Recorded owners machine.manager.inner after.memory)
    (holds : Holds owners machine.manager.inner after.memory stored)
    (cached : Cached machine.manager.inner handle.id cache) :
    Simulates owners
      { manager := { machine.manager with raw := after }
        handles := machine.handles.set index { handle with cache } }
      { isolated with memories := stored } where
  laid := simulates.laid.of_pages pages
  recorded := recorded
  holds := holds
  handles := by
    rw [simulates.handles, List.map_set]
    apply List.ext_getElem?
    intro place
    rw [List.getElem?_set, List.getElem?_map]
    split
    · rename_i same
      subst same
      split
      · rw [found]
        rfl
      · rename_i outside
        rw [List.length_map] at outside
        rw [List.getElem?_eq_none (by omega)]
        rfl
    · rfl
  cached := by
    intro other member
    rcases List.mem_or_eq_of_mem_set member with old | new
    · exact simulates.cached other old
    · rw [new]
      exact cached

theorem Simulates.grow (simulates : Simulates owners machine isolated) (id : MemoryId) (pages : Nat) :
    ∃ granted, Agree
      (Answer.of .grown (Manager.grow id pages machine.manager).1,
        { machine with manager := (Manager.grow id pages machine.manager).2 })
      (.grown ((isolated.memories id).grow granted pages).1, { isolated with
        memories := Function.update isolated.memories id ((isolated.memories id).grow granted pages).2 }) := by
  rcases grow_cases simulates.laid id pages with refused | grown
  · obtain ⟨after, ended, sameInner, sameMemory⟩ := refused
    refine ⟨false, ?_⟩
    rw [ended, Memory.grow_false, Function.update_eq_self]
    refine ⟨rfl, owners, ?_⟩
    constructor
    · rw [sameInner, sameMemory]
      exact simulates.laid
    · rw [sameInner, sameMemory]
      exact simulates.recorded
    · rw [sameInner, sameMemory]
      exact simulates.holds
    · exact simulates.handles
    · rw [sameInner]
      exact simulates.cached
  · obtain ⟨count, after, ended, extended, laidAfter⟩ := grown
    have sized := congrFun extended.memorySizesInPages id
    rw [Function.update_self] at sized
    have fits : ((isolated.memories id).pages + pages) * stablePageSize < u64Bound := by
      rw [simulates.holds.sizes, ← sized]
      exact laidAfter.addressable id
    obtain ⟨grownPages, previous⟩ := (isolated.memories id).grow_true fits
    have holds := simulates.holds.extended simulates.laid extended laidAfter grownPages
      ((isolated.memories id).grow_bytes true pages)
    refine ⟨true, ?_⟩
    rw [ended, previous, simulates.holds.sizes]
    refine ⟨rfl, _, ⟨laidAfter, simulates.recorded.table.extended simulates.laid extended, holds, simulates.handles, ?_⟩⟩
    intro handle member
    refine (simulates.cached handle member).extended extended.bucketSizeInPages ?_
    obtain ⟨more, split, _⟩ := owned_extended owners count id handle.id
    rw [simulates.laid.buckets, laidAfter.buckets, split]
    exact List.prefix_append _ _

/-- An access that ends early or by unwinding changes nothing. -/
theorem Simulates.unchanged {α : Type} {call : AccessM α} {answer : α → Answer}
    {outcome : Outcome MemoryManagerInitError α} (simulates : Simulates owners machine isolated)
    (found : machine.handles[index]? = some handle)
    (ended : call ⟨machine.manager.raw, handle.cache⟩ = (outcome, ⟨machine.manager.raw, handle.cache⟩)) :
    Agree (machine.access index handle call answer) (Answer.of answer outcome, isolated) := by
  have cached := simulates.cached handle (List.mem_of_getElem? found)
  rw [Machine.access, ended]
  exact ⟨rfl, owners, simulates.accessed found rfl simulates.recorded simulates.holds cached⟩

theorem Simulates.read (simulates : Simulates owners machine isolated)
    (found : machine.handles[index]? = some handle) (offset count : Nat) :
    Agree (machine.access index handle (machine.manager.inner.read handle.id offset count) .bytes)
      (if count = 0 then (.bytes [], isolated)
      else if offset + count ≤ (isolated.memories handle.id).capacity then
        (.bytes ((isolated.memories handle.id).read offset count), isolated)
      else (.panicked, isolated)) := by
  have cached := simulates.cached handle (List.mem_of_getElem? found)
  by_cases empty : count = 0
  · subst empty
    rw [if_pos rfl]
    exact simulates.unchanged found rfl
  · rw [if_neg empty]
    by_cases bounds : machine.manager.inner.inBounds handle.id offset count
    · rw [if_pos ((simulates.holds.capacity_eq handle.id offset count).mpr bounds)]
      obtain ⟨_, ⟨_, cacheAfter⟩, ended, rfl, rfl, cachedAfter⟩ := read_of simulates.laid cached bounds
      rw [Machine.access, ended, simulates.holds.read_eq simulates.laid bounds]
      exact ⟨rfl, owners, simulates.accessed found rfl simulates.recorded simulates.holds cachedAfter⟩
    · rw [if_neg fun fits => bounds ((simulates.holds.capacity_eq handle.id offset count).mp fits)]
      exact simulates.unchanged found (read_panics empty bounds _)

theorem Simulates.write (simulates : Simulates owners machine isolated)
    (found : machine.handles[index]? = some handle) (offset : Nat) (source : List UInt8) :
    Agree (machine.access index handle (machine.manager.inner.write handle.id offset source) fun _ => .done)
      (if source = [] then (.done, isolated)
      else if offset + source.length ≤ (isolated.memories handle.id).capacity then
        (.done, { isolated with
          memories := Function.update isolated.memories handle.id
            ((isolated.memories handle.id).write offset source) })
      else (.panicked, isolated)) := by
  have cached := simulates.cached handle (List.mem_of_getElem? found)
  by_cases empty : source = []
  · subst empty
    rw [if_pos rfl]
    exact simulates.unchanged found rfl
  · rw [if_neg empty]
    by_cases bounds : machine.manager.inner.inBounds handle.id offset source.length
    · rw [if_pos ((simulates.holds.capacity_eq handle.id offset source.length).mpr bounds)]
      obtain ⟨_, after, ended, written, cachedAfter⟩ := write_of simulates.laid cached bounds
      rw [Machine.access, ended]
      exact ⟨rfl, owners, simulates.accessed found written.pages (simulates.recorded.written written)
        (simulates.holds.written simulates.laid written bounds) cachedAfter⟩
    · rw [if_neg fun fits => bounds ((simulates.holds.capacity_eq handle.id offset source.length).mp fits)]
      exact simulates.unchanged found (write_panics empty bounds _)

/-- Every call keeps the two sides in step, for the right decision. -/
theorem Simulates.step (simulates : Simulates owners machine isolated) (call : Call) :
    ∃ granted, Agree (machine.step call) (isolated.step granted call) := by
  cases call with
  | get id => exact ⟨true, rfl, owners, simulates.take (cached_new _ id)⟩
  | clone index =>
      refine ⟨true, simulates.perform index fun handle found => ⟨rfl, owners, ?_⟩⟩
      exact simulates.take (simulates.cached handle (List.mem_of_getElem? found))
  | size index =>
      refine ⟨true, simulates.perform index fun handle _ => ⟨?_, owners, simulates⟩⟩
      exact congrArg Answer.size (simulates.holds.sizes handle.id).symm
  | grow index pages =>
      cases found : machine.handles[index]? with
      | none =>
          refine ⟨true, simulates.perform index fun handle impossible => ?_⟩
          rw [found] at impossible
          cases impossible
      | some handle =>
          obtain ⟨granted, agree⟩ := simulates.grow handle.id pages
          refine ⟨granted, simulates.perform index fun other same => ?_⟩
          rw [found] at same
          cases same
          exact agree
  | read index offset count =>
      exact ⟨true, simulates.perform index fun handle found => simulates.read found offset count⟩
  | write index offset source =>
      exact ⟨true, simulates.perform index fun handle found => simulates.write found offset source⟩

/-- One decision before others. -/
def decideFirst (granted : Bool) (decisions : Nat → Bool) : Nat → Bool
  | 0 => granted
  | later + 1 => decisions later

/-- A whole run answers as the memories of their own do. -/
theorem Simulates.run (calls : List Call) :
    ∀ {owners : List MemoryId} {machine : Machine} {isolated : Isolated}, Simulates owners machine isolated →
      ∃ decisions, (machine.run calls).1 = (isolated.run decisions calls).1 ∧
        ∃ owners, Simulates owners (machine.run calls).2 (isolated.run decisions calls).2 := by
  induction calls with
  | nil =>
      intro owners machine isolated simulates
      exact ⟨fun _ => true, rfl, owners, simulates⟩
  | cons call calls ih =>
      intro owners machine isolated simulates
      obtain ⟨granted, sameAnswer, ownersAfter, next⟩ := simulates.step call
      obtain ⟨decisions, sameAnswers, last⟩ := ih next
      exact ⟨decideFirst granted decisions, congrArg₂ List.cons sameAnswer sameAnswers, last⟩

/-! ## A manager over an empty raw memory -/

inductive SetUp (bucketSize : UInt16) (grants reserves : Nat → Bool) (manager : Manager) : Prop where
  | init (ended : MemoryManager.initWithBucketSize bucketSize (Raw.empty grants reserves) =
      (.ok manager.inner, manager.raw))
  | initStrict (ended : MemoryManager.initStrictWithBucketSize bucketSize (Raw.empty grants reserves) =
      (.ok manager.inner, manager.raw))

variable {bucketSize : UInt16} {grants reserves : Nat → Bool}

theorem SetUp.isNew (setUp : SetUp bucketSize grants reserves manager) :
    bucketSize ≠ 0 ∧
      MemoryManagerInner.new bucketSize (Raw.empty grants reserves) = (.ok manager.inner, manager.raw) := by
  cases setUp with
  | init ended =>
      rw [MemoryManager.initWithBucketSize] at ended
      split at ended
      · cases ended
      · exact ⟨‹_›, ended⟩
  | initStrict ended =>
      rw [MemoryManager.initStrictWithBucketSize] at ended
      split at ended
      · cases ended
      · exact ⟨‹_›, ended⟩

theorem SetUp.simulates (setUp : SetUp bucketSize grants reserves manager) :
    Simulates [] ⟨manager, []⟩ Isolated.empty := by
  obtain ⟨nonzero, ended⟩ := setUp.isNew
  obtain ⟨fresh, laid, recorded, _, above⟩ := new_returned nonzero ended
  refine ⟨laid, recorded, ⟨fun id => ?_, fun id position impossible => ?_, fun address high => ?_⟩, rfl, by simp⟩
  · rw [fresh]
    rfl
  · simp at impossible
  · have low : headerSize + maxNumBuckets ≤ bucketsOffsetInBytes := by decide
    rw [above address (by omega)]
    rfl

/-- With the pages granted a manager comes up. -/
theorem setUp_granted (nonzero : bucketSize ≠ 0) (reserves : Nat → Bool) :
    ∃ manager, SetUp bucketSize (fun _ => true) reserves manager := by
  have none : (Raw.empty (fun _ => true) reserves).memory.pages = 0 := rfl
  have created : Action.Returns (MemoryManagerInner.new bucketSize) (Raw.empty (fun _ => true) reserves)
      fun _ _ => True := by
    have table : Action.Returns (writeGrowing (bucketAllocationsAddress 0) unallocatedTable)
        (Raw.empty (fun _ => true) reserves) fun _ _ => True := by
      apply writeGrowing_granted rfl
      · rw [none, length_unallocatedTable]
        decide
      · rw [length_unallocatedTable]
        decide
    obtain ⟨_, after, written, _⟩ := table
    obtain ⟨_, room, _⟩ := writeGrowing_returned written
    rw [length_unallocatedTable, bucketAllocationsAddress] at room
    refine Action.returns_after written (Action.returns_after (writeGrowing_of ?_) (Action.returns_pure trivial))
    rw [MemoryManagerInner.length_header]
    omega
  obtain ⟨inner, raw, ended, _⟩ := created
  refine ⟨⟨inner, raw⟩, .init ?_⟩
  rw [MemoryManager.initWithBucketSize, if_neg nonzero]
  exact ended

/-- A write, whether it ends well or not, leaves the header and the table alone. -/
theorem Simulates.write_below (simulates : Simulates owners machine isolated) (index offset : Nat)
    (source : List UInt8) {address : Nat} (low : address < bucketsOffsetInBytes) :
    (machine.step (.write index offset source)).2.manager.raw.memory.bytes address =
      machine.manager.raw.memory.bytes address := by
  rw [Machine.step, Machine.perform]
  cases found : machine.handles[index]? with
  | none => rfl
  | some handle =>
      have cached := simulates.cached handle (List.mem_of_getElem? found)
      dsimp only
      by_cases empty : source = []
      · subst empty
        rfl
      · by_cases bounds : machine.manager.inner.inBounds handle.id offset source.length
        · obtain ⟨_, after, ended, written, _⟩ := write_of simulates.laid cached bounds
          rw [Machine.access, ended]
          exact written.below low
        · rw [Machine.access, write_panics empty bounds]

/-- On the abstract side a write changes the array of its id only. -/
theorem Isolated.write_other (isolated : Isolated) (granted : Bool) {index : Nat} (offset : Nat)
    (source : List UInt8) {other : MemoryId} (found : isolated.handles[index]? = some id) (apart : other ≠ id) :
    (isolated.step granted (.write index offset source)).2.handles = isolated.handles ∧
      (isolated.step granted (.write index offset source)).2.memories other = isolated.memories other := by
  rw [Isolated.step, Isolated.perform, found]
  dsimp only
  split
  · exact ⟨rfl, rfl⟩
  · split
    · exact ⟨rfl, Function.update_of_ne apart _ _⟩
    · exact ⟨rfl, rfl⟩

theorem Isolated.read_congr {first second : Isolated} {granted later : Bool} {other : Nat} (start count : Nat)
    (inFirst : first.handles[index]? = some id) (inSecond : second.handles[other]? = some id)
    (same : first.memories id = second.memories id) :
    (first.step granted (.read index start count)).1 = (second.step later (.read other start count)).1 := by
  simp only [Isolated.step, Isolated.perform, inFirst, inSecond, same]
  split
  · rfl
  · split
    · rfl
    · rfl

/-- A write through one id changes no answer to a read through another. -/
theorem Simulates.write_other (simulates : Simulates owners machine isolated) {writer reader : Nat}
    {handle other : VirtualMemory} (writes : machine.handles[writer]? = some handle)
    (reads : machine.handles[reader]? = some other) (apart : other.id ≠ handle.id) (offset : Nat)
    (source : List UInt8) (start count : Nat) :
    ((machine.step (.write writer offset source)).2.step (.read reader start count)).1 =
      (machine.step (.read reader start count)).1 := by
  obtain ⟨granted, _, ownersAfter, after⟩ := simulates.step (.write writer offset source)
  obtain ⟨_, sameAfter, _⟩ := after.step (.read reader start count)
  obtain ⟨_, sameBefore, _⟩ := simulates.step (.read reader start count)
  have writesId : isolated.handles[writer]? = some handle.id := by
    rw [simulates.handles, List.getElem?_map, writes]
    rfl
  have readsId : isolated.handles[reader]? = some other.id := by
    rw [simulates.handles, List.getElem?_map, reads]
    rfl
  obtain ⟨sameHandles, sameMemory⟩ := isolated.write_other granted offset source writesId apart
  rw [sameAfter, sameBefore]
  exact Isolated.read_congr start count (by rw [sameHandles, readsId]) readsId sameMemory

/-- Whatever calls are made through whatever handles, every answer is that of a
memory of its own for each id; and a write leaves the header, the table and
what is read through other ids as they were. -/
theorem manager_isolates_virtual_memories (setUp : SetUp bucketSize grants reserves manager)
    (calls : List Call) :
    (∃ decisions, (Machine.run ⟨manager, []⟩ calls).1 = (Isolated.run decisions .empty calls).1) ∧
      ∀ machine, machine = (Machine.run ⟨manager, []⟩ calls).2 → ∀ writer offset source,
        (∀ address, address < headerSize + maxNumBuckets →
          (machine.step (.write writer offset source)).2.manager.raw.memory.bytes address =
            machine.manager.raw.memory.bytes address) ∧
        ∀ handle reader other, machine.handles[writer]? = some handle → machine.handles[reader]? = some other →
          other.id ≠ handle.id → ∀ start count,
            ((machine.step (.write writer offset source)).2.step (.read reader start count)).1 =
              (machine.step (.read reader start count)).1 := by
  obtain ⟨decisions, sameAnswers, owners, simulates⟩ := Simulates.run calls setUp.simulates
  refine ⟨⟨decisions, sameAnswers⟩, ?_⟩
  rintro _ rfl writer offset source
  refine ⟨fun address low => ?_, fun handle reader other writes reads apart start count => ?_⟩
  · have inFront : headerSize + maxNumBuckets ≤ bucketsOffsetInBytes := by decide
    exact simulates.write_below writer offset source (by omega)
  · exact simulates.write_other writes reads apart offset source start count

theorem manager_isolates_two_memories :
    ∃ manager, SetUp 128 (fun _ => true) (fun _ => true) manager ∧
      ∀ calls, calls = [Call.get ⟨0, by decide⟩, .get ⟨1, by decide⟩, .grow 0 1, .grow 1 2, .clone 0,
          .write 2 5 [7], .read 1 5 1, .read 0 4 3] →
        ∃ decisions, (Machine.run ⟨manager, []⟩ calls).1 = (Isolated.run decisions .empty calls).1 := by
  have nonzero : (128 : UInt16) ≠ 0 := by decide
  obtain ⟨manager, setUp⟩ := setUp_granted nonzero fun _ => true
  exact ⟨manager, setUp, fun calls _ => (manager_isolates_virtual_memories setUp calls).1⟩

end IcSqliteVfs.Stable
