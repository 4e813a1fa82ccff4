import IcSqliteVfs.Data.Frames
import IcSqliteVfs.Stable.MemoryManager

namespace IcSqliteVfs.Stable

open IcSqliteVfs.Data IcSqliteVfs.Semantics

/-! # What growing does to the layout -/

namespace MemoryManagerInner

@[simp] theorem length_headerChunks (inner : MemoryManagerInner) : inner.headerChunks.length = 260 := by
  rw [headerChunks, List.length_append, List.length_cons, List.length_replicate, List.length_map,
    List.length_finRange]
  rfl

theorem headerChunks_width (inner : MemoryManagerInner) : ∀ chunk ∈ inner.headerChunks, chunk.length = 8 := by
  intro chunk member
  rw [headerChunks, List.mem_append, List.mem_cons] at member
  rcases member with (rfl | reserved) | sized
  · simp [managerMagic]
  · rw [List.eq_of_mem_replicate reserved, List.length_replicate]
  · obtain ⟨id, _, rfl⟩ := List.mem_map.mp sized
    exact length_leBytes _ _

@[simp] theorem length_header (inner : MemoryManagerInner) : inner.header.length = headerSize := by
  rw [header, length_flatten_of_widths inner.headerChunks_width, length_headerChunks]
  rfl

end MemoryManagerInner

/-- The in-memory tables of a manager against the slots handed out so far. -/
structure Laid (owners : List MemoryId) (inner : MemoryManagerInner) (memory : Memory) : Prop where
  allocated : inner.allocatedBuckets = owners.length
  limit : owners.length ≤ maxNumBuckets
  unit : 0 < inner.bucketSizeInPages
  unitLimit : inner.bucketSizeInPages < u16Bound
  buckets : ∀ id, inner.memoryBuckets id = owned owners id
  sizes : ∀ id, inner.numBucketsNeeded (inner.memorySizesInPages id) = (owned owners id).length
  pages : bucketsOffsetInPages + inner.bucketSizeInPages * owners.length ≤ memory.pages

theorem header_table_room {memory : Memory} (pages : bucketsOffsetInPages ≤ memory.pages) :
    headerSize + maxNumBuckets ≤ memory.capacity := by
  have below : headerSize + maxNumBuckets ≤ bucketsOffsetInPages * stablePageSize := by decide
  exact below.trans (Nat.mul_le_mul_right _ pages)

variable {owners : List MemoryId} {inner : MemoryManagerInner} {memory : Memory} {manager : Manager}

theorem Laid.offsetPages (laid : Laid owners inner memory) : bucketsOffsetInPages ≤ memory.pages :=
  (Nat.le_add_right _ _).trans laid.pages

/-! ## Handing out buckets -/

/-- Buckets handed out to one memory: the tables and the bytes they leave. -/
structure Allocated (id : MemoryId) (count : Nat) (before after : Manager) : Prop where
  bucketSizeInPages : after.inner.bucketSizeInPages = before.inner.bucketSizeInPages
  memorySizesInPages : after.inner.memorySizesInPages = before.inner.memorySizesInPages
  allocatedBuckets : after.inner.allocatedBuckets = before.inner.allocatedBuckets + count
  pages : after.raw.memory.pages = before.raw.memory.pages
  bytes : ∀ address, after.raw.memory.bytes address =
    if headerSize + before.inner.allocatedBuckets ≤ address ∧
      address < headerSize + before.inner.allocatedBuckets + count then id.byte
    else before.raw.memory.bytes address
  buckets : ∀ owners : List MemoryId, before.inner.allocatedBuckets = owners.length →
    (∀ other, before.inner.memoryBuckets other = owned owners other) →
    ∀ other, after.inner.memoryBuckets other = owned (owners ++ List.replicate count id) other

theorem allocated_none (id : MemoryId) (manager : Manager) : Allocated id 0 manager manager := by
  refine ⟨rfl, rfl, rfl, rfl, ?_, ?_⟩
  · intro address
    exact (if_neg (by omega)).symm
  · intro owners _ buckets other
    rw [List.replicate_zero, List.append_nil]
    exact buckets other

theorem onRaw_of {α : Type} {call : RawM α} {outcome : Outcome MemoryManagerInitError α} {raw after : Raw}
    (ended : call raw = (outcome, after)) : onRaw call ⟨inner, raw⟩ = (outcome, ⟨inner, after⟩) := by
  simp [onRaw, Action.zoom, ended]

theorem onManager_of {α : Type} {call : ManagerM α} {outcome : Outcome MemoryManagerInitError α}
    {after : Manager} {rollback : List Nat} (ended : call manager = (outcome, after)) :
    onManager call ⟨manager, rollback⟩ = (outcome, ⟨after, rollback⟩) := by
  simp [onManager, Action.zoom, ended]

theorem modifyInner_of (update : MemoryManagerInner → MemoryManagerInner) (raw : Raw) (rollback : List Nat) :
    onManager (modifyInner update) ⟨⟨inner, raw⟩, rollback⟩ = (.ok (), ⟨⟨update inner, raw⟩, rollback⟩) := rfl

/-- The manager after one bucket was handed out. -/
def withBucket (id : MemoryId) (manager : Manager) : Manager where
  inner := { manager.inner with
    memoryBuckets := Function.update manager.inner.memoryBuckets id
      (manager.inner.memoryBuckets id ++ [manager.inner.allocatedBuckets])
    allocatedBuckets := manager.inner.allocatedBuckets + 1 }
  raw := { manager.raw with
    memory := manager.raw.memory.write (bucketAllocationsAddress manager.inner.allocatedBuckets) [id.byte] }

theorem pushBucket_of {id : MemoryId} {bucket : Nat} {raw : Raw} {rollback : List Nat}
    (fits : bucketAllocationsAddress bucket + [id.byte].length ≤ raw.memory.capacity)
    (small : bucket + 1 < u16Bound) :
    pushBucket writeGrowing id bucket ⟨⟨inner, raw⟩, rollback⟩ =
      (.ok (), ⟨⟨{ inner with
        memoryBuckets := Function.update inner.memoryBuckets id (inner.memoryBuckets id ++ [bucket])
        allocatedBuckets := bucket + 1 },
        { raw with memory := raw.memory.write (bucketAllocationsAddress bucket) [id.byte] }⟩,
        rollback ++ [bucket]⟩) := by
  rw [pushBucket, Action.bind_of_ok _ (modifyInner_of _ _ _),
    Action.bind_of_ok _ (onManager_of (onRaw_of (writeGrowing_of fits))), Action.modify_bind_apply,
    Action.bind_of_ok _ (Action.require_of small), modifyInner_of]

theorem allocateBucket_eq {id : MemoryId} {allocation : Allocation}
    (fits : bucketAllocationsAddress allocation.manager.inner.allocatedBuckets + [id.byte].length ≤
      allocation.manager.raw.memory.capacity)
    (small : allocation.manager.inner.allocatedBuckets + 1 < u16Bound) :
    allocateBucket writeGrowing id allocation = (.ok (), ⟨withBucket id allocation.manager,
      allocation.rollback ++ [allocation.manager.inner.allocatedBuckets]⟩) :=
  pushBucket_of fits small

theorem allocated_withBucket (id : MemoryId)
    (fits : bucketAllocationsAddress manager.inner.allocatedBuckets + [id.byte].length ≤
      manager.raw.memory.capacity) : Allocated id 1 manager (withBucket id manager) := by
  refine ⟨rfl, rfl, rfl, rfl, ?_, ?_⟩
  · intro address
    have range : (bucketAllocationsAddress manager.inner.allocatedBuckets ≤ address ∧
        address < bucketAllocationsAddress manager.inner.allocatedBuckets + [id.byte].length) =
          (headerSize + manager.inner.allocatedBuckets ≤ address ∧
            address < headerSize + manager.inner.allocatedBuckets + 1) := by
      rw [bucketAllocationsAddress, List.length_singleton]
    refine (Memory.write_bytes _ fits address).trans (ite_congr range (fun here => ?_) fun _ => rfl)
    have first : address - bucketAllocationsAddress manager.inner.allocatedBuckets = 0 := by
      rw [bucketAllocationsAddress]
      omega
    rw [first, List.getD_cons_zero]
  · intro owners count buckets other
    change Function.update manager.inner.memoryBuckets id
      (manager.inner.memoryBuckets id ++ [manager.inner.allocatedBuckets]) other = _
    rw [List.replicate_one, owned_concat, count, Function.update_apply]
    by_cases same : other = id
    · subst same
      rw [if_pos rfl, if_pos rfl, buckets]
    · rw [if_neg same, if_neg (Ne.symm same), buckets]

theorem Allocated.next {id : MemoryId} {count : Nat} {before middle after : Manager}
    (first : Allocated id 1 before middle) (rest : Allocated id count middle after) :
    Allocated id (count + 1) before after where
  bucketSizeInPages := rest.bucketSizeInPages.trans first.bucketSizeInPages
  memorySizesInPages := rest.memorySizesInPages.trans first.memorySizesInPages
  allocatedBuckets := by
    rw [rest.allocatedBuckets, first.allocatedBuckets]
    omega
  pages := rest.pages.trans first.pages
  bytes := by
    intro address
    rw [rest.bytes, first.bytes, first.allocatedBuckets]
    by_cases later : headerSize + (before.inner.allocatedBuckets + 1) ≤ address ∧
        address < headerSize + (before.inner.allocatedBuckets + 1) + count
    · rw [if_pos later, if_pos (by omega)]
    · by_cases now : headerSize + before.inner.allocatedBuckets ≤ address ∧
          address < headerSize + before.inner.allocatedBuckets + 1
      · rw [if_neg later, if_pos now, if_pos (by omega)]
      · rw [if_neg later, if_neg now, if_neg (by omega)]
  buckets := by
    intro owners length buckets other
    have one := first.buckets owners length buckets
    have grown : middle.inner.allocatedBuckets = (owners ++ List.replicate 1 id).length := by
      rw [first.allocatedBuckets, length, List.length_append, List.length_replicate]
    rw [rest.buckets _ grown one other, List.append_assoc, ← List.replicate_add, Nat.add_comm]

theorem allocateBuckets_of (id : MemoryId) (count : Nat) (allocation : Allocation)
    (pages : bucketsOffsetInPages ≤ allocation.manager.raw.memory.pages)
    (room : allocation.manager.inner.allocatedBuckets + count ≤ maxNumBuckets) :
    Action.Returns (allocateBuckets writeGrowing id count) allocation fun _ after =>
      Allocated id count allocation.manager after.manager := by
  induction count generalizing allocation with
  | zero => exact Action.returns_pure (allocated_none id _)
  | succ count ih =>
      have space := header_table_room pages
      have fits : bucketAllocationsAddress allocation.manager.inner.allocatedBuckets + [id.byte].length ≤
          allocation.manager.raw.memory.capacity := by
        simp only [bucketAllocationsAddress, List.length_singleton]
        omega
      have small : allocation.manager.inner.allocatedBuckets + 1 < u16Bound := by
        simp only [maxNumBuckets, u16Bound] at room ⊢
        omega
      have first := allocated_withBucket id fits
      refine Action.returns_after (allocateBucket_eq fits small) ((ih _ ?_ ?_).imp ?_)
      · rw [first.pages]
        exact pages
      · rw [first.allocatedBuckets]
        omega
      · intro _ after rest
        exact first.next rest

/-! ## Growing a memory -/

/-- A memory grew by some pages, with this many new buckets under them. -/
structure Extended (id : MemoryId) (pages count : Nat) (before after : Manager) : Prop where
  bucketSizeInPages : after.inner.bucketSizeInPages = before.inner.bucketSizeInPages
  memorySizesInPages : after.inner.memorySizesInPages =
    Function.update before.inner.memorySizesInPages id (before.inner.memorySizesInPages id + pages)
  pages : before.raw.memory.pages ≤ after.raw.memory.pages
  bytes : ∀ address, after.raw.memory.bytes address =
    if address < headerSize then after.inner.header.getD address 0
    else if headerSize + before.inner.allocatedBuckets ≤ address ∧
      address < headerSize + before.inner.allocatedBuckets + count then id.byte
    else before.raw.memory.bytes address

theorem ensureRawPages_cases (pagesNeeded : Nat) (raw : Raw) :
    (∃ after, ensureRawPages pagesNeeded raw = (.ok true, after) ∧ after.memory.bytes = raw.memory.bytes ∧
      raw.memory.pages ≤ after.memory.pages ∧ pagesNeeded ≤ after.memory.pages) ∨
    (∃ after, ensureRawPages pagesNeeded raw = (.ok false, after) ∧ after.memory = raw.memory) := by
  have sized : rawSize raw = (.ok raw.memory.pages, raw) := rfl
  rw [ensureRawPages, Action.bind_of_ok _ sized]
  by_cases missing : raw.memory.pages < pagesNeeded
  · have requested : rawGrow (pagesNeeded - raw.memory.pages) raw =
        (.ok (raw.memory.grow (raw.grants 0) (pagesNeeded - raw.memory.pages)).1, { raw with
          memory := (raw.memory.grow (raw.grants 0) (pagesNeeded - raw.memory.pages)).2
          grants := fun request => raw.grants (request + 1) }) := rfl
    rw [if_pos missing, Action.bind_of_ok _ requested]
    by_cases refused : (raw.memory.grow (raw.grants 0) (pagesNeeded - raw.memory.pages)).1 < 0
    · rw [decide_eq_false (Int.not_le.mpr refused)]
      exact .inr ⟨_, rfl, (raw.memory.grow_refused refused).1⟩
    · have granted := (raw.memory.grow_granted (Int.not_lt.mp refused)).1
      rw [decide_eq_true (Int.not_lt.mp refused)]
      refine .inl ⟨_, rfl, raw.memory.grow_bytes _ _, ?_, ?_⟩
      · rw [granted]
        omega
      · rw [granted]
        omega
  · rw [if_neg missing]
    exact .inl ⟨raw, rfl, rfl, Nat.le_refl _, Nat.not_lt.mp missing⟩

theorem recordSize_of {id : MemoryId} {newSize : Nat} {allocation : Allocation}
    (pages : bucketsOffsetInPages ≤ allocation.manager.raw.memory.pages) :
    Action.Returns (recordSize writeGrowing id newSize) allocation fun _ after =>
      after.manager.inner = { allocation.manager.inner with
        memorySizesInPages := Function.update allocation.manager.inner.memorySizesInPages id newSize } ∧
      after.manager.raw.memory =
        allocation.manager.raw.memory.write 0 after.manager.inner.header := by
  obtain ⟨⟨inner, raw⟩, rollback⟩ := allocation
  have space : headerSize + maxNumBuckets ≤ raw.memory.capacity := header_table_room pages
  have fits : ∀ manager : MemoryManagerInner, 0 + manager.header.length ≤ raw.memory.capacity := by
    intro manager
    rw [MemoryManagerInner.length_header]
    omega
  rw [recordSize]
  refine Action.returns_after (modifyInner_of _ _ _) ?_
  exact Action.returns_of (onManager_of (onRaw_of (writeGrowing_of (fits _)))) ⟨rfl, rfl⟩

/-- Handing out the buckets and recording the size cannot fail once the raw
pages are there, so the rollback guard never fires. -/
theorem allocate_of {id : MemoryId} {count newSize : Nat}
    (pages : bucketsOffsetInPages ≤ manager.raw.memory.pages)
    (room : manager.inner.allocatedBuckets + count ≤ maxNumBuckets) :
    Action.Returns (withRollback do
      allocateBuckets writeGrowing id count
      recordSize writeGrowing id newSize) manager fun _ after =>
        ∃ middle, Allocated id count manager middle ∧
          after.inner = { middle.inner with
            memorySizesInPages := Function.update middle.inner.memorySizesInPages id newSize } ∧
          after.raw.memory = middle.raw.memory.write 0 after.inner.header := by
  have ran : Action.Returns (do
      allocateBuckets writeGrowing id count
      recordSize writeGrowing id newSize) (⟨manager, []⟩ : Allocation) fun _ after =>
        ∃ middle, Allocated id count manager middle ∧
          after.manager.inner = { middle.inner with
            memorySizesInPages := Function.update middle.inner.memorySizesInPages id newSize } ∧
          after.manager.raw.memory = middle.raw.memory.write 0 after.manager.inner.header := by
    refine Action.Returns.bind (allocateBuckets_of id count ⟨manager, []⟩ pages room) ?_
    intro _ middle allocated
    have kept : bucketsOffsetInPages ≤ middle.manager.raw.memory.pages := by
      rw [allocated.pages]
      exact pages
    exact (recordSize_of kept).imp fun _ after recorded => ⟨middle.manager, allocated, recorded⟩
  obtain ⟨_, after, ended, holds⟩ := ran
  refine ⟨(), after.manager, ?_, holds⟩
  rw [withRollback, ended]

theorem numBucketsNeeded_mono (inner : MemoryManagerInner) {few many : Nat} (more : few ≤ many) :
    inner.numBucketsNeeded few ≤ inner.numBucketsNeeded many :=
  Nat.div_le_div_right (by omega)

theorem le_numBucketsNeeded_mul (inner : MemoryManagerInner) (unit : 0 < inner.bucketSizeInPages) (pages : Nat) :
    pages ≤ inner.numBucketsNeeded pages * inner.bucketSizeInPages := by
  have rounded := Nat.div_add_mod (pages + inner.bucketSizeInPages - 1) inner.bucketSizeInPages
  have remainder := Nat.mod_lt (pages + inner.bucketSizeInPages - 1) unit
  rw [MemoryManagerInner.numBucketsNeeded, Nat.mul_comm]
  omega

theorem length_owned_le (owners : List MemoryId) (id : MemoryId) : (owned owners id).length ≤ owners.length := by
  have filtered := List.length_filter_le (fun slot => decide (owners[slot]? = some id)) (List.range owners.length)
  rwa [List.length_range] at filtered

/-- A memory fits into the buckets it owns. -/
theorem Laid.size_le (laid : Laid owners inner memory) (id : MemoryId) :
    inner.memorySizesInPages id ≤ (owned owners id).length * inner.bucketSizeInPages := by
  rw [← laid.sizes id]
  exact le_numBucketsNeeded_mul inner laid.unit _

theorem Laid.addressable (laid : Laid owners inner memory) (id : MemoryId) :
    inner.memorySizesInPages id * stablePageSize < u64Bound := by
  have few : (owned owners id).length ≤ maxNumBuckets := (length_owned_le owners id).trans laid.limit
  have size : inner.memorySizesInPages id ≤ maxNumBuckets * u16Bound :=
    (laid.size_le id).trans (Nat.mul_le_mul few laid.unitLimit.le)
  simp only [maxNumBuckets, stablePageSize, u16Bound, u64Bound] at size ⊢
  omega

/-- The environment refuses and nothing changes, or the buckets are handed out. -/
theorem growBuckets_cases {id : MemoryId} {newSize count : Nat} {raw : Raw}
    (offsetPages : bucketsOffsetInPages ≤ raw.memory.pages)
    (room : inner.allocatedBuckets + count ≤ maxNumBuckets) :
    (∃ after, growBuckets writeGrowing id newSize count ⟨inner, raw⟩ = (.ok false, after) ∧ after.inner = inner ∧
      after.raw.memory = raw.memory) ∨
    (∃ grown after middle, growBuckets writeGrowing id newSize count ⟨inner, raw⟩ = (.ok true, after) ∧
      grown.memory.bytes = raw.memory.bytes ∧ raw.memory.pages ≤ grown.memory.pages ∧
      bucketsOffsetInPages + inner.bucketSizeInPages * (count + inner.allocatedBuckets) ≤ grown.memory.pages ∧
      Allocated id count ⟨inner, grown⟩ middle ∧
      after.inner = { middle.inner with
        memorySizesInPages := Function.update middle.inner.memorySizesInPages id newSize } ∧
      after.raw.memory = middle.raw.memory.write 0 after.inner.header) := by
  have reserve : ∀ raw : Raw, tryReserve raw =
      (.ok (raw.reserves 0), { raw with reserves := fun request => raw.reserves (request + 1) }) := fun _ => rfl
  rw [growBuckets, Action.read_bind_apply, Action.bind_of_ok _ (onRaw_of (reserve raw))]
  by_cases first : raw.reserves 0 = true
  · rw [if_neg (not_not.mpr first), Action.bind_of_ok _ (onRaw_of (reserve _))]
    by_cases second : raw.reserves 1 = true
    · rw [if_neg (not_not.mpr second)]
      by_cases overflow : u64Bound ≤ inner.bucketSizeInPages * (count + inner.allocatedBuckets) ∨
          u64Bound ≤ bucketsOffsetInPages + inner.bucketSizeInPages * (count + inner.allocatedBuckets)
      · simp only [if_pos overflow]
        exact .inl ⟨_, rfl, rfl, rfl⟩
      · simp only [if_neg overflow]
        rcases ensureRawPages_cases
            (bucketsOffsetInPages + inner.bucketSizeInPages * (count + inner.allocatedBuckets))
            { raw with reserves := fun request => raw.reserves (request + 1 + 1) } with granted | refused
        · obtain ⟨grown, ended, bytes, more, enough⟩ := granted
          rw [Action.bind_of_ok _ (onRaw_of ended), if_neg (not_not.mpr rfl)]
          obtain ⟨_, after, allocated, middle, holds, innerEq, memoryEq⟩ :=
            @allocate_of ⟨inner, grown⟩ id count newSize (offsetPages.trans more) room
          refine .inr ⟨grown, after, middle, ?_, bytes, more, enough, holds, innerEq, memoryEq⟩
          rw [Action.bind_of_ok _ allocated]
          rfl
        · obtain ⟨after, ended, same⟩ := refused
          rw [Action.bind_of_ok _ (onRaw_of ended), if_pos (by simp)]
          exact .inl ⟨_, rfl, rfl, same⟩
    · rw [if_pos second]
      exact .inl ⟨_, rfl, rfl, rfl⟩
  · rw [if_pos first]
    exact .inl ⟨_, rfl, rfl, rfl⟩

theorem header_bytes {memory : Memory} (pages : bucketsOffsetInPages ≤ memory.pages) (inner : MemoryManagerInner)
    (address : Nat) :
    (memory.write 0 inner.header).bytes address =
      if address < headerSize then inner.header.getD address 0 else memory.bytes address := by
  have space := header_table_room pages
  have fits : 0 + inner.header.length ≤ memory.capacity := by
    rw [MemoryManagerInner.length_header]
    omega
  rw [Memory.write_bytes _ fits, MemoryManagerInner.length_header, Nat.zero_add, Nat.sub_zero]
  by_cases below : address < headerSize
  · rw [if_pos ⟨Nat.zero_le _, below⟩, if_pos below]
  · rw [if_neg (fun both => below both.2), if_neg below]

/-- Handing out the missing buckets keeps the tables in step. -/
theorem Laid.extended {id : MemoryId} {pages count : Nat} {grown middle after : Manager}
    (laid : Laid owners manager.inner manager.raw.memory)
    (countEq : count = manager.inner.numBucketsNeeded (manager.inner.memorySizesInPages id + pages) -
      manager.inner.numBucketsNeeded (manager.inner.memorySizesInPages id))
    (room : manager.inner.allocatedBuckets + count ≤ maxNumBuckets)
    (sameInner : grown.inner = manager.inner) (bytes : grown.raw.memory.bytes = manager.raw.memory.bytes)
    (more : manager.raw.memory.pages ≤ grown.raw.memory.pages)
    (enough : bucketsOffsetInPages + manager.inner.bucketSizeInPages * (count + manager.inner.allocatedBuckets) ≤
      grown.raw.memory.pages)
    (allocated : Allocated id count grown middle)
    (innerEq : after.inner = { middle.inner with
      memorySizesInPages := Function.update middle.inner.memorySizesInPages id
        (manager.inner.memorySizesInPages id + pages) })
    (memoryEq : after.raw.memory = middle.raw.memory.write 0 after.inner.header) :
    Extended id pages count manager after ∧
      Laid (owners ++ List.replicate count id) after.inner after.raw.memory := by
  have unit : after.inner.bucketSizeInPages = manager.inner.bucketSizeInPages := by
    rw [innerEq, ← sameInner]
    exact allocated.bucketSizeInPages
  have sizes : after.inner.memorySizesInPages = Function.update manager.inner.memorySizesInPages id
      (manager.inner.memorySizesInPages id + pages) := by
    rw [innerEq, ← sameInner, allocated.memorySizesInPages]
  have pagesEq : after.raw.memory.pages = grown.raw.memory.pages := by
    rw [memoryEq, Memory.write_pages, allocated.pages]
  have middlePages : bucketsOffsetInPages ≤ middle.raw.memory.pages := by
    rw [allocated.pages]
    exact laid.offsetPages.trans more
  refine ⟨⟨unit, sizes, ?_, ?_⟩, ⟨?_, ?_, ?_, ?_, ?_, ?_, ?_⟩⟩
  · rw [pagesEq]
    exact more
  · intro address
    rw [memoryEq, header_bytes middlePages, allocated.bytes, sameInner, bytes]
  · rw [List.length_append, List.length_replicate, ← laid.allocated, innerEq, ← sameInner]
    exact allocated.allocatedBuckets
  · rw [List.length_append, List.length_replicate, ← laid.allocated]
    exact room
  · rw [unit]
    exact laid.unit
  · rw [unit]
    exact laid.unitLimit
  · intro other
    rw [innerEq]
    refine allocated.buckets owners ?_ ?_ other
    · rw [sameInner]
      exact laid.allocated
    · rw [sameInner]
      exact laid.buckets
  · intro other
    have needed : ∀ size, after.inner.numBucketsNeeded size = manager.inner.numBucketsNeeded size := by
      intro size
      rw [MemoryManagerInner.numBucketsNeeded, MemoryManagerInner.numBucketsNeeded, unit]
    rw [needed, sizes, owned_append_replicate, Function.update_apply]
    by_cases same : other = id
    · subst same
      have before := laid.sizes other
      have grows := numBucketsNeeded_mono manager.inner
        (Nat.le_add_right (manager.inner.memorySizesInPages other) pages)
      rw [if_pos rfl, if_pos rfl, List.length_append, List.length_map, List.length_range]
      omega
    · rw [if_neg same, if_neg (Ne.symm same), laid.sizes]
  · rw [unit, pagesEq, List.length_append, List.length_replicate, Nat.add_comm owners.length, ← laid.allocated]
    exact enough

/-- A grow whose arithmetic fits hands out the buckets it lacks. -/
theorem growVia_asked (write : RawWrite) (id : MemoryId) (pages : Nat) (inner : MemoryManagerInner) (raw : Raw)
    {count : Nat} (countEq : count = inner.numBucketsNeeded (inner.memorySizesInPages id + pages) -
      inner.numBucketsNeeded (inner.memorySizesInPages id))
    (fits : inner.memorySizesInPages id + pages < u64Bound)
    (room : inner.allocatedBuckets + count ≤ maxNumBuckets) :
    Manager.growVia write id pages ⟨inner, raw⟩ =
      (growBuckets write id (inner.memorySizesInPages id + pages) count >>= fun grown =>
        pure (if grown then (inner.memorySizesInPages id : Int) else -1)) ⟨inner, raw⟩ := by
  have small : ¬ u64Bound ≤ inner.memorySize id + pages := Nat.not_le.mpr fits
  have roomy : ¬ (u64Bound ≤ inner.numBucketsNeeded (inner.memorySize id + pages) -
        inner.numBucketsNeeded (inner.memorySize id) + inner.allocatedBuckets ∨
      maxNumBuckets < inner.numBucketsNeeded (inner.memorySize id + pages) -
        inner.numBucketsNeeded (inner.memorySize id) + inner.allocatedBuckets) := by
    subst countEq
    have bounded : maxNumBuckets < u64Bound := by decide
    rw [MemoryManagerInner.memorySize]
    omega
  subst countEq
  rw [Manager.growVia, Action.read_bind_apply, growFrom]
  dsimp only
  rw [if_neg small, if_neg roomy]
  rfl

/-- The arithmetic of a grow refuses it, or leaves so many buckets to hand out. -/
theorem growVia_cases (write : RawWrite) (id : MemoryId) (pages : Nat) (inner : MemoryManagerInner) (raw : Raw) :
    Manager.growVia write id pages ⟨inner, raw⟩ = (.ok (-1), ⟨inner, raw⟩) ∨
    ∃ count, count = inner.numBucketsNeeded (inner.memorySizesInPages id + pages) -
        inner.numBucketsNeeded (inner.memorySizesInPages id) ∧
      inner.allocatedBuckets + count ≤ maxNumBuckets ∧
      Manager.growVia write id pages ⟨inner, raw⟩ =
        (growBuckets write id (inner.memorySizesInPages id + pages) count >>= fun grown =>
          pure (if grown then (inner.memorySizesInPages id : Int) else -1)) ⟨inner, raw⟩ := by
  rw [Manager.growVia, Action.read_bind_apply, growFrom]
  dsimp only
  by_cases overflow : u64Bound ≤ inner.memorySize id + pages
  · rw [if_pos overflow]
    exact .inl rfl
  rw [if_neg overflow]
  by_cases crowded : u64Bound ≤ inner.numBucketsNeeded (inner.memorySize id + pages) -
        inner.numBucketsNeeded (inner.memorySize id) + inner.allocatedBuckets ∨
      maxNumBuckets < inner.numBucketsNeeded (inner.memorySize id + pages) -
        inner.numBucketsNeeded (inner.memorySize id) + inner.allocatedBuckets
  · rw [if_pos crowded]
    exact .inl rfl
  rw [if_neg crowded]
  refine .inr ⟨_, rfl, ?_, rfl⟩
  rw [Nat.add_comm]
  exact Nat.not_lt.mp fun overrun => crowded (.inr overrun)

/-- Growing returns `-1` and changes no byte and no table, or returns the old
size and hands the new buckets to the memory. -/
theorem grow_cases (laid : Laid owners manager.inner manager.raw.memory) (id : MemoryId) (pages : Nat) :
    (∃ after, Manager.grow id pages manager = (.ok (-1), after) ∧ after.inner = manager.inner ∧
      after.raw.memory = manager.raw.memory) ∨
    (∃ count after, Manager.grow id pages manager = (.ok (manager.inner.memorySizesInPages id), after) ∧
      Extended id pages count manager after ∧
      Laid (owners ++ List.replicate count id) after.inner after.raw.memory) := by
  obtain ⟨inner, raw⟩ := manager
  rcases growVia_cases writeGrowing id pages inner raw with refused | ⟨count, countEq, room, asked⟩
  · exact .inl ⟨_, refused, rfl, rfl⟩
  · have offsetPages : bucketsOffsetInPages ≤ raw.memory.pages := laid.offsetPages
    rcases @growBuckets_cases inner id (inner.memorySizesInPages id + pages) count raw offsetPages room with
      refused | granted
    · obtain ⟨after, ended, sameInner, sameMemory⟩ := refused
      refine .inl ⟨after, asked.trans ?_, sameInner, sameMemory⟩
      rw [Action.bind_of_ok _ ended]
      rfl
    · obtain ⟨grown, after, middle, ended, bytes, more, enough, allocated, innerEq, memoryEq⟩ := granted
      have sameInner : (⟨inner, grown⟩ : Manager).inner = inner := rfl
      refine .inr ⟨count, after, asked.trans ?_,
        laid.extended countEq room sameInner bytes more enough allocated innerEq memoryEq⟩
      rw [Action.bind_of_ok _ ended]
      rfl

/-! ## What the raw memory says about the layout -/

/-- The table in the raw memory names the owners of the buckets handed out and
nobody else. -/
def Tabled (owners : List MemoryId) (memory : Memory) : Prop :=
  ∀ slot, slot < maxNumBuckets →
    memory.bytes (headerSize + slot) = (owners.map MemoryId.byte).getD slot unallocatedBucketMarker

/-- The header and the table in the raw memory describe the manager's tables. -/
structure Recorded (owners : List MemoryId) (inner : MemoryManagerInner) (memory : Memory) : Prop where
  header : ∀ address, address < headerSize → memory.bytes address = inner.header.getD address 0
  table : Tabled owners memory

/-- A grow writes the header anew and adds its entries to the table. -/
theorem Tabled.extended {id : MemoryId} {pages count : Nat} {after : Manager}
    (laid : Laid owners manager.inner manager.raw.memory) (tabled : Tabled owners manager.raw.memory)
    (extended : Extended id pages count manager after) :
    Recorded (owners ++ List.replicate count id) after.inner after.raw.memory := by
  constructor
  · intro address below
    rw [extended.bytes, if_pos below]
  · intro slot inside
    have length : (owners.map MemoryId.byte).length = owners.length := List.length_map _
    rw [extended.bytes, if_neg (by omega), laid.allocated, tabled slot inside, List.map_append,
      List.map_replicate, getD_append, length]
    by_cases old : slot < owners.length
    · rw [if_neg (by omega), if_pos old]
    · by_cases new : slot < owners.length + count
      · have replicated : slot - owners.length < (List.replicate count id.byte).length := by
          rw [List.length_replicate]
          omega
        rw [if_pos (by omega), if_neg old, List.getD_eq_getElem _ _ replicated, List.getElem_replicate]
      · have past : (List.replicate count id.byte).length ≤ slot - owners.length := by
          rw [List.length_replicate]
          omega
        rw [if_neg (by omega), if_neg old, List.getD_eq_default _ _ (by omega), List.getD_eq_default _ _ past]

/-- A new layout over whatever the raw memory holds. -/
theorem new_returned {bucketSize : UInt16} {raw after : Raw} {created : MemoryManagerInner}
    (nonzero : bucketSize ≠ 0)
    (ended : MemoryManagerInner.new bucketSize raw = (.ok created, after)) :
    created = .fresh bucketSize ∧ Laid [] created after.memory ∧ Recorded [] created after.memory ∧
      raw.memory.pages ≤ after.memory.pages ∧
      ∀ address, headerSize + maxNumBuckets ≤ address → after.memory.bytes address = raw.memory.bytes address := by
  rw [MemoryManagerInner.new] at ended
  obtain ⟨_, cleared, tableWritten, afterTable⟩ := Action.bind_eq_ok.mp ended
  obtain ⟨_, saved, headerWritten, finished⟩ := Action.bind_eq_ok.mp afterTable
  obtain ⟨same, rfl⟩ := Prod.mk.inj finished
  obtain rfl := (Outcome.ok.inj same).symm
  obtain ⟨moreFirst, roomFirst, bytesFirst⟩ := writeGrowing_returned tableWritten
  obtain ⟨moreSecond, roomSecond, bytesSecond⟩ := writeGrowing_returned headerWritten
  rw [length_unallocatedTable, bucketAllocationsAddress] at roomFirst bytesFirst
  rw [MemoryManagerInner.length_header] at bytesSecond
  have page : bucketsOffsetInPages ≤ saved.memory.pages := by
    have some : cleared.memory.pages ≠ 0 := by
      intro none
      rw [Memory.capacity, none, Nat.zero_mul] at roomFirst
      exact absurd roomFirst (by decide)
    exact (Nat.pos_of_ne_zero some).trans_le moreSecond
  refine ⟨rfl, ⟨rfl, Nat.zero_le _, ?_, bucketSize.toNat_lt, fun _ => rfl, fun _ => ?_, page⟩, ⟨?_, ?_⟩,
    moreFirst.trans moreSecond, ?_⟩
  · exact Nat.pos_of_ne_zero fun zero => nonzero (UInt16.toNat_inj.mp zero)
  · exact Nat.div_eq_of_lt (by
      have positive : 0 < bucketSize.toNat := Nat.pos_of_ne_zero fun zero => nonzero (UInt16.toNat_inj.mp zero)
      change 0 + bucketSize.toNat - 1 < bucketSize.toNat
      omega)
  · intro address below
    rw [bytesSecond, if_pos (by omega), Nat.sub_zero]
  · intro slot inside
    rw [bytesSecond, if_neg (by omega), bytesFirst, if_pos (by omega)]
    exact getD_unallocatedTable (by omega) 0
  · intro address past
    rw [bytesSecond, if_neg (by omega), bytesFirst, if_neg (by omega)]

end IcSqliteVfs.Stable
