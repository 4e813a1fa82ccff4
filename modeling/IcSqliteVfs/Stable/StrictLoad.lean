import IcSqliteVfs.Stable.Reload

namespace IcSqliteVfs.Stable

open IcSqliteVfs.Data IcSqliteVfs.Semantics

/-! # Loading whatever bytes are there

The raw memory may hold anything: what the strict loader accepts is a layout,
and it changes nothing on the way.
-/

variable {owners : List MemoryId} {inner : MemoryManagerInner} {memory : Memory} {raw after : Raw}

/-! ## What the validator has checked -/

/-- A table that the loop accepts names an owner in every place. -/
theorem pushBuckets_accepted {bytes : List UInt8} :
    ∀ {bucket : Nat} {before buckets : MemoryId → List Nat},
      MemoryManagerInner.pushBuckets bytes bucket before = .ok buckets →
        ∃ owners : List MemoryId, bytes = owners.map MemoryId.byte := by
  induction bytes with
  | nil =>
      intro bucket before buckets _
      exact ⟨[], rfl⟩
  | cons owner rest ih =>
      intro bucket before buckets accepted
      rw [MemoryManagerInner.pushBuckets] at accepted
      split at accepted
      · rename_i valid
        obtain ⟨owners, same⟩ := ih accepted
        refine ⟨⟨owner.toNat, valid⟩ :: owners, ?_⟩
        rw [List.map_cons, same, MemoryId.byte, UInt8.ofNat_toNat]
      · cases accepted

theorem validatedBuckets_accepted {table : List UInt8} {allocated : Nat} {buckets : MemoryId → List Nat}
    (room : allocated ≤ table.length)
    (accepted : MemoryManagerInner.validatedBuckets table allocated = .ok buckets) :
    ∃ owners : List MemoryId, owners.length = allocated ∧ table.take allocated = owners.map MemoryId.byte ∧
      buckets = owned owners ∧ ∀ byte ∈ table.drop allocated, byte = unallocatedBucketMarker := by
  rw [MemoryManagerInner.validatedBuckets] at accepted
  cases pushed : MemoryManagerInner.pushBuckets (table.take allocated) 0 fun _ => [] with
  | error error =>
      rw [pushed] at accepted
      cases accepted
  | ok result =>
      rw [pushed] at accepted
      dsimp only at accepted
      split at accepted
      · cases accepted
      · rename_i none
        cases accepted
        obtain ⟨owners, same⟩ := pushBuckets_accepted pushed
        have rebuilt : MemoryManagerInner.pushBuckets (owners.map MemoryId.byte) 0 (fun _ => []) =
            .ok (owned owners) := pushBuckets_owned owners []
        rw [same, rebuilt] at pushed
        cases pushed
        have length : (table.take allocated).length = owners.length := by rw [same, List.length_map]
        rw [List.length_take, Nat.min_eq_left room] at length
        refine ⟨owners, length.symm, same, rfl, ?_⟩
        intro byte member
        by_contra other
        exact none (List.any_eq_true.mpr ⟨byte, member, by simpa using other⟩)

theorem validateBucketCounts_accepted {unit : Nat} {sizes : MemoryId → Nat} {buckets : MemoryId → List Nat}
    (accepted : MemoryManagerInner.validateBucketCounts unit sizes buckets = .ok ()) (id : MemoryId) :
    (sizes id + unit - 1) / unit = (buckets id).length := by
  rw [MemoryManagerInner.validateBucketCounts] at accepted
  split at accepted
  · cases accepted
  · rename_i none
    have checked := List.find?_eq_none.mp none id (List.mem_finRange id)
    simpa using checked

theorem validateBackingMemorySize_accepted {size allocated unit : Nat}
    (accepted : MemoryManagerInner.validateBackingMemorySize size allocated unit = .ok ()) :
    bucketsOffsetInPages + unit * allocated ≤ size := by
  rw [MemoryManagerInner.validateBackingMemorySize] at accepted
  split at accepted
  · cases accepted
  · split at accepted
    · cases accepted
    · omega

theorem except_bind_eq_ok {ε α β : Type} {first : Except ε α} {rest : α → Except ε β} {result : β} :
    (first >>= rest) = .ok result ↔ ∃ value, first = .ok value ∧ rest value = .ok result := by
  cases first with
  | error error => simp [bind, Except.bind]
  | ok value => simp [bind, Except.bind]

/-- The checks of a layout that was accepted, in the order they were made. -/
theorem tryLoadValidatedLayout_accepted {size : Nat} {header table : List UInt8}
    (accepted : MemoryManagerInner.tryLoadValidatedLayout size header table = .ok inner) :
    inner.allocatedBuckets = leValue (window header 4 2) ∧ inner.bucketSizeInPages = leValue (window header 6 2) ∧
      inner.allocatedBuckets ≤ maxNumBuckets ∧ inner.bucketSizeInPages ≠ 0 ∧
      MemoryManagerInner.validatedBuckets table inner.allocatedBuckets = .ok inner.memoryBuckets ∧
      MemoryManagerInner.validateBucketCounts inner.bucketSizeInPages inner.memorySizesInPages
        inner.memoryBuckets = .ok () ∧
      MemoryManagerInner.validateBackingMemorySize size inner.allocatedBuckets inner.bucketSizeInPages =
        .ok () := by
  rw [MemoryManagerInner.tryLoadValidatedLayout] at accepted
  dsimp only at accepted
  split at accepted
  · cases accepted
  · split at accepted
    · cases accepted
    · rename_i few nonzero
      obtain ⟨_, _, sized⟩ := except_bind_eq_ok.mp accepted
      obtain ⟨buckets, pushed, owned⟩ := except_bind_eq_ok.mp sized
      obtain ⟨_, counted, backed⟩ := except_bind_eq_ok.mp owned
      obtain ⟨_, enough, finished⟩ := except_bind_eq_ok.mp backed
      cases finished
      exact ⟨rfl, rfl, Nat.not_lt.mp few, nonzero, pushed, counted, enough⟩

/-- An accepted layout is laid out over the raw memory it was read from. -/
theorem laid_of_accepted {header table : List UInt8} (headerLength : header.length = headerSize)
    (tableLength : table.length = maxNumBuckets)
    (accepted : MemoryManagerInner.tryLoadValidatedLayout memory.pages header table = .ok inner) :
    ∃ owners, Laid owners inner memory ∧ table.take owners.length = owners.map MemoryId.byte ∧
      ∀ byte ∈ table.drop owners.length, byte = unallocatedBucketMarker := by
  obtain ⟨_, unitEq, few, nonzero, pushed, counted, enough⟩ := tryLoadValidatedLayout_accepted accepted
  obtain ⟨owners, length, taken, buckets, dropped⟩ := validatedBuckets_accepted (tableLength ▸ few) pushed
  have unitLimit : inner.bucketSizeInPages < u16Bound := by
    have bound := leValue_lt (window header 6 2)
    rw [length_window (by rw [headerLength]; decide), ← unitEq] at bound
    exact bound
  refine ⟨owners, ⟨length.symm, length ▸ few, Nat.pos_of_ne_zero nonzero, unitLimit, congrFun buckets, ?_, ?_⟩,
    length ▸ taken, length ▸ dropped⟩
  · intro id
    rw [← congrFun buckets id]
    exact validateBucketCounts_accepted counted id
  · rw [length]
    exact validateBackingMemorySize_accepted enough

/-! ## The loaders -/

theorem tabled_of_read {owners : List MemoryId}
    (taken : (memory.read (bucketAllocationsAddress 0) maxNumBuckets).take owners.length =
      owners.map MemoryId.byte)
    (dropped : ∀ byte ∈ (memory.read (bucketAllocationsAddress 0) maxNumBuckets).drop owners.length,
      byte = unallocatedBucketMarker) : Tabled owners memory := by
  intro slot inside
  have stored : (memory.read (bucketAllocationsAddress 0) maxNumBuckets).getD slot unallocatedBucketMarker =
      memory.bytes (headerSize + slot) := (getD_map_range _ _ _ _).trans (if_pos inside)
  have length : (owners.map MemoryId.byte).length = owners.length := List.length_map _
  rw [← stored, ← List.take_append_drop owners.length (memory.read (bucketAllocationsAddress 0) maxNumBuckets),
    taken, getD_append, length]
  by_cases owned : slot < owners.length
  · rw [if_pos owned]
  · have past : (owners.map MemoryId.byte).getD slot unallocatedBucketMarker = unallocatedBucketMarker := by
      apply List.getD_eq_default
      omega
    have bound : slot - owners.length <
        ((memory.read (bucketAllocationsAddress 0) maxNumBuckets).drop owners.length).length := by
      rw [List.length_drop, Memory.length_read]
      omega
    rw [if_neg owned, past, List.getD_eq_getElem _ _ bound]
    exact dropped _ (List.getElem_mem bound)

theorem rawRead_returned {offset count : Nat} {bytes : List UInt8}
    (ended : rawRead offset count raw = (.ok bytes, after)) :
    after = raw ∧ bytes = raw.memory.read offset count := by
  obtain ⟨_, _, first, rest⟩ := Action.bind_eq_ok.mp ended
  cases first
  obtain ⟨_, _, checked, last⟩ := Action.bind_eq_ok.mp rest
  obtain ⟨_, rfl⟩ := Action.require_eq_ok.mp checked
  cases last
  exact ⟨rfl, rfl⟩

theorem rawRead_room {offset count : Nat} {bytes : List UInt8}
    (ended : rawRead offset count raw = (.ok bytes, after)) : offset + count ≤ raw.memory.capacity := by
  obtain ⟨_, _, first, rest⟩ := Action.bind_eq_ok.mp ended
  cases first
  obtain ⟨_, _, checked, _⟩ := Action.bind_eq_ok.mp rest
  exact (Action.require_eq_ok.mp checked).1

theorem rawSize_returned {size : Nat} (ended : rawSize raw = (.ok size, after)) :
    after = raw ∧ size = raw.memory.pages := by
  cases ended
  exact ⟨rfl, rfl⟩

/-- Both loaders read a header and a table and pass them to the validator. -/
theorem accepted_laid {size : Nat} {header table : List UInt8} {middle last : Raw}
    (headerRead : rawRead 0 headerSize raw = (.ok header, middle))
    (tableRead : rawRead (bucketAllocationsAddress 0) maxNumBuckets middle = (.ok table, last))
    (sized : rawSize last = (.ok size, after))
    (accepted : MemoryManagerInner.tryLoadValidatedLayout size header table = .ok inner) :
    after = raw ∧ ∃ owners, Laid owners inner raw.memory ∧ Tabled owners raw.memory := by
  obtain ⟨sameHeader, headerEq⟩ := rawRead_returned headerRead
  obtain ⟨sameTable, tableEq⟩ := rawRead_returned tableRead
  obtain ⟨sameSize, sizeEq⟩ := rawSize_returned sized
  have headerLength : header.length = headerSize := by rw [headerEq, Memory.length_read]
  have tableLength : table.length = maxNumBuckets := by rw [tableEq, Memory.length_read]
  subst sameHeader sameTable sameSize sizeEq
  obtain ⟨owners, laid, taken, dropped⟩ := laid_of_accepted headerLength tableLength accepted
  rw [tableEq] at taken dropped
  exact ⟨rfl, owners, laid, tabled_of_read taken dropped⟩

theorem tryLoad_returned (ended : MemoryManagerInner.tryLoad raw = (.ok inner, after)) :
    after = raw ∧ ∃ owners, Laid owners inner raw.memory ∧ Tabled owners raw.memory := by
  obtain ⟨header, middle, headerRead, checked⟩ := Action.bind_eq_ok.mp ended
  split at checked
  · cases checked
  · split at checked
    · cases checked
    · obtain ⟨table, last, tableRead, sizing⟩ := Action.bind_eq_ok.mp checked
      obtain ⟨size, final, sized, validated⟩ := Action.bind_eq_ok.mp sizing
      cases accepted : MemoryManagerInner.tryLoadValidatedLayout size header table with
      | ok layout =>
          rw [accepted] at validated
          cases validated
          exact accepted_laid headerRead tableRead sized accepted
      | error error =>
          rw [accepted] at validated
          cases validated

theorem load_returned (ended : MemoryManagerInner.load raw = (.ok inner, after)) :
    after = raw ∧ ∃ owners, Laid owners inner raw.memory ∧ Tabled owners raw.memory := by
  obtain ⟨header, middle, headerRead, afterHeader⟩ := Action.bind_eq_ok.mp ended
  obtain ⟨_, _, magic, afterMagic⟩ := Action.bind_eq_ok.mp afterHeader
  obtain ⟨_, rfl⟩ := Action.require_eq_ok.mp magic
  obtain ⟨_, _, version, afterVersion⟩ := Action.bind_eq_ok.mp afterMagic
  obtain ⟨_, rfl⟩ := Action.require_eq_ok.mp version
  obtain ⟨table, last, tableRead, sizing⟩ := Action.bind_eq_ok.mp afterVersion
  obtain ⟨size, final, sized, validated⟩ := Action.bind_eq_ok.mp sizing
  cases accepted : MemoryManagerInner.tryLoadValidatedLayout size header table with
  | ok layout =>
      rw [accepted] at validated
      cases validated
      exact accepted_laid headerRead tableRead sized accepted
  | error error =>
      rw [accepted] at validated
      cases validated

/-- The strict initialisation sets up a layout on an empty memory and loads from any other. -/
theorem initStrict_cases {bucketSize : UInt16}
    (ended : MemoryManager.initStrictWithBucketSize bucketSize raw = (.ok inner, after)) :
    (bucketSize ≠ 0 ∧ raw.memory.pages = 0 ∧ MemoryManagerInner.new bucketSize raw = (.ok inner, after)) ∨
      (raw.memory.pages ≠ 0 ∧ MemoryManagerInner.tryLoad raw = (.ok inner, after)) := by
  rw [MemoryManager.initStrictWithBucketSize] at ended
  split at ended
  · cases ended
  · rename_i nonzero
    obtain ⟨size, middle, sized, sizedOk⟩ := Action.bind_eq_ok.mp ended
    obtain ⟨rfl, rfl⟩ := rawSize_returned sized
    split at sizedOk
    · exact .inl ⟨nonzero, ‹_›, sizedOk⟩
    · obtain ⟨magic, start, magicRead, branched⟩ := Action.bind_eq_ok.mp sizedOk
      obtain ⟨rfl, _⟩ := rawRead_returned magicRead
      split at branched
      · cases branched
      · exact .inr ⟨‹_›, branched⟩

theorem init_cases {bucketSize : UInt16}
    (ended : MemoryManager.initWithBucketSize bucketSize raw = (.ok inner, after)) :
    (bucketSize ≠ 0 ∧ MemoryManagerInner.new bucketSize raw = (.ok inner, after)) ∨
      MemoryManagerInner.load raw = (.ok inner, after) := by
  rw [MemoryManager.initWithBucketSize] at ended
  split at ended
  · cases ended
  · rename_i nonzero
    obtain ⟨size, middle, sized, sizedOk⟩ := Action.bind_eq_ok.mp ended
    obtain ⟨rfl, rfl⟩ := rawSize_returned sized
    split at sizedOk
    · exact .inl ⟨nonzero, sizedOk⟩
    · obtain ⟨magic, start, magicRead, branched⟩ := Action.bind_eq_ok.mp sizedOk
      obtain ⟨rfl, _⟩ := rawRead_returned magicRead
      split at branched
      · exact .inr branched
      · exact .inl ⟨nonzero, branched⟩

/-- Whichever way a manager came up, its tables describe its raw memory. -/
theorem initStrict_returned {bucketSize : UInt16}
    (ended : MemoryManager.initStrictWithBucketSize bucketSize raw = (.ok inner, after)) :
    ∃ owners, Laid owners inner after.memory ∧ Tabled owners after.memory := by
  rcases initStrict_cases ended with ⟨nonzero, _, created⟩ | ⟨_, loaded⟩
  · obtain ⟨_, laid, recorded, _, _⟩ := new_returned nonzero created
    exact ⟨[], laid, recorded.table⟩
  · obtain ⟨rfl, owners, laid, tabled⟩ := tryLoad_returned loaded
    exact ⟨owners, laid, tabled⟩

theorem init_returned {bucketSize : UInt16}
    (ended : MemoryManager.initWithBucketSize bucketSize raw = (.ok inner, after)) :
    ∃ owners, Laid owners inner after.memory ∧ Tabled owners after.memory := by
  rcases init_cases ended with ⟨nonzero, created⟩ | loaded
  · obtain ⟨_, laid, recorded, _, _⟩ := new_returned nonzero created
    exact ⟨[], laid, recorded.table⟩
  · obtain ⟨rfl, owners, laid, tabled⟩ := load_returned loaded
    exact ⟨owners, laid, tabled⟩

/-! ## A memory that is not empty is not written to -/

theorem rawRead_keeps (raw : Raw) (offset count : Nat) :
    Action.Keeps (· = raw) (rawRead offset count) fun _ => True :=
  Action.keeps_read.bind fun _ _ => (Action.keeps_require _).bind fun _ _ => Action.keeps_pure trivial

theorem rawSize_keeps (raw : Raw) : Action.Keeps (· = raw) rawSize fun size => size = raw.memory.pages := by
  refine Action.keeps_read.bind fun state same => Action.keeps_pure ?_
  rw [same]
  rfl

theorem tryLoad_keeps (raw : Raw) : Action.Keeps (· = raw) MemoryManagerInner.tryLoad fun _ => True := by
  refine (rawRead_keeps raw _ _).bind fun header _ => ?_
  split
  · exact Action.keeps_fail _
  · split
    · exact Action.keeps_fail _
    · refine (rawRead_keeps raw _ _).bind fun table _ => (rawSize_keeps raw).bind fun size _ => ?_
      split
      · exact Action.keeps_pure trivial
      · exact Action.keeps_fail _

theorem initStrict_keeps (bucketSize : UInt16) (some : raw.memory.pages ≠ 0) :
    Action.Keeps (· = raw) (MemoryManager.initStrictWithBucketSize bucketSize) fun _ => True := by
  rw [MemoryManager.initStrictWithBucketSize]
  split
  · exact Action.keeps_fail _
  · refine (rawSize_keeps raw).bind fun size sized => ?_
    rw [if_neg (sized ▸ some)]
    refine (rawRead_keeps raw _ _).bind fun magic _ => ?_
    split
    · exact Action.keeps_fail _
    · exact tryLoad_keeps raw

/-! ## The representation invariant -/

/-- Every bucket below the count has one owner and one place in its list,
nothing else is owned, every list is as long as its memory needs, and every
owned bucket lies inside the raw memory. -/
structure Representation (inner : MemoryManagerInner) (memory : Memory) : Prop where
  owner : ∀ bucket, bucket < inner.allocatedBuckets → ∃! id, bucket ∈ inner.memoryBuckets id
  once : ∀ id, (inner.memoryBuckets id).Nodup
  allocated : ∀ id, ∀ bucket ∈ inner.memoryBuckets id, bucket < inner.allocatedBuckets
  counts : ∀ id, (inner.memoryBuckets id).length = inner.numBucketsNeeded (inner.memorySizesInPages id)
  inside : ∀ id, ∀ bucket ∈ inner.memoryBuckets id,
    inner.bucketAddress bucket + inner.bucketSizeInBytes ≤ memory.capacity

theorem Laid.representation (laid : Laid owners inner memory) : Representation inner memory where
  owner := by
    intro bucket below
    rw [laid.allocated] at below
    refine ⟨owners[bucket], ?_, ?_⟩
    · change bucket ∈ inner.memoryBuckets owners[bucket]
      rw [laid.buckets, mem_owned]
      exact List.getElem?_eq_getElem below
    · intro other member
      rw [laid.buckets, mem_owned, List.getElem?_eq_getElem below] at member
      exact (Option.some.inj member).symm
  once := by
    intro id
    rw [laid.buckets]
    exact nodup_owned owners id
  allocated := by
    intro id bucket member
    rw [laid.buckets] at member
    rw [laid.allocated]
    exact lt_of_mem_owned member
  counts := by
    intro id
    rw [laid.sizes, laid.buckets]
  inside := by
    intro id bucket member
    obtain ⟨index, found⟩ := List.mem_iff_getElem?.mp member
    exact laid.bucket_room found

/-- An address in one of the buckets of a memory. -/
def MemoryManagerInner.inBuckets (inner : MemoryManagerInner) (id : MemoryId) (address : Nat) : Prop :=
  ∃ bucket ∈ inner.memoryBuckets id,
    inner.bucketAddress bucket ≤ address ∧ address < inner.bucketAddress bucket + inner.bucketSizeInBytes

theorem Laid.addressOf_inBuckets (laid : Laid owners inner memory) {id : MemoryId} {position : Nat}
    (inside : position < (owned owners id).length * inner.bucketSizeInBytes) :
    inner.inBuckets id (inner.addressOf id position) := by
  have index := div_lt_of_lt_mul inside
  have remainder := Nat.mod_lt position laid.unitBytes
  refine ⟨(owned owners id).getD (position / inner.bucketSizeInBytes) 0, ?_, ?_⟩
  · rw [laid.buckets]
    exact getD_mem index
  · rw [laid.addressOf_eq, place, MemoryManagerInner.bucketAddress]
    omega

/-! ## Runs over a loaded manager -/

structure Consistent (owners : List MemoryId) (machine : Machine) : Prop where
  laid : Laid owners machine.manager.inner machine.manager.raw.memory
  cached : ∀ handle ∈ machine.handles, Cached machine.manager.inner handle.id handle.cache

variable {machine : Machine} {index : Nat} {handle : VirtualMemory}

theorem Consistent.take (consistent : Consistent owners machine)
    (cached : Cached machine.manager.inner handle.id handle.cache) :
    Consistent owners { machine with handles := machine.handles ++ [handle] } where
  laid := consistent.laid
  cached := by
    intro other member
    rcases List.mem_append.mp member with old | new
    · exact consistent.cached other old
    · rw [List.mem_singleton.mp new]
      exact cached

theorem Consistent.accessed {stored : Raw} {cache : BucketCache} (consistent : Consistent owners machine)
    (pages : stored.memory.pages = machine.manager.raw.memory.pages)
    (cached : Cached machine.manager.inner handle.id cache) :
    Consistent owners {
      manager := { machine.manager with raw := stored }
      handles := machine.handles.set index { handle with cache } } where
  laid := consistent.laid.of_pages pages
  cached := by
    intro other member
    rcases List.mem_or_eq_of_mem_set member with old | new
    · exact consistent.cached other old
    · rw [new]
      exact cached

theorem Consistent.grow (consistent : Consistent owners machine) (id : MemoryId) (pages : Nat) :
    ∃ owners, Consistent owners { machine with manager := (Manager.grow id pages machine.manager).2 } := by
  rcases grow_cases consistent.laid id pages with refused | grown
  · obtain ⟨after, ended, sameInner, sameMemory⟩ := refused
    rw [ended]
    refine ⟨owners, ?_, ?_⟩
    · rw [sameInner, sameMemory]
      exact consistent.laid
    · rw [sameInner]
      exact consistent.cached
  · obtain ⟨count, after, ended, extended, laidAfter⟩ := grown
    rw [ended]
    refine ⟨_, laidAfter, fun handle member => ?_⟩
    refine (consistent.cached handle member).extended extended.bucketSizeInPages ?_
    obtain ⟨more, split, _⟩ := owned_extended owners count id handle.id
    rw [consistent.laid.buckets, laidAfter.buckets, split]
    exact List.prefix_append _ _

/-- A read inside the memory answers with bytes from the memory's own buckets
and writes nothing. -/
theorem Consistent.read (consistent : Consistent owners machine) (found : machine.handles[index]? = some handle)
    {offset count : Nat} (bounds : machine.manager.inner.inBounds handle.id offset count) :
    (∃ address : Nat → Nat,
      (∀ position, position < count → machine.manager.inner.inBuckets handle.id (address position)) ∧
      (machine.step (.read index offset count)).1 =
        .bytes ((List.range count).map fun position => machine.manager.raw.memory.bytes (address position))) ∧
      (machine.step (.read index offset count)).2.manager = machine.manager ∧
      Consistent owners (machine.step (.read index offset count)).2 := by
  have cached := consistent.cached handle (List.mem_of_getElem? found)
  have room := consistent.laid.range_room bounds
  obtain ⟨_, ⟨_, cacheAfter⟩, ended, rfl, rfl, cachedAfter⟩ := read_of consistent.laid cached bounds
  rw [Machine.step, Machine.perform, found]
  dsimp only
  rw [Machine.access, ended]
  refine ⟨⟨fun position => machine.manager.inner.addressOf handle.id (offset + position), ?_, rfl⟩, rfl,
    consistent.accessed rfl cachedAfter⟩
  intro position inside
  exact consistent.laid.addressOf_inBuckets (by omega)

/-- A write inside the memory is done and changes bytes in its own buckets only. -/
theorem Consistent.write (consistent : Consistent owners machine) (found : machine.handles[index]? = some handle)
    {offset : Nat} {source : List UInt8}
    (bounds : machine.manager.inner.inBounds handle.id offset source.length) :
    (machine.step (.write index offset source)).1 = .done ∧
      (∀ address, ¬ machine.manager.inner.inBuckets handle.id address →
        (machine.step (.write index offset source)).2.manager.raw.memory.bytes address =
          machine.manager.raw.memory.bytes address) ∧
      Consistent owners (machine.step (.write index offset source)).2 := by
  have cached := consistent.cached handle (List.mem_of_getElem? found)
  have room := consistent.laid.range_room bounds
  obtain ⟨_, after, ended, written, cachedAfter⟩ := write_of consistent.laid cached bounds
  rw [Machine.step, Machine.perform, found]
  dsimp only
  rw [Machine.access, ended]
  refine ⟨rfl, fun address outside => ?_, consistent.accessed written.pages cachedAfter⟩
  apply written.outside
  rintro index inside rfl
  exact outside (consistent.laid.addressOf_inBuckets (by omega))

/-- An access that unwinds leaves everything as it was. -/
theorem Consistent.unchanged {α : Type} {call : AccessM α} {answer : α → Answer}
    {outcome : Outcome MemoryManagerInitError α} (consistent : Consistent owners machine)
    (found : machine.handles[index]? = some handle)
    (ended : call ⟨machine.manager.raw, handle.cache⟩ = (outcome, ⟨machine.manager.raw, handle.cache⟩)) :
    Consistent owners (machine.access index handle call answer).2 := by
  rw [Machine.access, ended]
  exact consistent.accessed rfl (consistent.cached handle (List.mem_of_getElem? found))

theorem Consistent.perform (consistent : Consistent owners machine) (index : Nat)
    {call : VirtualMemory → Answer × Machine}
    (kept : ∀ handle, machine.handles[index]? = some handle → Consistent owners (call handle).2) :
    Consistent owners (machine.perform index call).2 := by
  rw [Machine.perform]
  cases found : machine.handles[index]? with
  | none => exact consistent
  | some handle => exact kept handle found

/-- Only a grow hands out buckets. -/
theorem Consistent.step_same (consistent : Consistent owners machine) {call : Call}
    (notGrow : ∀ index pages, call ≠ .grow index pages) : Consistent owners (machine.step call).2 := by
  cases call with
  | get id => exact consistent.take (cached_new _ id)
  | clone index =>
      exact consistent.perform index fun handle found =>
        consistent.take (consistent.cached handle (List.mem_of_getElem? found))
  | size index => exact consistent.perform index fun _ _ => consistent
  | grow index pages => exact absurd rfl (notGrow index pages)
  | read index offset count =>
      refine consistent.perform index fun handle found => ?_
      by_cases bounds : machine.manager.inner.inBounds handle.id offset count
      · have left := (consistent.read found bounds).2.2
        rwa [Machine.step, Machine.perform, found] at left
      · by_cases empty : count = 0
        · subst empty
          exact consistent.unchanged found rfl
        · exact consistent.unchanged found (read_panics empty bounds _)
  | write index offset source =>
      refine consistent.perform index fun handle found => ?_
      by_cases bounds : machine.manager.inner.inBounds handle.id offset source.length
      · have left := (consistent.write found bounds).2.2
        rwa [Machine.step, Machine.perform, found] at left
      · by_cases empty : source = []
        · subst empty
          exact consistent.unchanged found rfl
        · exact consistent.unchanged found (write_panics empty bounds _)

theorem Consistent.step (consistent : Consistent owners machine) (call : Call) :
    ∃ owners, Consistent owners (machine.step call).2 := by
  by_cases grows : ∃ index pages, call = .grow index pages
  · obtain ⟨index, pages, rfl⟩ := grows
    rw [Machine.step, Machine.perform]
    cases machine.handles[index]? with
    | none => exact ⟨owners, consistent⟩
    | some handle => exact consistent.grow handle.id pages
  · exact ⟨owners, consistent.step_same fun index pages same => grows ⟨index, pages, same⟩⟩

theorem Consistent.run (calls : List Call) :
    ∀ {owners : List MemoryId} {machine : Machine}, Consistent owners machine →
      ∃ owners, Consistent owners (machine.run calls).2 := by
  induction calls with
  | nil =>
      intro owners machine consistent
      exact ⟨owners, consistent⟩
  | cons call calls ih =>
      intro owners machine consistent
      obtain ⟨ownersAfter, next⟩ := consistent.step call
      exact ih next

/-- Whatever the raw memory holds, the strict loader writes nothing unless it is
empty.  If it accepts, then after any calls through any handles the tables
still represent the raw memory, and accesses inside a memory end well and touch
its own buckets only. -/
theorem strict_load_accepts_only_layouts (bucketSize : UInt16) (raw : Raw) :
    (raw.memory.pages ≠ 0 → (MemoryManager.initStrictWithBucketSize bucketSize raw).2 = raw) ∧
      ∀ inner after, MemoryManager.initStrictWithBucketSize bucketSize raw = (.ok inner, after) →
        ∀ calls machine, machine = (Machine.run ⟨⟨inner, after⟩, []⟩ calls).2 →
          Representation machine.manager.inner machine.manager.raw.memory ∧
          ∀ index handle, machine.handles[index]? = some handle → ∀ offset,
            (∀ count, machine.manager.inner.inBounds handle.id offset count →
              (∃ address : Nat → Nat,
                (∀ position, position < count →
                  machine.manager.inner.inBuckets handle.id (address position)) ∧
                (machine.step (.read index offset count)).1 = .bytes ((List.range count).map fun position =>
                  machine.manager.raw.memory.bytes (address position))) ∧
              (machine.step (.read index offset count)).2.manager = machine.manager) ∧
            ∀ source, machine.manager.inner.inBounds handle.id offset source.length →
              (machine.step (.write index offset source)).1 = .done ∧
              ∀ address, ¬ machine.manager.inner.inBuckets handle.id address →
                (machine.step (.write index offset source)).2.manager.raw.memory.bytes address =
                  machine.manager.raw.memory.bytes address := by
  refine ⟨fun some => (initStrict_keeps bucketSize some raw rfl).1, ?_⟩
  rintro inner after ended calls _ rfl
  obtain ⟨owners, laid, _⟩ := initStrict_returned ended
  have loaded : Consistent owners ⟨⟨inner, after⟩, []⟩ := ⟨laid, by simp⟩
  obtain ⟨ownersAfter, consistent⟩ := Consistent.run calls loaded
  refine ⟨consistent.laid.representation, fun index handle found offset => ⟨fun count bounds => ?_, ?_⟩⟩
  · obtain ⟨answered, same, _⟩ := consistent.read found bounds
    exact ⟨answered, same⟩
  · intro source bounds
    obtain ⟨done, outside, _⟩ := consistent.write found bounds
    exact ⟨done, outside⟩

theorem strict_load_accepts_a_written_layout :
    ∃ raw inner, raw.memory.pages ≠ 0 ∧ (MemoryManager.initStrictWithBucketSize 64 raw).2 = raw ∧
      MemoryManager.initStrictWithBucketSize 64 raw = (.ok inner, raw) ∧
      ∀ machine, machine = (Machine.run ⟨⟨inner, raw⟩, []⟩ [Call.get ⟨3, by decide⟩, .grow 0 200]).2 →
        Representation machine.manager.inner machine.manager.raw.memory := by
  have nonzero : (128 : UInt16) ≠ 0 := by decide
  have other : (64 : UInt16) ≠ 0 := by decide
  obtain ⟨manager, setUp⟩ := setUp_granted nonzero fun _ => true
  have laid := setUp.simulates.laid
  have some : manager.raw.memory.pages ≠ 0 := Nat.one_le_iff_ne_zero.mp laid.offsetPages
  have ended := setUp.simulates.recorded.initStrict_eq laid other
  obtain ⟨kept, represented⟩ := strict_load_accepts_only_layouts 64 manager.raw
  exact ⟨manager.raw, manager.inner, some, kept some, ended,
    fun machine ran => (represented manager.inner manager.raw ended _ machine ran).1⟩

end IcSqliteVfs.Stable
