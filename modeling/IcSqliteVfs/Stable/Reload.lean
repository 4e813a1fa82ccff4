import IcSqliteVfs.Stable.VirtualMemory

namespace IcSqliteVfs.Stable

open IcSqliteVfs.Data IcSqliteVfs.Semantics

/-! # Reloading a manager from its raw memory

The order of an id's buckets is not stored: it comes back from the table that
says who owns each bucket.
-/

variable {owners : List MemoryId} {inner : MemoryManagerInner} {memory : Memory}

/-! ## Reading the header back -/

/-- The first chunk of the header, byte for byte. -/
theorem header_front (inner : MemoryManagerInner) :
    ∃ rest, inner.header = managerMagic ++ [layoutVersion] ++ leBytes 2 inner.allocatedBuckets ++
      leBytes 2 inner.bucketSizeInPages ++ rest := by
  rw [MemoryManagerInner.header, MemoryManagerInner.headerChunks, List.cons_append, List.flatten_cons]
  exact ⟨_, rfl⟩

theorem header_magic (inner : MemoryManagerInner) : window inner.header 0 3 = managerMagic := by
  obtain ⟨rest, front⟩ := header_front inner
  rw [front]
  rfl

theorem header_version (inner : MemoryManagerInner) : inner.header.getD 3 0 = layoutVersion := by
  obtain ⟨rest, front⟩ := header_front inner
  rw [front]
  rfl

theorem header_allocatedBuckets (inner : MemoryManagerInner) :
    window inner.header 4 2 = leBytes 2 inner.allocatedBuckets := by
  obtain ⟨rest, front⟩ := header_front inner
  rw [front]
  rfl

theorem header_bucketSizeInPages (inner : MemoryManagerInner) :
    window inner.header 6 2 = leBytes 2 inner.bucketSizeInPages := by
  obtain ⟨rest, front⟩ := header_front inner
  rw [front]
  rfl

theorem headerChunks_size (inner : MemoryManagerInner) (id : MemoryId) :
    inner.headerChunks[5 + id.val]? = some (leBytes 8 (inner.memorySizesInPages id)) := by
  have reserved : 5 ≤ 5 + id.val := Nat.le_add_right _ _
  rw [MemoryManagerInner.headerChunks, List.getElem?_append_right (by simp [headerReservedBytes])]
  simp [headerReservedBytes]

theorem readMemorySizes_header (laid : Laid owners inner memory) :
    MemoryManagerInner.readMemorySizes inner.header = inner.memorySizesInPages := by
  funext id
  have position : 3 + 1 + 2 + 2 + headerReservedBytes + id.val * 8 = (5 + id.val) * 8 := by
    rw [headerReservedBytes]
    omega
  have chunk := window_flatten [] inner.headerChunks_width (headerChunks_size inner id)
  have small : inner.memorySizesInPages id < 256 ^ 8 := by
    have bytes := laid.addressable id
    simp only [stablePageSize, u64Bound] at bytes
    omega
  rw [List.append_nil] at chunk
  rw [MemoryManagerInner.readMemorySizes, position, MemoryManagerInner.header, chunk, leValue_leBytes_of_lt small]

theorem MemoryId.byte_toNat (id : MemoryId) : id.byte.toNat = id.val := by
  have bound : id.val < 255 := id.isLt
  rw [MemoryId.byte, UInt8.toNat_ofNat']
  omega

/-! ## Rebuilding the tables -/

/-- The loop over the table rebuilds every list in order. -/
theorem pushBuckets_owned (rest : List MemoryId) :
    ∀ owners : List MemoryId, MemoryManagerInner.pushBuckets (rest.map MemoryId.byte) owners.length (owned owners) =
      .ok (owned (owners ++ rest)) := by
  induction rest with
  | nil =>
      intro owners
      rw [List.append_nil]
      rfl
  | cons id rest ih =>
      intro owners
      have valid : id.byte.toNat < maxNumMemories := by
        rw [id.byte_toNat]
        exact id.isLt
      have same : (⟨id.byte.toNat, valid⟩ : MemoryId) = id := Fin.ext id.byte_toNat
      have pushed : Function.update (owned owners) id (owned owners id ++ [owners.length]) =
          owned (owners ++ [id]) := by
        funext other
        rw [Function.update_apply, owned_concat]
        by_cases mine : other = id
        · subst mine
          rw [if_pos rfl]
        · rw [if_neg mine, if_neg (Ne.symm mine)]
      have next := ih (owners ++ [id])
      rw [List.length_append, List.append_assoc] at next
      rw [List.map_cons, MemoryManagerInner.pushBuckets, dif_pos valid, same, pushed]
      exact next

theorem validatedBuckets_owned {rest : List UInt8} (unowned : ∀ byte ∈ rest, byte = unallocatedBucketMarker) :
    MemoryManagerInner.validatedBuckets (owners.map MemoryId.byte ++ rest) owners.length = .ok (owned owners) := by
  have length : (owners.map MemoryId.byte).length = owners.length := List.length_map _
  have taken : (owners.map MemoryId.byte ++ rest).take owners.length = owners.map MemoryId.byte := by
    rw [← length, List.take_left]
  have dropped : (owners.map MemoryId.byte ++ rest).drop owners.length = rest := by
    rw [← length, List.drop_left]
  have pushed : MemoryManagerInner.pushBuckets (owners.map MemoryId.byte) 0 (fun _ => []) = .ok (owned owners) :=
    pushBuckets_owned owners []
  have none : rest.any (· != unallocatedBucketMarker) = false := by
    rw [List.any_eq_false]
    intro byte member
    simp [unowned byte member]
  rw [MemoryManagerInner.validatedBuckets, taken, pushed, dropped]
  dsimp only
  rw [none]
  rfl

theorem validateMemorySizesFitBytes_of (laid : Laid owners inner memory) :
    MemoryManagerInner.validateMemorySizesFitBytes inner.memorySizesInPages = .ok () := by
  have none : (List.finRange maxNumMemories).find? (fun id =>
      u64Bound ≤ inner.memorySizesInPages id * stablePageSize) = none := by
    rw [List.find?_eq_none]
    intro id _
    have fits := laid.addressable id
    simpa using fits
  rw [MemoryManagerInner.validateMemorySizesFitBytes, none]

theorem validateBucketCounts_of (laid : Laid owners inner memory) :
    MemoryManagerInner.validateBucketCounts inner.bucketSizeInPages inner.memorySizesInPages (owned owners) =
      .ok () := by
  have none : (List.finRange maxNumMemories).find? (fun id =>
      (inner.memorySizesInPages id + inner.bucketSizeInPages - 1) / inner.bucketSizeInPages !=
        (owned owners id).length) = none := by
    rw [List.find?_eq_none]
    intro id _
    have counted := laid.sizes id
    rw [MemoryManagerInner.numBucketsNeeded] at counted
    simp [counted]
  rw [MemoryManagerInner.validateBucketCounts, none]

theorem validateBackingMemorySize_of (laid : Laid owners inner memory) :
    MemoryManagerInner.validateBackingMemorySize memory.pages inner.allocatedBuckets inner.bucketSizeInPages =
      .ok () := by
  have enough := laid.pages
  have limit : inner.bucketSizeInPages * owners.length ≤ u16Bound * maxNumBuckets :=
    Nat.mul_le_mul laid.unitLimit.le laid.limit
  have small : ¬ (u64Bound ≤ inner.bucketSizeInPages * owners.length ∨
      u64Bound ≤ bucketsOffsetInPages + inner.bucketSizeInPages * owners.length) := by
    simp only [u16Bound, maxNumBuckets, u64Bound, bucketsOffsetInPages] at limit ⊢
    omega
  rw [MemoryManagerInner.validateBackingMemorySize, laid.allocated, if_neg small, if_neg (Nat.not_lt.mpr enough)]

/-- What a manager recorded is validated and gives its tables back. -/
theorem tryLoadValidatedLayout_of {rest : List UInt8} (laid : Laid owners inner memory)
    (unowned : ∀ byte ∈ rest, byte = unallocatedBucketMarker) :
    MemoryManagerInner.tryLoadValidatedLayout memory.pages inner.header (owners.map MemoryId.byte ++ rest) =
      .ok inner := by
  have few : inner.allocatedBuckets ≤ maxNumBuckets := by
    rw [laid.allocated]
    exact laid.limit
  have allocated : leValue (window inner.header 4 2) = inner.allocatedBuckets := by
    rw [header_allocatedBuckets, leValue_leBytes_of_lt]
    exact Nat.lt_of_le_of_lt few (by decide)
  have unit : leValue (window inner.header 6 2) = inner.bucketSizeInPages := by
    rw [header_bucketSizeInPages, leValue_leBytes_of_lt]
    exact laid.unitLimit
  have buckets : owned owners = inner.memoryBuckets := by
    funext id
    rw [laid.buckets]
  rw [MemoryManagerInner.tryLoadValidatedLayout, allocated, unit, readMemorySizes_header laid]
  dsimp only
  rw [if_neg (Nat.not_lt.mpr few), if_neg laid.unit.ne', validateMemorySizesFitBytes_of laid]
  have validated := @validatedBuckets_owned owners rest unowned
  rw [← laid.allocated] at validated
  have counted := validateBucketCounts_of laid
  rw [buckets] at validated counted
  simp only [bind, Except.bind, validated, counted, validateBackingMemorySize_of laid]

theorem Recorded.read_header (recorded : Recorded owners inner memory) :
    memory.read 0 headerSize = inner.header := by
  apply ext_getD 0 (by simp)
  intro index inside
  rw [Memory.length_read] at inside
  rw [Memory.getD_read, if_pos inside, Nat.zero_add]
  exact recorded.header index inside

theorem Recorded.read_table (laid : Laid owners inner memory) (recorded : Recorded owners inner memory) :
    ∃ rest, memory.read (bucketAllocationsAddress 0) maxNumBuckets = owners.map MemoryId.byte ++ rest ∧
      ∀ byte ∈ rest, byte = unallocatedBucketMarker := by
  refine ⟨List.replicate (maxNumBuckets - owners.length) unallocatedBucketMarker, ?_,
    fun byte member => List.eq_of_mem_replicate member⟩
  have limit := laid.limit
  apply ext_getD unallocatedBucketMarker
  · rw [Memory.length_read, List.length_append, List.length_map, List.length_replicate]
    omega
  · intro slot inside
    have length : (owners.map MemoryId.byte).length = owners.length := List.length_map _
    rw [Memory.length_read] at inside
    have stored : (memory.read (bucketAllocationsAddress 0) maxNumBuckets).getD slot unallocatedBucketMarker =
        memory.bytes (headerSize + slot) := (getD_map_range _ _ _ _).trans (if_pos inside)
    rw [stored, recorded.table slot inside, getD_append, getD_replicate, length]
    split
    · rfl
    · exact List.getD_eq_default _ _ (by omega)

/-! ## Initialising over a recorded layout -/

section Initialised

variable {raw : Raw} (laid : Laid owners inner raw.memory) (recorded : Recorded owners inner raw.memory)
include laid recorded

theorem Recorded.rawRead_header : rawRead 0 headerSize raw = (.ok inner.header, raw) := by
  have space := header_table_room laid.offsetPages
  rw [rawRead_of (by omega), recorded.read_header]

theorem Recorded.rawRead_magic : rawRead 0 3 raw = (.ok managerMagic, raw) := by
  have space := header_table_room laid.offsetPages
  have few : 3 ≤ headerSize := by decide
  have front : raw.memory.read 0 3 = window (raw.memory.read 0 headerSize) 0 3 := by
    rw [window, List.drop_zero, Memory.read, Memory.read, ← List.map_take, List.take_range, Nat.min_eq_left few]
  rw [rawRead_of (by omega), front, recorded.read_header, header_magic]

theorem Recorded.rawRead_table :
    ∃ rest, rawRead (bucketAllocationsAddress 0) maxNumBuckets raw =
        (.ok (owners.map MemoryId.byte ++ rest), raw) ∧
      ∀ byte ∈ rest, byte = unallocatedBucketMarker := by
  have space : bucketAllocationsAddress 0 + maxNumBuckets ≤ raw.memory.capacity :=
    header_table_room laid.offsetPages
  obtain ⟨rest, table, unowned⟩ := recorded.read_table laid
  exact ⟨rest, by rw [rawRead_of space, table], unowned⟩

theorem Recorded.load_eq : MemoryManagerInner.load raw = (.ok inner, raw) := by
  obtain ⟨rest, tableRead, unowned⟩ := recorded.rawRead_table laid
  have sized : rawSize raw = (.ok raw.memory.pages, raw) := rfl
  rw [MemoryManagerInner.load, Action.bind_of_ok _ (recorded.rawRead_header laid),
    Action.bind_of_ok _ (Action.require_of (header_magic inner)),
    Action.bind_of_ok _ (Action.require_of (header_version inner)), Action.bind_of_ok _ tableRead,
    Action.bind_of_ok _ sized, tryLoadValidatedLayout_of laid unowned]
  rfl

theorem Recorded.tryLoad_eq : MemoryManagerInner.tryLoad raw = (.ok inner, raw) := by
  obtain ⟨rest, tableRead, unowned⟩ := recorded.rawRead_table laid
  have sized : rawSize raw = (.ok raw.memory.pages, raw) := rfl
  rw [MemoryManagerInner.tryLoad, Action.bind_of_ok _ (recorded.rawRead_header laid),
    if_neg (not_not.mpr (header_magic inner)), if_neg (not_not.mpr (header_version inner)),
    Action.bind_of_ok _ tableRead, Action.bind_of_ok _ sized, tryLoadValidatedLayout_of laid unowned]
  rfl

theorem Recorded.init_eq {bucketSize : UInt16} (nonzero : bucketSize ≠ 0) :
    MemoryManager.initWithBucketSize bucketSize raw = (.ok inner, raw) := by
  have some : raw.memory.pages ≠ 0 := Nat.one_le_iff_ne_zero.mp laid.offsetPages
  have sized : rawSize raw = (.ok raw.memory.pages, raw) := rfl
  rw [MemoryManager.initWithBucketSize, if_neg nonzero, MemoryManagerInner.init, Action.bind_of_ok _ sized,
    if_neg some, Action.bind_of_ok _ (recorded.rawRead_magic laid), if_pos rfl, recorded.load_eq laid]

theorem Recorded.initStrict_eq {bucketSize : UInt16} (nonzero : bucketSize ≠ 0) :
    MemoryManager.initStrictWithBucketSize bucketSize raw = (.ok inner, raw) := by
  have some : raw.memory.pages ≠ 0 := Nat.one_le_iff_ne_zero.mp laid.offsetPages
  have sized : rawSize raw = (.ok raw.memory.pages, raw) := rfl
  rw [MemoryManager.initStrictWithBucketSize, if_neg nonzero, MemoryManagerInner.initStrict,
    Action.bind_of_ok _ sized, if_neg some, Action.bind_of_ok _ (recorded.rawRead_magic laid),
    if_neg (not_not.mpr rfl), recorded.tryLoad_eq laid]

end Initialised

/-! ## Reloading after a run -/

variable {bucketSize : UInt16} {grants reserves : Nat → Bool} {manager : Manager}

/-- A handle taken from the reloaded manager sees what the old handle sees. -/
theorem Simulates.reloaded {machine : Machine} {isolated : Isolated} {raw : Raw} {index : Nat}
    {handle : VirtualMemory} (simulates : Simulates owners machine isolated)
    (same : raw.memory = machine.manager.raw.memory) (found : machine.handles[index]? = some handle) :
    ∀ reloaded, reloaded = Machine.mk ⟨machine.manager.inner, raw⟩ [⟨handle.id, BucketCache.new⟩] →
      (reloaded.step (.size 0)).1 = (machine.step (.size index)).1 ∧
      ∀ offset count, (reloaded.step (.read 0 offset count)).1 = (machine.step (.read index offset count)).1 := by
  rintro _ rfl
  have fresh : Simulates owners ⟨⟨machine.manager.inner, raw⟩, [⟨handle.id, BucketCache.new⟩]⟩
      ⟨isolated.memories, [handle.id]⟩ := by
    refine ⟨?_, ?_, ?_, rfl, ?_⟩
    · rw [same]
      exact simulates.laid
    · rw [same]
      exact simulates.recorded
    · rw [same]
      exact simulates.holds
    · intro other member
      rw [List.mem_singleton.mp member]
      exact cached_new _ _
  have foundId : isolated.handles[index]? = some handle.id := by
    rw [simulates.handles, List.getElem?_map, found]
    rfl
  constructor
  · rw [Machine.step, Machine.step, Machine.perform, Machine.perform, found]
    rfl
  · intro offset count
    obtain ⟨_, sameFresh, _⟩ := fresh.step (.read 0 offset count)
    obtain ⟨_, sameOld, _⟩ := simulates.step (.read index offset count)
    rw [sameFresh, sameOld]
    exact Isolated.read_congr offset count rfl foundId rfl

/-- Whatever calls were made, initialising a manager over the raw memory they
leave, strictly or not and under any answers of the environment to come, gives
the same tables and changes nothing, so doing it again does the same; and
fresh handles see the same sizes and bytes. -/
theorem layout_survives_reload (setUp : SetUp bucketSize grants reserves manager) (calls : List Call) :
    ∀ machine, machine = (Machine.run ⟨manager, []⟩ calls).2 →
      ∀ raw : Raw, raw.memory = machine.manager.raw.memory → ∀ requested : UInt16, requested ≠ 0 →
        MemoryManager.initWithBucketSize requested raw = (.ok machine.manager.inner, raw) ∧
        MemoryManager.initStrictWithBucketSize requested raw = (.ok machine.manager.inner, raw) ∧
        ∀ index handle, machine.handles[index]? = some handle →
          ∀ reloaded, reloaded = Machine.mk ⟨machine.manager.inner, raw⟩ [⟨handle.id, BucketCache.new⟩] →
            (reloaded.step (.size 0)).1 = (machine.step (.size index)).1 ∧
            ∀ offset count,
              (reloaded.step (.read 0 offset count)).1 = (machine.step (.read index offset count)).1 := by
  rintro _ rfl raw same requested nonzero
  obtain ⟨_, _, owners, simulates⟩ := Simulates.run calls setUp.simulates
  have laid := simulates.laid
  have recorded := simulates.recorded
  rw [← same] at laid recorded
  exact ⟨recorded.init_eq laid nonzero, recorded.initStrict_eq laid nonzero,
    fun index handle found => simulates.reloaded same found⟩

theorem layout_survives_reload_after_grows :
    ∃ manager, SetUp 128 (fun _ => true) (fun _ => true) manager ∧
      ∀ machine, machine = (Machine.run ⟨manager, []⟩ [Call.get ⟨0, by decide⟩, .get ⟨1, by decide⟩,
          .grow 0 1, .grow 1 200, .grow 0 300, .grow 0 0, .write 0 8388600 [1, 2, 3]]).2 →
        (64 : UInt16) ≠ 0 ∧
        MemoryManager.initStrictWithBucketSize 64 machine.manager.raw =
          (.ok machine.manager.inner, machine.manager.raw) := by
  have nonzero : (128 : UInt16) ≠ 0 := by decide
  have other : (64 : UInt16) ≠ 0 := by decide
  obtain ⟨manager, setUp⟩ := setUp_granted nonzero fun _ => true
  refine ⟨manager, setUp, fun machine ran => ⟨other, ?_⟩⟩
  exact (layout_survives_reload setUp _ machine ran machine.manager.raw rfl 64 other).2.1

end IcSqliteVfs.Stable
