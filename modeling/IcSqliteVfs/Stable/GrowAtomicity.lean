import IcSqliteVfs.Stable.GrowFault

namespace IcSqliteVfs.Stable

open IcSqliteVfs.Data IcSqliteVfs.Semantics

/-! # Grows over whole runs

Over runs in which grows may panic and be caught, the table names nobody past
the count, so the guard always restores what was there.
-/

variable {write : RawWrite} {id : MemoryId} {inner : MemoryManagerInner} {raw : Raw} {count newSize : Nat}

/-! ## The table stays vacant past the count -/

theorem Unwound.vacant {before after : Manager} (vacant : Vacant before)
    (unwound : Unwound id newSize count before after) : Vacant after where
  offsetPages := vacant.offsetPages.trans unwound.pages
  limit := unwound.limit
  free := by
    intro slot past inside
    rw [unwound.bytes]
    exact vacant.free slot (unwound.allocated.trans past) inside

theorem Vacant.growBuckets (vacant : Vacant ⟨inner, raw⟩) (room : inner.allocatedBuckets + count ≤ maxNumBuckets)
    (id : MemoryId) (newSize : Nat) :
    ∃ grown after, Stable.growBuckets writeGrowing id newSize count ⟨inner, raw⟩ = (.ok grown, after) ∧
      Vacant after := by
  rcases @growBuckets_cases inner id newSize count raw vacant.offsetPages room with refused | granted
  · obtain ⟨after, ended, sameInner, sameMemory⟩ := refused
    refine ⟨false, after, ended, ?_, ?_, ?_⟩
    · rw [sameMemory]
      exact vacant.offsetPages
    · rw [sameInner]
      exact vacant.limit
    · rw [sameInner, sameMemory]
      exact vacant.free
  · obtain ⟨grown, after, middle, ended, bytes, more, _, allocated, innerEq, memoryEq⟩ := granted
    have offsetPages : bucketsOffsetInPages ≤ middle.raw.memory.pages := by
      rw [allocated.pages]
      exact vacant.offsetPages.trans more
    have counted : after.inner.allocatedBuckets = inner.allocatedBuckets + count := by
      rw [innerEq]
      exact allocated.allocatedBuckets
    refine ⟨true, after, ended, ?_, ?_, ?_⟩
    · rw [memoryEq]
      exact offsetPages
    · rw [counted]
      exact room
    · intro slot past inside
      rw [counted] at past
      have free := vacant.free slot (by dsimp only; omega) inside
      rw [memoryEq, header_bytes offsetPages, if_neg (by omega), allocated.bytes, if_neg (by dsimp only; omega),
        bytes]
      exact free

theorem Vacant.grow {before : Manager} (vacant : Vacant before) (id : MemoryId) (pages : Nat) :
    Vacant (Manager.grow id pages before).2 := by
  obtain ⟨inner, raw⟩ := before
  rcases growVia_cases writeGrowing id pages inner raw with refused | ⟨count, _, room, asked⟩
  · rw [Manager.grow, refused]
    exact vacant
  · obtain ⟨grown, after, ended, left⟩ := vacant.growBuckets room id (inner.memorySizesInPages id + pages)
    rw [Manager.grow, asked, Action.bind_of_ok _ ended]
    exact left

/-- A cache in use points behind the table. -/
def BucketCache.behindTable (cache : BucketCache) : Prop :=
  0 < cache.bucket.length → bucketsOffsetInBytes ≤ cache.realAddress

theorem BucketCache.behindTable_get {cache : BucketCache} (behind : cache.behindTable) {offset count real : Nat}
    (nonempty : 0 < count) (hit : cache.get ⟨offset, count⟩ = some real) : bucketsOffsetInBytes ≤ real := by
  rw [BucketCache.get] at hit
  split at hit
  · rename_i contained
    cases hit
    have length : 0 < cache.bucket.length := by
      simp only [VirtualSegment.contains, virtualSegmentContains] at contained
      split at contained
      · cases contained
      · split at contained
        · cases contained
        · simp only [Bool.and_eq_true, decide_eq_true_eq] at contained
          omega
    have far := behind length
    omega
  · cases hit

/-- What no access through any handle changes: the size, and what lies before the buckets. -/
structure Fronted (before : Memory) (access : Access) : Prop where
  pages : access.raw.memory.pages = before.pages
  bytes : ∀ address, address < bucketsOffsetInBytes → access.raw.memory.bytes address = before.bytes address
  cache : access.cache.behindTable

section Accesses

variable {before : Memory} {α : Type}

theorem rawRead_fronted (offset count : Nat) :
    Action.Keeps (Fronted before) (onAccessRaw (rawRead offset count)) fun _ => True := by
  rintro ⟨raw, cache⟩ fronted
  refine ⟨?_, fun _ _ => trivial⟩
  have same := (rawRead_keeps raw offset count raw rfl).1
  change Fronted before ⟨(rawRead offset count raw).2, cache⟩
  rw [same]
  exact fronted

theorem rawWrite_fronted {offset : Nat} (behind : bucketsOffsetInBytes ≤ offset) (bytes : List UInt8) :
    Action.Keeps (Fronted before) (onAccessRaw (rawWrite offset bytes)) fun _ => True := by
  rintro ⟨raw, cache⟩ fronted
  refine ⟨?_, fun _ _ => trivial⟩
  by_cases room : offset + bytes.length ≤ raw.memory.capacity
  · rw [onAccessRaw_of (rawWrite_of room)]
    refine ⟨fronted.pages, fun address low => ?_, fronted.cache⟩
    rw [Memory.write_bytes _ room, if_neg (by omega)]
    exact fronted.bytes address low
  · have panicked : rawWrite offset bytes raw = (.panic, raw) := by
      rw [rawWrite, Action.read_bind_apply, Action.require, if_neg room]
      rfl
    rw [onAccessRaw_of panicked]
    exact fronted

theorem forEachBucket_fronted {body : Nat → Nat → Nat → AccessM (List UInt8)}
    (piece : ∀ address length handled, bucketsOffsetInBytes ≤ address →
      Action.Keeps (Fronted before) (body address length handled) fun _ => True) (turns : Nat) :
    ∀ bucketIdx bucketOffset count handled,
      Action.Keeps (Fronted before) (inner.forEachBucket id body turns bucketIdx bucketOffset count handled)
        fun _ => True := by
  induction turns with
  | zero =>
      intro bucketIdx bucketOffset count handled
      exact Action.keeps_pure trivial
  | succ turns ih =>
      intro bucketIdx bucketOffset count handled
      rw [MemoryManagerInner.forEachBucket]
      split
      · split
        · exact Action.keeps_panic
        · rename_i bucket _
          have behind : bucketsOffsetInBytes ≤ inner.bucketAddress bucket := Nat.le_add_right _ _
          refine (Action.keeps_modify fun access fronted => ?_).bind fun _ _ =>
            (piece _ _ _ (behind.trans (Nat.le_add_right _ _))).bind fun _ _ =>
              (ih _ _ _ _).bind fun _ _ => Action.keeps_pure trivial
          exact ⟨fronted.pages, fronted.bytes, fun _ => behind⟩
      · exact Action.keeps_pure trivial

theorem assertBounds_fronted (offset count : Nat) :
    Action.Keeps (Fronted before) (inner.assertBounds id offset count) fun _ => True :=
  (Action.keeps_require _).bind fun _ _ => (Action.keeps_require _).bind fun _ _ =>
    (Action.keeps_require _).imp fun _ _ => trivial

theorem read_fronted (offset count : Nat) :
    Action.Keeps (Fronted before) (inner.read id offset count) fun _ => True := by
  rw [MemoryManagerInner.read]
  split
  · exact Action.keeps_pure trivial
  · refine (assertBounds_fronted offset count).bind fun _ _ => Action.keeps_read.bind fun access _ => ?_
    split
    · exact rawRead_fronted _ _
    · exact forEachBucket_fronted (fun address length _ _ => rawRead_fronted address length) _ _ _ _ _

theorem write_fronted (offset : Nat) (source : List UInt8) :
    Action.Keeps (Fronted before) (inner.write id offset source) fun _ => True := by
  rw [MemoryManagerInner.write]
  split
  · exact Action.keeps_pure trivial
  · rename_i some
    have nonempty : 0 < source.length := List.length_pos_iff.mpr fun none => some (List.isEmpty_iff.mpr none)
    refine (assertBounds_fronted offset _).bind fun _ _ => Action.keeps_read.bind fun access fronted => ?_
    split
    · rename_i real hit
      exact rawWrite_fronted (BucketCache.behindTable_get fronted.cache nonempty hit) source
    · refine (forEachBucket_fronted (fun address length written behind => ?_) _ _ _ _ _).bind fun _ _ =>
        Action.keeps_pure trivial
      exact (rawWrite_fronted behind _).bind fun _ _ => Action.keeps_pure trivial

end Accesses

theorem Vacant.fronted {manager : Manager} {access : Access} (vacant : Vacant manager)
    (fronted : Fronted manager.raw.memory access) : Vacant { manager with raw := access.raw } where
  offsetPages := by
    rw [fronted.pages]
    exact vacant.offsetPages
  limit := vacant.limit
  free := by
    intro slot past inside
    have low : headerSize + maxNumBuckets ≤ bucketsOffsetInBytes := by decide
    change access.raw.memory.bytes (headerSize + slot) = _
    rw [fronted.bytes _ (by omega)]
    exact vacant.free slot past inside

/-! ## Runs in which grows may panic and be caught -/

structure Undamaged (machine : Machine) : Prop where
  vacant : Vacant machine.manager
  caches : ∀ handle ∈ machine.handles, handle.cache.behindTable

variable {machine : Machine} {index : Nat} {handle : VirtualMemory}

theorem Undamaged.access {α : Type} {call : AccessM α} {answer : α → Answer} (undamaged : Undamaged machine)
    (found : machine.handles[index]? = some handle)
    (keeps : Action.Keeps (Fronted machine.manager.raw.memory) call fun _ => True) :
    Undamaged (machine.access index handle call answer).2 := by
  have start : Fronted machine.manager.raw.memory ⟨machine.manager.raw, handle.cache⟩ :=
    ⟨rfl, fun _ _ => rfl, undamaged.caches handle (List.mem_of_getElem? found)⟩
  have left := (keeps _ start).1
  refine ⟨undamaged.vacant.fronted left, ?_⟩
  intro other member
  rcases List.mem_or_eq_of_mem_set member with old | new
  · exact undamaged.caches other old
  · rw [new]
    exact left.cache

/-- A change of handles, caches and bytes of buckets. -/
structure FrontKept (before after : Machine) : Prop where
  inner : after.manager.inner = before.manager.inner
  pages : after.manager.raw.memory.pages = before.manager.raw.memory.pages
  bytes : ∀ address, address < bucketsOffsetInBytes →
    after.manager.raw.memory.bytes address = before.manager.raw.memory.bytes address

theorem Undamaged.access_front {α : Type} {call : AccessM α} {answer : α → Answer} (undamaged : Undamaged machine)
    (found : machine.handles[index]? = some handle)
    (keeps : Action.Keeps (Fronted machine.manager.raw.memory) call fun _ => True) :
    FrontKept machine (machine.access index handle call answer).2 := by
  have start : Fronted machine.manager.raw.memory ⟨machine.manager.raw, handle.cache⟩ :=
    ⟨rfl, fun _ _ => rfl, undamaged.caches handle (List.mem_of_getElem? found)⟩
  have left := (keeps _ start).1
  exact ⟨rfl, left.pages, left.bytes⟩

theorem Undamaged.step_front (undamaged : Undamaged machine) {call : Call}
    (notGrow : ∀ index pages, call ≠ .grow index pages) : FrontKept machine (machine.step call).2 := by
  have same : FrontKept machine machine := ⟨rfl, rfl, fun _ _ => rfl⟩
  have performed : ∀ (index : Nat) {call : VirtualMemory → Answer × Machine},
      (∀ handle, machine.handles[index]? = some handle → FrontKept machine (call handle).2) →
        FrontKept machine (machine.perform index call).2 := by
    intro index call kept
    rw [Machine.perform]
    cases found : machine.handles[index]? with
    | none => exact same
    | some handle => exact kept handle found
  cases call with
  | get id => exact ⟨rfl, rfl, fun _ _ => rfl⟩
  | clone index => exact performed index fun _ _ => ⟨rfl, rfl, fun _ _ => rfl⟩
  | size index => exact performed index fun _ _ => same
  | grow index pages => exact absurd rfl (notGrow index pages)
  | read index offset count =>
      exact performed index fun handle found => undamaged.access_front found (read_fronted offset count)
  | write index offset source =>
      exact performed index fun handle found => undamaged.access_front found (write_fronted offset source)

theorem Undamaged.perform (undamaged : Undamaged machine) (index : Nat)
    {call : VirtualMemory → Answer × Machine}
    (kept : ∀ handle, machine.handles[index]? = some handle → Undamaged (call handle).2) :
    Undamaged (machine.perform index call).2 := by
  rw [Machine.perform]
  cases found : machine.handles[index]? with
  | none => exact undamaged
  | some handle => exact kept handle found

theorem Undamaged.take (undamaged : Undamaged machine) (behind : handle.cache.behindTable) :
    Undamaged { machine with handles := machine.handles ++ [handle] } := by
  refine ⟨undamaged.vacant, fun other member => ?_⟩
  rcases List.mem_append.mp member with old | new
  · exact undamaged.caches other old
  · rw [List.mem_singleton.mp new]
    exact behind

theorem Undamaged.step (undamaged : Undamaged machine) (call : Call) : Undamaged (machine.step call).2 := by
  cases call with
  | get id => exact undamaged.take fun impossible => absurd impossible (Nat.not_lt_zero _)
  | clone index =>
      exact undamaged.perform index fun handle found =>
        undamaged.take (undamaged.caches handle (List.mem_of_getElem? found))
  | size index => exact undamaged.perform index fun _ _ => undamaged
  | grow index pages =>
      exact undamaged.perform index fun handle _ => ⟨undamaged.vacant.grow handle.id pages, undamaged.caches⟩
  | read index offset count =>
      exact undamaged.perform index fun handle found => undamaged.access found (read_fronted offset count)
  | write index offset source =>
      exact undamaged.perform index fun handle found => undamaged.access found (write_fronted offset source)

/-- A manager over whatever raw memory. -/
inductive Created : Manager → Prop where
  | init {bucketSize : UInt16} {raw after : Raw} {inner : MemoryManagerInner}
      (ended : MemoryManager.initWithBucketSize bucketSize raw = (.ok inner, after)) : Created ⟨inner, after⟩
  | initStrict {bucketSize : UInt16} {raw after : Raw} {inner : MemoryManagerInner}
      (ended : MemoryManager.initStrictWithBucketSize bucketSize raw = (.ok inner, after)) : Created ⟨inner, after⟩

/-- The machines that come about: calls through handles, and grows that panic
and are caught. -/
inductive Reached : Machine → Prop where
  | created {manager : Manager} (created : Created manager) : Reached ⟨manager, []⟩
  | step {machine : Machine} (call : Call) (reached : Reached machine) : Reached (machine.step call).2
  | caught {machine : Machine} {write : RawWrite} (faulty : Faulty write) {id : MemoryId} {pages : Nat}
      {after : Manager} (ended : Manager.growVia write id pages machine.manager = (.panic, after))
      (reached : Reached machine) : Reached { machine with manager := after }

theorem Created.laid {manager : Manager} (created : Created manager) :
    ∃ owners, Laid owners manager.inner manager.raw.memory ∧ Tabled owners manager.raw.memory := by
  cases created with
  | init ended => exact init_returned ended
  | initStrict ended => exact initStrict_returned ended

theorem vacant_of_tabled {owners : List MemoryId} {after : Raw} (laid : Laid owners inner after.memory)
    (tabled : Tabled owners after.memory) : Vacant ⟨inner, after⟩ where
  offsetPages := laid.offsetPages
  limit := by
    rw [laid.allocated]
    exact laid.limit
  free := by
    intro slot past inside
    rw [laid.allocated] at past
    rw [tabled slot inside]
    exact List.getD_eq_default _ _ (by rwa [List.length_map])

theorem Reached.undamaged (reached : Reached machine) : Undamaged machine := by
  induction reached with
  | created created =>
      obtain ⟨owners, laid, tabled⟩ := created.laid
      exact ⟨vacant_of_tabled laid tabled, by simp⟩
  | step call _ ih => exact ih.step call
  | caught faulty ended _ ih =>
      obtain ⟨_, _, unwound⟩ := growVia_panicked faulty ih.vacant ended
      exact ⟨unwound.vacant ih.vacant, ih.caches⟩

/-! ## Reloading after a panic -/

theorem validateBackingMemorySize_more {size more allocated unit : Nat} (larger : size ≤ more)
    (accepted : MemoryManagerInner.validateBackingMemorySize size allocated unit = .ok ()) :
    MemoryManagerInner.validateBackingMemorySize more allocated unit = .ok () := by
  rw [MemoryManagerInner.validateBackingMemorySize] at accepted ⊢
  split at accepted
  · cases accepted
  · rename_i fits
    split at accepted
    · cases accepted
    · rw [if_neg fits, if_neg (by omega)]

/-- A layout that is accepted stays accepted when the raw memory grows. -/
theorem tryLoadValidatedLayout_more {size more : Nat} {header table : List UInt8} (larger : size ≤ more)
    (accepted : MemoryManagerInner.tryLoadValidatedLayout size header table = .ok inner) :
    MemoryManagerInner.tryLoadValidatedLayout more header table = .ok inner := by
  rw [MemoryManagerInner.tryLoadValidatedLayout] at accepted ⊢
  dsimp only at accepted ⊢
  split at accepted
  · cases accepted
  · rename_i few
    split at accepted
    · cases accepted
    · rename_i nonzero
      obtain ⟨_, fitting, sized⟩ := except_bind_eq_ok.mp accepted
      obtain ⟨buckets, pushed, owned⟩ := except_bind_eq_ok.mp sized
      obtain ⟨_, counted, backed⟩ := except_bind_eq_ok.mp owned
      obtain ⟨_, enough, finished⟩ := except_bind_eq_ok.mp backed
      rw [if_neg few, if_neg nonzero]
      exact except_bind_eq_ok.mpr ⟨_, fitting, except_bind_eq_ok.mpr ⟨_, pushed, except_bind_eq_ok.mpr
        ⟨_, counted, except_bind_eq_ok.mpr ⟨_, validateBackingMemorySize_more larger enough, finished⟩⟩⟩⟩

/-- A raw memory with the same header and table and possibly more pages. -/
structure Enlarged (before after : Raw) : Prop where
  offsetPages : bucketsOffsetInPages ≤ before.memory.pages
  pages : before.memory.pages ≤ after.memory.pages
  bytes : ∀ address, address < headerSize + maxNumBuckets →
    after.memory.bytes address = before.memory.bytes address

section Enlarged

variable {before after left : Raw} (enlarged : Enlarged before after)
include enlarged

theorem Enlarged.rawRead {offset length : Nat} {bytes : List UInt8} (low : offset + length ≤ headerSize + maxNumBuckets)
    (ended : Stable.rawRead offset length before = (.ok bytes, left)) :
    Stable.rawRead offset length after = (.ok bytes, after) ∧ left = before := by
  obtain ⟨sameRaw, rfl⟩ := rawRead_returned ended
  have room : offset + length ≤ after.memory.capacity :=
    (rawRead_room ended).trans (Nat.mul_le_mul_right _ enlarged.pages)
  have same : after.memory.read offset length = before.memory.read offset length :=
    Memory.read_congr fun address _ below => enlarged.bytes address (by omega)
  refine ⟨?_, sameRaw⟩
  rw [rawRead_of room, same]

theorem Enlarged.tryLoad (ended : MemoryManagerInner.tryLoad before = (.ok inner, left)) :
    MemoryManagerInner.tryLoad after = (.ok inner, after) ∧ MemoryManagerInner.load after = (.ok inner, after) ∧
      Stable.rawRead 0 3 after = (.ok managerMagic, after) := by
  rw [MemoryManagerInner.tryLoad] at ended
  obtain ⟨header, middle, headerRead, checked⟩ := Action.bind_eq_ok.mp ended
  obtain ⟨headerAgain, rfl⟩ := enlarged.rawRead (by decide) headerRead
  split at checked
  · cases checked
  · rename_i magic
    split at checked
    · cases checked
    · rename_i version
      obtain ⟨table, last, tableRead, sizing⟩ := Action.bind_eq_ok.mp checked
      have low : bucketAllocationsAddress 0 + maxNumBuckets ≤ headerSize + maxNumBuckets := Nat.le_refl _
      obtain ⟨tableAgain, rfl⟩ := enlarged.rawRead low tableRead
      obtain ⟨size, final, sized, validated⟩ := Action.bind_eq_ok.mp sizing
      have sizedAgain : rawSize after = (.ok after.memory.pages, after) := rfl
      obtain ⟨_, sizeEq⟩ := rawSize_returned sized
      have isMagic := not_not.mp magic
      have isVersion := not_not.mp version
      have front : Stable.rawRead 0 3 after = (.ok managerMagic, after) := by
        have few : 3 ≤ headerSize := by decide
        have room := rawRead_room headerAgain
        have headerEq := (rawRead_returned headerAgain).2
        rw [headerEq, window, List.drop_zero, Memory.read, ← List.map_take, List.take_range,
          Nat.min_eq_left few] at isMagic
        rw [rawRead_of (by omega)]
        exact congrArg (fun bytes => (Outcome.ok bytes, after)) isMagic
      cases accepted : MemoryManagerInner.tryLoadValidatedLayout size header table with
      | ok layout =>
          rw [accepted] at validated
          cases validated
          have again := tryLoadValidatedLayout_more (sizeEq ▸ enlarged.pages) accepted
          refine ⟨?_, ?_, front⟩
          · rw [MemoryManagerInner.tryLoad, Action.bind_of_ok _ headerAgain, if_neg magic, if_neg version,
              Action.bind_of_ok _ tableAgain, Action.bind_of_ok _ sizedAgain, again]
            rfl
          · rw [MemoryManagerInner.load, Action.bind_of_ok _ headerAgain,
              Action.bind_of_ok _ (Action.require_of isMagic), Action.bind_of_ok _ (Action.require_of isVersion),
              Action.bind_of_ok _ tableAgain, Action.bind_of_ok _ sizedAgain, again]
            rfl
      | error error =>
          rw [accepted] at validated
          cases validated

/-- What the strict loader makes of the raw memory before, both loaders make of
it after. -/
theorem Enlarged.reload {bucketSize : UInt16} (nonzero : bucketSize ≠ 0)
    (ended : MemoryManagerInner.tryLoad before = (.ok inner, left)) :
    MemoryManager.initStrictWithBucketSize bucketSize after = (.ok inner, after) ∧
      MemoryManager.initWithBucketSize bucketSize after = (.ok inner, after) := by
  obtain ⟨loadedStrict, loaded, front⟩ := enlarged.tryLoad ended
  have some : after.memory.pages ≠ 0 :=
    Nat.one_le_iff_ne_zero.mp (enlarged.offsetPages.trans enlarged.pages)
  have sized : rawSize after = (.ok after.memory.pages, after) := rfl
  constructor
  · rw [MemoryManager.initStrictWithBucketSize, if_neg nonzero, MemoryManagerInner.initStrict,
      Action.bind_of_ok _ sized, if_neg some, Action.bind_of_ok _ front, if_neg (not_not.mpr rfl), loadedStrict]
  · rw [MemoryManager.initWithBucketSize, if_neg nonzero, MemoryManagerInner.init, Action.bind_of_ok _ sized,
      if_neg some, Action.bind_of_ok _ front, if_pos rfl, loaded]

end Enlarged

/-! ## Runs without a panic -/

/-- The strict loader accepts what the other loader accepts. -/
theorem tryLoad_of_load {after : Raw} (ended : MemoryManagerInner.load raw = (.ok inner, after)) :
    MemoryManagerInner.tryLoad raw = (.ok inner, after) := by
  rw [MemoryManagerInner.load] at ended
  obtain ⟨header, middle, headerRead, afterHeader⟩ := Action.bind_eq_ok.mp ended
  obtain ⟨_, _, magic, afterMagic⟩ := Action.bind_eq_ok.mp afterHeader
  obtain ⟨isMagic, rfl⟩ := Action.require_eq_ok.mp magic
  obtain ⟨_, _, version, afterVersion⟩ := Action.bind_eq_ok.mp afterMagic
  obtain ⟨isVersion, rfl⟩ := Action.require_eq_ok.mp version
  obtain ⟨table, last, tableRead, sizing⟩ := Action.bind_eq_ok.mp afterVersion
  obtain ⟨size, final, sized, validated⟩ := Action.bind_eq_ok.mp sizing
  rw [MemoryManagerInner.tryLoad, Action.bind_of_ok _ headerRead, if_neg (not_not.mpr isMagic),
    if_neg (not_not.mpr isVersion), Action.bind_of_ok _ tableRead, Action.bind_of_ok _ sized]
  cases accepted : MemoryManagerInner.tryLoadValidatedLayout size header table with
  | ok layout =>
      rw [accepted] at validated
      cases validated
      rfl
  | error error =>
      rw [accepted] at validated
      cases validated

/-- The tables agree with the raw memory: they describe its buckets, and loading
it gives them back. -/
structure Faithful (owners : List MemoryId) (machine : Machine) : Prop where
  consistent : Consistent owners machine
  tabled : Tabled owners machine.manager.raw.memory
  reloads : MemoryManagerInner.tryLoad machine.manager.raw = (.ok machine.manager.inner, machine.manager.raw)

theorem Created.faithful {manager : Manager} (created : Created manager) :
    ∃ owners, Faithful owners ⟨manager, []⟩ := by
  have fresh : ∀ {bucketSize : UInt16} {raw after : Raw} {inner : MemoryManagerInner}, bucketSize ≠ 0 →
      MemoryManagerInner.new bucketSize raw = (.ok inner, after) →
      ∃ owners, Faithful owners ⟨⟨inner, after⟩, []⟩ := by
    intro bucketSize raw after inner nonzero ended
    obtain ⟨_, laid, recorded, _, _⟩ := new_returned nonzero ended
    exact ⟨[], ⟨laid, by simp⟩, recorded.table, recorded.tryLoad_eq laid⟩
  have loaded : ∀ {raw after : Raw} {inner : MemoryManagerInner},
      MemoryManagerInner.tryLoad raw = (.ok inner, after) → ∃ owners, Faithful owners ⟨⟨inner, after⟩, []⟩ := by
    intro raw after inner ended
    obtain ⟨rfl, owners, laid, tabled⟩ := tryLoad_returned ended
    exact ⟨owners, ⟨laid, by simp⟩, tabled, ended⟩
  cases created with
  | init ended =>
      rcases init_cases ended with ⟨nonzero, created⟩ | load
      · exact fresh nonzero created
      · exact loaded (tryLoad_of_load load)
  | initStrict ended =>
      rcases initStrict_cases ended with ⟨nonzero, _, created⟩ | ⟨_, load⟩
      · exact fresh nonzero created
      · exact loaded load

theorem Faithful.undamaged {owners : List MemoryId} (faithful : Faithful owners machine) : Undamaged machine where
  vacant := vacant_of_tabled faithful.consistent.laid faithful.tabled
  caches := by
    intro handle member
    cases faithful.consistent.cached handle member with
    | empty length =>
        intro positive
        rw [length] at positive
        exact absurd positive (Nat.not_lt_zero _)
    | bucket index bucket found segment real =>
        intro _
        rw [real]
        exact Nat.le_add_right _ _

section Faithful

variable {owners : List MemoryId}

theorem Faithful.enlarged (faithful : Faithful owners machine) {after : Raw}
    (pages : machine.manager.raw.memory.pages ≤ after.memory.pages)
    (bytes : ∀ address, address < bucketsOffsetInBytes →
      after.memory.bytes address = machine.manager.raw.memory.bytes address) :
    Enlarged machine.manager.raw after := by
  have low : headerSize + maxNumBuckets ≤ bucketsOffsetInBytes := by decide
  exact ⟨faithful.consistent.laid.offsetPages, pages, fun address below => bytes address (by omega)⟩

theorem Faithful.step_same (faithful : Faithful owners machine) {call : Call}
    (notGrow : ∀ index pages, call ≠ .grow index pages) : Faithful owners (machine.step call).2 := by
  have kept := faithful.undamaged.step_front notGrow
  refine ⟨faithful.consistent.step_same notGrow, ?_, ?_⟩
  · intro slot inside
    have low : headerSize + maxNumBuckets ≤ bucketsOffsetInBytes := by decide
    rw [kept.bytes _ (by omega)]
    exact faithful.tabled slot inside
  · rw [kept.inner]
    exact ((faithful.enlarged kept.pages.ge kept.bytes).tryLoad faithful.reloads).1

theorem Faithful.grow (faithful : Faithful owners machine) (id : MemoryId) (pages : Nat) :
    ∃ owners, Faithful owners { machine with manager := (Manager.grow id pages machine.manager).2 } := by
  rcases grow_cases faithful.consistent.laid id pages with refused | grown
  · obtain ⟨after, ended, sameInner, sameMemory⟩ := refused
    rw [ended]
    refine ⟨owners, ⟨?_, ?_⟩, ?_, ?_⟩
    · rw [sameInner, sameMemory]
      exact faithful.consistent.laid
    · rw [sameInner]
      exact faithful.consistent.cached
    · rw [sameMemory]
      exact faithful.tabled
    · rw [sameInner]
      refine ((faithful.enlarged ?_ ?_).tryLoad faithful.reloads).1
      · rw [sameMemory]
      · intro address _
        rw [sameMemory]
  · obtain ⟨count, after, ended, extended, laidAfter⟩ := grown
    have recorded := faithful.tabled.extended faithful.consistent.laid extended
    rw [ended]
    refine ⟨_, ⟨laidAfter, fun handle member => ?_⟩, recorded.table, recorded.tryLoad_eq laidAfter⟩
    refine (faithful.consistent.cached handle member).extended extended.bucketSizeInPages ?_
    obtain ⟨more, split, _⟩ := owned_extended owners count id handle.id
    rw [faithful.consistent.laid.buckets, laidAfter.buckets, split]
    exact List.prefix_append _ _

theorem Faithful.step (faithful : Faithful owners machine) (call : Call) :
    ∃ owners, Faithful owners (machine.step call).2 := by
  by_cases grows : ∃ index pages, call = .grow index pages
  · obtain ⟨index, pages, rfl⟩ := grows
    rw [Machine.step, Machine.perform]
    cases machine.handles[index]? with
    | none => exact ⟨owners, faithful⟩
    | some handle => exact faithful.grow handle.id pages
  · exact ⟨owners, faithful.step_same fun index pages same => grows ⟨index, pages, same⟩⟩

end Faithful

theorem Faithful.run (calls : List Call) :
    ∀ {owners : List MemoryId} {machine : Machine}, Faithful owners machine →
      ∃ owners, Faithful owners (machine.run calls).2 := by
  induction calls with
  | nil =>
      intro owners machine faithful
      exact ⟨owners, faithful⟩
  | cons call calls ih =>
      intro owners machine faithful
      obtain ⟨_, next⟩ := faithful.step call
      exact ih next

/-- In every state that calls and caught panics lead to: a grow that answers
`-1` changes no table and no byte of the raw header and table; a grow in which
raw writes panic leaves them byte for byte as they were, so that loading gives
the layout from before the grow.  Without earlier panics that is the manager's
own. -/
theorem grow_is_atomic_in_raw_memory (reached : Reached machine) (faulty : Faulty write) (id : MemoryId)
    (pages : Nat) :
    (∀ after, Manager.growVia write id pages machine.manager = (.ok (-1), after) →
      after.inner = machine.manager.inner ∧
      ∀ address, after.raw.memory.bytes address = machine.manager.raw.memory.bytes address) ∧
    ∀ after, Manager.growVia write id pages machine.manager = (.panic, after) →
      (∀ address, address < headerSize + maxNumBuckets →
        after.raw.memory.bytes address = machine.manager.raw.memory.bytes address) ∧
      ∀ requested : UInt16, requested ≠ 0 →
        (∀ layout, MemoryManager.initStrictWithBucketSize requested machine.manager.raw =
            (.ok layout, machine.manager.raw) →
          MemoryManager.initStrictWithBucketSize requested after.raw = (.ok layout, after.raw) ∧
          MemoryManager.initWithBucketSize requested after.raw = (.ok layout, after.raw)) ∧
        ∀ manager calls, Created manager → machine = (Machine.run ⟨manager, []⟩ calls).2 →
          MemoryManager.initStrictWithBucketSize requested after.raw = (.ok machine.manager.inner, after.raw) ∧
          MemoryManager.initWithBucketSize requested after.raw = (.ok machine.manager.inner, after.raw) := by
  have vacant := reached.undamaged.vacant
  constructor
  · intro after ended
    obtain ⟨sameInner, sameMemory⟩ := grow_refused vacant ((faulty.growVia id pages).returned ended)
    exact ⟨sameInner, fun address => by rw [sameMemory]⟩
  · intro after ended
    obtain ⟨_, _, unwound⟩ := growVia_panicked faulty vacant ended
    have enlarged : Enlarged machine.manager.raw after.raw :=
      ⟨vacant.offsetPages, unwound.pages, fun address _ => by rw [unwound.bytes]⟩
    have some : machine.manager.raw.memory.pages ≠ 0 := Nat.one_le_iff_ne_zero.mp vacant.offsetPages
    refine ⟨fun address _ => by rw [unwound.bytes], fun requested nonzero => ⟨fun layout loaded => ?_, ?_⟩⟩
    · rcases initStrict_cases loaded with ⟨_, empty, _⟩ | ⟨_, load⟩
      · exact absurd empty some
      · exact enlarged.reload nonzero load
    · rintro manager calls created rfl
      obtain ⟨_, start⟩ := created.faithful
      obtain ⟨_, faithful⟩ := Faithful.run calls start
      exact enlarged.reload nonzero faithful.reloads

theorem SetUp.created {bucketSize : UInt16} {grants reserves : Nat → Bool} {manager : Manager}
    (setUp : SetUp bucketSize grants reserves manager) : Created manager := by
  cases setUp with
  | init ended => exact .init ended
  | initStrict ended => exact .initStrict ended

/-- A new manager whose first grow panics at the header. -/
theorem setUp_headerFault (id : MemoryId) {pages : Nat} (few : pages ≤ maxNumBuckets) :
    ∃ manager after, SetUp 1 (fun _ => true) (fun _ => true) manager ∧
      Manager.growVia (faultAt 0) id pages manager = (.panic, after) := by
  have nonzero : (1 : UInt16) ≠ 0 := by decide
  obtain ⟨⟨inner, raw⟩, setUp⟩ := setUp_granted nonzero fun _ => true
  obtain ⟨_, ended⟩ := setUp.isNew
  have laid := setUp.simulates.laid
  have generous : Generous raw := by
    have kept := (rawKept_generous.new 1 (Raw.empty (fun _ => true) fun _ => true) ⟨fun _ => rfl, fun _ => rfl⟩).1
    rwa [ended] at kept
  have fresh : inner = .fresh 1 := (new_returned nonzero ended).1
  have none : inner.memorySizesInPages id = 0 := by rw [fresh]; rfl
  have unit : inner.bucketSizeInPages = 1 := by rw [fresh]; rfl
  have unused : inner.allocatedBuckets = 0 := by rw [fresh]; rfl
  have fits : inner.memorySizesInPages id + pages < u64Bound := by
    have bounded : maxNumBuckets < u64Bound := by decide
    omega
  have room : inner.allocatedBuckets + (inner.numBucketsNeeded (inner.memorySizesInPages id + pages) -
      inner.numBucketsNeeded (inner.memorySizesInPages id)) ≤ maxNumBuckets := by
    rw [MemoryManagerInner.numBucketsNeeded, unit, none, unused, Nat.div_one]
    omega
  obtain ⟨after, panicked⟩ := growVia_headerFault generous laid.offsetPages laid.unitLimit fits room
  exact ⟨⟨inner, raw⟩, after, setUp, panicked⟩

theorem grow_is_atomic_when_the_header_write_panics :
    ∃ manager after, SetUp 1 (fun _ => true) (fun _ => true) manager ∧
      Manager.growVia (faultAt 0) ⟨7, by decide⟩ 1 manager = (.panic, after) ∧
      MemoryManager.initStrictWithBucketSize 1 after.raw = (.ok manager.inner, after.raw) := by
  have nonzero : (1 : UInt16) ≠ 0 := by decide
  obtain ⟨manager, after, setUp, panicked⟩ := @setUp_headerFault ⟨7, by decide⟩ 1 (by decide)
  have created := setUp.created
  have atomic := (grow_is_atomic_in_raw_memory (.created created) (faulty_faultAt 0) ⟨7, by decide⟩ 1).2 after
    panicked
  exact ⟨manager, after, setUp, panicked, ((atomic.2 1 nonzero).2 manager [] created rfl).1⟩

end IcSqliteVfs.Stable
