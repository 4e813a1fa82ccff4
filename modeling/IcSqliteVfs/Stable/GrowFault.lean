import IcSqliteVfs.Stable.RawInvariant
import IcSqliteVfs.Stable.StrictLoad

namespace IcSqliteVfs.Stable

open IcSqliteVfs.Data IcSqliteVfs.Semantics

/-! # A grow whose raw writes may panic

The writes that record a grow are made one after the other: a table entry for
each new bucket, then the header.  Any of them may panic without effect; the
guard then marks the entries written so far as unallocated again.
-/

/-- A raw write that is made as it should be or panics without effect, as the
place it goes to decides. -/
def Faulty (write : RawWrite) : Prop :=
  ∀ offset bytes, write offset bytes = writeGrowing offset bytes ∨ write offset bytes = Action.panic

/-- The write to one place panics. -/
def faultAt (fault : Nat) : RawWrite := fun offset bytes =>
  if offset = fault then Action.panic else writeGrowing offset bytes

theorem faulty_faultAt (fault : Nat) : Faulty (faultAt fault) := by
  intro offset bytes
  rw [faultAt]
  split
  · exact .inr rfl
  · exact .inl rfl

variable {write : RawWrite} {id : MemoryId}

/-! ## A grow that returns under faults is a grow without them -/

theorem withRollback_interrupts {faultyCall call : AllocationM Unit}
    (interrupts : Action.Interrupts faultyCall call) :
    Action.Interrupts (withRollback faultyCall) (withRollback call) := by
  intro manager
  rcases interrupts ⟨manager, []⟩ with same | panicked
  · exact .inl (by rw [withRollback, withRollback, same])
  · refine .inr ?_
    rw [withRollback]
    cases ended : faultyCall ⟨manager, []⟩ with
    | mk outcome next =>
        rw [ended] at panicked
        cases panicked
        rfl

section Returned

variable (faulty : Faulty write)
include faulty

theorem Faulty.interrupts (offset : Nat) (bytes : List UInt8) :
    Action.Interrupts (write offset bytes) (writeGrowing offset bytes) := by
  intro raw
  rcases faulty offset bytes with same | panics
  · exact .inl (by rw [same])
  · exact .inr (by rw [panics]; rfl)

theorem Faulty.pushBucket (id : MemoryId) (bucket : Nat) :
    Action.Interrupts (pushBucket write id bucket) (pushBucket writeGrowing id bucket) :=
  (Action.interrupts_self _).bind fun _ => ((faulty.interrupts _ _).zoom.zoom).bind fun _ =>
    Action.interrupts_self _

theorem Faulty.allocateBuckets (id : MemoryId) (count : Nat) :
    Action.Interrupts (allocateBuckets write id count) (allocateBuckets writeGrowing id count) := by
  induction count with
  | zero => exact Action.interrupts_self _
  | succ count ih =>
      refine Action.Interrupts.bind ?_ fun _ => ih
      exact (Action.interrupts_self _).bind fun allocation => faulty.pushBucket id _

theorem Faulty.recordSize (id : MemoryId) (newSize : Nat) :
    Action.Interrupts (recordSize write id newSize) (recordSize writeGrowing id newSize) :=
  (Action.interrupts_self _).bind fun _ => (Action.interrupts_self _).bind fun _ =>
    (faulty.interrupts _ _).zoom.zoom

theorem Faulty.growBuckets (id : MemoryId) (newSize newBuckets : Nat) :
    Action.Interrupts (growBuckets write id newSize newBuckets)
      (growBuckets writeGrowing id newSize newBuckets) := by
  refine (Action.interrupts_self _).bind fun manager => (Action.interrupts_self _).bind fun reserved => ?_
  split
  · exact Action.interrupts_self _
  · refine (Action.interrupts_self _).bind fun reservedAgain => ?_
    split
    · exact Action.interrupts_self _
    · dsimp only
      split
      · exact Action.interrupts_self _
      · refine (Action.interrupts_self _).bind fun granted => ?_
        split
        · exact Action.interrupts_self _
        · refine Action.Interrupts.bind (withRollback_interrupts ?_) fun _ => Action.interrupts_self _
          exact (faulty.allocateBuckets id newBuckets).bind fun _ => faulty.recordSize id newSize

theorem Faulty.growVia (id : MemoryId) (pages : Nat) :
    Action.Interrupts (Manager.growVia write id pages) (Manager.grow id pages) := by
  refine (Action.interrupts_self _).bind fun manager => ?_
  rw [growFrom, growFrom]
  dsimp only
  split
  · exact Action.interrupts_self _
  · split
    · exact Action.interrupts_self _
    · exact (faulty.growBuckets id _ _).bind fun _ => Action.interrupts_self _

end Returned

/-! ## The state a panic leaves -/

/-- Some buckets were handed out: their entries are written and remembered. -/
structure Progress (id : MemoryId) (done : Nat) (start after : Allocation) : Prop where
  allocated : Allocated id done start.manager after.manager
  rollback : after.rollback = start.rollback ++ (List.range done).map (start.manager.inner.allocatedBuckets + ·)
  pushed : (after.manager.inner.memoryBuckets id).length = (start.manager.inner.memoryBuckets id).length + done
  still : done = 0 → after.manager.inner = start.manager.inner

theorem progress_none (id : MemoryId) (start : Allocation) : Progress id 0 start start :=
  ⟨allocated_none id _, (List.append_nil _).symm, rfl, fun _ => rfl⟩

theorem Progress.next {done : Nat} {start middle after : Allocation} (first : Progress id 1 start middle)
    (rest : Progress id done middle after) : Progress id (done + 1) start after where
  allocated := first.allocated.next rest.allocated
  rollback := by
    have shifted : (List.range (done + 1)).map (start.manager.inner.allocatedBuckets + ·) =
        (List.range 1).map (start.manager.inner.allocatedBuckets + ·) ++
          (List.range done).map (start.manager.inner.allocatedBuckets + 1 + ·) := by
      rw [Nat.add_comm done 1, List.range_add, List.map_append, List.map_map]
      congr 1
      apply List.map_congr_left
      intro index _
      simp only [Function.comp_apply]
      omega
    rw [rest.rollback, first.rollback, first.allocated.allocatedBuckets, List.append_assoc, shifted]
  pushed := by
    rw [rest.pushed, first.pushed]
    omega
  still := fun none => absurd none (Nat.succ_ne_zero done)

/-- A bucket was pushed and its entry was not written. -/
def pushedOnly (id : MemoryId) (allocation : Allocation) : Allocation :=
  ⟨⟨{ allocation.manager.inner with
    memoryBuckets := Function.update allocation.manager.inner.memoryBuckets id
      (allocation.manager.inner.memoryBuckets id ++ [allocation.manager.inner.allocatedBuckets]) },
    allocation.manager.raw⟩, allocation.rollback⟩

theorem allocateBucket_leaves (faulty : Faulty write) (allocation : Allocation)
    (fits : bucketAllocationsAddress allocation.manager.inner.allocatedBuckets + [id.byte].length ≤
      allocation.manager.raw.memory.capacity)
    (small : allocation.manager.inner.allocatedBuckets + 1 < u16Bound) :
    Action.Leaves (allocateBucket write id) allocation (fun _ after => Progress id 1 allocation after)
      fun after => after = pushedOnly id allocation := by
  rcases faulty (bucketAllocationsAddress allocation.manager.inner.allocatedBuckets) [id.byte] with same | panics
  · have ended : allocateBucket write id allocation = allocateBucket writeGrowing id allocation := by
      rw [allocateBucket, allocateBucket, Action.read_bind_apply, Action.read_bind_apply, pushBucket, pushBucket, same]
    rw [Action.Leaves, ended, allocateBucket_eq fits small]
    refine ⟨allocated_withBucket id fits, rfl, ?_, fun none => absurd none Nat.one_ne_zero⟩
    change (Function.update allocation.manager.inner.memoryBuckets id _ id).length = _
    rw [Function.update_self, List.length_append, List.length_singleton]
  · obtain ⟨⟨inner, raw⟩, rollback⟩ := allocation
    have panicked : write (bucketAllocationsAddress inner.allocatedBuckets) [id.byte] raw = (.panic, raw) := by
      rw [panics]
      rfl
    rw [Action.Leaves, allocateBucket, Action.read_bind_apply, pushBucket,
      Action.bind_of_ok _ (modifyInner_of _ _ _), Action.bind_of_panic _ (onManager_of (onRaw_of panicked))]
    rfl

/-- The loop gets to its end, or stops at a bucket that was pushed and not recorded. -/
theorem allocateBuckets_leaves (faulty : Faulty write) (id : MemoryId) (count : Nat) (start : Allocation)
    (pages : bucketsOffsetInPages ≤ start.manager.raw.memory.pages)
    (room : start.manager.inner.allocatedBuckets + count ≤ maxNumBuckets) :
    Action.Leaves (allocateBuckets write id count) start (fun _ after => Progress id count start after)
      fun after => ∃ done middle, done < count ∧ Progress id done start middle ∧ after = pushedOnly id middle := by
  induction count generalizing start with
  | zero => exact Action.leaves_pure (progress_none id start)
  | succ count ih =>
      have space := header_table_room pages
      have fits : bucketAllocationsAddress start.manager.inner.allocatedBuckets + [id.byte].length ≤
          start.manager.raw.memory.capacity := by
        simp only [bucketAllocationsAddress, List.length_singleton]
        omega
      have small : start.manager.inner.allocatedBuckets + 1 < u16Bound := by
        simp only [maxNumBuckets, u16Bound] at room ⊢
        omega
      have first := (allocateBucket_leaves faulty start fits small).imp (fun _ _ holds => holds)
        fun after stopped => (⟨0, start, Nat.succ_pos _, progress_none id start, stopped⟩ :
          ∃ done middle, done < count + 1 ∧ Progress id done start middle ∧ after = pushedOnly id middle)
      refine first.bind fun _ middle progress => ?_
      have rest := ih middle (by rw [progress.allocated.pages]; exact pages)
        (by rw [progress.allocated.allocatedBuckets]; omega)
      refine rest.imp (fun _ after later => progress.next later) ?_
      rintro after ⟨done, last, inside, later, stopped⟩
      exact ⟨done + 1, last, by omega, progress.next later, stopped⟩

/-- What a panic while recording leaves behind before the guard runs: some
entries, the memory of which to undo, and tables ahead of the raw memory. -/
structure Stopped (id : MemoryId) (newSize count : Nat) (before : Manager) (after : Allocation) : Prop where
  entries : ∃ done, done ≤ count ∧
    after.rollback = (List.range done).map (before.inner.allocatedBuckets + ·) ∧
    after.manager.inner.allocatedBuckets = before.inner.allocatedBuckets + done ∧
    ∀ address, after.manager.raw.memory.bytes address =
      if headerSize + before.inner.allocatedBuckets ≤ address ∧
        address < headerSize + before.inner.allocatedBuckets + done then id.byte
      else before.raw.memory.bytes address
  pages : after.manager.raw.memory.pages = before.raw.memory.pages
  ahead : (before.inner.memoryBuckets id).length < (after.manager.inner.memoryBuckets id).length ∨
    after.manager.inner.memorySizesInPages id = newSize
  still : count = 0 → newSize = before.inner.memorySizesInPages id → after.manager.inner = before.inner

variable {inner : MemoryManagerInner} {raw : Raw} {count newSize : Nat}

theorem recordSize_leaves (faulty : Faulty write) (start : Allocation)
    (pages : bucketsOffsetInPages ≤ start.manager.raw.memory.pages) :
    Action.Leaves (recordSize write id newSize) start (fun _ _ => True) fun after =>
      after.rollback = start.rollback ∧ after.manager.raw = start.manager.raw ∧
        after.manager.inner = { start.manager.inner with
          memorySizesInPages := Function.update start.manager.inner.memorySizesInPages id newSize } := by
  rcases faulty 0 (MemoryManagerInner.header { start.manager.inner with
      memorySizesInPages := Function.update start.manager.inner.memorySizesInPages id newSize }) with same | panics
  · obtain ⟨_, after, ended, _⟩ := @recordSize_of id newSize start pages
    have transferred : recordSize write id newSize start = recordSize writeGrowing id newSize start := by
      obtain ⟨⟨inner, raw⟩, rollback⟩ := start
      rw [recordSize, recordSize, Action.bind_of_ok _ (modifyInner_of _ _ _),
        Action.bind_of_ok _ (modifyInner_of _ _ _), Action.read_bind_apply, Action.read_bind_apply,
        MemoryManagerInner.saveHeader, same]
      rfl
    exact Action.leaves_of_ok (transferred.trans ended) trivial
  · obtain ⟨⟨inner, raw⟩, rollback⟩ := start
    have panicked : write 0 (MemoryManagerInner.header { inner with
        memorySizesInPages := Function.update inner.memorySizesInPages id newSize }) raw = (.panic, raw) := by
      rw [panics]
      rfl
    rw [recordSize, Action.Leaves, Action.bind_of_ok _ (modifyInner_of _ _ _), Action.read_bind_apply,
      MemoryManagerInner.saveHeader, onManager_of (onRaw_of panicked)]
    exact ⟨rfl, rfl, rfl⟩

/-- A panic while recording, wherever it comes. -/
theorem record_leaves (faulty : Faulty write) (before : Manager)
    (pages : bucketsOffsetInPages ≤ before.raw.memory.pages)
    (room : before.inner.allocatedBuckets + count ≤ maxNumBuckets) :
    Action.Leaves (do
      allocateBuckets write id count
      recordSize write id newSize) (⟨before, []⟩ : Allocation) (fun _ _ => True)
        fun after => Stopped id newSize count before after := by
  have allocating := (allocateBuckets_leaves faulty id count ⟨before, []⟩ pages room).imp
    (fun _ _ progress => progress) fun after stopped => (?_ : Stopped id newSize count before after)
  · refine allocating.bind fun _ middle progress => ?_
    have kept : bucketsOffsetInPages ≤ middle.manager.raw.memory.pages := by
      rw [progress.allocated.pages]
      exact pages
    refine (recordSize_leaves faulty middle kept).imp (fun _ _ _ => trivial) ?_
    rintro after ⟨sameRollback, sameRaw, innerEq⟩
    refine ⟨⟨count, Nat.le_refl _, ?_, ?_, ?_⟩, ?_, .inr ?_, ?_⟩
    · rw [sameRollback, progress.rollback]
      rfl
    · rw [innerEq]
      exact progress.allocated.allocatedBuckets
    · intro address
      rw [sameRaw]
      exact progress.allocated.bytes address
    · rw [sameRaw]
      exact progress.allocated.pages
    · rw [innerEq]
      exact Function.update_self _ _ _
    · intro none unchanged
      rw [innerEq, progress.still none, unchanged, Function.update_eq_self]
  · obtain ⟨done, middle, inside, progress, rfl⟩ := stopped
    refine ⟨⟨done, inside.le, progress.rollback, progress.allocated.allocatedBuckets, progress.allocated.bytes⟩,
      progress.allocated.pages, .inl ?_, fun none => absurd none (by omega)⟩
    have longer := progress.pushed
    change (before.inner.memoryBuckets id).length < (Function.update middle.manager.inner.memoryBuckets id _ id).length
    rw [Function.update_self, List.length_append, List.length_singleton, longer]
    exact Nat.lt_succ_of_le (Nat.le_add_right _ _)

/-! ## The guard -/

/-- Undoing some entries: they are unallocated again and nothing else changes. -/
theorem dropRollback_entries (manager : Manager) (first done : Nat)
    (pages : bucketsOffsetInPages ≤ manager.raw.memory.pages) (room : first + done ≤ maxNumBuckets) :
    ∀ after, after = dropRollback ⟨manager, (List.range done).map (first + ·)⟩ →
      after.inner = manager.inner ∧ after.raw.memory.pages = manager.raw.memory.pages ∧
      ∀ address, after.raw.memory.bytes address =
        if headerSize + first ≤ address ∧ address < headerSize + first + done then unallocatedBucketMarker
        else manager.raw.memory.bytes address := by
  induction done with
  | zero =>
      rintro _ rfl
      refine ⟨rfl, rfl, fun address => ?_⟩
      rw [if_neg (by omega)]
  | succ done ih =>
      rintro _ rfl
      obtain ⟨sameInner, samePages, bytes⟩ := ih (by omega) _ rfl
      have split : dropRollback ⟨manager, (List.range (done + 1)).map (first + ·)⟩ =
          (onRaw (writeGrowing (bucketAllocationsAddress (first + done)) [unallocatedBucketMarker])
            (dropRollback ⟨manager, (List.range done).map (first + ·)⟩)).2 := by
        rw [dropRollback, dropRollback, List.range_succ, List.map_append, List.foldl_append]
        rfl
      generalize dropRollback ⟨manager, (List.range done).map (first + ·)⟩ = middle at *
      obtain ⟨inner, raw⟩ := middle
      have space : headerSize + maxNumBuckets ≤ raw.memory.capacity := by
        apply header_table_room
        rw [samePages]
        exact pages
      have fits : bucketAllocationsAddress (first + done) + [unallocatedBucketMarker].length ≤
          raw.memory.capacity := by
        simp only [bucketAllocationsAddress, List.length_singleton]
        omega
      rw [split, onRaw_of (writeGrowing_of fits)]
      refine ⟨sameInner, samePages, fun address => ?_⟩
      rw [Memory.write_bytes _ fits, bytes, bucketAllocationsAddress, List.length_singleton]
      by_cases last : headerSize + (first + done) ≤ address ∧ address < headerSize + (first + done) + 1
      · have here : address - (headerSize + (first + done)) = 0 := by omega
        rw [if_pos last, if_pos (by omega), here, List.getD_cons_zero]
      · rw [if_neg last]
        by_cases earlier : headerSize + first ≤ address ∧ address < headerSize + first + done
        · rw [if_pos earlier, if_pos (by omega)]
        · rw [if_neg earlier, if_neg (by omega)]

/-- There is a table, and nobody is named as the owner of a bucket past the count. -/
structure Vacant (manager : Manager) : Prop where
  offsetPages : bucketsOffsetInPages ≤ manager.raw.memory.pages
  limit : manager.inner.allocatedBuckets ≤ maxNumBuckets
  free : ∀ slot, manager.inner.allocatedBuckets ≤ slot → slot < maxNumBuckets →
    manager.raw.memory.bytes (headerSize + slot) = unallocatedBucketMarker

/-- After the guard ran: every raw byte is as before the grow, and the tables
in memory are not. -/
structure Unwound (id : MemoryId) (newSize count : Nat) (before after : Manager) : Prop where
  bytes : after.raw.memory.bytes = before.raw.memory.bytes
  pages : before.raw.memory.pages ≤ after.raw.memory.pages
  allocated : before.inner.allocatedBuckets ≤ after.inner.allocatedBuckets
  limit : after.inner.allocatedBuckets ≤ maxNumBuckets
  ahead : (before.inner.memoryBuckets id).length < (after.inner.memoryBuckets id).length ∨
    after.inner.memorySizesInPages id = newSize
  still : count = 0 → newSize = before.inner.memorySizesInPages id → after.inner = before.inner

theorem withRollback_panicked {call : AllocationM Unit} {before after : Manager}
    (ended : withRollback call before = (.panic, after)) :
    ∃ allocation, call ⟨before, []⟩ = (.panic, allocation) ∧ after = dropRollback allocation := by
  rw [withRollback] at ended
  cases ran : call ⟨before, []⟩ with
  | mk outcome allocation =>
      rw [ran] at ended
      cases outcome with
      | ok value => cases ended
      | err error => cases ended
      | panic => exact ⟨allocation, rfl, (Prod.mk.inj ended).2.symm⟩

/-- The entries written so far were free before, so undoing them restores them. -/
theorem Stopped.unwound {before : Manager} {allocation : Allocation} (vacant : Vacant before)
    (room : before.inner.allocatedBuckets + count ≤ maxNumBuckets)
    (stopped : Stopped id newSize count before allocation) :
    Unwound id newSize count before (dropRollback allocation) := by
  obtain ⟨done, few, rollback, allocated, bytes⟩ := stopped.entries
  obtain ⟨manager, entries⟩ := allocation
  subst rollback
  have pages : bucketsOffsetInPages ≤ manager.raw.memory.pages := stopped.pages ▸ vacant.offsetPages
  obtain ⟨sameInner, samePages, undone⟩ :=
    dropRollback_entries manager before.inner.allocatedBuckets done pages (by omega) _ rfl
  refine ⟨?_, ?_, ?_, ?_, ?_, ?_⟩
  · funext address
    rw [undone, bytes]
    by_cases entry : headerSize + before.inner.allocatedBuckets ≤ address ∧
        address < headerSize + before.inner.allocatedBuckets + done
    · have free := vacant.free (address - headerSize) (by omega) (by omega)
      have back : headerSize + (address - headerSize) = address := by omega
      rw [if_pos entry, ← free, back]
    · rw [if_neg entry, if_neg entry]
  · rw [samePages]
    exact stopped.pages.ge
  · rw [sameInner, allocated]
    exact Nat.le_add_right _ _
  · rw [sameInner, allocated]
    omega
  · rw [sameInner]
    exact stopped.ahead
  · rw [sameInner]
    exact stopped.still

theorem growBuckets_panicked (faulty : Faulty write) {after : Manager} (vacant : Vacant ⟨inner, raw⟩)
    (room : inner.allocatedBuckets + count ≤ maxNumBuckets)
    (ended : growBuckets write id newSize count ⟨inner, raw⟩ = (.panic, after)) :
    Unwound id newSize count ⟨inner, raw⟩ after := by
  have reserve : ∀ raw : Raw, tryReserve raw =
      (.ok (raw.reserves 0), { raw with reserves := fun request => raw.reserves (request + 1) }) := fun _ => rfl
  rw [growBuckets, Action.read_bind_apply, Action.bind_of_ok _ (onRaw_of (reserve raw))] at ended
  split at ended
  · cases ended
  · rw [Action.bind_of_ok _ (onRaw_of (reserve _))] at ended
    split at ended
    · cases ended
    · dsimp only at ended
      split at ended
      · cases ended
      · rcases ensureRawPages_cases
            (bucketsOffsetInPages + inner.bucketSizeInPages * (count + inner.allocatedBuckets))
            { raw with reserves := fun request => raw.reserves (request + 1 + 1) } with granted | refused
        · obtain ⟨grown, ensured, bytes, more, _⟩ := granted
          rw [Action.bind_of_ok _ (onRaw_of ensured), if_neg (not_not.mpr rfl)] at ended
          have vacantGrown : Vacant ⟨inner, grown⟩ :=
            ⟨vacant.offsetPages.trans more, vacant.limit, fun slot past inside => by
              rw [bytes]
              exact vacant.free slot past inside⟩
          rcases Action.bind_eq_panic.mp ended with recording | finished
          · obtain ⟨allocation, stopped, rfl⟩ := withRollback_panicked recording
            have left := (record_leaves faulty ⟨inner, grown⟩ vacantGrown.offsetPages room).panicked stopped
            have unwound := left.unwound vacantGrown room
            exact ⟨unwound.bytes.trans bytes, more.trans unwound.pages, unwound.allocated, unwound.limit,
              unwound.ahead, unwound.still⟩
          · obtain ⟨_, _, _, impossible⟩ := finished
            cases impossible
        · obtain ⟨left, ensured, _⟩ := refused
          rw [Action.bind_of_ok _ (onRaw_of ensured), if_pos (by simp)] at ended
          cases ended

/-- A grow that panics restores every raw byte. -/
theorem growVia_panicked (faulty : Faulty write) {before after : Manager} {pages : Nat} (vacant : Vacant before)
    (ended : Manager.growVia write id pages before = (.panic, after)) :
    ∃ count, count = before.inner.numBucketsNeeded (before.inner.memorySizesInPages id + pages) -
        before.inner.numBucketsNeeded (before.inner.memorySizesInPages id) ∧
      Unwound id (before.inner.memorySizesInPages id + pages) count before after := by
  obtain ⟨inner, raw⟩ := before
  rcases growVia_cases write id pages inner raw with refused | ⟨count, countEq, room, asked⟩
  · rw [refused] at ended
    cases ended
  · rcases Action.bind_eq_panic.mp (asked.symm.trans ended) with growing | finished
    · exact ⟨count, countEq, growBuckets_panicked faulty vacant room growing⟩
    · obtain ⟨_, _, _, impossible⟩ := finished
      cases impossible

/-- A grow that answers `-1` changes no table and no raw byte. -/
theorem grow_refused {before after : Manager} {pages : Nat} (vacant : Vacant before)
    (ended : Manager.grow id pages before = (.ok (-1), after)) :
    after.inner = before.inner ∧ after.raw.memory = before.raw.memory := by
  obtain ⟨inner, raw⟩ := before
  rcases growVia_cases writeGrowing id pages inner raw with refused | ⟨count, _, room, asked⟩
  · obtain rfl := (Prod.mk.inj (refused.symm.trans ended)).2
    exact ⟨rfl, rfl⟩
  · have answer := asked.symm.trans ended
    rcases @growBuckets_cases inner id (inner.memorySizesInPages id + pages) count raw vacant.offsetPages room with
      refused | granted
    · obtain ⟨left, answered, sameInner, sameMemory⟩ := refused
      rw [Action.bind_of_ok _ answered] at answer
      cases answer
      exact ⟨sameInner, sameMemory⟩
    · obtain ⟨_, left, _, answered, _⟩ := granted
      rw [Action.bind_of_ok _ answered] at answer
      have impossible : ((inner.memorySizesInPages id : Nat) : Int) = -1 :=
        Outcome.ok.inj (Prod.mk.inj answer).1
      omega

/-! ## An environment that grants everything -/

structure Generous (raw : Raw) : Prop where
  grants : ∀ request, raw.grants request = true
  reserves : ∀ request, raw.reserves request = true

theorem rawKept_generous : RawKept Generous where
  grow := fun _ _ generous => ⟨fun request => generous.grants (request + 1), generous.reserves⟩
  write := fun _ _ _ generous => ⟨generous.grants, generous.reserves⟩
  reserve := fun _ generous => ⟨generous.grants, fun request => generous.reserves (request + 1)⟩

theorem ensureRawPages_generous (generous : Generous raw) {pagesNeeded : Nat}
    (fits : pagesNeeded * stablePageSize < u64Bound) :
    ∃ after, ensureRawPages pagesNeeded raw = (.ok true, after) := by
  have sized : rawSize raw = (.ok raw.memory.pages, raw) := rfl
  rw [ensureRawPages, Action.bind_of_ok _ sized]
  by_cases missing : raw.memory.pages < pagesNeeded
  · have total : raw.memory.pages + (pagesNeeded - raw.memory.pages) = pagesNeeded := by omega
    have granted : (raw.memory.grow true (pagesNeeded - raw.memory.pages)).1 = raw.memory.pages :=
      (raw.memory.grow_true (by rw [total]; exact fits)).2
    have requested : rawGrow (pagesNeeded - raw.memory.pages) raw =
        (.ok (raw.memory.pages : Int), { raw with
          memory := (raw.memory.grow true (pagesNeeded - raw.memory.pages)).2
          grants := fun request => raw.grants (request + 1) }) := by
      rw [rawGrow, generous.grants, ← granted]
    rw [if_pos missing, Action.bind_of_ok _ requested]
    exact ⟨_, by rw [decide_eq_true (Int.natCast_nonneg _)]; rfl⟩
  · rw [if_neg missing]
    exact ⟨raw, rfl⟩

/-- With heap and pages granted the buckets are handed out. -/
theorem growBuckets_generous (generous : Generous raw) (offsetPages : bucketsOffsetInPages ≤ raw.memory.pages)
    (room : inner.allocatedBuckets + count ≤ maxNumBuckets) (small : inner.bucketSizeInPages < u16Bound) :
    ∃ after, growBuckets writeGrowing id newSize count ⟨inner, raw⟩ = (.ok true, after) := by
  have reserve : ∀ raw : Raw, tryReserve raw =
      (.ok (raw.reserves 0), { raw with reserves := fun request => raw.reserves (request + 1) }) := fun _ => rfl
  have limit : inner.bucketSizeInPages * (count + inner.allocatedBuckets) ≤ u16Bound * maxNumBuckets :=
    Nat.mul_le_mul small.le (by omega)
  have within : ¬ (u64Bound ≤ inner.bucketSizeInPages * (count + inner.allocatedBuckets) ∨
      u64Bound ≤ bucketsOffsetInPages + inner.bucketSizeInPages * (count + inner.allocatedBuckets)) := by
    simp only [u16Bound, maxNumBuckets, u64Bound, bucketsOffsetInPages] at limit ⊢
    omega
  have fits : (bucketsOffsetInPages + inner.bucketSizeInPages * (count + inner.allocatedBuckets)) *
      stablePageSize < u64Bound := by
    simp only [u16Bound, maxNumBuckets, u64Bound, bucketsOffsetInPages, stablePageSize] at limit ⊢
    omega
  rw [growBuckets, Action.read_bind_apply, Action.bind_of_ok _ (onRaw_of (reserve raw)),
    if_neg (not_not.mpr (generous.reserves 0)), Action.bind_of_ok _ (onRaw_of (reserve _)),
    if_neg (not_not.mpr (generous.reserves 1))]
  dsimp only
  rw [if_neg within]
  have left : Generous { raw with reserves := fun request => raw.reserves (request + 1 + 1) } :=
    ⟨generous.grants, fun request => generous.reserves (request + 1 + 1)⟩
  obtain ⟨grown, ensured⟩ := ensureRawPages_generous left fits
  have more : bucketsOffsetInPages ≤ grown.memory.pages := by
    rcases ensureRawPages_cases _ { raw with reserves := fun request => raw.reserves (request + 1 + 1) } with
      ⟨other, same, _, larger, _⟩ | ⟨other, same, _⟩
    · rw [ensured] at same
      cases same
      exact offsetPages.trans larger
    · rw [ensured] at same
      cases same
  obtain ⟨_, after, allocated, _⟩ := @allocate_of ⟨inner, grown⟩ id count newSize more room
  rw [Action.bind_of_ok _ (onRaw_of ensured), if_neg (not_not.mpr rfl), Action.bind_of_ok _ allocated]
  exact ⟨after, rfl⟩

/-! ## A header that cannot be written -/

theorem recordSize_headerFault (id : MemoryId) (newSize : Nat) (start : Allocation) :
    (recordSize (faultAt 0) id newSize start).1 = .panic := by
  obtain ⟨⟨inner, raw⟩, rollback⟩ := start
  rw [recordSize, Action.bind_of_ok _ (modifyInner_of _ _ _), Action.read_bind_apply,
    MemoryManagerInner.saveHeader, faultAt, if_pos rfl]
  rfl

/-- A grow past its checks always writes the header, so it cannot return. -/
theorem growBuckets_headerFault {after : Manager} :
    growBuckets (faultAt 0) id newSize count ⟨inner, raw⟩ ≠ (.ok true, after) := by
  intro ended
  rw [growBuckets] at ended
  obtain ⟨_, _, _, first⟩ := Action.bind_eq_ok.mp ended
  obtain ⟨_, _, _, second⟩ := Action.bind_eq_ok.mp first
  split at second
  · cases second
  · obtain ⟨_, _, _, third⟩ := Action.bind_eq_ok.mp second
    split at third
    · cases third
    · dsimp only at third
      split at third
      · cases third
      · obtain ⟨_, _, _, fourth⟩ := Action.bind_eq_ok.mp third
        split at fourth
        · cases fourth
        · obtain ⟨_, _, recorded, _⟩ := Action.bind_eq_ok.mp fourth
          rw [withRollback] at recorded
          split at recorded
          · rename_i ran
            obtain ⟨_, middle, _, header⟩ := Action.bind_eq_ok.mp ran
            have panicked := recordSize_headerFault id newSize middle
            rw [header] at panicked
            cases panicked
          · cases recorded
          · cases recorded

/-- Where everything is granted and the header cannot be written, a grow panics. -/
theorem growVia_headerFault {pages : Nat} (generous : Generous raw)
    (offsetPages : bucketsOffsetInPages ≤ raw.memory.pages) (small : inner.bucketSizeInPages < u16Bound)
    (fits : inner.memorySizesInPages id + pages < u64Bound)
    (room : inner.allocatedBuckets + (inner.numBucketsNeeded (inner.memorySizesInPages id + pages) -
      inner.numBucketsNeeded (inner.memorySizesInPages id)) ≤ maxNumBuckets) :
    ∃ after, Manager.growVia (faultAt 0) id pages ⟨inner, raw⟩ = (.panic, after) := by
  obtain ⟨whole, granted⟩ := @growBuckets_generous id inner raw _ (inner.memorySizesInPages id + pages)
    generous offsetPages room small
  rcases (faulty_faultAt 0).growBuckets id (inner.memorySizesInPages id + pages) _ ⟨inner, raw⟩ with same | panicked
  · exact absurd (same.trans granted) growBuckets_headerFault
  · have asked := growVia_asked (faultAt 0) id pages inner raw rfl fits room
    cases ended : growBuckets (faultAt 0) id (inner.memorySizesInPages id + pages)
        (inner.numBucketsNeeded (inner.memorySizesInPages id + pages) -
          inner.numBucketsNeeded (inner.memorySizesInPages id)) ⟨inner, raw⟩ with
    | mk outcome after =>
        rw [ended] at panicked
        cases panicked
        exact ⟨after, asked.trans (Action.bind_of_panic _ ended)⟩

end IcSqliteVfs.Stable
