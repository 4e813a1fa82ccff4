import IcSqliteVfs.Stable.VirtualMemory

namespace IcSqliteVfs.Stable

open IcSqliteVfs.Data IcSqliteVfs.Semantics

/-! # What no call on the raw memory breaks -/

/-- A property of the raw memory that outlives a grow, a write and a reservation. -/
structure RawKept (kept : Raw → Prop) : Prop where
  grow : ∀ raw pages, kept raw → kept (rawGrow pages raw).2
  write : ∀ raw offset bytes, kept raw → kept { raw with memory := raw.memory.write offset bytes }
  reserve : ∀ raw, kept raw → kept (tryReserve raw).2

variable {kept : Raw → Prop}

theorem rawSize_kept : Action.Keeps kept rawSize fun _ => True :=
  Action.keeps_read.bind fun _ _ => Action.keeps_pure trivial

theorem rawRead_kept (offset count : Nat) : Action.Keeps kept (rawRead offset count) fun _ => True :=
  Action.keeps_read.bind fun _ _ => (Action.keeps_require _).bind fun _ _ => Action.keeps_pure trivial

theorem load_kept : Action.Keeps kept MemoryManagerInner.load fun _ => True := by
  refine (rawRead_kept _ _).bind fun header _ => (Action.keeps_require _).bind fun _ _ =>
    (Action.keeps_require _).bind fun _ _ => (rawRead_kept _ _).bind fun table _ => rawSize_kept.bind fun size _ => ?_
  cases MemoryManagerInner.tryLoadValidatedLayout size header table with
  | ok inner => exact Action.keeps_pure trivial
  | error error => exact Action.keeps_panic

theorem tryLoad_kept : Action.Keeps kept MemoryManagerInner.tryLoad fun _ => True := by
  refine (rawRead_kept _ _).bind fun header _ => ?_
  split
  · exact Action.keeps_fail _
  · split
    · exact Action.keeps_fail _
    · refine (rawRead_kept _ _).bind fun table _ => rawSize_kept.bind fun size _ => ?_
      cases MemoryManagerInner.tryLoadValidatedLayout size header table with
      | ok inner => exact Action.keeps_pure trivial
      | error error => exact Action.keeps_fail _

theorem onRaw_kept {α : Type} {call : RawM α} (keeps : Action.Keeps kept call fun _ => True) :
    Action.Keeps (fun manager : Manager => kept manager.raw) (onRaw call) fun _ => True :=
  fun manager invariant => ⟨(keeps manager.raw invariant).1, fun _ _ => trivial⟩

theorem modifyInner_kept (update : MemoryManagerInner → MemoryManagerInner) :
    Action.Keeps (fun manager : Manager => kept manager.raw) (modifyInner update) fun _ => True :=
  fun _ invariant => ⟨invariant, fun _ _ => trivial⟩

theorem onManager_kept {α : Type} {call : ManagerM α}
    (keeps : Action.Keeps (fun manager : Manager => kept manager.raw) call fun _ => True) :
    Action.Keeps (fun allocation : Allocation => kept allocation.manager.raw) (onManager call) fun _ => True :=
  fun allocation invariant => ⟨(keeps allocation.manager invariant).1, fun _ _ => trivial⟩

namespace RawKept

variable (holds : RawKept kept)
include holds

theorem rawGrow (pages : Nat) : Action.Keeps kept (rawGrow pages) fun _ => True :=
  fun raw invariant => ⟨holds.grow raw pages invariant, fun _ _ => trivial⟩

theorem rawWrite (offset : Nat) (bytes : List UInt8) : Action.Keeps kept (rawWrite offset bytes) fun _ => True :=
  Action.keeps_read.bind fun _ _ => (Action.keeps_require _).bind fun _ _ =>
    Action.keeps_modify fun raw invariant => holds.write raw offset bytes invariant

theorem writeGrowing (offset : Nat) (bytes : List UInt8) :
    Action.Keeps kept (Stable.writeGrowing offset bytes) fun _ => True := by
  refine (Action.keeps_require _).bind fun _ _ => rawSize_kept.bind fun _ _ => (Action.keeps_require _).bind fun _ _ => ?_
  split
  · exact (holds.rawGrow _).bind fun _ _ => (Action.keeps_require _).bind fun _ _ => holds.rawWrite _ _
  · exact holds.rawWrite _ _

/-! ## Creating a manager -/

theorem new (bucketSize : UInt16) : Action.Keeps kept (MemoryManagerInner.new bucketSize) fun _ => True :=
  (holds.writeGrowing _ _).bind fun _ _ => (holds.writeGrowing _ _).bind fun _ _ => Action.keeps_pure trivial

theorem initWithBucketSize (bucketSize : UInt16) :
    Action.Keeps kept (MemoryManager.initWithBucketSize bucketSize) fun _ => True := by
  rw [MemoryManager.initWithBucketSize]
  split
  · exact Action.keeps_panic
  · refine rawSize_kept.bind fun size _ => ?_
    split
    · exact holds.new bucketSize
    · refine (rawRead_kept _ _).bind fun magic _ => ?_
      split
      · exact load_kept
      · exact holds.new bucketSize

theorem initStrictWithBucketSize (bucketSize : UInt16) :
    Action.Keeps kept (MemoryManager.initStrictWithBucketSize bucketSize) fun _ => True := by
  rw [MemoryManager.initStrictWithBucketSize]
  split
  · exact Action.keeps_fail _
  · refine rawSize_kept.bind fun size _ => ?_
    split
    · exact holds.new bucketSize
    · refine (rawRead_kept _ _).bind fun magic _ => ?_
      split
      · exact Action.keeps_fail _
      · exact tryLoad_kept

/-! ## Growing a memory -/

theorem pushBucket (id : MemoryId) (bucket : Nat) :
    Action.Keeps (fun allocation : Allocation => kept allocation.manager.raw)
      (pushBucket Stable.writeGrowing id bucket) fun _ => True := by
  have noted : Action.Keeps (fun allocation : Allocation => kept allocation.manager.raw)
      (Action.modify fun allocation => { allocation with rollback := allocation.rollback ++ [bucket] } : AllocationM Unit)
      fun _ => True := fun allocation invariant => ⟨invariant, fun _ _ => trivial⟩
  rw [Stable.pushBucket]
  refine (onManager_kept (modifyInner_kept _)).bind fun _ _ => ?_
  refine (onManager_kept (onRaw_kept (holds.writeGrowing _ _))).bind fun _ _ => ?_
  refine noted.bind fun _ _ => ?_
  exact (Action.keeps_require _).bind fun _ _ => onManager_kept (modifyInner_kept _)

theorem allocateBuckets (id : MemoryId) (count : Nat) :
    Action.Keeps (fun allocation : Allocation => kept allocation.manager.raw)
      (allocateBuckets Stable.writeGrowing id count) fun _ => True := by
  induction count with
  | zero => exact Action.keeps_pure trivial
  | succ count ih =>
      have first : Action.Keeps (fun allocation : Allocation => kept allocation.manager.raw)
          (allocateBucket Stable.writeGrowing id) fun _ => True :=
        Action.keeps_read.bind fun _ _ => holds.pushBucket id _
      exact first.bind fun _ _ => ih

theorem recordSize (id : MemoryId) (newSize : Nat) :
    Action.Keeps (fun allocation : Allocation => kept allocation.manager.raw)
      (recordSize Stable.writeGrowing id newSize) fun _ => True := by
  rw [Stable.recordSize]
  refine (onManager_kept (modifyInner_kept _)).bind fun _ _ => ?_
  exact Action.keeps_read.bind fun _ _ => onManager_kept (onRaw_kept (holds.writeGrowing _ _))

theorem dropRollback {allocation : Allocation} (invariant : kept allocation.manager.raw) :
    kept (dropRollback allocation).raw := by
  obtain ⟨manager, rollback⟩ := allocation
  rw [Stable.dropRollback]
  induction rollback generalizing manager with
  | nil => exact invariant
  | cons bucket rest ih =>
      refine ih _ ?_
      exact (holds.writeGrowing _ _ manager.raw invariant).1

theorem withRollback {call : AllocationM Unit}
    (keeps : Action.Keeps (fun allocation : Allocation => kept allocation.manager.raw) call fun _ => True) :
    Action.Keeps (fun manager : Manager => kept manager.raw) (withRollback call) fun _ => True := by
  intro manager invariant
  refine ⟨?_, fun _ _ => trivial⟩
  have after := (keeps ⟨manager, []⟩ invariant).1
  rw [Stable.withRollback]
  cases ended : call ⟨manager, []⟩ with
  | mk outcome allocation =>
      rw [ended] at after
      cases outcome with
      | ok value => exact after
      | err error => exact after
      | panic => exact holds.dropRollback after

theorem growBuckets (id : MemoryId) (newSize count : Nat) :
    Action.Keeps (fun manager : Manager => kept manager.raw) (growBuckets Stable.writeGrowing id newSize count)
      fun _ => True := by
  have reserved : Action.Keeps kept tryReserve fun _ => True :=
    fun raw invariant => ⟨holds.reserve raw invariant, fun _ _ => trivial⟩
  have ensured : ∀ pages, Action.Keeps kept (ensureRawPages pages) fun _ => True := by
    intro pages
    refine rawSize_kept.bind fun _ _ => ?_
    split
    · exact (holds.rawGrow _).bind fun _ _ => Action.keeps_pure trivial
    · exact Action.keeps_pure trivial
  refine Action.keeps_read.bind fun manager _ => (onRaw_kept reserved).bind fun _ _ => ?_
  split
  · exact Action.keeps_pure trivial
  · refine (onRaw_kept reserved).bind fun _ _ => ?_
    split
    · exact Action.keeps_pure trivial
    · dsimp only
      split
      · exact Action.keeps_pure trivial
      · refine (onRaw_kept (ensured _)).bind fun _ _ => ?_
        split
        · exact Action.keeps_pure trivial
        · have recorded := (holds.allocateBuckets id count).bind fun _ _ => holds.recordSize id newSize
          exact (holds.withRollback recorded).bind fun _ _ => Action.keeps_pure trivial

theorem managerGrow (id : MemoryId) (pages : Nat) :
    Action.Keeps (fun manager : Manager => kept manager.raw) (Manager.grow id pages) fun _ => True := by
  refine Action.keeps_read.bind fun manager _ => ?_
  rw [growFrom]
  dsimp only
  split
  · exact Action.keeps_pure trivial
  · split
    · exact Action.keeps_pure trivial
    · exact (holds.growBuckets id _ _).bind fun _ _ => Action.keeps_pure trivial

/-! ## Calls through handles -/

omit holds in
theorem onAccessRaw {α : Type} {call : RawM α} (keeps : Action.Keeps kept call fun _ => True) :
    Action.Keeps (fun access : Access => kept access.raw) (onAccessRaw call) fun _ => True :=
  fun access invariant => ⟨(keeps access.raw invariant).1, fun _ _ => trivial⟩

omit holds in
theorem forEachBucket (inner : MemoryManagerInner) (id : MemoryId)
    {body : Nat → Nat → Nat → AccessM (List UInt8)}
    (keeps : ∀ address length handled,
      Action.Keeps (fun access : Access => kept access.raw) (body address length handled) fun _ => True)
    (turns : Nat) : ∀ bucketIdx bucketOffset count handled,
      Action.Keeps (fun access : Access => kept access.raw)
        (inner.forEachBucket id body turns bucketIdx bucketOffset count handled) fun _ => True := by
  induction turns with
  | zero =>
      intro bucketIdx bucketOffset count handled
      exact Action.keeps_pure trivial
  | succ turns ih =>
      intro bucketIdx bucketOffset count handled
      rw [MemoryManagerInner.forEachBucket]
      split
      · cases (inner.memoryBuckets id)[bucketIdx]? with
        | none => exact Action.keeps_panic
        | some bucket =>
            have moved : ∀ cache, Action.Keeps (fun access : Access => kept access.raw)
                (Action.modify fun access => { access with cache } : AccessM Unit) fun _ => True :=
              fun cache access invariant => ⟨invariant, fun _ _ => trivial⟩
            refine (moved _).bind fun _ _ => (keeps _ _ _).bind fun _ _ => ?_
            exact (ih _ _ _ _).bind fun _ _ => Action.keeps_pure trivial
      · exact Action.keeps_pure trivial

omit holds in
theorem assertBounds (inner : MemoryManagerInner) (id : MemoryId) (offset count : Nat) :
    Action.Keeps (fun access : Access => kept access.raw) (inner.assertBounds id offset count) fun _ => True :=
  (Action.keeps_require _).bind fun _ _ => (Action.keeps_require _).bind fun _ _ =>
    (Action.keeps_require _).imp fun _ _ => trivial

omit holds in
theorem accessRead (inner : MemoryManagerInner) (id : MemoryId) (offset count : Nat) :
    Action.Keeps (fun access : Access => kept access.raw) (inner.read id offset count) fun _ => True := by
  rw [MemoryManagerInner.read]
  split
  · exact Action.keeps_pure trivial
  · refine (assertBounds inner id offset count).bind fun _ _ => Action.keeps_read.bind fun access _ => ?_
    cases access.cache.get ⟨offset, count⟩ with
    | some real => exact onAccessRaw (rawRead_kept _ _)
    | none => exact forEachBucket inner id (fun _ _ _ => onAccessRaw (rawRead_kept _ _)) _ _ _ _ _

theorem accessWrite (inner : MemoryManagerInner) (id : MemoryId) (offset : Nat) (source : List UInt8) :
    Action.Keeps (fun access : Access => kept access.raw) (inner.write id offset source) fun _ => True := by
  rw [MemoryManagerInner.write]
  split
  · exact Action.keeps_pure trivial
  · refine (assertBounds inner id offset source.length).bind fun _ _ => Action.keeps_read.bind fun access _ => ?_
    cases access.cache.get ⟨offset, source.length⟩ with
    | some real => exact onAccessRaw (holds.rawWrite _ _)
    | none =>
        refine (forEachBucket inner id (fun _ _ _ => ?_) _ _ _ _ _).bind fun _ _ => Action.keeps_pure trivial
        exact (onAccessRaw (holds.rawWrite _ _)).bind fun _ _ => Action.keeps_pure trivial

/-- Whatever is called on a manager or through its handles. -/
theorem step {machine : Machine} (invariant : kept machine.manager.raw) (call : Call) :
    kept (machine.step call).2.manager.raw := by
  have performed : ∀ (index : Nat) (run : VirtualMemory → Answer × Machine),
      (∀ handle, kept (run handle).2.manager.raw) → kept (machine.perform index run).2.manager.raw := by
    intro index run keeps
    rw [Machine.perform]
    cases machine.handles[index]? with
    | none => exact invariant
    | some handle => exact keeps handle
  cases call with
  | get id => exact invariant
  | clone index => exact performed index _ fun _ => invariant
  | size index => exact performed index _ fun _ => invariant
  | grow index pages =>
      exact performed index _ fun handle => (holds.managerGrow handle.id pages machine.manager invariant).1
  | read index offset count =>
      exact performed index _ fun handle =>
        (accessRead machine.manager.inner handle.id offset count ⟨machine.manager.raw, handle.cache⟩ invariant).1
  | write index offset source =>
      exact performed index _ fun handle =>
        (holds.accessWrite machine.manager.inner handle.id offset source ⟨machine.manager.raw, handle.cache⟩ invariant).1

end RawKept

end IcSqliteVfs.Stable
