import IcSqliteVfs.Stable.GrowAtomicity

namespace IcSqliteVfs.Stable

open IcSqliteVfs.Data IcSqliteVfs.Semantics

/-! # The manager after a caught panic

The guard restores the raw table; nothing restores the tables in memory.
-/

/-- What the raw memory encodes is what the manager holds: the strict loader
gives the tables back, and fresh handles read what the old ones read. -/
def Coherent (machine : Machine) : Prop :=
  ∀ requested : UInt16, requested ≠ 0 →
    MemoryManager.initStrictWithBucketSize requested machine.manager.raw =
      (.ok machine.manager.inner, machine.manager.raw) ∧
    ∀ index handle, machine.handles[index]? = some handle → ∀ offset count,
      ((Machine.mk machine.manager [⟨handle.id, BucketCache.new⟩]).step (.read 0 offset count)).1 =
        (machine.step (.read index offset count)).1

variable {owners : List MemoryId} {machine : Machine} {write : RawWrite} {id : MemoryId} {pages : Nat}
  {manager after : Manager}

/-- What a read answers does not depend on the cache of its handle. -/
theorem Consistent.read_fresh (consistent : Consistent owners machine) {index : Nat} {handle : VirtualMemory}
    (found : machine.handles[index]? = some handle) (offset count : Nat) :
    ((Machine.mk machine.manager [⟨handle.id, BucketCache.new⟩]).step (.read 0 offset count)).1 =
      (machine.step (.read index offset count)).1 := by
  have cached := consistent.cached handle (List.mem_of_getElem? found)
  have fresh := cached_new machine.manager.inner handle.id
  rw [Machine.step, Machine.step, Machine.perform, Machine.perform, found]
  change (Machine.access _ _ _ _ _).1 = _
  dsimp only
  by_cases bounds : machine.manager.inner.inBounds handle.id offset count
  · obtain ⟨_, _, ended, rfl, _⟩ := read_of consistent.laid cached bounds
    obtain ⟨_, _, endedFresh, rfl, _⟩ := read_of consistent.laid fresh bounds
    rw [Machine.access, Machine.access, ended, endedFresh]
  · by_cases empty : count = 0
    · subst empty
      rfl
    · rw [Machine.access, Machine.access, read_panics empty bounds, read_panics empty bounds]

theorem Faithful.coherent (faithful : Faithful owners machine) : Coherent machine := by
  intro requested nonzero
  have same : Enlarged machine.manager.raw machine.manager.raw :=
    ⟨faithful.consistent.laid.offsetPages, Nat.le_refl _, fun _ _ => rfl⟩
  exact ⟨(same.reload nonzero faithful.reloads).1,
    fun index handle found offset count => faithful.consistent.read_fresh found offset count⟩

/-- A grow by no pages has nothing to forget. -/
theorem Faithful.caught_none (faithful : Faithful owners machine) (faulty : Faulty write)
    (ended : Manager.growVia write id 0 machine.manager = (.panic, after)) :
    Faithful owners { machine with manager := after } := by
  obtain ⟨count, countEq, unwound⟩ := growVia_panicked faulty faithful.undamaged.vacant ended
  rw [Nat.add_zero, Nat.sub_self] at countEq
  have sameInner : after.inner = machine.manager.inner := unwound.still countEq (Nat.add_zero _)
  have laid := faithful.consistent.laid
  refine ⟨⟨?_, ?_⟩, ?_, ?_⟩
  · rw [sameInner]
    exact ⟨laid.allocated, laid.limit, laid.unit, laid.unitLimit, laid.buckets, laid.sizes,
      laid.pages.trans unwound.pages⟩
  · rw [sameInner]
    exact faithful.consistent.cached
  · intro slot inside
    change after.raw.memory.bytes _ = _
    rw [unwound.bytes]
    exact faithful.tabled slot inside
  · rw [sameInner]
    exact ((faithful.enlarged unwound.pages fun _ _ => by rw [unwound.bytes]).tryLoad faithful.reloads).1

/-- After any other grow that panicked the tables in memory are not those the
raw memory encodes. -/
theorem Faithful.caught_incoherent (faithful : Faithful owners machine) (faulty : Faulty write)
    (ended : Manager.growVia write id pages machine.manager = (.panic, after)) (some : pages ≠ 0) :
    ¬ Coherent { machine with manager := after } := by
  intro coherent
  obtain ⟨count, _, unwound⟩ := growVia_panicked faulty faithful.undamaged.vacant ended
  have enlarged := faithful.enlarged unwound.pages fun _ _ => by rw [unwound.bytes]
  have nonzero : (1 : UInt16) ≠ 0 := by decide
  have loaded := (coherent 1 nonzero).1.symm.trans (enlarged.reload nonzero faithful.reloads).1
  have same : after.inner = machine.manager.inner := Outcome.ok.inj (Prod.mk.inj loaded).1
  rcases unwound.ahead with longer | resized
  · rw [same] at longer
    exact absurd longer (Nat.lt_irrefl _)
  · rw [same] at resized
    omega

/-- A panic in a grow leaves a manager that agrees with its raw memory, then
and after whatever comes later, exactly if the grow asked for no pages. -/
theorem caught_grow_panic_stays_coherent_iff (created : Created manager) (calls : List Call)
    (ran : machine = (Machine.run ⟨manager, []⟩ calls).2) (faulty : Faulty write)
    (ended : Manager.growVia write id pages machine.manager = (.panic, after)) :
    (∀ continuation, Coherent (Machine.run { machine with manager := after } continuation).2) ↔ pages = 0 := by
  subst ran
  obtain ⟨_, start⟩ := created.faithful
  obtain ⟨owners, faithful⟩ := Faithful.run calls start
  constructor
  · intro coherent
    by_contra some
    exact faithful.caught_incoherent faulty ended some (coherent [])
  · rintro rfl continuation
    obtain ⟨_, final⟩ := Faithful.run continuation (faithful.caught_none faulty ended)
    exact final.coherent

theorem caught_grow_panic_stays_coherent_without_pages :
    ∃ manager after, SetUp 1 (fun _ => true) (fun _ => true) manager ∧
      Manager.growVia (faultAt 0) ⟨7, by decide⟩ 0 manager = (.panic, after) ∧
      ∀ continuation, Coherent (Machine.run ⟨after, []⟩ continuation).2 := by
  obtain ⟨manager, after, setUp, panicked⟩ := @setUp_headerFault ⟨7, by decide⟩ 0 (by decide)
  exact ⟨manager, after, setUp, panicked,
    (caught_grow_panic_stays_coherent_iff setUp.created [] rfl (faulty_faultAt 0) panicked).mpr rfl⟩

/-- One page: the size in memory is one, the size in the raw header is none. -/
theorem caught_grow_panic_incoherent_with_one_page :
    ∃ manager after, SetUp 1 (fun _ => true) (fun _ => true) manager ∧
      Manager.growVia (faultAt 0) ⟨7, by decide⟩ 1 manager = (.panic, after) ∧ ¬ Coherent ⟨after, []⟩ := by
  obtain ⟨manager, after, setUp, panicked⟩ := @setUp_headerFault ⟨7, by decide⟩ 1 (by decide)
  obtain ⟨owners, faithful⟩ := setUp.created.faithful
  exact ⟨manager, after, setUp, panicked,
    faithful.caught_incoherent (faulty_faultAt 0) panicked Nat.one_ne_zero⟩

end IcSqliteVfs.Stable
