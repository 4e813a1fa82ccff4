import IcSqliteVfs.Stable.GrowFault
import IcSqliteVfs.Stable.Managers

namespace IcSqliteVfs.Stable

open IcSqliteVfs.Data IcSqliteVfs.Semantics

/-! # Databases that do not overlap

Virtual memories of one manager object lie in buckets of their own, and managers
over different backing memories share nothing.  Two managers over one backing
memory do not know of each other.
-/

variable {owners : List MemoryId} {machine : Machine} {index : Nat} {handle : VirtualMemory} {id : MemoryId}

/-! ## What is read through a handle -/

/-- The answer of a read, whatever the cache of the handle holds. -/
def Manager.readAnswer (manager : Manager) (id : MemoryId) (offset count : Nat) : Answer :=
  if count = 0 then .bytes []
  else if manager.inner.inBounds id offset count then .bytes (manager.inner.bytesAt manager.raw.memory id offset count)
  else .panicked

theorem Consistent.read_answer (consistent : Consistent owners machine)
    (found : machine.handles[index]? = some handle) (offset count : Nat) :
    (machine.step (.read index offset count)).1 = machine.manager.readAnswer handle.id offset count := by
  have cached := consistent.cached handle (List.mem_of_getElem? found)
  rw [Machine.step, Machine.perform, found, Manager.readAnswer]
  change Answer.of Answer.bytes (machine.manager.inner.read handle.id offset count
    ⟨machine.manager.raw, handle.cache⟩).1 = _
  by_cases empty : count = 0
  · subst empty
    rfl
  · rw [if_neg empty]
    by_cases bounds : machine.manager.inner.inBounds handle.id offset count
    · obtain ⟨_, _, ended, rfl, _⟩ := read_of consistent.laid cached bounds
      rw [ended, if_pos bounds]
      rfl
    · rw [read_panics empty bounds, if_neg bounds]
      rfl

/-- A memory is as large as it was and holds what it held. -/
structure SameView (id : MemoryId) (before after : Manager) : Prop where
  size : after.inner.memorySizesInPages id = before.inner.memorySizesInPages id
  bytes : ∀ position, position < before.inner.memorySizesInPages id * stablePageSize →
    after.raw.memory.bytes (after.inner.addressOf id position) =
      before.raw.memory.bytes (before.inner.addressOf id position)

theorem sameView_self (id : MemoryId) (manager : Manager) : SameView id manager manager := ⟨rfl, fun _ _ => rfl⟩

theorem SameView.readAnswer {before after : Manager} (same : SameView id before after) (offset count : Nat) :
    after.readAnswer id offset count = before.readAnswer id offset count := by
  have bounds : after.inner.inBounds id offset count ↔ before.inner.inBounds id offset count := by
    rw [MemoryManagerInner.inBounds, MemoryManagerInner.inBounds, same.size]
  rw [Manager.readAnswer, Manager.readAnswer]
  by_cases empty : count = 0
  · rw [if_pos empty, if_pos empty]
  · rw [if_neg empty, if_neg empty]
    by_cases inside : before.inner.inBounds id offset count
    · rw [if_pos inside, if_pos (bounds.mpr inside), MemoryManagerInner.bytesAt, MemoryManagerInner.bytesAt]
      have agree : ∀ position ∈ List.range count,
          after.raw.memory.bytes (after.inner.addressOf id (offset + position)) =
            before.raw.memory.bytes (before.inner.addressOf id (offset + position)) := by
        intro position member
        apply same.bytes
        have below := List.mem_range.mp member
        rw [MemoryManagerInner.inBounds] at inside
        omega
      rw [List.map_congr_left agree]
    · rw [if_neg inside, if_neg fun outside => inside (bounds.mp outside)]

/-! ## One manager object -/

/-- A write through one id leaves the memories of the others. -/
theorem Written.sameView {manager : Manager} {raw : Raw} {other : MemoryId} {offset : Nat} {source : List UInt8}
    (laid : Laid owners manager.inner manager.raw.memory)
    (written : Written manager.inner id offset source manager.raw.memory raw.memory)
    (bounds : manager.inner.inBounds id offset source.length) (apart : other ≠ id) :
    SameView other manager { manager with raw } := by
  refine ⟨rfl, ?_⟩
  intro position inside
  have whole : manager.inner.inBounds other position 1 := inside
  have room := laid.range_room whole
  have target := laid.range_room bounds
  apply written.outside
  intro place below equal
  rw [laid.addressOf_eq, laid.addressOf_eq] at equal
  exact place_ne apart laid.unitBytes (by omega) (by omega) equal

/-- Buckets that are handed out to one id leave the memories of the others. -/
theorem Extended.sameView {manager after : Manager} {pages count : Nat} {other : MemoryId}
    (laid : Laid owners manager.inner manager.raw.memory) (extended : Extended id pages count manager after)
    (laidAfter : Laid (owners ++ List.replicate count id) after.inner after.raw.memory) (apart : other ≠ id) :
    SameView other manager after := by
  have unit : after.inner.bucketSizeInBytes = manager.inner.bucketSizeInBytes := by
    rw [MemoryManagerInner.bucketSizeInBytes, MemoryManagerInner.bucketSizeInBytes, extended.bucketSizeInPages]
  have room : manager.inner.allocatedBuckets + count ≤ maxNumBuckets := by
    have limit := laidAfter.limit
    rwa [List.length_append, List.length_replicate, ← laid.allocated] at limit
  constructor
  · rw [extended.memorySizesInPages, Function.update_of_ne apart]
  · intro position _
    rw [laidAfter.addressOf_eq, laid.addressOf_eq, unit, owned_append_replicate, if_neg fun same => apart same.symm,
      extended.above room (start_le_place _)]

/-- A call through one handle leaves the memories of the other ids. -/
theorem Consistent.call_sameView (consistent : Consistent owners machine)
    (found : machine.handles[index]? = some handle) (call : MemoryCall) {other : MemoryId} (apart : other ≠ handle.id) :
    SameView other machine.manager (machine.step (call.of index)).2.manager := by
  have cached := consistent.cached handle (List.mem_of_getElem? found)
  cases call with
  | size =>
      rw [MemoryCall.of, Machine.step, Machine.perform, found]
      exact sameView_self other _
  | grow pages =>
      rw [MemoryCall.of, Machine.step, Machine.perform, found]
      change SameView other machine.manager (Manager.grow handle.id pages machine.manager).2
      rcases grow_cases consistent.laid handle.id pages with
        ⟨after, ended, sameInner, sameMemory⟩ | ⟨count, after, ended, extended, laidAfter⟩
      · rw [ended]
        exact ⟨by rw [sameInner], fun _ _ => by rw [sameInner, sameMemory]⟩
      · rw [ended]
        exact extended.sameView consistent.laid laidAfter apart
  | read offset count =>
      rw [MemoryCall.of, Machine.step, Machine.perform, found]
      change SameView other machine.manager { machine.manager with
        raw := (machine.manager.inner.read handle.id offset count ⟨machine.manager.raw, handle.cache⟩).2.raw }
      by_cases bounds : machine.manager.inner.inBounds handle.id offset count
      · obtain ⟨_, after, ended, _, same, _⟩ := read_of consistent.laid cached bounds
        rw [ended, same]
        exact sameView_self other _
      · by_cases empty : count = 0
        · subst empty
          exact sameView_self other _
        · rw [read_panics empty bounds]
          exact sameView_self other _
  | write offset source =>
      rw [MemoryCall.of, Machine.step, Machine.perform, found]
      change SameView other machine.manager { machine.manager with
        raw := (machine.manager.inner.write handle.id offset source ⟨machine.manager.raw, handle.cache⟩).2.raw }
      by_cases bounds : machine.manager.inner.inBounds handle.id offset source.length
      · obtain ⟨_, after, ended, written, _⟩ := write_of consistent.laid cached bounds
        rw [ended]
        exact written.sameView consistent.laid bounds apart
      · by_cases empty : source = []
        · subst empty
          exact sameView_self other _
        · rw [write_panics empty bounds]
          exact sameView_self other _

/-! ## Registered memories -/

variable {β : Type} [DecidableEq β] {world : World β}

/-- The two are memories of one manager object, or of different backing memories. -/
def DbMemory.Separate (first second : DbMemory β) : Prop :=
  first.manager = second.manager ∨ first.backing ≠ second.backing

theorem World.Sound.call_isolated (sound : world.Sound) {first second : DbMemory β} (placed : world.Places first)
    (otherPlaced : world.Places second) (apart : first.identity ≠ second.identity) (separate : first.Separate second)
    (call : MemoryCall) (offset count : Nat) :
    ((world.call first.manager (call.of first.handle)).2.call second.manager (.read second.handle offset count)).1 =
      (world.call second.manager (.read second.handle offset count)).1 := by
  obtain ⟨object, taken, found, at_, backing, id⟩ := World.places_iff.mp placed
  obtain ⟨other, otherTaken, otherFound, otherAt, otherBacking, otherId⟩ := World.places_iff.mp otherPlaced
  have inside := (List.getElem?_eq_some_iff.mp found).1
  rw [World.call_of found, World.call_of otherFound]
  by_cases same : first.manager = second.manager
  · -- One manager object: the ids are different ones.
    rw [same] at found inside ⊢
    obtain rfl : object = other := Option.some.inj (found.symm.trans otherFound)
    have differ : otherTaken.id ≠ taken.id := by
      intro equal
      apply apart
      rw [DbMemory.identity, DbMemory.identity, ← backing, ← otherBacking, ← id, ← otherId, equal]
    obtain ⟨owners, consistent⟩ := sound.consistent object (List.mem_of_getElem? found)
    obtain ⟨ownersAfter, stepped⟩ := consistent.step (call.of first.handle)
    have view := consistent.call_sameView at_ call differ
    obtain ⟨after, stays, sameId⟩ := (world.machine object).step_handle (call.of first.handle) otherAt
    generalize (world.machine object).step (call.of first.handle) = result at stepped view stays ⊢
    have next : (world.put second.manager object result.2).managers[second.manager]? =
        some ⟨object.backing, result.2.manager.inner, result.2.handles⟩ := by
      change (world.managers.set second.manager _)[second.manager]? = _
      rw [List.getElem?_set_self inside]
    rw [World.call_of next, World.machine_put, stepped.read_answer stays, consistent.read_answer otherAt, sameId]
    exact view.readAnswer offset count
  · -- Two backing memories: the other object and its raw memory are as they were.
    have differ : other.backing ≠ object.backing := by
      rcases separate with equal | differ
      · exact absurd equal same
      · rw [backing, otherBacking]
        exact differ.symm
    generalize (world.machine object).step (call.of first.handle) = result
    have next : (world.put first.manager object result.2).managers[second.manager]? = some other := by
      change (world.managers.set first.manager _)[second.manager]? = _
      rw [List.getElem?_set_ne same, otherFound]
    have untouched : (world.put first.manager object result.2).machine other = world.machine other := by
      have raw : Function.update world.backings object.backing result.2.manager.raw other.backing =
          world.backings other.backing := Function.update_of_ne differ _ _
      rw [World.machine, World.machine, World.put]
      dsimp only
      rw [raw]
    rw [World.call_of next, untouched]

namespace World

theorem through_of {context : ContextId} {memory : DbMemory β} (found : world.registry.memoryOf context = some memory)
    (call : MemoryCall) : world.through context call = world.call memory.manager (call.of memory.handle) := by
  rw [through, found]

theorem call_registry (world : World β) (index : Nat) (call : Call) :
    (world.call index call).2.registry = world.registry := by
  rw [World.call]
  cases world.managers[index]? with
  | none => rfl
  | some object => rfl

omit [DecidableEq β] in
theorem Sound.placed (sound : world.Sound) {context : ContextId} {memory : DbMemory β}
    (found : world.registry.memoryOf context = some memory) : world.Places memory :=
  sound.places _ (Registry.mem_of_memoryOf found)

theorem Sound.throughAll_isolated (sound : world.Sound) {one other : ContextId} {first second : DbMemory β}
    (registered : world.registry.memoryOf one = some first)
    (otherRegistered : world.registry.memoryOf other = some second) (different : one ≠ other)
    (separate : first.Separate second) (calls : List MemoryCall) (offset count : Nat) :
    ((world.throughAll one calls).through other (.read offset count)).1 =
      (world.through other (.read offset count)).1 := by
  induction calls generalizing world with
  | nil => rfl
  | cons call rest ih =>
      have apart := sound.registry.identity_ne registered otherRegistered different
      have registry := world.call_registry first.manager (call.of first.handle)
      have step := sound.call_isolated (sound.placed registered) (sound.placed otherRegistered) apart separate call
        offset count
      have next := sound.call first.manager (call.of first.handle)
      rw [throughAll, List.foldl_cons, through_of registered]
      rw [← throughAll]
      rw [ih next (by rw [registry]; exact registered) (by rw [registry]; exact otherRegistered),
        through_of (by rw [registry]; exact otherRegistered), through_of otherRegistered]
      exact step

/-- A memory that is registered under one context is turned away under any other. -/
theorem Sound.register_rejected (sound : world.Sound) {context : ContextId} {first memory : DbMemory β}
    (registered : world.registry.memoryOf context = some first) (same : memory.identity = first.identity)
    (asDefault : Bool) :
    world.register asDefault memory = (.err .memoryAlreadyRegistered, world) ∨
      asDefault ∧ world.register asDefault memory = (.err .alreadyInitialized, world) := by
  have known : memory.identity ∈ world.registry.registeredMemory.map Prod.snd := by
    rw [same]
    exact List.mem_map.mpr ⟨_, sound.registry.mem_registered registered, rfl⟩
  rw [World.register]
  rcases registerAs_cases DbMemory.identity asDefault memory world.registry with
    ⟨error, turned, ended⟩ | ⟨passed, _, _⟩ | ⟨_, _, unknown, _⟩
  · rw [ended]
    rw [turnedAway, if_pos known] at turned
    split at turned
    · rename_i set
      obtain rfl := Option.some.inj turned
      exact .inr ⟨set.1, rfl⟩
    · obtain rfl := Option.some.inj turned
      exact .inl rfl
  · rw [turnedAway, if_pos known] at passed
    split at passed
    · cases passed
    · cases passed
  · exact absurd known unknown

end World

/-- Databases under different contexts are never the same virtual memory: one that
is offered again, also by a second manager over the same backing memory, is turned
away.  If they are of one manager object or of different backing memories, then
nothing done through one of them changes what is read through the other. -/
theorem registered_databases_do_not_overlap (reached : world.Reached) {one other : ContextId}
    {first second : DbMemory β} (registered : world.registry.memoryOf one = some first)
    (otherRegistered : world.registry.memoryOf other = some second) (different : one ≠ other) :
    first.identity ≠ second.identity ∧
    (first.Separate second → ∀ calls offset count,
      ((world.throughAll one calls).through other (.read offset count)).1 =
        (world.through other (.read offset count)).1) ∧
    ∀ asDefault manager handle memory, world.memoryAt manager handle = some memory →
      memory.identity = first.identity →
      world.register asDefault memory = (.err .memoryAlreadyRegistered, world) ∨
        asDefault ∧ world.register asDefault memory = (.err .alreadyInitialized, world) := by
  have sound := reached.sound
  refine ⟨sound.registry.identity_ne registered otherRegistered different, ?_, ?_⟩
  · intro separate calls offset count
    exact sound.throughAll_isolated registered otherRegistered different separate calls offset count
  · intro asDefault manager handle memory _ same
    exact sound.register_rejected registered same asDefault

/-! ## Two managers over one backing memory -/

theorem fresh_numBucketsNeeded (pages : Nat) : (MemoryManagerInner.fresh 1).numBucketsNeeded pages = pages := by
  have unit : (MemoryManagerInner.fresh 1).bucketSizeInPages = 1 := rfl
  rw [MemoryManagerInner.numBucketsNeeded, unit, Nat.div_one]
  omega

/-- The first page of a memory whose manager has handed out nothing lies in the first
bucket, whatever other managers have handed out. -/
theorem grow_first {raw : Raw} (generous : Generous raw) (pages : bucketsOffsetInPages ≤ raw.memory.pages)
    (id : MemoryId) :
    ∃ after, Manager.grow id 1 ⟨.fresh 1, raw⟩ = (.ok 0, after) ∧
      after.inner.memorySizesInPages id = 1 ∧ after.inner.bucketSizeInPages = 1 ∧
      after.inner.memoryBuckets id = [0] := by
  have none : (MemoryManagerInner.fresh 1).memorySizesInPages id = 0 := rfl
  have laid : Laid [] (.fresh 1) raw.memory := by
    refine ⟨rfl, Nat.zero_le _, by decide, by decide, fun _ => rfl, fun other => ?_, pages⟩
    rw [fresh_numBucketsNeeded]
    rfl
  have countEq : 1 = (MemoryManagerInner.fresh 1).numBucketsNeeded ((MemoryManagerInner.fresh 1).memorySizesInPages id + 1) -
      (MemoryManagerInner.fresh 1).numBucketsNeeded ((MemoryManagerInner.fresh 1).memorySizesInPages id) := by
    rw [fresh_numBucketsNeeded, fresh_numBucketsNeeded, none]
  have fits : (MemoryManagerInner.fresh 1).memorySizesInPages id + 1 < u64Bound := by
    rw [none]
    decide
  have room : (MemoryManagerInner.fresh 1).allocatedBuckets + 1 ≤ maxNumBuckets := by decide
  obtain ⟨whole, granted⟩ := @growBuckets_generous id (.fresh 1) raw 1
    ((MemoryManagerInner.fresh 1).memorySizesInPages id + 1) generous pages room (by decide)
  have grown : Manager.grow id 1 ⟨.fresh 1, raw⟩ = (.ok 0, whole) := by
    rw [Manager.grow, growVia_asked writeGrowing id 1 (.fresh 1) raw countEq fits room,
      Action.bind_of_ok _ granted]
    rfl
  rcases @grow_cases [] ⟨.fresh 1, raw⟩ laid id 1 with ⟨after, ended, _⟩ | ⟨count, after, ended, extended, laidAfter⟩
  · have answers : (0 : Int) = -1 := Outcome.ok.inj (Prod.mk.inj (grown.symm.trans ended)).1
    omega
  · obtain rfl := (Prod.mk.inj (grown.symm.trans ended)).2
    have size : whole.inner.memorySizesInPages id = 1 := by
      rw [extended.memorySizesInPages, Function.update_self]
      exact congrArg (· + 1) none
    have unit : whole.inner.bucketSizeInPages = 1 := extended.bucketSizeInPages
    have needed := laidAfter.sizes id
    have handed := laidAfter.buckets id
    rw [owned_append_replicate, if_pos rfl] at needed handed
    have one : 1 = count := by
      rw [size, MemoryManagerInner.numBucketsNeeded, unit] at needed
      simpa [owned] using needed
    refine ⟨whole, grown, size, unit, ?_⟩
    rw [handed, ← one]
    rfl

/-- Two manager objects over one backing memory, with one handle each. -/
def twin (raw : Raw) (first second : MemoryManagerInner) (handle other : VirtualMemory)
    (registry : Registry (Unit × MemoryId) (DbMemory Unit)) : World Unit :=
  ⟨fun _ => raw, [⟨(), first, [handle]⟩, ⟨(), second, [other]⟩], registry⟩

section Twin

variable {raw : Raw} {first second : MemoryManagerInner} {handle other : VirtualMemory}
  {registry : Registry (Unit × MemoryId) (DbMemory Unit)}

theorem twin_call_first (call : Call) {taken : VirtualMemory} {manager : Manager}
    (ended : ((Machine.mk ⟨first, raw⟩ [handle]).step call).2 = ⟨manager, [taken]⟩) :
    ((twin raw first second handle other registry).call 0 call).2 =
      twin manager.raw manager.inner second taken other registry := by
  have found : (twin raw first second handle other registry).managers[0]? = some ⟨(), first, [handle]⟩ := rfl
  have machine : (twin raw first second handle other registry).machine ⟨(), first, [handle]⟩ =
      ⟨⟨first, raw⟩, [handle]⟩ := rfl
  rw [World.call_of found, machine, ended, World.put, twin, twin]
  congr 1

theorem twin_call_second (call : Call) {taken : VirtualMemory} {manager : Manager}
    (ended : ((Machine.mk ⟨second, raw⟩ [other]).step call).2 = ⟨manager, [taken]⟩) :
    ((twin raw first second handle other registry).call 1 call).2 =
      twin manager.raw first manager.inner handle taken registry := by
  have found : (twin raw first second handle other registry).managers[1]? = some ⟨(), second, [other]⟩ := rfl
  have machine : (twin raw first second handle other registry).machine ⟨(), second, [other]⟩ =
      ⟨⟨second, raw⟩, [other]⟩ := rfl
  rw [World.call_of found, machine, ended, World.put, twin, twin]
  congr 1

end Twin

theorem step_grow_one {inner : MemoryManagerInner} {raw : Raw} {handle : VirtualMemory} {pages : Nat} {previous : Int}
    {after : Manager} (ended : Manager.grow handle.id pages ⟨inner, raw⟩ = (.ok previous, after)) :
    ((Machine.mk ⟨inner, raw⟩ [handle]).step (.grow 0 pages)).2 = ⟨after, [handle]⟩ := by
  change Machine.mk (Manager.grow handle.id pages ⟨inner, raw⟩).2 [handle] = _
  rw [ended]

theorem step_write_one (inner : MemoryManagerInner) (raw : Raw) (handle : VirtualMemory) (offset : Nat)
    (source : List UInt8) :
    ((Machine.mk ⟨inner, raw⟩ [handle]).step (.write 0 offset source)).2 =
      ⟨⟨inner, (inner.write handle.id offset source ⟨raw, handle.cache⟩).2.raw⟩,
        [⟨handle.id, (inner.write handle.id offset source ⟨raw, handle.cache⟩).2.cache⟩]⟩ := rfl

/-- The databases that the two managers offer. -/
def firstMemory : DbMemory Unit := ⟨0, 0, (), ⟨0, by decide⟩⟩
def secondMemory : DbMemory Unit := ⟨1, 0, (), ⟨1, by decide⟩⟩

/-- What the registry holds when both are registered. -/
def firstRegistry : Registry (Unit × MemoryId) (DbMemory Unit) :=
  (registerAs DbMemory.identity false firstMemory Registry.empty).2

def bothRegistry : Registry (Unit × MemoryId) (DbMemory Unit) :=
  (registerAs DbMemory.identity false secondMemory firstRegistry).2

theorem createManager_of {world : World Unit} {bucketSize : UInt16} {inner : MemoryManagerInner} {raw : Raw}
    (ended : MemoryManager.initStrictWithBucketSize bucketSize (world.backings ()) = (.ok inner, raw)) :
    world.createManager true () bucketSize =
      ⟨fun _ => raw, world.managers ++ [⟨(), inner, []⟩], world.registry⟩ := by
  simp only [World.createManager, if_true, ended]
  congr 1

/-- The superblock that opening an empty memory stores. -/
def openingBytes : List UInt8 := Superblock.fresh.encode.take Superblock.fresh.encodedLenOf

/-- A raw memory that nothing was written to, in an environment that grants everything. -/
def emptyRaw : Raw := Raw.empty (fun _ => true) fun _ => true

/-- A manager is created over it, and a second one finds the same tables. -/
theorem fresh_managers : ∃ raw, MemoryManager.initStrictWithBucketSize 1 emptyRaw = (.ok (.fresh 1), raw) ∧
    MemoryManager.initStrictWithBucketSize 1 raw = (.ok (.fresh 1), raw) ∧ Generous raw ∧
    Laid [] (.fresh 1) raw.memory := by
  have nonzero : (1 : UInt16) ≠ 0 := by decide
  obtain ⟨⟨inner, raw⟩, setUp⟩ := setUp_granted nonzero fun _ => true
  obtain ⟨_, new⟩ := setUp.isNew
  obtain ⟨rfl, laid, recorded, _⟩ := new_returned nonzero new
  have generous : Generous raw := by
    have kept := (rawKept_generous.new 1 emptyRaw ⟨fun _ => rfl, fun _ => rfl⟩).1
    rwa [emptyRaw, new] at kept
  refine ⟨raw, ?_, recorded.initStrict_eq laid nonzero, generous, laid⟩
  have sized : rawSize emptyRaw = (.ok 0, emptyRaw) := rfl
  rw [MemoryManager.initStrictWithBucketSize, if_neg nonzero, MemoryManagerInner.initStrict,
    Action.bind_of_ok _ sized, if_pos rfl]
  exact new

/-- Two managers are created over one empty memory; each of them opens a database,
one after the other. -/
theorem twin_reached : ∃ raw first second handle other,
    (twin raw first second handle other bothRegistry).Reached ∧
    handle.id = firstMemory.id ∧ other.id = secondMemory.id ∧
    (first.memorySizesInPages firstMemory.id = 1 ∧ first.bucketSizeInPages = 1 ∧
      first.memoryBuckets firstMemory.id = [0]) ∧
    (second.memorySizesInPages secondMemory.id = 1 ∧ second.bucketSizeInPages = 1 ∧
      second.memoryBuckets secondMemory.id = [0]) := by
  obtain ⟨raw, created, again, generous, laid⟩ := fresh_managers
  let handle : VirtualMemory := ⟨firstMemory.id, BucketCache.new⟩
  let other : VirtualMemory := ⟨secondMemory.id, BucketCache.new⟩
  have managers : (twin raw (.fresh 1) (.fresh 1) handle other Registry.empty).Reached := by
    have one := World.Reached.createManager true () 1 (World.Reached.start fun _ : Unit => emptyRaw)
    rw [createManager_of created] at one
    have two := World.Reached.createManager true () 1 one
    rw [createManager_of again] at two
    have three := World.Reached.call 1 (.get secondMemory.id) (World.Reached.call 0 (.get firstMemory.id) two)
    exact three
  have registered : (twin raw (.fresh 1) (.fresh 1) handle other firstRegistry).Reached :=
    World.Reached.register false (show World.memoryAt _ 0 0 = some firstMemory from rfl) managers
  -- The first database is opened: it gets a page of its manager's first bucket.
  obtain ⟨grown, ended, first⟩ := grow_first generous laid.offsetPages firstMemory.id
  have afterGrow := World.Reached.call 0 (.grow 0 1) registered
  rw [twin_call_first _ (step_grow_one ended)] at afterGrow
  have written := step_write_one grown.inner grown.raw handle superblockOffset openingBytes
  generalize (grown.inner.write handle.id superblockOffset openingBytes ⟨grown.raw, handle.cache⟩).2 = left at written
  obtain ⟨stored, cache⟩ := left
  have opened := World.Reached.call 0 (.write 0 superblockOffset openingBytes) afterGrow
  rw [twin_call_first _ written] at opened
  have kept : ∀ property, RawKept property → property raw → property stored := by
    intro property holds start
    have middle := holds.step (show property (Machine.mk ⟨.fresh 1, raw⟩ [handle]).manager.raw from start) (.grow 0 1)
    rw [step_grow_one ended] at middle
    have last := holds.step (show property (Machine.mk ⟨grown.inner, grown.raw⟩ [handle]).manager.raw from middle)
      (.write 0 superblockOffset openingBytes)
    rwa [written] at last
  have both : (twin stored grown.inner (.fresh 1) { handle with cache } other bothRegistry).Reached :=
    World.Reached.register false (show World.memoryAt _ 1 0 = some secondMemory from rfl) opened
  -- The second manager still knows of no bucket, and hands out the first one again.
  obtain ⟨grownToo, endedToo, second⟩ := grow_first (kept _ rawKept_generous generous)
    (kept _ (rawKept_pages bucketsOffsetInPages) laid.offsetPages) secondMemory.id
  have afterGrowToo := World.Reached.call 1 (.grow 0 1) both
  rw [twin_call_second _ (step_grow_one endedToo)] at afterGrowToo
  have writtenToo := step_write_one grownToo.inner grownToo.raw other superblockOffset openingBytes
  have openedToo := World.Reached.call 1 (.write 0 superblockOffset openingBytes) afterGrowToo
  rw [twin_call_second _ writtenToo] at openedToo
  exact ⟨_, grown.inner, grownToo.inner, _, _, openedToo, rfl, rfl, first, second⟩

/-- The pages of the two databases are the same bytes of the raw memory. -/
theorem addressOf_first_bucket {inner : MemoryManagerInner} {id : MemoryId} (unit : inner.bucketSizeInPages = 1)
    (buckets : inner.memoryBuckets id = [0]) (position : Nat) :
    inner.addressOf id position = place bucketsOffsetInBytes stablePageSize [0] position := by
  rw [MemoryManagerInner.addressOf, MemoryManagerInner.bucketSizeInBytes, unit, buckets, Nat.one_mul]

theorem byte_succ_ne (byte : UInt8) : byte + 1 ≠ byte := by
  intro same
  simp at same

theorem readAnswer_one {manager : Manager} {id : MemoryId} {offset : Nat}
    (bounds : manager.inner.inBounds id offset 1) :
    manager.readAnswer id offset 1 = .bytes [manager.raw.memory.bytes (manager.inner.addressOf id offset)] := by
  rw [Manager.readAnswer, if_neg (by decide), if_pos bounds]
  rfl

/-- What is read through the first database is what the raw memory holds there. -/
theorem twin_read {raw : Raw} {first second : MemoryManagerInner} {handle other : VirtualMemory}
    (sound : (twin raw first second handle other bothRegistry).Sound) (id : handle.id = firstMemory.id)
    (size : first.memorySizesInPages firstMemory.id = 1) (unit : first.bucketSizeInPages = 1)
    (buckets : first.memoryBuckets firstMemory.id = [0]) {offset : Nat} (inside : offset < stablePageSize) :
    ((twin raw first second handle other bothRegistry).through 1 (.read offset 1)).1 =
      .bytes [raw.memory.bytes (place bucketsOffsetInBytes stablePageSize [0] offset)] := by
  have registered : (twin raw first second handle other bothRegistry).registry.memoryOf 1 = some firstMemory := rfl
  have found : (twin raw first second handle other bothRegistry).managers[firstMemory.manager]? =
      some ⟨(), first, [handle]⟩ := rfl
  obtain ⟨owners, consistent⟩ := sound.consistent ⟨(), first, [handle]⟩ (List.mem_of_getElem? found)
  have bounds : first.inBounds firstMemory.id offset 1 := by
    rw [MemoryManagerInner.inBounds, size]
    omega
  have answer : ((Machine.mk ⟨first, raw⟩ [handle]).step (.read 0 offset 1)).1 =
      (Manager.mk first raw).readAnswer handle.id offset 1 := consistent.read_answer rfl offset 1
  have byte : (Manager.mk first raw).readAnswer firstMemory.id offset 1 =
      .bytes [raw.memory.bytes (first.addressOf firstMemory.id offset)] := readAnswer_one bounds
  rw [World.through_of registered, World.call_of found]
  change ((Machine.mk ⟨first, raw⟩ [handle]).step (.read 0 offset 1)).1 = _
  rw [answer, id, byte, addressOf_first_bucket unit buckets]

/-- Two managers over one backing memory open a database each, under different ids;
a write through the second then changes what is read through the first. -/
theorem managers_over_one_backing_overlap :
    ¬ ∀ (world : World Unit), world.Reached → ∀ (one other : ContextId) (first second : DbMemory Unit),
      world.registry.memoryOf one = some first → world.registry.memoryOf other = some second → one ≠ other →
      ∀ calls offset count, ((world.throughAll one calls).through other (.read offset count)).1 =
        (world.through other (.read offset count)).1 := by
  intro isolated
  obtain ⟨raw, first, second, handle, other, reached, handleId, otherId, ⟨firstSize, firstUnit, firstBuckets⟩,
    ⟨secondSize, secondUnit, secondBuckets⟩⟩ := twin_reached
  let source := [raw.memory.bytes (place bucketsOffsetInBytes stablePageSize [0] 20000) + 1]
  have sound := reached.sound
  have same := isolated (twin raw first second handle other bothRegistry) reached 2 1 secondMemory firstMemory rfl rfl
    (by decide) [.write 20000 source] 20000 1
  have inside : 20000 < stablePageSize := by decide
  -- The write goes through the second manager to the bucket that both have handed out.
  obtain ⟨owners, consistent⟩ := sound.consistent ⟨(), second, [other]⟩
    (List.mem_of_getElem? (show (twin raw first second handle other bothRegistry).managers[1]? = some _ from rfl))
  have cached := consistent.cached other (List.mem_singleton.mpr rfl)
  have bounds : second.inBounds other.id 20000 source.length := by
    rw [MemoryManagerInner.inBounds, otherId, secondSize, Nat.one_mul]
    exact inside
  obtain ⟨_, after, ended, written, _⟩ := write_of consistent.laid cached bounds
  have wrote : ((twin raw first second handle other bothRegistry).throughAll 2 [.write 20000 source]) =
      twin after.raw first second handle ⟨other.id, after.cache⟩ bothRegistry := by
    have step := step_write_one second raw other 20000 source
    have stored : second.write other.id 20000 source ⟨raw, other.cache⟩ = _ := ended
    rw [stored] at step
    exact twin_call_second (.write 0 20000 source) step
  have landed : after.raw.memory.bytes (place bucketsOffsetInBytes stablePageSize [0] 20000) =
      raw.memory.bytes (place bucketsOffsetInBytes stablePageSize [0] 20000) + 1 := by
    have stored : after.raw.memory.bytes (second.addressOf other.id (20000 + 0)) = source.getD 0 0 :=
      written.inside 0 Nat.zero_lt_one
    rwa [otherId, Nat.add_zero, addressOf_first_bucket secondUnit secondBuckets] at stored
  have soundAfter : (twin after.raw first second handle ⟨other.id, after.cache⟩ bothRegistry).Sound := by
    rw [← wrote]
    exact sound.call 1 (.write 0 20000 source)
  rw [wrote, twin_read soundAfter handleId firstSize firstUnit firstBuckets inside,
    twin_read sound handleId firstSize firstUnit firstBuckets inside, landed] at same
  have bytes := Answer.bytes.inj same
  exact byte_succ_ne _ (List.cons.inj bytes).1

/-- Two databases of one manager object. -/
theorem registered_databases_of_one_manager_do_not_overlap :
    ∃ world : World Unit, world.Reached ∧ world.registry.memoryOf 1 = some ⟨0, 0, (), ⟨0, by decide⟩⟩ ∧
      world.registry.memoryOf 2 = some ⟨0, 1, (), ⟨1, by decide⟩⟩ ∧
      ∀ calls offset count, ((world.throughAll 1 calls).through 2 (.read offset count)).1 =
        (world.through 2 (.read offset count)).1 := by
  obtain ⟨raw, created, _⟩ := fresh_managers
  have one := World.Reached.createManager true () 1 (World.Reached.start fun _ : Unit => emptyRaw)
  rw [createManager_of created] at one
  have taken := World.Reached.call 0 (.get ⟨1, by decide⟩) (World.Reached.call 0 (.get ⟨0, by decide⟩) one)
  have first := World.Reached.register false (show World.memoryAt _ 0 0 = some ⟨0, 0, (), ⟨0, by decide⟩⟩ from rfl) taken
  have both := World.Reached.register false (show World.memoryAt _ 0 1 = some ⟨0, 1, (), ⟨1, by decide⟩⟩ from rfl) first
  refine ⟨_, both, rfl, rfl, ?_⟩
  exact (@registered_databases_do_not_overlap _ _ _ both 1 2 ⟨0, 0, (), ⟨0, by decide⟩⟩ ⟨0, 1, (), ⟨1, by decide⟩⟩
    rfl rfl (by decide)).2.1 (.inl rfl)

end IcSqliteVfs.Stable
