import IcSqliteVfs.Stable.RawInvariant
import IcSqliteVfs.Stable.Registry
import IcSqliteVfs.Stable.StrictLoad

namespace IcSqliteVfs.Stable

open IcSqliteVfs.Data IcSqliteVfs.Semantics

/-! # Managers, their backing memories and the registry

Any number of manager objects may be created over one backing memory.  Each keeps
its tables for itself; what they share is the raw memory, and the registry that
their virtual memories are offered to.
-/

structure ManagerObject (β : Type) where
  backing : β
  inner : MemoryManagerInner
  handles : List VirtualMemory

/-- A virtual memory that is handed to the registry, named by the place of its handle. -/
structure DbMemory (β : Type) where
  manager : Nat
  handle : Nat
  backing : β
  id : MemoryId
deriving DecidableEq, Repr

/-- `VirtualMemory::identity`. -/
def DbMemory.identity {β : Type} (memory : DbMemory β) : β × MemoryId := (memory.backing, memory.id)

structure World (β : Type) where
  backings : β → Raw
  managers : List (ManagerObject β)
  registry : Registry (β × MemoryId) (DbMemory β)

/-- The calls through a virtual memory. -/
inductive MemoryCall where
  | size
  | grow (pages : Nat)
  | read (offset count : Nat)
  | write (offset : Nat) (source : List UInt8)
deriving DecidableEq, Repr

def MemoryCall.of (handle : Nat) : MemoryCall → Call
  | .size => .size handle
  | .grow pages => .grow handle pages
  | .read offset count => .read handle offset count
  | .write offset source => .write handle offset source

variable {β : Type} [DecidableEq β]

namespace World

/-- A manager object with the raw memory as it is now. -/
def machine (world : World β) (object : ManagerObject β) : Machine :=
  ⟨⟨object.inner, world.backings object.backing⟩, object.handles⟩

def put (world : World β) (index : Nat) (object : ManagerObject β) (machine : Machine) : World β :=
  { world with
    backings := Function.update world.backings object.backing machine.manager.raw
    managers := world.managers.set index ⟨object.backing, machine.manager.inner, machine.handles⟩ }

/-- A call on one of the manager objects or through one of its handles. -/
def call (world : World β) (index : Nat) (call : Call) : Answer × World β :=
  match world.managers[index]? with
  | none => (.noHandle, world)
  | some object =>
      let (answer, machine) := (world.machine object).step call
      (answer, world.put index object machine)

/-- A manager that could not be created may have written to the memory all the same. -/
def createManager (world : World β) (strict : Bool) (backing : β) (bucketSize : UInt16) : World β :=
  let create := if strict then MemoryManager.initStrictWithBucketSize bucketSize
    else MemoryManager.initWithBucketSize bucketSize
  match create (world.backings backing) with
  | (.ok inner, raw) => { world with
      backings := Function.update world.backings backing raw
      managers := world.managers ++ [⟨backing, inner, []⟩] }
  | (_, raw) => { world with backings := Function.update world.backings backing raw }

def memoryAt (world : World β) (manager handle : Nat) : Option (DbMemory β) := do
  let object ← world.managers[manager]?
  let taken ← object.handles[handle]?
  pure ⟨manager, handle, object.backing, taken.id⟩

/-- `memory::init` for the default database, `memory::init_context` for any other. -/
def register (world : World β) (asDefault : Bool) (memory : DbMemory β) :
    Outcome StableMemoryError ContextId × World β :=
  let (outcome, registry) := registerAs DbMemory.identity asDefault memory world.registry
  (outcome, { world with registry })

def giveUp (world : World β) (context : ContextId) : World β :=
  { world with registry := world.registry.clearFailedInitialization context }

/-- A call through the memory of a database. -/
def through (world : World β) (context : ContextId) (call : MemoryCall) : Answer × World β :=
  match world.registry.memoryOf context with
  | none => (.noHandle, world)
  | some memory => world.call memory.manager (call.of memory.handle)

def throughAll (world : World β) (context : ContextId) (calls : List MemoryCall) : World β :=
  calls.foldl (fun world call => (world.through context call).2) world

/-- The worlds that come about.  `Db::init` and `DbHandle::init` register a memory,
open it by calls through it, and give its context up when that fails. -/
inductive Reached : World β → Prop where
  | start (backings : β → Raw) : Reached ⟨backings, [], Registry.empty⟩
  | createManager {world : World β} (strict : Bool) (backing : β) (bucketSize : UInt16) (reached : Reached world) :
      Reached (world.createManager strict backing bucketSize)
  | call {world : World β} (index : Nat) (call : Call) (reached : Reached world) : Reached (world.call index call).2
  | register {world : World β} (asDefault : Bool) {manager handle : Nat} {memory : DbMemory β}
      (offered : world.memoryAt manager handle = some memory) (reached : Reached world) :
      Reached (world.register asDefault memory).2
  | giveUp {world : World β} (context : ContextId) (reached : Reached world) : Reached (world.giveUp context)

end World

/-! ## What a call on one manager leaves to the others -/

/-- Raw memory is never given back, whatever is called on it. -/
theorem rawKept_pages (pages : Nat) : RawKept fun raw => pages ≤ raw.memory.pages where
  grow := by
    intro raw more enough
    refine enough.trans ?_
    change _ ≤ (raw.memory.grow (raw.grants 0) more).2.pages
    rw [Memory.grow]
    split
    · exact Nat.le_add_right _ _
    · exact Nat.le_refl _
  write := fun _ _ _ enough => enough
  reserve := fun _ enough => enough

section Machine

variable {owners : List MemoryId} {machine : Machine} {index : Nat} {handle : VirtualMemory}

theorem getElem?_set_id {handles : List VirtualMemory} {place : Nat} (found : handles[index]? = some handle)
    {taken : VirtualMemory} (old : handles[place]? = some taken) (cache : BucketCache) :
    ∃ after, (handles.set place { taken with cache })[index]? = some after ∧ after.id = handle.id := by
  rw [List.getElem?_set]
  split
  · rename_i same
    subst same
    rw [old] at found
    cases found
    have inside := (List.getElem?_eq_some_iff.mp old).1
    rw [if_pos inside]
    exact ⟨_, rfl, rfl⟩
  · exact ⟨handle, found, rfl⟩

/-- A handle stays in its place and keeps its id. -/
theorem Machine.step_handle (machine : Machine) (call : Call) (found : machine.handles[index]? = some handle) :
    ∃ after, (machine.step call).2.handles[index]? = some after ∧ after.id = handle.id := by
  have kept : ∀ more, (machine.handles ++ [more])[index]? = some handle := by
    intro more
    rw [List.getElem?_append_left (List.getElem?_eq_some_iff.mp found).1, found]
  cases call with
  | get id => exact ⟨handle, kept _, rfl⟩
  | clone place =>
      rw [Machine.step, Machine.perform]
      cases machine.handles[place]? with
      | none => exact ⟨handle, found, rfl⟩
      | some taken => exact ⟨handle, kept taken, rfl⟩
  | size place =>
      rw [Machine.step, Machine.perform]
      cases machine.handles[place]? with
      | none => exact ⟨handle, found, rfl⟩
      | some taken => exact ⟨handle, found, rfl⟩
  | grow place pages =>
      rw [Machine.step, Machine.perform]
      cases machine.handles[place]? with
      | none => exact ⟨handle, found, rfl⟩
      | some taken => exact ⟨handle, found, rfl⟩
  | read place offset count =>
      rw [Machine.step, Machine.perform]
      cases old : machine.handles[place]? with
      | none => exact ⟨handle, found, rfl⟩
      | some taken => exact getElem?_set_id found old _
  | write place offset source =>
      rw [Machine.step, Machine.perform]
      cases old : machine.handles[place]? with
      | none => exact ⟨handle, found, rfl⟩
      | some taken => exact getElem?_set_id found old _

/-- Pages that others add to the raw memory are in nobody's way. -/
theorem Consistent.enlarged (consistent : Consistent owners machine) {raw : Raw}
    (pages : machine.manager.raw.memory.pages ≤ raw.memory.pages) :
    Consistent owners ⟨⟨machine.manager.inner, raw⟩, machine.handles⟩ := by
  have laid := consistent.laid
  exact ⟨⟨laid.allocated, laid.limit, laid.unit, laid.unitLimit, laid.buckets, laid.sizes, laid.pages.trans pages⟩,
    consistent.cached⟩

end Machine

/-! ## Every reachable world -/

/-- A registered memory is where it was taken. -/
def World.Places (world : World β) (memory : DbMemory β) : Prop :=
  world.memoryAt memory.manager memory.handle = some memory

/-- The tables of every manager fit the raw memory, whatever the others do to it. -/
structure World.Sound (world : World β) : Prop where
  registry : world.registry.Sound DbMemory.identity
  consistent : ∀ object ∈ world.managers, ∃ owners, Consistent owners (world.machine object)
  places : ∀ entry ∈ world.registry.dbMemory, world.Places entry.2

namespace World

variable {world : World β} {index : Nat} {object : ManagerObject β}

omit [DecidableEq β] in
theorem memoryAt_eq {manager handle : Nat} {memory : DbMemory β} :
    world.memoryAt manager handle = some memory ↔
      ∃ object taken, world.managers[manager]? = some object ∧ object.handles[handle]? = some taken ∧
        memory = ⟨manager, handle, object.backing, taken.id⟩ := by
  rw [memoryAt]
  cases found : world.managers[manager]? with
  | none => simp
  | some object =>
      cases taken : object.handles[handle]? with
      | none => simp [taken]
      | some handle => simp [taken, eq_comm]

omit [DecidableEq β] in
theorem places_iff {memory : DbMemory β} :
    world.Places memory ↔ ∃ object taken, world.managers[memory.manager]? = some object ∧
      object.handles[memory.handle]? = some taken ∧ object.backing = memory.backing ∧ taken.id = memory.id := by
  rw [Places, memoryAt_eq]
  constructor
  · rintro ⟨object, taken, found, at_, same⟩
    refine ⟨object, taken, found, at_, ?_, ?_⟩
    · rw [same]
    · rw [same]
  · rintro ⟨object, taken, found, at_, backing, id⟩
    refine ⟨object, taken, found, at_, ?_⟩
    rw [backing, id]

omit [DecidableEq β] in
/-- A memory that was offered is where it was taken. -/
theorem places_of_memoryAt {manager handle : Nat} {memory : DbMemory β}
    (offered : world.memoryAt manager handle = some memory) : world.Places memory := by
  obtain ⟨object, taken, found, at_, rfl⟩ := memoryAt_eq.mp offered
  exact places_iff.mpr ⟨object, taken, found, at_, rfl, rfl⟩

/-- The raw memory of one backing may have grown, in bytes of anyone. -/
theorem Sound.rewritten (sound : world.Sound) {backing : β} {raw : Raw}
    (pages : (world.backings backing).memory.pages ≤ raw.memory.pages) {object : ManagerObject β}
    (member : object ∈ world.managers) :
    ∃ owners, Consistent owners
      ⟨⟨object.inner, Function.update world.backings backing raw object.backing⟩, object.handles⟩ := by
  obtain ⟨owners, consistent⟩ := sound.consistent object member
  refine ⟨owners, consistent.enlarged ?_⟩
  rw [Function.update_apply]
  split
  · rename_i same
    change (world.backings object.backing).memory.pages ≤ _
    rw [same]
    exact pages
  · exact Nat.le_refl _

theorem call_of (found : world.managers[index]? = some object) (call : Call) :
    world.call index call =
      (((world.machine object).step call).1, world.put index object ((world.machine object).step call).2) := by
  rw [World.call, found]

theorem machine_put (machine : Machine) :
    (world.put index object machine).machine ⟨object.backing, machine.manager.inner, machine.handles⟩ = machine := by
  have same : Function.update world.backings object.backing machine.manager.raw object.backing = machine.manager.raw :=
    Function.update_self _ _ _
  rw [World.machine, put]
  dsimp only
  rw [same]

/-- A manager object may have gone on: its own handles stay, and nobody loses raw memory. -/
theorem Sound.put {machine : Machine} {owners : List MemoryId} (sound : world.Sound)
    (found : world.managers[index]? = some object) (consistent : Consistent owners machine)
    (pages : (world.backings object.backing).memory.pages ≤ machine.manager.raw.memory.pages)
    (stays : ∀ (place : Nat) (handle : VirtualMemory), object.handles[place]? = some handle →
      ∃ after, machine.handles[place]? = some after ∧ after.id = handle.id) :
    (world.put index object machine).Sound := by
  have inside := (List.getElem?_eq_some_iff.mp found).1
  refine ⟨sound.registry, ?_, ?_⟩
  · intro other listed
    rcases List.mem_or_eq_of_mem_set listed with old | new
    · exact sound.rewritten pages old
    · subst new
      refine ⟨owners, ?_⟩
      rw [machine_put]
      exact consistent
  · intro entry registered
    obtain ⟨holder, taken, held, at_, backing, id⟩ := places_iff.mp (sound.places entry registered)
    rw [places_iff]
    change ∃ holder taken, (world.managers.set index _)[entry.2.manager]? = some holder ∧ _
    rw [List.getElem?_set]
    by_cases same : index = entry.2.manager
    · rw [if_pos same, if_pos (same ▸ inside)]
      rw [← same, found] at held
      cases held
      obtain ⟨after, kept, sameId⟩ := stays entry.2.handle taken at_
      exact ⟨_, after, rfl, kept, backing, sameId.trans id⟩
    · rw [if_neg same]
      exact ⟨holder, taken, held, at_, backing, id⟩

theorem Sound.call (sound : world.Sound) (index : Nat) (call : Call) : (world.call index call).2.Sound := by
  cases found : world.managers[index]? with
  | none =>
      rw [World.call, found]
      exact sound
  | some object =>
      obtain ⟨owners, consistent⟩ := sound.consistent object (List.mem_of_getElem? found)
      obtain ⟨ownersAfter, stepped⟩ := consistent.step call
      rw [call_of found]
      have pages := (rawKept_pages (world.backings object.backing).memory.pages).step
        (Nat.le_refl (world.machine object).manager.raw.memory.pages) call
      exact sound.put found stepped pages fun place handle at_ => (world.machine object).step_handle call at_

theorem Sound.createManager (sound : world.Sound) (strict : Bool) (backing : β) (bucketSize : UInt16) :
    (world.createManager strict backing bucketSize).Sound := by
  let create := if strict then MemoryManager.initStrictWithBucketSize bucketSize
    else MemoryManager.initWithBucketSize bucketSize
  have larger : (world.backings backing).memory.pages ≤ (create (world.backings backing)).2.memory.pages := by
    have kept := rawKept_pages (world.backings backing).memory.pages
    cases strict with
    | true => exact (kept.initStrictWithBucketSize bucketSize _ (Nat.le_refl _)).1
    | false => exact (kept.initWithBucketSize bucketSize _ (Nat.le_refl _)).1
  have laid : ∀ inner raw, create (world.backings backing) = (.ok inner, raw) → ∃ owners, Laid owners inner raw.memory := by
    intro inner raw ended
    cases strict with
    | true =>
        obtain ⟨owners, laid, _⟩ := initStrict_returned ended
        exact ⟨owners, laid⟩
    | false =>
        obtain ⟨owners, laid, _⟩ := init_returned ended
        exact ⟨owners, laid⟩
  have rewritten : Sound { world with backings := Function.update world.backings backing (create (world.backings backing)).2 } :=
    ⟨sound.registry, fun object member => sound.rewritten larger member, sound.places⟩
  change (match create (world.backings backing) with | (.ok inner, raw) => _ | (_, raw) => _ : World β).Sound
  cases ended : create (world.backings backing) with
  | mk outcome raw =>
      rw [ended] at rewritten
      cases outcome with
      | ok inner =>
          obtain ⟨owners, new⟩ := laid inner raw ended
          refine ⟨sound.registry, ?_, ?_⟩
          · intro object listed
            rcases List.mem_append.mp listed with old | fresh
            · exact rewritten.consistent object old
            · rw [List.mem_singleton.mp fresh]
              refine ⟨owners, ?_, by simp [World.machine]⟩
              simpa [World.machine] using new
          · intro entry registered
            obtain ⟨holder, taken, held, rest⟩ := places_iff.mp (sound.places entry registered)
            refine places_iff.mpr ⟨holder, taken, ?_, rest⟩
            change (world.managers ++ [_])[entry.2.manager]? = some holder
            rw [List.getElem?_append_left (List.getElem?_eq_some_iff.mp held).1, held]
      | err error => exact rewritten
      | panic => exact rewritten

theorem Sound.register (sound : world.Sound) (asDefault : Bool) {memory : DbMemory β} (placed : world.Places memory) :
    (world.register asDefault memory).2.Sound := by
  rw [World.register]
  rcases registerAs_cases DbMemory.identity asDefault memory world.registry with
    ⟨error, _, ended⟩ | ⟨_, _, ended⟩ | ⟨_, more, unknown, default, defaults, ended⟩
  · rw [ended]
    exact sound
  · rw [ended]
    exact sound
  · rw [ended]
    refine ⟨sound.registry.registeredAs unknown more defaults, sound.consistent, ?_⟩
    intro entry listed
    rcases List.mem_append.mp listed with old | new
    · exact sound.places entry old
    · rw [List.mem_singleton.mp new]
      exact placed

omit [DecidableEq β] in
theorem Sound.giveUp (sound : world.Sound) (context : ContextId) : (world.giveUp context).Sound where
  registry := sound.registry.cleared context
  consistent := sound.consistent
  places := fun entry listed => sound.places entry (List.mem_of_mem_filter listed)

theorem Reached.sound (reached : Reached world) : world.Sound := by
  induction reached with
  | start backings => exact ⟨sound_empty, nofun, nofun⟩
  | createManager strict backing bucketSize _ ih => exact ih.createManager strict backing bucketSize
  | call index call _ ih => exact ih.call index call
  | register asDefault offered _ ih => exact ih.register asDefault (places_of_memoryAt offered)
  | giveUp context _ ih => exact ih.giveUp context

end World

end IcSqliteVfs.Stable
