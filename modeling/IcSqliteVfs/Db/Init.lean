import IcSqliteVfs.Db.Error
import IcSqliteVfs.SqliteVfs.Capacity
import IcSqliteVfs.SqliteVfs.ChunkedRefresh
import IcSqliteVfs.Stable.Registry

namespace IcSqliteVfs.SqliteVfs

open IcSqliteVfs.Semantics IcSqliteVfs.Stable

/-! # Opening a memory -/

/-- The first load of a context caches a block of the current layout, or reports
an error and leaves the memory as it was. -/
theorem load_cold_ends {store : Store} (cold : store.superblockCache = none) :
    Action.Ends Superblock.load store (fun block next => block.layoutVersion = currentLayoutVersion ∧
      Superblock.load next = (.ok block, next)) fun next => next.memory = store.memory := by
  by_cases empty : store.memory.size = 0
  · rcases Pristine.load_cases ⟨empty, cold⟩ with ⟨after, loaded, serves, _⟩ | ⟨error, after, refused, _⟩
    · exact Action.ends_of_ok loaded ⟨serves.coherent.checked.layoutVersion, load_again loaded⟩
    · rcases Superblock.store_cases store validateZeroExtents_fresh with ⟨grown, stored, _⟩ | ⟨reason, left, ended, same⟩
      · rw [Superblock.load, Action.read_bind_apply] at refused
        simp only [cold, empty, if_true] at refused
        rw [Action.bind_of_ok _ stored] at refused
        cases refused
      · have failed : Superblock.load store = (.err reason, left) := by
          rw [Superblock.load, Action.read_bind_apply]
          simp only [cold, empty, if_true]
          exact Action.bind_of_err _ ended
        exact Action.ends_of_err failed same.memory
  · have room := Superblock.encodedLen_le_capacity (Nat.pos_of_ne_zero empty)
    have bytes := readPreallocated_of (show superblockOffset + encodedLen ≤ store.memory.capacity from by
      simpa [superblockOffset] using room)
    cases decoded : Superblock.checkDecoded (store.memory.read superblockOffset encodedLen) with
    | error error =>
        have refused : Superblock.load store = (.err error, store) := by
          rw [Superblock.load, Action.read_bind_apply]
          simp only [cold, empty, if_false]
          rw [Action.bind_of_ok _ bytes, decoded]
          rfl
        exact Action.ends_of_err refused rfl
    | ok block =>
        have loaded : Superblock.load store = (.ok block, { store with superblockCache := some block }) := by
          rw [Superblock.load, Action.read_bind_apply]
          simp only [cold, empty, if_false]
          rw [Action.bind_of_ok _ bytes, decoded]
          rfl
        exact Action.ends_of_ok loaded ⟨(Superblock.checked_of_decoded decoded).layoutVersion, load_again loaded⟩

/-- A memory that cannot be opened is left as it was. -/
theorem initializeHandle_ends {store : Store} (cold : store.superblockCache = none) :
    Action.Ends initializeHandle store (fun _ _ => True) fun next => next.memory = store.memory := by
  rw [initializeHandle]
  refine (load_cold_ends cold).bind ?_
  rintro block next ⟨current, again⟩
  rw [ensureCurrentLayout]
  refine Action.ends_after_ok again ?_
  rw [if_pos current]
  exact Action.ends_pure trivial

end IcSqliteVfs.SqliteVfs

namespace IcSqliteVfs.Db

open IcSqliteVfs.Semantics IcSqliteVfs.Stable IcSqliteVfs.SqliteVfs

/-! # Initialising databases

A memory is registered before it is looked at: the superblock is read through the
context that was entered for it.  What fails after that is undone.
-/

/-- Where the memories of the handles are.  Two handles may be the same memory, or
lie in one another's way; to leave a memory as it is changes nothing. -/
structure Backing (ν σ : Type) where
  view : ν → σ → Memory
  put : ν → Memory → σ → σ
  put_view : ∀ memory world, put memory (view memory world) world = world

/-- The thread-locals of all contexts, and the world that their memories lie in. -/
structure Databases (ι ν σ : Type) where
  registry : Registry ι ν
  superblocks : Stable.ContextId → Option Superblock
  readConnections : List Stable.ContextId
  writeConnections : List Stable.ContextId
  world : σ
  grants : Nat → Bool

abbrev DatabasesM (ι ν σ : Type) : Type → Type := Action (Databases ι ν σ) DbError

variable {ι ν σ α : Type}

namespace Databases

def setCurrent (databases : Databases ι ν σ) (current : Option Stable.ContextId) : Databases ι ν σ :=
  { databases with registry := { databases.registry with currentContext := current } }

def clearReadConnection (databases : Databases ι ν σ) (context : Stable.ContextId) : Databases ι ν σ :=
  { databases with readConnections := databases.readConnections.filter (· ≠ context) }

def clearWriteConnection (databases : Databases ι ν σ) (context : Stable.ContextId) : Databases ι ν σ :=
  { databases with writeConnections := databases.writeConnections.filter (· ≠ context) }

/-- The cached superblocks of all contexts go, not only the one of the context. -/
def clearFailedInitialization (databases : Databases ι ν σ) (context : Stable.ContextId) : Databases ι ν σ :=
  { databases with registry := databases.registry.clearFailedInitialization context, superblocks := fun _ => none }

end Databases

def onRegistry (convert : StableMemoryError → DbError) (call : RegistryM ι ν α) : DatabasesM ι ν σ α :=
  Action.zoom Databases.registry (fun registry databases => { databases with registry }) (Action.mapError convert call)

def withContext (context : Stable.ContextId) (call : DatabasesM ι ν σ α) : DatabasesM ι ν σ α := fun databases =>
  Action.finally_ call (fun left => left.setCurrent databases.registry.currentContext)
    (databases.setCurrent (some context))

section Calls

variable (backing : Backing ν σ)

/-- A call on the memory and the superblock of the active context. -/
def onActive (call : StoreM α) : DatabasesM ι ν σ α := fun databases =>
  match databases.registry.activeContextId with
  | none => (.err (.stable .notInitialized), databases)
  | some context =>
      match databases.registry.memoryOf context with
      | none => (.err (.stable .notInitialized), databases)
      | some memory =>
          let (outcome, store) := Action.mapError DbError.stable call
            ⟨backing.view memory databases.world, databases.grants, databases.superblocks context⟩
          (outcome, { databases with
            world := backing.put memory store.memory databases.world
            grants := store.grants
            superblocks := Function.update databases.superblocks context store.superblockCache })

def initialize_ (context : Stable.ContextId) : DatabasesM ι ν σ Unit :=
  withContext context (onActive backing initializeHandle)

/-- Register a memory and open it; a context that cannot be opened is given up. -/
def initWith (convert : StableMemoryError → DbError) (register : RegistryM ι ν Stable.ContextId) :
    DatabasesM ι ν σ Stable.ContextId := do
  let context ← onRegistry convert register
  Action.modify fun databases => (databases.clearReadConnection context).clearWriteConnection context
  Action.onError (initialize_ backing context) fun databases =>
    ((databases.clearReadConnection context).clearWriteConnection context).clearFailedInitialization context
  pure context

def initError : StableMemoryError → DbError
  | .alreadyInitialized => .stableMemoryAlreadyInitialized
  | .notInitialized => .stableMemoryNotInitialized
  | error => .stable error

variable [DecidableEq ι] (identity : ν → ι)

/-- `Db::init`. -/
def init (memory : ν) : DatabasesM ι ν σ Unit := do
  let _ ← initWith backing initError (Stable.init identity memory)
  pure ()

/-- `DbHandle::init`; a handle is its context. -/
def DbHandle.init (memory : ν) : DatabasesM ι ν σ Stable.ContextId :=
  initWith backing DbError.stable (initContext identity memory)

end Calls

/-! ## One initialisation -/

/-- The registry knows what it handed out, and no superblock is cached for a
context that is still to come. -/
structure Databases.Sound (identity : ν → ι) (databases : Databases ι ν σ) : Prop where
  registry : databases.registry.Sound identity
  cold : ∀ context, ¬ context < databases.registry.nextContextId → databases.superblocks context = none

variable {backing : Backing ν σ} {identity : ν → ι} {databases : Databases ι ν σ} {context : Stable.ContextId}
  {memory : ν}

/-- What opening a memory answers when nothing is cached for it. -/
def opening (backing : Backing ν σ) (databases : Databases ι ν σ) (memory : ν) : Outcome DbError Unit :=
  (Action.mapError DbError.stable initializeHandle ⟨backing.view memory databases.world, databases.grants, none⟩).1

theorem initialize_outcome (found : databases.registry.memoryOf context = some memory)
    (cold : databases.superblocks context = none) :
    (initialize_ backing context databases).1 = opening backing databases memory := by
  have known : (databases.setCurrent (some context)).registry.memoryOf context = some memory := found
  have uncached : (databases.setCurrent (some context)).superblocks context = none := cold
  have active : (databases.setCurrent (some context)).registry.activeContextId = some context := rfl
  simp only [initialize_, withContext, Action.finally_, onActive, active, known, uncached]
  rfl

/-- The memory of a context that has no superblock yet is opened, or is left as it was. -/
theorem initialize_ends (found : databases.registry.memoryOf context = some memory)
    (cold : databases.superblocks context = none) :
    Action.Ends (initialize_ backing context) databases
      (fun _ after => after.registry = databases.registry ∧
        ∀ other, other ≠ context → after.superblocks other = databases.superblocks other)
      fun after => after.registry = databases.registry ∧ after.world = databases.world := by
  let store : Store := ⟨backing.view memory databases.world, databases.grants, none⟩
  have opens := initializeHandle_ends (show store.superblockCache = none from rfl)
  have known : (databases.setCurrent (some context)).registry.memoryOf context = some memory := found
  have uncached : (databases.setCurrent (some context)).superblocks context = none := cold
  have active : (databases.setCurrent (some context)).registry.activeContextId = some context := rfl
  rw [Action.Ends] at opens ⊢
  simp only [initialize_, withContext, Action.finally_, onActive, active, known, uncached, Action.mapError]
  cases ended : initializeHandle store with
  | mk outcome left =>
      simp only [store] at ended
      rw [ended] at opens
      simp only [Databases.setCurrent, ended]
      cases outcome with
      | ok value =>
          refine ⟨rfl, ?_⟩
          intro other different
          exact Function.update_of_ne different _ _
      | err error =>
          refine ⟨rfl, ?_⟩
          change backing.put memory left.memory databases.world = databases.world
          rw [opens]
          exact backing.put_view memory databases.world
      | panic => exact opens

/-! ### The two calls -/

inductive InitCall (ν : Type) where
  | default (memory : ν)
  | handle (memory : ν)

namespace InitCall

def offered : InitCall ν → ν
  | .default memory => memory
  | .handle memory => memory

def asDefault : InitCall ν → Bool
  | .default _ => true
  | .handle _ => false

def convert : InitCall ν → StableMemoryError → DbError
  | .default _ => initError
  | .handle _ => DbError.stable

variable [DecidableEq ι]

abbrev register (identity : ν → ι) (call : InitCall ν) : RegistryM ι ν Stable.ContextId :=
  registerAs identity call.asDefault call.offered

/-- The call, whatever it returns when it ends well. -/
def run (backing : Backing ν σ) (identity : ν → ι) : InitCall ν → DatabasesM ι ν σ Unit
  | .default memory => init backing identity memory
  | .handle memory => do
      let _ ← DbHandle.init backing identity memory
      pure ()

theorem run_eq (call : InitCall ν) : call.run backing identity = (do
    let _ ← initWith backing call.convert (call.register identity)
    pure () : DatabasesM ι ν σ Unit) := by
  cases call with
  | default memory => rfl
  | handle memory => rfl

/-- The error of a memory that is not registered. -/
abbrev turnedAway (call : InitCall ν) (identity : ν → ι) (registry : Registry ι ν) : Option StableMemoryError :=
  Stable.turnedAway identity call.asDefault call.offered registry

end InitCall

/-- How an initialisation ends. -/
inductive InitEnded [DecidableEq ι] (backing : Backing ν σ) (identity : ν → ι) (before : Databases ι ν σ)
    (call : InitCall ν) : Outcome DbError Stable.ContextId × Databases ι ν σ → Prop where
  | refused (error : StableMemoryError) (refused : call.turnedAway identity before.registry = some error) :
      InitEnded backing identity before call (.err (call.convert error), before)
  | exhausted (passed : call.turnedAway identity before.registry = none)
      (full : ¬ before.registry.nextContextId.toNat + 1 < 2 ^ 64) :
      InitEnded backing identity before call (.panic, before)
  | failed (error : DbError) (after : Databases ι ν σ) (passed : call.turnedAway identity before.registry = none)
      (more : before.registry.nextContextId.toNat + 1 < 2 ^ 64)
      (opening : opening backing before call.offered = .err error)
      (registry : after.registry = before.registry.skipped) (world : after.world = before.world)
      (superblocks : ∀ context, after.superblocks context = none) :
      InitEnded backing identity before call (.err error, after)
  | opened (after : Databases ι ν σ) (passed : call.turnedAway identity before.registry = none)
      (more : before.registry.nextContextId.toNat + 1 < 2 ^ 64)
      (opening : opening backing before call.offered = .ok ()) (registry : after.registry.Sound identity)
      (next : after.registry.nextContextId = before.registry.nextContextId + 1)
      (superblocks : ∀ context, context ≠ before.registry.nextContextId →
        after.superblocks context = before.superblocks context) :
      InitEnded backing identity before call (.ok before.registry.nextContextId, after)

theorem initWith_of_err {convert : StableMemoryError → DbError} {register : RegistryM ι ν Stable.ContextId}
    {error : StableMemoryError} (refused : register databases.registry = (.err error, databases.registry)) :
    initWith backing convert register databases = (.err (convert error), databases) := by
  rw [initWith]
  refine Action.bind_of_err _ ?_
  simp only [onRegistry, Action.zoom, Action.mapError, refused]

theorem initWith_of_panic {convert : StableMemoryError → DbError} {register : RegistryM ι ν Stable.ContextId}
    (stuck : register databases.registry = (.panic, databases.registry)) :
    initWith backing convert register databases = (.panic, databases) := by
  rw [initWith]
  refine Action.bind_of_panic _ ?_
  simp only [onRegistry, Action.zoom, Action.mapError, stuck]

/-- A memory that was registered is opened, or its context is given up again. -/
theorem initWith_of_registered [DecidableEq ι] (sound : databases.Sound identity) {call : InitCall ν}
    {default : Option Stable.ContextId} (passed : call.turnedAway identity databases.registry = none)
    (registers : call.register identity databases.registry = (.ok databases.registry.nextContextId,
      { databases.registry.registered identity call.offered with defaultContext := default }))
    (defaults : default = databases.registry.defaultContext ∨
      databases.registry.defaultContext = none ∧ default = some databases.registry.nextContextId)
    (unknown : identity call.offered ∉ databases.registry.registeredMemory.map Prod.snd)
    (more : databases.registry.nextContextId.toNat + 1 < 2 ^ 64) :
    InitEnded backing identity databases call (initWith backing call.convert (call.register identity) databases) := by
  let next := databases.registry.nextContextId
  let entered : Databases ι ν σ := { databases with
    registry := { databases.registry.registered identity call.offered with defaultContext := default } }
  let opened : Databases ι ν σ := (entered.clearReadConnection next).clearWriteConnection next
  have step : onRegistry call.convert (call.register identity) databases = (.ok next, entered) := by
    simp only [onRegistry, Action.zoom, Action.mapError, registers]
    rfl
  have found : opened.registry.memoryOf next = some call.offered :=
    sound.registry.memoryOf_registered call.offered
  have cold : opened.superblocks next = none := sound.cold next (UInt64.lt_irrefl _)
  have answers : (initialize_ backing next opened).1 = opening backing databases call.offered :=
    initialize_outcome found cold
  have ends : Action.Ends (initialize_ backing next) opened _ _ := initialize_ends found cold
  rw [initWith, Action.bind_of_ok _ step, Action.modify_bind_apply]
  change InitEnded backing identity databases call (((Action.onError (initialize_ backing next) _) >>= _) opened)
  rw [Action.Ends] at ends
  cases done : initialize_ backing next opened with
  | mk outcome left =>
      rw [done] at ends answers
      cases outcome with
      | ok value =>
          have kept : Action.onError (initialize_ backing next) (fun databases =>
              ((databases.clearReadConnection next).clearWriteConnection next).clearFailedInitialization next) opened =
              (.ok value, left) := by
            rw [Action.onError, done]
          rw [Action.bind_of_ok _ kept]
          refine .opened left passed more answers.symm ?_ ?_ ends.2
          · rw [ends.1]
            exact sound.registry.registeredAs unknown more defaults
          · rw [ends.1]
            rfl
      | err error =>
          have cleared : Action.onError (initialize_ backing next) (fun databases =>
              ((databases.clearReadConnection next).clearWriteConnection next).clearFailedInitialization next) opened =
              (.err error,
                ((left.clearReadConnection next).clearWriteConnection next).clearFailedInitialization next) := by
            rw [Action.onError, done]
          rw [Action.bind_of_err _ cleared]
          refine .failed error _ passed more answers.symm ?_ ends.2 fun _ => rfl
          change left.registry.clearFailedInitialization next = _
          rw [ends.1]
          exact sound.registry.clear_registered call.offered defaults
      | panic => exact ends.elim

theorem InitCall.ended [DecidableEq ι] (sound : databases.Sound identity) (call : InitCall ν) :
    InitEnded backing identity databases call
      (initWith backing call.convert (call.register identity) databases) := by
  rcases registerAs_cases identity call.asDefault call.offered databases.registry with
    ⟨error, refused, ended⟩ | ⟨passed, full, ended⟩ | ⟨passed, more, unknown, default, defaults, ended⟩
  · rw [initWith_of_err ended]
    exact .refused error refused
  · rw [initWith_of_panic ended]
    exact .exhausted passed full
  · exact initWith_of_registered sound passed ended defaults unknown more

/-! ## Any order of initialisations -/

/-- What other calls may do between two initialisations: the contexts they are in
and the superblocks they cache are of memories that are registered. -/
structure Meanwhile (before after : Databases ι ν σ) : Prop where
  registry : ∃ current, after.registry = { before.registry with currentContext := current } ∧
    ∀ context ∈ current, context ∈ before.registry.dbMemory.map Prod.fst
  superblocks : ∀ context, context ∉ before.registry.dbMemory.map Prod.fst →
    after.superblocks context = before.superblocks context

/-- The context that the call hands out, also when it gives it up again. -/
def InitCall.issued [DecidableEq ι] (call : InitCall ν) (identity : ν → ι) (registry : Registry ι ν) :
    List Stable.ContextId :=
  match (call.register identity registry).1 with
  | .ok context => [context]
  | _ => []

/-- The states of a process, with the contexts that were handed out in it. -/
inductive InitRun [DecidableEq ι] (backing : Backing ν σ) (identity : ν → ι) :
    List Stable.ContextId → Databases ι ν σ → Prop where
  | start (world : σ) (grants : Nat → Bool) :
      InitRun backing identity [] ⟨Registry.empty, fun _ => none, [], [], world, grants⟩
  | call {issued : List Stable.ContextId} {databases : Databases ι ν σ} (call : InitCall ν)
      (run : InitRun backing identity issued databases) :
      InitRun backing identity (issued ++ call.issued identity databases.registry)
        (call.run backing identity databases).2
  | meanwhile {issued : List Stable.ContextId} {before after : Databases ι ν σ}
      (run : InitRun backing identity issued before) (meanwhile : Meanwhile before after) :
      InitRun backing identity issued after

theorem Databases.Sound.meanwhile {after : Databases ι ν σ} (sound : databases.Sound identity)
    (meanwhile : Meanwhile databases after) : after.Sound identity := by
  obtain ⟨current, registry, known⟩ := meanwhile.registry
  constructor
  · rw [registry]
    refine ⟨sound.registry.identities, sound.registry.taken, sound.registry.contexts, sound.registry.distinct,
      sound.registry.default, ?_⟩
    intro context member
    obtain ⟨entry, listed, rfl⟩ := List.mem_map.mp (known context member)
    exact sound.registry.taken entry listed
  · intro context ahead
    rw [registry] at ahead
    rw [meanwhile.superblocks context]
    · exact sound.cold context ahead
    · intro listed
      obtain ⟨entry, member, rfl⟩ := List.mem_map.mp listed
      exact ahead (sound.registry.taken entry member)

section Steps

variable [DecidableEq ι]

theorem InitCall.run_state (call : InitCall ν) :
    (call.run backing identity databases).2 =
      (initWith backing call.convert (call.register identity) databases).2 := by
  rw [call.run_eq, Action.bind_apply]
  cases initWith backing call.convert (call.register identity) databases with
  | mk outcome left =>
      cases outcome with
      | ok value => rfl
      | err error => rfl
      | panic => rfl

theorem InitCall.issued_of_passed {call : InitCall ν} {registry : Registry ι ν}
    (passed : call.turnedAway identity registry = none) (more : registry.nextContextId.toNat + 1 < 2 ^ 64) :
    call.issued identity registry = [registry.nextContextId] := by
  rw [issued, register]
  rcases registerAs_cases identity call.asDefault call.offered registry with
    ⟨error, refused, _⟩ | ⟨_, full, _⟩ | ⟨_, _, _, default, _, ended⟩
  · cases passed.symm.trans refused
  · exact absurd more full
  · rw [ended]

/-- A call that ends without a context has handed none out. -/
theorem InitCall.issued_of_stopped {call : InitCall ν} {registry : Registry ι ν}
    (stopped : call.turnedAway identity registry ≠ none ∨ ¬ registry.nextContextId.toNat + 1 < 2 ^ 64) :
    call.issued identity registry = [] := by
  rw [issued, register]
  rcases registerAs_cases identity call.asDefault call.offered registry with ⟨error, _, ended⟩ | ⟨_, _, ended⟩ | ⟨passed, more, _⟩
  · rw [ended]
  · rw [ended]
  · rcases stopped with refused | full
    · exact absurd passed refused
    · exact absurd more full

end Steps

/-- The contexts that were handed out are different ones, and behind the next. -/
structure Handed (identity : ν → ι) (issued : List Stable.ContextId) (databases : Databases ι ν σ) : Prop where
  sound : databases.Sound identity
  distinct : issued.Nodup
  behind : ∀ context ∈ issued, context < databases.registry.nextContextId

theorem Handed.next {issued : List Stable.ContextId} {after : Databases ι ν σ} (handed : Handed identity issued databases)
    (more : databases.registry.nextContextId.toNat + 1 < 2 ^ 64) (sound : after.Sound identity)
    (next : after.registry.nextContextId = databases.registry.nextContextId + 1) :
    Handed identity (issued ++ [databases.registry.nextContextId]) after where
  sound := sound
  distinct := by
    refine List.nodup_append.mpr ⟨handed.distinct, List.nodup_singleton _, ?_⟩
    intro old member fresh listed
    rw [List.mem_singleton.mp listed]
    exact ne_next (handed.behind old member)
  behind := by
    intro context member
    rw [next, lt_nextContextId more]
    rcases List.mem_append.mp member with old | fresh
    · exact UInt64.le_of_lt (handed.behind context old)
    · rw [List.mem_singleton.mp fresh]

/-- One call, whatever its ending, hands out no context twice. -/
theorem Handed.call [DecidableEq ι] {issued : List Stable.ContextId} (handed : Handed identity issued databases)
    (call : InitCall ν) :
    Handed identity (issued ++ call.issued identity databases.registry) (call.run backing identity databases).2 := by
  rw [call.run_state]
  have ended : InitEnded backing identity databases call _ := call.ended handed.sound
  generalize initWith backing call.convert (call.register identity) databases = result at ended
  cases ended with
  | refused error refused =>
      have turned : call.turnedAway identity databases.registry ≠ none := by
        rw [refused]
        exact nofun
      rw [InitCall.issued_of_stopped (.inl turned), List.append_nil]
      exact handed
  | exhausted passed full =>
      rw [InitCall.issued_of_stopped (.inr full), List.append_nil]
      exact handed
  | failed error after passed more opening registry world superblocks =>
      rw [InitCall.issued_of_passed passed more]
      refine handed.next more ⟨?_, fun context _ => superblocks context⟩ (by rw [registry]; rfl)
      rw [registry]
      exact handed.sound.registry.skipped more
  | opened after passed more opening registry next superblocks =>
      rw [InitCall.issued_of_passed passed more]
      refine handed.next more ⟨registry, ?_⟩ next
      intro context ahead
      rw [next, lt_nextContextId more, UInt64.not_le] at ahead
      rw [superblocks context (ne_next ahead).symm]
      exact handed.sound.cold context (UInt64.not_lt.mpr (UInt64.le_of_lt ahead))

theorem InitRun.handed [DecidableEq ι] {issued : List Stable.ContextId} (run : InitRun backing identity issued databases) :
    Handed identity issued databases := by
  induction run with
  | start world grants => exact ⟨⟨sound_empty, fun _ _ => rfl⟩, List.nodup_nil, nofun⟩
  | call call _ ih => exact ih.call call
  | meanwhile _ meanwhile ih =>
      refine ⟨ih.sound.meanwhile meanwhile, ih.distinct, ?_⟩
      obtain ⟨current, registry, _⟩ := meanwhile.registry
      rw [registry]
      exact ih.behind

/-! ## Failed initialisations -/

/-- Only the number of the next context may tell the two apart. -/
structure Untraced (before after : Databases ι ν σ) : Prop where
  dbMemory : after.registry.dbMemory = before.registry.dbMemory
  registeredMemory : after.registry.registeredMemory = before.registry.registeredMemory
  defaultContext : after.registry.defaultContext = before.registry.defaultContext
  currentContext : after.registry.currentContext = before.registry.currentContext
  nextContextId : after.registry = before.registry ∨ after.registry = before.registry.skipped
  world : after.world = before.world

theorem untraced_of_skipped {after : Databases ι ν σ} (registry : after.registry = databases.registry.skipped)
    (world : after.world = databases.world) : Untraced databases after := by
  refine ⟨?_, ?_, ?_, ?_, .inr registry, world⟩
  · rw [registry]
    rfl
  · rw [registry]
    rfl
  · rw [registry]
    rfl
  · rw [registry]
    rfl

/-- The memories as someone left them, and what will be granted of them. -/
def Databases.repaired (databases : Databases ι ν σ) (world : σ) (grants : Nat → Bool) : Databases ι ν σ :=
  { databases with world, grants }

theorem Databases.Sound.repaired (sound : databases.Sound identity) (world : σ) (grants : Nat → Bool) :
    (databases.repaired world grants).Sound identity := ⟨sound.registry, sound.cold⟩

theorem Untraced.more {after : Databases ι ν σ} (untraced : Untraced databases after)
    (left : databases.registry.nextContextId.toNat + 2 < 2 ^ 64) :
    after.registry.nextContextId.toNat + 1 < 2 ^ 64 := by
  rcases untraced.nextContextId with same | skipped
  · rw [same]
    omega
  · rw [skipped]
    change (databases.registry.nextContextId + 1).toNat + 1 < 2 ^ 64
    rw [UInt64.toNat_add, UInt64.toNat_one]
    omega

section Failures

variable [DecidableEq ι] {call : InitCall ν}

theorem InitCall.run_untraced {error : DbError} {after : Databases ι ν σ} (sound : databases.Sound identity)
    (failed : call.run backing identity databases = (.err error, after)) : Untraced databases after := by
  have ended : InitEnded backing identity databases call _ := call.ended sound
  rw [call.run_eq, Action.bind_apply] at failed
  generalize initWith backing call.convert (call.register identity) databases = result at ended failed
  cases ended with
  | refused reason refused =>
      obtain rfl := (Prod.mk.inj failed).2
      exact ⟨rfl, rfl, rfl, rfl, .inl rfl, rfl⟩
  | exhausted passed full => cases failed
  | failed reason left passed more opening registry world superblocks =>
      obtain rfl := (Prod.mk.inj failed).2
      exact untraced_of_skipped registry world
  | opened left passed more opening registry next superblocks => cases failed

/-- The answer of a call: the memory is turned away, or the one of opening it. -/
def InitCall.verdict (backing : Backing ν σ) (identity : ν → ι) (call : InitCall ν) (databases : Databases ι ν σ) :
    Outcome DbError Unit :=
  match call.turnedAway identity databases.registry with
  | some error => .err (call.convert error)
  | none =>
      if databases.registry.nextContextId.toNat + 1 < 2 ^ 64 then opening backing databases call.offered else .panic

theorem InitCall.run_outcome (sound : databases.Sound identity) :
    (call.run backing identity databases).1 = call.verdict backing identity databases := by
  have ended : InitEnded backing identity databases call _ := call.ended sound
  rw [call.run_eq, Action.bind_apply, verdict]
  generalize initWith backing call.convert (call.register identity) databases = result at ended
  cases ended with
  | refused error refused => rw [refused]
  | exhausted passed full =>
      rw [passed]
      exact (if_neg full).symm
  | failed error after passed more opening registry world superblocks =>
      rw [passed]
      exact ((if_pos more).trans opening).symm
  | opened after passed more opening registry next superblocks =>
      rw [passed]
      exact ((if_pos more).trans opening).symm

theorem Untraced.turnedAway {after : Databases ι ν σ} (untraced : Untraced databases after) :
    call.turnedAway identity after.registry = call.turnedAway identity databases.registry := by
  simp only [Stable.turnedAway, untraced.registeredMemory, untraced.defaultContext]

/-- A memory that is offered again gets the answer that it would have got without
the failed call. -/
theorem Untraced.offered_again {after : Databases ι ν σ} (untraced : Untraced databases after)
    (sound : databases.Sound identity) (soundAfter : after.Sound identity)
    (left : databases.registry.nextContextId.toNat + 2 < 2 ^ 64) (world : σ) (grants : Nat → Bool) :
    (call.run backing identity (after.repaired world grants)).1 =
      (call.run backing identity (databases.repaired world grants)).1 := by
  have first : databases.registry.nextContextId.toNat + 1 < 2 ^ 64 := by omega
  rw [InitCall.run_outcome (soundAfter.repaired world grants), InitCall.run_outcome (sound.repaired world grants)]
  simp only [InitCall.verdict, Databases.repaired, untraced.turnedAway, first, untraced.more left, if_true]
  rfl

end Failures

/-- In every order of good and bad initialisations no context is handed out twice
and no memory is registered twice; a call that fails leaves what was registered,
the contexts and the memories as they were, and the memory can be offered again. -/
theorem failed_initialization_leaves_no_trace [DecidableEq ι] {issued : List Stable.ContextId}
    (run : InitRun backing identity issued databases) :
    issued.Nodup ∧ (databases.registry.registeredMemory.map Prod.snd).Nodup ∧
    ∀ (call : InitCall ν) (error : DbError) (after : Databases ι ν σ),
      call.run backing identity databases = (.err error, after) →
      Untraced databases after ∧
      ∀ world grants, databases.registry.nextContextId.toNat + 2 < 2 ^ 64 →
        (call.run backing identity (after.repaired world grants)).1 =
          (call.run backing identity (databases.repaired world grants)).1 := by
  have handed := run.handed
  refine ⟨handed.distinct, handed.sound.registry.distinct, ?_⟩
  intro call error after failed
  have untraced := InitCall.run_untraced handed.sound failed
  have soundAfter : after.Sound identity := by
    have called : Handed identity _ (call.run backing identity databases).2 := handed.call call
    rw [failed] at called
    exact called.sound
  exact ⟨untraced, fun world grants left => untraced.offered_again handed.sound soundAfter left world grants⟩

theorem eq_pair_of_fst {α β : Type} {pair : α × β} {first : α} (same : pair.1 = first) : pair = (first, pair.2) := by
  rw [← same]

/-- A page of zeros is nobody's image. -/
def foreignMemory : Memory := (Memory.empty.grow true 1).2

/-- Each memory by itself. -/
def separate : Backing Nat (Nat → Memory) where
  view memory world := world memory
  put memory bytes world := Function.update world memory bytes
  put_view memory world := Function.update_eq_self memory world

def foreignWorld : Databases Nat Nat (Nat → Memory) :=
  ⟨Registry.empty, fun _ => none, [], [], fun _ => foreignMemory, fun _ => true⟩

theorem foreign_page_can_be_offered_again_after_repair :
    ((InitCall.default 0).run separate id foreignWorld).1 = .err (.stable .foreignStableMemoryImage) ∧
    Untraced foreignWorld ((InitCall.default 0).run separate id foreignWorld).2 ∧
    ∀ world, ((InitCall.default 0).run separate id
        (((InitCall.default 0).run separate id foreignWorld).2.repaired world fun _ => true)).1 =
      ((InitCall.default 0).run separate id (foreignWorld.repaired world fun _ => true)).1 := by
  have failed : ((InitCall.default 0).run separate id foreignWorld).1 =
      .err (.stable .foreignStableMemoryImage) := by decide +kernel
  have run : InitRun separate id [] foreignWorld := .start _ _
  have left := (failed_initialization_leaves_no_trace run).2.2 (InitCall.default 0) _ _ (eq_pair_of_fst failed)
  exact ⟨failed, left.1, fun world => left.2 world _ (by decide)⟩

end IcSqliteVfs.Db
