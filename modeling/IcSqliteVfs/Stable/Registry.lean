import IcSqliteVfs.Semantics.Action
import IcSqliteVfs.Stable.Superblock

namespace IcSqliteVfs.Stable

open IcSqliteVfs.Semantics

/-! # The registry of memories

Each database handle has a context, and each context one memory.  A memory is
known by an identity; no identity is registered twice.
-/

abbrev ContextId : Type := UInt64

/-- The thread-locals of the registry. -/
@[ext]
structure Registry (ι ν : Type) where
  nextContextId : UInt64
  defaultContext : Option ContextId
  currentContext : Option ContextId
  dbMemory : List (ContextId × ν)
  registeredMemory : List (ContextId × ι)

variable {ι ν : Type}

def Registry.empty : Registry ι ν := ⟨1, none, none, [], []⟩

abbrev RegistryM (ι ν : Type) : Type → Type := Action (Registry ι ν) StableMemoryError

/-- `NEXT_CONTEXT_ID` is advanced with `checked_add(1).expect(..)`. -/
def takeContextId : RegistryM ι ν ContextId := fun registry =>
  if registry.nextContextId.toNat + 1 < 2 ^ 64 then
    (.ok registry.nextContextId, { registry with nextContextId := registry.nextContextId + 1 })
  else (.panic, registry)

/-- The context is entered with its memory and the memory's identity. -/
def Registry.insert (registry : Registry ι ν) (context : ContextId) (memory : ν) (identity : ι) : Registry ι ν :=
  { registry with
    dbMemory := registry.dbMemory ++ [(context, memory)]
    registeredMemory := registry.registeredMemory ++ [(context, identity)] }

section Operations

variable [DecidableEq ι] (identity : ν → ι)

def rejectRegisteredMemory (registered : ι) : RegistryM ι ν Unit := fun registry =>
  if registered ∈ registry.registeredMemory.map Prod.snd then (.err .memoryAlreadyRegistered, registry)
  else (.ok (), registry)

def initContext (memory : ν) : RegistryM ι ν ContextId := do
  rejectRegisteredMemory (identity memory)
  let context ← takeContextId
  Action.modify fun registry => registry.insert context memory (identity memory)
  pure context

def init (memory : ν) : RegistryM ι ν ContextId := do
  let registry ← Action.read
  if registry.defaultContext.isSome then Action.fail .alreadyInitialized
  else do
    let context ← initContext identity memory
    Action.modify fun registry => { registry with defaultContext := some context }
    pure context

/-- Register a memory as the default one, or as any other. -/
def registerAs (asDefault : Bool) (memory : ν) : RegistryM ι ν ContextId :=
  if asDefault then init identity memory else initContext identity memory

/-- The error of a memory that is not registered. -/
def turnedAway (asDefault : Bool) (memory : ν) (registry : Registry ι ν) : Option StableMemoryError :=
  if asDefault ∧ registry.defaultContext.isSome then some .alreadyInitialized
  else if identity memory ∈ registry.registeredMemory.map Prod.snd then some .memoryAlreadyRegistered
  else none

end Operations

def Registry.activeContextId (registry : Registry ι ν) : Option ContextId :=
  registry.currentContext.or registry.defaultContext

/-- The memory that `with_memory` finds for a context. -/
def Registry.memoryOf (registry : Registry ι ν) (context : ContextId) : Option ν :=
  (registry.dbMemory.find? fun entry => decide (entry.1 = context)).map Prod.snd

/-- What `clear_failed_initialization` does to the registry. -/
def Registry.clearFailedInitialization (registry : Registry ι ν) (context : ContextId) : Registry ι ν :=
  { registry with
    dbMemory := registry.dbMemory.filter fun entry => entry.1 ≠ context
    registeredMemory := registry.registeredMemory.filter fun entry => entry.1 ≠ context
    defaultContext := registry.defaultContext.filter (· ≠ context)
    currentContext := registry.currentContext.filter (· ≠ context) }

/-! ## What registering keeps -/

/-- Contexts and identities are each used once, and the next context is a new one. -/
structure Registry.Sound (identity : ν → ι) (registry : Registry ι ν) : Prop where
  identities : registry.registeredMemory = registry.dbMemory.map fun entry => (entry.1, identity entry.2)
  taken : ∀ entry ∈ registry.dbMemory, entry.1 < registry.nextContextId
  contexts : (registry.dbMemory.map Prod.fst).Nodup
  distinct : (registry.registeredMemory.map Prod.snd).Nodup
  default : ∀ context ∈ registry.defaultContext, context < registry.nextContextId
  current : ∀ context ∈ registry.currentContext, context < registry.nextContextId

variable {identity : ν → ι} {registry : Registry ι ν} {memory : ν}

theorem sound_empty : (Registry.empty : Registry ι ν).Sound identity :=
  ⟨rfl, nofun, List.nodup_nil, List.nodup_nil, nofun, nofun⟩

/-- The registry with a memory under the next context. -/
def Registry.registered (registry : Registry ι ν) (identity : ν → ι) (memory : ν) : Registry ι ν :=
  Registry.insert { registry with nextContextId := registry.nextContextId + 1 } registry.nextContextId memory
    (identity memory)

/-- The registry with one context taken and given up again. -/
def Registry.skipped (registry : Registry ι ν) : Registry ι ν :=
  { registry with nextContextId := registry.nextContextId + 1 }

theorem lt_nextContextId (more : registry.nextContextId.toNat + 1 < 2 ^ 64) (context : ContextId) :
    context < registry.nextContextId + 1 ↔ context ≤ registry.nextContextId := by
  rw [UInt64.lt_iff_toNat_lt, UInt64.le_iff_toNat_le, UInt64.toNat_add, UInt64.toNat_one, Nat.mod_eq_of_lt more]
  exact Nat.lt_succ_iff

/-- A memory is refused, or there are no contexts left, or it is registered. -/
theorem initContext_cases [DecidableEq ι] (identity : ν → ι) (memory : ν) (registry : Registry ι ν) :
    (identity memory ∈ registry.registeredMemory.map Prod.snd ∧
      initContext identity memory registry = (.err .memoryAlreadyRegistered, registry)) ∨
    (identity memory ∉ registry.registeredMemory.map Prod.snd ∧ ¬ registry.nextContextId.toNat + 1 < 2 ^ 64 ∧
      initContext identity memory registry = (.panic, registry)) ∨
    (identity memory ∉ registry.registeredMemory.map Prod.snd ∧ registry.nextContextId.toNat + 1 < 2 ^ 64 ∧
      initContext identity memory registry = (.ok registry.nextContextId, registry.registered identity memory)) := by
  rw [initContext]
  by_cases known : identity memory ∈ registry.registeredMemory.map Prod.snd
  · have refused : rejectRegisteredMemory (identity memory) registry = (.err .memoryAlreadyRegistered, registry) := by
      rw [rejectRegisteredMemory, if_pos known]
    exact .inl ⟨known, Action.bind_of_err _ refused⟩
  · have passed : rejectRegisteredMemory (identity memory) registry = (.ok (), registry) := by
      rw [rejectRegisteredMemory, if_neg known]
    rw [Action.bind_of_ok _ passed]
    by_cases more : registry.nextContextId.toNat + 1 < 2 ^ 64
    · have took : (takeContextId : RegistryM ι ν ContextId) registry = (.ok registry.nextContextId, registry.skipped) := by
        rw [takeContextId, if_pos more]
        rfl
      exact .inr (.inr ⟨known, more, Action.bind_of_ok _ took⟩)
    · have stuck : (takeContextId : RegistryM ι ν ContextId) registry = (.panic, registry) := by
        rw [takeContextId, if_neg more]
      exact .inr (.inl ⟨known, more, Action.bind_of_panic _ stuck⟩)

/-- The default context is looked at before anything else. -/
theorem init_of_default [DecidableEq ι] (set : registry.defaultContext.isSome) :
    init identity memory registry = (.err .alreadyInitialized, registry) := by
  rw [init, Action.read_bind_apply, if_pos set]
  rfl

theorem init_of_none [DecidableEq ι] (unset : registry.defaultContext = none) :
    init identity memory registry = (do
      let context ← initContext identity memory
      Action.modify fun registry => { registry with defaultContext := some context }
      pure context) registry := by
  have none : ¬ registry.defaultContext.isSome := by
    rw [unset]
    exact nofun
  rw [init, Action.read_bind_apply, if_neg none]

/-- A memory is turned away, or finds no context left, or is registered. -/
theorem registerAs_cases [DecidableEq ι] (identity : ν → ι) (asDefault : Bool) (memory : ν) (registry : Registry ι ν) :
    (∃ error, turnedAway identity asDefault memory registry = some error ∧
      registerAs identity asDefault memory registry = (.err error, registry)) ∨
    (turnedAway identity asDefault memory registry = none ∧ ¬ registry.nextContextId.toNat + 1 < 2 ^ 64 ∧
      registerAs identity asDefault memory registry = (.panic, registry)) ∨
    (turnedAway identity asDefault memory registry = none ∧ registry.nextContextId.toNat + 1 < 2 ^ 64 ∧
      identity memory ∉ registry.registeredMemory.map Prod.snd ∧
      ∃ default, (default = registry.defaultContext ∨
          registry.defaultContext = none ∧ default = some registry.nextContextId) ∧
        registerAs identity asDefault memory registry = (.ok registry.nextContextId,
          { registry.registered identity memory with defaultContext := default })) := by
  rw [registerAs, turnedAway]
  cases asDefault with
  | false =>
      simp only [Bool.false_eq_true, false_and, if_false]
      rcases initContext_cases identity memory registry with
        ⟨known, ended⟩ | ⟨unknown, full, ended⟩ | ⟨unknown, more, ended⟩
      · exact .inl ⟨_, if_pos known, ended⟩
      · exact .inr (.inl ⟨if_neg unknown, full, ended⟩)
      · exact .inr (.inr ⟨if_neg unknown, more, unknown, _, .inl rfl, ended⟩)
  | true =>
      simp only [true_and, if_true]
      cases found : registry.defaultContext with
      | some context =>
          have set : registry.defaultContext.isSome := by
            rw [found]
            rfl
          exact .inl ⟨_, rfl, init_of_default set⟩
      | none =>
          rw [init_of_none found]
          rcases initContext_cases identity memory registry with
            ⟨known, ended⟩ | ⟨unknown, full, ended⟩ | ⟨unknown, more, ended⟩
          · exact .inl ⟨_, if_pos known, Action.bind_of_err _ ended⟩
          · exact .inr (.inl ⟨if_neg unknown, full, Action.bind_of_panic _ ended⟩)
          · exact .inr (.inr ⟨if_neg unknown, more, unknown, _, .inr ⟨rfl, rfl⟩, Action.bind_of_ok _ ended⟩)

theorem Registry.Sound.registered (sound : registry.Sound identity)
    (unknown : identity memory ∉ registry.registeredMemory.map Prod.snd)
    (more : registry.nextContextId.toNat + 1 < 2 ^ 64) : (registry.registered identity memory).Sound identity where
  identities := by
    change registry.registeredMemory ++ [_] = (registry.dbMemory ++ [_]).map _
    rw [sound.identities, List.map_append]
    rfl
  taken := by
    intro entry member
    refine (lt_nextContextId more _).mpr ?_
    rcases List.mem_append.mp member with old | new
    · exact UInt64.le_of_lt (sound.taken entry old)
    · rw [List.mem_singleton.mp new]
  contexts := by
    change ((registry.dbMemory ++ [_]).map Prod.fst).Nodup
    rw [List.map_append]
    refine List.nodup_append.mpr ⟨sound.contexts, List.nodup_singleton _, ?_⟩
    intro context old other new same
    obtain ⟨entry, member, rfl⟩ := List.mem_map.mp old
    have fresh : entry.1 = registry.nextContextId := same.trans (List.mem_singleton.mp new)
    have taken := sound.taken entry member
    rw [fresh] at taken
    exact UInt64.lt_irrefl _ taken
  distinct := by
    change ((registry.registeredMemory ++ [_]).map Prod.snd).Nodup
    rw [List.map_append]
    refine List.nodup_append.mpr ⟨sound.distinct, List.nodup_singleton _, ?_⟩
    intro known old other new same
    rw [same, List.mem_singleton.mp new] at old
    exact unknown old
  default := fun context found => (lt_nextContextId more _).mpr (UInt64.le_of_lt (sound.default context found))
  current := fun context found => (lt_nextContextId more _).mpr (UInt64.le_of_lt (sound.current context found))

theorem Registry.Sound.asDefault (sound : registry.Sound identity) {context : ContextId}
    (taken : context < registry.nextContextId) : { registry with defaultContext := some context }.Sound identity where
  identities := sound.identities
  taken := sound.taken
  contexts := sound.contexts
  distinct := sound.distinct
  default := by
    intro other found
    obtain rfl := Option.some.inj found
    exact taken
  current := sound.current

/-- The memory may have been registered as the default one. -/
theorem Registry.Sound.registeredAs (sound : registry.Sound identity)
    (unknown : identity memory ∉ registry.registeredMemory.map Prod.snd)
    (more : registry.nextContextId.toNat + 1 < 2 ^ 64) {default : Option ContextId}
    (defaults : default = registry.defaultContext ∨
      registry.defaultContext = none ∧ default = some registry.nextContextId) :
    { registry.registered identity memory with defaultContext := default }.Sound identity := by
  have registered := sound.registered unknown more
  rcases defaults with same | ⟨_, fresh⟩
  · rw [same]
    exact registered
  · rw [fresh]
    exact registered.asDefault ((lt_nextContextId more _).mpr (UInt64.le_refl _))

theorem Registry.Sound.skipped (sound : registry.Sound identity) (more : registry.nextContextId.toNat + 1 < 2 ^ 64) :
    registry.skipped.Sound identity where
  identities := sound.identities
  taken := fun entry member => (lt_nextContextId more _).mpr (UInt64.le_of_lt (sound.taken entry member))
  contexts := sound.contexts
  distinct := sound.distinct
  default := fun context found => (lt_nextContextId more _).mpr (UInt64.le_of_lt (sound.default context found))
  current := fun context found => (lt_nextContextId more _).mpr (UInt64.le_of_lt (sound.current context found))

theorem ne_next {context next : ContextId} (taken : context < next) : context ≠ next := by
  rintro rfl
  exact UInt64.lt_irrefl _ taken

theorem filter_next {choice : Option ContextId} {next : ContextId} (taken : ∀ context ∈ choice, context < next) :
    choice.filter (· ≠ next) = choice := by
  cases choice with
  | none => rfl
  | some context =>
      have other := ne_next (taken context rfl)
      rw [Option.filter_some, if_pos (decide_eq_true other)]

/-- A context may be given up at any time. -/
theorem Registry.Sound.cleared (sound : registry.Sound identity) (context : ContextId) :
    (registry.clearFailedInitialization context).Sound identity where
  identities := by
    change registry.registeredMemory.filter _ = (registry.dbMemory.filter _).map _
    rw [sound.identities, List.filter_map]
    rfl
  taken := fun entry member => sound.taken entry (List.mem_of_mem_filter member)
  contexts := (List.filter_sublist.map _).nodup sound.contexts
  distinct := (List.filter_sublist.map _).nodup sound.distinct
  default := fun other found => sound.default other (Option.mem_filter_iff.mp found).1
  current := fun other found => sound.current other (Option.mem_filter_iff.mp found).1

theorem Registry.mem_of_memoryOf {context : ContextId} (found : registry.memoryOf context = some memory) :
    (context, memory) ∈ registry.dbMemory := by
  rw [Registry.memoryOf, Option.map_eq_some_iff] at found
  obtain ⟨entry, at_, rfl⟩ := found
  have tested := List.find?_some at_
  have same : entry.1 = context := of_decide_eq_true tested
  rw [← same]
  exact List.mem_of_find?_eq_some at_

theorem Registry.Sound.mem_registered (sound : registry.Sound identity) {context : ContextId}
    (found : registry.memoryOf context = some memory) : (context, identity memory) ∈ registry.registeredMemory := by
  rw [sound.identities]
  exact List.mem_map.mpr ⟨_, Registry.mem_of_memoryOf found, rfl⟩

/-- The memories of two contexts are different ones. -/
theorem Registry.Sound.identity_ne (sound : registry.Sound identity) {one other : ContextId} {second : ν}
    (found : registry.memoryOf one = some memory) (otherFound : registry.memoryOf other = some second)
    (different : one ≠ other) : identity memory ≠ identity second := by
  intro same
  have entry := sound.mem_registered found
  have otherEntry := sound.mem_registered otherFound
  rw [← same] at otherEntry
  have equal := List.inj_on_of_nodup_map sound.distinct entry otherEntry rfl
  exact different (Prod.mk.inj equal).1

section Undoing

variable (sound : registry.Sound identity)
include sound

/-- The context that was entered last is the one that is found under the next number. -/
theorem Registry.Sound.memoryOf_registered (memory : ν) :
    (registry.registered identity memory).memoryOf registry.nextContextId = some memory := by
  have absent : registry.dbMemory.find? (fun entry => decide (entry.1 = registry.nextContextId)) = none := by
    rw [List.find?_eq_none]
    intro entry member same
    exact ne_next (sound.taken entry member) (of_decide_eq_true same)
  change ((registry.dbMemory ++ [(registry.nextContextId, memory)]).find? _).map Prod.snd = _
  rw [List.find?_append, absent, Option.none_or]
  simp

/-- Giving up the context that was entered last leaves what was there before it. -/
theorem Registry.Sound.clear_registered (memory : ν) {default : Option ContextId}
    (defaults : default = registry.defaultContext ∨ registry.defaultContext = none ∧ default = some registry.nextContextId) :
    Registry.clearFailedInitialization { registry.registered identity memory with defaultContext := default }
      registry.nextContextId = registry.skipped := by
  have others : ∀ entry ∈ registry.dbMemory, entry.1 ≠ registry.nextContextId :=
    fun entry member => ne_next (sound.taken entry member)
  have ids : ∀ entry ∈ registry.registeredMemory, entry.1 ≠ registry.nextContextId := by
    intro entry member
    rw [sound.identities] at member
    obtain ⟨source, known, rfl⟩ := List.mem_map.mp member
    exact others source known
  ext1
  · rfl
  · change default.filter (· ≠ registry.nextContextId) = registry.defaultContext
    rcases defaults with same | ⟨none, fresh⟩
    · rw [same, filter_next sound.default]
    · rw [fresh, none, Option.filter_some, if_neg (by simp)]
  · exact filter_next sound.current
  · change (registry.dbMemory ++ [(registry.nextContextId, memory)]).filter _ = registry.dbMemory
    rw [List.filter_append, List.filter_eq_self.mpr (fun entry member => decide_eq_true (others entry member)),
      List.filter_cons_of_neg (by simp), List.filter_nil, List.append_nil]
  · change (registry.registeredMemory ++ [(registry.nextContextId, identity memory)]).filter _ =
      registry.registeredMemory
    rw [List.filter_append, List.filter_eq_self.mpr (fun entry member => decide_eq_true (ids entry member)),
      List.filter_cons_of_neg (by simp), List.filter_nil, List.append_nil]

end Undoing

end IcSqliteVfs.Stable
