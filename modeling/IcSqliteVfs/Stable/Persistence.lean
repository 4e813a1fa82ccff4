import IcSqliteVfs.Stable.Meta
import Mathlib.Logic.Function.Basic

namespace IcSqliteVfs.Stable

open IcSqliteVfs.Data IcSqliteVfs.Semantics

namespace Superblock

/-! # Superblocks of many contexts

Loads and stores in any order and in any contexts.  `store_preallocated` is
only reached behind a load, so a sequence with its own loads covers the
routines that load, edit and store.
-/

inductive Call where
  | load
  | store (block : Superblock)
  | storePreallocated (block : Superblock)

namespace Call

def perform : Call → StoreM (Option Superblock)
  | .load => do
      let block ← Superblock.load
      pure (some block)
  | .store block => do
      block.store
      pure none
  | .storePreallocated block => do
      block.storePreallocated
      pure none

/-- The block carries the current magic and layout version. -/
def Current : Call → Prop
  | .load => True
  | .store block => block.magic = Stable.magic ∧ block.layoutVersion = currentLayoutVersion
  | .storePreallocated block => block.magic = Stable.magic ∧ block.layoutVersion = currentLayoutVersion

/-- What the last successful store of a context becomes.  The first load of an
empty memory is a store of the fresh block. -/
def lastStored (last : Option Superblock) : Call → Option Superblock
  | .load => some (last.getD fresh)
  | .store block => some block.stamped
  | .storePreallocated block => some block.stamped

def extents : Call → Option (List ZeroExtent)
  | .load => none
  | .store block => some block.zeroExtents
  | .storePreallocated block => some block.zeroExtents

end Call

/-- The contexts' stores, with what was last stored in each. -/
structure Contexts where
  stores : Nat → Store
  last : Nat → Option Superblock

def Contexts.initial (grants : Nat → Nat → Bool) : Contexts where
  stores context := ⟨Memory.empty, grants context, none⟩
  last _ := none

def Contexts.step (contexts : Contexts) (context : Nat) (call : Call) :
    Outcome StableMemoryError (Option Superblock) × Contexts :=
  let (outcome, store) := call.perform (contexts.stores context)
  (outcome, {
    stores := Function.update contexts.stores context store
    last :=
      if outcome.isOk then Function.update contexts.last context (call.lastStored (contexts.last context))
      else contexts.last })

def Contexts.run (contexts : Contexts) : List (Nat × Call) →
    List (Outcome StableMemoryError (Option Superblock)) × Contexts
  | [] => ([], contexts)
  | (context, call) :: rest =>
      let (outcome, next) := contexts.step context call
      let (outcomes, final) := next.run rest
      (outcome :: outcomes, final)

/-- A store agrees with what was last stored in it. -/
inductive Settled (store : Store) : Option Superblock → Prop where
  | unused (pages : store.memory.pages = 0) (cache : store.superblockCache = none) : Settled store none
  | stored (block : Superblock) (coherent : Coherent store block) : Settled store (some block)

variable {block : Superblock} {store : Store} {last : Option Superblock}

theorem settled_storedIn {grown : Store} (pages : 0 < grown.memory.pages)
    (current : block.magic = Stable.magic ∧ block.layoutVersion = currentLayoutVersion)
    (valid : block.validateZeroExtents = .ok ()) : Settled (block.storedIn grown) (some block.stamped) :=
  .stored _ (storedIn_coherent pages current.1 current.2 valid)

/-- A store whose memory and cache did not change is as settled as before. -/
theorem Settled.same {after : Store} (settled : Settled store last) (same : store.Same after) :
    Settled after last := by
  cases settled with
  | unused pages cache => exact .unused (by rw [same.memory]; exact pages) (same.superblockCache.trans cache)
  | stored block coherent =>
      refine .stored block ⟨by rw [same.memory]; exact coherent.accepted, ?_⟩
      rw [same.superblockCache]
      exact coherent.cached

theorem validateZeroExtents_cases (block : Superblock) :
    block.validateZeroExtents = .ok () ∨ ∃ error, block.validateZeroExtents = .error error := by
  cases valid : block.validateZeroExtents with
  | ok value => exact .inl rfl
  | error reason => exact .inr ⟨reason, rfl⟩

/-- One call: a success stores a valid list and settles on the stored block, a
failure settles on what was there. -/
theorem Settled.perform (settled : Settled store last) {call : Call} (current : call.Current) :
    (∃ answer after, call.perform store = (.ok answer, after) ∧ Settled after (call.lastStored last) ∧
      ∀ extents ∈ call.extents, extents.length ≤ maxZeroExtents ∧ Data.Interval.Normal extents) ∨
    (∃ outcome after, call.perform store = (outcome, after) ∧ outcome.isOk = false ∧ Settled after last) := by
  cases call with
  | load =>
      cases settled with
      | stored block coherent =>
          refine .inl ⟨_, _, Action.bind_of_ok _ coherent.load_eq, .stored block coherent.warm, ?_⟩
          intro extents found
          cases found
      | unused pages cache =>
          have size : store.memory.size = 0 := pages
          have valid : fresh.validateZeroExtents = .ok () := rfl
          rcases store_cases store valid with stored | refused
          · obtain ⟨grown, ended, positive, _⟩ := stored
            have loaded : Superblock.load store = (.ok fresh, fresh.storedIn grown) := by
              rw [Superblock.load, Action.read_bind_apply]
              simp only [cache, size, if_true]
              rw [Action.bind_of_ok _ ended]
              rfl
            have after := settled_storedIn positive ⟨rfl, rfl⟩ valid
            rw [stamped_fresh] at after
            refine .inl ⟨_, _, Action.bind_of_ok _ loaded, after, ?_⟩
            intro extents found
            cases found
          · obtain ⟨error, after, ended, same⟩ := refused
            have loaded : Superblock.load store = (.err error, after) := by
              rw [Superblock.load, Action.read_bind_apply]
              simp only [cache, size, if_true]
              rw [Action.bind_of_err _ ended]
            exact .inr ⟨_, _, Action.bind_of_err _ loaded, rfl, Settled.same (.unused pages cache) same⟩
  | store block =>
      rcases validateZeroExtents_cases block with valid | invalid
      · rcases store_cases store valid with stored | refused
        · obtain ⟨grown, ended, positive, _⟩ := stored
          refine .inl ⟨_, _, Action.bind_of_ok _ ended, settled_storedIn positive current valid, ?_⟩
          intro extents found
          obtain rfl := Option.some.inj found
          exact (validateZeroExtents_iff block).mp valid
        · obtain ⟨error, after, ended, same⟩ := refused
          exact .inr ⟨_, _, Action.bind_of_err _ ended, rfl, settled.same same⟩
      · obtain ⟨error, rejected⟩ := invalid
        exact .inr ⟨_, _, Action.bind_of_err _ (storeWith_rejects write rejected), rfl, settled⟩
  | storePreallocated block =>
      rcases validateZeroExtents_cases block with valid | invalid
      · by_cases room : superblockOffset + (block.stamped.encode.take block.stamped.encodedLenOf).length ≤
            store.memory.capacity
        · have positive : 0 < store.memory.pages := by
            refine Nat.pos_of_ne_zero fun none => ?_
            have written := List.length_pos_iff.mpr (written_nonempty block)
            rw [Memory.capacity, none, Nat.zero_mul] at room
            omega
          refine .inl ⟨_, _, Action.bind_of_ok _ (storePreallocated_of positive valid),
            settled_storedIn positive current valid, ?_⟩
          intro extents found
          obtain rfl := Option.some.inj found
          exact (validateZeroExtents_iff block).mp valid
        · -- The bounds assertion of the memory, which an empty memory fails.
          have outside : ¬ (block.stamped.encode.take block.stamped.encodedLenOf = [] ∨
              superblockOffset + (block.stamped.encode.take block.stamped.encodedLenOf).length ≤
                store.memory.capacity) := by
            rintro (empty | inside)
            · exact written_nonempty block empty
            · exact room inside
          have unwound : block.storePreallocated store = (.panic, store) := by
            simp only [Superblock.storePreallocated, storeWith, valid]
            rw [Action.bind_of_panic]
            rw [writePrechecked, Action.read_bind_apply, Action.require, if_neg outside]
            rfl
          exact .inr ⟨_, _, Action.bind_of_panic _ unwound, rfl, settled⟩
      · obtain ⟨error, rejected⟩ := invalid
        exact .inr ⟨_, _, Action.bind_of_err _ (storeWith_rejects writePrechecked rejected), rfl, settled⟩

/-! ## Runs -/

namespace Contexts

def AllSettled (contexts : Contexts) : Prop := ∀ context, Settled (contexts.stores context) (contexts.last context)

theorem allSettled_initial (grants : Nat → Nat → Bool) : (initial grants).AllSettled :=
  fun _ => .unused rfl rfl

/-- A stored list that was accepted is short and in normal form. -/
def Checked (call : Call) (outcome : Outcome StableMemoryError (Option Superblock)) : Prop :=
  outcome.isOk = true → ∀ extents ∈ call.extents, extents.length ≤ maxZeroExtents ∧ Data.Interval.Normal extents

variable {contexts : Contexts}

theorem AllSettled.step (settled : contexts.AllSettled) (context : Nat) {call : Call} (current : call.Current) :
    (contexts.step context call).2.AllSettled ∧ Checked call (contexts.step context call).1 := by
  rcases (settled context).perform current with done | failed
  · obtain ⟨answer, after, ended, kept, valid⟩ := done
    simp only [Contexts.step, ended]
    refine ⟨?_, fun _ => valid⟩
    intro other
    by_cases here : other = context
    · subst here
      simpa [Outcome.isOk] using kept
    · simpa [Outcome.isOk, Function.update_of_ne here] using settled other
  · obtain ⟨outcome, after, ended, rejected, kept⟩ := failed
    simp only [Contexts.step, ended]
    refine ⟨?_, fun accepted => by rw [rejected] at accepted; cases accepted⟩
    intro other
    by_cases here : other = context
    · subst here
      simpa [rejected] using kept
    · simpa [rejected, Function.update_of_ne here] using settled other

theorem AllSettled.run (settled : contexts.AllSettled) (calls : List (Nat × Call))
    (current : ∀ call ∈ calls, call.2.Current) :
    (contexts.run calls).2.AllSettled ∧
      ∀ pair ∈ calls.zip (contexts.run calls).1, Checked pair.1.2 pair.2 := by
  induction calls generalizing contexts with
  | nil =>
      refine ⟨settled, ?_⟩
      intro pair member
      cases member
  | cons first rest ih =>
      obtain ⟨context, call⟩ := first
      obtain ⟨kept, checked⟩ := settled.step context (current (context, call) List.mem_cons_self)
      obtain ⟨final, others⟩ := ih kept fun other member => current other (List.mem_cons_of_mem _ member)
      refine ⟨final, ?_⟩
      intro pair member
      rcases List.mem_cons.mp member with here | there
      · rw [here]
        exact checked
      · exact others pair there

end Contexts

/-- Encoding is undone by decoding, and along every sequence of loads and
stores a context's block is the last one stored in it, whether it comes from
the cache or from the bytes. -/
theorem superblock_persistence :
    (∀ block : Superblock, block.zeroExtents.length ≤ maxZeroExtents → decode block.encode = block) ∧
    ∀ (grants : Nat → Nat → Bool) (calls : List (Nat × Call)), (∀ call ∈ calls, call.2.Current) →
      let outcomes := ((Contexts.initial grants).run calls).1
      let final := ((Contexts.initial grants).run calls).2
      (∀ pair ∈ calls.zip outcomes, pair.2.isOk = true → ∀ extents ∈ pair.1.2.extents,
        extents.length ≤ maxZeroExtents ∧ Data.Interval.Normal extents) ∧
      ∀ context,
        (∀ block, final.last context = some block →
          (load { final.stores context with superblockCache := none }).1 = .ok block ∧
          (load (final.stores context)).1 = .ok block) ∧
        (final.last context = none →
          (final.stores context).memory.pages = 0 ∧ (final.stores context).superblockCache = none) := by
  refine ⟨fun block limit => decode_encode limit, ?_⟩
  intro grants calls current outcomes final
  obtain ⟨settled, checked⟩ := (Contexts.allSettled_initial grants).run calls current
  refine ⟨checked, ?_⟩
  intro context
  have here : Settled (final.stores context) (final.last context) := settled context
  constructor
  · intro block found
    rw [found] at here
    cases here with
    | stored _ coherent => exact ⟨by rw [coherent.cold.load_eq], by rw [coherent.load_eq]⟩
  · intro none
    rw [none] at here
    cases here with
    | unused pages cache => exact ⟨pages, cache⟩

/-- Two contexts, a store in one and a load in the other. -/
theorem superblock_persistence_of_two_contexts :
    decode fresh.encode = fresh ∧
    ∀ context block,
      ((Contexts.initial fun _ _ => true).run [(1, .store fresh), (2, .load)]).2.last context = some block →
      (load { ((Contexts.initial fun _ _ => true).run [(1, .store fresh), (2, .load)]).2.stores context with
        superblockCache := none }).1 = .ok block ∧
      (load (((Contexts.initial fun _ _ => true).run [(1, .store fresh), (2, .load)]).2.stores context)).1 =
        .ok block := by
  have current : ∀ call ∈ [(1, Call.store fresh), (2, Call.load)], call.2.Current := by
    intro call member
    rcases List.mem_cons.mp member with first | second
    · rw [first]
      exact ⟨rfl, rfl⟩
    · rw [List.mem_singleton.mp second]
      exact True.intro
  refine ⟨superblock_persistence.1 fresh (Nat.zero_le _), ?_⟩
  have contexts := (superblock_persistence.2 (fun _ _ => true) _ current).2
  exact fun context => (contexts context).1

end Superblock

end IcSqliteVfs.Stable
