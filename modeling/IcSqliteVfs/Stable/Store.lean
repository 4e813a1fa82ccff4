import IcSqliteVfs.Semantics.Action
import IcSqliteVfs.Stable.RawMemory
import IcSqliteVfs.Stable.Superblock

namespace IcSqliteVfs.Stable

open IcSqliteVfs.Data IcSqliteVfs.Semantics

/-! # The stable side of one context

`memory.rs` keeps a virtual memory for each context and `meta.rs` a superblock
cache entry.  The environment's answers to future growth requests are part of
the state: a run under every possible pattern of refusals is a run from some
`grants`.
-/

structure Store where
  memory : Memory
  grants : Nat → Bool
  superblockCache : Option Superblock

abbrev StoreM : Type → Type := Action Store StableMemoryError

section Checked

variable {σ : Type}

def checkedAdd (left right : Nat) : Action σ StableMemoryError Nat :=
  if left + right < u64Bound then pure (left + right) else Action.fail .offsetOverflow

def checkedMul (left right : Nat) : Action σ StableMemoryError Nat :=
  if left * right < u64Bound then pure (left * right) else Action.fail .offsetOverflow

theorem checkedAdd_of {left right : Nat} (fits : left + right < u64Bound) (state : σ) :
    checkedAdd left right state = (.ok (left + right), state) := by
  simp [checkedAdd, fits]

theorem checkedAdd_overflow {left right : Nat} (past : ¬ left + right < u64Bound) (state : σ) :
    checkedAdd left right state = (.err .offsetOverflow, state) := by
  simp [checkedAdd, past]

theorem checkedMul_of {left right : Nat} (fits : left * right < u64Bound) (state : σ) :
    checkedMul left right state = (.ok (left * right), state) := by
  simp [checkedMul, fits]

end Checked

def divCeil (value unit : Nat) : Nat := (value + unit - 1) / unit

/-- `memory.grow`, with the environment's next answer. -/
def growMemory (pages : Nat) : StoreM Int := fun store =>
  let (previous, memory) := store.memory.grow (store.grants 0) pages
  (.ok previous, { store with memory, grants := fun request => store.grants (request + 1) })

def ensureCapacity (endOffset : Nat) : StoreM Unit := do
  let store ← Action.read
  let currentPages := store.memory.size
  let currentBytes ← checkedMul currentPages stablePageSize
  if endOffset ≤ currentBytes then pure ()
  else do
    let pages := divCeil (endOffset - currentBytes) stablePageSize
    let previous ← growMemory pages
    if previous < 0 then do
      let requiredPages ← checkedAdd currentPages pages
      Action.fail (.growFailed currentPages requiredPages)
    else pure ()

/-- `VirtualMemory::read` asserts its bounds, except for an empty range. -/
def readPreallocated (offset count : Nat) : StoreM (List UInt8) := do
  let _ ← checkedAdd offset count
  let store ← Action.read
  Action.require (count = 0 ∨ offset + count ≤ store.memory.capacity)
  pure (store.memory.read offset count)

/-- `VirtualMemory::write` asserts its bounds, except for an empty range. -/
def writePrechecked (offset : Nat) (bytes : List UInt8) : StoreM Unit := do
  let store ← Action.read
  Action.require (bytes = [] ∨ offset + bytes.length ≤ store.memory.capacity)
  Action.modify fun store => { store with memory := store.memory.write offset bytes }

def write (offset : Nat) (bytes : List UInt8) : StoreM Unit :=
  if bytes.isEmpty then pure ()
  else do
    let stop ← checkedAdd offset bytes.length
    ensureCapacity stop
    writePrechecked offset bytes

variable {store : Store}

theorem readPreallocated_of {offset count : Nat} (room : offset + count ≤ store.memory.capacity) :
    readPreallocated offset count store = (.ok (store.memory.read offset count), store) := by
  have fits : offset + count < u64Bound := Nat.lt_of_le_of_lt room store.memory.addressable
  rw [readPreallocated, Action.bind_of_ok _ (checkedAdd_of fits store), Action.read_bind_apply,
    Action.bind_of_ok _ (Action.require_of (.inr room))]
  rfl

theorem writePrechecked_of {offset : Nat} {bytes : List UInt8}
    (room : offset + bytes.length ≤ store.memory.capacity) :
    writePrechecked offset bytes store =
      (.ok (), { store with memory := store.memory.write offset bytes }) := by
  rw [writePrechecked, Action.read_bind_apply, Action.bind_of_ok _ (Action.require_of (.inr room))]
  rfl

/-- Nothing of a store but the environment's answers has changed. -/
structure Store.Same (before after : Store) : Prop where
  memory : after.memory = before.memory
  superblockCache : after.superblockCache = before.superblockCache

/-- The pages a capacity request leaves behind when it succeeds. -/
def pagesFor (pages endOffset : Nat) : Nat := max pages (divCeil endOffset stablePageSize)

theorem le_pagesFor_mul (pages endOffset : Nat) : endOffset ≤ pagesFor pages endOffset * stablePageSize := by
  simp only [pagesFor, divCeil, stablePageSize]
  omega

structure Store.Grown (before : Store) (endOffset : Nat) (after : Store) : Prop where
  bytes : after.memory.bytes = before.memory.bytes
  pages : after.memory.pages = pagesFor before.memory.pages endOffset
  superblockCache : after.superblockCache = before.superblockCache

theorem Store.Grown.room {endOffset : Nat} {after : Store} (grown : store.Grown endOffset after) :
    endOffset ≤ after.memory.capacity := by
  rw [Memory.capacity, grown.pages]
  exact le_pagesFor_mul _ _

/-- A capacity request either leaves exactly the capacity asked for, or reports
an error and leaves the store alone. -/
theorem ensureCapacity_cases (store : Store) (endOffset : Nat) :
    (∃ after, ensureCapacity endOffset store = (.ok (), after) ∧ store.Grown endOffset after) ∨
    (∃ error after, ensureCapacity endOffset store = (.err error, after) ∧ store.Same after) := by
  have addressable : store.memory.size * stablePageSize < u64Bound := store.memory.addressable
  rw [ensureCapacity, Action.read_bind_apply, Action.bind_of_ok _ (checkedMul_of addressable store)]
  by_cases enough : endOffset ≤ store.memory.size * stablePageSize
  · refine .inl ⟨store, by rw [if_pos enough]; rfl, rfl, ?_, rfl⟩
    simp only [pagesFor, divCeil, stablePageSize, Memory.size] at enough ⊢
    omega
  · rw [if_neg enough]
    let pages := divCeil (endOffset - store.memory.size * stablePageSize) stablePageSize
    let next : Store := { store with
      memory := (store.memory.grow (store.grants 0) pages).2
      grants := fun request => store.grants (request + 1) }
    have requested : growMemory pages store =
        (.ok (store.memory.grow (store.grants 0) pages).1, next) := rfl
    rw [Action.bind_of_ok _ requested]
    by_cases refused : (store.memory.grow (store.grants 0) pages).1 < 0
    · rw [if_pos refused]
      have same : store.Same next := ⟨(store.memory.grow_refused refused).1, rfl⟩
      by_cases fits : store.memory.size + pages < u64Bound
      · exact .inr ⟨_, next, by rw [Action.bind_of_ok _ (checkedAdd_of fits next)]; rfl, same⟩
      · exact .inr ⟨_, next, by rw [Action.bind_of_err _ (checkedAdd_overflow fits next)], same⟩
    · rw [if_neg refused]
      have granted := (store.memory.grow_granted (Int.not_lt.mp refused)).1
      refine .inl ⟨next, rfl, store.memory.grow_bytes _ _, ?_, rfl⟩
      change (store.memory.grow (store.grants 0) pages).2.pages = _
      rw [granted]
      simp only [pages, pagesFor, divCeil, stablePageSize, Memory.size] at enough ⊢
      omega

theorem ensureCapacity_of_room {endOffset : Nat} (room : endOffset ≤ store.memory.capacity) :
    ensureCapacity endOffset store = (.ok (), store) := by
  have addressable : store.memory.size * stablePageSize < u64Bound := store.memory.addressable
  have enough : endOffset ≤ store.memory.size * stablePageSize := room
  rw [ensureCapacity, Action.read_bind_apply, Action.bind_of_ok _ (checkedMul_of addressable store),
    if_pos enough]
  rfl

theorem write_of_room {offset : Nat} {bytes : List UInt8} (nonempty : bytes ≠ [])
    (room : offset + bytes.length ≤ store.memory.capacity) :
    write offset bytes store = (.ok (), { store with memory := store.memory.write offset bytes }) := by
  have fits : offset + bytes.length < u64Bound := Nat.lt_of_le_of_lt room store.memory.addressable
  have present : ¬ bytes.isEmpty = true := by simpa using nonempty
  rw [write, if_neg present, Action.bind_of_ok _ (checkedAdd_of fits store),
    Action.bind_of_ok _ (ensureCapacity_of_room room), writePrechecked_of room]

/-- A write that grows the memory as it needs, or is refused and does nothing. -/
theorem write_cases (store : Store) (offset : Nat) (bytes : List UInt8) :
    (∃ after, write offset bytes store = (.ok (), after) ∧ store.memory.pages ≤ after.memory.pages ∧
      (∀ address, address < offset → after.memory.bytes address = store.memory.bytes address) ∧
      after.superblockCache = store.superblockCache ∧
      (bytes = [] ∨ offset + bytes.length ≤ after.memory.capacity) ∧
      after.memory.read offset bytes.length = bytes) ∨
    (∃ error after, write offset bytes store = (.err error, after) ∧ store.Same after) := by
  rw [write]
  by_cases empty : bytes.isEmpty = true
  · rw [if_pos empty]
    obtain rfl := List.isEmpty_iff.mp empty
    exact .inl ⟨store, rfl, Nat.le_refl _, fun _ _ => rfl, rfl, .inl rfl, rfl⟩
  · rw [if_neg empty]
    by_cases fits : offset + bytes.length < u64Bound
    · rw [Action.bind_of_ok _ (checkedAdd_of fits store)]
      rcases ensureCapacity_cases store (offset + bytes.length) with granted | refused
      · obtain ⟨grown, ended, grownBy⟩ := granted
        rw [Action.bind_of_ok _ ended, writePrechecked_of grownBy.room]
        refine .inl ⟨_, rfl, ?_, ?_, grownBy.superblockCache, .inr grownBy.room,
          Memory.read_write_self _ grownBy.room⟩
        · rw [Memory.write_pages, grownBy.pages]
          exact le_max_left _ _
        · intro address below
          rw [Memory.write_bytes _ grownBy.room, grownBy.bytes]
          exact if_neg (by omega)
      · obtain ⟨error, after, ended, same⟩ := refused
        exact .inr ⟨error, after, Action.bind_of_err _ ended, same⟩
    · exact .inr ⟨_, store, Action.bind_of_err _ (checkedAdd_overflow fits store), rfl, rfl⟩

/-- Growth that the environment grants and the address space has room for. -/
theorem growMemory_of {pages : Nat} {grown : Int × Memory} (answered : store.memory.grow (store.grants 0) pages = grown) :
    growMemory pages store = (.ok grown.1, { store with
      memory := grown.2
      grants := fun request => store.grants (request + 1) }) := by
  rw [growMemory, answered]

theorem ensureCapacity_grown {endOffset : Nat} (granted : store.grants 0 = true)
    (short : store.memory.capacity < endOffset)
    (fits : pagesFor store.memory.pages endOffset * stablePageSize < u64Bound) :
    ensureCapacity endOffset store = (.ok (), { store with
      memory := (store.memory.grow true (divCeil (endOffset - store.memory.capacity) stablePageSize)).2
      grants := fun request => store.grants (request + 1) }) := by
  have addressable : store.memory.size * stablePageSize < u64Bound := store.memory.addressable
  have missing : ¬ endOffset ≤ store.memory.size * stablePageSize := Nat.not_le.mpr short
  rw [ensureCapacity, Action.read_bind_apply, Action.bind_of_ok _ (checkedMul_of addressable store), if_neg missing]
  let pages := divCeil (endOffset - store.memory.size * stablePageSize) stablePageSize
  have whole : store.memory.pages + pages = pagesFor store.memory.pages endOffset := by
    simp only [pages, pagesFor, divCeil, stablePageSize, Memory.size] at missing ⊢
    omega
  have total : (store.memory.pages + pages) * stablePageSize < u64Bound := by
    rw [whole]
    exact fits
  have answered : (store.memory.grow true pages).1 = store.memory.pages := by
    rw [Memory.grow, dif_pos ⟨rfl, total⟩]
  have requested : growMemory pages store =
      (.ok (store.memory.grow true pages).1, { store with
        memory := (store.memory.grow true pages).2
        grants := fun request => store.grants (request + 1) }) := growMemory_of (by rw [granted])
  rw [Action.bind_of_ok _ requested, answered, if_neg (by omega)]
  rfl

theorem ensureCapacity_granted {endOffset : Nat} (granted : store.grants 0 = true)
    (fits : pagesFor store.memory.pages endOffset * stablePageSize < u64Bound) :
    (ensureCapacity endOffset store).1 = .ok () := by
  by_cases enough : endOffset ≤ store.memory.capacity
  · have addressable : store.memory.size * stablePageSize < u64Bound := store.memory.addressable
    have present : endOffset ≤ store.memory.size * stablePageSize := enough
    rw [ensureCapacity, Action.read_bind_apply, Action.bind_of_ok _ (checkedMul_of addressable store),
      if_pos present]
    rfl
  · rw [ensureCapacity_grown granted (Nat.not_le.mp enough) fits]

theorem write_granted {offset : Nat} {bytes : List UInt8} (granted : store.grants 0 = true)
    (fits : pagesFor store.memory.pages (offset + bytes.length) * stablePageSize < u64Bound) :
    (write offset bytes store).1 = .ok () := by
  rw [write]
  by_cases empty : bytes.isEmpty = true
  · rw [if_pos empty]
    rfl
  · have sum : offset + bytes.length < u64Bound := Nat.lt_of_le_of_lt (le_pagesFor_mul _ _) fits
    have capacity := ensureCapacity_granted granted fits
    rw [if_neg empty, Action.bind_of_ok _ (checkedAdd_of sum store)]
    rcases ensureCapacity_cases store (offset + bytes.length) with done | refused
    · obtain ⟨grown, ended, grownBy⟩ := done
      rw [Action.bind_of_ok _ ended, writePrechecked_of grownBy.room]
    · obtain ⟨error, after, ended, _⟩ := refused
      rw [ended] at capacity
      cases capacity

end IcSqliteVfs.Stable
