import IcSqliteVfs.Config
import IcSqliteVfs.Data.Bytes

namespace IcSqliteVfs.Stable

open IcSqliteVfs.Data

/-! # Byte-addressed memory

What a holder of the source's `Memory` trait can observe: a size in pages of
64 KiB, the bytes below that size, and a `grow` that the environment may refuse.
Bytes at and above the size are kept at zero, which is what `grow` exposes.
-/

structure Memory where
  bytes : Nat → UInt8
  pages : Nat
  zeroed : ∀ address, pages * stablePageSize ≤ address → bytes address = 0
  addressable : pages * stablePageSize < u64Bound

namespace Memory

def empty : Memory where
  bytes _ := 0
  pages := 0
  zeroed _ _ := rfl
  addressable := by decide

def size (memory : Memory) : Nat := memory.pages

/-- The number of bytes that may be read or written. -/
def capacity (memory : Memory) : Nat := memory.pages * stablePageSize

/-- `granted` is the answer of the environment to this request; a request past
the address space is refused whatever the environment says. -/
def grow (memory : Memory) (granted : Bool) (pages : Nat) : Int × Memory :=
  if fits : granted = true ∧ (memory.pages + pages) * stablePageSize < u64Bound then
    (memory.pages, {
      bytes := memory.bytes
      pages := memory.pages + pages
      zeroed := fun address past => memory.zeroed address
        (Nat.le_trans (Nat.mul_le_mul_right _ (Nat.le_add_right _ _)) past)
      addressable := fits.2 })
  else (-1, memory)

def read (memory : Memory) (offset count : Nat) : List UInt8 :=
  (List.range count).map fun index => memory.bytes (offset + index)

/-- Bytes past the capacity are not stored; every caller checks its range. -/
def write (memory : Memory) (offset : Nat) (source : List UInt8) : Memory where
  bytes address :=
    if offset ≤ address ∧ address < offset + source.length ∧ address < memory.capacity then
      source.getD (address - offset) 0
    else memory.bytes address
  pages := memory.pages
  zeroed address past := by
    have outside : ¬ address < memory.capacity := Nat.not_lt.mpr past
    simp only [outside, and_false, if_false]
    exact memory.zeroed address past
  addressable := memory.addressable

variable (memory : Memory)

@[simp] theorem length_read (offset count : Nat) : (memory.read offset count).length = count := by
  simp [read]

theorem getD_read (offset count index : Nat) :
    (memory.read offset count).getD index 0 = if index < count then memory.bytes (offset + index) else 0 :=
  getD_map_range 0 _ count index

@[simp] theorem write_pages (offset : Nat) (source : List UInt8) :
    (memory.write offset source).pages = memory.pages := rfl

@[simp] theorem write_capacity (offset : Nat) (source : List UInt8) :
    (memory.write offset source).capacity = memory.capacity := rfl

theorem write_bytes {offset : Nat} {source : List UInt8} (room : offset + source.length ≤ memory.capacity)
    (address : Nat) :
    (memory.write offset source).bytes address =
      if offset ≤ address ∧ address < offset + source.length then source.getD (address - offset) 0
      else memory.bytes address := by
  simp only [write]
  by_cases inside : offset ≤ address ∧ address < offset + source.length
  · rw [if_pos ⟨inside.1, inside.2, Nat.lt_of_lt_of_le inside.2 room⟩, if_pos inside]
  · rw [if_neg (fun all => inside ⟨all.1, all.2.1⟩), if_neg inside]

theorem read_write_self {offset : Nat} {source : List UInt8}
    (room : offset + source.length ≤ memory.capacity) :
    (memory.write offset source).read offset source.length = source := by
  apply ext_getD 0 (by simp)
  intro index inside
  rw [length_read] at inside
  rw [getD_read, if_pos inside, write_bytes memory room, if_pos ⟨by omega, by omega⟩]
  congr 1
  omega

theorem read_congr {first second : Memory} {offset count : Nat}
    (same : ∀ address, offset ≤ address → address < offset + count →
      first.bytes address = second.bytes address) :
    first.read offset count = second.read offset count := by
  apply List.map_congr_left
  intro index member
  have bound := List.mem_range.mp member
  exact same _ (by omega) (by omega)

theorem read_add (offset first second : Nat) :
    memory.read offset (first + second) = memory.read offset first ++ memory.read (offset + first) second := by
  simp only [read, List.range_add, List.map_append, List.map_map]
  congr 1
  apply List.map_congr_left
  intro index _
  simp only [Function.comp_apply, Nat.add_assoc]

theorem grow_bytes (granted : Bool) (pages : Nat) : (memory.grow granted pages).2.bytes = memory.bytes := by
  unfold grow
  split <;> rfl

theorem grow_granted {granted : Bool} {pages : Nat} (succeeded : 0 ≤ (memory.grow granted pages).1) :
    (memory.grow granted pages).2.pages = memory.pages + pages ∧
      (memory.grow granted pages).1 = memory.pages := by
  unfold grow at succeeded ⊢
  split
  · exact ⟨rfl, rfl⟩
  · rename_i refused
    rw [dif_neg refused] at succeeded
    simp at succeeded

@[simp] theorem grow_false (pages : Nat) : memory.grow false pages = (-1, memory) := by
  simp [grow]

theorem grow_true {pages : Nat} (fits : (memory.pages + pages) * stablePageSize < u64Bound) :
    (memory.grow true pages).2.pages = memory.pages + pages ∧ (memory.grow true pages).1 = memory.pages := by
  rw [grow, dif_pos ⟨rfl, fits⟩]
  exact ⟨rfl, rfl⟩

theorem grow_refused {granted : Bool} {pages : Nat} (failed : (memory.grow granted pages).1 < 0) :
    (memory.grow granted pages).2 = memory ∧ (memory.grow granted pages).1 = -1 := by
  unfold grow at failed ⊢
  split
  · rename_i fits
    rw [dif_pos fits] at failed
    simp only at failed
    omega
  · exact ⟨rfl, rfl⟩

end Memory

end IcSqliteVfs.Stable
