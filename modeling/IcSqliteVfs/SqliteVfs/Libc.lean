import IcSqliteVfs.Data.LittleEndian
import IcSqliteVfs.Data.Spans
import IcSqliteVfs.Semantics.Action

namespace IcSqliteVfs.SqliteVfs.Libc

open IcSqliteVfs.Data IcSqliteVfs.Semantics

/-! # The C library that SQLite links against

Allocation passes through to Rust's global allocator, with the size kept in a
header in front of what the caller gets.  Addresses are numbers; null is zero.
-/

/-- The width of `usize`. -/
structure Target where
  usizeBytes : Nat
  positive : 0 < usizeBytes
  narrow : usizeBytes ≤ 16

namespace Target

def wasm32 : Target := ⟨4, by decide, by decide⟩

variable (target : Target)

def usizeBound : Nat := 256 ^ target.usizeBytes

def isizeMax : Nat := target.usizeBound / 2 - 1

end Target

def align : Nat := 16

def header : Nat := 16

/-- A block that may be handed out beside others. -/
structure Suits (target : Target) (blocks : List Span) (block : Span) : Prop where
  nonnull : 0 < block.start
  aligned : block.start % align = 0
  addressable : block.finish ≤ target.usizeBound
  apart : ∀ other ∈ blocks, block.Apart other

/-- Rust's global allocator: it refuses a request or answers it with a block that
suits those that are out.  What it keeps in memory that is not out is its own. -/
structure GlobalAlloc (target : Target) where
  place : List Span → Nat → Nat → Option Nat
  scribble : Nat → Nat → UInt8
  suits : ∀ blocks size turn start, place blocks size turn = some start → Suits target blocks ⟨start, size⟩

/-- Memory, and the blocks that are out. -/
structure Heap where
  bytes : Nat → UInt8
  blocks : List Span
  turn : Nat

/-- What Rust leaves undefined. -/
inductive Fault where
  | undefined
deriving DecidableEq, Repr

abbrev HeapM : Type → Type := Action Heap Fault

section Allocator

variable {target : Target} (allocator : GlobalAlloc target)

/-- The allocator changes nothing of the blocks that are out. -/
def Heap.answered (heap : Heap) : Heap where
  bytes := fun address =>
    if ∃ block ∈ heap.blocks, block.Contains address then heap.bytes address else allocator.scribble heap.turn address
  blocks := heap.blocks
  turn := heap.turn + 1

/-- `std::alloc::alloc`. -/
def alloc (size : Nat) : HeapM Nat := fun heap =>
  let next := heap.answered allocator
  match allocator.place heap.blocks size heap.turn with
  | none => (.ok 0, next)
  | some start => (.ok start, { next with blocks := ⟨start, size⟩ :: heap.blocks })

/-- `std::alloc::dealloc`, for a block that is out with this very layout. -/
def dealloc (start size : Nat) : HeapM Unit := fun heap =>
  if ⟨start, size⟩ ∈ heap.blocks then
    (.ok (), Heap.answered allocator { heap with blocks := heap.blocks.erase ⟨start, size⟩ })
  else (.err .undefined, heap)

/-- `Layout::from_size_align`: the size, rounded up, fits `isize`. -/
def layoutFits (target : Target) (size : Nat) : Prop := size + align ≤ target.isizeMax + 1

instance (target : Target) (size : Nat) : Decidable (layoutFits target size) := inferInstanceAs (Decidable (_ ≤ _))

/-- `std::alloc::realloc`: the caller sees to it that the new size fits. -/
def sysRealloc (start size newSize : Nat) : HeapM Nat := fun heap =>
  if ⟨start, size⟩ ∈ heap.blocks ∧ 0 < newSize ∧ layoutFits target newSize then
    let others := heap.blocks.erase ⟨start, size⟩
    match allocator.place others newSize heap.turn with
    | none => (.ok 0, heap.answered allocator)
    | some newStart =>
        let kept := load heap.bytes start (min size newSize)
        let moved := Heap.answered allocator { heap with blocks := others }
        (.ok newStart, { moved with bytes := save moved.bytes newStart kept, blocks := ⟨newStart, newSize⟩ :: others })
  else (.err .undefined, heap)

end Allocator

/-- Memory may be accessed inside the blocks that are out. -/
def access (span : Span) : HeapM Unit := fun heap =>
  if ∃ block ∈ heap.blocks, block.Includes span then (.ok (), heap) else (.err .undefined, heap)

def writeBytes (start : Nat) (source : List UInt8) : HeapM Unit := do
  access ⟨start, source.length⟩
  Action.modify fun heap => { heap with bytes := save heap.bytes start source }

section Usize

variable (target : Target)

def writeUsize (start value : Nat) : HeapM Unit := writeBytes start (leBytes target.usizeBytes value)

def readUsize (start : Nat) : HeapM Nat := do
  access ⟨start, target.usizeBytes⟩
  let heap ← Action.read
  pure (leValue (load heap.bytes start target.usizeBytes))

def totalSize (size : Nat) : Option Nat := if header + size < target.usizeBound then some (header + size) else none

/-- A size that is no layout ends the process. -/
def layout (size : Nat) : HeapM Nat := if layoutFits target size then pure size else Action.panic

end Usize

/-! ## Allocation -/

section Functions

variable {target : Target} (allocator : GlobalAlloc target)

def malloc (size : Nat) : HeapM Nat :=
  match totalSize target size with
  | none => pure 0
  | some total => do
      let layout ← layout target total
      let base ← alloc allocator layout
      if base = 0 then pure 0
      else do
        writeUsize target base size
        pure (base + header)

def calloc (count size : Nat) : HeapM Nat :=
  if count * size < target.usizeBound then do
    let out ← malloc allocator (count * size)
    if out ≠ 0 then do
      writeBytes out (List.replicate (count * size) 0)
      pure out
    else pure out
  else pure 0

def free (ptr : Nat) : HeapM Unit :=
  if ptr = 0 then pure ()
  else do
    let base := ptr - header
    let size ← readUsize target base
    match totalSize target size with
    | none => pure ()
    | some total => do
        let layout ← layout target total
        dealloc allocator base layout

def realloc (ptr size : Nat) : HeapM Nat :=
  if ptr = 0 then malloc allocator size
  else if size = 0 then do
    free allocator ptr
    pure 0
  else do
    let base := ptr - header
    let oldSize ← readUsize target base
    match totalSize target oldSize with
    | none => pure 0
    | some oldTotal =>
        match totalSize target size with
        | none => pure 0
        | some newTotal => do
            let layout ← layout target oldTotal
            let newBase ← sysRealloc allocator base layout newTotal
            if newBase = 0 then pure 0
            else do
              writeUsize target newBase size
              pure (newBase + header)

end Functions

/-! ## Strings

A pointer leads to the bytes that may be read from it on, or it is null; reading
past them is undefined.
-/

abbrev Pointer := Option (List UInt8)

/-- A loop over memory gives no answer where it would read what it may not. -/
abbrev Reads (α : Type) := Option α

def lowByte (value : Int32) : UInt8 := value.toUInt32.toUInt8

def difference (left right : UInt8) : Int := (left.toNat : Int) - right.toNat

/-- The loop of `compare`. -/
def compareFrom (max : Option Nat) : Nat → List UInt8 → List UInt8 → Reads Int
  | index, left, right =>
      if max.any (· ≤ index) then some 0
      else
        match left, right with
        | l :: left, r :: right =>
            if l ≠ r ∨ l = 0 ∨ r = 0 then some (difference l r) else compareFrom max (index + 1) left right
        | _, _ => none

def compare (max : Option Nat) : Pointer → Pointer → Reads Int
  | none, none => some 0
  | none, some _ => some (-1)
  | some _, none => some 1
  | some left, some right => compareFrom max 0 left right

def strcmp (left right : Pointer) : Reads Int := compare none left right

def strncmp (left right : Pointer) (max : Nat) : Reads Int := compare (some max) left right

/-- The loops below answer with a distance from the pointer they were given. -/
def findFrom (target : UInt8) (includeNul : Bool) : Nat → List UInt8 → Reads (Option Nat)
  | _, [] => none
  | index, byte :: rest =>
      if byte = target ∧ (includeNul = true ∨ byte ≠ 0) then some (some index)
      else if byte = 0 then some none
      else findFrom target includeNul (index + 1) rest

def findForward (input : Pointer) (needle : Int32) (includeNul : Bool) : Reads (Option Nat) :=
  match input with
  | none => some none
  | some bytes => findFrom (lowByte needle) includeNul 0 bytes

def strchr (input : Pointer) (needle : Int32) : Reads (Option Nat) := findForward input needle true

/-- The loop of `strrchr`. -/
def findLastFrom (target : UInt8) : Nat → Option Nat → List UInt8 → Reads (Option Nat)
  | _, _, [] => none
  | index, found, byte :: rest =>
      let found := if byte = target then some index else found
      if byte = 0 then some found else findLastFrom target (index + 1) found rest

def strrchr (input : Pointer) (needle : Int32) : Reads (Option Nat) :=
  match input with
  | none => some none
  | some bytes => findLastFrom (lowByte needle) 0 none bytes

/-- The loop of `memchr`. -/
def findWithin (target : UInt8) : Nat → Nat → List UInt8 → Reads (Option Nat)
  | _, 0, _ => some none
  | _, _ + 1, [] => none
  | index, turns + 1, byte :: rest => if byte = target then some (some index) else findWithin target (index + 1) turns rest

def memchr (input : Pointer) (needle : Int32) (len : Nat) : Reads (Option Nat) :=
  match input with
  | none => some none
  | some bytes => findWithin (lowByte needle) 0 len bytes

def containsByte (needle : UInt8) : List UInt8 → Reads Bool
  | [] => none
  | byte :: rest => if byte = 0 then some false else if byte = needle then some true else containsByte needle rest

/-- The loop of `span`. -/
def spanFrom (set : List UInt8) (acceptMatch : Bool) : Nat → List UInt8 → Reads Nat
  | _, [] => none
  | len, byte :: rest =>
      if byte = 0 then some len
      else do
        let contains ← containsByte byte set
        if contains ≠ acceptMatch then some len else spanFrom set acceptMatch (len + 1) rest

def span (acceptMatch : Bool) : Pointer → Pointer → Reads Nat
  | some input, some set => spanFrom set acceptMatch 0 input
  | _, _ => some 0

def strspn (input accept : Pointer) : Reads Nat := span true input accept

def strcspn (input reject : Pointer) : Reads Nat := span false input reject

end IcSqliteVfs.SqliteVfs.Libc
