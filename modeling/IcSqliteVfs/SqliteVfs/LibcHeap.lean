import IcSqliteVfs.Data.Keyed
import IcSqliteVfs.SqliteVfs.Libc
import IcSqliteVfs.Semantics.Run

namespace IcSqliteVfs.SqliteVfs.Libc

open IcSqliteVfs.Data IcSqliteVfs.Semantics IcSqliteVfs.Semantics.Action

/-! # What a C program may rely on

A program that frees and reallocates what it holds, and writes inside it, sees
its pointers as a map to their contents.
-/

/-- What the program holds: pointers and the bytes behind them. -/
abbrev Held := List (Nat × List UInt8)

def blockOf (entry : Nat × List UInt8) : Span := ⟨entry.1 - header, header + entry.2.length⟩

/-- A pointer that was handed out: its block is out with the layout that `free`
and `realloc` find in the header. -/
structure HeldAt (target : Target) (heap : Heap) (entry : Nat × List UInt8) : Prop where
  aligned : entry.1 % align = 0
  above : header < entry.1
  out : blockOf entry ∈ heap.blocks
  fits : layoutFits target (blockOf entry).length
  size : leValue (load heap.bytes (entry.1 - header) target.usizeBytes) = entry.2.length
  contents : load heap.bytes entry.1 entry.2.length = entry.2

structure Represents (target : Target) (heap : Heap) (held : Held) : Prop where
  apart : heap.blocks.Pairwise Span.Apart
  distinct : (held.map Prod.fst).Nodup
  each : ∀ entry ∈ held, HeldAt target heap entry

/-- These blocks stay out, with what they hold. -/
structure Kept (blocks : List Span) (heap next : Heap) : Prop where
  out : ∀ block ∈ blocks, block ∈ next.blocks
  bytes : ∀ block ∈ blocks, ∀ address, block.Contains address → next.bytes address = heap.bytes address

variable {target : Target} {allocator : GlobalAlloc target} {heap next last : Heap} {held : Held}
  {entry other : Nat × List UInt8} {blocks : List Span} {block : Span}

theorem Kept.refl (within : ∀ block ∈ blocks, block ∈ heap.blocks) : Kept blocks heap heap := ⟨within, fun _ _ _ _ => rfl⟩

theorem Kept.trans (first : Kept blocks heap next) (second : Kept blocks next last) : Kept blocks heap last where
  out := second.out
  bytes block member address inside :=
    (second.bytes block member address inside).trans (first.bytes block member address inside)

theorem Kept.fewer {others : List Span} (kept : Kept blocks heap next) (fewer : ∀ block ∈ others, block ∈ blocks) :
    Kept others heap next where
  out block member := kept.out block (fewer block member)
  bytes block member := kept.bytes block (fewer block member)

theorem HeldAt.payload (heldAt : HeldAt target heap entry) : (blockOf entry).Includes ⟨entry.1, entry.2.length⟩ := by
  have above := heldAt.above
  simp only [Span.Includes, Span.finish, blockOf]
  omega

theorem blockOf_word (target : Target) (entry : Nat × List UInt8) :
    (blockOf entry).Includes ⟨entry.1 - header, target.usizeBytes⟩ := by
  have narrow := target.narrow
  simp only [Span.Includes, Span.finish, blockOf, header]
  omega

theorem HeldAt.kept (heldAt : HeldAt target heap entry) (kept : Kept [blockOf entry] heap next) :
    HeldAt target next entry where
  aligned := heldAt.aligned
  above := heldAt.above
  out := kept.out _ (by simp)
  fits := heldAt.fits
  size := by
    rw [← heldAt.size]
    congr 1
    exact load_congr fun address inside => kept.bytes _ (by simp) address ((blockOf_word target entry).contains inside)
  contents := by
    conv => rhs; rw [← heldAt.contents]
    exact load_congr fun address inside => kept.bytes _ (by simp) address (heldAt.payload.contains inside)

theorem Represents.kept (represents : Represents target heap held) (kept : Kept (held.map blockOf) heap next)
    (apart : next.blocks.Pairwise Span.Apart) : Represents target next held where
  apart := apart
  distinct := represents.distinct
  each entry member := (represents.each entry member).kept
    (kept.fewer fun block single => by simp at single; exact List.mem_map.mpr ⟨entry, member, single.symm⟩)

/-- Two blocks that are out are apart or one. -/
theorem apart_of_mem {first second : Span} (apart : blocks.Pairwise Span.Apart) (member : first ∈ blocks)
    (otherMember : second ∈ blocks) (differ : first ≠ second) : first.Apart second :=
  Span.apart_of_mem_erase apart member ((List.mem_erase_of_ne differ.symm).mpr otherMember)

theorem HeldAt.block_ne (heldAt : HeldAt target heap entry) (otherAt : HeldAt target next other)
    (differ : entry.1 ≠ other.1) : blockOf entry ≠ blockOf other := by
  have above := heldAt.above
  have otherAbove := otherAt.above
  intro same
  have starts := congrArg Span.start same
  simp only [blockOf] at starts
  omega

theorem Represents.cons (represents : Represents target heap held) (heldAt : HeldAt target heap entry)
    (apart : ∀ other ∈ held, (blockOf entry).Apart (blockOf other)) : Represents target heap (entry :: held) where
  apart := represents.apart
  distinct := by
    refine List.nodup_cons.mpr ⟨fun member => ?_, represents.distinct⟩
    obtain ⟨other, otherMember, same⟩ := List.mem_map.mp member
    have separate := apart other otherMember
    simp only [Span.Apart, Span.finish, blockOf, same, header] at separate
    omega
  each other member := by
    rcases List.mem_cons.mp member with rfl | member
    · exact heldAt
    · exact represents.each other member

/-! ## The global allocator -/

theorem kept_answered (allocator : GlobalAlloc target) (heap : Heap) : Kept heap.blocks heap (heap.answered allocator) where
  out _ member := member
  bytes block member address inside := by
    simp only [Heap.answered]
    exact if_pos ⟨block, member, inside⟩

/-- A request is refused, or answered with a block that suits the others. -/
theorem alloc_of (allocator : GlobalAlloc target) (apart : heap.blocks.Pairwise Span.Apart) (size : Nat) :
    ∃ start next, alloc allocator size heap = (.ok start, next) ∧ Kept heap.blocks heap next ∧
      next.blocks.Pairwise Span.Apart ∧
      (start ≠ 0 → ⟨start, size⟩ ∈ next.blocks ∧ Suits target heap.blocks ⟨start, size⟩) := by
  have kept := kept_answered allocator heap
  cases placed : allocator.place heap.blocks size heap.turn with
  | none => exact ⟨0, heap.answered allocator, by simp [alloc, placed], kept, apart, by simp⟩
  | some start =>
      have suits := allocator.suits _ _ _ _ placed
      refine ⟨start, { heap.answered allocator with blocks := ⟨start, size⟩ :: heap.blocks }, by simp only [alloc, placed],
        ?_, ?_, fun _ => ⟨by simp, suits⟩⟩
      · exact ⟨fun block member => List.mem_cons_of_mem _ member, kept.bytes⟩
      · exact List.pairwise_cons.mpr ⟨suits.apart, apart⟩

theorem dealloc_of (allocator : GlobalAlloc target) (apart : heap.blocks.Pairwise Span.Apart) (out : block ∈ heap.blocks) :
    ∃ next, dealloc allocator block.start block.length heap = (.ok (), next) ∧
      Kept (heap.blocks.erase block) heap next ∧ next.blocks.Pairwise Span.Apart := by
  refine ⟨Heap.answered allocator { heap with blocks := heap.blocks.erase block }, if_pos out, ?_,
    apart.sublist List.erase_sublist⟩
  have stays := kept_answered allocator { heap with blocks := heap.blocks.erase block }
  exact ⟨stays.out, stays.bytes⟩

theorem sysRealloc_of (allocator : GlobalAlloc target) (apart : heap.blocks.Pairwise Span.Apart)
    (out : block ∈ heap.blocks) {newSize : Nat} (positive : 0 < newSize) (fits : layoutFits target newSize) :
    ∃ start next, sysRealloc allocator block.start block.length newSize heap = (.ok start, next) ∧
      next.blocks.Pairwise Span.Apart ∧
      (start = 0 → Kept heap.blocks heap next) ∧
      (start ≠ 0 → Kept (heap.blocks.erase block) heap next ∧ ⟨start, newSize⟩ ∈ next.blocks ∧
        Suits target (heap.blocks.erase block) ⟨start, newSize⟩ ∧
        load next.bytes start (min block.length newSize) = load heap.bytes block.start (min block.length newSize)) := by
  have allowed : block ∈ heap.blocks ∧ 0 < newSize ∧ layoutFits target newSize := ⟨out, positive, fits⟩
  have others := apart.sublist (@List.erase_sublist _ _ block heap.blocks)
  cases placed : allocator.place (heap.blocks.erase block) newSize heap.turn with
  | none =>
      refine ⟨0, heap.answered allocator, ?_, apart, fun _ => kept_answered allocator heap, by simp⟩
      rw [sysRealloc, if_pos allowed]
      simp only [placed]
  | some start =>
      have suits := allocator.suits _ _ _ _ placed
      have nonnull := suits.nonnull
      let moved := Heap.answered allocator { heap with blocks := heap.blocks.erase block }
      let kept := load heap.bytes block.start (min block.length newSize)
      refine ⟨start, { moved with bytes := save moved.bytes start kept, blocks := ⟨start, newSize⟩ :: heap.blocks.erase block },
        ?_, List.pairwise_cons.mpr ⟨suits.apart, others⟩, fun zero => absurd zero (Nat.ne_of_gt nonnull), fun _ => ?_⟩
      · rw [sysRealloc, if_pos allowed]
        simp only [placed]
        rfl
      · have stays := kept_answered allocator { heap with blocks := heap.blocks.erase block }
        refine ⟨⟨fun other member => List.mem_cons_of_mem _ member, fun other member address inside => ?_⟩, by simp, suits, ?_⟩
        · have outside := Span.Apart.not_contains (suits.apart other member).symm inside
          rw [← stays.bytes other member address inside]
          apply save_outside
          intro within
          apply outside
          have short : kept.length ≤ newSize := by simp [kept]
          simp only [Span.Contains, Span.finish] at *
          omega
        · have saved : load (save moved.bytes start kept) start kept.length = kept := load_save_self
          simpa only [kept, length_load] using saved

/-! ## Memory that is out -/

theorem writeBytes_of {start : Nat} {source : List UInt8} (out : block ∈ heap.blocks)
    (inside : block.Includes ⟨start, source.length⟩) :
    writeBytes start source heap = (.ok (), { heap with bytes := save heap.bytes start source }) :=
  bind_of_ok _ (if_pos ⟨block, out, inside⟩)

theorem kept_saved {start : Nat} {source : List UInt8} (within : ∀ block ∈ blocks, block ∈ heap.blocks)
    (apart : ∀ block ∈ blocks, block.Apart ⟨start, source.length⟩) :
    Kept blocks heap { heap with bytes := save heap.bytes start source } where
  out := within
  bytes block member _ inside := save_outside (Span.Apart.not_contains (apart block member) inside)

/-- A write inside what a pointer leads to. -/
theorem HeldAt.stored (heldAt : HeldAt target heap entry) {offset : Nat} {source : List UInt8}
    (room : offset + source.length ≤ entry.2.length) :
    HeldAt target { heap with bytes := save heap.bytes (entry.1 + offset) source }
      (entry.1, patch entry.2 offset source) := by
  have above := heldAt.above
  have narrow := target.narrow
  have length : (patch entry.2 offset source).length = entry.2.length := length_patch room
  have sameBlock : blockOf (entry.1, patch entry.2 offset source) = blockOf entry := by rw [blockOf, length, blockOf]
  refine ⟨heldAt.aligned, above, sameBlock ▸ heldAt.out, sameBlock ▸ heldAt.fits, ?_, ?_⟩
  · rw [length, ← heldAt.size]
    congr 1
    exact load_save_apart (by simp only [Span.Apart, Span.finish, header] at *; omega)
  · rw [length]
    have loaded := @load_save_inside _ heap.bytes entry.1 _ source offset room
    rwa [heldAt.contents] at loaded

theorem HeldAt.readUsize (heldAt : HeldAt target heap entry) :
    readUsize target (entry.1 - header) heap = (.ok entry.2.length, heap) := by
  have accessed : access ⟨entry.1 - header, target.usizeBytes⟩ heap = (.ok (), heap) :=
    if_pos ⟨_, heldAt.out, blockOf_word target entry⟩
  rw [Libc.readUsize, bind_of_ok _ accessed, read_bind_apply, heldAt.size]
  rfl

theorem HeldAt.nonnull (heldAt : HeldAt target heap entry) : entry.1 ≠ 0 := by
  have above := heldAt.above
  omega

theorem layoutFits.bound {size : Nat} (fits : layoutFits target size) : size < target.usizeBound := by
  have positive : 0 < target.usizeBound := Nat.pow_pos (by decide)
  simp only [layoutFits, Target.isizeMax, align] at fits
  omega

theorem totalSize_of {size : Nat} (fits : layoutFits target (header + size)) :
    totalSize target size = some (header + size) := if_pos fits.bound

/-! ## The functions -/

/-- The size cannot be had at all, or it is one of a layout. -/
def Reasonable (target : Target) (size : Nat) : Prop :=
  ∀ total, totalSize target size = some total → layoutFits target total

theorem writeUsize_of {start size : Nat} (out : block ∈ heap.blocks) (whole : block = ⟨start, header + size⟩) (value : Nat) :
    writeUsize target start value heap =
      (.ok (), { heap with bytes := save heap.bytes start (leBytes target.usizeBytes value) }) := by
  have narrow := target.narrow
  refine writeBytes_of out ?_
  subst whole
  simp only [Span.Includes, Span.finish, length_leBytes, header]
  omega

/-- A block with its size in the header is a pointer to what lies behind it. -/
theorem heldAt_headed {start size : Nat} (suits : Suits target blocks ⟨start, header + size⟩)
    (out : ⟨start, header + size⟩ ∈ heap.blocks) (fits : layoutFits target (header + size)) :
    let headed : Heap := { heap with bytes := save heap.bytes start (leBytes target.usizeBytes size) }
    HeldAt target headed (start + header, load headed.bytes (start + header) size) := by
  intro headed
  have same : blockOf (start + header, load headed.bytes (start + header) size) = ⟨start, header + size⟩ := by
    simp [blockOf]
  have aligned := suits.aligned
  have nonnull := suits.nonnull
  refine ⟨?_, ?_, same ▸ out, same ▸ fits, ?_, by simp⟩
  · simp only [align, header] at *
    omega
  · simp only at *
    omega
  · have word : size < 256 ^ target.usizeBytes := Nat.lt_of_le_of_lt (Nat.le_add_left _ _) fits.bound
    have loaded : load headed.bytes start (leBytes target.usizeBytes size).length = leBytes target.usizeBytes size :=
      load_save_self
    rw [length_leBytes] at loaded
    rw [Nat.add_sub_cancel, length_load, loaded, leValue_leBytes_of_lt word]

/-- `malloc` answers null, or with a new pointer. -/
theorem malloc_of (allocator : GlobalAlloc target) (apart : heap.blocks.Pairwise Span.Apart) {size : Nat}
    (reasonable : Reasonable target size) :
    ∃ ptr next, malloc allocator size heap = (.ok ptr, next) ∧ Kept heap.blocks heap next ∧
      next.blocks.Pairwise Span.Apart ∧
      (ptr ≠ 0 → HeldAt target next (ptr, load next.bytes ptr size) ∧
        ∀ other ∈ heap.blocks, (blockOf (ptr, load next.bytes ptr size)).Apart other) := by
  cases total : totalSize target size with
  | none => exact ⟨0, heap, by simp [malloc, total], Kept.refl fun _ member => member, apart, by simp⟩
  | some total_ =>
      have fits := reasonable total_ total
      obtain rfl : header + size = total_ := by
        simp only [totalSize, Option.ite_none_right_eq_some, Option.some.injEq] at total
        exact total.2
      obtain ⟨start, next, ended, kept, nextApart, placed⟩ := alloc_of allocator apart (header + size)
      have opened : malloc allocator size heap =
          (if start = 0 then pure 0 else do writeUsize target start size; pure (start + header) : HeapM Nat) next := by
        simp only [malloc, total, layout, fits, if_true]
        exact bind_of_ok _ ended
      by_cases null : start = 0
      · exact ⟨0, next, by rw [opened, if_pos null]; rfl, kept, nextApart, by simp⟩
      · obtain ⟨out, suits⟩ := placed null
        refine ⟨start + header, { next with bytes := save next.bytes start (leBytes target.usizeBytes size) },
          by rw [opened, if_neg null, bind_of_ok _ (writeUsize_of out rfl size)]; rfl, ?_, nextApart, fun _ => ⟨heldAt_headed suits out fits, fun other member => ?_⟩⟩
        · refine kept.trans (kept_saved kept.out fun block member => ?_)
          have separate := suits.apart block member
          have narrow := target.narrow
          simp only [Span.Apart, Span.finish, length_leBytes, header] at *
          omega
        · simpa [blockOf] using suits.apart other member

theorem calloc_of (allocator : GlobalAlloc target) (apart : heap.blocks.Pairwise Span.Apart) {count size : Nat}
    (reasonable : Reasonable target (count * size)) :
    ∃ ptr next, calloc allocator count size heap = (.ok ptr, next) ∧ Kept heap.blocks heap next ∧
      next.blocks.Pairwise Span.Apart ∧
      (ptr ≠ 0 → HeldAt target next (ptr, List.replicate (count * size) 0) ∧
        ∀ other ∈ heap.blocks, (blockOf (ptr, List.replicate (count * size) (0 : UInt8))).Apart other) := by
  by_cases product : count * size < target.usizeBound
  · obtain ⟨ptr, next, ended, kept, nextApart, placed⟩ := malloc_of allocator apart reasonable
    have opened : calloc allocator count size heap =
        (if ptr ≠ 0 then do writeBytes ptr (List.replicate (count * size) 0); pure ptr else pure ptr : HeapM Nat) next := by
      rw [calloc, if_pos product]
      exact bind_of_ok _ ended
    by_cases null : ptr = 0
    · exact ⟨ptr, next, by rw [opened, if_neg (by simp [null])]; rfl, kept, nextApart, fun other => absurd null other⟩
    · obtain ⟨heldAt, separate⟩ := placed null
      have written := @writeBytes_of _ _ ptr (List.replicate (count * size) 0) heldAt.out (by simpa using heldAt.payload)
      have zeroed := @HeldAt.stored _ _ _ heldAt 0 (List.replicate (count * size) 0) (by simp)
      have whole : patch (load next.bytes ptr (count * size)) 0 (List.replicate (count * size) (0 : UInt8)) =
          List.replicate (count * size) 0 := by simp [patch]
      have sameBlock : blockOf (ptr, List.replicate (count * size) (0 : UInt8)) =
          blockOf (ptr, load next.bytes ptr (count * size)) := by simp [blockOf]
      refine ⟨ptr, { next with bytes := save next.bytes ptr (List.replicate (count * size) 0) },
        by rw [opened, if_pos null, bind_of_ok _ written]; rfl, ?_, nextApart, fun _ => ⟨?_, ?_⟩⟩
      · refine kept.trans (kept_saved kept.out fun block member => ?_)
        simpa using (heldAt.payload.apart (separate block member)).symm
      · simpa [whole] using zeroed
      · simpa [sameBlock] using separate
  · exact ⟨0, heap, by rw [calloc, if_neg product]; rfl, Kept.refl fun _ member => member, apart, by simp⟩

theorem free_of (allocator : GlobalAlloc target) (apart : heap.blocks.Pairwise Span.Apart)
    (heldAt : HeldAt target heap entry) :
    ∃ next, free allocator entry.1 heap = (.ok (), next) ∧ Kept (heap.blocks.erase (blockOf entry)) heap next ∧
      next.blocks.Pairwise Span.Apart := by
  obtain ⟨next, ended, kept, nextApart⟩ := dealloc_of allocator apart heldAt.out
  refine ⟨next, ?_, kept, nextApart⟩
  have fits : layoutFits target (header + entry.2.length) := heldAt.fits
  rw [free, if_neg heldAt.nonnull, bind_of_ok _ heldAt.readUsize, totalSize_of fits]
  simp only [layout, fits, if_true]
  exact ended

theorem append_of_take {α : Type} {left right : List α} (same : left.take right.length = right.take left.length) :
    left = right.take left.length ++ left.drop right.length := by
  rcases Nat.le_total left.length right.length with within | past
  · rw [List.take_of_length_le within] at same
    rw [← same, List.drop_eq_nil_of_le within, List.append_nil]
  · conv => lhs; rw [← List.take_append_drop right.length left, same]

/-- A refused `realloc` leaves the pointer as it was; otherwise what fits moves on. -/
theorem realloc_of (allocator : GlobalAlloc target) (apart : heap.blocks.Pairwise Span.Apart)
    (heldAt : HeldAt target heap entry) {size : Nat} (nonzero : size ≠ 0) (reasonable : Reasonable target size) :
    ∃ ptr next, realloc allocator entry.1 size heap = (.ok ptr, next) ∧ next.blocks.Pairwise Span.Apart ∧
      (ptr = 0 → Kept heap.blocks heap next) ∧
      (ptr ≠ 0 → Kept (heap.blocks.erase (blockOf entry)) heap next ∧
        HeldAt target next (ptr, entry.2.take size ++ (load next.bytes ptr size).drop entry.2.length) ∧
        ∀ other ∈ heap.blocks.erase (blockOf entry), (Span.mk (ptr - header) (header + size)).Apart other) := by
  have oldFits : layoutFits target (header + entry.2.length) := heldAt.fits
  cases total : totalSize target size with
  | none =>
      refine ⟨0, heap, ?_, apart, fun _ => Kept.refl fun _ member => member, by simp⟩
      rw [realloc, if_neg heldAt.nonnull, if_neg nonzero, bind_of_ok _ heldAt.readUsize, totalSize_of oldFits, total]
      rfl
  | some total_ =>
      have fits := reasonable total_ total
      obtain rfl : header + size = total_ := by
        simp only [totalSize, Option.ite_none_right_eq_some, Option.some.injEq] at total
        exact total.2
      obtain ⟨start, next, ended, nextApart, refused, moved⟩ :=
        sysRealloc_of allocator apart heldAt.out (show 0 < header + size by simp only [header]; omega) fits
      have opened : realloc allocator entry.1 size heap = (do
          let newBase ← sysRealloc allocator (entry.1 - header) (header + entry.2.length) (header + size)
          if newBase = 0 then pure 0
          else do
            writeUsize target newBase size
            pure (newBase + header) : HeapM Nat) heap := by
        rw [realloc, if_neg heldAt.nonnull, if_neg nonzero, bind_of_ok _ heldAt.readUsize, totalSize_of oldFits, total]
        simp only [layout, oldFits, if_true]
        rfl
      have resumed := opened.trans (bind_of_ok _ ended)
      by_cases null : start = 0
      · exact ⟨0, next, by rw [resumed, if_pos null]; rfl, nextApart, fun _ => refused null, by simp⟩
      · obtain ⟨kept, out, suits, same⟩ := moved null
        have headed := heldAt_headed suits out fits
        refine ⟨start + header, { next with bytes := save next.bytes start (leBytes target.usizeBytes size) },
          by rw [resumed, if_neg null, bind_of_ok _ (writeUsize_of out rfl size)]; rfl, nextApart,
          fun zero => absurd zero (by simp [header]), fun _ => ⟨?_, ?_, ?_⟩⟩
        · refine kept.trans (kept_saved kept.out fun block member => ?_)
          have separate := suits.apart block member
          have narrow := target.narrow
          simp only [Span.Apart, Span.finish, length_leBytes, header] at *
          omega
        · have word : (Span.mk start (leBytes target.usizeBytes size).length).Apart
              ⟨start + header, min (header + entry.2.length) (header + size) - header⟩ := by
            have narrow := target.narrow
            simp only [Span.Apart, Span.finish, length_leBytes, header]
            omega
          have kept := congrArg (List.drop header) same
          simp only [blockOf, drop_load, Nat.sub_add_cancel (Nat.le_of_lt heldAt.above)] at kept
          have moved : (load (save next.bytes start (leBytes target.usizeBytes size)) (start + header) size).take
              entry.2.length = entry.2.take size := by
            conv => rhs; rw [← heldAt.contents]
            rw [take_load, take_load]
            have lengths : min (header + entry.2.length) (header + size) - header = min entry.2.length size := by omega
            rw [← lengths, load_save_apart word, kept, lengths, Nat.min_comm]
          have contents := append_of_take (show (load _ _ size).take entry.2.length = entry.2.take (load _ _ size).length by
            rw [length_load]; exact moved)
          rw [length_load] at contents
          rw [← contents]
          exact headed
        · simpa using suits.apart

/-! ## Programs -/

/-- What happens to the heap: the program calls a function or writes behind one of
its pointers, or the rest of the canister uses the same allocator. -/
inductive HeapCall where
  | malloc (size : Nat)
  | calloc (count size : Nat)
  | free (ptr : Nat)
  | realloc (ptr size : Nat)
  | store (ptr offset : Nat) (source : List UInt8)
  | elsewhere (change : Heap → Heap)

namespace HeapCall

def perform (allocator : GlobalAlloc target) : HeapCall → HeapM Nat
  | .malloc size => Libc.malloc allocator size
  | .calloc count size => Libc.calloc allocator count size
  | .free ptr => do
      Libc.free allocator ptr
      pure 0
  | .realloc ptr size => Libc.realloc allocator ptr size
  | .store ptr offset source => do
      writeBytes (ptr + offset) source
      pure 0
  | .elsewhere change => do
      Action.modify change
      pure 0

def dropped (ptr : Nat) (held : Held) : Held := held.filter fun entry => entry.1 ≠ ptr

/-- What the program holds after a call with this answer. -/
def track (call : HeapCall) (answer : Nat) (heap : Heap) (held : Held) : Held :=
  match call with
  | .malloc size => if answer = 0 then held else (answer, load heap.bytes answer size) :: held
  | .calloc count size => if answer = 0 then held else (answer, List.replicate (count * size) 0) :: held
  | .free ptr => dropped ptr held
  | .realloc ptr size =>
      if ptr ≠ 0 ∧ size = 0 then dropped ptr held
      else if answer = 0 then held
      else
        let contents := (held.lookup ptr).getD []
        (answer, contents.take size ++ (load heap.bytes answer size).drop contents.length) :: dropped ptr held
  | .store ptr offset source =>
      held.map fun entry => if entry.1 = ptr then (ptr, patch entry.2 offset source) else entry
  | .elsewhere _ => held

/-- The program keeps to its pointers, and a size can either be had or not be
counted; whoever else uses the allocator leaves alone what is held. -/
def Allowed (target : Target) : HeapCall → Heap × Held → Prop
  | .malloc size, _ => Reasonable target size
  | .calloc count size, _ => Reasonable target (count * size)
  | .free ptr, (_, held) => ptr = 0 ∨ ptr ∈ held.map Prod.fst
  | .realloc ptr size, (_, held) => (ptr = 0 ∨ ptr ∈ held.map Prod.fst) ∧ Reasonable target size
  | .store ptr offset source, (_, held) => ∃ contents, (ptr, contents) ∈ held ∧ offset + source.length ≤ contents.length
  | .elsewhere change, (heap, held) =>
      Kept (held.map blockOf) heap (change heap) ∧ (change heap).blocks.Pairwise Span.Apart

def step (allocator : GlobalAlloc target) (call : HeapCall) (state : Heap × Held) : Heap × Held :=
  match call.perform allocator state.1 with
  | (.ok answer, next) => (next, call.track answer next state.2)
  | (_, next) => (next, state.2)

/-- The call does nothing undefined, does not end the process, and comes back. -/
def Answers (allocator : GlobalAlloc target) (call : HeapCall) (state : Heap × Held) : Prop :=
  ∃ answer, (call.perform allocator state.1).1 = .ok answer

theorem step_of {call : HeapCall} {answer : Nat} (ended : call.perform allocator heap = (.ok answer, next)) :
    call.step allocator (heap, held) = (next, call.track answer next held) := by
  simp [step, ended]

end HeapCall

theorem Represents.held_kept (represents : Represents target heap held) (kept : Kept heap.blocks heap next)
    (apart : next.blocks.Pairwise Span.Apart) : Represents target next held :=
  represents.kept (kept.fewer fun block member => by
    obtain ⟨entry, entryMember, rfl⟩ := List.mem_map.mp member
    exact (represents.each entry entryMember).out) apart

/-- The other pointers stay valid when the block of one goes. -/
theorem Represents.dropped (represents : Represents target heap held) (member : entry ∈ held)
    (kept : Kept (heap.blocks.erase (blockOf entry)) heap next) (apart : next.blocks.Pairwise Span.Apart) :
    Represents target next (HeapCall.dropped entry.1 held) := by
  have others : ∀ other ∈ HeapCall.dropped entry.1 held, other ∈ held ∧ other.1 ≠ entry.1 := by
    simp [HeapCall.dropped]
  refine ⟨apart, represents.distinct.sublist (List.filter_sublist.map Prod.fst), fun other otherMember => ?_⟩
  obtain ⟨otherHeld, differ⟩ := others other otherMember
  have otherAt := represents.each other otherHeld
  refine otherAt.kept (kept.fewer fun block single => ?_)
  obtain rfl : block = blockOf other := by simpa using single
  exact (List.mem_erase_of_ne (otherAt.block_ne (represents.each entry member) differ)).mpr otherAt.out

theorem Represents.added (represents : Represents target heap held) (kept : Kept heap.blocks heap next)
    (apart : next.blocks.Pairwise Span.Apart) (heldAt : HeldAt target next entry)
    (separate : ∀ other ∈ heap.blocks, (blockOf entry).Apart other) : Represents target next (entry :: held) :=
  (represents.held_kept kept apart).cons heldAt fun other member => separate _ (represents.each other member).out

theorem Represents.lookup (represents : Represents target heap held) {ptr : Nat} (member : ptr ∈ held.map Prod.fst) :
    ∃ contents, (ptr, contents) ∈ held ∧ held.lookup ptr = some contents := by
  obtain ⟨⟨_, contents⟩, entryMember, rfl⟩ := List.mem_map.mp member
  exact ⟨contents, entryMember, lookup_eq_of_mem represents.distinct entryMember⟩

theorem Represents.null (represents : Represents target heap held) : HeapCall.dropped 0 held = held := by
  refine List.filter_eq_self.mpr fun entry member => ?_
  simpa using (represents.each entry member).nonnull

/-- One call: the answer, and the map that the heap then represents. -/
def HeapCall.Sound (allocator : GlobalAlloc target) (call : HeapCall) (heap : Heap) (held : Held) : Prop :=
  ∃ answer next, call.perform allocator heap = (.ok answer, next) ∧ Represents target next (call.track answer next held)

theorem HeapCall.sound_malloc (represents : Represents target heap held) {size : Nat} (reasonable : Reasonable target size) :
    (HeapCall.malloc size).Sound allocator heap held := by
  obtain ⟨ptr, next, ended, kept, apart, placed⟩ := malloc_of allocator represents.apart reasonable
  refine ⟨ptr, next, ended, ?_⟩
  by_cases null : ptr = 0
  · simpa [track, null] using represents.held_kept kept apart
  · obtain ⟨heldAt, separate⟩ := placed null
    simpa [track, null] using represents.added kept apart heldAt separate

theorem HeapCall.sound_calloc (represents : Represents target heap held) {count size : Nat}
    (reasonable : Reasonable target (count * size)) : (HeapCall.calloc count size).Sound allocator heap held := by
  obtain ⟨ptr, next, ended, kept, apart, placed⟩ := calloc_of allocator represents.apart reasonable
  refine ⟨ptr, next, ended, ?_⟩
  by_cases null : ptr = 0
  · simpa [track, null] using represents.held_kept kept apart
  · obtain ⟨heldAt, separate⟩ := placed null
    simpa [track, null] using represents.added kept apart heldAt separate

theorem HeapCall.sound_free (represents : Represents target heap held) {ptr : Nat}
    (valid : ptr = 0 ∨ ptr ∈ held.map Prod.fst) : (HeapCall.free ptr).Sound allocator heap held := by
  rcases valid with rfl | member
  · refine ⟨0, heap, rfl, ?_⟩
    rw [track, represents.null]
    exact represents
  · obtain ⟨contents, entryMember, _⟩ := represents.lookup member
    obtain ⟨next, ended, kept, apart⟩ := free_of allocator represents.apart (represents.each _ entryMember)
    exact ⟨0, next, bind_of_ok _ ended, represents.dropped entryMember kept apart⟩

theorem HeapCall.sound_realloc (represents : Represents target heap held) {ptr size : Nat}
    (valid : ptr = 0 ∨ ptr ∈ held.map Prod.fst) (reasonable : Reasonable target size) :
    (HeapCall.realloc ptr size).Sound allocator heap held := by
  rcases valid with rfl | member
  · obtain ⟨answer, next, ended, kept, apart, placed⟩ := malloc_of allocator represents.apart reasonable
    refine ⟨answer, next, by simpa [perform, Libc.realloc] using ended, ?_⟩
    have unheld : held.lookup 0 = none := by
      refine lookup_eq_none_of.mpr fun member => ?_
      obtain ⟨contents, entryMember, _⟩ := represents.lookup member
      exact (represents.each _ entryMember).nonnull rfl
    by_cases null : answer = 0
    · simpa [track, null] using represents.held_kept kept apart
    · obtain ⟨heldAt, separate⟩ := placed null
      simpa [track, null, unheld, represents.null] using represents.added kept apart heldAt separate
  · obtain ⟨contents, entryMember, found⟩ := represents.lookup member
    have heldAt := represents.each _ entryMember
    have nonnull : ptr ≠ 0 := heldAt.nonnull
    by_cases empty : size = 0
    · obtain ⟨next, ended, kept, apart⟩ := free_of allocator represents.apart heldAt
      refine ⟨0, next, ?_, ?_⟩
      · rw [perform, Libc.realloc, if_neg nonnull, if_pos empty]
        exact bind_of_ok _ ended
      · simpa [track, nonnull, empty] using represents.dropped entryMember kept apart
    · obtain ⟨answer, next, ended, apart, refused, moved⟩ := realloc_of allocator represents.apart heldAt empty reasonable
      refine ⟨answer, next, ended, ?_⟩
      by_cases null : answer = 0
      · simpa [track, null, empty] using represents.held_kept (refused null) apart
      · obtain ⟨kept, newAt, separate⟩ := moved null
        have others := represents.dropped entryMember kept apart
        have added : Represents target next ((answer, contents.take size ++
            (load next.bytes answer size).drop contents.length) :: dropped ptr held) := by
          refine others.cons newAt fun other otherMember => ?_
          have block : blockOf (answer, contents.take size ++ (load next.bytes answer size).drop contents.length) =
              ⟨answer - header, header + size⟩ := by
            simp only [blockOf, List.length_append, List.length_take, List.length_drop, length_load]
            congr 2
            omega
          rw [block]
          have inHeld : other ∈ held ∧ other.1 ≠ ptr := by simpa [dropped] using otherMember
          have otherAt := represents.each other inHeld.1
          exact separate _ ((List.mem_erase_of_ne (otherAt.block_ne heldAt inHeld.2)).mpr otherAt.out)
        simpa [track, null, empty, found] using added

theorem HeapCall.sound_store (represents : Represents target heap held) {ptr offset : Nat} {source contents : List UInt8}
    (member : (ptr, contents) ∈ held) (room : offset + source.length ≤ contents.length) :
    (HeapCall.store ptr offset source).Sound allocator heap held := by
  have heldAt := represents.each _ member
  have inside : (blockOf (ptr, contents)).Includes ⟨ptr + offset, source.length⟩ := by
    have payload := heldAt.payload
    simp only [Span.Includes, Span.finish] at *
    omega
  refine ⟨0, { heap with bytes := save heap.bytes (ptr + offset) source }, bind_of_ok _ (writeBytes_of heldAt.out inside),
    represents.apart, ?_, fun entry entryMember => ?_⟩
  · have keys : ∀ entry : Nat × List UInt8,
        (if entry.1 = ptr then (ptr, patch entry.2 offset source) else entry).1 = entry.1 := by
      intro entry
      split
      · rename_i same
        exact same.symm
      · rfl
    simpa [track, Function.comp_def, keys] using represents.distinct
  · obtain ⟨old, oldMember, rfl⟩ := List.mem_map.mp entryMember
    by_cases same : old.1 = ptr
    · obtain rfl : old = (ptr, contents) := by
        have first := lookup_eq_of_mem represents.distinct member
        have second := lookup_eq_of_mem represents.distinct (show (ptr, old.2) ∈ held from same ▸ oldMember)
        exact Prod.ext same (Option.some.inj (second.symm.trans first))
      simpa using heldAt.stored room
    · have oldAt := represents.each old oldMember
      rw [if_neg same]
      refine oldAt.kept (kept_saved (by simpa using oldAt.out) fun block single => ?_)
      obtain rfl : block = blockOf old := by simpa using single
      exact (inside.apart (apart_of_mem represents.apart heldAt.out oldAt.out
        (heldAt.block_ne oldAt (Ne.symm same)))).symm

theorem HeapCall.sound (allocator : GlobalAlloc target) (call : HeapCall) (represents : Represents target heap held)
    (allowed : call.Allowed target (heap, held)) : call.Sound allocator heap held := by
  cases call with
  | malloc size => exact sound_malloc represents allowed
  | calloc count size => exact sound_calloc represents allowed
  | free ptr => exact sound_free represents allowed
  | realloc ptr size => exact sound_realloc represents allowed.1 allowed.2
  | store ptr offset source =>
      obtain ⟨contents, member, room⟩ := allowed
      exact sound_store represents member room
  | elsewhere change =>
      obtain ⟨kept, apart⟩ := allowed
      exact ⟨0, change heap, rfl, represents.kept kept apart⟩

/-- In every run of a program that keeps to its pointers, whatever the global
allocator answers and whatever else uses it, every call comes back and does
nothing undefined, and in every state the pointers are aligned, their blocks lie
apart and lead to the contents that the program left there: zeros after `calloc`,
and what still fits after `realloc`. -/
theorem c_heap_is_a_map_from_pointers (allocator : GlobalAlloc target) (heap : Heap)
    (apart : heap.blocks.Pairwise Span.Apart) (calls : List HeapCall)
    (allowed : Throughout (HeapCall.step allocator) (HeapCall.Allowed target) calls (heap, [])) :
    Throughout (HeapCall.step allocator) (HeapCall.Answers allocator) calls (heap, []) ∧
      Always (HeapCall.step allocator) (fun state => Represents target state.1 state.2) calls (heap, []) := by
  have start : Represents target heap [] := ⟨apart, by simp, by simp⟩
  have keeps : ∀ (call : HeapCall) (state : Heap × Held), Represents target state.1 state.2 →
      call.Allowed target state →
      Represents target (call.step allocator state).1 (call.step allocator state).2 := by
    rintro call state represents allowedCall
    obtain ⟨answer, next, ended, after⟩ := HeapCall.sound allocator call represents allowedCall
    rw [show call.step allocator state = _ from HeapCall.step_of ended]
    exact after
  have always : Always (HeapCall.step allocator) (fun state => Represents target state.1 state.2) calls (heap, []) :=
    always_of_throughout keeps start allowed
  refine ⟨?_, always⟩
  have both := always.and_throughout allowed
  exact both.imp fun call state known => by
    obtain ⟨answer, next, ended, _⟩ := HeapCall.sound allocator call known.1 known.2
    exact ⟨answer, congrArg Prod.fst ended⟩

/-- The size of a `realloc` is not looked at as that of a `malloc` is: where `malloc`
ends the process, `realloc` asks the allocator for what it may not be asked for. -/
theorem realloc_of_unreasonable (heldAt : HeldAt target heap entry) {size : Nat} (nonzero : size ≠ 0)
    (counted : totalSize target size = some (header + size)) (unreasonable : ¬ layoutFits target (header + size)) :
    malloc allocator size heap = (.panic, heap) ∧ realloc allocator entry.1 size heap = (.err .undefined, heap) := by
  have oldFits : layoutFits target (header + entry.2.length) := heldAt.fits
  refine ⟨by simp [malloc, counted, layout, unreasonable, bind_apply], ?_⟩
  rw [realloc, if_neg heldAt.nonnull, if_neg nonzero, bind_of_ok _ heldAt.readUsize, totalSize_of oldFits, counted]
  simp [layout, oldFits, sysRealloc, unreasonable, bind_apply]

/-- Every block is put behind all others. -/
def behind (blocks : List Span) : Nat := (blocks.foldr (fun block top => max block.finish top) 0 / 16 + 1) * 16

theorem finish_le_behind (member : block ∈ blocks) : block.finish ≤ behind blocks := by
  have below : block.finish ≤ blocks.foldr (fun block top => max block.finish top) 0 := by
    induction blocks with
    | nil => simp at member
    | cons first rest ih =>
        rcases List.mem_cons.mp member with rfl | later
        · exact Nat.le_max_left _ _
        · exact Nat.le_trans (ih later) (Nat.le_max_right _ _)
  rw [behind]
  omega

def bumpAlloc (target : Target) : GlobalAlloc target where
  place blocks size _ := if behind blocks + size ≤ target.usizeBound then some (behind blocks) else none
  scribble _ _ := 170
  suits blocks size turn start placed := by
    simp only [Option.ite_none_right_eq_some, Option.some.injEq] at placed
    obtain ⟨room, rfl⟩ := placed
    refine ⟨Nat.mul_pos (Nat.succ_pos _) (by decide), by simp [behind, align], room, fun other member => .inr (finish_le_behind member)⟩

theorem c_heap_is_a_map_from_pointers_freed :
    let calls : List HeapCall := [.malloc 5, .calloc 2 3, .free 32]
    let start : Heap × Held := (⟨fun _ => 170, [], 0⟩, [])
    Throughout (HeapCall.step (bumpAlloc Target.wasm32)) (HeapCall.Answers (bumpAlloc Target.wasm32)) calls start ∧
      Always (HeapCall.step (bumpAlloc Target.wasm32)) (fun state => Represents Target.wasm32 state.1 state.2) calls start := by
  have small : ∀ size, size < 1000 → Reasonable Target.wasm32 size := by
    intro size bound total counted
    have total_ : total = header + size := by
      have room : header + size < Target.wasm32.usizeBound := by
        simp only [header, Target.usizeBound, Target.wasm32]
        omega
      rw [totalSize, if_pos room] at counted
      exact (Option.some.inj counted).symm
    simp only [total_, header, layoutFits, align, Target.isizeMax, Target.usizeBound, Target.wasm32]
    omega
  exact c_heap_is_a_map_from_pointers (bumpAlloc Target.wasm32) ⟨fun _ => 170, [], 0⟩ List.Pairwise.nil _
    ⟨small 5 (by decide), small 6 (by decide), .inr (by decide), trivial⟩

end IcSqliteVfs.SqliteVfs.Libc
