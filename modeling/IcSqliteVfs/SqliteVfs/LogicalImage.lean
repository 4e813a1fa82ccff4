import IcSqliteVfs.Stable.Meta

namespace IcSqliteVfs.SqliteVfs

open IcSqliteVfs.Data IcSqliteVfs.Semantics IcSqliteVfs.Stable

/-! # The committed image

SQLite sees a contiguous file.  Logical page `n` lives at `db_base_offset +
n * SQLITE_PAGE_SIZE`; pages in the superblock's zero extents read as zero
whatever their bytes are.
-/

def pageCountForSize (size : Nat) : Nat := divCeil size sqlitePageSize

def extentsMask (extents : List ZeroExtent) (pageNo : Nat) : Bool :=
  extents.any fun extent => extent.lower.toNat ≤ pageNo && pageNo < extent.upper.toNat

def pageIsZeroMasked (block : Superblock) (pageNo : Nat) : Bool := extentsMask block.zeroExtents pageNo

def activePageCount (block : Superblock) : Nat := pageCountForSize block.dbSize.toNat

def pagePhysicalOffset (block : Superblock) (pageNo : Nat) : StoreM Nat := do
  let start ← checkedMul pageNo sqlitePageSize
  checkedAdd block.dbBaseOffset.toNat start

def pageOffsetFor (block : Superblock) (pageNo : Nat) : StoreM Nat :=
  if activePageCount block ≤ pageNo then pure 0 else pagePhysicalOffset block pageNo

def readLogicalPageSlice (block : Superblock) (pageNo inPage count : Nat) : StoreM (List UInt8) :=
  if pageIsZeroMasked block pageNo then pure (List.replicate count 0)
  else do
    let physical ← pageOffsetFor block pageNo
    if physical = 0 then pure (List.replicate count 0)
    else do
      let stableOffset ← checkedAdd physical inPage
      readPreallocated stableOffset count

/-- The copy loop of `read_logical_range`; each turn copies at least one byte,
so `count` turns are enough. -/
def readLogicalPages (block : Superblock) (offset count : Nat) : Nat → Nat → StoreM (List UInt8)
  | 0, _ => pure []
  | turns + 1, copiedTotal =>
      if copiedTotal < count then do
        let absolute ← checkedAdd offset copiedTotal
        let inPage := absolute % sqlitePageSize
        let copied := min (sqlitePageSize - inPage) (count - copiedTotal)
        let piece ← readLogicalPageSlice block (absolute / sqlitePageSize) inPage copied
        let rest ← readLogicalPages block offset count turns (copiedTotal + copied)
        pure (piece ++ rest)
      else pure []

def readLogicalRange (block : Superblock) (offset count : Nat) : StoreM (List UInt8) :=
  if count = 0 then pure []
  else if count ≤ sqlitePageSize - offset % sqlitePageSize then
    readLogicalPageSlice block (offset / sqlitePageSize) (offset % sqlitePageSize) count
  else readLogicalPages block offset count count 0

/-- The destination's bytes and the completeness flag. -/
def readBaseAtWithBlock (block : Superblock) (offset count : Nat) : StoreM (List UInt8 × Bool) :=
  if count = 0 then pure ([], true)
  else if block.dbSize.toNat ≤ offset then pure (List.replicate count 0, false)
  else if count ≤ block.dbSize.toNat - offset then do
    let bytes ← readLogicalRange block offset count
    pure (bytes, true)
  else do
    let copied := min count (block.dbSize.toNat - offset)
    let bytes ← readLogicalRange block offset copied
    pure (bytes ++ List.replicate (count - copied) 0, copied == count)

def readBaseAt (offset count : Nat) : StoreM (List UInt8 × Bool) :=
  if count = 0 then pure ([], true)
  else do
    let block ← Superblock.load
    readBaseAtWithBlock block offset count

def readBasePage (pageNo : Nat) : StoreM (List UInt8) := do
  let block ← Superblock.load
  let start ← checkedMul pageNo sqlitePageSize
  let (page, _) ← readBaseAtWithBlock block start sqlitePageSize
  pure page

/-! ## What the reads return -/

def imageByte (memory : Memory) (block : Superblock) (position : Nat) : UInt8 :=
  if pageIsZeroMasked block (position / sqlitePageSize) then 0
  else memory.bytes (block.dbBaseOffset.toNat + position)

/-- The committed logical image of a memory under a superblock. -/
def image (memory : Memory) (block : Superblock) : List UInt8 :=
  (List.range block.dbSize.toNat).map (imageByte memory block)

/-- The image lies behind the superblock and inside the allocated memory. -/
structure Readable (memory : Memory) (block : Superblock) : Prop where
  base : superblockSize ≤ block.dbBaseOffset.toNat
  room : block.dbBaseOffset.toNat + block.dbSize.toNat ≤ memory.capacity

@[simp] theorem length_image (memory : Memory) (block : Superblock) :
    (image memory block).length = block.dbSize.toNat := by
  simp [image]

theorem getD_image (memory : Memory) (block : Superblock) (position : Nat) :
    (image memory block).getD position 0 =
      if position < block.dbSize.toNat then imageByte memory block position else 0 :=
  getD_map_range 0 _ _ _

theorem image_congr {memory other : Memory} {block after : Superblock}
    (size : after.dbSize = block.dbSize)
    (bytes : ∀ position, position < block.dbSize.toNat →
      imageByte other after position = imageByte memory block position) :
    image other after = image memory block := by
  rw [image, image, size]
  exact List.map_congr_left fun position member => bytes position (List.mem_range.mp member)

section Reads

variable {store : Store} {block : Superblock}

theorem readLogicalPageSlice_of (readable : Readable store.memory block) {pageNo inPage count : Nat}
    (inside : inPage + count ≤ sqlitePageSize) (nonempty : 0 < count)
    (below : pageNo * sqlitePageSize + inPage + count ≤ block.dbSize.toNat) :
    readLogicalPageSlice block pageNo inPage count store =
      (.ok (readFrom 0 (image store.memory block) (pageNo * sqlitePageSize + inPage) count), store) := by
  obtain ⟨base, room⟩ := readable
  have page : ∀ index, index < count → (pageNo * sqlitePageSize + inPage + index) / sqlitePageSize = pageNo := by
    simp only [sqlitePageSize] at inside ⊢
    omega
  have content : ∀ index, index < count →
      (image store.memory block).getD (pageNo * sqlitePageSize + inPage + index) 0 =
        imageByte store.memory block (pageNo * sqlitePageSize + inPage + index) := by
    intro index bound
    rw [getD_image, if_pos (by omega)]
  by_cases masked : pageIsZeroMasked block pageNo = true
  · have zeros : readFrom 0 (image store.memory block) (pageNo * sqlitePageSize + inPage) count =
        List.replicate count 0 := by
      apply List.eq_replicate_iff.mpr
      refine ⟨length_readFrom _ _ _ _, ?_⟩
      intro byte member
      obtain ⟨index, bound, rfl⟩ := List.mem_map.mp member
      rw [content index (List.mem_range.mp bound), imageByte, page index (List.mem_range.mp bound), if_pos masked]
    rw [readLogicalPageSlice, if_pos masked, zeros]
    rfl
  · have active : ¬ activePageCount block ≤ pageNo := by
      simp only [activePageCount, pageCountForSize, divCeil, sqlitePageSize] at below ⊢
      omega
    have addressable : store.memory.capacity < u64Bound := store.memory.addressable
    have start : pageNo * sqlitePageSize < u64Bound := by omega
    have fits : block.dbBaseOffset.toNat + pageNo * sqlitePageSize < u64Bound := by omega
    have slice : block.dbBaseOffset.toNat + pageNo * sqlitePageSize + inPage < u64Bound := by omega
    have behind : ¬ block.dbBaseOffset.toNat + pageNo * sqlitePageSize = 0 := by
      simp only [superblockSize, stablePageSize] at base
      omega
    have physical : pageOffsetFor block pageNo store =
        (.ok (block.dbBaseOffset.toNat + pageNo * sqlitePageSize), store) := by
      rw [pageOffsetFor, if_neg active, pagePhysicalOffset, Action.bind_of_ok _ (checkedMul_of start store),
        checkedAdd_of fits]
    rw [readLogicalPageSlice, if_neg masked, Action.bind_of_ok _ physical, if_neg behind,
      Action.bind_of_ok _ (checkedAdd_of slice store), readPreallocated_of (by omega)]
    refine congrArg (fun bytes => (Outcome.ok bytes, store)) (List.map_congr_left ?_)
    intro index member
    have bound := List.mem_range.mp member
    rw [content index bound, imageByte, page index bound, if_neg masked]
    congr 1
    omega

theorem readLogicalPages_of (readable : Readable store.memory block) {offset count : Nat}
    (below : offset + count ≤ block.dbSize.toNat) (turns copiedTotal : Nat)
    (enough : count - copiedTotal ≤ turns) (started : copiedTotal ≤ count) :
    readLogicalPages block offset count turns copiedTotal store =
      (.ok (readFrom 0 (image store.memory block) (offset + copiedTotal) (count - copiedTotal)), store) := by
  induction turns generalizing copiedTotal with
  | zero =>
      have finished : count - copiedTotal = 0 := by omega
      rw [readLogicalPages, finished]
      rfl
  | succ turns ih =>
      rw [readLogicalPages]
      by_cases unfinished : copiedTotal < count
      · have fits : offset + copiedTotal < u64Bound := by
          have bound : block.dbSize.toNat < u64Bound := block.dbSize.toNat_lt
          omega
        rw [if_pos unfinished, Action.bind_of_ok _ (checkedAdd_of fits store)]
        generalize copiedEq : min (sqlitePageSize - (offset + copiedTotal) % sqlitePageSize)
          (count - copiedTotal) = copied
        have progress : 0 < copied ∧ copiedTotal + copied ≤ count ∧
            (offset + copiedTotal) % sqlitePageSize + copied ≤ sqlitePageSize := by
          simp only [sqlitePageSize] at copiedEq ⊢
          omega
        obtain ⟨positive, within, inside⟩ := progress
        have position : (offset + copiedTotal) / sqlitePageSize * sqlitePageSize +
            (offset + copiedTotal) % sqlitePageSize = offset + copiedTotal := by
          simp only [sqlitePageSize]
          omega
        have piece := readLogicalPageSlice_of readable inside positive (by rw [position]; omega)
        have split : count - copiedTotal = copied + (count - (copiedTotal + copied)) := by omega
        rw [position] at piece
        rw [Action.bind_of_ok _ piece, Action.bind_of_ok _ (ih (copiedTotal + copied) (by omega) within),
          split, readFrom_append, Nat.add_assoc offset copiedTotal copied]
        rfl
      · have finished : count - copiedTotal = 0 := by omega
        rw [if_neg unfinished, finished]
        rfl

theorem readLogicalRange_of (readable : Readable store.memory block) {offset count : Nat}
    (below : offset + count ≤ block.dbSize.toNat) :
    readLogicalRange block offset count store =
      (.ok (readFrom 0 (image store.memory block) offset count), store) := by
  rw [readLogicalRange]
  by_cases none : count = 0
  · rw [if_pos none, none]
    rfl
  · rw [if_neg none]
    have position : offset / sqlitePageSize * sqlitePageSize + offset % sqlitePageSize = offset := by
      simp only [sqlitePageSize]
      omega
    by_cases single : count ≤ sqlitePageSize - offset % sqlitePageSize
    · have inside : offset % sqlitePageSize + count ≤ sqlitePageSize := by
        simp only [sqlitePageSize] at single ⊢
        omega
      have slice := readLogicalPageSlice_of readable inside (Nat.pos_of_ne_zero none)
        (by rw [position]; omega)
      rw [if_pos single, slice, position]
    · have pages := readLogicalPages_of readable below count 0 (by omega) (by omega)
      rw [if_neg single, pages]
      rfl

/-- Reading through a superblock is reading its image, zero-filled past the
end, with the flag cleared exactly when a requested byte is past the end. -/
theorem readBaseAtWithBlock_of (readable : Readable store.memory block) (offset count : Nat) :
    readBaseAtWithBlock block offset count store =
      (.ok (readFrom 0 (image store.memory block) offset count,
        decide (count = 0 ∨ offset + count ≤ block.dbSize.toNat)), store) := by
  rw [readBaseAtWithBlock]
  by_cases none : count = 0
  · rw [if_pos none, none]
    rfl
  · rw [if_neg none]
    by_cases past : block.dbSize.toNat ≤ offset
    · have zeros : readFrom 0 (image store.memory block) offset count = List.replicate count 0 := by
        refine List.eq_replicate_iff.mpr ⟨length_readFrom _ _ _ _, ?_⟩
        intro byte member
        obtain ⟨index, _, rfl⟩ := List.mem_map.mp member
        exact getD_past 0 (by rw [length_image]; omega)
      have short : ¬ (count = 0 ∨ offset + count ≤ block.dbSize.toNat) := by omega
      rw [if_pos past, zeros, decide_eq_false short]
      rfl
    · rw [if_neg past]
      by_cases whole : count ≤ block.dbSize.toNat - offset
      · have complete : count = 0 ∨ offset + count ≤ block.dbSize.toNat := by omega
        rw [if_pos whole, Action.bind_of_ok _ (readLogicalRange_of readable (by omega)),
          decide_eq_true complete]
        rfl
      · have short : ¬ (count = 0 ∨ offset + count ≤ block.dbSize.toNat) := by omega
        rw [if_neg whole]
        generalize copiedEq : min count (block.dbSize.toNat - offset) = copied
        have split : count = copied + (count - copied) := by omega
        have cut : (copied == count) = false := beq_eq_false_iff_ne.mpr (by omega)
        have zeros : readFrom 0 (image store.memory block) (offset + copied) (count - copied) =
            List.replicate (count - copied) 0 := by
          refine List.eq_replicate_iff.mpr ⟨length_readFrom _ _ _ _, ?_⟩
          intro byte member
          obtain ⟨index, _, rfl⟩ := List.mem_map.mp member
          exact getD_past 0 (by rw [length_image]; omega)
        have joined : readFrom 0 (image store.memory block) offset count =
            readFrom 0 (image store.memory block) offset copied ++ List.replicate (count - copied) 0 := by
          conv => lhs; rw [split]
          rw [readFrom_append, zeros]
        rw [Action.bind_of_ok _ (readLogicalRange_of readable (by omega)), joined, decide_eq_false short, cut]
        rfl

end Reads

/-- A store from which every load returns this block and every read returns
this image. -/
structure Serves (store : Store) (block : Superblock) (base : List UInt8) : Prop where
  coherent : Superblock.Coherent store block
  readable : Readable store.memory block
  image_eq : image store.memory block = base

variable {store : Store} {block : Superblock} {base : List UInt8}

theorem Serves.warm (serves : Serves store block base) :
    Serves { store with superblockCache := some block } block base :=
  ⟨serves.coherent.warm, serves.readable, serves.image_eq⟩

theorem Serves.size_eq (serves : Serves store block base) : base.length = block.dbSize.toNat := by
  rw [← serves.image_eq, length_image]

theorem Serves.readBasePage_eq (serves : Serves store block base) {pageNo : Nat}
    (fits : pageNo * sqlitePageSize < u64Bound) :
    readBasePage pageNo store =
      (.ok (readFrom 0 base (pageNo * sqlitePageSize) sqlitePageSize),
        { store with superblockCache := some block }) := by
  have warm := serves.warm
  rw [readBasePage, Action.bind_of_ok _ serves.coherent.load_eq, Action.bind_of_ok _ (checkedMul_of fits _),
    Action.bind_of_ok _ (readBaseAtWithBlock_of warm.readable _ _), warm.image_eq]
  rfl

/-! ## The first load of an empty memory -/

theorem validateZeroExtents_fresh : Superblock.fresh.validateZeroExtents = .ok () := rfl

theorem fresh_dbSize : Superblock.fresh.dbSize.toNat = 0 := rfl

theorem fresh_dbBaseOffset : Superblock.fresh.dbBaseOffset.toNat = superblockSize := rfl

theorem serves_fresh (pages : 0 < store.memory.pages) :
    Serves (Superblock.fresh.storedIn store) Superblock.fresh [] where
  coherent := by
    have stored := Superblock.storedIn_coherent pages rfl rfl validateZeroExtents_fresh
    rw [Superblock.stamped_fresh] at stored
    exact stored
  readable := by
    refine ⟨fresh_dbBaseOffset.ge, ?_⟩
    rw [fresh_dbBaseOffset, fresh_dbSize, Nat.add_zero, Superblock.storedIn_capacity]
    exact Nat.le_mul_of_pos_left _ pages
  image_eq := by
    apply List.eq_nil_of_length_eq_zero
    rw [length_image, fresh_dbSize]

/-- The store after a first load that was granted its page. -/
def freshStore : Store :=
  Superblock.fresh.storedIn ⟨(Memory.empty.grow true 1).2, fun _ => true, none⟩

theorem serves_freshStore : Serves freshStore Superblock.fresh [] := serves_fresh (by decide)

/-- A context whose memory was never written. -/
structure Pristine (store : Store) : Prop where
  pages : store.memory.pages = 0
  cache : store.superblockCache = none

/-- The first load stores the fresh block, or is refused the page for it and
leaves the memory empty. -/
theorem Pristine.load_cases (pristine : Pristine store) :
    (∃ after, Superblock.load store = (.ok Superblock.fresh, after) ∧ Serves after Superblock.fresh [] ∧
      after.memory.pages = 1) ∨
    (∃ error after, Superblock.load store = (.err error, after) ∧ Pristine after) := by
  have size : store.memory.size = 0 := pristine.pages
  rcases Superblock.store_cases store validateZeroExtents_fresh with stored | refused
  · obtain ⟨grown, ended, positive, pages, _⟩ := stored
    rw [pristine.pages] at pages
    refine .inl ⟨_, ?_, serves_fresh positive, (Superblock.storedIn_pages _ _).trans pages⟩
    rw [Superblock.load, Action.read_bind_apply]
    simp only [pristine.cache, size, if_true]
    rw [Action.bind_of_ok _ ended]
    rfl
  · obtain ⟨error, after, ended, same⟩ := refused
    refine .inr ⟨error, after, ?_, ?_⟩
    · rw [Superblock.load, Action.read_bind_apply]
      simp only [pristine.cache, size, if_true]
      rw [Action.bind_of_err _ ended]
    · exact ⟨by rw [same.memory]; exact pristine.pages, same.superblockCache.trans pristine.cache⟩

/-- An environment that grants the first page. -/
theorem Pristine.load_granted (pristine : Pristine store) (granted : store.grants 0 = true) :
    ∃ after, Superblock.load store = (.ok Superblock.fresh, after) ∧ Serves after Superblock.fresh [] := by
  have size : store.memory.size = 0 := pristine.pages
  have stored := Superblock.store_granted validateZeroExtents_fresh pristine.pages granted
  rcases pristine.load_cases with loaded | refused
  · obtain ⟨after, ended, serves, _⟩ := loaded
    exact ⟨after, ended, serves⟩
  · obtain ⟨error, after, ended, _⟩ := refused
    cases first : Superblock.fresh.store store with
    | mk outcome next =>
        rw [first] at stored
        obtain rfl : outcome = .ok () := stored
        rw [Superblock.load, Action.read_bind_apply] at ended
        simp only [pristine.cache, size, if_true] at ended
        rw [Action.bind_of_ok _ first] at ended
        cases ended

end IcSqliteVfs.SqliteVfs
