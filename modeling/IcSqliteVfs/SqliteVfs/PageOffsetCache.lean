import IcSqliteVfs.Data.Keyed
import IcSqliteVfs.SqliteVfs.LogicalImage

namespace IcSqliteVfs.SqliteVfs

open IcSqliteVfs.Data IcSqliteVfs.Semantics IcSqliteVfs.Stable

/-! # Reads through a file's page cache

An open file keeps the physical offsets and the contents of pages it has read.
Both lists are bounded and drop their oldest entry.
-/

def filePageOffsetCacheCapacity : Nat := 64
def filePageDataCacheCapacity : Nat := 8

structure PageOffsetCache where
  entries : List (Nat × Nat)
  pages : List (Nat × List UInt8)
deriving DecidableEq, Repr

/-- A file's cache together with the stable side its reads go to. -/
structure PageCacheFrame where
  pageOffsets : PageOffsetCache
  store : Store

abbrev PageCacheM : Type → Type := Action PageCacheFrame StableMemoryError

namespace PageOffsetCache

def new : PageOffsetCache := ⟨[], []⟩

def get (self : PageOffsetCache) (pageNo : Nat) : Option Nat := self.entries.lookup pageNo

def insert (self : PageOffsetCache) (pageNo physical : Nat) : PageOffsetCache :=
  { self with entries := pushBounded filePageOffsetCacheCapacity self.entries (pageNo, physical) }

def insertPage (self : PageOffsetCache) (pageNo : Nat) (page : List UInt8) : PageOffsetCache :=
  { self with pages := pushBounded filePageDataCacheCapacity self.pages (pageNo, page) }

end PageOffsetCache

section Reads

def onPageStore {α : Type} (call : StoreM α) : PageCacheM α :=
  Action.zoom PageCacheFrame.store (fun store frame => { frame with store }) call

def updatePageOffsets (update : PageOffsetCache → PageOffsetCache) : PageCacheM Unit :=
  Action.modify fun frame => { frame with pageOffsets := update frame.pageOffsets }

/-- The copied bytes, if the page is cached. -/
def copyPageSlice (pageNo inPage count : Nat) : PageCacheM (Option (List UInt8)) := do
  let frame ← Action.read
  match frame.pageOffsets.pages.lookup pageNo with
  | none => pure none
  | some page => do
      Action.require (inPage + count ≤ page.length)
      pure (some (window page inPage count))

def cachedPageOffset (block : Superblock) (pageNo : Nat) : PageCacheM Nat := do
  let frame ← Action.read
  match frame.pageOffsets.get pageNo with
  | some physical => pure physical
  | none => do
      let physical ← onPageStore (pageOffsetFor block pageNo)
      updatePageOffsets fun pageOffsets => pageOffsets.insert pageNo physical
      pure physical

/-- Load the whole page and keep it; the caller gets its part. -/
def loadCachedPage (pageNo physical inPage count : Nat) : PageCacheM (List UInt8) := do
  let page ← onPageStore (readPreallocated physical sqlitePageSize)
  Action.require (inPage + count ≤ page.length)
  updatePageOffsets fun pageOffsets => pageOffsets.insertPage pageNo page
  pure (window page inPage count)

def readLogicalPageSliceWithPageCache (block : Superblock) (pageNo inPage count : Nat) :
    PageCacheM (List UInt8) :=
  if pageIsZeroMasked block pageNo then pure (List.replicate count 0)
  else do
    let copied ← (if count < sqlitePageSize then copyPageSlice pageNo inPage count else pure none)
    match copied with
    | some bytes => pure bytes
    | none => do
        let physical ← cachedPageOffset block pageNo
        if physical = 0 then pure (List.replicate count 0)
        else if inPage = 0 ∧ count = sqlitePageSize then onPageStore (readPreallocated physical count)
        else if count < sqlitePageSize then loadCachedPage pageNo physical inPage count
        else do
          let stableOffset ← checkedAdd physical inPage
          onPageStore (readPreallocated stableOffset count)

/-- The copy loop of `read_logical_range_with_page_cache`. -/
def readLogicalPagesWithPageCache (block : Superblock) (offset count : Nat) :
    Nat → Nat → PageCacheM (List UInt8)
  | 0, _ => pure []
  | turns + 1, copiedTotal =>
      if copiedTotal < count then do
        let absolute ← checkedAdd offset copiedTotal
        let inPage := absolute % sqlitePageSize
        let copied := min (sqlitePageSize - inPage) (count - copiedTotal)
        let piece ← readLogicalPageSliceWithPageCache block (absolute / sqlitePageSize) inPage copied
        let rest ← readLogicalPagesWithPageCache block offset count turns (copiedTotal + copied)
        pure (piece ++ rest)
      else pure []

def readLogicalRangeWithPageCache (block : Superblock) (offset count : Nat) : PageCacheM (List UInt8) :=
  if count ≤ sqlitePageSize - offset % sqlitePageSize then
    readLogicalPageSliceWithPageCache block (offset / sqlitePageSize) (offset % sqlitePageSize) count
  else readLogicalPagesWithPageCache block offset count count 0

def readBaseAtWithPageCache (block : Superblock) (offset count : Nat) : PageCacheM (List UInt8 × Bool) :=
  if count = 0 then pure ([], true)
  else if block.dbSize.toNat ≤ offset then pure (List.replicate count 0, false)
  else if count ≤ block.dbSize.toNat - offset then do
    let bytes ← readLogicalRangeWithPageCache block offset count
    pure (bytes, true)
  else do
    let copied := min count (block.dbSize.toNat - offset)
    let bytes ← readLogicalRangeWithPageCache block offset copied
    pure (bytes ++ List.replicate (count - copied) 0, copied == count)

/-- Reads of an open file, one after the other, whatever each of them returns. -/
def readAllWithPageCache (block : Superblock) : List (UInt64 × Nat) → PageCacheFrame →
    List (Outcome StableMemoryError (List UInt8 × Bool)) × PageCacheFrame
  | [], frame => ([], frame)
  | (offset, count) :: rest, frame =>
      let (outcome, next) := readBaseAtWithPageCache block offset.toNat count frame
      let (outcomes, last) := readAllWithPageCache block rest next
      (outcome :: outcomes, last)

end Reads

/-! ## The cache is coherent -/

/-- What is cached is what the memory says. -/
structure PageOffsetCache.Valid (store : Store) (block : Superblock) (cache : PageOffsetCache) : Prop where
  entries : ∀ entry ∈ cache.entries, entry.2 = block.dbBaseOffset.toNat + entry.1 * sqlitePageSize
  pages : ∀ entry ∈ cache.pages, block.dbBaseOffset.toNat + entry.1 * sqlitePageSize ≠ 0 ∧
    entry.2 = store.memory.read (block.dbBaseOffset.toNat + entry.1 * sqlitePageSize) sqlitePageSize

/-- On every coherent cache the read gives the plain read's outcome, moves
nothing in the store and leaves a coherent cache. -/
def Agrees {α : Type} (store : Store) (block : Superblock) (cached : PageCacheM α) (plain : StoreM α) : Prop :=
  ∀ cache, PageOffsetCache.Valid store block cache →
    ∃ outcome after, cached ⟨cache, store⟩ = (outcome, ⟨after, store⟩) ∧ plain store = (outcome, store) ∧
      PageOffsetCache.Valid store block after

section Agrees

variable {store : Store} {block : Superblock} {α β : Type}

theorem agrees_pure (value : α) : Agrees store block (pure value) (pure value) :=
  fun cache valid => ⟨_, cache, rfl, rfl, valid⟩

theorem Agrees.bind {cached : PageCacheM α} {plain : StoreM α} {cachedRest : α → PageCacheM β}
    {rest : α → StoreM β} (first : Agrees store block cached plain)
    (continues : ∀ value, Agrees store block (cachedRest value) (rest value)) :
    Agrees store block (cached >>= cachedRest) (plain >>= rest) := by
  intro cache valid
  obtain ⟨outcome, after, ended, same, still⟩ := first cache valid
  rw [Action.bind_apply, Action.bind_apply, ended, same]
  cases outcome with
  | ok value => exact continues value after still
  | err error => exact ⟨_, after, rfl, rfl, still⟩
  | panic => exact ⟨_, after, rfl, rfl, still⟩

/-- The image starts on a page boundary and fits the allocated memory. -/
structure Placed (store : Store) (block : Superblock) : Prop where
  aligned : block.dbBaseOffset.toNat % sqlitePageSize = 0
  room : block.dbBaseOffset.toNat + block.dbSize.toNat ≤ store.memory.capacity

/-- Allocation is in units of four pages, so even the last, partial page of the
image can be read whole. -/
theorem Placed.page_room (placed : Placed store block) {pageNo : Nat}
    (active : pageNo * sqlitePageSize < block.dbSize.toNat) :
    block.dbBaseOffset.toNat + pageNo * sqlitePageSize + sqlitePageSize ≤ store.memory.capacity := by
  obtain ⟨aligned, room⟩ := placed
  simp only [Memory.capacity, stablePageSize, sqlitePageSize] at *
  omega

theorem Placed.pageOffsetFor_of (placed : Placed store block) {pageNo : Nat}
    (active : pageNo * sqlitePageSize < block.dbSize.toNat) :
    pageOffsetFor block pageNo store = (.ok (block.dbBaseOffset.toNat + pageNo * sqlitePageSize), store) := by
  have room := placed.page_room active
  have addressable : store.memory.capacity < u64Bound := store.memory.addressable
  have known : ¬ activePageCount block ≤ pageNo := by
    simp only [activePageCount, pageCountForSize, divCeil, sqlitePageSize] at active ⊢
    omega
  have start : pageNo * sqlitePageSize < u64Bound := by omega
  have fits : block.dbBaseOffset.toNat + pageNo * sqlitePageSize < u64Bound := by omega
  rw [pageOffsetFor, if_neg known, pagePhysicalOffset, Action.bind_of_ok _ (checkedMul_of start store),
    checkedAdd_of fits]

theorem window_read (memory : Memory) {start inPage count size : Nat} (inside : inPage + count ≤ size) :
    window (memory.read start size) inPage count = memory.read (start + inPage) count := by
  apply ext_getD (0 : UInt8)
  · rw [length_window (by rw [Memory.length_read]; exact inside), Memory.length_read]
  · intro index _
    rw [getD_window, Memory.getD_read, Memory.getD_read, Nat.add_assoc]
    split
    · rw [if_pos (by omega)]
    · rfl

/-- The bytes of part of a page. -/
def pageBytes (store : Store) (block : Superblock) (pageNo inPage count : Nat) : List UInt8 :=
  if block.dbBaseOffset.toNat + pageNo * sqlitePageSize = 0 then List.replicate count 0
  else store.memory.read (block.dbBaseOffset.toNat + pageNo * sqlitePageSize + inPage) count

theorem Placed.readLogicalPageSlice_eq (placed : Placed store block) {pageNo inPage count : Nat}
    (inside : inPage + count ≤ sqlitePageSize) (active : pageNo * sqlitePageSize < block.dbSize.toNat)
    (unmasked : ¬ pageIsZeroMasked block pageNo = true) :
    readLogicalPageSlice block pageNo inPage count store = (.ok (pageBytes store block pageNo inPage count), store) := by
  have room := placed.page_room active
  have addressable : store.memory.capacity < u64Bound := store.memory.addressable
  rw [readLogicalPageSlice, if_neg unmasked, Action.bind_of_ok _ (placed.pageOffsetFor_of active), pageBytes]
  split
  · rfl
  · have fits : block.dbBaseOffset.toNat + pageNo * sqlitePageSize + inPage < u64Bound := by omega
    rw [Action.bind_of_ok _ (checkedAdd_of fits store), readPreallocated_of (by omega)]

theorem cachedPageOffset_hit {cache : PageOffsetCache} {pageNo physical : Nat}
    (found : cache.get pageNo = some physical) :
    cachedPageOffset block pageNo ⟨cache, store⟩ = (.ok physical, ⟨cache, store⟩) := by
  rw [cachedPageOffset, Action.read_bind_apply]
  simp only [found]
  rfl

/-- A computed offset is kept. -/
theorem cachedPageOffset_miss {cache : PageOffsetCache} {pageNo physical : Nat} (found : cache.get pageNo = none)
    (computed : pageOffsetFor block pageNo store = (.ok physical, store)) :
    cachedPageOffset block pageNo ⟨cache, store⟩ = (.ok physical, ⟨cache.insert pageNo physical, store⟩) := by
  have answered : onPageStore (pageOffsetFor block pageNo) ⟨cache, store⟩ = (.ok physical, ⟨cache, store⟩) :=
    Action.zoom_of computed
  rw [cachedPageOffset, Action.read_bind_apply]
  simp only [found]
  rw [Action.bind_of_ok _ answered]
  rfl

/-- The offset is the page's, cached or computed. -/
theorem Placed.cachedPageOffset_of (placed : Placed store block) {pageNo : Nat}
    (active : pageNo * sqlitePageSize < block.dbSize.toNat) {cache : PageOffsetCache}
    (valid : cache.Valid store block) :
    ∃ after, cachedPageOffset block pageNo ⟨cache, store⟩ =
        (.ok (block.dbBaseOffset.toNat + pageNo * sqlitePageSize), ⟨after, store⟩) ∧ after.Valid store block := by
  cases found : cache.get pageNo with
  | some physical =>
      obtain rfl : physical = block.dbBaseOffset.toNat + pageNo * sqlitePageSize :=
        valid.entries (pageNo, physical) (mem_of_lookup found)
      exact ⟨cache, cachedPageOffset_hit found, valid⟩
  | none =>
      refine ⟨_, cachedPageOffset_miss found (placed.pageOffsetFor_of active), ?_, valid.pages⟩
      intro entry member
      rcases mem_pushBounded member with new | old
      · rw [new]
      · exact valid.entries entry old

/-- A page that is read in part is loaded whole and kept. -/
theorem Placed.loadCachedPage_of (placed : Placed store block) {pageNo inPage count : Nat}
    (inside : inPage + count ≤ sqlitePageSize) (active : pageNo * sqlitePageSize < block.dbSize.toNat)
    (behind : block.dbBaseOffset.toNat + pageNo * sqlitePageSize ≠ 0) {cache : PageOffsetCache}
    (valid : cache.Valid store block) :
    ∃ after, loadCachedPage pageNo (block.dbBaseOffset.toNat + pageNo * sqlitePageSize) inPage count
          ⟨cache, store⟩ =
        (.ok (store.memory.read (block.dbBaseOffset.toNat + pageNo * sqlitePageSize + inPage) count),
          ⟨after, store⟩) ∧ after.Valid store block := by
  have loaded : onPageStore (readPreallocated (block.dbBaseOffset.toNat + pageNo * sqlitePageSize) sqlitePageSize)
      ⟨cache, store⟩ = (.ok (store.memory.read (block.dbBaseOffset.toNat + pageNo * sqlitePageSize)
        sqlitePageSize), ⟨cache, store⟩) :=
    Action.zoom_of (readPreallocated_of (placed.page_room active))
  refine ⟨cache.insertPage pageNo
    (store.memory.read (block.dbBaseOffset.toNat + pageNo * sqlitePageSize) sqlitePageSize), ?_, ⟨valid.entries, ?_⟩⟩
  · rw [loadCachedPage, Action.bind_of_ok _ loaded,
      Action.bind_of_ok _ (Action.require_of (by rw [Memory.length_read]; exact inside)), window_read _ inside]
    rfl
  · intro entry member
    rcases mem_pushBounded member with new | old
    · exact ⟨by rw [new]; exact behind, by rw [new]⟩
    · exact valid.pages entry old

theorem Placed.slice_agrees (placed : Placed store block) {pageNo inPage count : Nat}
    (inside : inPage + count ≤ sqlitePageSize) (active : pageNo * sqlitePageSize < block.dbSize.toNat) :
    Agrees store block (readLogicalPageSliceWithPageCache block pageNo inPage count)
      (readLogicalPageSlice block pageNo inPage count) := by
  intro cache valid
  by_cases masked : pageIsZeroMasked block pageNo = true
  · refine ⟨.ok (List.replicate count 0), cache, ?_, ?_, valid⟩
    · rw [readLogicalPageSliceWithPageCache, if_pos masked]
      rfl
    · rw [readLogicalPageSlice, if_pos masked]
      rfl
  · -- Past the page data cache the page's offset decides.
    have missed : ∃ after, (do
        let physical ← cachedPageOffset block pageNo
        if physical = 0 then pure (List.replicate count 0)
        else if inPage = 0 ∧ count = sqlitePageSize then onPageStore (readPreallocated physical count)
        else if count < sqlitePageSize then loadCachedPage pageNo physical inPage count
        else do
          let stableOffset ← checkedAdd physical inPage
          onPageStore (readPreallocated stableOffset count)) ⟨cache, store⟩ =
            (.ok (pageBytes store block pageNo inPage count), ⟨after, store⟩) ∧ after.Valid store block := by
      obtain ⟨known, ended, still⟩ := placed.cachedPageOffset_of active valid
      rw [Action.bind_of_ok _ ended, pageBytes]
      by_cases front : block.dbBaseOffset.toNat + pageNo * sqlitePageSize = 0
      · rw [if_pos front, if_pos front]
        exact ⟨known, rfl, still⟩
      · rw [if_neg front, if_neg front]
        split
        · rename_i whole
          have read := readPreallocated_of (placed.page_room active)
          refine ⟨known, Action.zoom_of ?_, still⟩
          rw [whole.1, whole.2]
          exact read
        · split
          · exact placed.loadCachedPage_of inside active front still
          · rename_i partial_ short
            exfalso
            apply partial_
            omega
    obtain ⟨after, ended, still⟩ := missed
    rw [readLogicalPageSliceWithPageCache, if_neg masked, placed.readLogicalPageSlice_eq inside active masked]
    by_cases short : count < sqlitePageSize
    · rw [if_pos short]
      cases found : cache.pages.lookup pageNo with
      | some page =>
          obtain ⟨behind, contents⟩ := valid.pages (pageNo, page) (mem_of_lookup found)
          dsimp only at behind contents
          have copied : copyPageSlice pageNo inPage count ⟨cache, store⟩ =
              (.ok (some (pageBytes store block pageNo inPage count)), ⟨cache, store⟩) := by
            rw [copyPageSlice, Action.read_bind_apply]
            simp only [found]
            rw [Action.bind_of_ok _ (Action.require_of (by rw [contents, Memory.length_read]; exact inside)),
              contents, window_read _ inside, pageBytes, if_neg behind]
            rfl
          refine ⟨_, cache, ?_, rfl, valid⟩
          rw [Action.bind_of_ok _ copied]
          rfl
      | none =>
          have absent : copyPageSlice pageNo inPage count ⟨cache, store⟩ = (.ok none, ⟨cache, store⟩) := by
            rw [copyPageSlice, Action.read_bind_apply]
            simp only [found]
            rfl
          refine ⟨_, after, ?_, rfl, still⟩
          rw [Action.bind_of_ok _ absent]
          exact ended
    · rw [if_neg short]
      refine ⟨_, after, ?_, rfl, still⟩
      rw [Action.pure_bind_apply]
      exact ended

theorem Placed.pages_agree (placed : Placed store block) {offset count : Nat}
    (below : offset + count ≤ block.dbSize.toNat) (turns copiedTotal : Nat) :
    Agrees store block (readLogicalPagesWithPageCache block offset count turns copiedTotal)
      (readLogicalPages block offset count turns copiedTotal) := by
  induction turns generalizing copiedTotal with
  | zero => exact agrees_pure []
  | succ turns ih =>
      rw [readLogicalPagesWithPageCache, readLogicalPages]
      by_cases unfinished : copiedTotal < count
      · rw [if_pos unfinished, if_pos unfinished]
        intro cache valid
        have fits : offset + copiedTotal < u64Bound := by
          have bound : block.dbSize.toNat < u64Bound := block.dbSize.toNat_lt
          omega
        rw [Action.bind_of_ok _ (checkedAdd_of fits _), Action.bind_of_ok _ (checkedAdd_of fits _)]
        generalize copiedEq : min (sqlitePageSize - (offset + copiedTotal) % sqlitePageSize)
          (count - copiedTotal) = copied
        have inside : (offset + copiedTotal) % sqlitePageSize + copied ≤ sqlitePageSize := by
          simp only [sqlitePageSize] at copiedEq ⊢
          omega
        have active : (offset + copiedTotal) / sqlitePageSize * sqlitePageSize < block.dbSize.toNat :=
          (Nat.div_mul_le_self _ _).trans_lt (by omega)
        refine (placed.slice_agrees inside active).bind (fun piece => ?_) cache valid
        exact (ih (copiedTotal + copied)).bind fun rest => agrees_pure (piece ++ rest)
      · rw [if_neg unfinished, if_neg unfinished]
        exact agrees_pure []

theorem Placed.range_agrees (placed : Placed store block) {offset count : Nat} (nonempty : count ≠ 0)
    (below : offset + count ≤ block.dbSize.toNat) :
    Agrees store block (readLogicalRangeWithPageCache block offset count) (readLogicalRange block offset count) := by
  rw [readLogicalRangeWithPageCache, readLogicalRange, if_neg nonempty]
  by_cases single : count ≤ sqlitePageSize - offset % sqlitePageSize
  · have inside : offset % sqlitePageSize + count ≤ sqlitePageSize := by
      simp only [sqlitePageSize] at single ⊢
      omega
    rw [if_pos single, if_pos single]
    exact placed.slice_agrees inside ((Nat.div_mul_le_self _ _).trans_lt (by omega))
  · rw [if_neg single, if_neg single]
    exact placed.pages_agree below count 0

theorem Placed.read_agrees (placed : Placed store block) (offset count : Nat) :
    Agrees store block (readBaseAtWithPageCache block offset count) (readBaseAtWithBlock block offset count) := by
  rw [readBaseAtWithPageCache, readBaseAtWithBlock]
  by_cases empty : count = 0
  · rw [if_pos empty, if_pos empty]
    exact agrees_pure ([], true)
  · rw [if_neg empty, if_neg empty]
    by_cases past : block.dbSize.toNat ≤ offset
    · rw [if_pos past, if_pos past]
      exact agrees_pure (List.replicate count 0, false)
    · rw [if_neg past, if_neg past]
      by_cases whole : count ≤ block.dbSize.toNat - offset
      · rw [if_pos whole, if_pos whole]
        exact (placed.range_agrees empty (by omega)).bind fun bytes => agrees_pure (bytes, true)
      · rw [if_neg whole, if_neg whole]
        exact (placed.range_agrees (by omega) (by omega)).bind fun bytes => agrees_pure _

theorem Placed.reads_agree (placed : Placed store block) (reads : List (UInt64 × Nat)) {cache : PageOffsetCache}
    (valid : cache.Valid store block) :
    (readAllWithPageCache block reads ⟨cache, store⟩).1 =
      reads.map fun read => (readBaseAtWithBlock block read.1.toNat read.2 store).1 := by
  induction reads generalizing cache with
  | nil => rfl
  | cons read rest ih =>
      obtain ⟨outcome, after, ended, same, still⟩ := placed.read_agrees read.1.toNat read.2 cache valid
      simp only [readAllWithPageCache, ended, List.map_cons, same]
      rw [ih still]

end Agrees

/-! ## A cache that the memory has moved away from -/

/-- What holds of a cache after other files have written: offsets are those of
the block, and pages have full length. -/
structure PageOffsetCache.Shaped (block : Superblock) (cache : PageOffsetCache) : Prop where
  entries : ∀ entry ∈ cache.entries, entry.2 = block.dbBaseOffset.toNat + entry.1 * sqlitePageSize
  pages : ∀ entry ∈ cache.pages, entry.2.length = sqlitePageSize

theorem PageOffsetCache.shaped_new (block : Superblock) : PageOffsetCache.new.Shaped block := by
  constructor <;> intro entry member <;> cases member

/-- The read returns, and what it returns depends on the cache and the memory alone. -/
def Steadily {α : Type} (memory : Memory) (block : Superblock) (call : PageCacheM α) : Prop :=
  ∀ cache : PageOffsetCache, cache.Shaped block → ∃ value after, PageOffsetCache.Shaped block after ∧
    ∀ store : Store, store.memory = memory → call ⟨cache, store⟩ = (.ok value, ⟨after, store⟩)

section Steadily

variable {memory : Memory} {block : Superblock} {α β : Type}

theorem steadily_pure (value : α) : Steadily memory block (pure value) :=
  fun cache shaped => ⟨value, cache, shaped, fun _ _ => rfl⟩

theorem Steadily.bind {first : PageCacheM α} {rest : α → PageCacheM β} (start : Steadily memory block first)
    (continues : ∀ value, Steadily memory block (rest value)) : Steadily memory block (first >>= rest) := by
  intro cache shaped
  obtain ⟨value, middle, still, ended⟩ := start cache shaped
  obtain ⟨result, after, last, finished⟩ := continues value middle still
  refine ⟨result, after, last, fun store same => ?_⟩
  rw [Action.bind_of_ok _ (ended store same), finished store same]

theorem steadily_checkedAdd {left right : Nat} (fits : left + right < u64Bound) {rest : Nat → PageCacheM α}
    (continues : Steadily memory block (rest (left + right))) :
    Steadily memory block (checkedAdd left right >>= rest) := by
  intro cache shaped
  obtain ⟨result, after, last, finished⟩ := continues cache shaped
  refine ⟨result, after, last, fun store same => ?_⟩
  rw [Action.bind_of_ok _ (checkedAdd_of fits _), finished store same]

theorem steadily_read {offset count : Nat} (room : offset + count ≤ memory.capacity) :
    Steadily memory block (onPageStore (readPreallocated offset count)) := by
  intro cache shaped
  refine ⟨memory.read offset count, cache, shaped, fun store same => ?_⟩
  rw [← same] at room ⊢
  exact Action.zoom_of (readPreallocated_of room)

/-- The image starts on a page boundary and fits this memory. -/
structure Fits (memory : Memory) (block : Superblock) : Prop where
  aligned : block.dbBaseOffset.toNat % sqlitePageSize = 0
  room : block.dbBaseOffset.toNat + block.dbSize.toNat ≤ memory.capacity

theorem Fits.placed (fits : Fits memory block) {store : Store} (same : store.memory = memory) :
    Placed store block := by
  refine ⟨fits.aligned, ?_⟩
  rw [same]
  exact fits.room

theorem Fits.cachedPageOffset (fits : Fits memory block) {pageNo : Nat}
    (active : pageNo * sqlitePageSize < block.dbSize.toNat) {rest : Nat → PageCacheM α}
    (continues : Steadily memory block (rest (block.dbBaseOffset.toNat + pageNo * sqlitePageSize))) :
    Steadily memory block (SqliteVfs.cachedPageOffset block pageNo >>= rest) := by
  have offset : ∀ cache : PageOffsetCache, cache.Shaped block → ∃ after, PageOffsetCache.Shaped block after ∧
      ∀ store : Store, store.memory = memory → SqliteVfs.cachedPageOffset block pageNo ⟨cache, store⟩ =
        (.ok (block.dbBaseOffset.toNat + pageNo * sqlitePageSize), ⟨after, store⟩) := by
    intro cache shaped
    cases found : cache.get pageNo with
    | some physical =>
        obtain rfl : physical = block.dbBaseOffset.toNat + pageNo * sqlitePageSize :=
          shaped.entries (pageNo, physical) (mem_of_lookup found)
        exact ⟨cache, shaped, fun store _ => cachedPageOffset_hit found⟩
    | none =>
        refine ⟨cache.insert pageNo (block.dbBaseOffset.toNat + pageNo * sqlitePageSize), ⟨?_, shaped.pages⟩,
          fun store same => ?_⟩
        · intro entry member
          rcases mem_pushBounded member with new | old
          · rw [new]
          · exact shaped.entries entry old
        · exact cachedPageOffset_miss found ((fits.placed same).pageOffsetFor_of active)
  intro cache shaped
  obtain ⟨middle, still, ended⟩ := offset cache shaped
  obtain ⟨result, after, last, finished⟩ := continues middle still
  refine ⟨result, after, last, fun store same => ?_⟩
  rw [Action.bind_of_ok _ (ended store same), finished store same]

theorem steadily_loadCachedPage {pageNo physical inPage count : Nat}
    (room : physical + sqlitePageSize ≤ memory.capacity) (inside : inPage + count ≤ sqlitePageSize) :
    Steadily memory block (loadCachedPage pageNo physical inPage count) := by
  intro cache shaped
  refine ⟨window (memory.read physical sqlitePageSize) inPage count,
    cache.insertPage pageNo (memory.read physical sqlitePageSize), ⟨shaped.entries, ?_⟩, fun store same => ?_⟩
  · intro entry member
    rcases mem_pushBounded member with new | old
    · rw [new]
      dsimp only
      rw [Memory.length_read]
    · exact shaped.pages entry old
  · rw [← same] at room ⊢
    have loaded : onPageStore (readPreallocated physical sqlitePageSize) ⟨cache, store⟩ =
        (.ok (store.memory.read physical sqlitePageSize), ⟨cache, store⟩) :=
      Action.zoom_of (readPreallocated_of room)
    rw [loadCachedPage, Action.bind_of_ok _ loaded,
      Action.bind_of_ok _ (Action.require_of (by rw [Memory.length_read]; exact inside))]
    rfl

theorem Fits.slice (fits : Fits memory block) {pageNo inPage count : Nat}
    (inside : inPage + count ≤ sqlitePageSize) (active : pageNo * sqlitePageSize < block.dbSize.toNat) :
    Steadily memory block (readLogicalPageSliceWithPageCache block pageNo inPage count) := by
  have room : block.dbBaseOffset.toNat + pageNo * sqlitePageSize + sqlitePageSize ≤ memory.capacity :=
    have placed : Placed ⟨memory, fun _ => false, none⟩ block := fits.placed rfl
    placed.page_room active
  have addressable : memory.capacity < u64Bound := memory.addressable
  rw [readLogicalPageSliceWithPageCache]
  split
  · exact steadily_pure _
  · -- A cached page of full length, or the page's offset.
    have missed : Steadily memory block (do
        let physical ← SqliteVfs.cachedPageOffset block pageNo
        if physical = 0 then pure (List.replicate count 0)
        else if inPage = 0 ∧ count = sqlitePageSize then onPageStore (readPreallocated physical count)
        else if count < sqlitePageSize then loadCachedPage pageNo physical inPage count
        else do
          let stableOffset ← checkedAdd physical inPage
          onPageStore (readPreallocated stableOffset count)) := by
      refine fits.cachedPageOffset active ?_
      split
      · exact steadily_pure _
      · split
        · rename_i whole
          rw [whole.2]
          exact steadily_read room
        · split
          · exact steadily_loadCachedPage room inside
          · exact steadily_checkedAdd (by omega) (steadily_read (by omega))
    by_cases short : count < sqlitePageSize
    · rw [if_pos short]
      intro cache shaped
      cases found : cache.pages.lookup pageNo with
      | some page =>
          have whole := shaped.pages (pageNo, page) (mem_of_lookup found)
          refine ⟨window page inPage count, cache, shaped, fun store _ => ?_⟩
          have copied : copyPageSlice pageNo inPage count ⟨cache, store⟩ =
              (.ok (some (window page inPage count)), ⟨cache, store⟩) := by
            rw [copyPageSlice, Action.read_bind_apply]
            simp only [found]
            rw [Action.bind_of_ok _ (Action.require_of (by rw [whole]; exact inside))]
            rfl
          rw [Action.bind_of_ok _ copied]
          rfl
      | none =>
          obtain ⟨value, after, still, ended⟩ := missed cache shaped
          refine ⟨value, after, still, fun store same => ?_⟩
          have absent : copyPageSlice pageNo inPage count ⟨cache, store⟩ = (.ok none, ⟨cache, store⟩) := by
            rw [copyPageSlice, Action.read_bind_apply]
            simp only [found]
            rfl
          rw [Action.bind_of_ok _ absent]
          exact ended store same
    · rw [if_neg short]
      intro cache shaped
      obtain ⟨value, after, still, ended⟩ := missed cache shaped
      refine ⟨value, after, still, fun store same => ?_⟩
      rw [Action.pure_bind_apply]
      exact ended store same

theorem Fits.pages (fits : Fits memory block) {offset count : Nat} (below : offset + count ≤ block.dbSize.toNat)
    (turns copiedTotal : Nat) :
    Steadily memory block (readLogicalPagesWithPageCache block offset count turns copiedTotal) := by
  induction turns generalizing copiedTotal with
  | zero => exact steadily_pure []
  | succ turns ih =>
      rw [readLogicalPagesWithPageCache]
      split
      · have bound : block.dbSize.toNat < u64Bound := block.dbSize.toNat_lt
        refine steadily_checkedAdd (by omega) ?_
        dsimp only
        generalize copiedEq : min (sqlitePageSize - (offset + copiedTotal) % sqlitePageSize)
          (count - copiedTotal) = copied
        have inside : (offset + copiedTotal) % sqlitePageSize + copied ≤ sqlitePageSize := by
          simp only [sqlitePageSize] at copiedEq ⊢
          omega
        have active : (offset + copiedTotal) / sqlitePageSize * sqlitePageSize < block.dbSize.toNat :=
          (Nat.div_mul_le_self _ _).trans_lt (by omega)
        refine (fits.slice inside active).bind fun piece => ?_
        exact (ih (copiedTotal + copied)).bind fun rest => steadily_pure (piece ++ rest)
      · exact steadily_pure []

theorem Fits.range (fits : Fits memory block) {offset count : Nat} (nonempty : count ≠ 0)
    (below : offset + count ≤ block.dbSize.toNat) :
    Steadily memory block (readLogicalRangeWithPageCache block offset count) := by
  rw [readLogicalRangeWithPageCache]
  split
  · rename_i single
    have inside : offset % sqlitePageSize + count ≤ sqlitePageSize := by
      simp only [sqlitePageSize] at single ⊢
      omega
    exact fits.slice inside ((Nat.div_mul_le_self _ _).trans_lt (by omega))
  · exact fits.pages below count 0

/-- Reads of a snapshot return, however old its cache is. -/
theorem Fits.read (fits : Fits memory block) (offset count : Nat) :
    Steadily memory block (readBaseAtWithPageCache block offset count) := by
  rw [readBaseAtWithPageCache]
  split
  · exact steadily_pure _
  · split
    · exact steadily_pure _
    · split
      · exact (fits.range (by omega) (by omega)).bind fun bytes => steadily_pure (bytes, true)
      · exact (fits.range (by omega) (by omega)).bind fun bytes => steadily_pure _

end Steadily

/-- Reads against one page cache, in any order and however its entries come and
go, return what plain reads of the unchanged memory return. -/
theorem cached_reads_equal_plain_reads (store : Store) (block : Superblock)
    (aligned : block.dbBaseOffset.toNat % sqlitePageSize = 0)
    (room : block.dbBaseOffset.toNat + block.dbSize.toNat ≤ store.memory.pages * stablePageSize)
    (reads : List (UInt64 × Nat)) :
    (readAllWithPageCache block reads ⟨PageOffsetCache.new, store⟩).1 =
      reads.map fun read => (readBaseAtWithBlock block read.1.toNat read.2 store).1 := by
  have placed : Placed store block := ⟨aligned, room⟩
  refine placed.reads_agree reads ⟨?_, ?_⟩
  · intro entry member
    cases member
  · intro entry member
    cases member

/-- An image of a page and a half: a read over the page boundary, the same part
of the last page again, and a read past the end. -/
theorem cached_reads_equal_plain_reads_of_partial_page :
    let store : Store := ⟨(Memory.empty.grow true 2).2, fun _ => true, none⟩
    let block : Superblock := { Superblock.fresh with dbSize := 24576 }
    (readAllWithPageCache block [(16383, 2), (16384, 1), (24575, 2), (30000, 1)] ⟨PageOffsetCache.new, store⟩).1 =
      [(readBaseAtWithBlock block 16383 2 store).1, (readBaseAtWithBlock block 16384 1 store).1,
        (readBaseAtWithBlock block 24575 2 store).1, (readBaseAtWithBlock block 30000 1 store).1] :=
  cached_reads_equal_plain_reads _ _ (by decide) (by decide) _

end IcSqliteVfs.SqliteVfs
