import IcSqliteVfs.SqliteVfs.Commit
import IcSqliteVfs.SqliteVfs.OverlayFile

namespace IcSqliteVfs.SqliteVfs

open IcSqliteVfs.Data IcSqliteVfs.Semantics IcSqliteVfs.Stable

/-! # The image that a commit leaves -/

variable {block : Superblock} {overlay : Overlay} {base file : List UInt8} {store grown : Store}
  {zeroExtents : List ZeroExtent}

/-- Below the end of the file the extent of a changed size only masks pages
the base did not have. -/
theorem resizedExtent_mask {size pageNo : Nat} (bounded : size < u64Bound)
    (below : pageNo < pageCountForSize size)
    (masked : extentsMask (resizedExtent block size) pageNo = true) :
    pageCountForSize block.dbSize.toNat ≤ pageNo := by
  have oldBounded : pageCountForSize block.dbSize.toNat < u64Bound := pageCountForSize_lt block.dbSize.toNat_lt
  have newBounded := pageCountForSize_lt bounded
  have oldValue : (UInt64.ofNat (pageCountForSize block.dbSize.toNat)).toNat =
      pageCountForSize block.dbSize.toNat := UInt64.toNat_ofNat_of_lt' oldBounded
  have newValue : (UInt64.ofNat (pageCountForSize size)).toNat = pageCountForSize size :=
    UInt64.toNat_ofNat_of_lt' newBounded
  rw [resizedExtent] at masked
  by_cases growth : block.dbSize.toNat < size
  · rw [if_pos growth, extentsMask_single, oldValue] at masked
    exact masked.1
  · by_cases shrink : size < block.dbSize.toNat
    · rw [if_neg growth, if_pos shrink, extentsMask_single, newValue] at masked
      omega
    · rw [if_neg growth, if_neg shrink] at masked
      simp [extentsMask] at masked

theorem publishedIn_memory (block : Superblock) (overlay : Overlay) (advanceTx : Bool)
    (zeroExtents : List ZeroExtent) (store : Store) {address : Nat} (past : superblockSize ≤ address)
    (pages : 0 < store.memory.pages) :
    (publishedIn block overlay advanceTx zeroExtents store).memory.bytes address =
      (withCommitPages block (pageCountForSize overlay.size) overlay.pages store.memory).bytes address := by
  have positive : 0 < (withCommitPages block (pageCountForSize overlay.size) overlay.pages
      store.memory).pages := by
    rw [withCommitPages_pages]
    exact pages
  exact Superblock.storedIn_bytes_past _ positive past

/-- What the committed block and memory show is what the overlay showed. -/
theorem imageByte_published (serves : Serves store block base) (advanceTx : Bool)
    (prepared : Prepared block overlay zeroExtents { store with superblockCache := some block } grown)
    {content : Nat → UInt8} (shows : overlay.Shows base overlay.size content)
    (bounded : overlay.size < u64Bound) {position : Nat} (inside : position < overlay.size) :
    imageByte (publishedIn block overlay advanceTx zeroExtents grown).memory
      (committedBlock block advanceTx overlay.size zeroExtents).stamped position = content position := by
  have below := page_lt_pageCountForSize inside
  have fit : PagesFit block (pageCountForSize overlay.size) overlay.pages grown.memory :=
    ⟨shows.pageLength, prepared.pageRoom⟩
  have positive : 0 < grown.memory.pages := serves.coherent.accepted.pages.trans_le prepared.pages
  have baseOffset := serves.readable.base
  obtain ⟨_, _, masks⟩ := zeroExtentsAfterCommit_spec (pageCountForSize_lt bounded)
    serves.coherent.checked.normal prepared.extents
  have masked : pageIsZeroMasked (committedBlock block advanceTx overlay.size zeroExtents).stamped
      (position / sqlitePageSize) = extentsMask zeroExtents (position / sqlitePageSize) := by
    rw [pageIsZeroMasked, Superblock.stamped_zeroExtents, committedBlock_zeroExtents]
  have physical : (committedBlock block advanceTx overlay.size zeroExtents).stamped.dbBaseOffset =
      block.dbBaseOffset := by
    rw [Superblock.stamped_dbBaseOffset, committedBlock_dbBaseOffset]
  have stored := withCommitPages_bytes fit shows.distinct below
  rw [← publishedIn_memory block overlay advanceTx zeroExtents grown (by omega) positive,
    show overlay.pages.lookup _ = overlay.dirtyPage _ from rfl] at stored
  rw [← shows.bytes position inside, imageByte, masked, physical, stored]
  cases dirty : overlay.dirtyPage (position / sqlitePageSize) with
  | some page =>
      have unmasked : ¬ extentsMask zeroExtents (position / sqlitePageSize) = true := by
        rw [masks _ below, dirty]
        simp
      rw [if_neg unmasked, Overlay.byteAt_of_dirty dirty]
  | none =>
      by_cases hidden : overlay.pageIsZeroMasked (position / sqlitePageSize) = true
      · have zeroed : extentsMask zeroExtents (position / sqlitePageSize) = true :=
          (masks _ below).mpr ⟨.inr (.inr hidden), dirty⟩
        rw [if_pos zeroed, Overlay.byteAt_of_masked dirty hidden]
      · -- Neither dirty nor masked: the position was in the base, and its page is as it was.
        have inBase : position < base.length := by
          refine Nat.lt_of_not_le fun past => ?_
          rcases shows.grown position past inside with found | found
          · rw [dirty] at found
            cases found
          · exact hidden found
        have oldPage : position / sqlitePageSize < pageCountForSize block.dbSize.toNat :=
          page_lt_pageCountForSize (serves.size_eq ▸ inBase)
        have same : extentsMask zeroExtents (position / sqlitePageSize) = true ↔
            pageIsZeroMasked block (position / sqlitePageSize) = true := by
          rw [masks _ below]
          constructor
          · intro found
            rcases found.1 with old | resized | overlaid
            · exact old
            · exact absurd (resizedExtent_mask bounded below resized) (by omega)
            · exact absurd overlaid hidden
          · intro old
            exact ⟨.inl old, dirty⟩
        have shown : base.getD position 0 = imageByte store.memory block position := by
          rw [← serves.image_eq, getD_image, if_pos (serves.size_eq ▸ inBase)]
        have bytes : grown.memory.bytes = store.memory.bytes := prepared.bytes
        simp only [Overlay.byteAt, dirty, if_neg hidden, shown, imageByte, bytes, same]

/-- A published commit can be loaded and read, whatever its pages hold. -/
theorem publishedIn_usable (coherent : Superblock.Coherent store block)
    (dbBase : superblockSize ≤ block.dbBaseOffset.toNat) (advanceTx : Bool)
    (prepared : Prepared block overlay zeroExtents { store with superblockCache := some block } grown)
    (bounded : overlay.size < u64Bound) :
    Superblock.Coherent (publishedIn block overlay advanceTx zeroExtents grown)
        (committedBlock block advanceTx overlay.size zeroExtents).stamped ∧
      Readable (publishedIn block overlay advanceTx zeroExtents grown).memory
        (committedBlock block advanceTx overlay.size zeroExtents).stamped := by
  have sizeValue : (UInt64.ofNat overlay.size).toNat = overlay.size := UInt64.toNat_ofNat_of_lt' bounded
  have checked := coherent.checked
  obtain ⟨limit, normal, _⟩ := zeroExtentsAfterCommit_spec (pageCountForSize_lt bounded)
    checked.normal prepared.extents
  have positive : 0 < (withCommitPages block (pageCountForSize overlay.size) overlay.pages
      grown.memory).pages := by
    rw [withCommitPages_pages]
    exact coherent.accepted.pages.trans_le prepared.pages
  refine ⟨?_, ?_, ?_⟩
  · refine Superblock.storedIn_coherent positive ?_ ?_ ?_
    · rw [committedBlock_magic, checked.magic]
    · rw [committedBlock_layoutVersion]
    · rw [Superblock.validateZeroExtents_iff, committedBlock_zeroExtents]
      exact ⟨limit, normal⟩
  · rw [Superblock.stamped_dbBaseOffset, committedBlock_dbBaseOffset]
    exact dbBase
  · rw [Superblock.stamped_dbBaseOffset, committedBlock_dbBaseOffset, Superblock.stamped_dbSize,
      committedBlock_dbSize, sizeValue, publishedIn, Superblock.storedIn_capacity, Memory.capacity,
      withCommitPages_pages]
    exact prepared.imageRoom

theorem publishedIn_serves (serves : Serves store block base) (advanceTx : Bool)
    (prepared : Prepared block overlay zeroExtents { store with superblockCache := some block } grown)
    (shows : overlay.Shows base overlay.size fun position => file.getD position 0)
    (size : overlay.size = file.length) (bounded : overlay.size < u64Bound) :
    Serves (publishedIn block overlay advanceTx zeroExtents grown)
      (committedBlock block advanceTx overlay.size zeroExtents).stamped file := by
  have sizeValue : (UInt64.ofNat overlay.size).toNat = overlay.size := UInt64.toNat_ofNat_of_lt' bounded
  have newSize : (committedBlock block advanceTx overlay.size zeroExtents).stamped.dbSize.toNat =
      overlay.size := by
    rw [Superblock.stamped_dbSize, committedBlock_dbSize, sizeValue]
  obtain ⟨coherent, readable⟩ := publishedIn_usable serves.coherent serves.readable.base advanceTx prepared bounded
  refine ⟨coherent, readable, ?_⟩
  apply ext_getD 0
  · rw [length_image, newSize, size]
  · intro position inside
    rw [length_image, newSize] at inside
    rw [getD_image, newSize, if_pos inside]
    exact imageByte_published serves advanceTx prepared shows bounded inside

end IcSqliteVfs.SqliteVfs
