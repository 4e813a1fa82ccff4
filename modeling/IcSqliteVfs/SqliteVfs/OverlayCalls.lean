import IcSqliteVfs.SqliteVfs.OverlayContents

namespace IcSqliteVfs.SqliteVfs

open IcSqliteVfs.Data IcSqliteVfs.Semantics IcSqliteVfs.Stable

namespace Overlay

/-! # What the overlay calls do to the file they show -/

/-- An overlay without a budget over a store that serves the base image. -/
structure Showing (block : Superblock) (base : List UInt8) (frame : OverlayFrame) (length : Nat)
    (content : Nat → UInt8) : Prop where
  serves : Serves frame.store block base
  unbudgeted : frame.self.writeBudget = none
  shows : frame.self.Shows base length content

/-- Only one page's dirty copy may differ. -/
structure Touches (pageNo : Nat) (before after : Overlay) : Prop where
  size : after.size = before.size
  zeroExtents : after.zeroExtents = before.zeroExtents
  others : ∀ other, other ≠ pageNo → after.dirtyPage other = before.dirtyPage other

theorem Touches.trans {pageNo : Nat} {first second third : Overlay} (left : Touches pageNo first second)
    (right : Touches pageNo second third) : Touches pageNo first third :=
  ⟨right.size.trans left.size, right.zeroExtents.trans left.zeroExtents,
    fun other differs => (right.others other differs).trans (left.others other differs)⟩

theorem Touches.masks {pageNo : Nat} {before after : Overlay} (touches : Touches pageNo before after)
    (other : Nat) : after.pageIsZeroMasked other = before.pageIsZeroMasked other := by
  rw [pageIsZeroMasked, touches.zeroExtents, pageIsZeroMasked]

variable {block : Superblock} {base : List UInt8} {frame : OverlayFrame} {length : Nat} {content : Nat → UInt8}

theorem Showing.congr (showing : Showing block base frame length content) {shown : Nat → UInt8}
    (same : ∀ position, position < length → shown position = content position) :
    Showing block base frame length shown :=
  ⟨showing.serves, showing.unbudgeted, showing.shows.congr same⟩

theorem admitDirtyPage_of (unbudgeted : frame.self.writeBudget = none) :
    admitDirtyPage frame = (.ok (), frame) := by
  rw [admitDirtyPage, Action.read_bind_apply]
  simp only [unbudgeted]
  rfl

/-- The bytes a page becomes dirty with are the ones the file shows there. -/
theorem materializePage_of (showing : Showing block base frame length content) {pageNo : Nat}
    (inside : pageNo < pageCountForSize length) (bounded : length < u64Bound)
    (fresh : frame.self.dirtyPage pageNo = none) :
    Action.Returns (materializePage pageNo) frame fun page after =>
      Showing block base after length content ∧ page.length = sqlitePageSize ∧
      after.self.pages = frame.self.pages ∧ Touches pageNo frame.self after.self ∧
      ∀ position, position < length → position / sqlitePageSize = pageNo →
        page.getD (position % sqlitePageSize) 0 = content position := by
  have fits : pageNo * sqlitePageSize < u64Bound := (pageStart_lt inside).trans bounded
  have basePage : ∀ position, frame.self.pageIsZeroMasked pageNo = false → position < length →
      position / sqlitePageSize = pageNo →
      (readFrom 0 base (pageNo * sqlitePageSize) sqlitePageSize).getD (position % sqlitePageSize) 0 =
        content position := by
    intro position unmasked bound here
    have place : pageNo * sqlitePageSize + position % sqlitePageSize = position := by
      simp only [sqlitePageSize] at here ⊢
      omega
    have inPage : position % sqlitePageSize < sqlitePageSize := Nat.mod_lt _ (by decide)
    rw [getD_readFrom, if_pos inPage, place, ← showing.shows.bytes position bound]
    simp only [byteAt, here, fresh, unmasked, Bool.false_eq_true, if_false]
  rw [materializePage]
  refine Action.returns_after Action.read_apply ?_
  cases masked : frame.self.pageIsZeroMasked pageNo with
  | true =>
      rw [if_pos rfl]
      refine Action.returns_pure ⟨showing, by simp, rfl, ⟨rfl, rfl, fun _ _ => rfl⟩, ?_⟩
      intro position bound here
      rw [getD_replicate, ← showing.shows.bytes position bound]
      exact (byteAt_of_masked (by rw [here]; exact fresh) (by rw [here]; exact masked)).symm
  | false =>
      rw [if_neg (by simp)]
      cases cached : frame.self.cleanPage pageNo with
      | some page =>
          have cachedPage : page = readFrom 0 base (pageNo * sqlitePageSize) sqlitePageSize :=
            showing.shows.clean (pageNo, page) (mem_of_lookup cached)
          refine Action.returns_after rfl ?_
          refine Action.returns_pure ⟨⟨showing.serves, showing.unbudgeted, ?_⟩, ?_, rfl,
            ⟨rfl, rfl, fun _ _ => rfl⟩, ?_⟩
          · exact { showing.shows with
              clean := fun entry member => showing.shows.clean entry (List.mem_of_mem_eraseP member) }
          · rw [cachedPage, length_readFrom]
          · intro position bound here
            rw [cachedPage]
            exact basePage position masked bound here
      | none =>
          refine Action.returns_of (Action.zoom_of (showing.serves.readBasePage_eq fits)) ?_
          exact ⟨⟨showing.serves.warm, showing.unbudgeted, showing.shows⟩, by simp, rfl,
            ⟨rfl, rfl, fun _ _ => rfl⟩, fun position => basePage position masked⟩

theorem loadDirtyPage_of (showing : Showing block base frame length content) {pageNo : Nat}
    (inside : pageNo < pageCountForSize length) (bounded : length < u64Bound) :
    Action.Returns (loadDirtyPage pageNo) frame fun page after =>
      Showing block base after length content ∧ after.self.dirtyPage pageNo = some page ∧
      Touches pageNo frame.self after.self := by
  rw [loadDirtyPage]
  refine Action.returns_after Action.read_apply ?_
  cases stored : frame.self.dirtyPage pageNo with
  | some page => exact Action.returns_pure ⟨showing, stored, rfl, rfl, fun _ _ => rfl⟩
  | none =>
      refine Action.returns_after (admitDirtyPage_of showing.unbudgeted) ?_
      refine Action.Returns.bind (materializePage_of showing inside bounded stored) ?_
      intro page middle materialized
      obtain ⟨shown, size, pages, touches, bytes⟩ := materialized
      have fresh : middle.self.dirtyPage pageNo = none := by
        rw [dirtyPage, pages]
        exact stored
      refine Action.returns_after rfl ?_
      refine Action.returns_pure ⟨⟨shown.serves, shown.unbudgeted, ?_⟩, ?_, ?_⟩
      · exact shown.shows.push fresh inside size bytes fun _ _ _ => rfl
      · rw [dirtyPage, lookup_append_single, ← dirtyPage, fresh, if_pos rfl]
        rfl
      · refine ⟨touches.size, touches.zeroExtents, ?_⟩
        intro other differs
        rw [dirtyPage, lookup_append_single, if_neg differs, Option.or_none]
        exact touches.others other differs

theorem copyIntoPage_of (showing : Showing block base frame length content) {pageNo start : Nat}
    {page source : List UInt8} (dirty : frame.self.dirtyPage pageNo = some page)
    (room : start + source.length ≤ sqlitePageSize) :
    Action.Returns (copyIntoPage pageNo page start source) frame fun _ after =>
      Showing block base after length (overwrite content (pageNo * sqlitePageSize + start) source) ∧
      after.self.dirtyPage pageNo = some (Data.patch page start source) ∧
      Touches pageNo frame.self after.self := by
  have size := showing.shows.dirtyPage_length dirty
  have fits : start + source.length ≤ page.length := by omega
  rw [copyIntoPage]
  refine Action.returns_after (Action.require_of fits) ?_
  refine Action.returns_modify ⟨⟨showing.serves, showing.unbudgeted, showing.shows.patch dirty room⟩, ?_, ?_⟩
  · rw [dirtyPage, lookup_replaceValue dirty, if_pos rfl]
  · refine ⟨rfl, rfl, ?_⟩
    intro other differs
    rw [dirtyPage, lookup_replaceValue dirty, if_neg differs]
    rfl

theorem fillPage_of (showing : Showing block base frame length content) {pageNo start stop : Nat}
    {page : List UInt8} (dirty : frame.self.dirtyPage pageNo = some page) (ordered : start ≤ stop)
    (inPage : stop ≤ sqlitePageSize) :
    Action.Returns (fillPage pageNo page start stop) frame fun _ after =>
      Showing block base after length
        (overwrite content (pageNo * sqlitePageSize + start) (List.replicate (stop - start) 0)) ∧
      after.self.dirtyPage pageNo = some (Data.patch page start (List.replicate (stop - start) 0)) ∧
      Touches pageNo frame.self after.self := by
  rw [fillPage]
  refine Action.returns_after (Action.require_of ordered) ?_
  exact copyIntoPage_of showing dirty (by rw [List.length_replicate]; omega)

/-- Filling with zeroes what is zero already shows the same file. -/
theorem overwrite_zeros {start count : Nat} {position : Nat}
    (zero : start ≤ position → position < start + count → content position = 0) :
    overwrite content start (List.replicate count 0) position = content position := by
  rw [overwrite, List.length_replicate]
  by_cases covered : start ≤ position ∧ position < start + count
  · rw [if_pos covered, getD_replicate, zero covered.1 covered.2]
  · rw [if_neg covered]

/-! ## Growing -/

theorem recordZeroExtent_eq (frame : OverlayFrame) (startPage : Nat) {endPage : Nat} (bounded : endPage < u64Bound) :
    ∃ zeroExtents, recordZeroExtent startPage endPage frame =
        (.ok (), { frame with self := { frame.self with zeroExtents } }) ∧
      ∀ pageNo, extentsMask zeroExtents pageNo =
        (frame.self.pageIsZeroMasked pageNo || (decide (startPage ≤ pageNo) && decide (pageNo < endPage))) := by
  rw [recordZeroExtent]
  by_cases nonempty : startPage < endPage
  · have lower : (UInt64.ofNat startPage).toNat = startPage :=
      UInt64.toNat_ofNat_of_lt' (nonempty.trans bounded)
    have upper : (UInt64.ofNat endPage).toNat = endPage := UInt64.toNat_ofNat_of_lt' bounded
    refine ⟨_, by rw [if_pos nonempty]; rfl, ?_⟩
    intro pageNo
    rw [extentsMask_append, pageIsZeroMasked]
    simp [extentsMask, lower, upper]
  · refine ⟨frame.self.zeroExtents, by rw [if_neg nonempty]; rfl, ?_⟩
    intro pageNo
    have outside : ¬ (startPage ≤ pageNo ∧ pageNo < endPage) := by omega
    rw [← Bool.decide_and, decide_eq_false outside, Bool.or_false]
    rfl

theorem recordZeroExtent_of (showing : Showing block base frame length content) {startPage endPage : Nat}
    (past : pageCountForSize length ≤ startPage) (bounded : endPage < u64Bound) :
    Action.Returns (recordZeroExtent startPage endPage) frame fun _ after =>
      Showing block base after length content ∧ after.self.size = frame.self.size ∧
      ∀ pageNo, startPage ≤ pageNo → pageNo < endPage → after.self.pageIsZeroMasked pageNo = true := by
  obtain ⟨zeroExtents, ended, recorded⟩ := recordZeroExtent_eq frame startPage bounded
  refine Action.returns_of ended ⟨⟨showing.serves, showing.unbudgeted, ?_⟩, rfl, ?_⟩
  · refine showing.shows.remask rfl rfl rfl ?_
    intro pageNo inside
    have before : ¬ startPage ≤ pageNo := by omega
    rw [pageIsZeroMasked, recorded, decide_eq_false before, Bool.false_and, Bool.or_false]
  · intro pageNo above below
    rw [pageIsZeroMasked, recorded, decide_eq_true above, decide_eq_true below]
    simp

theorem zeroedEnd_bounds {oldSize newSize : Nat} (growth : oldSize < newSize) :
    let oldPageEnd := oldSize / sqlitePageSize * sqlitePageSize + sqlitePageSize
    let stop := zeroedEnd (min newSize oldPageEnd) oldPageEnd
    oldSize % sqlitePageSize ≤ stop ∧ stop ≤ sqlitePageSize ∧
      ∀ position, position < newSize → position / sqlitePageSize = oldSize / sqlitePageSize →
        position % sqlitePageSize < stop := by
  intro oldPageEnd stop
  have positive : 0 < sqlitePageSize := by decide
  by_cases whole : oldPageEnd ≤ newSize
  · have stopEq : stop = sqlitePageSize := by
      simp only [stop, zeroedEnd, Nat.min_eq_right whole, if_true]
    rw [stopEq]
    exact ⟨(Nat.mod_lt _ positive).le, Nat.le_refl _, fun position _ _ => Nat.mod_lt _ positive⟩
  · have inside : ¬ newSize = oldPageEnd := by omega
    have stopEq : stop = newSize % sqlitePageSize := by
      simp only [stop, zeroedEnd, Nat.min_eq_left (Nat.not_le.mp whole).le, inside, if_false]
    rw [stopEq]
    simp only [oldPageEnd, sqlitePageSize] at whole ⊢
    refine ⟨by omega, by omega, ?_⟩
    intro position bound here
    omega

/-- The zeroed tail of the old last page and the recorded extents together
carry the file to its new end. -/
theorem zeroOldPartialPage_of {oldSize newSize : Nat} (showing : Showing block base frame oldSize content)
    (growth : oldSize < newSize) (bounded : oldSize < u64Bound)
    (fits : oldSize % sqlitePageSize = 0 ∨ oldSize / sqlitePageSize * sqlitePageSize + sqlitePageSize < u64Bound)
    (zero : ∀ position, oldSize ≤ position → content position = 0)
    (masked : ∀ pageNo, pageCountForSize oldSize ≤ pageNo → pageNo < pageCountForSize newSize →
      frame.self.pageIsZeroMasked pageNo = true) :
    Action.Returns (zeroOldPartialPage oldSize newSize) frame fun _ after =>
      Showing block base after newSize content ∧ after.self.size = frame.self.size := by
  rw [zeroOldPartialPage]
  by_cases aligned : oldSize % sqlitePageSize = 0
  · rw [if_pos aligned]
    refine Action.returns_pure ⟨⟨showing.serves, showing.unbudgeted, ?_⟩, rfl⟩
    refine showing.shows.extend growth.le zero ?_
    intro position past bound
    have beyond : pageCountForSize oldSize ≤ position / sqlitePageSize := by
      simp only [pageCountForSize, divCeil, sqlitePageSize] at aligned ⊢
      omega
    exact .inr ⟨showing.shows.clean_past beyond, masked _ beyond (page_lt_pageCountForSize bound)⟩
  · have roomy := fits.resolve_left aligned
    have start : oldSize / sqlitePageSize * sqlitePageSize < u64Bound := by omega
    have inside : oldSize / sqlitePageSize < pageCountForSize oldSize := by
      simp only [pageCountForSize, divCeil, sqlitePageSize] at aligned ⊢
      omega
    rw [if_neg aligned]
    refine Action.returns_after (checkedMul_of start frame) ?_
    refine Action.returns_after (checkedAdd_of roomy frame) ?_
    obtain ⟨ordered, inPage, reached⟩ := zeroedEnd_bounds growth
    generalize zeroedEnd _ _ = stop at ordered inPage reached ⊢
    refine Action.Returns.bind (loadDirtyPage_of showing inside bounded) ?_
    intro page middle loaded
    obtain ⟨shown, dirty, firstTouch⟩ := loaded
    have size := shown.shows.dirtyPage_length dirty
    refine (fillPage_of shown dirty ordered inPage).imp ?_
    intro _ after filled
    obtain ⟨overwritten, stored, secondTouch⟩ := filled
    have touches := firstTouch.trans secondTouch
    have restored : Showing block base after oldSize content := by
      refine overwritten.congr ?_
      intro position bound
      refine (overwrite_zeros ?_).symm
      intro above _
      refine absurd bound (Nat.not_lt.mpr ?_)
      simp only [sqlitePageSize] at above ⊢
      omega
    refine ⟨⟨restored.serves, restored.unbudgeted, ?_⟩, touches.size⟩
    refine restored.shows.extend growth.le zero ?_
    intro position past bound
    by_cases here : position / sqlitePageSize = oldSize / sqlitePageSize
    · refine .inl ⟨_, by rw [here]; exact stored, ?_⟩
      have low : oldSize % sqlitePageSize ≤ position % sqlitePageSize := by
        simp only [sqlitePageSize] at here ⊢
        omega
      have high := reached position bound here
      have room : oldSize % sqlitePageSize + (List.replicate (stop - oldSize % sqlitePageSize) (0 : UInt8)).length ≤
          page.length := by
        rw [List.length_replicate]
        omega
      rw [getD_patch 0 room, if_pos ⟨low, by rw [List.length_replicate]; omega⟩, getD_replicate]
    · have beyond : pageCountForSize oldSize ≤ position / sqlitePageSize := by
        simp only [pageCountForSize, divCeil, sqlitePageSize] at here ⊢
        omega
      refine .inr ⟨restored.shows.clean_past beyond, ?_⟩
      rw [touches.masks]
      exact masked _ beyond (page_lt_pageCountForSize bound)

theorem zeroNewPartialPage_of {oldSize newSize : Nat} (showing : Showing block base frame newSize content)
    (growth : oldSize < newSize) (bounded : newSize < u64Bound)
    (zero : ∀ position, oldSize ≤ position → content position = 0) :
    Action.Returns (zeroNewPartialPage oldSize newSize) frame fun _ after =>
      Showing block base after newSize content ∧ after.self.size = frame.self.size := by
  rw [zeroNewPartialPage]
  by_cases skipped : newSize % sqlitePageSize = 0 ∨ newSize / sqlitePageSize = oldSize / sqlitePageSize
  · rw [if_pos skipped]
    exact Action.returns_pure ⟨showing, rfl⟩
  · have inside : newSize / sqlitePageSize < pageCountForSize newSize := by
      simp only [pageCountForSize, divCeil, sqlitePageSize] at skipped ⊢
      omega
    have inPage : newSize % sqlitePageSize ≤ sqlitePageSize := (Nat.mod_lt _ (by decide)).le
    rw [if_neg skipped]
    refine Action.Returns.bind (loadDirtyPage_of showing inside bounded) ?_
    intro page middle loaded
    obtain ⟨shown, dirty, firstTouch⟩ := loaded
    refine (fillPage_of shown dirty (Nat.zero_le _) inPage).imp ?_
    intro _ after filled
    obtain ⟨overwritten, _, secondTouch⟩ := filled
    refine ⟨overwritten.congr ?_, (firstTouch.trans secondTouch).size⟩
    intro position _
    refine (overwrite_zeros ?_).symm
    intro above _
    apply zero
    simp only [sqlitePageSize] at skipped above ⊢
    omega

theorem activatePages_of {oldSize newSize : Nat} (showing : Showing block base frame oldSize content)
    (growth : oldSize < newSize) (bounded : newSize < u64Bound)
    (fits : oldSize % sqlitePageSize = 0 ∨ oldSize / sqlitePageSize * sqlitePageSize + sqlitePageSize < u64Bound)
    (zero : ∀ position, oldSize ≤ position → content position = 0) :
    Action.Returns (activatePages oldSize newSize) frame fun _ after =>
      Showing block base after newSize content ∧ after.self.size = frame.self.size := by
  rw [activatePages]
  refine Action.Returns.bind
    (recordZeroExtent_of showing (Nat.le_refl _) (pageCountForSize_lt bounded)) ?_
  intro _ recorded facts
  obtain ⟨shown, firstSize, masked⟩ := facts
  rw [zeroNewlyActivePartialPages, if_neg (Nat.not_le.mpr growth)]
  refine Action.Returns.bind (zeroOldPartialPage_of shown growth (growth.trans bounded) fits zero masked) ?_
  intro _ middle grown
  obtain ⟨longer, secondSize⟩ := grown
  refine (zeroNewPartialPage_of longer growth bounded zero).imp ?_
  intro _ after filled
  exact ⟨filled.1, filled.2.trans (secondSize.trans firstSize)⟩

/-! ## Writing -/

theorem writeFullPage_of (showing : Showing block base frame length content) {pageNo : Nat}
    {bytes : List UInt8} (inside : pageNo < pageCountForSize length) (full : bytes.length = sqlitePageSize) :
    Action.Returns (writeFullPage pageNo bytes) frame fun _ after =>
      Showing block base after length (overwrite content (pageNo * sqlitePageSize) bytes) ∧
      after.self.size = frame.self.size := by
  rw [writeFullPage]
  refine Action.returns_after Action.read_apply ?_
  cases stored : frame.self.dirtyPage pageNo with
  | some page =>
      refine (copyIntoPage_of showing stored (by omega)).imp ?_
      intro _ after copied
      obtain ⟨overwritten, _, touches⟩ := copied
      rw [Nat.add_zero] at overwritten
      exact ⟨overwritten, touches.size⟩
  | none =>
      refine Action.returns_after (admitDirtyPage_of showing.unbudgeted) ?_
      refine Action.returns_modify ⟨⟨showing.serves, showing.unbudgeted, ?_⟩, rfl⟩
      refine showing.shows.push stored inside full ?_ ?_
      · intro position _ here
        rw [overwrite, if_pos (by simp only [sqlitePageSize] at here full ⊢; omega)]
        congr 1
        simp only [sqlitePageSize] at here ⊢
        omega
      · intro position _ elsewhere
        rw [overwrite, if_neg (by simp only [sqlitePageSize] at elsewhere full ⊢; omega)]

theorem writePages_of {offset : Nat} {bytes : List UInt8} (within : offset + bytes.length ≤ length)
    (bounded : length < u64Bound) (turns written : Nat) (enough : bytes.length - written ≤ turns)
    (started : written ≤ bytes.length)
    (showing : Showing block base frame length (overwrite content offset (bytes.take written))) :
    Action.Returns (writePages offset bytes turns written) frame fun _ after =>
      Showing block base after length (overwrite content offset bytes) ∧
      after.self.size = frame.self.size := by
  induction turns generalizing written frame with
  | zero =>
      have finished : written = bytes.length := by omega
      rw [finished, List.take_length] at showing
      exact Action.returns_pure ⟨showing, rfl⟩
  | succ turns ih =>
      rw [writePages]
      by_cases unfinished : written < bytes.length
      · have fits : offset + written < u64Bound := by omega
        rw [if_pos unfinished]
        refine Action.returns_after (checkedAdd_of fits frame) ?_
        dsimp only
        generalize copiedEq : min (sqlitePageSize - (offset + written) % sqlitePageSize)
          (bytes.length - written) = copied
        have progress : 0 < copied ∧ written + copied ≤ bytes.length ∧
            (offset + written) % sqlitePageSize + copied ≤ sqlitePageSize := by
          simp only [sqlitePageSize] at copiedEq ⊢
          omega
        obtain ⟨positive, reached, inPage⟩ := progress
        have piece : (window bytes written copied).length = copied := length_window reached
        have inside : (offset + written) / sqlitePageSize < pageCountForSize length :=
          page_lt_pageCountForSize (by omega)
        refine Action.Returns.bind (loadDirtyPage_of showing inside bounded) ?_
        intro page loaded facts
        obtain ⟨shown, dirty, firstTouch⟩ := facts
        refine Action.Returns.bind (copyIntoPage_of shown dirty (by rw [piece]; exact inPage)) ?_
        intro _ copiedFrame facts
        obtain ⟨overwritten, _, secondTouch⟩ := facts
        have position : (offset + written) / sqlitePageSize * sqlitePageSize +
            (offset + written) % sqlitePageSize = offset + (bytes.take written).length := by
          rw [List.length_take, Nat.min_eq_left started]
          simp only [sqlitePageSize]
          omega
        have joined : bytes.take written ++ window bytes written copied = bytes.take (written + copied) := by
          rw [window, List.take_add]
        rw [position, overwrite_append, joined] at overwritten
        refine (ih (written + copied) (by omega) reached overwritten).imp ?_
        intro _ after facts
        exact ⟨facts.1, facts.2.trans (firstTouch.trans secondTouch).size⟩
      · have finished : written = bytes.length := by omega
        rw [finished, List.take_length] at showing
        rw [if_neg unfinished]
        exact Action.returns_pure ⟨showing, rfl⟩

theorem writeContent_of (showing : Showing block base frame length content) {offset : Nat} {bytes : List UInt8}
    (within : offset + bytes.length ≤ length) (bounded : length < u64Bound) :
    Action.Returns (writeContent offset bytes) frame fun _ after =>
      Showing block base after length (overwrite content offset bytes) ∧
      after.self.size = frame.self.size := by
  rw [writeContent]
  by_cases full : bytes.length = sqlitePageSize ∧ offset % sqlitePageSize = 0
  · have start : offset / sqlitePageSize * sqlitePageSize = offset :=
      Nat.div_mul_cancel (Nat.dvd_of_mod_eq_zero full.2)
    have inside : offset / sqlitePageSize < pageCountForSize length := by
      apply page_lt_pageCountForSize
      simp only [sqlitePageSize] at full
      omega
    have written := writeFullPage_of showing inside full.1
    rw [start] at written
    rw [if_pos full]
    exact written
  · rw [if_neg full]
    refine writePages_of within bounded bytes.length 0 (by omega) (by omega) (showing.congr ?_)
    intro position _
    rw [overwrite, if_neg (by simp only [List.take_zero, List.length_nil]; omega)]

end Overlay

end IcSqliteVfs.SqliteVfs
