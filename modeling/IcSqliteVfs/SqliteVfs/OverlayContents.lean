import IcSqliteVfs.SqliteVfs.Overlay

namespace IcSqliteVfs.SqliteVfs

open IcSqliteVfs.Data IcSqliteVfs.Semantics IcSqliteVfs.Stable

/-! # What an overlay shows

A position of the overlaid file is answered by the dirty page over it, else by
a zero extent, else by the base image.
-/

theorem pageCountForSize_le_of_le {small large : Nat} (le : small ≤ large) :
    pageCountForSize small ≤ pageCountForSize large := by
  simp only [pageCountForSize, divCeil, sqlitePageSize]
  omega

theorem page_lt_pageCountForSize {position size : Nat} (inside : position < size) :
    position / sqlitePageSize < pageCountForSize size := by
  simp only [pageCountForSize, divCeil, sqlitePageSize]
  omega

theorem pageCountForSize_lt {size : Nat} (bounded : size < u64Bound) : pageCountForSize size < u64Bound := by
  simp only [pageCountForSize, divCeil, sqlitePageSize, u64Bound] at *
  omega

theorem pageStart_lt {pageNo size : Nat} (inside : pageNo < pageCountForSize size) :
    pageNo * sqlitePageSize < size := by
  simp only [pageCountForSize, divCeil, sqlitePageSize] at *
  omega

theorem extentsMask_append (first second : List ZeroExtent) (pageNo : Nat) :
    extentsMask (first ++ second) pageNo = (extentsMask first pageNo || extentsMask second pageNo) := by
  simp [extentsMask, List.any_append]

/-- The contents of a file after its bytes from `start` on are replaced. -/
def overwrite (content : Nat → UInt8) (start : Nat) (source : List UInt8) (position : Nat) : UInt8 :=
  if start ≤ position ∧ position < start + source.length then source.getD (position - start) 0
  else content position

theorem overwrite_append (content : Nat → UInt8) (start : Nat) (first second : List UInt8) :
    overwrite (overwrite content start first) (start + first.length) second =
      overwrite content start (first ++ second) := by
  funext position
  simp only [overwrite, List.length_append, getD_append]
  by_cases inSecond : start + first.length ≤ position ∧ position < start + first.length + second.length
  · have inBoth : start ≤ position ∧ position < start + (first.length + second.length) := by omega
    have past : ¬ position - start < first.length := by omega
    rw [if_pos inSecond, if_pos inBoth, if_neg past]
    congr 1
    omega
  · rw [if_neg inSecond]
    by_cases inFirst : start ≤ position ∧ position < start + first.length
    · rw [if_pos inFirst, if_pos (by omega), if_pos (by omega)]
    · rw [if_neg inFirst, if_neg (by omega)]

namespace Overlay

def byteAt (self : Overlay) (base : List UInt8) (position : Nat) : UInt8 :=
  match self.dirtyPage (position / sqlitePageSize) with
  | some page => page.getD (position % sqlitePageSize) 0
  | none => if self.pageIsZeroMasked (position / sqlitePageSize) then 0 else base.getD position 0

/-- The overlay over `base` is a file whose first `length` bytes are given by
`content`.  Past the end of the base no position is left to the base, so that
stale bytes behind the committed image never show through. -/
structure Shows (overlay : Overlay) (base : List UInt8) (length : Nat) (content : Nat → UInt8) : Prop where
  baseSize : overlay.baseSize = base.length
  pageLength : ∀ entry ∈ overlay.pages, entry.2.length = sqlitePageSize
  pageBound : ∀ entry ∈ overlay.pages, entry.1 < pageCountForSize length
  distinct : (overlay.pages.map Prod.fst).Nodup
  clean : ∀ entry ∈ overlay.cleanPages, entry.2 = readFrom 0 base (entry.1 * sqlitePageSize) sqlitePageSize
  grown : ∀ position, base.length ≤ position → position < length →
    (overlay.dirtyPage (position / sqlitePageSize)).isSome ∨ overlay.pageIsZeroMasked (position / sqlitePageSize)
  bytes : ∀ position, position < length → overlay.byteAt base position = content position

variable {self other : Overlay} {base : List UInt8} {length : Nat} {content : Nat → UInt8}

theorem byteAt_of_dirty {position : Nat} {page : List UInt8}
    (dirty : self.dirtyPage (position / sqlitePageSize) = some page) :
    self.byteAt base position = page.getD (position % sqlitePageSize) 0 := by
  simp only [byteAt, dirty]

theorem byteAt_of_masked {position : Nat} (clean : self.dirtyPage (position / sqlitePageSize) = none)
    (masked : self.pageIsZeroMasked (position / sqlitePageSize) = true) : self.byteAt base position = 0 := by
  simp only [byteAt, clean, masked, if_true]

/-- A position is shown the same by overlays that agree on its page. -/
theorem byteAt_congr {position : Nat}
    (pages : other.dirtyPage (position / sqlitePageSize) = self.dirtyPage (position / sqlitePageSize))
    (masks : other.pageIsZeroMasked (position / sqlitePageSize) =
      self.pageIsZeroMasked (position / sqlitePageSize)) :
    other.byteAt base position = self.byteAt base position := by
  simp only [byteAt, pages, masks]

theorem Shows.dirtyPage_length (shows : self.Shows base length content) {pageNo : Nat} {page : List UInt8}
    (dirty : self.dirtyPage pageNo = some page) : page.length = sqlitePageSize :=
  shows.pageLength (pageNo, page) (mem_of_lookup dirty)

theorem Shows.dirtyPage_bound (shows : self.Shows base length content) {pageNo : Nat} {page : List UInt8}
    (dirty : self.dirtyPage pageNo = some page) : pageNo < pageCountForSize length :=
  shows.pageBound (pageNo, page) (mem_of_lookup dirty)

theorem Shows.clean_past (shows : self.Shows base length content) {pageNo : Nat}
    (past : pageCountForSize length ≤ pageNo) : self.dirtyPage pageNo = none := by
  cases dirty : self.dirtyPage pageNo with
  | none => rfl
  | some page =>
      have bound := shows.dirtyPage_bound dirty
      omega

theorem Shows.congr (shows : self.Shows base length content) {shown : Nat → UInt8}
    (same : ∀ position, position < length → shown position = content position) :
    self.Shows base length shown where
  baseSize := shows.baseSize
  pageLength := shows.pageLength
  pageBound := shows.pageBound
  distinct := shows.distinct
  clean := shows.clean
  grown := shows.grown
  bytes := by
    intro position inside
    rw [shows.bytes position inside, same position inside]

theorem shows_new (base : List UInt8) :
    (Overlay.new base.length).Shows base base.length fun position => base.getD position 0 where
  baseSize := rfl
  pageLength := by simp [Overlay.new]
  pageBound := by simp [Overlay.new]
  distinct := by simp [Overlay.new]
  clean := by simp [Overlay.new]
  grown := by
    intro position past inside
    omega
  bytes := by
    intro position _
    simp [byteAt, Overlay.new, dirtyPage, pageIsZeroMasked, extentsMask]

/-- Push a dirty page; every other page shows what it showed. -/
theorem Shows.push (shows : self.Shows base length content) {shown : Nat → UInt8} {pageNo : Nat}
    {page : List UInt8} (fresh : self.dirtyPage pageNo = none) (inside : pageNo < pageCountForSize length)
    (size : page.length = sqlitePageSize)
    (same : ∀ position, position < length → position / sqlitePageSize = pageNo →
      page.getD (position % sqlitePageSize) 0 = shown position)
    (others : ∀ position, position < length → ¬ position / sqlitePageSize = pageNo →
      shown position = content position) :
    { self with pages := self.pages ++ [(pageNo, page)] }.Shows base length shown := by
  have found : ∀ key, { self with pages := self.pages ++ [(pageNo, page)] }.dirtyPage key =
      (self.dirtyPage key).or (if key = pageNo then some page else none) :=
    lookup_append_single pageNo page self.pages
  refine { shows with pageLength := ?_, pageBound := ?_, distinct := ?_, grown := ?_, bytes := ?_ }
  · intro entry member
    rcases List.mem_append.mp member with old | new
    · exact shows.pageLength entry old
    · rw [List.mem_singleton.mp new]
      exact size
  · intro entry member
    rcases List.mem_append.mp member with old | new
    · exact shows.pageBound entry old
    · rw [List.mem_singleton.mp new]
      exact inside
  · rw [List.map_append]
    refine List.Nodup.append shows.distinct (by simp) ?_
    intro key old new
    simp only [List.map_cons, List.map_nil, List.mem_singleton] at new
    exact lookup_eq_none_of.mp fresh (new ▸ old)
  · intro position past bound
    rcases shows.grown position past bound with dirty | masked
    · left
      rw [found]
      obtain ⟨old, stored⟩ := Option.isSome_iff_exists.mp dirty
      simp [stored]
    · exact .inr masked
  · intro position bound
    by_cases here : position / sqlitePageSize = pageNo
    · have stored : { self with pages := self.pages ++ [(pageNo, page)] }.dirtyPage
          (position / sqlitePageSize) = some page := by
        rw [found, here, fresh]
        simp
      rw [byteAt_of_dirty stored]
      exact same position bound here
    · rw [others position bound here, ← shows.bytes position bound]
      refine byteAt_congr ?_ rfl
      rw [found, if_neg here, Option.or_none]

/-- Overwriting part of a dirty page overwrites that part of the file. -/
theorem Shows.patch (shows : self.Shows base length content) {pageNo start : Nat} {page source : List UInt8}
    (dirty : self.dirtyPage pageNo = some page) (room : start + source.length ≤ sqlitePageSize) :
    { self with pages := replaceValue pageNo (Data.patch page start source) self.pages }.Shows base length
      (overwrite content (pageNo * sqlitePageSize + start) source) := by
  have size := shows.dirtyPage_length dirty
  have found : ∀ key,
      { self with pages := replaceValue pageNo (Data.patch page start source) self.pages }.dirtyPage key =
        if key = pageNo then some (Data.patch page start source) else self.dirtyPage key :=
    lookup_replaceValue dirty
  refine { shows with pageLength := ?_, pageBound := ?_, distinct := ?_, grown := ?_, bytes := ?_ }
  · intro entry member
    rcases mem_replaceValue member with new | old
    · rw [new]
      exact (length_patch (by omega)).trans size
    · exact shows.pageLength entry old
  · intro entry member
    rcases mem_replaceValue member with new | old
    · rw [new]
      exact shows.dirtyPage_bound dirty
    · exact shows.pageBound entry old
  · rw [map_fst_replaceValue]
    exact shows.distinct
  · intro position past bound
    rcases shows.grown position past bound with stored | masked
    · left
      rw [found]
      split
      · rfl
      · exact stored
    · exact .inr masked
  · intro position bound
    rw [overwrite]
    by_cases here : position / sqlitePageSize = pageNo
    · have split : pageNo * sqlitePageSize + position % sqlitePageSize = position := by
        simp only [sqlitePageSize] at here ⊢
        omega
      have shown := shows.bytes position bound
      rw [byteAt_of_dirty (by rw [here]; exact dirty)] at shown
      have stored : { self with pages := replaceValue pageNo (Data.patch page start source) self.pages
          }.dirtyPage (position / sqlitePageSize) = some (Data.patch page start source) := by
        rw [found, if_pos here]
      rw [byteAt_of_dirty stored, getD_patch 0 (by omega), shown]
      by_cases covered : start ≤ position % sqlitePageSize ∧ position % sqlitePageSize < start + source.length
      · rw [if_pos covered, if_pos (by omega)]
        congr 1
        omega
      · rw [if_neg covered, if_neg (by omega)]
    · have outside : ¬ (pageNo * sqlitePageSize + start ≤ position ∧
          position < pageNo * sqlitePageSize + start + source.length) := by
        simp only [sqlitePageSize] at here room ⊢
        omega
      rw [if_neg outside, ← shows.bytes position bound]
      refine byteAt_congr ?_ rfl
      rw [found, if_neg here]

/-- Zero extents past the end of the file change nothing that is shown. -/
theorem Shows.remask (shows : self.Shows base length content) (baseSize : other.baseSize = self.baseSize)
    (pages : other.pages = self.pages)
    (cleanPages : other.cleanPages = self.cleanPages)
    (masks : ∀ pageNo, pageNo < pageCountForSize length →
      other.pageIsZeroMasked pageNo = self.pageIsZeroMasked pageNo) :
    other.Shows base length content := by
  have dirty : ∀ pageNo, other.dirtyPage pageNo = self.dirtyPage pageNo := by
    intro pageNo
    rw [dirtyPage, pages, dirtyPage]
  refine ⟨baseSize.trans shows.baseSize, by rw [pages]; exact shows.pageLength, by rw [pages]; exact shows.pageBound,
    by rw [pages]; exact shows.distinct, by rw [cleanPages]; exact shows.clean, ?_, ?_⟩
  · intro position past bound
    rw [dirty, masks _ (page_lt_pageCountForSize bound)]
    exact shows.grown position past bound
  · intro position bound
    rw [← shows.bytes position bound]
    exact byteAt_congr (dirty _) (masks _ (page_lt_pageCountForSize bound))

/-- A file grows over positions that already show zero. -/
theorem Shows.extend (shows : self.Shows base length content) {longer : Nat} (growth : length ≤ longer)
    (zero : ∀ position, length ≤ position → content position = 0)
    (shown : ∀ position, length ≤ position → position < longer →
      (∃ page, self.dirtyPage (position / sqlitePageSize) = some page ∧
        page.getD (position % sqlitePageSize) 0 = 0) ∨
      (self.dirtyPage (position / sqlitePageSize) = none ∧
        self.pageIsZeroMasked (position / sqlitePageSize) = true)) :
    self.Shows base longer content := by
  refine { shows with pageBound := ?_, grown := ?_, bytes := ?_ }
  · intro entry member
    exact Nat.lt_of_lt_of_le (shows.pageBound entry member) (pageCountForSize_le_of_le growth)
  · intro position past bound
    by_cases old : position < length
    · exact shows.grown position past old
    · rcases shown position (Nat.not_lt.mp old) bound with filled | masked
      · obtain ⟨page, stored, _⟩ := filled
        exact .inl (by rw [stored]; rfl)
      · exact .inr masked.2
  · intro position bound
    by_cases old : position < length
    · exact shows.bytes position old
    · rw [zero position (Nat.not_lt.mp old)]
      rcases shown position (Nat.not_lt.mp old) bound with filled | masked
      · obtain ⟨page, stored, empty⟩ := filled
        rw [byteAt_of_dirty stored, empty]
      · exact byteAt_of_masked masked.1 masked.2

/-- Dropping the pages past the new end cuts the file. -/
theorem Shows.cut (shows : self.Shows base length content) {shorter : Nat} (within : shorter ≤ length) :
    (self.retainPages shorter).Shows base shorter content := by
  have found : ∀ pageNo, pageNo < pageCountForSize shorter →
      (self.retainPages shorter).dirtyPage pageNo = self.dirtyPage pageNo := by
    intro pageNo inside
    rw [dirtyPage, retainPages, lookup_filter_key (fun key => decide (key < pageCountForSize shorter)), if_pos (decide_eq_true inside)]
    rfl
  refine ⟨shows.baseSize, ?_, ?_, ?_, ?_, ?_, ?_⟩
  · intro entry member
    exact shows.pageLength entry (List.mem_filter.mp member).1
  · intro entry member
    exact of_decide_eq_true (List.mem_filter.mp member).2
  · exact (List.filter_sublist.map Prod.fst).nodup shows.distinct
  · intro entry member
    exact shows.clean entry (List.mem_filter.mp member).1
  · intro position past bound
    rw [found _ (page_lt_pageCountForSize bound)]
    exact shows.grown position past (by omega)
  · intro position bound
    rw [← shows.bytes position (by omega)]
    exact byteAt_congr (found _ (page_lt_pageCountForSize bound)) rfl

end Overlay

end IcSqliteVfs.SqliteVfs
