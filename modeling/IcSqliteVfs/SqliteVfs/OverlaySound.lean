import IcSqliteVfs.SqliteVfs.OverlayFile

namespace IcSqliteVfs.SqliteVfs

open IcSqliteVfs.Data IcSqliteVfs.Semantics IcSqliteVfs.Stable

namespace Overlay

/-! # What every overlay call keeps

With or without a write budget, and wherever a call stops: pages have full
length, the size is an address, and the stable side only warms its cache.
-/

structure Sound (overlay : Overlay) : Prop where
  pageLength : ∀ entry ∈ overlay.pages, entry.2.length = sqlitePageSize
  cleanLength : ∀ entry ∈ overlay.cleanPages, entry.2.length = sqlitePageSize
  size : overlay.size < u64Bound

structure Steady (memory : Memory) (block : Superblock) (base : List UInt8) (frame : OverlayFrame) : Prop where
  sound : frame.self.Sound
  serves : Serves frame.store block base
  memory_eq : frame.store.memory = memory

theorem sound_new {baseSize : Nat} (bounded : baseSize < u64Bound) : (Overlay.new baseSize).Sound where
  pageLength := by simp [Overlay.new]
  cleanLength := by simp [Overlay.new]
  size := bounded

variable {memory : Memory} {block : Superblock} {base : List UInt8}

theorem keeps_checkedAdd (left right : Nat) :
    Action.Keeps (Steady memory block base) (checkedAdd left right) fun sum =>
      sum = left + right ∧ left + right < u64Bound := by
  rw [checkedAdd]
  split
  · exact Action.keeps_pure ⟨rfl, ‹_›⟩
  · exact Action.keeps_fail _

theorem keeps_checkedMul (left right : Nat) :
    Action.Keeps (Steady memory block base) (checkedMul left right) fun _ => True := by
  rw [checkedMul]
  split
  · exact Action.keeps_pure True.intro
  · exact Action.keeps_fail _

theorem keeps_updateSelf {update : Overlay → Overlay} (sound : ∀ self : Overlay, self.Sound → (update self).Sound) :
    Action.Keeps (Steady memory block base) (updateSelf update) fun _ => True := by
  apply Action.keeps_modify
  intro frame steady
  exact ⟨sound frame.self steady.sound, steady.serves, steady.memory_eq⟩

theorem keeps_readBasePage (pageNo : Nat) :
    Action.Keeps (Steady memory block base) (onStore (readBasePage pageNo)) fun page =>
      page.length = sqlitePageSize := by
  intro frame steady
  by_cases fits : pageNo * sqlitePageSize < u64Bound
  · rw [onStore, Action.zoom_of (steady.serves.readBasePage_eq fits)]
    refine ⟨⟨steady.sound, steady.serves.warm, steady.memory_eq⟩, ?_⟩
    intro page same
    obtain rfl := Outcome.ok.inj same
    exact length_readFrom _ _ _ _
  · have failed : readBasePage pageNo frame.store =
        (.err .offsetOverflow, { frame.store with superblockCache := some block }) := by
      rw [readBasePage, Action.bind_of_ok _ steady.serves.coherent.load_eq, Action.bind_of_err]
      rw [checkedMul, if_neg fits]
      rfl
    rw [onStore, Action.zoom_of failed]
    exact ⟨⟨steady.sound, steady.serves.warm, steady.memory_eq⟩, fun _ same => by cases same⟩

theorem keeps_recordZeroExtent (startPage endPage : Nat) :
    Action.Keeps (Steady memory block base) (recordZeroExtent startPage endPage) fun _ => True := by
  rw [recordZeroExtent]
  split
  · exact keeps_updateSelf fun self sound => ⟨sound.pageLength, sound.cleanLength, sound.size⟩
  · exact Action.keeps_pure True.intro

theorem keeps_admitDirtyPage : Action.Keeps (Steady memory block base) admitDirtyPage fun _ => True := by
  have rebudget : ∀ budget : WriteBudget, Action.Keeps (Steady memory block base)
      (updateSelf fun self => { self with writeBudget := some budget }) fun _ => True :=
    fun budget => keeps_updateSelf fun self sound => ⟨sound.pageLength, sound.cleanLength, sound.size⟩
  rw [admitDirtyPage]
  refine Action.Keeps.bind Action.keeps_read ?_
  intro frame _
  cases frame.self.writeBudget with
  | none => exact Action.keeps_pure True.intro
  | some budget =>
      dsimp only
      split
      · exact Action.Keeps.bind (rebudget _) fun _ _ => Action.keeps_fail _
      · exact rebudget _

theorem keeps_materializePage (pageNo : Nat) :
    Action.Keeps (Steady memory block base) (materializePage pageNo) fun page =>
      page.length = sqlitePageSize := by
  rw [materializePage]
  refine Action.Keeps.bind Action.keeps_read ?_
  intro frame steady
  split
  · exact Action.keeps_pure (by simp)
  · cases cached : frame.self.cleanPage pageNo with
    | some page =>
        have whole := steady.sound.cleanLength (pageNo, page) (mem_of_lookup cached)
        refine Action.Keeps.bind (keeps_updateSelf ?_) fun _ _ => Action.keeps_pure whole
        intro self sound
        exact ⟨sound.pageLength, fun entry member => sound.cleanLength entry (List.mem_of_mem_eraseP member),
          sound.size⟩
    | none => exact keeps_readBasePage pageNo

theorem keeps_pushPage {pageNo : Nat} {page : List UInt8} (whole : page.length = sqlitePageSize) :
    Action.Keeps (Steady memory block base) (pushPage pageNo page) fun _ => True := by
  apply keeps_updateSelf
  intro self sound
  refine ⟨?_, sound.cleanLength, sound.size⟩
  intro entry member
  rcases List.mem_append.mp member with old | new
  · exact sound.pageLength entry old
  · rw [List.mem_singleton.mp new]
    exact whole

theorem keeps_loadDirtyPage (pageNo : Nat) :
    Action.Keeps (Steady memory block base) (loadDirtyPage pageNo) fun page =>
      page.length = sqlitePageSize := by
  rw [loadDirtyPage]
  refine Action.Keeps.bind Action.keeps_read ?_
  intro frame steady
  cases stored : frame.self.dirtyPage pageNo with
  | some page => exact Action.keeps_pure (steady.sound.pageLength (pageNo, page) (mem_of_lookup stored))
  | none =>
      refine Action.Keeps.bind keeps_admitDirtyPage fun _ _ => ?_
      refine Action.Keeps.bind (keeps_materializePage pageNo) fun page whole => ?_
      exact Action.Keeps.bind (keeps_pushPage whole) fun _ _ => Action.keeps_pure whole

theorem keeps_copyIntoPage {page : List UInt8} (whole : page.length = sqlitePageSize) (pageNo start : Nat)
    (source : List UInt8) :
    Action.Keeps (Steady memory block base) (copyIntoPage pageNo page start source) fun _ => True := by
  rw [copyIntoPage]
  refine Action.Keeps.bind (Action.keeps_require _) fun _ room => ?_
  apply keeps_updateSelf
  intro self sound
  refine ⟨?_, sound.cleanLength, sound.size⟩
  intro entry member
  rcases mem_replaceValue member with new | old
  · rw [new]
    exact (length_patch room).trans whole
  · exact sound.pageLength entry old

theorem keeps_fillPage {page : List UInt8} (whole : page.length = sqlitePageSize) (pageNo start stop : Nat) :
    Action.Keeps (Steady memory block base) (fillPage pageNo page start stop) fun _ => True := by
  rw [fillPage]
  exact Action.Keeps.bind (Action.keeps_require _) fun _ _ => keeps_copyIntoPage whole _ _ _

theorem keeps_activatePages (oldSize newSize : Nat) :
    Action.Keeps (Steady memory block base) (activatePages oldSize newSize) fun _ => True := by
  have old : Action.Keeps (Steady memory block base) (zeroOldPartialPage oldSize newSize) fun _ => True := by
    rw [zeroOldPartialPage]
    split
    · exact Action.keeps_pure True.intro
    · refine Action.Keeps.bind (keeps_checkedMul _ _) fun _ _ => ?_
      refine Action.Keeps.bind (keeps_checkedAdd _ _) fun _ _ => ?_
      exact Action.Keeps.bind (keeps_loadDirtyPage _) fun page whole => keeps_fillPage whole _ _ _
  have new : Action.Keeps (Steady memory block base) (zeroNewPartialPage oldSize newSize) fun _ => True := by
    rw [zeroNewPartialPage]
    split
    · exact Action.keeps_pure True.intro
    · exact Action.Keeps.bind (keeps_loadDirtyPage _) fun page whole => keeps_fillPage whole _ _ _
  rw [activatePages, zeroNewlyActivePartialPages]
  refine Action.Keeps.bind (keeps_recordZeroExtent _ _) fun _ _ => ?_
  split
  · exact Action.keeps_pure True.intro
  · exact Action.Keeps.bind old fun _ _ => new

theorem keeps_writePages (offset : Nat) (bytes : List UInt8) (turns written : Nat) :
    Action.Keeps (Steady memory block base) (writePages offset bytes turns written) fun _ => True := by
  induction turns generalizing written with
  | zero => exact Action.keeps_pure True.intro
  | succ turns ih =>
      rw [writePages]
      split
      · refine Action.Keeps.bind (keeps_checkedAdd _ _) fun absolute _ => ?_
        refine Action.Keeps.bind (keeps_loadDirtyPage _) fun page whole => ?_
        exact Action.Keeps.bind (keeps_copyIntoPage whole _ _ _) fun _ _ => ih _
      · exact Action.keeps_pure True.intro

theorem keeps_writeContent (offset : Nat) (bytes : List UInt8) :
    Action.Keeps (Steady memory block base) (writeContent offset bytes) fun _ => True := by
  rw [writeContent]
  split
  · rename_i full
    rw [writeFullPage]
    refine Action.Keeps.bind Action.keeps_read ?_
    intro frame steady
    cases stored : frame.self.dirtyPage (offset / sqlitePageSize) with
    | some page =>
        exact keeps_copyIntoPage (steady.sound.pageLength (_, page) (mem_of_lookup stored)) _ _ _
    | none => exact Action.Keeps.bind keeps_admitDirtyPage fun _ _ => keeps_pushPage full.1
  · exact keeps_writePages offset bytes _ _

theorem keeps_writeAt (offset : Nat) (bytes : List UInt8) :
    Action.Keeps (Steady memory block base) (writeAt offset bytes) fun _ => True := by
  rw [writeAt]
  split
  · exact Action.keeps_pure True.intro
  · refine Action.Keeps.bind (keeps_checkedAdd _ _) fun stop summed => ?_
    refine Action.Keeps.bind Action.keeps_read fun frame _ => ?_
    have activated : Action.Keeps (Steady memory block base)
        (if frame.self.size < stop then activatePages frame.self.size stop else pure ()) fun _ => True := by
      split
      · exact keeps_activatePages _ _
      · exact Action.keeps_pure True.intro
    refine Action.Keeps.bind activated fun _ _ => ?_
    refine Action.Keeps.bind (keeps_writeContent offset bytes) fun _ _ => ?_
    apply keeps_updateSelf
    intro self sound
    have bounded : stop < u64Bound := by
      rw [summed.1]
      exact summed.2
    exact ⟨sound.pageLength, sound.cleanLength, max_lt sound.size bounded⟩

theorem keeps_truncate {size : Nat} (bounded : size < u64Bound) :
    Action.Keeps (Steady memory block base) (truncate size) fun _ => True := by
  rw [truncate]
  refine Action.Keeps.bind Action.keeps_read fun frame _ => ?_
  have recorded : Action.Keeps (Steady memory block base)
      (if frame.self.size < size then activatePages frame.self.size size
        else if size < frame.self.size then recordTruncatedZeroPages size frame.self.size
        else pure ()) fun _ => True := by
    split
    · exact keeps_activatePages _ _
    · split
      · exact keeps_recordZeroExtent _ _
      · exact Action.keeps_pure True.intro
  refine Action.Keeps.bind recorded fun _ _ => ?_
  have retained : Action.Keeps (Steady memory block base) (updateSelf (retainPages size)) fun _ => True := by
    apply keeps_updateSelf
    intro self sound
    exact ⟨fun entry member => sound.pageLength entry (List.mem_filter.mp member).1,
      fun entry member => sound.cleanLength entry (List.mem_filter.mp member).1, bounded⟩
  refine Action.Keeps.bind retained fun _ _ => ?_
  rw [zeroTail]
  split
  · exact Action.keeps_pure True.intro
  · exact Action.Keeps.bind (keeps_loadDirtyPage _) fun page whole => keeps_fillPage whole _ _ _

theorem keeps_slicePage (page : List UInt8) (start count : Nat) :
    Action.Keeps (Steady memory block base) (slicePage page start count) fun _ => True := by
  rw [slicePage]
  exact Action.Keeps.bind (Action.keeps_require _) fun _ _ => Action.keeps_pure True.intro

theorem keeps_insertCleanPage {page : List UInt8} (whole : page.length = sqlitePageSize) (pageNo : Nat) :
    Action.Keeps (Steady memory block base) (insertCleanPage pageNo page) fun _ => True := by
  apply keeps_updateSelf
  intro self sound
  split
  · exact sound
  · refine ⟨sound.pageLength, ?_, sound.size⟩
    intro entry member
    rcases List.mem_append.mp member with old | new
    · split at old
      · exact sound.cleanLength entry (List.mem_of_mem_drop old)
      · exact sound.cleanLength entry old
    · rw [List.mem_singleton.mp new]
      exact whole

theorem keeps_readPageSlice (pageNo start count : Nat) :
    Action.Keeps (Steady memory block base) (readPageSlice pageNo start count) fun _ => True := by
  rw [readPageSlice]
  refine Action.Keeps.bind Action.keeps_read fun frame _ => ?_
  cases frame.self.dirtyPage pageNo with
  | some page => exact keeps_slicePage _ _ _
  | none =>
      dsimp only
      split
      · exact Action.keeps_pure True.intro
      · cases frame.self.cleanPage pageNo with
        | some page => exact keeps_slicePage _ _ _
        | none =>
            refine Action.Keeps.bind (keeps_readBasePage pageNo) fun page whole => ?_
            refine Action.Keeps.bind (keeps_slicePage _ _ _) fun _ _ => ?_
            exact Action.Keeps.bind (keeps_insertCleanPage whole _) fun _ _ => Action.keeps_pure True.intro

theorem keeps_readRange (offset count turns copiedTotal : Nat) :
    Action.Keeps (Steady memory block base) (readRange offset count turns copiedTotal) fun _ => True := by
  induction turns generalizing copiedTotal with
  | zero => exact Action.keeps_pure True.intro
  | succ turns ih =>
      rw [readRange]
      split
      · refine Action.Keeps.bind (keeps_checkedAdd _ _) fun _ _ => ?_
        refine Action.Keeps.bind (keeps_readPageSlice _ _ _) fun _ _ => ?_
        exact Action.Keeps.bind (ih _) fun _ _ => Action.keeps_pure True.intro
      · exact Action.keeps_pure True.intro

theorem keeps_readAt (offset count : Nat) :
    Action.Keeps (Steady memory block base) (readAt offset count) fun _ => True := by
  rw [readAt]
  refine Action.Keeps.bind Action.keeps_read fun frame _ => ?_
  split
  · exact Action.keeps_pure True.intro
  · split
    · exact Action.keeps_pure True.intro
    · exact Action.Keeps.bind (keeps_readRange _ _ _ _) fun _ _ => Action.keeps_pure True.intro

end Overlay

end IcSqliteVfs.SqliteVfs
