import IcSqliteVfs.SqliteVfs.OverlayCalls

namespace IcSqliteVfs.SqliteVfs

open IcSqliteVfs.Data IcSqliteVfs.Semantics IcSqliteVfs.Stable

namespace Overlay

/-! # An overlay as a flat file -/

/-- The overlay stands for this file. -/
structure Holds (block : Superblock) (base : List UInt8) (frame : OverlayFrame) (file : List UInt8) : Prop where
  showing : Showing block base frame file.length fun position => file.getD position 0
  size : frame.self.size = file.length
  bounded : file.length < u64Bound

variable {block : Superblock} {base file : List UInt8} {frame : OverlayFrame}

theorem holds_new {store : Store} (serves : Serves store block base) :
    Holds block base ⟨Overlay.new base.length, store⟩ base where
  showing := ⟨serves, rfl, shows_new base⟩
  size := rfl
  bounded := by
    rw [serves.size_eq]
    exact block.dbSize.toNat_lt

theorem zero_past (file : List UInt8) (position : Nat) (past : file.length ≤ position) :
    file.getD position 0 = 0 :=
  getD_past 0 past

/-- Set the size of a frame that already shows the file. -/
theorem Holds.of_showing {shown : List UInt8} {self : Overlay} {store : Store}
    (showing : Showing block base ⟨self, store⟩ shown.length fun position => shown.getD position 0)
    (bounded : shown.length < u64Bound) {size : Nat} (sized : size = shown.length) :
    Holds block base ⟨{ self with size }, store⟩ shown :=
  ⟨⟨showing.serves, showing.unbudgeted, { showing.shows with }⟩, sized, bounded⟩

/-- The last page of the file ends past the address space, and the file would
grow over its end. -/
def GrowthOverflows (length newSize : Nat) : Prop :=
  length < newSize ∧ ¬ (length % sqlitePageSize = 0 ∨
    length / sqlitePageSize * sqlitePageSize + sqlitePageSize < u64Bound)

instance (length newSize : Nat) : Decidable (GrowthOverflows length newSize) :=
  inferInstanceAs (Decidable (_ ∧ _))

def WriteOverflows (length offset : Nat) (bytes : List UInt8) : Prop :=
  bytes ≠ [] ∧ (u64Bound ≤ offset + bytes.length ∨ GrowthOverflows length (offset + bytes.length))

instance (length offset : Nat) (bytes : List UInt8) : Decidable (WriteOverflows length offset bytes) :=
  inferInstanceAs (Decidable (_ ∧ _))

/-- A call either does what its model does, or reports an overflow before it
has changed anything; the file alone decides which. -/
def Refines (block : Superblock) (base : List UInt8) (call : OverlayM Unit) (overflows : Nat → Prop)
    (model : List UInt8 → List UInt8) : Prop :=
  ∀ frame file, Holds block base frame file →
    (¬ overflows file.length ∧ Action.Returns call frame fun _ after => Holds block base after (model file)) ∨
      (overflows file.length ∧ call frame = (.err .offsetOverflow, frame))

/-- The old last page ends past the address space. -/
theorem activatePages_overflow {oldSize newSize : Nat} (overflows : GrowthOverflows oldSize newSize)
    (bounded : newSize < u64Bound) : activatePages oldSize newSize frame = (.err .offsetOverflow, frame) := by
  obtain ⟨growth, full⟩ := overflows
  obtain ⟨unaligned, past⟩ := not_or.mp full
  have samePage : ¬ pageCountForSize oldSize < pageCountForSize newSize := by
    simp only [pageCountForSize, divCeil, sqlitePageSize, u64Bound] at bounded unaligned past ⊢
    omega
  have start : oldSize / sqlitePageSize * sqlitePageSize < u64Bound :=
    (Nat.div_mul_le_self _ _).trans_lt (growth.trans bounded)
  have unrecorded : recordNewlyActiveZeroPages oldSize newSize frame = (.ok (), frame) := by
    rw [recordNewlyActiveZeroPages, recordZeroExtent, if_neg samePage]
    rfl
  have failed : zeroOldPartialPage oldSize newSize frame = (.err .offsetOverflow, frame) := by
    rw [zeroOldPartialPage, if_neg unaligned, Action.bind_of_ok _ (checkedMul_of start frame),
      Action.bind_of_err _ (checkedAdd_overflow past frame)]
  rw [activatePages, Action.bind_of_ok _ unrecorded, zeroNewlyActivePartialPages,
    if_neg (Nat.not_le.mpr growth), Action.bind_of_err _ failed]

theorem writeAt_refines (block : Superblock) (base : List UInt8) (offset : Nat) (bytes : List UInt8) :
    Refines block base (writeAt offset bytes) (fun length => WriteOverflows length offset bytes)
      fun file => splice 0 file offset bytes := by
  intro frame file holds
  rw [writeAt]
  by_cases empty : bytes.isEmpty = true
  · have unchanged : splice 0 file offset bytes = file := by
      simp only [splice, empty, if_true]
    rw [if_pos empty]
    refine .inl ⟨fun overflows => overflows.1 (List.isEmpty_iff.mp empty), ?_⟩
    exact Action.returns_pure (by simpa only [unchanged] using holds)
  · have nonempty : bytes ≠ [] := fun none => empty (List.isEmpty_iff.mpr none)
    rw [if_neg empty]
    by_cases fits : offset + bytes.length < u64Bound
    · have content : (fun position => (splice 0 file offset bytes).getD position 0) =
          overwrite (fun position => file.getD position 0) offset bytes := by
        funext position
        exact getD_splice 0 file offset bytes position
      have spliced : (splice 0 file offset bytes).length = max file.length (offset + bytes.length) := by
        rw [length_splice, if_neg empty]
      have size := holds.size
      -- What follows once the file reaches to the end of the write.
      have finish : ∀ start : OverlayFrame, start.self.size = file.length →
          Showing block base start (max file.length (offset + bytes.length)) (fun position => file.getD position 0) →
          Action.Returns (do writeContent offset bytes
                             updateSelf fun self => { self with size := max self.size (offset + bytes.length) })
            start fun _ after => Holds block base after (splice 0 file offset bytes) := by
        intro start sized showing
        have bounded : max file.length (offset + bytes.length) < u64Bound := max_lt holds.bounded fits
        refine Action.Returns.bind (writeContent_of showing (le_max_right _ _) bounded) ?_
        intro _ written facts
        obtain ⟨overwritten, kept⟩ := facts
        rw [← content, ← spliced] at overwritten
        refine Action.returns_modify ?_
        refine Holds.of_showing overwritten (by rw [spliced]; exact bounded) ?_
        rw [kept, sized, spliced]
      by_cases growth : frame.self.size < offset + bytes.length
      · by_cases room : frame.self.size % sqlitePageSize = 0 ∨
            frame.self.size / sqlitePageSize * sqlitePageSize + sqlitePageSize < u64Bound
        · refine .inl ⟨fun overflows => ?_, ?_⟩
          · rcases overflows.2 with past | past
            · omega
            · exact past.2 (size ▸ room)
          refine Action.returns_after (checkedAdd_of fits frame) ?_
          refine Action.returns_after Action.read_apply ?_
          simp only [if_pos growth]
          rw [size] at room growth ⊢
          refine Action.Returns.bind
            (activatePages_of holds.showing growth fits room (zero_past file)) ?_
          intro _ activated facts
          obtain ⟨showing, kept⟩ := facts
          rw [← max_eq_right growth.le] at showing
          exact finish activated (kept.trans size) showing
        · have overflows : GrowthOverflows file.length (offset + bytes.length) := size ▸ ⟨growth, room⟩
          refine .inr ⟨⟨nonempty, .inr overflows⟩, ?_⟩
          rw [Action.bind_of_ok _ (checkedAdd_of fits frame), Action.read_bind_apply]
          simp only [if_pos growth]
          rw [Action.bind_of_err _ (activatePages_overflow (size ▸ overflows) fits)]
      · refine .inl ⟨fun overflows => ?_, ?_⟩
        · rcases overflows.2 with past | past
          · omega
          · exact growth (size ▸ past.1)
        have within : max file.length (offset + bytes.length) = file.length :=
          max_eq_left (by rw [← size]; exact Nat.not_lt.mp growth)
        refine Action.returns_after (checkedAdd_of fits frame) ?_
        refine Action.returns_after Action.read_apply ?_
        simp only [if_neg growth]
        exact finish frame size (by rw [within]; exact holds.showing)
    · refine .inr ⟨⟨nonempty, .inl (Nat.not_lt.mp fits)⟩, ?_⟩
      rw [Action.bind_of_err _ (checkedAdd_overflow fits frame)]

theorem zeroTail_of {size : Nat} {content : Nat → UInt8} (showing : Showing block base frame size content)
    (bounded : size < u64Bound) :
    Action.Returns (zeroTail size) frame fun _ after =>
      Showing block base after size content ∧ after.self.size = frame.self.size := by
  rw [zeroTail]
  by_cases aligned : size % sqlitePageSize = 0
  · rw [if_pos aligned]
    exact Action.returns_pure ⟨showing, rfl⟩
  · have inside : size / sqlitePageSize < pageCountForSize size := by
      simp only [pageCountForSize, divCeil, sqlitePageSize] at aligned ⊢
      omega
    rw [if_neg aligned]
    refine Action.Returns.bind (loadDirtyPage_of showing inside bounded) ?_
    intro page middle loaded
    obtain ⟨shown, dirty, firstTouch⟩ := loaded
    have whole := shown.shows.dirtyPage_length dirty
    have tail : size % sqlitePageSize ≤ sqlitePageSize := (Nat.mod_lt _ (by decide)).le
    rw [whole]
    refine (fillPage_of shown dirty tail (Nat.le_refl _)).imp ?_
    intro _ after filled
    obtain ⟨overwritten, _, secondTouch⟩ := filled
    refine ⟨overwritten.congr ?_, (firstTouch.trans secondTouch).size⟩
    intro position bound
    refine (overwrite_zeros ?_).symm
    intro above _
    refine absurd bound (Nat.not_lt.mpr ?_)
    simp only [sqlitePageSize] at above ⊢
    omega

theorem truncate_refines (block : Superblock) (base : List UInt8) {size : Nat} (bounded : size < u64Bound) :
    Refines block base (truncate size) (fun length => GrowthOverflows length size)
      fun file => resize 0 file size := by
  intro frame file holds
  have sized := holds.size
  have resized : (resize 0 file size).length = size := length_resize 0 file size
  -- What follows once the retained pages show the file up to the new end.
  have finish : ∀ start : OverlayFrame,
      Showing block base ⟨start.self.retainPages size, start.store⟩ size (fun position => file.getD position 0) →
      Action.Returns (do updateSelf (retainPages size); zeroTail size) start fun _ after =>
        Holds block base after (resize 0 file size) := by
    intro start retained
    refine Action.returns_after rfl ?_
    refine (zeroTail_of retained bounded).imp ?_
    intro _ after facts
    obtain ⟨shown, kept⟩ := facts
    refine ⟨?_, kept.trans resized.symm, by rw [resized]; exact bounded⟩
    rw [resized]
    refine shown.congr ?_
    intro position below
    rw [getD_resize, if_pos below]
  have keep : ∀ (start : OverlayFrame) (length : Nat), size ≤ length →
      Showing block base start length (fun position => file.getD position 0) →
      Showing block base ⟨start.self.retainPages size, start.store⟩ size (fun position => file.getD position 0) :=
    fun start length within showing => ⟨showing.serves, showing.unbudgeted, showing.shows.cut within⟩
  by_cases growth : frame.self.size < size
  · by_cases room : frame.self.size % sqlitePageSize = 0 ∨
        frame.self.size / sqlitePageSize * sqlitePageSize + sqlitePageSize < u64Bound
    · refine .inl ⟨fun overflows => overflows.2 (sized ▸ room), ?_⟩
      rw [truncate]
      refine Action.returns_after Action.read_apply ?_
      simp only [if_pos growth]
      rw [sized] at room growth ⊢
      refine Action.Returns.bind (activatePages_of holds.showing growth bounded room (zero_past file)) ?_
      intro _ activated facts
      exact finish activated (keep activated size (Nat.le_refl _) facts.1)
    · have overflows : GrowthOverflows file.length size := sized ▸ ⟨growth, room⟩
      refine .inr ⟨overflows, ?_⟩
      rw [truncate, Action.read_bind_apply]
      simp only [if_pos growth]
      rw [Action.bind_of_err _ (activatePages_overflow (sized ▸ overflows) bounded)]
  · refine .inl ⟨fun overflows => growth (sized ▸ overflows.1), ?_⟩
    rw [truncate]
    refine Action.returns_after Action.read_apply ?_
    simp only [if_neg growth]
    have kept := keep frame file.length (by omega) holds.showing
    by_cases shrink : size < frame.self.size
    · have oldBounded : frame.self.size < u64Bound := by
        rw [sized]
        exact holds.bounded
      obtain ⟨zeroExtents, ended, recorded⟩ :=
        recordZeroExtent_eq frame (pageCountForSize size) (pageCountForSize_lt oldBounded)
      simp only [if_pos shrink]
      refine Action.returns_after ended (finish _ ⟨kept.serves, kept.unbudgeted, ?_⟩)
      refine kept.shows.remask rfl rfl rfl ?_
      intro pageNo inside
      have before : ¬ pageCountForSize size ≤ pageNo := by omega
      change extentsMask zeroExtents pageNo = _
      rw [recorded, decide_eq_false before, Bool.false_and, Bool.or_false]
      rfl
    · simp only [if_neg shrink]
      exact finish frame kept

/-! ## Reading -/

theorem slicePage_of {page : List UInt8} {start count : Nat} (room : start + count ≤ page.length) :
    slicePage page start count frame = (.ok (window page start count), frame) := by
  rw [slicePage, Action.bind_of_ok _ (Action.require_of room)]
  rfl

/-- A window of a page that agrees with the file is that part of the file. -/
theorem window_eq_readFrom {page : List UInt8} {pageNo start count : Nat} (whole : page.length = sqlitePageSize)
    (room : start + count ≤ sqlitePageSize)
    (same : ∀ position, position < pageNo * sqlitePageSize + start + count →
      position / sqlitePageSize = pageNo → page.getD (position % sqlitePageSize) 0 = file.getD position 0) :
    window page start count = readFrom 0 file (pageNo * sqlitePageSize + start) count := by
  apply ext_getD 0
  · rw [length_window (by omega), length_readFrom]
  · intro index inside
    rw [length_window (by omega)] at inside
    have place : (pageNo * sqlitePageSize + start + index) / sqlitePageSize = pageNo ∧
        (pageNo * sqlitePageSize + start + index) % sqlitePageSize = start + index := by
      simp only [sqlitePageSize] at room ⊢
      omega
    have agreed := same (pageNo * sqlitePageSize + start + index) (by omega) place.1
    rw [place.2] at agreed
    rw [getD_window, if_pos inside, getD_readFrom, if_pos inside, agreed]

theorem insertCleanPage_of (holds : Holds block base frame file) (pageNo : Nat) :
    Action.Returns
      (insertCleanPage pageNo (readFrom 0 base (pageNo * sqlitePageSize) sqlitePageSize)) frame
      fun _ after => Holds block base after file := by
  refine Action.returns_modify ?_
  dsimp only
  split
  · exact holds
  · refine ⟨⟨holds.showing.serves, holds.showing.unbudgeted, ?_⟩, holds.size, holds.bounded⟩
    refine { holds.showing.shows with clean := ?_ }
    intro entry member
    rcases List.mem_append.mp member with old | new
    · split at old
      · exact holds.showing.shows.clean entry (List.mem_of_mem_drop old)
      · exact holds.showing.shows.clean entry old
    · rw [List.mem_singleton.mp new]

/-- Whatever answers for the page, the slice is that part of the file, and the
file stays as it is while the clean-page cache fills and drops pages. -/
theorem readPageSlice_of (holds : Holds block base frame file) {pageNo start count : Nat}
    (room : start + count ≤ sqlitePageSize) (positive : 0 < count)
    (within : pageNo * sqlitePageSize + start + count ≤ file.length) :
    Action.Returns (readPageSlice pageNo start count) frame fun bytes after =>
      bytes = readFrom 0 file (pageNo * sqlitePageSize + start) count ∧ Holds block base after file := by
  have shows := holds.showing.shows
  have bounded := holds.bounded
  rw [readPageSlice]
  refine Action.returns_after Action.read_apply ?_
  cases stored : frame.self.dirtyPage pageNo with
  | some page =>
      have whole := shows.dirtyPage_length stored
      refine Action.returns_of (slicePage_of (by omega)) ⟨window_eq_readFrom whole room ?_, holds⟩
      intro position bound here
      rw [← shows.bytes position (by omega), byteAt_of_dirty (by rw [here]; exact stored)]
  | none =>
      cases masked : frame.self.pageIsZeroMasked pageNo with
      | true =>
          rw [if_pos rfl]
          refine Action.returns_pure ⟨?_, holds⟩
          symm
          apply List.eq_replicate_iff.mpr
          refine ⟨length_readFrom _ _ _ _, ?_⟩
          intro byte member
          obtain ⟨index, bound, rfl⟩ := List.mem_map.mp member
          have inside := List.mem_range.mp bound
          have here : (pageNo * sqlitePageSize + start + index) / sqlitePageSize = pageNo := by
            simp only [sqlitePageSize] at room ⊢
            omega
          rw [← shows.bytes _ (by omega)]
          exact byteAt_of_masked (by rw [here]; exact stored) (by rw [here]; exact masked)
      | false =>
          rw [if_neg (by simp)]
          have same : ∀ position, position < pageNo * sqlitePageSize + start + count →
              position / sqlitePageSize = pageNo →
              (readFrom 0 base (pageNo * sqlitePageSize) sqlitePageSize).getD (position % sqlitePageSize) 0 =
                file.getD position 0 := by
            intro position bound here
            have place : pageNo * sqlitePageSize + position % sqlitePageSize = position := by
              simp only [sqlitePageSize] at here ⊢
              omega
            have inPage : position % sqlitePageSize < sqlitePageSize := Nat.mod_lt _ (by decide)
            rw [getD_readFrom, if_pos inPage, place, ← shows.bytes position (by omega)]
            simp only [byteAt, here, stored, masked, Bool.false_eq_true, if_false]
          have whole : (readFrom 0 base (pageNo * sqlitePageSize) sqlitePageSize).length = sqlitePageSize :=
            length_readFrom _ _ _ _
          cases cached : frame.self.cleanPage pageNo with
          | some page =>
              have cachedPage : page = readFrom 0 base (pageNo * sqlitePageSize) sqlitePageSize :=
                shows.clean (pageNo, page) (mem_of_lookup cached)
              rw [← cachedPage] at same whole
              exact Action.returns_of (slicePage_of (by omega)) ⟨window_eq_readFrom whole room same, holds⟩
          | none =>
              have fits : pageNo * sqlitePageSize < u64Bound := by omega
              refine Action.returns_after (Action.zoom_of (holds.showing.serves.readBasePage_eq fits)) ?_
              refine Action.returns_after (slicePage_of (by rw [whole]; exact room)) ?_
              have warmed : Holds block base
                  { frame with store := { frame.store with superblockCache := some block } } file :=
                ⟨⟨holds.showing.serves.warm, holds.showing.unbudgeted, shows⟩, holds.size, bounded⟩
              refine Action.Returns.bind (insertCleanPage_of warmed pageNo) ?_
              intro _ after kept
              exact Action.returns_pure ⟨window_eq_readFrom whole room same, kept⟩

theorem readRange_of {offset count : Nat} (within : offset + count ≤ file.length) (turns copiedTotal : Nat)
    (enough : count - copiedTotal ≤ turns) (started : copiedTotal ≤ count)
    (holds : Holds block base frame file) :
    Action.Returns (readRange offset count turns copiedTotal) frame fun bytes after =>
      bytes = readFrom 0 file (offset + copiedTotal) (count - copiedTotal) ∧ Holds block base after file := by
  induction turns generalizing copiedTotal frame with
  | zero =>
      have finished : count - copiedTotal = 0 := by omega
      rw [finished]
      exact Action.returns_pure ⟨rfl, holds⟩
  | succ turns ih =>
      have bounded := holds.bounded
      rw [readRange]
      by_cases unfinished : copiedTotal < count
      · have fits : offset + copiedTotal < u64Bound := by omega
        rw [if_pos unfinished]
        refine Action.returns_after (checkedAdd_of fits frame) ?_
        dsimp only
        generalize copiedEq : min (sqlitePageSize - (offset + copiedTotal) % sqlitePageSize)
          (count - copiedTotal) = copied
        have progress : 0 < copied ∧ copiedTotal + copied ≤ count ∧
            (offset + copiedTotal) % sqlitePageSize + copied ≤ sqlitePageSize := by
          simp only [sqlitePageSize] at copiedEq ⊢
          omega
        obtain ⟨positive, reached, inPage⟩ := progress
        have position : (offset + copiedTotal) / sqlitePageSize * sqlitePageSize +
            (offset + copiedTotal) % sqlitePageSize = offset + copiedTotal := by
          simp only [sqlitePageSize]
          omega
        refine Action.Returns.bind (readPageSlice_of holds inPage positive (by rw [position]; omega)) ?_
        intro piece middle read
        obtain ⟨pieceEq, kept⟩ := read
        refine Action.Returns.bind (ih (copiedTotal + copied) (by omega) reached kept) ?_
        intro rest after read
        obtain ⟨restEq, final⟩ := read
        have split : count - copiedTotal = copied + (count - (copiedTotal + copied)) := by omega
        refine Action.returns_pure ⟨?_, final⟩
        rw [pieceEq, restEq, position, split, readFrom_append, Nat.add_assoc offset copiedTotal copied]
      · have finished : count - copiedTotal = 0 := by omega
        rw [if_neg unfinished, finished]
        exact Action.returns_pure ⟨rfl, holds⟩

theorem readFrom_past {offset count : Nat} (past : file.length ≤ offset) :
    readFrom 0 file offset count = List.replicate count 0 := by
  refine List.eq_replicate_iff.mpr ⟨length_readFrom _ _ _ _, ?_⟩
  intro byte member
  obtain ⟨index, _, rfl⟩ := List.mem_map.mp member
  exact getD_past 0 (by omega)

theorem readAt_of (holds : Holds block base frame file) (offset count : Nat) :
    Action.Returns (readAt offset count) frame fun answer after =>
      answer = (readFrom 0 file offset count, decide (count = 0 ∨ offset + count ≤ file.length)) ∧
      Holds block base after file := by
  have size := holds.size
  rw [readAt]
  refine Action.returns_after Action.read_apply ?_
  by_cases none : count = 0
  · rw [if_pos none, none]
    exact Action.returns_pure ⟨rfl, holds⟩
  · rw [if_neg none]
    by_cases past : frame.self.size ≤ offset
    · have short : ¬ (count = 0 ∨ offset + count ≤ file.length) := by omega
      rw [if_pos past]
      refine Action.returns_pure ⟨?_, holds⟩
      rw [readFrom_past (by omega), decide_eq_false short]
    · rw [if_neg past]
      dsimp only
      generalize copiedEq : min count (frame.self.size - offset) = copied
      refine Action.Returns.bind (readRange_of (by omega) copied 0 (by omega) (by omega) holds) ?_
      intro bytes after read
      obtain ⟨bytesEq, kept⟩ := read
      refine Action.returns_pure ⟨?_, kept⟩
      have split : count = copied + (count - copied) := by omega
      have tail : readFrom 0 file (offset + copied) (count - copied) = List.replicate (count - copied) 0 := by
        by_cases whole : count = copied
        · rw [whole, Nat.sub_self]
          rfl
        · exact readFrom_past (by omega)
      have joined : readFrom 0 file offset count = bytes ++ List.replicate (count - copied) 0 := by
        conv => lhs; rw [split]
        rw [readFrom_append, tail, bytesEq]
        rfl
      have flag : (copied == count) = decide (count = 0 ∨ offset + count ≤ file.length) := by
        rw [Bool.eq_iff_iff, beq_iff_eq, decide_eq_true_iff]
        omega
      rw [joined, flag]

end Overlay

end IcSqliteVfs.SqliteVfs
