import IcSqliteVfs.SqliteVfs.OverlayContents

namespace IcSqliteVfs.SqliteVfs

open IcSqliteVfs.Data IcSqliteVfs.Stable

/-! # Zero extents of a commit -/

def addZeroExtentWithoutLimit (extents : List ZeroExtent) (startPage endPage : UInt64) : List ZeroExtent :=
  if endPage ≤ startPage then extents else Data.Interval.normalize (extents ++ [⟨startPage, endPage⟩])

def subtractZeroExtentWithoutLimit (extents : List ZeroExtent) (startPage endPage : UInt64) : List ZeroExtent :=
  if endPage ≤ startPage ∨ extents.isEmpty then extents
  else Data.Interval.normalize (extents.flatMap (Data.Interval.cut startPage endPage))

def enforceTemporaryZeroExtentLimit (extents : List ZeroExtent) (temporaryLimit : Nat) :
    Except StableMemoryError Unit :=
  if temporaryLimit < extents.length then .error (.zeroExtentLimitExceeded maxZeroExtents) else .ok ()

def enforceZeroExtentLimit (extents : List ZeroExtent) : Except StableMemoryError Unit :=
  if maxZeroExtents < extents.length then .error (.zeroExtentLimitExceeded maxZeroExtents) else .ok ()

/-- Add an extent and check the temporary limit. -/
def addZeroExtent (temporaryLimit : Nat) (extents : List ZeroExtent) (extent : ZeroExtent) :
    Except StableMemoryError (List ZeroExtent) := do
  let extents := addZeroExtentWithoutLimit extents extent.lower extent.upper
  enforceTemporaryZeroExtentLimit extents temporaryLimit
  pure extents

/-- The loop over the overlay's zero extents. -/
def addZeroExtents (temporaryLimit : Nat) : List ZeroExtent → List ZeroExtent →
    Except StableMemoryError (List ZeroExtent)
  | extents, [] => .ok extents
  | extents, extent :: rest => do
      let extents ← addZeroExtent temporaryLimit extents extent
      addZeroExtents temporaryLimit extents rest

/-- The loop over the dirty pages. -/
def subtractDirtyPages (finalPageCount : Nat) (extents : List ZeroExtent) (pages : List (Nat × List UInt8)) :
    List ZeroExtent :=
  pages.foldl (fun extents entry =>
    if entry.1 < finalPageCount then
      subtractZeroExtentWithoutLimit extents (UInt64.ofNat entry.1)
        (UInt64.ofNat (min (entry.1 + 1) (u64Bound - 1)))
    else extents) extents

/-- The extent that a changed size adds: the pages the image grows by, or the
pages it gives up. -/
def resizedExtent (block : Superblock) (size : Nat) : List ZeroExtent :=
  if block.dbSize.toNat < size then
    [⟨UInt64.ofNat (pageCountForSize block.dbSize.toNat), UInt64.ofNat (pageCountForSize size)⟩]
  else if size < block.dbSize.toNat then
    [⟨UInt64.ofNat (pageCountForSize size), UInt64.ofNat (pageCountForSize block.dbSize.toNat)⟩]
  else []

def zeroExtentsAfterCommit (block : Superblock) (overlay : Overlay) (finalPageCount : Nat) :
    Except StableMemoryError (List ZeroExtent) := do
  let dirtyPageSlack := (overlay.pages.filter fun entry => entry.1 < finalPageCount).length
  if u64Bound ≤ maxZeroExtents + dirtyPageSlack then .error (.zeroExtentLimitExceeded maxZeroExtents)
  else do
    let temporaryLimit := maxZeroExtents + dirtyPageSlack
    let extents ← addZeroExtents temporaryLimit block.zeroExtents
      (resizedExtent block overlay.size ++ overlay.zeroExtents)
    let extents := subtractDirtyPages finalPageCount extents overlay.pages
    enforceZeroExtentLimit extents
    pure extents

/-! ## Which pages they mask -/

theorem extentsMask_iff (extents : List ZeroExtent) {pageNo : Nat} (bounded : pageNo < u64Bound) :
    extentsMask extents pageNo = true ↔ Data.Interval.Covers extents (UInt64.ofNat pageNo) := by
  have value : (UInt64.ofNat pageNo).toNat = pageNo := UInt64.toNat_ofNat_of_lt' bounded
  simp only [extentsMask, List.any_eq_true, Data.Interval.Covers, Data.Interval.Contains, Bool.and_eq_true,
    decide_eq_true_eq, UInt64.le_iff_toNat_le, UInt64.lt_iff_toNat_lt, value]

theorem extentsMask_single (startPage endPage : UInt64) (pageNo : Nat) :
    extentsMask [⟨startPage, endPage⟩] pageNo = true ↔ startPage.toNat ≤ pageNo ∧ pageNo < endPage.toNat := by
  simp [extentsMask]

theorem extentsMask_addZeroExtentWithoutLimit (extents : List ZeroExtent) (startPage endPage : UInt64)
    {pageNo : Nat} (bounded : pageNo < u64Bound) :
    extentsMask (addZeroExtentWithoutLimit extents startPage endPage) pageNo = true ↔
      extentsMask extents pageNo = true ∨ extentsMask [⟨startPage, endPage⟩] pageNo = true := by
  rw [addZeroExtentWithoutLimit]
  by_cases empty : endPage ≤ startPage
  · have none : ¬ extentsMask [⟨startPage, endPage⟩] pageNo = true := by
      rw [extentsMask_single]
      have order := UInt64.le_iff_toNat_le.mp empty
      omega
    rw [if_pos empty]
    exact (or_iff_left none).symm
  · rw [if_neg empty, extentsMask_iff _ bounded, Data.Interval.covers_normalize, Data.Interval.covers_append,
      ← extentsMask_iff _ bounded, ← extentsMask_iff _ bounded]

theorem extentsMask_subtractZeroExtentWithoutLimit (extents : List ZeroExtent) (startPage endPage : UInt64)
    {pageNo : Nat} (bounded : pageNo < u64Bound) :
    extentsMask (subtractZeroExtentWithoutLimit extents startPage endPage) pageNo = true ↔
      extentsMask extents pageNo = true ∧ ¬ (startPage.toNat ≤ pageNo ∧ pageNo < endPage.toNat) := by
  have value : (UInt64.ofNat pageNo).toNat = pageNo := UInt64.toNat_ofNat_of_lt' bounded
  rw [subtractZeroExtentWithoutLimit]
  by_cases unchanged : endPage ≤ startPage ∨ extents.isEmpty = true
  · rw [if_pos unchanged]
    rcases unchanged with empty | none
    · have order := UInt64.le_iff_toNat_le.mp empty
      have outside : ¬ (startPage.toNat ≤ pageNo ∧ pageNo < endPage.toNat) := by omega
      simp only [outside, not_false_eq_true, and_true]
    · rw [List.isEmpty_iff.mp none]
      simp [extentsMask]
  · rw [if_neg unchanged, extentsMask_iff _ bounded, Data.Interval.covers_normalize, Data.Interval.covers_flatMap]
    simp only [Data.Interval.covers_cut, UInt64.le_iff_toNat_le, UInt64.lt_iff_toNat_lt, value]
    rw [extentsMask_iff _ bounded]
    constructor
    · intro found
      obtain ⟨interval, member, inside, outside⟩ := found
      exact ⟨⟨interval, member, inside⟩, outside⟩
    · intro found
      obtain ⟨⟨interval, member, inside⟩, outside⟩ := found
      exact ⟨interval, member, inside, outside⟩

/-! ## Their normal form -/

theorem normal_addZeroExtentWithoutLimit {extents : List ZeroExtent} (normal : Data.Interval.Normal extents)
    (startPage endPage : UInt64) : Data.Interval.Normal (addZeroExtentWithoutLimit extents startPage endPage) := by
  rw [addZeroExtentWithoutLimit]
  split
  · exact normal
  · exact Data.Interval.normal_normalize _

theorem normal_subtractZeroExtentWithoutLimit {extents : List ZeroExtent} (normal : Data.Interval.Normal extents)
    (startPage endPage : UInt64) :
    Data.Interval.Normal (subtractZeroExtentWithoutLimit extents startPage endPage) := by
  rw [subtractZeroExtentWithoutLimit]
  split
  · exact normal
  · exact Data.Interval.normal_normalize _

/-- The loop over the added extents, when no temporary limit stops it. -/
theorem addZeroExtents_spec {temporaryLimit : Nat} {extents added result : List ZeroExtent}
    (ended : addZeroExtents temporaryLimit extents added = .ok result) (normal : Data.Interval.Normal extents) :
    Data.Interval.Normal result ∧ ∀ pageNo, pageNo < u64Bound →
      (extentsMask result pageNo = true ↔ extentsMask extents pageNo = true ∨ extentsMask added pageNo = true) := by
  induction added generalizing extents with
  | nil =>
      obtain rfl : extents = result := by simpa [addZeroExtents] using ended
      exact ⟨normal, fun pageNo _ => by simp [extentsMask]⟩
  | cons extent rest ih =>
      simp only [addZeroExtents, addZeroExtent, enforceTemporaryZeroExtentLimit] at ended
      by_cases overrun : temporaryLimit < (addZeroExtentWithoutLimit extents extent.lower extent.upper).length
      · rw [if_pos overrun] at ended
        cases ended
      · rw [if_neg overrun] at ended
        obtain ⟨resultNormal, masks⟩ := ih ended (normal_addZeroExtentWithoutLimit normal _ _)
        refine ⟨resultNormal, ?_⟩
        intro pageNo bounded
        have split : extentsMask (extent :: rest) pageNo = true ↔
            extentsMask [extent] pageNo = true ∨ extentsMask rest pageNo = true := by
          rw [← List.singleton_append, extentsMask_append, Bool.or_eq_true]
        rw [masks pageNo bounded, extentsMask_addZeroExtentWithoutLimit _ _ _ bounded, split, or_assoc]

theorem subtractDirtyPages_spec {finalPageCount : Nat} (bounded : finalPageCount < u64Bound)
    {extents : List ZeroExtent} (normal : Data.Interval.Normal extents) (pages : List (Nat × List UInt8)) :
    Data.Interval.Normal (subtractDirtyPages finalPageCount extents pages) ∧
      ∀ pageNo, pageNo < finalPageCount →
        (extentsMask (subtractDirtyPages finalPageCount extents pages) pageNo = true ↔
          extentsMask extents pageNo = true ∧ pages.lookup pageNo = none) := by
  induction pages generalizing extents with
  | nil => exact ⟨normal, fun pageNo _ => by simp [subtractDirtyPages]⟩
  | cons entry rest ih =>
      rw [subtractDirtyPages, List.foldl_cons]
      by_cases inside : entry.1 < finalPageCount
      · have next : min (entry.1 + 1) (u64Bound - 1) = entry.1 + 1 := by omega
        have small : entry.1 + 1 < u64Bound := by omega
        have lower : (UInt64.ofNat entry.1).toNat = entry.1 :=
          UInt64.toNat_ofNat_of_lt' (Nat.lt_of_succ_lt small)
        have upper : (UInt64.ofNat (entry.1 + 1)).toNat = entry.1 + 1 := UInt64.toNat_ofNat_of_lt' small
        simp only [if_pos inside, next]
        obtain ⟨resultNormal, masks⟩ := ih (normal_subtractZeroExtentWithoutLimit normal
          (UInt64.ofNat entry.1) (UInt64.ofNat (entry.1 + 1)))
        refine ⟨resultNormal, ?_⟩
        intro pageNo below
        have whole := masks pageNo below
        rw [extentsMask_subtractZeroExtentWithoutLimit _ _ _ (by omega), lower, upper, and_assoc] at whole
        refine whole.trans (and_congr_right fun _ => ?_)
        rw [List.lookup_cons]
        by_cases here : pageNo = entry.1
        · have covered : ¬ ¬ (entry.1 ≤ pageNo ∧ pageNo < entry.1 + 1) := by omega
          rw [beq_iff_eq.mpr here]
          exact iff_of_false (fun both => covered both.1) nofun
        · have outside : ¬ (entry.1 ≤ pageNo ∧ pageNo < entry.1 + 1) := by omega
          rw [beq_eq_false_iff_ne.mpr here]
          exact and_iff_right outside
      · simp only [if_neg inside]
        obtain ⟨resultNormal, masks⟩ := ih normal
        refine ⟨resultNormal, ?_⟩
        intro pageNo below
        have differs : ¬ pageNo = entry.1 := by omega
        rw [List.lookup_cons, beq_eq_false_iff_ne.mpr differs]
        exact masks pageNo below

/-- The extents a commit stores are valid, and mask the pages that were masked,
that the changed size masks or that the overlay masks, less the dirty ones. -/
theorem zeroExtentsAfterCommit_spec {block : Superblock} {overlay : Overlay} {finalPageCount : Nat}
    {result : List ZeroExtent} (bounded : finalPageCount < u64Bound)
    (normal : Data.Interval.Normal block.zeroExtents)
    (ended : zeroExtentsAfterCommit block overlay finalPageCount = .ok result) :
    result.length ≤ maxZeroExtents ∧ Data.Interval.Normal result ∧ ∀ pageNo, pageNo < finalPageCount →
      (extentsMask result pageNo = true ↔
        (pageIsZeroMasked block pageNo = true ∨ extentsMask (resizedExtent block overlay.size) pageNo = true ∨
          overlay.pageIsZeroMasked pageNo = true) ∧ overlay.dirtyPage pageNo = none) := by
  rw [zeroExtentsAfterCommit] at ended
  split at ended
  · cases ended
  · dsimp only at ended
    generalize limitEq : maxZeroExtents + (overlay.pages.filter fun entry => entry.1 < finalPageCount).length =
      temporaryLimit at ended
    cases added : addZeroExtents temporaryLimit block.zeroExtents
        (resizedExtent block overlay.size ++ overlay.zeroExtents) with
    | error reason =>
        rw [added] at ended
        cases ended
    | ok extents =>
        rw [added] at ended
        obtain ⟨addedNormal, addedMasks⟩ := addZeroExtents_spec added normal
        obtain ⟨resultNormal, masks⟩ := subtractDirtyPages_spec bounded addedNormal overlay.pages
        change (enforceZeroExtentLimit (subtractDirtyPages finalPageCount extents overlay.pages) >>= fun _ =>
          Except.ok (subtractDirtyPages finalPageCount extents overlay.pages)) = .ok result at ended
        rw [enforceZeroExtentLimit] at ended
        split at ended
        · cases ended
        · rename_i within
          obtain rfl := Except.ok.inj ended
          refine ⟨Nat.not_lt.mp within, resultNormal, ?_⟩
          intro pageNo below
          rw [masks pageNo below, addedMasks pageNo (below.trans bounded), extentsMask_append, Bool.or_eq_true]
          rfl

end IcSqliteVfs.SqliteVfs
