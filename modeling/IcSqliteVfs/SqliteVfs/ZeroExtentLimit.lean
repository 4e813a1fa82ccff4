import IcSqliteVfs.SqliteVfs.OverlayRun
import IcSqliteVfs.SqliteVfs.ZeroExtents

namespace IcSqliteVfs.SqliteVfs

open IcSqliteVfs.Data IcSqliteVfs.Semantics IcSqliteVfs.Stable

/-! # Which commits the zero extent limits refuse

A commit unites the masked ranges one by one and then takes the dirty pages
out.  The final list is bounded by `MAX_ZERO_EXTENTS`; each list on the way may
exceed that by the number of dirty pages.
-/

/-- The extent list of a set of pages: sorted, merged, without empty members. -/
structure Canonical (pages : UInt64 → Prop) (extents : List ZeroExtent) : Prop where
  normal : Data.Interval.Normal extents
  covers : ∀ pageNo, Data.Interval.Covers extents pageNo ↔ pages pageNo

theorem Canonical.unique {pages : UInt64 → Prop} {first second : List ZeroExtent} (left : Canonical pages first)
    (right : Canonical pages second) : first = second :=
  Data.Interval.normal_unique left.normal right.normal fun pageNo =>
    (left.covers pageNo).trans (right.covers pageNo).symm

theorem canonical_addZeroExtentWithoutLimit {pages : UInt64 → Prop} {extents : List ZeroExtent}
    (canonical : Canonical pages extents) (extent : ZeroExtent) :
    Canonical (fun pageNo => pages pageNo ∨ extent.Contains pageNo)
      (addZeroExtentWithoutLimit extents extent.lower extent.upper) where
  normal := normal_addZeroExtentWithoutLimit canonical.normal _ _
  covers := by
    intro pageNo
    rw [addZeroExtentWithoutLimit]
    by_cases empty : extent.upper ≤ extent.lower
    · have nowhere : ¬ extent.Contains pageNo := fun inside =>
        absurd (lt_of_le_of_lt inside.1 inside.2) (not_lt.mpr empty)
      rw [if_pos empty, canonical.covers]
      exact (or_iff_left nowhere).symm
    · rw [if_neg empty, Data.Interval.covers_normalize, Data.Interval.covers_append, canonical.covers, Data.Interval.covers_cons]
      simp

theorem canonical_subtractZeroExtentWithoutLimit {masked : UInt64 → Prop} {extents : List ZeroExtent}
    (canonical : Canonical masked extents) (startPage endPage : UInt64) :
    Canonical (fun pageNo => masked pageNo ∧ ¬ (startPage ≤ pageNo ∧ pageNo < endPage))
      (subtractZeroExtentWithoutLimit extents startPage endPage) where
  normal := normal_subtractZeroExtentWithoutLimit canonical.normal _ _
  covers := by
    intro pageNo
    rw [subtractZeroExtentWithoutLimit, ← canonical.covers]
    by_cases unchanged : endPage ≤ startPage ∨ extents.isEmpty = true
    · rw [if_pos unchanged]
      rcases unchanged with empty | none
      · have outside : ¬ (startPage ≤ pageNo ∧ pageNo < endPage) := fun within =>
          absurd (lt_of_le_of_lt within.1 within.2) (not_lt.mpr empty)
        exact (and_iff_left outside).symm
      · rw [List.isEmpty_iff.mp none]
        simp
    · rw [if_neg unchanged, Data.Interval.covers_normalize, Data.Interval.covers_flatMap]
      simp only [Data.Interval.covers_cut]
      constructor
      · rintro ⟨extent, member, within, outside⟩
        exact ⟨⟨extent, member, within⟩, outside⟩
      · rintro ⟨⟨extent, member, within⟩, outside⟩
        exact ⟨extent, member, within, outside⟩

variable {block : Superblock} {overlay : Overlay}

end IcSqliteVfs.SqliteVfs
