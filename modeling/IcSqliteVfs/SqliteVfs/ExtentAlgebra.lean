import IcSqliteVfs.SqliteVfs.ZeroExtentLimit

namespace IcSqliteVfs.SqliteVfs

open IcSqliteVfs.Data IcSqliteVfs.Stable

/-! # The algebra of zero extents

A list of extents stands for a set of pages.  The operations of a commit work on
the canonical list of the set, which normalising gives.
-/

def normalizeZeroExtentsWithoutLimit (extents : List ZeroExtent) : List ZeroExtent := Data.Interval.normalize extents

theorem canonical_normalizeZeroExtentsWithoutLimit (extents : List ZeroExtent) :
    Canonical (Data.Interval.Covers extents) (normalizeZeroExtentsWithoutLimit extents) :=
  ⟨Data.Interval.normal_normalize extents, Data.Interval.covers_normalize extents⟩

theorem canonical_of_normal {extents : List ZeroExtent} (normal : Data.Interval.Normal extents) :
    Canonical (Data.Interval.Covers extents) extents :=
  ⟨normal, fun _ => Iff.rfl⟩

/-- The page number behind the last one wraps, and an extent that ends there is empty. -/
theorem succ_cases (page : UInt64) : page + 1 ≤ page ∨ ∀ other, other < page + 1 ↔ other ≤ page := by
  by_cases last : page.toNat + 1 < 2 ^ 64
  · refine .inr fun other => ?_
    rw [UInt64.lt_iff_toNat_lt, UInt64.le_iff_toNat_le, UInt64.toNat_add, UInt64.toNat_one, Nat.mod_eq_of_lt last]
    exact Nat.lt_succ_iff
  · refine .inl ?_
    have bound := page.toNat_lt
    have full : page.toNat + 1 = 2 ^ 64 := by omega
    rw [UInt64.le_iff_toNat_le, UInt64.toNat_add, UInt64.toNat_one, full, Nat.mod_self]
    exact Nat.zero_le _

/-- A list in normal form is cut without merging. -/
theorem subtractZeroExtentWithoutLimit_of_normal {extents : List ZeroExtent} (normal : Data.Interval.Normal extents)
    {startPage endPage : UInt64} (cuts : startPage < endPage) :
    subtractZeroExtentWithoutLimit extents startPage endPage =
      extents.flatMap (Data.Interval.cut startPage endPage) := by
  rw [subtractZeroExtentWithoutLimit]
  split
  · rename_i unchanged
    rcases unchanged with empty | none
    · exact absurd cuts (not_lt.mpr empty)
    · rw [List.isEmpty_iff.mp none]
      rfl
  · exact Data.Interval.normalize_of_normal (Data.Interval.normal_flatMap_cut cuts normal)

theorem length_subtract_page {extents : List ZeroExtent} (normal : Data.Interval.Normal extents) (page : UInt64) :
    (subtractZeroExtentWithoutLimit extents page (page + 1)).length ≤ extents.length + 1 ∧
      extents.length ≤ (subtractZeroExtentWithoutLimit extents page (page + 1)).length + 1 := by
  rcases succ_cases page with empty | single
  · rw [subtractZeroExtentWithoutLimit, if_pos (.inl empty)]
    omega
  · rw [subtractZeroExtentWithoutLimit_of_normal normal ((single page).mpr (le_refl _))]
    exact Data.Interval.length_flatMap_cut single normal

/-- Normalising gives the canonical list of the pages of any list, and changes it
only once.  Adding to and subtracting from a canonical list give the canonical
lists of the union and of the difference.  There is one canonical list for a set
of pages; a page that is taken out of it changes its length by at most one. -/
theorem zero_extents_are_an_algebra_of_page_sets (extents : List ZeroExtent) (startPage endPage page : UInt64) :
    Canonical (Data.Interval.Covers extents) (normalizeZeroExtentsWithoutLimit extents) ∧
    normalizeZeroExtentsWithoutLimit (normalizeZeroExtentsWithoutLimit extents) =
      normalizeZeroExtentsWithoutLimit extents ∧
    (∀ pages : UInt64 → Prop, Canonical pages extents →
      Canonical (fun pageNo => pages pageNo ∨ startPage ≤ pageNo ∧ pageNo < endPage)
        (addZeroExtentWithoutLimit extents startPage endPage) ∧
      Canonical (fun pageNo => pages pageNo ∧ ¬ (startPage ≤ pageNo ∧ pageNo < endPage))
        (subtractZeroExtentWithoutLimit extents startPage endPage) ∧
      ∀ other, Canonical pages other → other = extents) ∧
    (Data.Interval.Normal extents →
      (subtractZeroExtentWithoutLimit extents page (page + 1)).length ≤ extents.length + 1 ∧
      extents.length ≤ (subtractZeroExtentWithoutLimit extents page (page + 1)).length + 1) := by
  have normalized := canonical_normalizeZeroExtentsWithoutLimit extents
  refine ⟨normalized, Data.Interval.normalize_of_normal normalized.normal, ?_, fun normal => length_subtract_page normal page⟩
  intro pages canonical
  refine ⟨canonical_addZeroExtentWithoutLimit canonical ⟨startPage, endPage⟩,
    canonical_subtractZeroExtentWithoutLimit canonical startPage endPage, ?_⟩
  intro other same
  exact same.unique canonical

theorem normal_twoExtents : Data.Interval.Normal ([⟨1, 4⟩, ⟨6, 7⟩] : List ZeroExtent) where
  nonempty := by
    simp only [Data.Interval.Nonempty]
    decide
  separated := by decide

/-- The middle page of an extent splits it: one extent more, and no other list for these pages. -/
theorem middle_page_splits_an_extent :
    let extents : List ZeroExtent := [⟨1, 4⟩, ⟨6, 7⟩]
    subtractZeroExtentWithoutLimit extents 2 (2 + 1) = [⟨1, 2⟩, ⟨3, 4⟩, ⟨6, 7⟩] ∧
    (subtractZeroExtentWithoutLimit extents 2 (2 + 1)).length ≤ extents.length + 1 ∧
    ∀ other, Canonical (Data.Interval.Covers extents) other → other = extents := by
  intro extents
  obtain ⟨_, _, operations, counts⟩ := zero_extents_are_an_algebra_of_page_sets extents 2 3 2
  refine ⟨?_, (counts normal_twoExtents).1, (operations _ (canonical_of_normal normal_twoExtents)).2.2⟩
  rw [subtractZeroExtentWithoutLimit_of_normal normal_twoExtents (by decide)]
  decide

end IcSqliteVfs.SqliteVfs
