import Mathlib.Order.Defs.LinearOrder
import Mathlib.Order.Basic
import Mathlib.Order.MinMax
import Mathlib.Data.List.Sort
import Mathlib.Tactic.Common

namespace IcSqliteVfs.Data

/-! # Lists of half-open intervals

A list of intervals stands for the set of points its members contain.  The
normal form is sorted, without empty members, and leaves a gap between any two
neighbours.
-/

structure Interval (α : Type) where
  lower : α
  upper : α
deriving DecidableEq, Repr

namespace Interval

variable {α : Type} [LinearOrder α]

def Contains (interval : Interval α) (point : α) : Prop :=
  interval.lower ≤ point ∧ point < interval.upper

instance (interval : Interval α) (point : α) : Decidable (interval.Contains point) :=
  inferInstanceAs (Decidable (_ ∧ _))

def Nonempty (interval : Interval α) : Prop := interval.lower < interval.upper

/-- The set of points that a list stands for. -/
def Covers (intervals : List (Interval α)) (point : α) : Prop :=
  ∃ interval ∈ intervals, interval.Contains point

/-- Sorted, without empty members, with a gap between neighbours. -/
structure Normal (intervals : List (Interval α)) : Prop where
  nonempty : ∀ interval ∈ intervals, interval.Nonempty
  separated : intervals.Pairwise fun left right => left.upper < right.lower

/-- Merge each interval into the last one kept when the two touch. -/
def coalesceInto (last : Interval α) : List (Interval α) → List (Interval α)
  | [] => [last]
  | next :: rest =>
      if next.lower ≤ last.upper then
        coalesceInto { last with upper := max last.upper next.upper } rest
      else last :: coalesceInto next rest

def coalesce : List (Interval α) → List (Interval α)
  | [] => []
  | first :: rest => coalesceInto first rest

def normalize (intervals : List (Interval α)) : List (Interval α) :=
  coalesce ((intervals.filter fun interval => interval.lower < interval.upper).mergeSort
    fun left right => left.lower ≤ right.lower)

/-- What is left of one interval outside `[lower, upper)`. -/
def cut (lower upper : α) (interval : Interval α) : List (Interval α) :=
  if upper ≤ interval.lower ∨ interval.upper ≤ lower then [interval]
  else
    (if interval.lower < lower then [⟨interval.lower, lower⟩] else []) ++
    (if upper < interval.upper then [⟨upper, interval.upper⟩] else [])

theorem coalesceInto_nil (last : Interval α) : coalesceInto last [] = [last] := rfl

theorem coalesceInto_cons (last next : Interval α) (rest : List (Interval α)) :
    coalesceInto last (next :: rest) =
      if next.lower ≤ last.upper then coalesceInto { last with upper := max last.upper next.upper } rest
      else last :: coalesceInto next rest := rfl

@[simp] theorem covers_nil (point : α) : ¬ Covers [] point := by
  simp [Covers]

@[simp] theorem covers_cons (interval : Interval α) (rest : List (Interval α)) (point : α) :
    Covers (interval :: rest) point ↔ interval.Contains point ∨ Covers rest point := by
  simp [Covers]

@[simp] theorem covers_append (left right : List (Interval α)) (point : α) :
    Covers (left ++ right) point ↔ Covers left point ∨ Covers right point := by
  simp only [Covers, List.mem_append, or_and_right, exists_or]

theorem covers_of_perm {left right : List (Interval α)} (same : left.Perm right) (point : α) :
    Covers left point ↔ Covers right point := by
  simp only [Covers, same.mem_iff]

theorem covers_flatMap (pieces : Interval α → List (Interval α)) (intervals : List (Interval α))
    (point : α) :
    Covers (intervals.flatMap pieces) point ↔ ∃ interval ∈ intervals, Covers (pieces interval) point := by
  constructor
  · rintro ⟨piece, member, inside⟩
    obtain ⟨interval, source, made⟩ := List.mem_flatMap.mp member
    exact ⟨interval, source, piece, made, inside⟩
  · rintro ⟨interval, source, piece, made, inside⟩
    exact ⟨piece, List.mem_flatMap.mpr ⟨interval, source, made⟩, inside⟩

theorem normal_nil : Normal ([] : List (Interval α)) := ⟨by simp, by simp⟩

/-- Two touching intervals, the second starting no earlier, merge to exactly
the points of both. -/
theorem contains_merge {last next : Interval α} (sorted : last.lower ≤ next.lower)
    (touching : next.lower ≤ last.upper) (point : α) :
    Contains { last with upper := max last.upper next.upper } point ↔
      last.Contains point ∨ next.Contains point := by
  simp only [Contains, lt_max_iff]
  constructor
  · rintro ⟨above, belowLast | belowNext⟩
    · exact .inl ⟨above, belowLast⟩
    · rcases lt_or_ge point last.upper with inLast | pastLast
      · exact .inl ⟨above, inLast⟩
      · exact .inr ⟨touching.trans pastLast, belowNext⟩
  · rintro (⟨above, below⟩ | ⟨above, below⟩)
    · exact ⟨above, .inl below⟩
    · exact ⟨sorted.trans above, .inr below⟩

theorem covers_coalesceInto {last : Interval α} {rest : List (Interval α)}
    (sorted : (last :: rest).Pairwise fun left right => left.lower ≤ right.lower) (point : α) :
    Covers (coalesceInto last rest) point ↔ last.Contains point ∨ Covers rest point := by
  induction rest generalizing last with
  | nil => simp [coalesceInto_nil]
  | cons next rest ih =>
      obtain ⟨first, second, others⟩ : last.lower ≤ next.lower ∧
          (∀ interval ∈ rest, last.lower ≤ interval.lower) ∧
          (next :: rest).Pairwise fun left right => left.lower ≤ right.lower := by
        simpa [and_assoc] using sorted
      rw [coalesceInto_cons]
      split
      · rename_i touching
        have merged : (Interval.mk last.lower (max last.upper next.upper) :: rest).Pairwise
            fun left right => left.lower ≤ right.lower := by
          simpa using ⟨second, (List.pairwise_cons.mp others).2⟩
        rw [ih merged, contains_merge first touching, covers_cons, or_assoc]
      · rw [covers_cons, ih others, covers_cons]

theorem nonempty_coalesceInto {last : Interval α} {rest : List (Interval α)}
    (lastNonempty : last.Nonempty) (restNonempty : ∀ interval ∈ rest, interval.Nonempty) :
    ∀ interval ∈ coalesceInto last rest, interval.Nonempty := by
  induction rest generalizing last with
  | nil => simpa [coalesceInto_nil] using lastNonempty
  | cons next rest ih =>
      have nextNonempty := restNonempty next (by simp)
      have others : ∀ interval ∈ rest, interval.Nonempty :=
        fun interval member => restNonempty interval (by simp [member])
      rw [coalesceInto_cons]
      split
      · exact ih (lt_of_lt_of_le lastNonempty (le_max_left _ _)) others
      · intro interval member
        rcases List.mem_cons.mp member with same | member
        · exact same ▸ lastNonempty
        · exact ih nextNonempty others interval member

/-- Merging never moves the start of an interval forward. -/
theorem lower_le_coalesceInto {bound : α} {last : Interval α} {rest : List (Interval α)}
    (lastBound : bound < last.lower) (restBound : ∀ interval ∈ rest, bound < interval.lower) :
    ∀ interval ∈ coalesceInto last rest, bound < interval.lower := by
  induction rest generalizing last with
  | nil => simpa [coalesceInto_nil] using lastBound
  | cons next rest ih =>
      have others : ∀ interval ∈ rest, bound < interval.lower :=
        fun interval member => restBound interval (by simp [member])
      rw [coalesceInto_cons]
      split
      · exact ih lastBound others
      · intro interval member
        rcases List.mem_cons.mp member with same | member
        · exact same ▸ lastBound
        · exact ih (restBound next (by simp)) others interval member

theorem separated_coalesceInto {last : Interval α} {rest : List (Interval α)}
    (sorted : (last :: rest).Pairwise fun left right => left.lower ≤ right.lower) :
    (coalesceInto last rest).Pairwise fun left right => left.upper < right.lower := by
  induction rest generalizing last with
  | nil => simp [coalesceInto_nil]
  | cons next rest ih =>
      obtain ⟨fromLast, others⟩ := List.pairwise_cons.mp sorted
      obtain ⟨fromNext, tail⟩ := List.pairwise_cons.mp others
      rw [coalesceInto_cons]
      split
      · exact ih (List.pairwise_cons.mpr
          ⟨fun interval member => fromLast interval (by simp [member]), tail⟩)
      · rename_i apart
        refine List.pairwise_cons.mpr ⟨?_, ih others⟩
        exact lower_le_coalesceInto (not_le.mp apart)
          (fun interval member => lt_of_lt_of_le (not_le.mp apart) (fromNext interval member))

theorem sorted_mergeSort_lower (intervals : List (Interval α)) :
    (intervals.mergeSort fun left right => left.lower ≤ right.lower).Pairwise
      fun left right => left.lower ≤ right.lower := by
  have transitive : ∀ a b c : Interval α, decide (a.lower ≤ b.lower) = true →
      decide (b.lower ≤ c.lower) = true → decide (a.lower ≤ c.lower) = true := by
    intro a b c first second
    exact decide_eq_true (le_trans (of_decide_eq_true first) (of_decide_eq_true second))
  have total : ∀ a b : Interval α,
      (decide (a.lower ≤ b.lower) || decide (b.lower ≤ a.lower)) = true := by
    intro a b
    simpa using le_total a.lower b.lower
  have sorted := List.pairwise_mergeSort transitive total intervals
  exact sorted.imp (by simp)

/-- Normalising keeps the set of points. -/
theorem covers_normalize (intervals : List (Interval α)) (point : α) :
    Covers (normalize intervals) point ↔ Covers intervals point := by
  have kept : Covers (intervals.filter fun interval => interval.lower < interval.upper) point ↔
      Covers intervals point := by
    constructor
    · rintro ⟨interval, member, inside⟩
      exact ⟨interval, (List.mem_filter.mp member).1, inside⟩
    · rintro ⟨interval, member, inside⟩
      exact ⟨interval, List.mem_filter.mpr ⟨member, by simpa using lt_of_le_of_lt inside.1 inside.2⟩, inside⟩
  have sorted := sorted_mergeSort_lower
    (intervals.filter fun interval => interval.lower < interval.upper)
  have permuted := covers_of_perm (List.mergeSort_perm
    (intervals.filter fun interval => interval.lower < interval.upper)
    fun left right => left.lower ≤ right.lower) point
  rw [← kept, ← permuted]
  unfold normalize
  generalize List.mergeSort _ _ = ordered at sorted ⊢
  cases ordered with
  | nil => rfl
  | cons first rest => rw [coalesce, covers_coalesceInto sorted, covers_cons]

theorem normal_normalize (intervals : List (Interval α)) : Normal (normalize intervals) := by
  have nonempty : ∀ interval ∈ (intervals.filter fun interval => interval.lower < interval.upper).mergeSort
      fun left right => left.lower ≤ right.lower, interval.Nonempty := by
    intro interval member
    have filtered := (List.mergeSort_perm _ _).mem_iff.mp member
    simpa [Nonempty] using (List.mem_filter.mp filtered).2
  have sorted := sorted_mergeSort_lower
    (intervals.filter fun interval => interval.lower < interval.upper)
  unfold normalize
  generalize List.mergeSort _ _ = ordered at sorted nonempty ⊢
  cases ordered with
  | nil => exact normal_nil
  | cons first rest =>
      exact ⟨nonempty_coalesceInto (nonempty first (by simp))
        (fun interval member => nonempty interval (by simp [member])), separated_coalesceInto sorted⟩

/-- Cutting takes away exactly the points of the range that is cut out. -/
theorem covers_cut (lower upper : α) (interval : Interval α) (point : α) :
    Covers (cut lower upper interval) point ↔
      interval.Contains point ∧ ¬ (lower ≤ point ∧ point < upper) := by
  simp only [cut, Contains]
  split
  · rename_i apart
    simp only [covers_cons, covers_nil, or_false, Contains, iff_self_and]
    rintro ⟨above, below⟩ ⟨aboveCut, belowCut⟩
    rcases apart with before | after
    · exact absurd (lt_of_lt_of_le belowCut before) (not_lt.mpr above)
    · exact absurd (lt_of_lt_of_le below after) (not_lt.mpr aboveCut)
  · rename_i overlapping
    obtain ⟨startsBefore, endsAfter⟩ := not_or.mp overlapping
    rw [covers_append]
    constructor
    · rintro (left | right)
      · split at left
        · obtain ⟨above, below⟩ : interval.lower ≤ point ∧ point < lower := by simpa [Contains] using left
          exact ⟨⟨above, below.trans (not_le.mp endsAfter)⟩, fun inside => absurd below (not_lt.mpr inside.1)⟩
        · simp at left
      · split at right
        · obtain ⟨above, below⟩ : upper ≤ point ∧ point < interval.upper := by simpa [Contains] using right
          exact ⟨⟨(not_le.mp startsBefore).le.trans above, below⟩,
            fun inside => absurd inside.2 (not_lt.mpr above)⟩
        · simp at right
    · rintro ⟨⟨above, below⟩, outside⟩
      rcases lt_or_ge point lower with before | notBefore
      · refine .inl ?_
        rw [if_pos (lt_of_le_of_lt above before)]
        simpa [Contains] using ⟨above, before⟩
      · have after : upper ≤ point := not_lt.mp fun below => outside ⟨notBefore, below⟩
        refine .inr ?_
        rw [if_pos (lt_of_le_of_lt after below)]
        simpa [Contains] using ⟨after, below⟩

/-! ## One normal form for a set of points -/

theorem covers_lower {first : Interval α} {rest : List (Interval α)} (normal : Normal (first :: rest)) :
    Covers (first :: rest) first.lower := by
  rw [covers_cons]
  exact .inl ⟨le_refl _, normal.nonempty first (by simp)⟩

/-- Every point of the later intervals is past a gap. -/
theorem upper_lt_of_covers {first : Interval α} {rest : List (Interval α)} (normal : Normal (first :: rest))
    {point : α} (covered : Covers rest point) : first.upper < point := by
  obtain ⟨interval, member, above, _⟩ := covered
  have gap := (List.pairwise_cons.mp normal.separated).1 interval member
  exact lt_of_lt_of_le gap above

theorem lower_le_of_covers {first : Interval α} {rest : List (Interval α)} (normal : Normal (first :: rest))
    {point : α} (covered : Covers (first :: rest) point) : first.lower ≤ point := by
  rcases (covers_cons first rest point).mp covered with inFirst | inRest
  · exact inFirst.1
  · have nonempty : first.lower < first.upper := normal.nonempty first (by simp)
    exact (nonempty.trans (upper_lt_of_covers normal inRest)).le

theorem not_covers_upper {first : Interval α} {rest : List (Interval α)} (normal : Normal (first :: rest)) :
    ¬ Covers (first :: rest) first.upper := by
  intro covered
  rcases (covers_cons first rest first.upper).mp covered with inFirst | inRest
  · exact lt_irrefl _ inFirst.2
  · exact lt_irrefl _ (upper_lt_of_covers normal inRest)

theorem Normal.tail {first : Interval α} {rest : List (Interval α)} (normal : Normal (first :: rest)) : Normal rest :=
  ⟨fun interval member => normal.nonempty interval (by simp [member]), (List.pairwise_cons.mp normal.separated).2⟩

/-- The first interval ends no later than another list's that covers the same points from the same start. -/
theorem upper_le_of_covers {left right : Interval α} {leftRest rightRest : List (Interval α)}
    (leftNormal : Normal (left :: leftRest)) (starts : left.lower = right.lower)
    (covered : ∀ point, Covers (right :: rightRest) point → Covers (left :: leftRest) point) :
    right.upper ≤ left.upper := by
  by_contra longer
  have inside : right.Contains left.upper :=
    ⟨starts ▸ (leftNormal.nonempty left (by simp)).le, not_le.mp longer⟩
  exact not_covers_upper leftNormal (covered _ ((covers_cons _ _ _).mpr (.inl inside)))

/-- Lists in normal form that stand for the same points are the same list. -/
theorem normal_unique {left right : List (Interval α)} (leftNormal : Normal left) (rightNormal : Normal right)
    (same : ∀ point, Covers left point ↔ Covers right point) : left = right := by
  induction left generalizing right with
  | nil =>
      cases right with
      | nil => rfl
      | cons first rest => exact absurd ((same _).mpr (covers_lower rightNormal)) (covers_nil _)
  | cons first rest ih =>
      cases right with
      | nil => exact absurd ((same _).mp (covers_lower leftNormal)) (covers_nil _)
      | cons other others =>
          have starts : first.lower = other.lower :=
            le_antisymm (lower_le_of_covers leftNormal ((same _).mpr (covers_lower rightNormal)))
              (lower_le_of_covers rightNormal ((same _).mp (covers_lower leftNormal)))
          have stops : first.upper = other.upper :=
            le_antisymm (upper_le_of_covers rightNormal starts.symm fun point => (same point).mp)
              (upper_le_of_covers leftNormal starts fun point => (same point).mpr)
          obtain rfl : first = other := by
            cases first
            cases other
            simp_all
          -- The later points are the covered ones past the first interval.
          have later : ∀ point, Covers rest point ↔ Covers others point := by
            intro point
            constructor
            · intro covered
              have past := upper_lt_of_covers leftNormal covered
              rcases (covers_cons _ _ _).mp ((same point).mp ((covers_cons _ _ _).mpr (.inr covered))) with
                inFirst | inRest
              · exact absurd inFirst.2 (not_lt.mpr past.le)
              · exact inRest
            · intro covered
              have past := upper_lt_of_covers rightNormal covered
              rcases (covers_cons _ _ _).mp ((same point).mpr ((covers_cons _ _ _).mpr (.inr covered))) with
                inFirst | inRest
              · exact absurd inFirst.2 (not_lt.mpr past.le)
              · exact inRest
          rw [ih leftNormal.tail rightNormal.tail later]

theorem normalize_of_normal {intervals : List (Interval α)} (normal : Normal intervals) :
    normalize intervals = intervals :=
  normal_unique (normal_normalize intervals) normal (covers_normalize intervals)

/-! ## Cuts of a normal form -/

/-- What a cut leaves of an interval lies within it. -/
theorem within_of_mem_cut {lower upper : α} {interval piece : Interval α} (nonempty : interval.Nonempty)
    (member : piece ∈ cut lower upper interval) :
    piece.Nonempty ∧ interval.lower ≤ piece.lower ∧ piece.upper ≤ interval.upper := by
  rw [cut] at member
  split at member
  · obtain rfl := List.mem_singleton.mp member
    exact ⟨nonempty, le_refl _, le_refl _⟩
  · rename_i overlapping
    obtain ⟨startsBefore, endsAfter⟩ := not_or.mp overlapping
    rcases List.mem_append.mp member with left | right
    · split at left
      · rename_i longer
        obtain rfl := List.mem_singleton.mp left
        exact ⟨longer, le_refl _, (not_le.mp endsAfter).le⟩
      · simp at left
    · split at right
      · rename_i longer
        obtain rfl := List.mem_singleton.mp right
        exact ⟨longer, (not_le.mp startsBefore).le, le_refl _⟩
      · simp at right

theorem separated_cut {lower upper : α} (cuts : lower < upper) (interval : Interval α) :
    (cut lower upper interval).Pairwise fun left right => left.upper < right.lower := by
  rw [cut]
  split
  · simp
  · refine List.pairwise_append.mpr ⟨?_, ?_, ?_⟩
    · split <;> simp
    · split <;> simp
    · intro left leftMember right rightMember
      split at leftMember
      · split at rightMember
        · rw [List.mem_singleton.mp leftMember, List.mem_singleton.mp rightMember]
          exact cuts
        · simp at rightMember
      · simp at leftMember

/-- A cut of a normal form needs no merging. -/
theorem normal_flatMap_cut {lower upper : α} (cuts : lower < upper) {intervals : List (Interval α)}
    (normal : Normal intervals) : Normal (intervals.flatMap (cut lower upper)) where
  nonempty := by
    intro piece member
    obtain ⟨interval, source, made⟩ := List.mem_flatMap.mp member
    exact (within_of_mem_cut (normal.nonempty interval source) made).1
  separated := by
    rw [List.pairwise_flatMap]
    refine ⟨fun interval _ => separated_cut cuts interval, ?_⟩
    refine normal.separated.imp_of_mem ?_
    intro left right leftMember rightMember apart piece made other otherMade
    have ends := (within_of_mem_cut (normal.nonempty left leftMember) made).2.2
    have starts := (within_of_mem_cut (normal.nonempty right rightMember) otherMade).2.1
    exact lt_of_le_of_lt ends (lt_of_lt_of_le apart starts)

section Point

variable {point next : α}

/-- A cut of one point touches only the interval that contains it. -/
theorem cut_of_not_contains (single : ∀ other, other < next ↔ other ≤ point) {interval : Interval α}
    (outside : ¬ interval.Contains point) : cut point next interval = [interval] := by
  have apart : next ≤ interval.lower ∨ interval.upper ≤ point := by
    by_contra meets
    obtain ⟨starts, ends⟩ := not_or.mp meets
    exact outside ⟨(single _).mp (not_le.mp starts), not_le.mp ends⟩
  rw [cut, if_pos apart]

theorem flatMap_cut_of_not_covers (single : ∀ other, other < next ↔ other ≤ point) {intervals : List (Interval α)}
    (outside : ¬ Covers intervals point) : intervals.flatMap (cut point next) = intervals := by
  induction intervals with
  | nil => rfl
  | cons first rest ih =>
      obtain ⟨notFirst, notRest⟩ := not_or.mp (mt (covers_cons first rest point).mpr outside)
      rw [List.flatMap_cons, cut_of_not_contains single notFirst, ih notRest]
      rfl

theorem length_cut_le (lower upper : α) (interval : Interval α) : (cut lower upper interval).length ≤ 2 := by
  rw [cut]
  split
  · simp
  · rw [List.length_append]
    split <;> split <;> simp

/-- Taking one point out of a normal form removes an interval, keeps their
number, or splits one of them. -/
theorem length_flatMap_cut (single : ∀ other, other < next ↔ other ≤ point) {intervals : List (Interval α)}
    (normal : Normal intervals) :
    (intervals.flatMap (cut point next)).length ≤ intervals.length + 1 ∧
      intervals.length ≤ (intervals.flatMap (cut point next)).length + 1 := by
  induction intervals with
  | nil => simp
  | cons first rest ih =>
      rw [List.flatMap_cons, List.length_append, List.length_cons]
      by_cases inside : first.Contains point
      · -- The others are past a gap, so none of them contains the point.
        have outside : ¬ Covers rest point := fun covered =>
          absurd inside.2 (not_lt.mpr (upper_lt_of_covers normal covered).le)
        have pieces := length_cut_le point next first
        rw [flatMap_cut_of_not_covers single outside]
        omega
      · obtain ⟨fewer, more⟩ := ih normal.tail
        rw [cut_of_not_contains single inside, List.length_singleton]
        omega

end Point

end Interval

end IcSqliteVfs.Data
