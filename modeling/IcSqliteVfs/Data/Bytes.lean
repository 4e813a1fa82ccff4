import Mathlib.Data.List.GetD
import Mathlib.Tactic.Common

namespace IcSqliteVfs.Data

/-! # Flat sequences with a filler

A file is a finite sequence; positions past its end read as the filler.  Every
operation here is described by its length and by what it puts at each position,
so that two ways of building a sequence are compared position by position.
-/

variable {α : Type} (filler : α)

/-- Overwrite the positions from `start` on with `source`, which has to fit. -/
def patch (values : List α) (start : Nat) (source : List α) : List α :=
  values.take start ++ source ++ values.drop (start + source.length)

/-- The `count` values from `start` on. -/
def window (values : List α) (start count : Nat) : List α :=
  (values.drop start).take count

/-- Cut or extend with the filler. -/
def resize (values : List α) (length : Nat) : List α :=
  values.take length ++ List.replicate (length - values.length) filler

/-- Splice `source` in at `start`, after filling any gap before it.  Splicing
nothing leaves the sequence alone, wherever it is asked for. -/
def splice (values : List α) (start : Nat) (source : List α) : List α :=
  if source.isEmpty then values
  else patch (resize filler values (max values.length (start + source.length))) start source

/-- The `count` positions from `start` on, with the filler past the end. -/
def readFrom (values : List α) (start count : Nat) : List α :=
  (List.range count).map fun index => values.getD (start + index) filler

theorem ext_getD {left right : List α} (lengths : left.length = right.length)
    (positions : ∀ index, index < left.length → left.getD index filler = right.getD index filler) :
    left = right := by
  apply List.ext_getElem lengths
  intro index inLeft inRight
  have same := positions index inLeft
  rwa [List.getD_eq_getElem _ _ inLeft, List.getD_eq_getElem _ _ inRight] at same

theorem getD_past {values : List α} {index : Nat} (past : values.length ≤ index) :
    values.getD index filler = filler :=
  List.getD_eq_default _ _ past

theorem getD_append (left right : List α) (index : Nat) :
    (left ++ right).getD index filler =
      if index < left.length then left.getD index filler
      else right.getD (index - left.length) filler := by
  split
  · exact List.getD_append _ _ _ _ ‹_›
  · exact List.getD_append_right _ _ _ _ (by omega)

theorem getD_take (values : List α) (count index : Nat) :
    (values.take count).getD index filler =
      if index < count then values.getD index filler else filler := by
  simp only [List.getD_eq_getElem?_getD, List.getElem?_take]
  split <;> rfl

theorem getD_drop (values : List α) (count index : Nat) :
    (values.drop count).getD index filler = values.getD (count + index) filler := by
  simp only [List.getD_eq_getElem?_getD, List.getElem?_drop]

theorem getD_replicate (count index : Nat) :
    (List.replicate count filler).getD index filler = filler := by
  simp only [List.getD_eq_getElem?_getD, List.getElem?_replicate]
  split <;> rfl

section Patch

variable {values source : List α} {start : Nat}

theorem length_patch (room : start + source.length ≤ values.length) :
    (patch values start source).length = values.length := by
  simp only [patch, List.length_append, List.length_take, List.length_drop]
  omega

theorem getD_patch (room : start + source.length ≤ values.length) (index : Nat) :
    (patch values start source).getD index filler =
      if start ≤ index ∧ index < start + source.length then source.getD (index - start) filler
      else values.getD index filler := by
  have taken : (values.take start).length = start := by
    simp only [List.length_take]
    omega
  rw [patch, getD_append, getD_append, List.length_append, taken, getD_take, getD_drop]
  by_cases before : index < start
  · rw [if_pos (by omega), if_pos before, if_pos before, if_neg (by omega)]
  · by_cases inside : index < start + source.length
    · rw [if_pos inside, if_neg before, if_pos (by omega)]
    · have position : start + source.length + (index - (start + source.length)) = index := by omega
      rw [if_neg inside, if_neg (by omega), position]

end Patch

theorem length_window {values : List α} {start count : Nat} (room : start + count ≤ values.length) :
    (window values start count).length = count := by
  simp only [window, List.length_take, List.length_drop]
  omega

theorem getD_window (values : List α) (start count index : Nat) :
    (window values start count).getD index filler =
      if index < count then values.getD (start + index) filler else filler := by
  rw [window, getD_take, getD_drop]

theorem length_resize (values : List α) (length : Nat) :
    (resize filler values length).length = length := by
  simp only [resize, List.length_append, List.length_take, List.length_replicate]
  omega

theorem getD_resize (values : List α) (length index : Nat) :
    (resize filler values length).getD index filler =
      if index < length then values.getD index filler else filler := by
  rw [resize, getD_append, getD_take, getD_replicate, List.length_take]
  by_cases kept : index < length
  · by_cases inside : index < values.length
    · have taken : index < min length values.length := by omega
      simp only [kept, taken, if_true]
    · have filled : ¬ index < min length values.length := by omega
      simp only [kept, filled, if_true, if_false, getD_past filler (Nat.not_lt.mp inside)]
  · have filled : ¬ index < min length values.length := by omega
    simp only [kept, filled, if_false]

theorem length_splice (values : List α) (start : Nat) (source : List α) :
    (splice filler values start source).length =
      if source.isEmpty then values.length else max values.length (start + source.length) := by
  unfold splice
  split
  · rfl
  · rw [length_patch, length_resize]
    rw [length_resize]
    omega

theorem getD_splice (values : List α) (start : Nat) (source : List α) (index : Nat) :
    (splice filler values start source).getD index filler =
      if start ≤ index ∧ index < start + source.length then source.getD (index - start) filler
      else values.getD index filler := by
  unfold splice
  split
  · rename_i empty
    have none : source = [] := List.isEmpty_iff.mp empty
    have outside : ¬ (start ≤ index ∧ index < start + source.length) := by
      simp only [none, List.length_nil]
      omega
    rw [if_neg outside]
  · rw [getD_patch filler (by rw [length_resize]; omega), getD_resize]
    by_cases covered : start ≤ index ∧ index < start + source.length
    · simp only [covered, and_self, if_true]
    · by_cases kept : index < max values.length (start + source.length)
      · simp only [covered, kept, if_true, if_false]
      · simp only [covered, kept, if_false]
        exact (getD_past filler (by omega)).symm

@[simp] theorem length_readFrom (values : List α) (start count : Nat) :
    (readFrom filler values start count).length = count := by
  simp [readFrom]

theorem getD_map_range (value : Nat → α) (count index : Nat) :
    ((List.range count).map value).getD index filler = if index < count then value index else filler := by
  by_cases inside : index < count
  · simp [List.getD_eq_getElem?_getD, inside]
  · simp [List.getD_eq_getElem?_getD, inside]

theorem getD_readFrom (values : List α) (start count index : Nat) :
    (readFrom filler values start count).getD index filler =
      if index < count then values.getD (start + index) filler else filler :=
  getD_map_range filler _ count index

theorem readFrom_append (values : List α) (start first second : Nat) :
    readFrom filler values start (first + second) =
      readFrom filler values start first ++ readFrom filler values (start + first) second := by
  simp only [readFrom, List.range_add, List.map_append, List.map_map, List.append_cancel_left_eq]
  apply List.map_congr_left
  intro index _
  simp only [Function.comp_apply, Nat.add_assoc]

end IcSqliteVfs.Data
