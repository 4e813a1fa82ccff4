import Mathlib.Data.List.GetD
import Mathlib.Data.List.Nodup
import Mathlib.Tactic.Common

namespace IcSqliteVfs.Data

/-! # Address spaces laid out over frames

Slots of one size are handed out one after the other.  A table says who owns
each slot; the slots of an owner, in order, are its frames, and a position of
its address space lies in the frame its quotient selects.
-/

section Owned

variable {ι : Type} [DecidableEq ι]

/-- The slots of an owner, in order. -/
def owned (owners : List ι) (owner : ι) : List Nat :=
  (List.range owners.length).filter fun slot => owners[slot]? = some owner

@[simp] theorem owned_nil (owner : ι) : owned [] owner = [] := rfl

theorem mem_owned {owners : List ι} {owner : ι} {slot : Nat} :
    slot ∈ owned owners owner ↔ owners[slot]? = some owner := by
  rw [owned, List.mem_filter, List.mem_range, decide_eq_true_eq]
  constructor
  · intro found
    exact found.2
  · intro found
    obtain ⟨inside, _⟩ := List.getElem?_eq_some_iff.mp found
    exact ⟨inside, found⟩

theorem nodup_owned (owners : List ι) (owner : ι) : (owned owners owner).Nodup :=
  List.nodup_range.filter _

theorem lt_of_mem_owned {owners : List ι} {owner : ι} {slot : Nat} (member : slot ∈ owned owners owner) :
    slot < owners.length :=
  (List.getElem?_eq_some_iff.mp (mem_owned.mp member)).1

/-- Handing out the next slot. -/
theorem owned_concat (owners : List ι) (last owner : ι) :
    owned (owners ++ [last]) owner =
      if last = owner then owned owners owner ++ [owners.length] else owned owners owner := by
  have before : (List.range owners.length).filter (fun slot => (owners ++ [last])[slot]? = some owner) =
      owned owners owner := by
    apply List.filter_congr
    intro slot member
    rw [List.getElem?_append_left (List.mem_range.mp member)]
  rw [owned, List.length_append, List.length_singleton, List.range_succ, List.filter_append, before]
  split
  · rename_i same
    simp [same]
  · rename_i other
    simp [other]

/-- Handing out several slots to the same owner. -/
theorem owned_append_replicate (owners : List ι) (count : Nat) (last owner : ι) :
    owned (owners ++ List.replicate count last) owner =
      if last = owner then owned owners owner ++ (List.range count).map (owners.length + ·)
      else owned owners owner := by
  induction count with
  | zero => simp
  | succ count ih =>
      have length : (owners ++ List.replicate count last).length = owners.length + count := by simp
      rw [List.replicate_succ', ← List.append_assoc, owned_concat, ih, length]
      split
      · rw [List.range_succ, List.map_append, List.append_assoc]
        rfl
      · rfl

/-- The slots an owner has keep their order, and the new ones come from the end. -/
theorem owned_extended (owners : List ι) (count : Nat) (last owner : ι) :
    ∃ more, owned (owners ++ List.replicate count last) owner = owned owners owner ++ more ∧
      ∀ slot ∈ more, owners.length ≤ slot := by
  rw [owned_append_replicate]
  split
  · refine ⟨_, rfl, ?_⟩
    intro slot member
    obtain ⟨index, _, rfl⟩ := List.mem_map.mp member
    exact Nat.le_add_right _ _
  · exact ⟨[], (List.append_nil _).symm, by simp⟩

end Owned

/-- Where a position lies: behind `start`, in the frame that its quotient selects. -/
def place (start unit : Nat) (frames : List Nat) (position : Nat) : Nat :=
  start + unit * frames.getD (position / unit) 0 + position % unit

variable {start unit : Nat} {frames others : List Nat}

theorem getD_mem {index : Nat} (inside : index < frames.length) : frames.getD index 0 ∈ frames := by
  rw [List.getD_eq_getElem _ _ inside]
  exact List.getElem_mem inside

theorem div_lt_of_lt_mul {position count : Nat} (inside : position < count * unit) : position / unit < count :=
  Nat.div_lt_of_lt_mul (by rwa [Nat.mul_comm])

/-- The position at some distance inside one frame. -/
theorem place_eq {index offset : Nat} (inside : offset < unit) :
    place start unit frames (index * unit + offset) = start + unit * frames.getD index 0 + offset := by
  have quotient : (index * unit + offset) / unit = index := by
    rw [Nat.mul_comm, Nat.mul_add_div (by omega), Nat.div_eq_of_lt inside, Nat.add_zero]
  have remainder : (index * unit + offset) % unit = offset := by
    rw [Nat.mul_comm, Nat.mul_add_mod, Nat.mod_eq_of_lt inside]
  rw [place, quotient, remainder]

theorem place_lt (positive : 0 < unit) {position limit : Nat} (inside : position < frames.length * unit)
    (bounded : ∀ frame ∈ frames, frame < limit) : place start unit frames position < start + unit * limit := by
  have frame := bounded _ (getD_mem (div_lt_of_lt_mul inside))
  have remainder := Nat.mod_lt position positive
  have step : unit * frames.getD (position / unit) 0 + unit ≤ unit * limit := by
    rw [← Nat.mul_succ]
    exact Nat.mul_le_mul_left unit frame
  rw [place]
  omega

theorem start_le_place (position : Nat) : start ≤ place start unit frames position := by
  rw [place, Nat.add_assoc]
  exact Nat.le_add_right _ _

/-- An address names its frame and the place in it. -/
theorem place_frame (positive : 0 < unit) {position other : Nat}
    (same : place start unit frames position = place start unit others other) :
    frames.getD (position / unit) 0 = others.getD (other / unit) 0 ∧ position % unit = other % unit := by
  rw [place, place, Nat.add_assoc, Nat.add_assoc] at same
  have inFrame := Nat.add_left_cancel same
  have left := Nat.mod_lt position positive
  have right := Nat.mod_lt other positive
  refine ⟨?_, ?_⟩
  · have divided := congrArg (· / unit) inFrame
    simpa only [Nat.mul_add_div positive, Nat.div_eq_of_lt left, Nat.div_eq_of_lt right, Nat.add_zero] using divided
  · have reduced := congrArg (· % unit) inFrame
    simpa only [Nat.mul_add_mod, Nat.mod_eq_of_lt left, Nat.mod_eq_of_lt right] using reduced

/-- Inside one address space different positions have different addresses. -/
theorem place_inj (positive : 0 < unit) (distinct : frames.Nodup) {position other : Nat}
    (inside : position < frames.length * unit) (otherInside : other < frames.length * unit)
    (same : place start unit frames position = place start unit frames other) : position = other := by
  obtain ⟨sameFrame, sameRest⟩ := place_frame positive same
  have index := div_lt_of_lt_mul inside
  have otherIndex := div_lt_of_lt_mul otherInside
  rw [List.getD_eq_getElem _ _ index, List.getD_eq_getElem _ _ otherIndex] at sameFrame
  have quotient := (List.Nodup.getElem_inj_iff distinct).mp sameFrame
  rw [← Nat.div_add_mod position unit, ← Nat.div_add_mod other unit, quotient, sameRest]

/-- Address spaces of different owners do not meet. -/
theorem place_ne {ι : Type} [DecidableEq ι] {owners : List ι} {first second : ι} (apart : first ≠ second)
    (positive : 0 < unit) {position other : Nat} (inside : position < (owned owners first).length * unit)
    (otherInside : other < (owned owners second).length * unit) :
    place start unit (owned owners first) position ≠ place start unit (owned owners second) other := by
  intro same
  obtain ⟨sameFrame, _⟩ := place_frame positive same
  have mine := mem_owned.mp (getD_mem (div_lt_of_lt_mul inside))
  have yours := mem_owned.mp (getD_mem (div_lt_of_lt_mul otherInside))
  rw [sameFrame, yours] at mine
  exact apart (Option.some.inj mine).symm

/-- More frames behind the old ones do not move what is there. -/
theorem place_append {position : Nat} (more : List Nat) (inside : position < frames.length * unit) :
    place start unit (frames ++ more) position = place start unit frames position := by
  rw [place, place, List.getD_append _ _ _ _ (div_lt_of_lt_mul inside)]

/-- What is behind the old frames lies in the new ones. -/
theorem le_place_append {more : List Nat} {position limit : Nat} (positive : 0 < unit)
    (behind : frames.length * unit ≤ position) (inside : position < (frames ++ more).length * unit)
    (fresh : ∀ frame ∈ more, limit ≤ frame) :
    start + unit * limit ≤ place start unit (frames ++ more) position := by
  have index : frames.length ≤ position / unit := (Nat.le_div_iff_mul_le positive).mpr behind
  have bound := div_lt_of_lt_mul inside
  rw [List.length_append] at bound
  have frame : limit ≤ more.getD (position / unit - frames.length) 0 := fresh _ (getD_mem (by omega))
  have scaled := Nat.mul_le_mul_left unit frame
  rw [place, List.getD_append_right _ _ _ _ index]
  omega

end IcSqliteVfs.Data
