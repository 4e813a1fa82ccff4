import Mathlib.Data.List.Nodup
import Mathlib.Tactic.Common

namespace IcSqliteVfs.Data

/-! # Keyed lists

Vectors of key and value pairs searched from the front, as a small cache keeps
them.
-/

variable {κ β : Type} [DecidableEq κ]

/-- Overwrite the value of the first entry with this key. -/
def replaceValue (key : κ) (value : β) : List (κ × β) → List (κ × β)
  | [] => []
  | entry :: rest => if entry.1 = key then (entry.1, value) :: rest else entry :: replaceValue key value rest

theorem mem_of_lookup {key : κ} {value : β} {entries : List (κ × β)} (found : entries.lookup key = some value) :
    (key, value) ∈ entries := by
  induction entries with
  | nil => simp at found
  | cons entry rest ih =>
      rw [List.lookup_cons] at found
      by_cases same : key = entry.1
      · rw [beq_iff_eq.mpr same] at found
        obtain rfl := Option.some.inj found
        rw [same]
        exact List.mem_cons_self
      · rw [beq_eq_false_iff_ne.mpr same] at found
        exact List.mem_cons_of_mem _ (ih found)

theorem lookup_eq_none_of {key : κ} {entries : List (κ × β)} :
    entries.lookup key = none ↔ key ∉ entries.map Prod.fst := by
  induction entries with
  | nil => simp
  | cons entry rest ih =>
      rw [List.lookup_cons, List.map_cons, List.mem_cons, not_or]
      by_cases same : key = entry.1
      · rw [beq_iff_eq.mpr same]
        simp [same]
      · rw [beq_eq_false_iff_ne.mpr same]
        simpa [same] using ih

/-- With distinct keys every entry is the one a search finds. -/
theorem lookup_eq_of_mem {key : κ} {value : β} {entries : List (κ × β)}
    (distinct : (entries.map Prod.fst).Nodup) (member : (key, value) ∈ entries) :
    entries.lookup key = some value := by
  induction entries with
  | nil => simp at member
  | cons entry rest ih =>
      obtain ⟨fresh, others⟩ := List.nodup_cons.mp distinct
      rw [List.lookup_cons]
      rcases List.mem_cons.mp member with first | later
      · rw [← first]
        simp
      · have differs : key ≠ entry.1 := by
          intro same
          exact fresh (same ▸ List.mem_map_of_mem later)
        rw [beq_eq_false_iff_ne.mpr differs]
        exact ih others later

theorem replaceValue_cons (key : κ) (value : β) (entry : κ × β) (rest : List (κ × β)) :
    replaceValue key value (entry :: rest) =
      if entry.1 = key then (entry.1, value) :: rest else entry :: replaceValue key value rest := rfl

theorem map_fst_replaceValue (key : κ) (value : β) (entries : List (κ × β)) :
    (replaceValue key value entries).map Prod.fst = entries.map Prod.fst := by
  induction entries with
  | nil => rfl
  | cons entry rest ih =>
      rw [replaceValue_cons]
      split
      · rfl
      · rw [List.map_cons, List.map_cons, ih]

theorem mem_replaceValue {key : κ} {value : β} {entries : List (κ × β)} {entry : κ × β}
    (member : entry ∈ replaceValue key value entries) : entry = (key, value) ∨ entry ∈ entries := by
  induction entries with
  | nil => exact absurd member List.not_mem_nil
  | cons first rest ih =>
      rw [replaceValue_cons] at member
      split at member
      · rename_i same
        rcases List.mem_cons.mp member with here | there
        · exact .inl (same ▸ here)
        · exact .inr (List.mem_cons_of_mem _ there)
      · rcases List.mem_cons.mp member with here | there
        · exact .inr (here ▸ List.mem_cons_self)
        · exact (ih there).imp_right (List.mem_cons_of_mem _)

theorem lookup_replaceValue {key : κ} {value old : β} {entries : List (κ × β)}
    (found : entries.lookup key = some old) (other : κ) :
    (replaceValue key value entries).lookup other = if other = key then some value else entries.lookup other := by
  induction entries with
  | nil => simp at found
  | cons entry rest ih =>
      rw [replaceValue_cons]
      by_cases same : entry.1 = key
      · rw [if_pos same, List.lookup_cons, List.lookup_cons, same]
        by_cases wanted : other = key
        · rw [if_pos wanted, beq_iff_eq.mpr wanted]
        · rw [if_neg wanted, beq_eq_false_iff_ne.mpr wanted]
      · have later : rest.lookup key = some old := by
          rwa [List.lookup_cons, beq_eq_false_iff_ne.mpr (Ne.symm same)] at found
        rw [if_neg same, List.lookup_cons, List.lookup_cons, ih later]
        by_cases wanted : other = key
        · simp only [wanted, beq_eq_false_iff_ne.mpr (Ne.symm same), if_true]
        · simp only [wanted, if_false]

/-- Revise the value of the first entry with this key; append an entry when there is none. -/
def upsert (key : κ) (revise : β → β) (fresh : β) : List (κ × β) → List (κ × β)
  | [] => [(key, fresh)]
  | entry :: rest => if entry.1 = key then (entry.1, revise entry.2) :: rest else entry :: upsert key revise fresh rest

theorem lookup_upsert (key : κ) (revise : β → β) (fresh : β) (entries : List (κ × β)) (other : κ) :
    (upsert key revise fresh entries).lookup other =
      if other = key then some (((entries.lookup key).map revise).getD fresh) else entries.lookup other := by
  induction entries with
  | nil =>
      by_cases wanted : other = key
      · simp [upsert, wanted]
      · simp [upsert, wanted, List.lookup_cons, beq_eq_false_iff_ne.mpr wanted]
  | cons entry rest ih =>
      rw [upsert]
      by_cases same : entry.1 = key
      · rw [if_pos same, List.lookup_cons, List.lookup_cons, List.lookup_cons, same]
        by_cases wanted : other = key
        · simp [wanted]
        · simp [wanted, beq_eq_false_iff_ne.mpr wanted]
      · rw [if_neg same, List.lookup_cons, List.lookup_cons, List.lookup_cons, ih,
          beq_eq_false_iff_ne.mpr (Ne.symm same)]
        by_cases wanted : other = key
        · simp only [wanted, beq_eq_false_iff_ne.mpr (Ne.symm same), if_true]
        · simp only [wanted, if_false]

theorem lookup_append_single (key : κ) (value : β) (entries : List (κ × β)) (other : κ) :
    (entries ++ [(key, value)]).lookup other =
      (entries.lookup other).or (if other = key then some value else none) := by
  rw [List.lookup_append]
  congr 1
  rw [List.lookup_cons, List.lookup_nil]
  by_cases wanted : other = key
  · rw [if_pos wanted, beq_iff_eq.mpr wanted]
  · rw [if_neg wanted, beq_eq_false_iff_ne.mpr wanted]

theorem lookup_filter_key (kept : κ → Bool) (entries : List (κ × β)) (key : κ) :
    (entries.filter fun entry => kept entry.1).lookup key = if kept key then entries.lookup key else none := by
  induction entries with
  | nil => simp
  | cons entry rest ih =>
      rw [List.filter_cons]
      by_cases wanted : key = entry.1
      · by_cases keeps : kept entry.1 = true
        · rw [if_pos keeps, List.lookup_cons, List.lookup_cons, ← wanted]
          simp [wanted, keeps]
        · rw [if_neg keeps, ih, wanted]
          simp [keeps]
      · split
        · rw [List.lookup_cons, List.lookup_cons, beq_eq_false_iff_ne.mpr wanted]
          exact ih
        · rw [ih, List.lookup_cons, beq_eq_false_iff_ne.mpr wanted]

/-- Where a search succeeds, and what is left when the found element is removed. -/
theorem split_of_find? {α : Type} {test : α → Bool} {values : List α} {found : α}
    (search : values.find? test = some found) :
    ∃ front back, values = front ++ found :: back ∧ values.eraseP test = front ++ back := by
  obtain ⟨accepted, front, back, rfl, before⟩ := List.find?_eq_some_iff_append.mp search
  refine ⟨front, back, rfl, ?_⟩
  have passed : ∀ value ∈ front, ¬ test value = true := by simpa using before
  rw [List.eraseP_append_right _ passed, List.eraseP_cons_of_pos accepted]

/-- Append to a list of bounded length; a full one drops its oldest entry. -/
def pushBounded {α : Type} (capacity : Nat) (values : List α) (value : α) : List α :=
  (if values.length = capacity then values.drop 1 else values) ++ [value]

theorem mem_pushBounded {α : Type} {capacity : Nat} {values : List α} {value found : α}
    (member : found ∈ pushBounded capacity values value) : found = value ∨ found ∈ values := by
  rcases List.mem_append.mp member with old | new
  · split at old
    · exact .inr (List.mem_of_mem_drop old)
    · exact .inr old
  · exact .inl (List.mem_singleton.mp new)

/-- `Vec::swap_remove`: the last element takes the place of the removed one. -/
def swapRemove {α : Type} (values : List α) (index : Nat) : List α :=
  match values.getLast? with
  | none => values
  | some last => (values.set index last).dropLast

theorem swapRemove_perm {α : Type} (front back : List α) (value : α) :
    (swapRemove (front ++ value :: back) front.length).Perm (front ++ back) := by
  rcases List.eq_nil_or_concat back with rfl | ⟨middle, last, rfl⟩
  · simp [swapRemove]
  · have final : (front ++ value :: (middle ++ [last])).getLast? = some last := by
      rw [← List.cons_append, ← List.append_assoc, List.getLast?_concat]
    have moved : (front ++ value :: (middle ++ [last])).set front.length last =
        (front ++ last :: middle) ++ [last] := by simp
    rw [swapRemove, List.concat_eq_append, final]
    dsimp only
    rw [moved, List.dropLast_concat, ← List.append_assoc]
    exact List.perm_middle.trans (List.perm_append_singleton last (front ++ middle)).symm

/-- With distinct keys the order of the entries does not matter. -/
theorem lookup_perm {entries others : List (κ × β)} (distinct : (entries.map Prod.fst).Nodup)
    (perm : entries.Perm others) (key : κ) : others.lookup key = entries.lookup key := by
  have distinctOthers : (others.map Prod.fst).Nodup := (perm.map Prod.fst).nodup_iff.mp distinct
  cases found : entries.lookup key with
  | some value => exact lookup_eq_of_mem distinctOthers (perm.mem_iff.mp (mem_of_lookup found))
  | none =>
      rw [lookup_eq_none_of] at found ⊢
      intro member
      exact found ((perm.map Prod.fst).mem_iff.mpr member)

/-- The entry of a key is gone, and the others are still there. -/
theorem swapRemove_lookup {key : κ} {value : β} {entries : List (κ × β)} (distinct : (entries.map Prod.fst).Nodup)
    (found : entries.lookup key = some value) :
    ((swapRemove entries (entries.findIdx fun entry => entry.1 = key)).map Prod.fst).Nodup ∧
      ∀ other, (swapRemove entries (entries.findIdx fun entry => entry.1 = key)).lookup other =
        if other = key then none else entries.lookup other := by
  obtain ⟨front, back, rfl⟩ := List.append_of_mem (mem_of_lookup found)
  have spread := distinct
  rw [List.map_append, List.map_cons, List.nodup_middle, List.nodup_cons, ← List.map_append] at spread
  obtain ⟨fresh, rest⟩ := spread
  have place : (front ++ (key, value) :: back).findIdx (fun entry => entry.1 = key) = front.length := by
    have before : ∀ entry ∈ front, ¬ entry.1 = key := by
      intro entry member same
      exact fresh (List.mem_map.mpr ⟨entry, List.mem_append_left back member, same⟩)
    have none : front.findIdx (fun entry => entry.1 = key) = front.length :=
      List.findIdx_eq_length_of_false fun entry member => decide_eq_false (before entry member)
    rw [List.findIdx_append, if_neg (by rw [none]; exact Nat.lt_irrefl _), List.findIdx_cons]
    simp
  have perm := swapRemove_perm front back (key, value)
  rw [place]
  refine ⟨(perm.map Prod.fst).nodup_iff.mpr rest, fun other => ?_⟩
  rw [lookup_perm rest perm.symm]
  have whole := lookup_perm distinct (List.perm_middle : (front ++ (key, value) :: back).Perm _) other
  rw [← whole, List.lookup_cons]
  by_cases same : other = key
  · rw [if_pos same, lookup_eq_none_of, same]
    exact fresh
  · rw [if_neg same, beq_eq_false_iff_ne.mpr same]

end IcSqliteVfs.Data
