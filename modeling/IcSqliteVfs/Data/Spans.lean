import IcSqliteVfs.Data.Bytes
import Mathlib.Data.List.Perm.Basic

namespace IcSqliteVfs.Data

/-! # Spans of an address space

A span is a start and a length.  What is saved in one span is found again there,
and nowhere outside.
-/

structure Span where
  start : Nat
  length : Nat
deriving DecidableEq, Repr

namespace Span

variable {first second : Span} {address : Nat}

def finish (span : Span) : Nat := span.start + span.length

def Contains (span : Span) (address : Nat) : Prop := span.start ≤ address ∧ address < span.finish

instance (span : Span) (address : Nat) : Decidable (span.Contains address) :=
  inferInstanceAs (Decidable (_ ∧ _))

/-- The whole of the second span lies in the first one. -/
def Includes (first second : Span) : Prop := first.start ≤ second.start ∧ second.finish ≤ first.finish

instance (first second : Span) : Decidable (first.Includes second) := inferInstanceAs (Decidable (_ ∧ _))

def Apart (first second : Span) : Prop := first.finish ≤ second.start ∨ second.finish ≤ first.start

instance (first second : Span) : Decidable (first.Apart second) := inferInstanceAs (Decidable (_ ∨ _))

theorem Apart.symm (apart : first.Apart second) : second.Apart first := Or.symm apart

theorem Apart.not_contains (apart : first.Apart second) (inside : first.Contains address) :
    ¬ second.Contains address := by
  simp only [Apart, Contains] at *
  omega

theorem Includes.contains (includes : first.Includes second) (inside : second.Contains address) :
    first.Contains address := by
  simp only [Includes, Contains] at *
  omega

theorem Includes.apart {other : Span} (includes : first.Includes second) (apart : first.Apart other) :
    second.Apart other := by
  simp only [Includes, Apart, finish] at *
  omega

/-- A member of a list of spans is apart from what is left without it. -/
theorem apart_of_mem_erase {spans : List Span} (apart : spans.Pairwise Apart) (member : first ∈ spans)
    (other : second ∈ spans.erase first) : first.Apart second := by
  have moved := (List.perm_cons_erase member).pairwise_iff (fun left => Apart.symm left) |>.mp apart
  exact (List.pairwise_cons.mp moved).1 second other

end Span

variable {α : Type}

def load (bytes : Nat → α) (start count : Nat) : List α := (List.range count).map fun index => bytes (start + index)

def save (bytes : Nat → α) (start : Nat) (source : List α) : Nat → α := fun address =>
  if start ≤ address then (source[address - start]?).getD (bytes address) else bytes address

variable {bytes others : Nat → α} {start count : Nat} {source : List α}

@[simp] theorem length_load : (load bytes start count).length = count := by simp [load]

@[simp] theorem getElem?_load (index : Nat) :
    (load bytes start count)[index]? = if index < count then some (bytes (start + index)) else none := by
  by_cases inside : index < count <;> simp [load, inside]

theorem load_congr (same : ∀ address, (Span.mk start count).Contains address → bytes address = others address) :
    load bytes start count = load others start count := by
  apply List.map_congr_left
  intro index member
  have bound := List.mem_range.mp member
  exact same _ ⟨Nat.le_add_right _ _, Nat.add_lt_add_left bound start⟩

theorem load_add (more : Nat) : load bytes start (count + more) = load bytes start count ++ load bytes (start + count) more := by
  simp [load, List.range_add, Function.comp_def, Nat.add_assoc]

theorem take_load (fewer : Nat) : (load bytes start count).take fewer = load bytes start (min fewer count) := by
  rcases Nat.le_total fewer count with within | past
  · obtain ⟨more, rfl⟩ := Nat.exists_eq_add_of_le within
    rw [load_add, List.take_left' length_load, Nat.min_eq_left within]
  · rw [List.take_of_length_le (by simpa using past), Nat.min_eq_right past]

theorem drop_load (fewer : Nat) : (load bytes start count).drop fewer = load bytes (start + fewer) (count - fewer) := by
  by_cases within : fewer ≤ count
  · obtain ⟨more, rfl⟩ := Nat.exists_eq_add_of_le within
    rw [load_add, List.drop_left' length_load, Nat.add_sub_cancel_left]
  · simp [load, show count - fewer = 0 by omega, List.drop_eq_nil_of_le, show count ≤ fewer by omega]

theorem save_outside {address : Nat} (outside : ¬ (Span.mk start source.length).Contains address) :
    save bytes start source address = bytes address := by
  simp only [Span.Contains, Span.finish, not_and, Nat.not_lt] at outside
  by_cases behind : start ≤ address
  · have past := outside behind
    simp [save, behind, List.getElem?_eq_none (show source.length ≤ address - start by omega)]
  · simp [save, behind]

theorem load_save_self : load (save bytes start source) start source.length = source := by
  apply List.ext_getElem?
  intro index
  rw [getElem?_load]
  by_cases inside : index < source.length
  · simp [save, inside]
  · simp [inside]

theorem load_save_apart {other : Nat} (apart : (Span.mk start source.length).Apart ⟨other, count⟩) :
    load (save bytes start source) other count = load bytes other count :=
  load_congr fun _ inside => save_outside (Span.Apart.not_contains apart.symm inside)

/-- What is saved inside a span patches what is loaded from it. -/
theorem load_save_inside {offset : Nat} (room : offset + source.length ≤ count) :
    load (save bytes (start + offset) source) start count = patch (load bytes start count) offset source := by
  have parts : count = offset + source.length + (count - (offset + source.length)) := by omega
  have front : load (save bytes (start + offset) source) start offset = load bytes start offset :=
    load_save_apart (by simp [Span.Apart, Span.finish])
  have back : load (save bytes (start + offset) source) (start + (offset + source.length))
      (count - (offset + source.length)) = load bytes (start + (offset + source.length)) (count - (offset + source.length)) :=
    load_save_apart (by simp [Span.Apart, Span.finish, Nat.add_assoc])
  conv => lhs; rw [parts]
  rw [load_add, load_add, front, load_save_self, back, patch, take_load, drop_load, Nat.min_eq_left (by omega)]

end IcSqliteVfs.Data
