import IcSqliteVfs.Data.Bytes
import Mathlib.Algebra.Order.Ring.Nat
import Mathlib.Tactic.Ring

namespace IcSqliteVfs.Data

/-! # Little-endian words and records of equal chunks -/

/-- The `width` low bytes of a number, least significant first. -/
def leBytes : Nat → Nat → List UInt8
  | 0, _ => []
  | width + 1, number => UInt8.ofNat (number % 256) :: leBytes width (number / 256)

def leValue : List UInt8 → Nat
  | [] => 0
  | byte :: rest => byte.toNat + 256 * leValue rest

theorem leBytes_succ (width number : Nat) :
    leBytes (width + 1) number = UInt8.ofNat (number % 256) :: leBytes width (number / 256) := rfl

theorem leValue_cons (byte : UInt8) (rest : List UInt8) :
    leValue (byte :: rest) = byte.toNat + 256 * leValue rest := rfl

@[simp] theorem length_leBytes (width number : Nat) : (leBytes width number).length = width := by
  induction width generalizing number with
  | zero => rfl
  | succ width ih => simp only [leBytes_succ, List.length_cons, ih]

theorem leValue_leBytes (width number : Nat) : leValue (leBytes width number) = number % 256 ^ width := by
  induction width generalizing number with
  | zero => exact (Nat.mod_one number).symm
  | succ width ih =>
      have low : (UInt8.ofNat (number % 256)).toNat = number % 256 := by
        rw [UInt8.toNat_ofNat']
        omega
      rw [leBytes_succ, leValue_cons, ih, low, pow_succ', Nat.mod_mul]

theorem leValue_leBytes_of_lt {width number : Nat} (fits : number < 256 ^ width) :
    leValue (leBytes width number) = number := by
  rw [leValue_leBytes, Nat.mod_eq_of_lt fits]

theorem leValue_lt (bytes : List UInt8) : leValue bytes < 256 ^ bytes.length := by
  induction bytes with
  | nil => exact Nat.one_pos
  | cons byte rest ih =>
      have low := byte.toNat_lt
      rw [leValue_cons, List.length_cons, pow_succ']
      omega

/-- The chunk at a position of a record of equally long chunks. -/
theorem window_flatten {α : Type} {width : Nat} {chunks : List (List α)} (rest : List α)
    (widths : ∀ chunk ∈ chunks, chunk.length = width) {index : Nat} {chunk : List α}
    (selected : chunks[index]? = some chunk) :
    window (chunks.flatten ++ rest) (index * width) width = chunk := by
  induction chunks generalizing index with
  | nil => simp at selected
  | cons first others ih =>
      have firstWidth := widths first (by simp)
      cases index with
      | zero =>
          obtain rfl : first = chunk := by simpa using selected
          simp [window, ← firstWidth]
      | succ index =>
          have skipped : window ((first :: others).flatten ++ rest) ((index + 1) * width) width =
              window (others.flatten ++ rest) (index * width) width := by
            have position : (index + 1) * width = first.length + index * width := by
              rw [firstWidth]
              ring
            have consumed : first.drop (first.length + index * width) = [] :=
              List.drop_eq_nil_of_le (Nat.le_add_right _ _)
            rw [window, window, List.flatten_cons, List.append_assoc, position, List.drop_append,
              consumed, List.nil_append, Nat.add_sub_cancel_left]
          rw [skipped]
          exact ih (fun chunk member => widths chunk (by simp [member])) (by simpa using selected)

theorem length_flatten_of_widths {α : Type} {width : Nat} {chunks : List (List α)}
    (widths : ∀ chunk ∈ chunks, chunk.length = width) :
    chunks.flatten.length = chunks.length * width := by
  induction chunks with
  | nil => simp
  | cons first others ih =>
      rw [List.flatten_cons, List.length_append, widths first (by simp),
        ih (fun chunk member => widths chunk (by simp [member])), List.length_cons]
      ring

end IcSqliteVfs.Data
