import Mathlib.Tactic.Common

namespace IcSqliteVfs.Data

/-! # Flag words

Setting and clearing a flag, seen through the test of the same and of another
flag.
-/

variable (word flag other : UInt64)

theorem set_and_self : (word ||| flag) &&& flag = flag := by
  apply UInt64.toBitVec_inj.mp
  simp only [UInt64.toBitVec_and, UInt64.toBitVec_or]
  ext index inside
  simp only [BitVec.getElem_and, BitVec.getElem_or]
  cases word.toBitVec[index] <;> cases flag.toBitVec[index] <;> rfl

theorem clear_and_self : word &&& ~~~flag &&& flag = 0 := by
  rw [UInt64.and_assoc]
  simp

variable {flag other}

theorem clear_and_other (apart : flag &&& ~~~other = flag) : word &&& ~~~other &&& flag = word &&& flag := by
  rw [UInt64.and_assoc, UInt64.and_comm (~~~other) flag, apart]

theorem set_and_other (apart : flag &&& ~~~other = flag) : (word ||| other) &&& flag = word &&& flag := by
  have bits := UInt64.toBitVec_inj.mpr apart
  apply UInt64.toBitVec_inj.mp
  simp only [UInt64.toBitVec_and, UInt64.toBitVec_or, UInt64.toBitVec_not] at bits ⊢
  ext index inside
  have bit := congrArg (fun value => value.getLsbD index) bits
  simp only [BitVec.getLsbD_eq_getElem inside, BitVec.getElem_and, BitVec.getElem_not,
    BitVec.getElem_or] at bit ⊢
  revert bit
  cases word.toBitVec[index] <;> cases flag.toBitVec[index] <;> cases other.toBitVec[index] <;> simp

end IcSqliteVfs.Data
