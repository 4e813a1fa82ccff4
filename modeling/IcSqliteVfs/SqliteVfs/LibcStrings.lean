import IcSqliteVfs.SqliteVfs.Libc
import Mathlib.Data.List.TakeWhile
import Mathlib.Data.List.Lex

namespace IcSqliteVfs.SqliteVfs.Libc

/-! # What the string functions answer -/

/-- The bytes begin with a text and the null byte that ends it. -/
structure Terminated (bytes text : List UInt8) : Prop where
  nonzero : 0 ∉ text
  ends : ∃ rest, bytes = text ++ 0 :: rest

/-- The sign tells two texts apart, their bytes compared without sign. -/
structure Orders (sign : Int) (left right : List UInt8) : Prop where
  equal : sign = 0 ↔ left = right
  below : sign < 0 ↔ left < right

variable {bytes others text other rest set : List UInt8} {target : UInt8} {index : Nat}

/-! ## Comparing -/

theorem difference_eq_zero {left right : UInt8} : difference left right = 0 ↔ left = right := by
  rw [difference, ← UInt8.toNat_inj]
  omega

theorem difference_neg {left right : UInt8} : difference left right < 0 ↔ left < right := by
  rw [difference, UInt8.lt_iff_toNat_lt]
  omega

/-- What a limit that has not been reached leaves of a text. -/
def cut (max : Option Nat) (index : Nat) (text : List UInt8) : List UInt8 :=
  match max with
  | none => text
  | some limit => text.take (limit - index)

theorem cut_reached {max : Option Nat} (reached : max.any (· ≤ index) = true) : cut max index text = [] := by
  cases max with
  | none => simp at reached
  | some limit => simp_all [cut]

theorem cut_nil (max : Option Nat) : cut max index [] = [] := by
  cases max <;> simp [cut]

theorem cut_cons {max : Option Nat} (reached : ¬ max.any (· ≤ index) = true) (byte : UInt8) :
    cut max index (byte :: text) = byte :: cut max (index + 1) text := by
  cases max with
  | none => rfl
  | some limit =>
      have more : limit - index = limit - (index + 1) + 1 := by simp at reached; omega
      simp [cut, more]

theorem orders_first {left right : UInt8} (differ : left ≠ right) (lefts rights : List UInt8) :
    Orders (difference left right) (left :: lefts) (right :: rights) where
  equal := by simp [difference_eq_zero, differ]
  below := by simp [difference_neg, List.cons_lt_cons_iff, differ]

theorem compareFrom_reached {max : Option Nat} (reached : max.any (· ≤ index) = true) (left right : List UInt8) :
    compareFrom max index left right = some 0 := by
  rw [compareFrom.eq_def]
  simp [reached]

/-- The loop goes through both texts together; it ends with the limit, with the
first difference or with the end of a text. -/
theorem compareFrom_of (max : Option Nat) {rest more : List UInt8} (index : Nat) (text other : List UInt8)
    (nonzero : 0 ∉ text) (otherNonzero : 0 ∉ other) :
    ∃ sign, compareFrom max index (text ++ 0 :: rest) (other ++ 0 :: more) = some sign ∧
      Orders sign (cut max index text) (cut max index other) := by
  induction text generalizing other index with
  | nil =>
      by_cases reached : max.any (· ≤ index) = true
      · refine ⟨0, compareFrom_reached reached _ _, ?_⟩
        rw [cut_reached reached, cut_reached reached]
        exact ⟨by simp, by simp⟩
      · cases other with
        | nil =>
            refine ⟨0, by simp [compareFrom, reached, difference], ?_⟩
            exact ⟨by simp, by simp⟩
        | cons byte others =>
            have positive : byte ≠ 0 := fun zero => otherNonzero (by simp [zero])
            refine ⟨difference 0 byte, by simp [compareFrom, reached], ?_⟩
            have differ : difference 0 byte < 0 := difference_neg.mpr (UInt8.pos_iff_ne_zero.mpr positive)
            rw [cut_nil, cut_cons reached]
            exact ⟨by simp; omega, by simpa using differ⟩
  | cons byte texts ih =>
      by_cases reached : max.any (· ≤ index) = true
      · refine ⟨0, compareFrom_reached reached _ _, ?_⟩
        rw [cut_reached reached, cut_reached reached]
        exact ⟨by simp, by simp⟩
      · have positive : byte ≠ 0 := fun zero => nonzero (by simp [zero])
        cases other with
        | nil =>
            refine ⟨difference byte 0, by simp [compareFrom, reached], ?_⟩
            have differ : 0 < difference byte 0 := by
              have := UInt8.lt_iff_toNat_lt.mp (UInt8.pos_iff_ne_zero.mpr positive)
              simp only [difference] at *
              simpa using this
            rw [cut_nil, cut_cons reached]
            exact ⟨by simp; omega, by simp; omega⟩
        | cons otherByte others =>
            rw [cut_cons reached, cut_cons reached]
            by_cases same : byte = otherByte
            · subst same
              obtain ⟨sign, compared, orders⟩ := ih (index + 1) others
                (fun member => nonzero (by simp [member])) fun member => otherNonzero (by simp [member])
              refine ⟨sign, by simpa [compareFrom, reached, positive] using compared, ?_⟩
              exact ⟨by simpa using orders.equal, by simpa [List.cons_lt_cons_iff] using orders.below⟩
            · exact ⟨difference byte otherByte, by simp [compareFrom, reached, same], orders_first same _ _⟩

/-! ## Searching -/

theorem findFrom_of (nonzero : 0 ∉ text) :
    findFrom target true index (text ++ 0 :: rest) =
      some (((text ++ [0]).idxOf? target).map (index + ·)) := by
  induction text generalizing index with
  | nil =>
      by_cases zero : (0 : UInt8) = target <;> simp [findFrom, zero, List.idxOf?_cons]
  | cons byte text ih =>
      have positive : byte ≠ 0 := fun zero => nonzero (by simp [zero])
      have later := @ih (index + 1) fun member => nonzero (by simp [member])
      by_cases found : byte = target
      · simp [findFrom, found, List.idxOf?_cons]
      · simp [findFrom, found, positive, List.idxOf?_cons, later, Function.comp_def, Nat.add_assoc, Nat.add_comm 1]

/-- The last place of a byte. -/
def lastIdxOf? (target : UInt8) : List UInt8 → Option Nat
  | [] => none
  | byte :: rest =>
      match lastIdxOf? target rest with
      | some place => some (place + 1)
      | none => if byte = target then some 0 else none

/-- Where a byte is found for the last time, or that it is not found. -/
def Last (target : UInt8) (bytes : List UInt8) : Option Nat → Prop
  | none => target ∉ bytes
  | some place => bytes[place]? = some target ∧ ∀ later, place < later → bytes[later]? ≠ some target

theorem last_lastIdxOf? (target : UInt8) (bytes : List UInt8) : Last target bytes (lastIdxOf? target bytes) := by
  induction bytes with
  | nil => simp [lastIdxOf?, Last]
  | cons byte rest ih =>
      cases last : lastIdxOf? target rest with
      | some place =>
          rw [last] at ih
          simp only [lastIdxOf?, last, Last, List.getElem?_cons_succ]
          refine ⟨ih.1, fun later behind => ?_⟩
          obtain ⟨before, rfl⟩ := Nat.exists_eq_add_of_lt behind
          simpa using ih.2 (place + 1 + before) (by omega)
      | none =>
          rw [last] at ih
          by_cases here : byte = target
          · simp only [lastIdxOf?, last, here, if_true, Last]
            refine ⟨rfl, fun later behind => ?_⟩
            obtain ⟨before, rfl⟩ := Nat.exists_eq_add_of_lt behind
            intro found
            exact ih (List.mem_of_getElem? (by simpa using found))
          · simpa [lastIdxOf?, last, here, Last, Ne.symm here] using ih

theorem findLastFrom_of (nonzero : 0 ∉ text) (found : Option Nat) :
    findLastFrom target index found (text ++ 0 :: rest) =
      some (((lastIdxOf? target (text ++ [0])).map (index + ·)).or found) := by
  induction text generalizing index found with
  | nil =>
      by_cases zero : (0 : UInt8) = target <;> simp [findLastFrom, zero, lastIdxOf?]
  | cons byte text ih =>
      have positive : byte ≠ 0 := fun zero => nonzero (by simp [zero])
      have later := fun found => @ih (index + 1) (fun member => nonzero (by simp [member])) found
      simp only [List.cons_append, findLastFrom, lastIdxOf?, positive, if_false, later]
      cases last : lastIdxOf? target (text ++ [0]) with
      | some place => simp [Nat.add_assoc, Nat.add_comm 1]
      | none => by_cases here : byte = target <;> simp [here]

theorem findWithin_of (bytes : List UInt8) (turns : Nat) (within : target ∈ bytes.take turns ∨ turns ≤ bytes.length) :
    findWithin target index turns bytes = some (((bytes.take turns).idxOf? target).map (index + ·)) := by
  induction turns generalizing index bytes with
  | zero => simp [findWithin]
  | succ turns ih =>
      cases bytes with
      | nil => simp at within
      | cons byte rest =>
          by_cases found : byte = target
          · simp [findWithin, found, List.idxOf?_cons]
          · have later := @ih (index + 1) rest (by simpa [Ne.symm found] using within)
            simp [findWithin, found, later, List.idxOf?_cons, Function.comp_def, Nat.add_assoc, Nat.add_comm 1]

/-! ## Spans -/

theorem containsByte_of (nonzero : 0 ∉ set) {byte : UInt8} (positive : byte ≠ 0) :
    containsByte byte (set ++ 0 :: rest) = some (decide (byte ∈ set)) := by
  induction set with
  | nil => simp [containsByte]
  | cons first set ih =>
      have firstPositive : first ≠ 0 := fun zero => nonzero (by simp [zero])
      have later := ih fun member => nonzero (by simp [member])
      by_cases found : first = byte
      · simp [containsByte, found, positive]
      · simp [containsByte, firstPositive, found, later, Ne.symm found]

theorem spanFrom_of {more : List UInt8} (setNonzero : 0 ∉ set) (nonzero : 0 ∉ text) (acceptMatch : Bool) :
    spanFrom (set ++ 0 :: more) acceptMatch index (text ++ 0 :: rest) =
      some (index + (text.takeWhile fun byte => decide (byte ∈ set) = acceptMatch).length) := by
  induction text generalizing index with
  | nil => simp [spanFrom]
  | cons byte text ih =>
      have positive : byte ≠ 0 := fun zero => nonzero (by simp [zero])
      have later := @ih (index + 1) fun member => nonzero (by simp [member])
      have contains : containsByte byte (set ++ 0 :: more) = _ := containsByte_of setNonzero positive
      by_cases stays : decide (byte ∈ set) = acceptMatch
      · simp [spanFrom, positive, contains, stays, later, Nat.add_assoc, Nat.add_comm 1]
      · simp [spanFrom, positive, contains, stays]

/-! ## The functions -/

/-- On texts that end, and on spans of memory that may be read, every function
answers what the C standard says: it reads nothing behind the end of a text. -/
theorem c_strings_follow_the_standard (left : Terminated bytes text) (right : Terminated others other)
    (needle : Int32) (max : Nat) :
    (∃ sign, strcmp (some bytes) (some others) = some sign ∧ Orders sign text other) ∧
      (∃ sign, strncmp (some bytes) (some others) max = some sign ∧ Orders sign (text.take max) (other.take max)) ∧
      strchr (some bytes) needle = some ((text ++ [0]).idxOf? (lowByte needle)) ∧
      (∃ found, strrchr (some bytes) needle = some found ∧ Last (lowByte needle) (text ++ [0]) found) ∧
      (∀ span : List UInt8, lowByte needle ∈ span.take max ∨ max ≤ span.length →
        memchr (some span) needle max = some ((span.take max).idxOf? (lowByte needle))) ∧
      strspn (some bytes) (some others) = some (text.takeWhile (· ∈ other)).length ∧
      strcspn (some bytes) (some others) = some (text.takeWhile (· ∉ other)).length := by
  obtain ⟨nonzero, rest, rfl⟩ := left
  obtain ⟨otherNonzero, more, rfl⟩ := right
  refine ⟨?_, ?_, ?_, ?_, ?_, ?_, ?_⟩
  · exact compareFrom_of none 0 text other nonzero otherNonzero
  · exact compareFrom_of (some max) 0 text other nonzero otherNonzero
  · simpa [strchr, findForward, Function.comp_def] using @findFrom_of text rest (lowByte needle) 0 nonzero
  · refine ⟨_, ?_, last_lastIdxOf? (lowByte needle) (text ++ [0])⟩
    simpa [strrchr, Function.comp_def] using @findLastFrom_of text rest (lowByte needle) 0 nonzero none
  · intro span within
    simpa [memchr, Function.comp_def] using @findWithin_of (lowByte needle) 0 span max within
  · simpa [strspn, Libc.span] using @spanFrom_of text rest other 0 more otherNonzero nonzero true
  · simpa [strcspn, Libc.span] using @spanFrom_of text rest other 0 more otherNonzero nonzero false

theorem c_strings_follow_the_standard_main_db :
    (∃ sign, strcmp (some [47, 97, 0]) (some [47, 98, 0, 7]) = some sign ∧ Orders sign [47, 97] [47, 98]) ∧
      (∃ sign, strncmp (some [47, 97, 0]) (some [47, 98, 0, 7]) 1 = some sign ∧ Orders sign [47] [47]) ∧
      strchr (some [47, 97, 0]) 97 = some (some 1) ∧
      strspn (some [47, 97, 0]) (some [47, 98, 0, 7]) = some 1 := by
  have left : Terminated [47, 97, 0] [47, 97] := ⟨by decide, [], rfl⟩
  have right : Terminated [47, 98, 0, 7] [47, 98] := ⟨by decide, [7], rfl⟩
  obtain ⟨compared, limited, found, _, _, spanned, _⟩ := c_strings_follow_the_standard left right 97 1
  exact ⟨compared, limited, found, spanned⟩

end IcSqliteVfs.SqliteVfs.Libc
