import IcSqliteVfs.SqliteVfs.OverlayFile

namespace IcSqliteVfs.SqliteVfs

open IcSqliteVfs.Data IcSqliteVfs.Semantics IcSqliteVfs.Stable

/-! # Runs of overlay calls -/

inductive OverlayCall where
  | read (offset : UInt64) (count : Nat)
  | write (offset : UInt64) (bytes : List UInt8)
  | truncate (size : UInt64)
deriving DecidableEq, Repr

/-- What a call hands back: a read its destination and completeness flag. -/
abbrev OverlayCall.Answer : Type := Option (List UInt8 × Bool)

namespace OverlayCall

def perform : OverlayCall → OverlayM Answer
  | .read offset count => do
      let answer ← Overlay.readAt offset.toNat count
      pure (some answer)
  | .write offset bytes => do
      Overlay.writeAt offset.toNat bytes
      pure none
  | .truncate size => do
      Overlay.truncate size.toNat
      pure none

/-- Perform calls one after the other, whatever each of them returns. -/
def performAll : List OverlayCall → OverlayFrame → List (Outcome StableMemoryError Answer) × OverlayFrame
  | [], frame => ([], frame)
  | call :: rest, frame =>
      let (outcome, next) := call.perform frame
      let (outcomes, last) := performAll rest next
      (outcome :: outcomes, last)

/-! The same calls on a file that is a list of bytes. -/

def applyTo (file : List UInt8) : OverlayCall → List UInt8
  | .read _ _ => file
  | .write offset bytes => splice 0 file offset.toNat bytes
  | .truncate size => resize 0 file size.toNat

def answerOn (file : List UInt8) : OverlayCall → Answer
  | .read offset count =>
      some (readFrom 0 file offset.toNat count, decide (count = 0 ∨ offset.toNat + count ≤ file.length))
  | .write _ _ => none
  | .truncate _ => none

def answersOn : List UInt8 → List OverlayCall → List Answer
  | _, [] => []
  | file, call :: rest => call.answerOn file :: answersOn (call.applyTo file) rest

/-- The address arithmetic of the call overflows on a file of this length. -/
def Overflows (length : Nat) : OverlayCall → Prop
  | .read _ _ => False
  | .write offset bytes => Overlay.WriteOverflows length offset.toNat bytes
  | .truncate size => Overlay.GrowthOverflows length size.toNat

instance (length : Nat) (call : OverlayCall) : Decidable (call.Overflows length) :=
  match call with
  | .read _ _ => inferInstanceAs (Decidable False)
  | .write offset bytes => inferInstanceAs (Decidable (Overlay.WriteOverflows length offset.toNat bytes))
  | .truncate size => inferInstanceAs (Decidable (Overlay.GrowthOverflows length size.toNat))

def outcomeOn (file : List UInt8) (call : OverlayCall) : Outcome StableMemoryError Answer :=
  if call.Overflows file.length then .err .offsetOverflow else .ok (call.answerOn file)

def leftBy (file : List UInt8) (call : OverlayCall) : List UInt8 :=
  if call.Overflows file.length then file else call.applyTo file

def outcomesOn : List UInt8 → List OverlayCall → List (Outcome StableMemoryError Answer)
  | _, [] => []
  | file, call :: rest => call.outcomeOn file :: outcomesOn (call.leftBy file) rest

variable {block : Superblock} {base file : List UInt8} {frame : OverlayFrame}

theorem outcome_of_refines {change : OverlayM Unit} {overflows : Nat → Prop} [DecidablePred overflows]
    {model : List UInt8 → List UInt8} (refines : Overlay.Refines block base change overflows model)
    (holds : Overlay.Holds block base frame file) :
    ∃ after, (change >>= fun _ => pure none : OverlayM Answer) frame =
        (if overflows file.length then .err .offsetOverflow else .ok none, after) ∧
      Overlay.Holds block base after (if overflows file.length then file else model file) := by
  rcases refines frame file holds with accepted | rejected
  · obtain ⟨clear, _, after, ended, kept⟩ := accepted
    refine ⟨after, ?_, by rw [if_neg clear]; exact kept⟩
    rw [Action.bind_of_ok _ ended, if_neg clear]
    rfl
  · obtain ⟨past, failed⟩ := rejected
    refine ⟨frame, ?_, by rw [if_pos past]; exact holds⟩
    rw [Action.bind_of_err _ failed, if_pos past]

/-- One call: its outcome is the flat file's, and so is the file it leaves. -/
theorem perform_of (call : OverlayCall) (holds : Overlay.Holds block base frame file) :
    ∃ after, call.perform frame = (call.outcomeOn file, after) ∧
      Overlay.Holds block base after (call.leftBy file) := by
  cases call with
  | read offset count =>
      obtain ⟨answer, after, ended, same, kept⟩ := Overlay.readAt_of holds offset.toNat count
      refine ⟨after, ?_, kept⟩
      rw [perform, Action.bind_of_ok _ ended, same]
      rfl
  | write offset bytes => exact outcome_of_refines (Overlay.writeAt_refines block base offset.toNat bytes) holds
  | truncate size => exact outcome_of_refines (Overlay.truncate_refines block base size.toNat_lt) holds

theorem performAll_of (calls : List OverlayCall) (holds : Overlay.Holds block base frame file) :
    (performAll calls frame).1 = outcomesOn file calls ∧
      Overlay.Holds block base (performAll calls frame).2 (calls.foldl leftBy file) := by
  induction calls generalizing frame file with
  | nil => exact ⟨rfl, holds⟩
  | cons call rest ih =>
      obtain ⟨next, ended, kept⟩ := perform_of call holds
      obtain ⟨outcomes, final⟩ := ih kept
      simp only [performAll, ended, outcomesOn, outcomes]
      exact ⟨trivial, final⟩

/-- Without an error the outcomes are the answers of the plain file. -/
theorem outcomesOn_of_accepted (calls : List OverlayCall) (file : List UInt8)
    (accepted : ∀ error, .err error ∉ outcomesOn file calls) :
    outcomesOn file calls = (answersOn file calls).map .ok := by
  induction calls generalizing file with
  | nil => rfl
  | cons call rest ih =>
      have clear : ¬ call.Overflows file.length := by
        intro past
        apply accepted .offsetOverflow
        rw [outcomesOn, outcomeOn, if_pos past]
        exact List.mem_cons_self
      have others : ∀ error, .err error ∉ outcomesOn (call.applyTo file) rest := by
        intro error member
        apply accepted error
        rw [outcomesOn, leftBy, if_neg clear]
        exact List.mem_cons_of_mem _ member
      rw [outcomesOn, outcomeOn, leftBy, if_neg clear, if_neg clear, ih _ others]
      rfl

/-- Leaving a read out of a run leaves out its own outcome and nothing else. -/
theorem outcomesOn_erase_read (before after : List OverlayCall) (offset : UInt64) (count : Nat)
    (file : List UInt8) :
    outcomesOn file (before ++ after) =
      (outcomesOn file (before ++ .read offset count :: after)).eraseIdx before.length := by
  induction before generalizing file with
  | nil => rfl
  | cons call rest ih =>
      simp only [List.cons_append, outcomesOn, List.length_cons, List.eraseIdx_cons_succ, ih]

end OverlayCall

/-- Reads through one overlay answer from the flat file that the writes and
truncates before them make of the base image, and are invisible to later calls. -/
theorem overlay_reads_refine_flat_file {store : Store} {block : Superblock} {base : List UInt8}
    (serves : Serves store block base) (calls : List OverlayCall)
    (accepted : ∀ error,
      .err error ∉ (OverlayCall.performAll calls ⟨Overlay.new base.length, store⟩).1) :
    (OverlayCall.performAll calls ⟨Overlay.new base.length, store⟩).1 =
      (OverlayCall.answersOn base calls).map .ok ∧
    ∀ before offset count after, calls = before ++ .read offset count :: after →
      (OverlayCall.performAll (before ++ after) ⟨Overlay.new base.length, store⟩).1 =
        (OverlayCall.performAll calls ⟨Overlay.new base.length, store⟩).1.eraseIdx before.length := by
  have holds := Overlay.holds_new serves
  have outcomes := (OverlayCall.performAll_of calls holds).1
  rw [outcomes] at accepted ⊢
  refine ⟨OverlayCall.outcomesOn_of_accepted calls base accepted, ?_⟩
  intro before offset count after split
  rw [(OverlayCall.performAll_of (before ++ after) holds).1, split]
  exact OverlayCall.outcomesOn_erase_read before after offset count base

/-- A write past a gap, a cut, and a read past the end. -/
theorem overlay_reads_refine_flat_file_of_sparse_write :
    (OverlayCall.performAll [.write 4 [65, 65, 65, 65], .truncate 6, .read 0 8]
      ⟨Overlay.new 0, freshStore⟩).1 = [.ok none, .ok none, .ok (some ([0, 0, 0, 0, 65, 65, 0, 0], false))] := by
  have outcomes := (OverlayCall.performAll_of [.write 4 [65, 65, 65, 65], .truncate 6, .read 0 8]
    (Overlay.holds_new serves_freshStore)).1
  have expected : OverlayCall.outcomesOn [] [.write 4 [65, 65, 65, 65], .truncate 6, .read 0 8] =
      [.ok none, .ok none, .ok (some ([0, 0, 0, 0, 65, 65, 0, 0], false))] := by decide
  have answers := overlay_reads_refine_flat_file serves_freshStore
    [.write 4 [65, 65, 65, 65], .truncate 6, .read 0 8] (by
      intro error member
      rw [outcomes, expected] at member
      simp at member)
  exact answers.1

end IcSqliteVfs.SqliteVfs
