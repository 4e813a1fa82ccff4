import IcSqliteVfs.Data.Keyed
import IcSqliteVfs.Semantics.Run
import Mathlib.Order.MinMax

namespace IcSqliteVfs.SqliteVfs

open IcSqliteVfs.Data IcSqliteVfs.Semantics

/-! # File locks

The lock level is kept per context, not per file handle: a lock request raises
the level of its context and an unlock request overwrites it.
-/

abbrev ContextId : Type := Nat

def sqliteLockReserved : Int := 2

/-- `LOCK_LEVEL`. -/
abbrev LockLevels : Type := List (ContextId × Int)

def lockFor (context : ContextId) (level : Int) : LockLevels → LockLevels :=
  upsert context (fun current => if level > current then level else current) level

def unlockFor (context : ContextId) (level : Int) : LockLevels → LockLevels :=
  upsert context (fun _ => level) level

def levelFor (context : ContextId) (levels : LockLevels) : Int := (levels.lookup context).getD 0

def hasReservedFor (context : ContextId) (levels : LockLevels) : Bool :=
  decide (levelFor context levels ≥ sqliteLockReserved)

inductive FileKind where
  | main
  | temp
deriving DecidableEq, Repr

/-- What the lock methods read of an open file. -/
structure LockedFile where
  kind : FileKind
  context : ContextId
deriving DecidableEq, Repr

def xLock (file : LockedFile) (level : Int) (levels : LockLevels) : LockLevels :=
  if file.kind ≠ .main then levels else lockFor file.context level levels

def xUnlock (file : LockedFile) (level : Int) (levels : LockLevels) : LockLevels :=
  if file.kind ≠ .main then levels else unlockFor file.context level levels

def xCheckReservedLock (file : LockedFile) (levels : LockLevels) : Nat :=
  if file.kind ≠ .main then 0 else if hasReservedFor file.context levels then 1 else 0

section Levels

variable (context other : ContextId) (level : Int) (levels : LockLevels)

theorem hasReservedFor_iff : hasReservedFor context levels = true ↔ sqliteLockReserved ≤ levelFor context levels :=
  decide_eq_true_iff

/-- A context that was never locked is raised from no lock. -/
theorem reserved_le_levelFor_lockFor :
    sqliteLockReserved ≤ levelFor other (lockFor context level levels) ↔
      sqliteLockReserved ≤ levelFor other levels ∨ other = context ∧ sqliteLockReserved ≤ level := by
  rw [levelFor, levelFor, lockFor, lookup_upsert]
  by_cases same : other = context
  · rw [if_pos same, same, Option.getD_some]
    cases levels.lookup context with
    | none => simp [sqliteLockReserved]
    | some current =>
        simp only [Option.map_some, Option.getD_some, true_and, sqliteLockReserved]
        split <;> omega
  · rw [if_neg same]
    simp [same]

theorem levelFor_unlockFor :
    levelFor other (unlockFor context level levels) = if other = context then level else levelFor other levels := by
  rw [levelFor, unlockFor, lookup_upsert]
  split
  · cases levels.lookup context <;> rfl
  · rfl

theorem xCheckReservedLock_main :
    xCheckReservedLock ⟨.main, context⟩ levels = 1 ↔ sqliteLockReserved ≤ levelFor context levels := by
  rw [← hasReservedFor_iff]
  simp [xCheckReservedLock]

end Levels

/-! ## Calls of many handles -/

/-- The levels that SQLite asks for. -/
inductive LockRequest where
  | shared
  | reserved
  | pending
  | exclusive
deriving DecidableEq, Repr

def LockRequest.level : LockRequest → Int
  | .shared => 1
  | .reserved => 2
  | .pending => 3
  | .exclusive => 4

/-- The levels that SQLite falls back to. -/
inductive UnlockRequest where
  | none
  | shared
deriving DecidableEq, Repr

def UnlockRequest.level : UnlockRequest → Int
  | .none => 0
  | .shared => 1

/-- The lock table, the files that are open, and the level that SQLite holds
through each of them. -/
structure Locks where
  levels : LockLevels
  files : Nat → Option LockedFile
  held : Nat → Int

def Locks.unlocked : Locks := ⟨[], fun _ => none, fun _ => 0⟩

inductive LockCall where
  | openFile (handle : Nat) (file : LockedFile)
  | lock (handle : Nat) (request : LockRequest)
  | unlock (handle : Nat) (request : UnlockRequest)
  | close (handle : Nat)

def LockCall.handle : LockCall → Nat
  | .openFile handle _ => handle
  | .lock handle _ => handle
  | .unlock handle _ => handle
  | .close handle => handle

/-- A call through a handle that is not open does not happen. -/
def LockCall.perform (call : LockCall) (locks : Locks) : Locks :=
  match call, locks.files call.handle with
  | .openFile handle file, none =>
      { locks with files := Function.update locks.files handle (some file), held := Function.update locks.held handle 0 }
  | .openFile _ _, some _ => locks
  | .lock handle request, some file =>
      { locks with
        levels := xLock file request.level locks.levels
        held := Function.update locks.held handle (max (locks.held handle) request.level) }
  | .unlock handle request, some file =>
      { locks with
        levels := xUnlock file request.level locks.levels
        held := Function.update locks.held handle (min (locks.held handle) request.level) }
  | .close handle, some _ => { locks with files := Function.update locks.files handle none }
  | _, none => locks

/-- The handle is open on a main file of the context and holds RESERVED or more. -/
def Locks.Reserves (locks : Locks) (context : ContextId) (handle : Nat) : Prop :=
  locks.files handle = some ⟨.main, context⟩ ∧ sqliteLockReserved ≤ locks.held handle

/-- A file of the context reports a reserved lock exactly when some handle has one. -/
def Locks.Visible (locks : Locks) : Prop :=
  ∀ context, xCheckReservedLock ⟨.main, context⟩ locks.levels = 1 ↔ ∃ handle, locks.Reserves context handle

/-- No handle is unlocked over the reserved lock of another, and none that has the only
reserved lock is closed with it. -/
def LockCall.Undisturbing : LockCall → Locks → Prop
  | .unlock handle _, locks =>
      ∀ context, locks.files handle = some ⟨.main, context⟩ → ∀ other, locks.Reserves context other → other = handle
  | .close handle, locks => ∀ context, locks.Reserves context handle → ∃ other ≠ handle, locks.Reserves context other
  | _, _ => True

theorem UnlockRequest.level_lt (request : UnlockRequest) : request.level < sqliteLockReserved := by
  cases request <;> decide

/-! ## What each call does to the reserved locks -/

section Calls

variable {locks : Locks} {handle : Nat} {file : LockedFile}

theorem perform_openFile (closed : locks.files handle = none) :
    (LockCall.openFile handle file).perform locks =
      { locks with
        files := Function.update locks.files handle (some file)
        held := Function.update locks.held handle 0 } := by
  unfold LockCall.perform
  simp only [LockCall.handle, closed]

theorem perform_lock (opened : locks.files handle = some file) (request : LockRequest) :
    (LockCall.lock handle request).perform locks =
      { locks with
        levels := xLock file request.level locks.levels
        held := Function.update locks.held handle (max (locks.held handle) request.level) } := by
  unfold LockCall.perform
  simp only [LockCall.handle, opened]

theorem perform_unlock (opened : locks.files handle = some file) (request : UnlockRequest) :
    (LockCall.unlock handle request).perform locks =
      { locks with
        levels := xUnlock file request.level locks.levels
        held := Function.update locks.held handle (min (locks.held handle) request.level) } := by
  unfold LockCall.perform
  simp only [LockCall.handle, opened]

theorem perform_close (opened : locks.files handle = some file) :
    (LockCall.close handle).perform locks =
      { locks with files := Function.update locks.files handle none } := by
  unfold LockCall.perform
  simp only [LockCall.handle, opened]

theorem reserves_openFile (closed : locks.files handle = none) (context : ContextId) (other : Nat) :
    ((LockCall.openFile handle file).perform locks).Reserves context other ↔ locks.Reserves context other := by
  by_cases same : other = handle
  · simp [perform_openFile closed, closed, Locks.Reserves, same, sqliteLockReserved]
  · simp [perform_openFile closed, Locks.Reserves, same]

theorem reserves_lock (opened : locks.files handle = some file) (request : LockRequest) (context : ContextId)
    (other : Nat) :
    ((LockCall.lock handle request).perform locks).Reserves context other ↔
      locks.Reserves context other ∨
        other = handle ∧ file = ⟨.main, context⟩ ∧ sqliteLockReserved ≤ request.level := by
  by_cases same : other = handle
  · subst same
    simp only [perform_lock opened, opened, Locks.Reserves, Function.update_self, le_max_iff,
      Option.some.injEq, true_and]
    tauto
  · simp [perform_lock opened, Locks.Reserves, same]

theorem reserves_unlock (opened : locks.files handle = some file) (request : UnlockRequest) (context : ContextId)
    (other : Nat) :
    ((LockCall.unlock handle request).perform locks).Reserves context other ↔
      other ≠ handle ∧ locks.Reserves context other := by
  by_cases same : other = handle
  · have low := request.level_lt
    simp only [perform_unlock opened, Locks.Reserves, same, Function.update_self, le_min_iff]
    simp only [ne_eq, not_true_eq_false, false_and, iff_false, not_and, not_le]
    exact fun _ _ => low
  · simp [perform_unlock opened, Locks.Reserves, same]

theorem reserves_close (opened : locks.files handle = some file) (context : ContextId) (other : Nat) :
    ((LockCall.close handle).perform locks).Reserves context other ↔
      other ≠ handle ∧ locks.Reserves context other := by
  by_cases same : other = handle
  · simp [perform_close opened, Locks.Reserves, same]
  · simp [perform_close opened, Locks.Reserves, same]

theorem reserved_le_lock (opened : locks.files handle = some file) (request : LockRequest) (context : ContextId) :
    sqliteLockReserved ≤ levelFor context ((LockCall.lock handle request).perform locks).levels ↔
      sqliteLockReserved ≤ levelFor context locks.levels ∨
        file = ⟨.main, context⟩ ∧ sqliteLockReserved ≤ request.level := by
  obtain ⟨kind, owner⟩ := file
  simp only [perform_lock opened, xLock, LockedFile.mk.injEq]
  cases kind with
  | main =>
      rw [if_neg (by simp), reserved_le_levelFor_lockFor]
      simp [eq_comm]
  | temp => simp

theorem reserved_le_unlock (opened : locks.files handle = some file) (request : UnlockRequest)
    (context : ContextId) :
    sqliteLockReserved ≤ levelFor context ((LockCall.unlock handle request).perform locks).levels ↔
      file ≠ ⟨.main, context⟩ ∧ sqliteLockReserved ≤ levelFor context locks.levels := by
  have low := request.level_lt
  obtain ⟨kind, owner⟩ := file
  simp only [perform_unlock opened, xUnlock, ne_eq, LockedFile.mk.injEq]
  cases kind with
  | main =>
      rw [if_neg (by simp), levelFor_unlockFor]
      by_cases same : context = owner
      · simp [same, low]
      · simp [same, Ne.symm same]
  | temp => simp

-- the table as the contract wants it, before the call
variable (before : ∀ context, sqliteLockReserved ≤ levelFor context locks.levels ↔
  ∃ handle, locks.Reserves context handle)

include before

theorem visible_unlock (opened : locks.files handle = some file) (request : UnlockRequest) :
    (∀ context, sqliteLockReserved ≤ levelFor context ((LockCall.unlock handle request).perform locks).levels ↔
        ∃ other, ((LockCall.unlock handle request).perform locks).Reserves context other) ↔
      (LockCall.unlock handle request).Undisturbing locks := by
  simp only [reserves_unlock opened, reserved_le_unlock opened, before, LockCall.Undisturbing, opened,
    Option.some.injEq]
  constructor
  · intro visible context same other reserves
    by_contra differs
    exact ((visible context).mpr ⟨other, differs, reserves⟩).1 same
  · intro alone context
    constructor
    · rintro ⟨differs, other, reserves⟩
      refine ⟨other, ?_, reserves⟩
      rintro rfl
      exact differs (Option.some.inj (opened.symm.trans reserves.1))
    · rintro ⟨other, differs, reserves⟩
      exact ⟨fun same => differs (alone context same other reserves), other, reserves⟩

theorem visible_close (opened : locks.files handle = some file) :
    (∀ context, sqliteLockReserved ≤ levelFor context ((LockCall.close handle).perform locks).levels ↔
        ∃ other, ((LockCall.close handle).perform locks).Reserves context other) ↔
      (LockCall.close handle).Undisturbing locks := by
  have same : ((LockCall.close handle).perform locks).levels = locks.levels := by
    simp [perform_close opened]
  simp only [reserves_close opened, same, before, LockCall.Undisturbing]
  constructor
  · intro visible context reserves
    exact (visible context).mp ⟨handle, reserves⟩
  · intro passes context
    constructor
    · rintro ⟨other, reserves⟩
      by_cases closing : other = handle
      · exact passes context (closing ▸ reserves)
      · exact ⟨other, closing, reserves⟩
    · rintro ⟨other, -, reserves⟩
      exact ⟨other, reserves⟩

end Calls

/-! ## Runs -/

/-- Only an unlock or a close can make the report wrong, and then only by
disturbing another handle. -/
theorem LockCall.visible_perform (call : LockCall) (locks : Locks) (visible : locks.Visible) :
    (call.perform locks).Visible ↔ call.Undisturbing locks := by
  have before : ∀ context, sqliteLockReserved ≤ levelFor context locks.levels ↔
      ∃ handle, locks.Reserves context handle := fun context =>
    (xCheckReservedLock_main context locks.levels).symm.trans (visible context)
  simp only [Locks.Visible, xCheckReservedLock_main]
  cases call with
  | openFile handle file =>
      simp only [LockCall.Undisturbing, iff_true]
      cases opened : locks.files handle with
      | none =>
          simp only [reserves_openFile opened]
          simpa only [LockCall.perform, LockCall.handle, opened] using before
      | some current => simpa only [LockCall.perform, LockCall.handle, opened] using before
  | lock handle request =>
      simp only [LockCall.Undisturbing, iff_true]
      cases opened : locks.files handle with
      | none => simpa only [LockCall.perform, LockCall.handle, opened] using before
      | some file =>
          simp only [reserves_lock opened, reserved_le_lock opened, before]
          intro context
          rw [exists_or, exists_eq_left]
  | unlock handle request =>
      cases opened : locks.files handle with
      | none =>
          simp only [LockCall.perform, LockCall.handle, opened, LockCall.Undisturbing]
          simpa using before
      | some file => exact visible_unlock before opened request
  | close handle =>
      cases opened : locks.files handle with
      | none =>
          have idle : ∀ context, ¬ locks.Reserves context handle := by
            intro context reserves
            cases opened.symm.trans reserves.1
          simp only [LockCall.perform, LockCall.handle, opened, LockCall.Undisturbing, before, idle]
          simp
      | some file => exact visible_close before opened

theorem visible_unlocked : Locks.unlocked.Visible := by
  intro context
  simp [xCheckReservedLock_main, Locks.unlocked, Locks.Reserves, levelFor, sqliteLockReserved]

/-- Calls through files of other contexts do not change what a context reports. -/
theorem LockCall.levelFor_perform {call : LockCall} {locks : Locks} {context : ContextId}
    (elsewhere : ∀ file, locks.files call.handle = some file → file.context ≠ context) :
    levelFor context (call.perform locks).levels = levelFor context locks.levels := by
  cases call with
  | openFile handle file => cases opened : locks.files handle <;> simp [LockCall.perform, LockCall.handle, opened]
  | lock handle request =>
      cases opened : locks.files handle with
      | none => simp [LockCall.perform, LockCall.handle, opened]
      | some file =>
          have other : context ≠ file.context := (elsewhere file opened).symm
          simp only [perform_lock opened, xLock]
          split
          · rfl
          · rw [levelFor, levelFor, lockFor, lookup_upsert, if_neg other]
  | unlock handle request =>
      cases opened : locks.files handle with
      | none => simp [LockCall.perform, LockCall.handle, opened]
      | some file =>
          have other : context ≠ file.context := (elsewhere file opened).symm
          simp only [perform_unlock opened, xUnlock]
          split
          · rfl
          · rw [levelFor_unlockFor, if_neg other]
  | close handle => cases opened : locks.files handle <;> simp [LockCall.perform, LockCall.handle, opened]

/-- A reserved lock is visible through every file of its context along a run exactly when
no handle of the context is unlocked or closed over it; contexts never see each other. -/
theorem reserved_lock_visible_iff (calls : List LockCall) :
    (Always LockCall.perform Locks.Visible calls Locks.unlocked ↔
      Throughout LockCall.perform LockCall.Undisturbing calls Locks.unlocked) ∧
    ∀ (locks : Locks) (call : LockCall) (context : ContextId),
      (∀ file, locks.files call.handle = some file → file.context ≠ context) →
      xCheckReservedLock ⟨.main, context⟩ (call.perform locks).levels =
        xCheckReservedLock ⟨.main, context⟩ locks.levels := by
  constructor
  · exact always_iff_throughout LockCall.visible_perform visible_unlocked
  · intro locks call context elsewhere
    have same : hasReservedFor context (call.perform locks).levels = hasReservedFor context locks.levels := by
      rw [Bool.eq_iff_iff, hasReservedFor_iff, hasReservedFor_iff, LockCall.levelFor_perform elsewhere]
    simp only [xCheckReservedLock, same]

/-- A second handle of the context that falls back to no lock hides the reserved lock of the first. -/
theorem reserved_lock_hidden :
    let first : LockedFile := ⟨.main, 7⟩
    let calls : List LockCall :=
      [.openFile 0 first, .openFile 1 first, .lock 0 .reserved, .lock 1 .shared, .unlock 1 .none]
    let final := calls.foldl (fun locks call => call.perform locks) Locks.unlocked
    final.Reserves 7 0 ∧ xCheckReservedLock first final.levels = 0 ∧
      ¬ Always LockCall.perform Locks.Visible calls Locks.unlocked := by
  intro first calls final
  have reserves : final.Reserves 7 0 := by
    constructor <;> decide
  have hidden : xCheckReservedLock first final.levels = 0 := by decide
  refine ⟨reserves, hidden, ?_⟩
  intro always
  have last : final.Visible := always.2.2.2.2.2
  exact absurd ((last 7).mpr ⟨0, reserves⟩) (by decide)

end IcSqliteVfs.SqliteVfs
