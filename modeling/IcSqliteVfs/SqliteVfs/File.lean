import IcSqliteVfs.SqliteVfs.Capacity
import IcSqliteVfs.SqliteVfs.PageOffsetCache

namespace IcSqliteVfs.SqliteVfs

open IcSqliteVfs.Data IcSqliteVfs.Semantics IcSqliteVfs.Stable

/-! # Open main files

The I/O methods that SQLite calls.  They are C functions: an error becomes a
result code, and a panic must not happen.  The build is one with debug
assertions.
-/

inductive ResultCode where
  | ok
  | readOnly
  | ioErrRead
  | ioErrShortRead
  | ioErrWrite
  | ioErrTruncate
  | ioErrFstat
deriving DecidableEq, Repr

/-- A main file; its context is that of the `Vfs` it is open in. -/
structure IcStableFile where
  readOnly : Bool
  readSnapshot : Option Superblock
  readPageOffsets : PageOffsetCache

def IcStableFile.new (readOnly : Bool) : IcStableFile := ⟨readOnly, none, PageOffsetCache.new⟩

/-- A context and the main files that are open on it. -/
structure Vfs where
  context : Context
  files : Nat → IcStableFile

abbrev VfsM : Type → Type := Action Vfs StableMemoryError

def onVfsContext {α : Type} (call : ContextM α) : VfsM α :=
  Action.zoom Vfs.context (fun context vfs => { vfs with context }) call

def setFile (handle : Nat) (file : IcStableFile) (vfs : Vfs) : Vfs :=
  { vfs with files := fun other => if other = handle then file else vfs.files other }

/-- A read through the page cache of one file. -/
def onPageCache {α : Type} (handle : Nat) (call : PageCacheM α) : VfsM α :=
  Action.zoom (fun vfs => ⟨(vfs.files handle).readPageOffsets, vfs.context.store⟩)
    (fun frame vfs => setFile handle { vfs.files handle with readPageOffsets := frame.pageOffsets }
      { vfs with context := { vfs.context with store := frame.store } }) call

def checkedAmount (amount : Int32) : Option Nat := if amount < 0 then none else some amount.toInt.toNat

def checkedOffset (offset : Int64) : Option UInt64 := if offset < 0 then none else some offset.toUInt64

/-- An error ends the call with a result code. -/
def orReport {α : Type} (code : α) (call : VfsM α) : VfsM α := fun vfs =>
  match call vfs with
  | (.ok value, next) => (.ok value, next)
  | (.err _, next) => (.ok code, next)
  | (.panic, next) => (.panic, next)

/-! ## Commits with debug assertions -/

/-- The assertion of `commit_overlay_in_place`. -/
def debugCommitOverlay (overlay : Overlay) (advanceTx : Bool) : StoreM Unit := do
  let block ← Superblock.load
  Action.require (∀ entry ∈ overlay.pages, entry.1 < pageCountForSize overlay.size)
  commitOverlayInPlace block overlay advanceTx

def debugCommitUpdate : ContextM Unit := do
  let context ← Action.read
  match context.overlay with
  | none => pure ()
  | some overlay => do
      setOverlay none
      if overlay.isEmpty then pure () else onContextStore (debugCommitOverlay overlay true)

def debugDirectWrite (offset : Nat) (bytes : List UInt8) : StoreM Unit :=
  if bytes.isEmpty then pure ()
  else do
    let direct ← directOverlay (Overlay.writeAt offset bytes)
    debugCommitOverlay direct false

def debugDirectTruncate (size : Nat) : StoreM Unit := do
  let direct ← directOverlay (Overlay.truncate size)
  if direct.isEmpty then pure () else debugCommitOverlay direct false

def debugWriteAt (offset : Nat) (bytes : List UInt8) : ContextM Unit := do
  let context ← Action.read
  match context.overlay with
  | some overlay => onOverlay overlay (Overlay.writeAt offset bytes)
  | none => onContextStore (debugDirectWrite offset bytes)

def debugTruncate (size : Nat) : ContextM Unit := do
  let context ← Action.read
  match context.overlay with
  | some overlay => onOverlay overlay (Overlay.truncate size)
  | none => onContextStore (debugDirectTruncate size)

/-! ## The methods -/

/-- The block that a read-only file was first read with. -/
def snapshotOf (handle : Nat) : VfsM Superblock := do
  let vfs ← Action.read
  match (vfs.files handle).readSnapshot with
  | some block => pure block
  | none => do
      let block ← onVfsContext (onContextStore Superblock.load)
      Action.modify fun vfs => setFile handle { vfs.files handle with readSnapshot := some block } vfs
      pure block

def readFile (handle : Nat) (offset amount : Nat) : VfsM (List UInt8 × Bool) := do
  let vfs ← Action.read
  if (vfs.files handle).readOnly then do
    let block ← snapshotOf handle
    onPageCache handle (readBaseAtWithPageCache block offset amount)
  else onVfsContext (readAt offset amount)

/-- The result code and the bytes that the buffer holds. -/
def xRead (handle : Nat) (amount : Int32) (offset : Int64) : VfsM (ResultCode × List UInt8) :=
  match checkedAmount amount with
  | none => pure (.ioErrRead, [])
  | some amount =>
      match checkedOffset offset with
      | none => pure (.ioErrRead, [])
      | some offset => orReport (.ioErrRead, []) do
          let (bytes, complete) ← readFile handle offset.toNat amount
          pure (if complete then .ok else .ioErrShortRead, bytes)

/-- `buf` is what the buffer's pointer leads to. -/
def xWrite (handle : Nat) (buf : Nat → UInt8) (amount : Int32) (offset : Int64) : VfsM ResultCode := do
  let vfs ← Action.read
  if (vfs.files handle).readOnly then pure .readOnly
  else
    match checkedAmount amount with
    | none => pure .ioErrWrite
    | some amount =>
        match checkedOffset offset with
        | none => pure .ioErrWrite
        | some offset => orReport .ioErrWrite do
            onVfsContext (debugWriteAt offset.toNat ((List.range amount).map buf))
            pure .ok

def xTruncate (handle : Nat) (size : Int64) : VfsM ResultCode := do
  let vfs ← Action.read
  if (vfs.files handle).readOnly then pure .readOnly
  else
    match checkedOffset size with
    | none => pure .ioErrTruncate
    | some size => orReport .ioErrTruncate do
        onVfsContext (debugTruncate size.toNat)
        pure .ok

/-- `sqlite3_int64::try_from(size)`. -/
def sizeResult (size : Nat) : ResultCode × Option Nat :=
  if size < 2 ^ 63 then (.ok, some size) else (.ioErrFstat, none)

def xFileSize (handle : Nat) : VfsM (ResultCode × Option Nat) := do
  let vfs ← Action.read
  orReport (.ioErrFstat, none) do
    if (vfs.files handle).readOnly then do
      let block ← snapshotOf handle
      pure (sizeResult block.dbSize.toNat)
    else do
      let size ← onVfsContext fileSize
      pure (sizeResult size)

inductive VfsCall where
  | xRead (handle : Nat) (amount : Int32) (offset : Int64)
  | xWrite (handle : Nat) (buf : Nat → UInt8) (amount : Int32) (offset : Int64)
  | xTruncate (handle : Nat) (size : Int64)
  | xFileSize (handle : Nat)
  | beginUpdate
  | commitUpdate
  | rollbackUpdate

namespace VfsCall

/-- The result code of an I/O method; the calls around a transaction have none. -/
def perform : VfsCall → VfsM (Option ResultCode)
  | .xRead handle amount offset => do
      let (code, _) ← SqliteVfs.xRead handle amount offset
      pure (some code)
  | .xWrite handle buf amount offset => do
      let code ← SqliteVfs.xWrite handle buf amount offset
      pure (some code)
  | .xTruncate handle size => do
      let code ← SqliteVfs.xTruncate handle size
      pure (some code)
  | .xFileSize handle => do
      let (code, _) ← SqliteVfs.xFileSize handle
      pure (some code)
  | .beginUpdate => do
      let _ ← onVfsContext SqliteVfs.beginUpdate
      pure none
  | .commitUpdate => do
      onVfsContext debugCommitUpdate
      pure none
  | .rollbackUpdate => do
      onVfsContext SqliteVfs.rollbackUpdate
      pure none

def after (vfs : Vfs) (call : VfsCall) : Vfs := (call.perform vfs).2

def runAll (calls : List VfsCall) (vfs : Vfs) : Vfs := calls.foldl after vfs

end VfsCall

/-- Neither done nor a read that was cut at the end of the file. -/
def ResultCode.Refuses (code : ResultCode) : Prop := code ≠ .ok ∧ code ≠ .ioErrShortRead

/-- Every open file reads the same bytes and reports the same size. -/
structure SameFiles (before after : Vfs) : Prop where
  reads : ∀ handle amount offset, (xRead handle amount offset after).1 = (xRead handle amount offset before).1
  sizes : ∀ handle, (xFileSize handle after).1 = (xFileSize handle before).1

end IcSqliteVfs.SqliteVfs
