import IcSqliteVfs.SqliteVfs.CommittedImage
import IcSqliteVfs.SqliteVfs.OverlayRun

namespace IcSqliteVfs.SqliteVfs

open IcSqliteVfs.Data IcSqliteVfs.Semantics IcSqliteVfs.Stable

/-! # Logical file access of one context -/

/-- The stable side of a context and its entry in `OVERLAY`. -/
structure Context where
  store : Store
  overlay : Option Overlay

abbrev ContextM : Type → Type := Action Context StableMemoryError

/-- A context right after `memory::init`. -/
def Context.fresh (grants : Nat → Bool) : Context := ⟨⟨Memory.empty, grants, none⟩, none⟩

def onContextStore {α : Type} (call : StoreM α) : ContextM α :=
  Action.zoom Context.store (fun store context => { context with store }) call

def setOverlay (overlay : Option Overlay) : ContextM Unit :=
  Action.modify fun context => { context with overlay }

/-- Call the overlay that is active. -/
def onOverlay {α : Type} (overlay : Overlay) (call : OverlayM α) : ContextM α := fun context =>
  let (outcome, frame) := call ⟨overlay, context.store⟩
  (outcome, ⟨frame.store, some frame.self⟩)

def ensureCurrentLayout : StoreM Unit := do
  let block ← Superblock.load
  if block.layoutVersion = currentLayoutVersion then pure ()
  else Action.fail (.unsupportedLayoutVersion block.layoutVersion)

/-- `overlay::begin`. -/
def beginOverlay (baseSize : Nat) : ContextM Unit := do
  let context ← Action.read
  match context.overlay with
  | some _ => Action.fail (.failpoint "overlay already active")
  | none => setOverlay (some (Overlay.new baseSize))

def beginUpdate : ContextM UInt64 := do
  let block ← onContextStore Superblock.load
  if block.layoutVersion ≠ currentLayoutVersion then
    Action.fail (.unsupportedLayoutVersion block.layoutVersion)
  else if block.isImporting then Action.fail .importAlreadyStarted
  else do
    beginOverlay block.dbSize.toNat
    pure block.dbSize

def rollbackUpdate : ContextM Unit := setOverlay none

def commitUpdate : ContextM Unit := do
  let context ← Action.read
  match context.overlay with
  | none => pure ()
  | some overlay => do
      setOverlay none
      if overlay.isEmpty then pure () else onContextStore (commitOverlay overlay true)

/-- A local overlay, changed once. -/
def onNewOverlay (baseSize : Nat) (change : OverlayM Unit) : StoreM Overlay := fun store =>
  match change ⟨Overlay.new baseSize, store⟩ with
  | (.ok _, frame) => (.ok frame.self, frame.store)
  | (.err error, frame) => (.err error, frame.store)
  | (.panic, frame) => (.panic, frame.store)

/-- The overlay that a direct write or truncate commits at once. -/
def directOverlay (change : OverlayM Unit) : StoreM Overlay := do
  ensureCurrentLayout
  let block ← Superblock.load
  onNewOverlay block.dbSize.toNat change

def directWrite (offset : Nat) (bytes : List UInt8) : StoreM Unit :=
  if bytes.isEmpty then pure ()
  else do
    let direct ← directOverlay (Overlay.writeAt offset bytes)
    commitOverlay direct false

def directTruncate (size : Nat) : StoreM Unit := do
  let direct ← directOverlay (Overlay.truncate size)
  if direct.isEmpty then pure () else commitOverlay direct false

def readAt (offset count : Nat) : ContextM (List UInt8 × Bool) := do
  let context ← Action.read
  match context.overlay with
  | some overlay => onOverlay overlay (Overlay.readAt offset count)
  | none => onContextStore (readBaseAt offset count)

def writeAt (offset : Nat) (bytes : List UInt8) : ContextM Unit := do
  let context ← Action.read
  match context.overlay with
  | some overlay => onOverlay overlay (Overlay.writeAt offset bytes)
  | none => onContextStore (directWrite offset bytes)

def truncate (size : Nat) : ContextM Unit := do
  let context ← Action.read
  match context.overlay with
  | some overlay => onOverlay overlay (Overlay.truncate size)
  | none => onContextStore (directTruncate size)

def fileSize : ContextM Nat := do
  let context ← Action.read
  match context.overlay with
  | some overlay => pure overlay.size
  | none => do
      let block ← onContextStore Superblock.load
      pure block.dbSize.toNat

variable {block : Superblock} {base file : List UInt8} {store : Store} {context : Context}

theorem onContextStore_of {α : Type} {call : StoreM α} {outcome : Outcome StableMemoryError α} {after : Store}
    (ended : call context.store = (outcome, after)) :
    onContextStore call context = (outcome, { context with store := after }) :=
  Action.zoom_of ended

theorem beginOverlay_of_none (closed : context.overlay = none) (size : Nat) :
    beginOverlay size context = (.ok (), { context with overlay := some (Overlay.new size) }) := by
  rw [beginOverlay, Action.read_bind_apply]
  simp only [closed]
  rfl

theorem beginOverlay_of_some {overlay : Overlay} (active : context.overlay = some overlay) (size : Nat) :
    beginOverlay size context = (.err (.failpoint "overlay already active"), context) := by
  rw [beginOverlay, Action.read_bind_apply]
  simp only [active]
  rfl

/-! ## A context between transactions -/

/-- The image behind a committed state: nothing was ever stored, or the stored
block serves it. -/
inductive Committed (store : Store) (file : List UInt8) : Prop where
  | pristine (unused : Pristine store) (empty : file = [])
  | stored (block : Superblock) (serves : Serves store block file)
      (pages : block.pageCount.toNat = pageCountForSize block.dbSize.toNat)

theorem committed_fresh (grants : Nat → Bool) : Committed (Context.fresh grants).store [] :=
  .pristine ⟨rfl, rfl⟩ rfl

/-- A load from a committed state returns a block that serves the image, or is
refused its first page. -/
theorem Committed.load_cases (committed : Committed store file) :
    (∃ block after, Superblock.load store = (.ok block, after) ∧ Serves after block file ∧
      block.pageCount.toNat = pageCountForSize block.dbSize.toNat) ∨
    (∃ error after, Superblock.load store = (.err error, after) ∧ Committed after file) := by
  cases committed with
  | pristine unused empty =>
      rw [empty]
      rcases unused.load_cases with loaded | refused
      · obtain ⟨after, ended, serves, _⟩ := loaded
        exact .inl ⟨_, after, ended, serves, rfl⟩
      · obtain ⟨error, after, ended, kept⟩ := refused
        exact .inr ⟨error, after, ended, .pristine kept rfl⟩
  | stored block serves pages =>
      exact .inl ⟨block, _, serves.coherent.load_eq, serves.warm, pages⟩

theorem ensureCurrentLayout_of (serves : Serves store block base) :
    ensureCurrentLayout store = (.ok (), { store with superblockCache := some block }) := by
  rw [ensureCurrentLayout, Action.bind_of_ok _ serves.coherent.load_eq,
    if_pos serves.coherent.checked.layoutVersion]
  rfl

/-- What a load leaves, as a store of its own: neither another load nor the layout
check changes it. -/
theorem Serves.warmed (serves : Serves store block base) :
    ∃ warm : Store, { store with superblockCache := some block } = warm ∧
      Superblock.load store = (.ok block, warm) ∧ Superblock.load warm = (.ok block, warm) ∧
      ensureCurrentLayout store = (.ok (), warm) ∧ ensureCurrentLayout warm = (.ok (), warm) :=
  ⟨_, rfl, serves.coherent.load_eq, serves.warm.coherent.load_eq, ensureCurrentLayout_of serves,
    ensureCurrentLayout_of serves.warm⟩

/-- An overlay that reports itself empty stands for its base. -/
theorem Overlay.Holds.file_eq {frame : OverlayFrame} (holds : Overlay.Holds block base frame file)
    (empty : frame.self.isEmpty = true) : file = base := by
  have shows := holds.showing.shows
  simp only [Overlay.isEmpty, Bool.and_eq_true, beq_iff_eq, List.isEmpty_iff] at empty
  obtain ⟨⟨size, pages⟩, extents⟩ := empty
  have lengths : file.length = base.length := by
    rw [← holds.size, size, shows.baseSize]
  apply ext_getD 0 lengths
  intro position inside
  rw [← shows.bytes position inside]
  simp [Overlay.byteAt, Overlay.dirtyPage, Overlay.pageIsZeroMasked, extentsMask, pages, extents]

/-- Committing an overlay that stands for a file leaves that file, or an error
and the image it was opened on. -/
theorem commitOverlay_refines {overlay : Overlay} (holds : Overlay.Holds block base ⟨overlay, store⟩ file)
    (pages : block.pageCount.toNat = pageCountForSize block.dbSize.toNat) (advanceTx : Bool) :
    (∃ after, commitOverlay overlay advanceTx store = (.ok (), after) ∧ Committed after file) ∨
    (∃ error after, commitOverlay overlay advanceTx store = (.err error, after) ∧ Committed after base) := by
  have serves : Serves store block base := holds.showing.serves
  have shows : overlay.Shows base file.length fun position => file.getD position 0 := holds.showing.shows
  have size : overlay.size = file.length := holds.size
  have bounded : overlay.size < u64Bound := by
    rw [size]
    exact holds.bounded
  rcases commitOverlay_cases serves.coherent serves.readable.base shows.pageLength bounded advanceTx with
    done | failed
  · obtain ⟨zeroExtents, grown, prepared, ended⟩ := done
    refine .inl ⟨_, ended, .stored _ (publishedIn_serves serves advanceTx prepared ?_ size bounded) ?_⟩
    · rw [size]
      exact shows
    · have sizeValue : (UInt64.ofNat overlay.size).toNat = overlay.size := UInt64.toNat_ofNat_of_lt' bounded
      have countValue : (UInt64.ofNat (Superblock.pageCountForSize overlay.size)).toNat =
          Superblock.pageCountForSize overlay.size := UInt64.toNat_ofNat_of_lt' (pageCountForSize_lt bounded)
      rw [Superblock.stamped_pageCount, Superblock.stamped_dbSize, committedBlock_pageCount,
        committedBlock_dbSize, sizeValue, countValue]
      rfl
  · obtain ⟨error, after, ended, memory, cache⟩ := failed
    refine .inr ⟨error, after, ended, .stored block ?_ pages⟩
    refine ⟨⟨?_, .inr cache⟩, ?_, ?_⟩
    · rw [memory]
      exact serves.coherent.accepted
    · rw [memory]
      exact serves.readable
    · rw [memory]
      exact serves.image_eq

end IcSqliteVfs.SqliteVfs
