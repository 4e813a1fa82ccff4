import IcSqliteVfs.SqliteVfs.ChunkedRefresh
import IcSqliteVfs.SqliteVfs.FileSafety

namespace IcSqliteVfs.Semantics.Action

variable {σ ε α : Type} {state : σ}

theorem ends_of_returned {call : Action σ ε α} {post : σ → Prop} (returns : (call state).1 ≠ .panic)
    (after : post (call state).2) : Ends call state (fun _ => post) post := by
  rw [Ends]
  cases ended : call state with
  | mk outcome next =>
      rw [ended] at returns after
      cases outcome with
      | ok value => exact after
      | err error => exact after
      | panic => exact returns rfl

end IcSqliteVfs.Semantics.Action

namespace IcSqliteVfs.SqliteVfs

open IcSqliteVfs.Data IcSqliteVfs.Semantics IcSqliteVfs.Stable

/-! # Reads of the committed image

What a read-only file has kept of its reads answers for the committed image as
long as neither the stored block nor the memory has changed.
-/

/-- The image that a cold start finds in the memory. -/
def committedImage (context : Context) : Option (List UInt8) :=
  match (Superblock.load { context.store with superblockCache := none }).1 with
  | .ok block => some (image context.store.memory block)
  | _ => none

/-- What a read of a file answers that is this image. -/
def readOf (image : List UInt8) (amount : Int32) (offset : Int64) : ResultCode × List UInt8 :=
  match checkedAmount amount with
  | none => (.ioErrRead, [])
  | some amount =>
      match checkedOffset offset with
      | none => (.ioErrRead, [])
      | some offset =>
          (if amount = 0 ∨ offset.toNat + amount ≤ image.length then .ok else .ioErrShortRead,
            readFrom 0 image offset.toNat amount)

variable {context next : Context} {block edited : Superblock} {base other : List UInt8} {file : IcStableFile}

theorem Live.committedImage_eq (live : Live context block base) : committedImage context = some base := by
  have cold : Superblock.Coherent { context.store with superblockCache := none } block :=
    ⟨live.serves.coherent.accepted, .inl rfl⟩
  simp only [committedImage, cold.load_eq, live.serves.image_eq]

/-- There is one block to load. -/
theorem Live.block_eq (live : Live context block base) (same : Live context edited other) : edited = block := by
  have loaded := same.serves.coherent.load_eq
  rw [live.serves.coherent.load_eq] at loaded
  exact (Outcome.ok.inj (Prod.mk.inj loaded).1).symm

/-- A context with an image on a page boundary. -/
inductive Hosts (context : Context) : Prop where
  | intro (block : Superblock) (base : List UInt8) (live : Live context block base)
      (aligned : block.dbBaseOffset.toNat % sqlitePageSize = 0)

/-- What a read-only file has kept is still so. -/
structure UpToDate (context : Context) (file : IcStableFile) : Prop where
  readOnly : file.readOnly = true
  snapshot : ∀ block base, Live context block base → file.readSnapshot.getD block = block
  pages : ∀ block base, Live context block base → file.readPageOffsets.Valid context.store block

theorem upToDate_new (context : Context) : UpToDate context (IcStableFile.new true) where
  readOnly := rfl
  snapshot := fun _ _ _ => rfl
  pages := fun _ _ _ => ⟨nofun, nofun⟩

theorem PageOffsetCache.Valid.kept {cache : PageOffsetCache} {store after : Store} (valid : cache.Valid store block)
    (memory : after.memory = store.memory) : cache.Valid after block := by
  refine ⟨valid.entries, ?_⟩
  rw [memory]
  exact valid.pages

theorem UpToDate.kept (current : UpToDate context file) (live : Live context block base)
    (quiet : Quiet block base context next) : UpToDate next file where
  readOnly := current.readOnly
  snapshot := by
    intro stored image loaded
    obtain rfl := quiet.live.block_eq loaded
    exact current.snapshot _ _ live
  pages := by
    intro stored image loaded
    obtain rfl := quiet.live.block_eq loaded
    exact (current.pages _ _ live).kept quiet.memory

/-! ## The methods of a file that is up to date -/

variable {vfs : Vfs} {handle : Nat}

theorem setFile_self (handle : Nat) (vfs : Vfs) : setFile handle (vfs.files handle) vfs = vfs := by
  have same : (fun other => if other = handle then vfs.files handle else vfs.files other) = vfs.files := by
    funext other
    split
    · rename_i here
      rw [here]
    · rfl
  rw [setFile, same]

@[simp] theorem setFile_files (handle : Nat) (file : IcStableFile) (vfs : Vfs) :
    (setFile handle file vfs).files handle = file := if_pos rfl

@[simp] theorem setFile_setFile (handle : Nat) (first second : IcStableFile) (vfs : Vfs) :
    setFile handle second (setFile handle first vfs) = setFile handle second vfs := by
  simp only [setFile, Vfs.mk.injEq, true_and]
  funext other
  split <;> rfl

/-- A file that was read: neither the image nor the overlay has changed. -/
structure Reread (context : Context) (block : Superblock) (base : List UInt8) (next : Context) (file : IcStableFile) :
    Prop where
  quiet : Quiet block base context next
  overlay : next.overlay = context.overlay
  upToDate : UpToDate next file

theorem Live.snapshotOf_of (live : Live vfs.context block base) (current : UpToDate vfs.context (vfs.files handle)) :
    ∃ next, snapshotOf handle vfs =
        (.ok block, setFile handle { vfs.files handle with readSnapshot := some block } ⟨next, vfs.files⟩) ∧
      Reread vfs.context block base next { vfs.files handle with readSnapshot := some block } := by
  have still : ∀ {next : Context}, Quiet block base vfs.context next →
      UpToDate next { vfs.files handle with readSnapshot := some block } := by
    intro next quiet
    have kept := current.kept live quiet
    exact ⟨kept.readOnly, fun _ _ loaded => quiet.live.block_eq loaded ▸ rfl, kept.pages⟩
  rw [snapshotOf, Action.read_bind_apply]
  cases found : (vfs.files handle).readSnapshot with
  | some snapshot =>
      have known := current.snapshot block base live
      rw [found] at known
      obtain rfl : snapshot = block := known
      have quiet : Quiet snapshot base vfs.context vfs.context := ⟨live, rfl⟩
      refine ⟨vfs.context, ?_, quiet, rfl, still quiet⟩
      have same : { vfs.files handle with readSnapshot := some snapshot } = vfs.files handle := by rw [← found]
      rw [same, setFile_self]
      rfl
  | none =>
      have quiet : Quiet block base vfs.context
          { vfs.context with store := { vfs.context.store with superblockCache := some block } } := ⟨live.loaded, rfl⟩
      have loaded : onVfsContext (onContextStore Superblock.load) vfs = (.ok block, ⟨_, vfs.files⟩) :=
        Action.zoom_of (onContextStore_of live.serves.coherent.load_eq)
      refine ⟨_, ?_, quiet, rfl, still quiet⟩
      dsimp only
      rw [Action.bind_of_ok _ loaded]
      rfl

theorem Live.readFile_of (live : Live vfs.context block base)
    (aligned : block.dbBaseOffset.toNat % sqlitePageSize = 0) (current : UpToDate vfs.context (vfs.files handle))
    (offset amount : Nat) :
    ∃ next file, readFile handle offset amount vfs =
        (.ok (readFrom 0 base offset amount, decide (amount = 0 ∨ offset + amount ≤ base.length)),
          setFile handle file ⟨next, vfs.files⟩) ∧ Reread vfs.context block base next file := by
  obtain ⟨next, found, reread⟩ := live.snapshotOf_of current
  have serves := reread.quiet.live.serves
  have placed : Placed next.store block := ⟨aligned, serves.readable.room⟩
  obtain ⟨outcome, kept, cached, plain, valid⟩ :=
    placed.read_agrees offset amount _ (reread.upToDate.pages _ _ reread.quiet.live)
  rw [readBaseAtWithBlock_of serves.readable, serves.image_eq, ← serves.size_eq] at plain
  obtain rfl := (Prod.mk.inj plain).1
  let vfs' := setFile handle { vfs.files handle with readSnapshot := some block } ⟨next, vfs.files⟩
  have onCache : onPageCache handle (readBaseAtWithPageCache block offset amount) vfs' = _ :=
    onPageCache_of (by rw [setFile_files]; exact cached)
  refine ⟨next, { vfs.files handle with readSnapshot := some block, readPageOffsets := kept }, ?_, reread.quiet,
    reread.overlay, ?_⟩
  · rw [readFile, Action.read_bind_apply, if_pos current.readOnly, Action.bind_of_ok _ found, onCache, setFile_setFile,
      setFile_files]
  · refine ⟨reread.upToDate.readOnly, reread.upToDate.snapshot, ?_⟩
    intro stored image loaded
    obtain rfl := reread.quiet.live.block_eq loaded
    exact valid

theorem Live.xRead_of (live : Live vfs.context block base) (aligned : block.dbBaseOffset.toNat % sqlitePageSize = 0)
    (current : UpToDate vfs.context (vfs.files handle)) (amount : Int32) (offset : Int64) :
    ∃ next file, SqliteVfs.xRead handle amount offset vfs =
        (.ok (readOf base amount offset), setFile handle file ⟨next, vfs.files⟩) ∧
      Reread vfs.context block base next file := by
  have unread : Reread vfs.context block base vfs.context (vfs.files handle) := ⟨⟨live, rfl⟩, rfl, current⟩
  rw [SqliteVfs.xRead, readOf]
  cases checkedAmount amount with
  | none => exact ⟨_, _, by rw [setFile_self]; rfl, unread⟩
  | some count =>
      cases checkedOffset offset with
      | none => exact ⟨_, _, by rw [setFile_self]; rfl, unread⟩
      | some start =>
          obtain ⟨next, file, ended, reread⟩ := live.readFile_of aligned current start.toNat count
          refine ⟨next, file, ?_, reread⟩
          simp only [orReport]
          rw [Action.bind_of_ok _ ended]
          simp only [Action.pure_apply, decide_eq_true_eq]

theorem Live.xFileSize_of (live : Live vfs.context block base)
    (current : UpToDate vfs.context (vfs.files handle)) :
    ∃ next file, SqliteVfs.xFileSize handle vfs =
        (.ok (sizeResult base.length), setFile handle file ⟨next, vfs.files⟩) ∧
      Reread vfs.context block base next file := by
  obtain ⟨next, found, reread⟩ := live.snapshotOf_of current
  refine ⟨next, _, ?_, reread⟩
  rw [SqliteVfs.xFileSize, Action.read_bind_apply]
  simp only [orReport]
  rw [if_pos current.readOnly, Action.bind_of_ok _ found, live.serves.size_eq]
  rfl

/-! ## Changes of the image -/

/-- A commit closes the overlay, and leaves the image on its page boundary. -/
theorem Live.commitUpdate_ends (live : Live context block base)
    (aligned : block.dbBaseOffset.toNat % sqlitePageSize = 0) :
    Action.Ends commitUpdate context (fun _ next => Hosts next ∧ next.overlay = none)
      fun next => Hosts next ∧ next.overlay = none := by
  rcases live.commitUpdate_cases with quiet | published | failed
  · obtain ⟨next, ended, idle, quiet⟩ := quiet
    exact Action.ends_of_ok ended ⟨.intro block base quiet.live aligned, idle⟩
  · obtain ⟨overlay, zeroExtents, grown, image, ended, _, _, after⟩ := published
    refine Action.ends_of_ok ended ⟨.intro _ image after ?_, rfl⟩
    rw [Superblock.stamped_dbBaseOffset, committedBlock_dbBaseOffset]
    exact aligned
  · obtain ⟨error, next, ended, idle, quiet⟩ := failed
    exact Action.ends_of_err ended ⟨.intro block base quiet.live aligned, idle⟩

/-- The image is where it was, and so is the overlay. -/
structure Rehosts (context next : Context) : Prop where
  hosts : Hosts next
  overlay : next.overlay = context.overlay

theorem Live.rehosts (live : Live context block base) (aligned : block.dbBaseOffset.toNat % sqlitePageSize = 0) :
    Rehosts context context :=
  ⟨.intro block base live aligned, rfl⟩

theorem Live.refreshChecksum_ends (live : Live context block base)
    (aligned : block.dbBaseOffset.toNat % sqlitePageSize = 0) :
    Action.Ends SqliteVfs.refreshChecksum context (fun _ => Rehosts context) (Rehosts context) := by
  by_cases idle : context.overlay = none
  · obtain ⟨ended, after⟩ := live.refreshChecksum_of_idle idle
    rw [ended] at after
    refine Action.ends_of_ok ended ⟨.intro _ base after ?_, rfl⟩
    rw [Superblock.stamped_dbBaseOffset]
    exact aligned
  · obtain ⟨overlay, active⟩ := Option.ne_none_iff_exists'.mp idle
    exact Action.ends_of_err (Action.bind_of_err _ (rejected_of_active active)) (live.rehosts aligned)

theorem keeps_overlay_onContextStore {α : Type} (overlay : Option Overlay) (call : StoreM α) :
    Action.Keeps (fun context => context.overlay = overlay) (onContextStore call) fun _ => True :=
  fun _ start => ⟨start, fun _ _ => True.intro⟩

theorem keeps_overlay_rejectDuringUpdate (overlay : Option Overlay) :
    Action.Keeps (fun context => context.overlay = overlay) rejectDuringUpdate fun _ => True := by
  refine Action.Keeps.bind Action.keeps_read fun context _ => ?_
  split
  · exact Action.keeps_fail _
  · exact Action.keeps_pure True.intro

theorem keeps_overlay_refreshWithin (overlay : Option Overlay) (maxBytes calls : Nat) :
    Action.Keeps (fun context => context.overlay = overlay) (refreshChecksumChunkWithin maxBytes calls)
      fun _ => True := by
  induction calls with
  | zero => exact Action.keeps_panic
  | succ calls ih =>
      rw [refreshChecksumChunkWithin]
      refine Action.Keeps.bind (keeps_overlay_rejectDuringUpdate overlay) fun _ _ => ?_
      split
      · exact Action.keeps_fail _
      · refine Action.Keeps.bind (keeps_overlay_onContextStore overlay _) fun block _ => ?_
        rw [refreshLoaded]
        split
        · exact Action.keeps_fail _
        · dsimp only
          split
          · exact Action.Keeps.bind (keeps_overlay_onContextStore overlay _) fun _ _ => ih
          · exact keeps_overlay_onContextStore overlay _

theorem Live.refreshChecksumChunk_ends (live : Live context block base)
    (aligned : block.dbBaseOffset.toNat % sqlitePageSize = 0) (maxBytes : Nat) :
    Action.Ends (SqliteVfs.refreshChecksumChunk maxBytes) context (fun _ => Rehosts context) (Rehosts context) := by
  refine Action.ends_of_returned (live.refreshChecksumChunk_returns maxBytes) ?_
  obtain ⟨after, settled, place, _⟩ := (live.refreshWithin_settled maxBytes 2).after
  obtain ⟨overlay, _⟩ := keeps_overlay_refreshWithin context.overlay maxBytes 2 context rfl
  exact ⟨.intro after base settled (by rw [place.dbBaseOffset]; exact aligned), overlay⟩

end IcSqliteVfs.SqliteVfs
