import IcSqliteVfs.SqliteVfs.File

namespace IcSqliteVfs.SqliteVfs

open IcSqliteVfs.Data IcSqliteVfs.Semantics IcSqliteVfs.Stable

/-! # File I/O never panics -/

/-- The committed image, and the file that writable handles see. -/
structure Presents (context : Context) (block : Superblock) (base file : List UInt8) : Prop where
  live : Live context block base
  aligned : block.dbBaseOffset.toNat % sqlitePageSize = 0
  idle : context.overlay = none → file = base
  updating : ∀ overlay, context.overlay = some overlay →
    Overlay.Holds block base ⟨overlay, context.store⟩ file

/-- A call that changes nothing of it. -/
structure Stays (context : Context) (block : Superblock) (base file : List UInt8) (next : Context) : Prop where
  presents : Presents next block base file
  memory : next.store.memory = context.store.memory

/-- A call after which memory was not given back. -/
inductive Moves (context next : Context) : Prop where
  | intro (block : Superblock) (base file : List UInt8) (presents : Presents next block base file)
      (pages : context.store.memory.pages ≤ next.store.memory.pages)

variable {context next : Context} {block : Superblock} {base file : List UInt8}

theorem Stays.moves (stays : Stays context block base file next) : Moves context next :=
  .intro block base file stays.presents (by rw [stays.memory])

theorem Stays.movesBy {last : Context} (stays : Stays context block base file next) (moves : Moves next last) :
    Moves context last := by
  obtain ⟨after, image, view, presents, pages⟩ := moves
  rw [stays.memory] at pages
  exact .intro after image view presents pages

theorem Stays.trans {last : Context} (stays : Stays context block base file next)
    {after : Superblock} {image view : List UInt8} (same : Stays next after image view last) :
    Stays context after image view last :=
  ⟨same.presents, same.memory.trans stays.memory⟩

theorem Overlay.Holds.sound {frame : OverlayFrame} (holds : Overlay.Holds block base frame file) :
    frame.self.Sound where
  pageLength := holds.showing.shows.pageLength
  cleanLength := by
    intro entry member
    rw [holds.showing.shows.clean entry member]
    exact length_readFrom _ _ _ _
  size := by
    rw [holds.size]
    exact holds.bounded

/-- Without an overlay the file is the image. -/
theorem presents_idle (live : Live context block base) (aligned : block.dbBaseOffset.toNat % sqlitePageSize = 0)
    (idle : context.overlay = none) : Presents context block base base where
  live := live
  aligned := aligned
  idle := fun _ => rfl
  updating := by
    intro overlay active
    rw [idle] at active
    cases active

/-- An overlay call that kept the memory leaves an overlay that stands for a file. -/
theorem Presents.afterOverlay (presents : Presents context block base file) {frame : OverlayFrame}
    {view : List UInt8} (holds : Overlay.Holds block base frame view)
    (memory : frame.store.memory = context.store.memory) :
    Stays context block base view ⟨frame.store, some frame.self⟩ := by
  refine ⟨⟨⟨holds.showing.serves, ?_, ?_⟩, presents.aligned, ?_, ?_⟩, memory⟩
  · change block.isImporting = true → superblockSize ≤ block.importBaseOffset.toNat ∧
      block.importBaseOffset.toNat + block.importWrittenUntil.toNat ≤ frame.store.memory.capacity
    rw [memory]
    exact presents.live.imported
  · intro overlay active
    obtain rfl := Option.some.inj active
    exact holds.sound
  · intro idle
    cases idle
  · intro overlay active
    obtain rfl := Option.some.inj active
    exact holds

theorem Presents.load (presents : Presents context block base file) :
    ∃ next, onContextStore Superblock.load context = (.ok block, next) ∧ Stays context block base file next := by
  have loaded := presents.live.loaded
  refine ⟨_, onContextStore_of presents.live.serves.coherent.load_eq, ⟨loaded, presents.aligned, presents.idle, ?_⟩,
    rfl⟩
  intro overlay active
  have holds := presents.updating overlay active
  exact ⟨⟨loaded.serves, holds.showing.unbudgeted, holds.showing.shows⟩, holds.size, holds.bounded⟩

/-! ## Reads -/

theorem Presents.readAt (presents : Presents context block base file) (offset count : Nat) :
    ∃ next, SqliteVfs.readAt offset count context =
        (.ok (readFrom 0 file offset count, decide (count = 0 ∨ offset + count ≤ file.length)), next) ∧
      Stays context block base file next := by
  rw [SqliteVfs.readAt, Action.read_bind_apply]
  cases active : context.overlay with
  | some overlay =>
      have holds := presents.updating overlay active
      obtain ⟨answer, frame, ended, same, kept⟩ := Overlay.readAt_of holds offset count
      have start : Overlay.Steady context.store.memory block base ⟨overlay, context.store⟩ :=
        ⟨holds.sound, presents.live.serves, rfl⟩
      obtain ⟨steady, _⟩ := Overlay.keeps_readAt offset count _ start
      rw [ended] at steady
      refine ⟨⟨frame.store, some frame.self⟩, ?_, presents.afterOverlay kept steady.memory_eq⟩
      simp only [onOverlay, ended, same]
  | none =>
      obtain rfl := presents.idle active
      by_cases nothing : count = 0
      · refine ⟨context, ?_, presents, rfl⟩
        rw [nothing]
        rfl
      · obtain ⟨next, loaded, stays⟩ := presents.load
        have warm := presents.live.loaded.serves
        refine ⟨{ context with store := { context.store with superblockCache := some block } }, ?_, ?_⟩
        · have ended : readBaseAt offset count context.store =
              (.ok (readFrom 0 file offset count, decide (count = 0 ∨ offset + count ≤ file.length)),
                { context.store with superblockCache := some block }) := by
            rw [readBaseAt, if_neg nothing, Action.bind_of_ok _ presents.live.serves.coherent.load_eq,
              readBaseAtWithBlock_of warm.readable, warm.image_eq, warm.size_eq]
          exact onContextStore_of ended
        · rw [onContextStore_of presents.live.serves.coherent.load_eq] at loaded
          obtain rfl := (Prod.mk.inj loaded).2
          exact stays

theorem Presents.fileSize (presents : Presents context block base file) :
    ∃ next, SqliteVfs.fileSize context = (.ok file.length, next) ∧ Stays context block base file next := by
  rw [SqliteVfs.fileSize, Action.read_bind_apply]
  cases active : context.overlay with
  | some overlay =>
      refine ⟨context, ?_, presents, rfl⟩
      have size : overlay.size = file.length := (presents.updating overlay active).size
      simp only [size]
      rfl
  | none =>
      obtain ⟨next, loaded, stays⟩ := presents.load
      refine ⟨next, ?_, stays⟩
      simp only []
      rw [Action.bind_of_ok _ loaded, ← presents.live.serves.size_eq, presents.idle active]
      rfl

/-! ## Changes -/

theorem Presents.onOverlay (presents : Presents context block base file) {overlay : Overlay}
    (active : context.overlay = some overlay) {change : OverlayM Unit} {overflows : Nat → Prop}
    {model : List UInt8 → List UInt8} (refines : Overlay.Refines block base change overflows model)
    (keeps : ∀ memory, Action.Keeps (Overlay.Steady memory block base) change fun _ => True) :
    Action.Ends (SqliteVfs.onOverlay overlay change) context (fun _ => Moves context)
      (Stays context block base file) := by
  have holds := presents.updating overlay active
  have start : Overlay.Steady context.store.memory block base ⟨overlay, context.store⟩ :=
    ⟨holds.sound, presents.live.serves, rfl⟩
  obtain ⟨steady, _⟩ := keeps _ _ start
  rcases refines _ file holds with accepted | rejected
  · obtain ⟨_, _, frame, ended, kept⟩ := accepted
    rw [ended] at steady
    have finished : SqliteVfs.onOverlay overlay change context = (.ok (), ⟨frame.store, some frame.self⟩) := by
      simp only [SqliteVfs.onOverlay, ended]
    exact Action.ends_of_ok finished (presents.afterOverlay kept steady.memory_eq).moves
  · obtain ⟨_, ended⟩ := rejected
    have finished : SqliteVfs.onOverlay overlay change context =
        (.err .offsetOverflow, ⟨context.store, some overlay⟩) := by
      simp only [SqliteVfs.onOverlay, ended]
    exact Action.ends_of_err finished (presents.afterOverlay holds rfl)

/-- The overlay of a direct change, over a store that has only warmed its cache. -/
theorem Presents.directOverlay (presents : Presents context block base file) (idle : context.overlay = none)
    {change : OverlayM Unit} {overflows : Nat → Prop} {model : List UInt8 → List UInt8}
    (refines : Overlay.Refines block base change overflows model)
    (keeps : ∀ memory, Action.Keeps (Overlay.Steady memory block base) change fun _ => True) :
    Action.Ends (SqliteVfs.directOverlay change) context.store
      (fun direct after => Stays context block base file { context with store := after } ∧
        ∃ view, Overlay.Holds block base ⟨direct, after⟩ view)
      fun after => Stays context block base file { context with store := after } := by
  obtain rfl := presents.idle idle
  have warm := presents.live.loaded.serves
  have holds := Overlay.holds_new warm
  have start : Overlay.Steady context.store.memory block file
      ⟨Overlay.new file.length, { context.store with superblockCache := some block }⟩ :=
    ⟨holds.sound, warm, rfl⟩
  obtain ⟨steady, _⟩ := keeps _ _ start
  have stays : ∀ after : Store, Serves after block file → after.memory = context.store.memory →
      Stays context block file file { context with store := after } := by
    intro after serves memory
    refine ⟨presents_idle ⟨serves, ?_, presents.live.sound⟩ presents.aligned idle, memory⟩
    rw [memory]
    exact presents.live.imported
  rw [SqliteVfs.directOverlay]
  refine Action.ends_after_ok (ensureCurrentLayout_of presents.live.serves) ?_
  refine Action.ends_after_ok warm.coherent.load_eq ?_
  rw [← warm.size_eq]
  rcases refines _ file holds with accepted | rejected
  · obtain ⟨_, _, frame, ended, kept⟩ := accepted
    rw [ended] at steady
    have finished : onNewOverlay file.length change { context.store with superblockCache := some block } =
        (.ok frame.self, frame.store) := by
      rw [onNewOverlay, ended]
    exact Action.ends_of_ok finished ⟨stays _ kept.showing.serves steady.memory_eq, _, kept⟩
  · obtain ⟨_, ended⟩ := rejected
    have finished : onNewOverlay file.length change { context.store with superblockCache := some block } =
        (.err .offsetOverflow, { context.store with superblockCache := some block }) := by
      rw [onNewOverlay, ended]
    exact Action.ends_of_err finished (stays _ warm rfl)

/-- No page of an overlay that stands for a file lies behind its end. -/
theorem debugCommitOverlay_of {overlay : Overlay} {store : Store} {view : List UInt8}
    (holds : Overlay.Holds block base ⟨overlay, store⟩ view) (advanceTx : Bool) :
    debugCommitOverlay overlay advanceTx store = commitOverlay overlay advanceTx store := by
  have load := holds.showing.serves.coherent.load_eq
  have bound : ∀ entry ∈ overlay.pages, entry.1 < pageCountForSize overlay.size := by
    intro entry member
    have size : overlay.size = view.length := holds.size
    rw [size]
    exact holds.showing.shows.pageBound entry member
  rw [debugCommitOverlay, commitOverlay, Action.bind_of_ok _ load, Action.bind_of_ok _ load,
    Action.bind_of_ok _ (Action.require_of bound)]

theorem Presents.debugCommitOverlay (presents : Presents context block base file) (idle : context.overlay = none)
    {overlay : Overlay} {view : List UInt8} (holds : Overlay.Holds block base ⟨overlay, context.store⟩ view)
    (advanceTx : Bool) :
    Action.Ends (SqliteVfs.debugCommitOverlay overlay advanceTx) context.store
      (fun _ after => Moves context { context with store := after })
      fun after => Stays context block base file { context with store := after } := by
  rw [Action.Ends, debugCommitOverlay_of holds]
  rcases presents.live.commitOverlay_cases holds.sound advanceTx with done | failed
  · obtain ⟨zeroExtents, grown, published, ended, prepared, after⟩ := done
    rw [ended]
    refine .intro _ _ _ (presents_idle after ?_ idle) ?_
    · rw [Superblock.stamped_dbBaseOffset, committedBlock_dbBaseOffset]
      exact presents.aligned
    · change context.store.memory.pages ≤ (publishedIn block overlay advanceTx zeroExtents grown).memory.pages
      rw [publishedIn, Superblock.storedIn_pages, withCommitPages_pages]
      exact prepared.pages
  · obtain ⟨error, after, ended, memory, same⟩ := failed
    rw [ended]
    obtain rfl := presents.idle idle
    exact ⟨presents_idle same presents.aligned idle, memory⟩

theorem Presents.debugDirectWrite (presents : Presents context block base file) (idle : context.overlay = none)
    (offset : Nat) (bytes : List UInt8) :
    Action.Ends (SqliteVfs.debugDirectWrite offset bytes) context.store
      (fun _ after => Moves context { context with store := after })
      fun after => Stays context block base file { context with store := after } := by
  rw [SqliteVfs.debugDirectWrite]
  split
  · exact Action.ends_pure (Stays.moves ⟨presents, rfl⟩)
  · refine Action.Ends.bind (presents.directOverlay idle (Overlay.writeAt_refines block base offset bytes)
      fun memory => Overlay.keeps_writeAt offset bytes) ?_
    intro direct after built
    obtain ⟨stays, view, holds⟩ := built
    exact (stays.presents.debugCommitOverlay idle holds false).imp (fun _ _ moves => stays.movesBy moves)
      fun _ same => stays.trans same

theorem Presents.debugDirectTruncate (presents : Presents context block base file) (idle : context.overlay = none)
    {size : Nat} (bounded : size < u64Bound) :
    Action.Ends (SqliteVfs.debugDirectTruncate size) context.store
      (fun _ after => Moves context { context with store := after })
      fun after => Stays context block base file { context with store := after } := by
  rw [SqliteVfs.debugDirectTruncate]
  refine Action.Ends.bind (presents.directOverlay idle (Overlay.truncate_refines block base bounded)
    fun memory => Overlay.keeps_truncate bounded) ?_
  intro direct after built
  obtain ⟨stays, view, holds⟩ := built
  split
  · exact Action.ends_pure stays.moves
  · exact (stays.presents.debugCommitOverlay idle holds false).imp (fun _ _ moves => stays.movesBy moves)
      fun _ same => stays.trans same

theorem Presents.debugWriteAt (presents : Presents context block base file) (offset : Nat) (bytes : List UInt8) :
    Action.Ends (SqliteVfs.debugWriteAt offset bytes) context (fun _ => Moves context)
      (Stays context block base file) := by
  rw [SqliteVfs.debugWriteAt]
  refine Action.ends_read_bind ?_
  cases active : context.overlay with
  | some overlay =>
      exact presents.onOverlay active (Overlay.writeAt_refines block base offset bytes)
        fun memory => Overlay.keeps_writeAt offset bytes
  | none => exact Action.Ends.zoom (presents.debugDirectWrite active offset bytes)

theorem Presents.debugTruncate (presents : Presents context block base file) {size : Nat}
    (bounded : size < u64Bound) :
    Action.Ends (SqliteVfs.debugTruncate size) context (fun _ => Moves context)
      (Stays context block base file) := by
  rw [SqliteVfs.debugTruncate]
  refine Action.ends_read_bind ?_
  cases active : context.overlay with
  | some overlay =>
      exact presents.onOverlay active (Overlay.truncate_refines block base bounded)
        fun memory => Overlay.keeps_truncate bounded
  | none => exact Action.Ends.zoom (presents.debugDirectTruncate active bounded)

/-! ## Transactions -/

theorem Presents.beginUpdate (presents : Presents context block base file) :
    Action.Ends SqliteVfs.beginUpdate context (fun _ => Moves context) (Stays context block base file) := by
  obtain ⟨next, loaded, stays⟩ := presents.load
  rw [SqliteVfs.beginUpdate]
  refine Action.ends_after_ok loaded ?_
  split
  · exact Action.ends_fail _ stays
  · split
    · exact Action.ends_fail _ stays
    · cases active : next.overlay with
      | some overlay => exact Action.ends_of_err (Action.bind_of_err _ (beginOverlay_of_some active _)) stays
      | none =>
          refine Action.ends_after_ok (beginOverlay_of_none active _) (Action.ends_pure ?_)
          have serves := stays.presents.live.serves
          rw [← serves.size_eq]
          exact (stays.movesBy (stays.presents.afterOverlay (Overlay.holds_new serves) rfl).moves)

theorem Presents.rollbackUpdate (presents : Presents context block base file) :
    Stays context block base base { context with overlay := none } :=
  ⟨presents_idle presents.live.closed presents.aligned rfl, rfl⟩

/-- A refused commit is a rollback. -/
theorem Presents.debugCommitUpdate (presents : Presents context block base file) :
    Action.Ends SqliteVfs.debugCommitUpdate context (fun _ => Moves context) (Stays context block base base) := by
  have stays := presents.rollbackUpdate
  rw [SqliteVfs.debugCommitUpdate]
  refine Action.ends_read_bind ?_
  cases active : context.overlay with
  | none => exact Action.ends_pure (Stays.moves ⟨presents, rfl⟩)
  | some overlay =>
      have closed : setOverlay none context = (.ok (), { context with overlay := none }) := rfl
      refine Action.ends_after_ok closed ?_
      split
      · exact Action.ends_pure stays.moves
      · refine Action.Ends.zoom ?_
        exact (stays.presents.debugCommitOverlay rfl (presents.updating overlay active) true).imp
          (fun _ _ moves => stays.movesBy moves) fun _ same => stays.trans same

/-! ## Open files -/

/-- What a file has read before can be read again. -/
structure FileFits (memory : Memory) (file : IcStableFile) : Prop where
  snapshot : ∀ block, file.readSnapshot = some block → Fits memory block ∧ file.readPageOffsets.Shaped block
  unread : file.readSnapshot = none → file.readPageOffsets = PageOffsetCache.new

inductive Safe (vfs : Vfs) : Prop where
  | intro (block : Superblock) (base file : List UInt8) (presents : Presents vfs.context block base file)
      (files : ∀ handle, FileFits vfs.context.store.memory (vfs.files handle))

/-- Both are read with the same block and the same cache. -/
structure SameView (block : Superblock) (file other : IcStableFile) : Prop where
  readOnly : other.readOnly = file.readOnly
  snapshot : other.readSnapshot.getD block = file.readSnapshot.getD block
  readPageOffsets : other.readPageOffsets = file.readPageOffsets

structure Alike (block : Superblock) (base file : List UInt8) (vfs next : Vfs) : Prop where
  stays : Stays vfs.context block base file next.context
  views : ∀ handle, SameView block (vfs.files handle) (next.files handle)

variable {memory : Memory} {vfs later : Vfs} {handle : Nat} {used : Superblock} {cache : PageOffsetCache}

theorem Presents.fits (presents : Presents context block base file) : Fits context.store.memory block :=
  ⟨presents.aligned, presents.live.serves.readable.room⟩

theorem Fits.grown {larger : Memory} (fits : Fits memory block) (pages : memory.pages ≤ larger.pages) :
    Fits larger block :=
  ⟨fits.aligned, fits.room.trans (Nat.mul_le_mul_right _ pages)⟩

theorem FileFits.readWith {file : IcStableFile} (keeps : FileFits memory file) (fits : Fits memory block) :
    Fits memory (file.readSnapshot.getD block) ∧ file.readPageOffsets.Shaped (file.readSnapshot.getD block) := by
  cases found : file.readSnapshot with
  | some snapshot => exact keeps.snapshot snapshot found
  | none =>
      rw [keeps.unread found]
      exact ⟨fits, PageOffsetCache.shaped_new block⟩

theorem Safe.moved (files : ∀ handle, FileFits vfs.context.store.memory (vfs.files handle))
    (moves : Moves vfs.context next) : Safe { vfs with context := next } := by
  obtain ⟨block, base, file, presents, pages⟩ := moves
  refine .intro block base file presents fun handle => ⟨?_, (files handle).unread⟩
  intro snapshot found
  obtain ⟨fits, shaped⟩ := (files handle).snapshot snapshot found
  exact ⟨fits.grown pages, shaped⟩

/-- One file has been read; the others are as before. -/
theorem Safe.opened (files : ∀ handle, FileFits vfs.context.store.memory (vfs.files handle))
    (stays : Stays vfs.context block base file later.context) {readOnly : Bool}
    (others : later.files = fun other => if other = handle then ⟨readOnly, some used, cache⟩ else vfs.files other)
    (fits : Fits vfs.context.store.memory used) (shaped : cache.Shaped used) : Safe later := by
  refine .intro block base file stays.presents fun other => ?_
  rw [stays.memory, others]
  dsimp only
  split
  · refine ⟨?_, fun none => by cases none⟩
    intro snapshot found
    obtain rfl := Option.some.inj found
    exact ⟨fits, shaped⟩
  · exact files other

theorem snapshotOf_of (presents : Presents vfs.context block base file) (handle : Nat) :
    ∃ next, snapshotOf handle vfs = (.ok ((vfs.files handle).readSnapshot.getD block), next) ∧
      Stays vfs.context block base file next.context ∧
      next.files = fun other => if other = handle then
        { vfs.files handle with readSnapshot := some ((vfs.files handle).readSnapshot.getD block) }
      else vfs.files other := by
  rw [snapshotOf, Action.read_bind_apply]
  cases found : (vfs.files handle).readSnapshot with
  | some snapshot =>
      refine ⟨vfs, rfl, ⟨presents, rfl⟩, ?_⟩
      funext other
      split
      · rename_i same
        rw [same, Option.getD_some, ← found]
      · rfl
  | none =>
      obtain ⟨next, loaded, stays⟩ := presents.load
      have zoomed : onVfsContext (onContextStore Superblock.load) vfs = (.ok block, { vfs with context := next }) :=
        Action.zoom_of loaded
      refine ⟨setFile handle { vfs.files handle with readSnapshot := some block } { vfs with context := next }, ?_,
        stays, rfl⟩
      dsimp only
      rw [Action.bind_of_ok _ zoomed]
      rfl

theorem onPageCache_of {α : Type} {call : PageCacheM α} {outcome : Outcome StableMemoryError α}
    {kept : PageOffsetCache}
    (ended : call ⟨(vfs.files handle).readPageOffsets, vfs.context.store⟩ = (outcome, ⟨kept, vfs.context.store⟩)) :
    onPageCache handle call vfs =
      (outcome, setFile handle { vfs.files handle with readPageOffsets := kept } vfs) := by
  rw [onPageCache, Action.zoom]
  simp only [ended]

/-- Whatever the cache of a read-only file holds, the read returns, and what it
returns depends on the file and the memory alone. -/
theorem readFile_cached (fits : Fits memory used) (shaped : cache.Shaped used) (offset amount : Nat) :
    ∃ answer kept, PageOffsetCache.Shaped used kept ∧ ∀ vfs block base file handle,
      Presents vfs.context block base file → vfs.context.store.memory = memory →
      (vfs.files handle).readOnly = true → (vfs.files handle).readSnapshot.getD block = used →
      (vfs.files handle).readPageOffsets = cache →
      ∃ next, readFile handle offset amount vfs = (.ok answer, next) ∧
        Stays vfs.context block base file next.context ∧
        next.files = fun other => if other = handle then ⟨true, some used, kept⟩ else vfs.files other := by
  obtain ⟨answer, kept, still, ended⟩ := fits.read offset amount cache shaped
  refine ⟨answer, kept, still, ?_⟩
  rintro vfs block base file handle presents same readOnly rfl rfl
  obtain ⟨next, found, stays, files⟩ := snapshotOf_of presents handle
  have entry : next.files handle =
      ⟨true, some ((vfs.files handle).readSnapshot.getD block), (vfs.files handle).readPageOffsets⟩ := by
    rw [files]
    simp only [if_true, readOnly]
  have sameCache : (next.files handle).readPageOffsets = (vfs.files handle).readPageOffsets := by rw [entry]
  have read := ended next.context.store (stays.memory.trans same)
  rw [← sameCache] at read
  refine ⟨setFile handle { next.files handle with readPageOffsets := kept } next, ?_, stays, ?_⟩
  · rw [readFile, Action.read_bind_apply, if_pos readOnly, Action.bind_of_ok _ found]
    exact onPageCache_of read
  · funext other
    simp only [setFile, entry, files]
    split <;> rfl

/-! ## The methods -/

theorem readFile_of (presents : Presents vfs.context block base file)
    (files : ∀ handle, FileFits vfs.context.store.memory (vfs.files handle)) (handle offset amount : Nat) :
    ∃ answer, (∃ next, readFile handle offset amount vfs = (.ok answer, next) ∧ Safe next) ∧
      ∀ other, Alike block base file vfs other → (readFile handle offset amount other).1 = .ok answer := by
  by_cases readOnly : (vfs.files handle).readOnly = true
  · obtain ⟨fits, shaped⟩ := (files handle).readWith presents.fits
    obtain ⟨answer, kept, still, reads⟩ := readFile_cached fits shaped offset amount
    refine ⟨answer, ?_, ?_⟩
    · obtain ⟨next, ended, stays, others⟩ := reads vfs block base file handle presents rfl readOnly rfl rfl
      exact ⟨next, ended, Safe.opened files stays others fits still⟩
    · intro other alike
      have view := alike.views handle
      obtain ⟨_, ended, _⟩ := reads other block base file handle alike.stays.presents alike.stays.memory
        (view.readOnly.trans readOnly) view.snapshot view.readPageOffsets
      rw [ended]
  · have dispatched : ∀ other : Vfs, (other.files handle).readOnly = (vfs.files handle).readOnly →
        readFile handle offset amount other = onVfsContext (readAt offset amount) other := by
      intro other same
      rw [readFile, Action.read_bind_apply, same, if_neg readOnly]
    refine ⟨(readFrom 0 file offset amount, decide (amount = 0 ∨ offset + amount ≤ file.length)), ?_, ?_⟩
    · obtain ⟨next, ended, stays⟩ := presents.readAt offset amount
      refine ⟨{ vfs with context := next }, ?_, Safe.moved files stays.moves⟩
      rw [dispatched vfs rfl]
      exact Action.zoom_of ended
    · intro other alike
      obtain ⟨next, ended, _⟩ := alike.stays.presents.readAt offset amount
      rw [dispatched other (alike.views handle).readOnly, onVfsContext, Action.zoom_of ended]

/-- A read is refused for its arguments only. -/
theorem xRead_of (presents : Presents vfs.context block base file)
    (files : ∀ handle, FileFits vfs.context.store.memory (vfs.files handle)) (handle : Nat) (amount : Int32)
    (offset : Int64) :
    ∃ result, (∃ next, xRead handle amount offset vfs = (.ok result, next) ∧ Safe next ∧
        (result.1.Refuses → Alike block base file vfs next)) ∧
      ∀ other, Alike block base file vfs other → (xRead handle amount offset other).1 = .ok result := by
  have unchanged : Alike block base file vfs vfs := ⟨⟨presents, rfl⟩, fun _ => ⟨rfl, rfl, rfl⟩⟩
  rw [xRead]
  cases counted : checkedAmount amount with
  | none => exact ⟨_, ⟨vfs, rfl, .intro block base file presents files, fun _ => unchanged⟩, fun _ _ => rfl⟩
  | some count =>
      cases placed : checkedOffset offset with
      | none => exact ⟨_, ⟨vfs, rfl, .intro block base file presents files, fun _ => unchanged⟩, fun _ _ => rfl⟩
      | some start =>
          obtain ⟨answer, ⟨next, ended, safe⟩, same⟩ := readFile_of presents files handle start.toNat count
          refine ⟨(if answer.2 then .ok else .ioErrShortRead, answer.1), ⟨next, ?_, safe, ?_⟩, ?_⟩
          · simp only [orReport]
            rw [Action.bind_of_ok _ ended]
            rfl
          · intro refused
            cases complete : answer.2 with
            | true => exact absurd (by simp [complete]) refused.1
            | false => exact absurd (by simp [complete]) refused.2
          · intro other alike
            have returned := same other alike
            cases read : readFile handle start.toNat count other with
            | mk outcome after =>
                rw [read] at returned
                obtain rfl : outcome = .ok answer := returned
                simp only [orReport]
                rw [Action.bind_of_ok _ read]
                rfl

theorem xFileSize_of (presents : Presents vfs.context block base file)
    (files : ∀ handle, FileFits vfs.context.store.memory (vfs.files handle)) (handle : Nat) :
    ∃ result, (∃ next, xFileSize handle vfs = (.ok result, next) ∧ Safe next ∧ Alike block base file vfs next) ∧
      ∀ other, Alike block base file vfs other → (xFileSize handle other).1 = .ok result := by
  by_cases readOnly : (vfs.files handle).readOnly = true
  · have sized : ∀ other : Vfs, (other.files handle).readOnly = true →
        ∀ found next, snapshotOf handle other = (.ok found, next) →
        xFileSize handle other = (.ok (sizeResult found.dbSize.toNat), next) := by
      intro other same found next ended
      rw [xFileSize, Action.read_bind_apply]
      simp only [orReport, same, if_true]
      rw [Action.bind_of_ok _ ended]
      rfl
    obtain ⟨fits, shaped⟩ := (files handle).readWith presents.fits
    obtain ⟨next, found, stays, others⟩ := snapshotOf_of presents handle
    refine ⟨_, ⟨next, sized vfs readOnly _ _ found, Safe.opened files stays others fits shaped, stays, ?_⟩, ?_⟩
    · intro other
      rw [others]
      dsimp only
      split
      · rename_i same
        rw [same]
        exact ⟨rfl, rfl, rfl⟩
      · exact ⟨rfl, rfl, rfl⟩
    · intro other alike
      have view := alike.views handle
      obtain ⟨_, ended, _⟩ := snapshotOf_of alike.stays.presents handle
      rw [sized other (view.readOnly.trans readOnly) _ _ ended, view.snapshot]
  · have sized : ∀ other : Vfs, (other.files handle).readOnly = (vfs.files handle).readOnly →
        ∀ size next, fileSize other.context = (.ok size, next) →
        xFileSize handle other = (.ok (sizeResult size), { other with context := next }) := by
      intro other same size next ended
      have zoomed : onVfsContext fileSize other = (.ok size, { other with context := next }) := Action.zoom_of ended
      rw [xFileSize, Action.read_bind_apply]
      simp only [orReport, same, readOnly]
      rw [if_neg (by simp), Action.bind_of_ok _ zoomed]
      rfl
    obtain ⟨next, ended, stays⟩ := presents.fileSize
    refine ⟨_, ⟨_, sized vfs rfl _ _ ended, Safe.moved files stays.moves, stays, fun _ => ⟨rfl, rfl, rfl⟩⟩, ?_⟩
    intro other alike
    obtain ⟨_, sizeEnded, _⟩ := alike.stays.presents.fileSize
    rw [sized other (alike.views handle).readOnly _ _ sizeEnded]

theorem Alike.sameFiles (presents : Presents vfs.context block base file)
    (files : ∀ handle, FileFits vfs.context.store.memory (vfs.files handle))
    (alike : Alike block base file vfs later) : SameFiles vfs later where
  reads := by
    intro handle amount offset
    obtain ⟨result, ⟨next, ended, _⟩, same⟩ := xRead_of presents files handle amount offset
    rw [same later alike, ended]
  sizes := by
    intro handle
    obtain ⟨result, ⟨next, ended, _⟩, same⟩ := xFileSize_of presents files handle
    rw [same later alike, ended]

/-- An error has become a result code. -/
theorem ends_orReport {α : Type} {call : VfsM α} {code : α} {good : α → Vfs → Prop} {bad : Vfs → Prop}
    (ends : Action.Ends call vfs good bad) :
    Action.Ends (orReport code call) vfs (fun value next => good value next ∨ value = code ∧ bad next)
      fun _ => False := by
  rw [Action.Ends] at ends
  rw [Action.Ends, orReport]
  cases ended : call vfs with
  | mk outcome next =>
      rw [ended] at ends
      cases outcome with
      | ok value => exact .inl ends
      | err error => exact .inr ⟨rfl, ends⟩
      | panic => exact ends

/-- A method that changes the file does so, or reports that nothing has changed. -/
theorem ends_changed (presents : Presents vfs.context block base file)
    (files : ∀ handle, FileFits vfs.context.store.memory (vfs.files handle)) {change : ContextM Unit}
    (ends : Action.Ends change vfs.context (fun _ => Moves vfs.context) (Stays vfs.context block base file))
    (code : ResultCode) :
    Action.Ends (orReport code do onVfsContext change; pure .ok) vfs
      (fun reported next => Safe next ∧ (reported.Refuses → SameFiles vfs next)) fun _ => False := by
  have changed : Action.Ends (onVfsContext change) vfs (fun _ next => Safe next)
      fun next => Safe next ∧ SameFiles vfs next := by
    refine Action.Ends.zoom (ends.imp (fun _ _ moves => Safe.moved files moves) fun next stays => ?_)
    exact ⟨Safe.moved files stays.moves, Alike.sameFiles presents files ⟨stays, fun _ => ⟨rfl, rfl, rfl⟩⟩⟩
  have body : Action.Ends (do onVfsContext change; pure ResultCode.ok) vfs
      (fun reported next => reported = .ok ∧ Safe next) fun next => Safe next ∧ SameFiles vfs next :=
    changed.bind fun _ next safe => Action.ends_pure ⟨rfl, safe⟩
  refine (ends_orReport body).imp ?_ fun _ impossible => impossible
  intro reported next left
  rcases left with done | refused
  · exact ⟨done.2, fun refuses => absurd done.1 refuses.1⟩
  · exact ⟨refused.2.1, fun _ => refused.2.2⟩

theorem xWrite_ends (presents : Presents vfs.context block base file)
    (files : ∀ handle, FileFits vfs.context.store.memory (vfs.files handle)) (handle : Nat) (buf : Nat → UInt8)
    (amount : Int32) (offset : Int64) :
    Action.Ends (xWrite handle buf amount offset) vfs
      (fun code next => Safe next ∧ (code.Refuses → SameFiles vfs next)) fun _ => False := by
  have unchanged : Safe vfs ∧ (∀ code : ResultCode, code.Refuses → SameFiles vfs vfs) :=
    ⟨.intro block base file presents files, fun _ _ => ⟨fun _ _ _ => rfl, fun _ => rfl⟩⟩
  rw [xWrite]
  refine Action.ends_read_bind ?_
  split
  · exact Action.ends_pure ⟨unchanged.1, unchanged.2 _⟩
  · cases checkedAmount amount with
    | none => exact Action.ends_pure ⟨unchanged.1, unchanged.2 _⟩
    | some count =>
        cases checkedOffset offset with
        | none => exact Action.ends_pure ⟨unchanged.1, unchanged.2 _⟩
        | some start => exact ends_changed presents files (presents.debugWriteAt _ _) _

theorem xTruncate_ends (presents : Presents vfs.context block base file)
    (files : ∀ handle, FileFits vfs.context.store.memory (vfs.files handle)) (handle : Nat) (size : Int64) :
    Action.Ends (xTruncate handle size) vfs
      (fun code next => Safe next ∧ (code.Refuses → SameFiles vfs next)) fun _ => False := by
  have unchanged : Safe vfs ∧ (∀ code : ResultCode, code.Refuses → SameFiles vfs vfs) :=
    ⟨.intro block base file presents files, fun _ _ => ⟨fun _ _ _ => rfl, fun _ => rfl⟩⟩
  rw [xTruncate]
  refine Action.ends_read_bind ?_
  split
  · exact Action.ends_pure ⟨unchanged.1, unchanged.2 _⟩
  · cases checkedOffset size with
    | none => exact Action.ends_pure ⟨unchanged.1, unchanged.2 _⟩
    | some length => exact ends_changed presents files (presents.debugTruncate length.toNat_lt) _

namespace VfsCall

def Refused : Outcome StableMemoryError (Option ResultCode) → Prop
  | .ok (some code) => code.Refuses
  | .err _ => True
  | _ => False

/-- What a refused call leaves: a commit has given up its transaction. -/
def undone (vfs : Vfs) : VfsCall → Vfs
  | .commitUpdate => after vfs .rollbackUpdate
  | _ => vfs

theorem perform_ends (presents : Presents vfs.context block base file)
    (files : ∀ handle, FileFits vfs.context.store.memory (vfs.files handle)) (call : VfsCall) :
    Action.Ends call.perform vfs
      (fun answer next => Safe next ∧ ∀ code, answer = some code → code.Refuses → SameFiles (call.undone vfs) next)
      fun next => Safe next ∧ SameFiles (call.undone vfs) next := by
  cases call with
  | xRead handle amount offset =>
      obtain ⟨result, ⟨next, ended, safe, same⟩, _⟩ := xRead_of presents files handle amount offset
      refine Action.ends_after_ok ended (Action.ends_pure ⟨safe, ?_⟩)
      intro code reported refuses
      obtain rfl := Option.some.inj reported
      exact (same refuses).sameFiles presents files
  | xFileSize handle =>
      obtain ⟨result, ⟨next, ended, safe, same⟩, _⟩ := xFileSize_of presents files handle
      exact Action.ends_after_ok ended (Action.ends_pure ⟨safe, fun _ _ _ => same.sameFiles presents files⟩)
  | xWrite handle buf amount offset =>
      refine Action.Ends.bind ((xWrite_ends presents files handle buf amount offset).imp (fun _ _ left => left)
        fun _ impossible => impossible.elim) ?_
      intro code next left
      refine Action.ends_pure ⟨left.1, ?_⟩
      intro reported same
      obtain rfl := Option.some.inj same
      exact left.2
  | xTruncate handle size =>
      refine Action.Ends.bind ((xTruncate_ends presents files handle size).imp (fun _ _ left => left)
        fun _ impossible => impossible.elim) ?_
      intro code next left
      refine Action.ends_pure ⟨left.1, ?_⟩
      intro reported same
      obtain rfl := Option.some.inj same
      exact left.2
  | beginUpdate =>
      have begun : Action.Ends (onVfsContext SqliteVfs.beginUpdate) vfs (fun _ next => Safe next)
          fun next => Safe next ∧ SameFiles vfs next := by
        refine Action.Ends.zoom (presents.beginUpdate.imp (fun _ _ moves => Safe.moved files moves) ?_)
        intro next stays
        exact ⟨Safe.moved files stays.moves, Alike.sameFiles presents files ⟨stays, fun _ => ⟨rfl, rfl, rfl⟩⟩⟩
      exact begun.bind fun _ next safe => Action.ends_pure ⟨safe, fun _ same => by cases same⟩
  | commitUpdate =>
      have rolledBack := presents.rollbackUpdate
      have committed : Action.Ends (onVfsContext debugCommitUpdate) vfs (fun _ next => Safe next)
          fun next => Safe next ∧ SameFiles (after vfs .rollbackUpdate) next := by
        refine Action.Ends.zoom (presents.debugCommitUpdate.imp (fun _ _ moves => Safe.moved files moves) ?_)
        intro next stays
        refine ⟨Safe.moved files stays.moves, ?_⟩
        exact Alike.sameFiles rolledBack.presents files
          ⟨⟨stays.presents, stays.memory⟩, fun _ => ⟨rfl, rfl, rfl⟩⟩
      exact committed.bind fun _ next safe => Action.ends_pure ⟨safe, fun _ same => by cases same⟩
  | rollbackUpdate =>
      have rolledBack := presents.rollbackUpdate
      exact Action.ends_of_ok rfl ⟨Safe.moved files rolledBack.moves, fun _ same => by cases same⟩

theorem perform_safe (safe : Safe vfs) (call : VfsCall) :
    (call.perform vfs).1 ≠ .panic ∧ Safe (call.after vfs) ∧
      (Refused (call.perform vfs).1 → SameFiles (call.undone vfs) (call.after vfs)) := by
  obtain ⟨block, base, file, presents, files⟩ := safe
  have ends := perform_ends presents files call
  rw [Action.Ends] at ends
  rw [after]
  cases ended : call.perform vfs with
  | mk outcome next =>
      rw [ended] at ends
      cases outcome with
      | ok answer =>
          refine ⟨by simp, ends.1, ?_⟩
          intro refused
          cases answer with
          | none => exact refused.elim
          | some code => exact ends.2 code rfl refused
      | err error => exact ⟨by simp, ends.1, fun _ => ends.2⟩
      | panic => exact ends.elim

theorem safe_runAll (calls : List VfsCall) (safe : Safe vfs) : Safe (runAll calls vfs) := by
  induction calls generalizing vfs with
  | nil => exact safe
  | cons call rest ih => exact ih (perform_safe safe call).2.1

end VfsCall

/-! ## Images start on page boundaries -/

/-- The image starts on a page boundary, and so does one that is being imported. -/
structure Aligned (block : Superblock) : Prop where
  image : block.dbBaseOffset.toNat % sqlitePageSize = 0
  imported : block.isImporting = true → block.importBaseOffset.toNat % sqlitePageSize = 0

theorem Aligned.edited {edited : Superblock} (aligned : Aligned block)
    (dbBaseOffset : edited.dbBaseOffset = block.dbBaseOffset) (imports : SameImport block edited) :
    Aligned edited.stamped := by
  refine ⟨?_, ?_⟩
  · rw [Superblock.stamped_dbBaseOffset, dbBaseOffset]
    exact aligned.image
  · intro importing
    change edited.importBaseOffset.toNat % sqlitePageSize = 0
    rw [imports.importBaseOffset]
    exact aligned.imported (imports.isImporting ▸ importing)

theorem survivesEvery_aligned : SurvivesEvery fun block _ => Aligned block where
  cleared := fun block _ aligned => aligned.edited rfl (sameImport_clearChecksumRefresh block)
  scanned := by
    intro block base maxBytes aligned _ _
    have same := (sameImage_resumed block).trans (sameImage_scanned (resumed block) base maxBytes)
    exact aligned.edited same.dbBaseOffset ((sameImport_resumed block).trans (sameImport_scanned _ base maxBytes))
  fresh := ⟨rfl, fun importing => by cases importing⟩
  committed := fun block _ size zeroExtents _ aligned =>
    aligned.edited (committedBlock_dbBaseOffset _ _ _ _) (sameImport_committedBlock block true size zeroExtents)
  certified := fun block base aligned => aligned.edited rfl (sameImport_certified block _)
  versioned := fun block _ targetVersion aligned => aligned.edited rfl ⟨rfl, rfl, rfl⟩
  direct := fun block _ size zeroExtents _ aligned =>
    aligned.edited (committedBlock_dbBaseOffset _ _ _ _) (sameImport_committedBlock block false size zeroExtents)
  begun := by
    intro block base pages totalSize expectedChecksum aligned
    refine ⟨aligned.image, fun _ => ?_⟩
    change (UInt64.ofNat (pages * stablePageSize)).toNat % sqlitePageSize = 0
    rw [UInt64.toNat_ofNat']
    simp only [stablePageSize, sqlitePageSize]
    omega
  written := fun block _ stop _ aligned => ⟨aligned.image, aligned.imported⟩
  importCleared := by
    intro block base aligned
    refine ⟨aligned.image, fun importing => ?_⟩
    change (importCleared block).isImporting = true at importing
    rw [idle_importCleared] at importing
    cases importing
  importFinished := by
    intro block base checksum published aligned importing
    refine ⟨aligned.imported importing, fun again => ?_⟩
    change (importFinished block checksum).isImporting = true at again
    rw [idle_importFinished] at again
    cases again

/-- A handle that could be initialized leaves a context that its files can use. -/
theorem safe_opened {opened : Store} (usable : Usable (fun block _ => Aligned block) context)
    (opens : initializeHandle context.store = (.ok (), opened)) (readOnly : Nat → Bool) :
    Safe ⟨⟨opened, none⟩, fun handle => IcStableFile.new (readOnly handle)⟩ := by
  have loaded := usable.load survivesEvery_aligned.fresh
  rw [initializeHandle] at opens
  rw [Action.Leaves] at loaded
  cases ended : Superblock.load context.store with
  | mk outcome after =>
      rw [ended] at loaded
      cases outcome with
      | ok block =>
          obtain ⟨base, live, aligned⟩ := loaded
          rw [Action.bind_of_ok _ ended, ensureCurrentLayout_of live.serves] at opens
          obtain rfl := (Prod.mk.inj opens).2
          refine .intro block base base (presents_idle live.loaded.closed aligned.image rfl) fun handle => ?_
          exact ⟨fun _ found => (by cases found), fun _ => rfl⟩
      | err error =>
          rw [Action.bind_of_err _ ended] at opens
          cases opens
      | panic =>
          rw [Action.bind_of_panic _ ended] at opens
          cases opens

/-- On a handle opened over whatever earlier calls have left, main files may be
read, written, truncated and measured with any arguments, in any order and
around any transactions: no call panics, and one that is refused leaves every
file readable as it was. -/
theorem vfs_io_never_panics (grants : Nat → Bool) (before : List BlobCall) (opened : Store)
    (opens : initializeHandle (BlobCall.runAll before (Context.fresh grants)).store = (.ok (), opened))
    (readOnly : Nat → Bool) (calls : List VfsCall) (call : VfsCall) :
    let vfs := VfsCall.runAll calls ⟨⟨opened, none⟩, fun handle => IcStableFile.new (readOnly handle)⟩
    (call.perform vfs).1 ≠ .panic ∧
      (VfsCall.Refused (call.perform vfs).1 → SameFiles (call.undone vfs) (call.after vfs)) := by
  intro vfs
  have usable := usable_runAll survivesEvery_aligned before (usable_fresh grants)
  have safe := VfsCall.safe_runAll calls (safe_opened usable opens readOnly)
  obtain ⟨returns, _, refused⟩ := VfsCall.perform_safe safe call
  exact ⟨returns, refused⟩

/-- After a write at the last signed offset a negative read is refused. -/
theorem vfs_io_never_panics_at_the_last_offset :
    ∃ opened, initializeHandle (Context.fresh fun _ => true).store = (.ok (), opened) ∧
      let vfs := VfsCall.runAll [.beginUpdate, .xWrite 0 (fun _ => 7) 3 9223372036854775807, .commitUpdate]
        ⟨⟨opened, none⟩, fun handle => IcStableFile.new (decide (handle = 1))⟩
      (VfsCall.xRead 0 (-1) 0).perform vfs = (.ok (some .ioErrRead), vfs) ∧
        SameFiles vfs ((VfsCall.xRead 0 (-1) 0).after vfs) := by
  have pristine : Pristine (Context.fresh fun _ => true).store := ⟨rfl, rfl⟩
  obtain ⟨after, ended, serves⟩ := pristine.load_granted rfl
  have opens : initializeHandle (Context.fresh fun _ => true).store =
      (.ok (), { after with superblockCache := some Superblock.fresh }) := by
    rw [initializeHandle, Action.bind_of_ok _ ended, ensureCurrentLayout_of serves]
  refine ⟨_, opens, rfl, ?_⟩
  exact (vfs_io_never_panics (fun _ => true) [] _ opens _ _ (.xRead 0 (-1) 0)).2 (by constructor <;> decide)

end IcSqliteVfs.SqliteVfs
