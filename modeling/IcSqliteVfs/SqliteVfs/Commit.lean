import IcSqliteVfs.SqliteVfs.ZeroExtents

namespace IcSqliteVfs.SqliteVfs

open IcSqliteVfs.Data IcSqliteVfs.Semantics IcSqliteVfs.Stable

/-! # In-place commit

There is no journal.  `commit_overlay_in_place` is written here in two halves:
everything up to the granted capacity, which may fail, and the page writes with
the superblock publication behind them.
-/

def pageEnd (block : Superblock) (pageNo : Nat) : StoreM Nat := do
  let start ← pagePhysicalOffset block pageNo
  checkedAdd start sqlitePageSize

/-- The loop that raises `required_end` over the dirty pages. -/
def requiredEnd (block : Superblock) (finalPageCount : Nat) : List (Nat × List UInt8) → Nat → StoreM Nat
  | [], required => pure required
  | entry :: rest, required =>
      if finalPageCount ≤ entry.1 then requiredEnd block finalPageCount rest required
      else do
        let stop ← pageEnd block entry.1
        requiredEnd block finalPageCount rest (max required stop)

def prepareCommit (block : Superblock) (overlay : Overlay) : StoreM (List ZeroExtent) := do
  let finalPageCount := pageCountForSize overlay.size
  let zeroExtents ← Action.ofExcept (zeroExtentsAfterCommit block overlay finalPageCount)
  let imageEnd ← checkedAdd block.dbBaseOffset.toNat overlay.size
  let required ← requiredEnd block finalPageCount overlay.pages imageEnd
  ensureCapacity required
  pure zeroExtents

/-- The loop that writes the dirty pages. -/
def writeCommitPages (block : Superblock) (finalPageCount : Nat) : List (Nat × List UInt8) → StoreM Unit
  | [] => pure ()
  | entry :: rest =>
      if finalPageCount ≤ entry.1 then writeCommitPages block finalPageCount rest
      else do
        let physical ← pagePhysicalOffset block entry.1
        writePrechecked physical entry.2
        writeCommitPages block finalPageCount rest

def storeCommitDbImage (advanceTx : Bool) (dbBaseOffset : UInt64) (overlaySize : Nat)
    (zeroExtents : List ZeroExtent) : StoreM Unit :=
  match advanceTx with
  | true => Superblock.commitDbImage dbBaseOffset overlaySize zeroExtents
  | false => Superblock.storeDbImageWithoutTx dbBaseOffset overlaySize zeroExtents

/-- An error of the superblock store past the page writes is a panic. -/
def publishCommit (block : Superblock) (overlay : Overlay) (advanceTx : Bool) (zeroExtents : List ZeroExtent) :
    StoreM Unit := do
  writeCommitPages block (pageCountForSize overlay.size) overlay.pages
  let result ← Action.attempt
    (storeCommitDbImage advanceTx block.dbBaseOffset overlay.size zeroExtents)
  match result with
  | .ok _ => pure ()
  | _ => Action.panic

def commitOverlayInPlace (block : Superblock) (overlay : Overlay) (advanceTx : Bool) : StoreM Unit := do
  let zeroExtents ← prepareCommit block overlay
  publishCommit block overlay advanceTx zeroExtents

def commitOverlay (overlay : Overlay) (advanceTx : Bool) : StoreM Unit := do
  let block ← Superblock.load
  commitOverlayInPlace block overlay advanceTx

/-! ## The fallible half -/

variable {block : Superblock} {overlay : Overlay} {store : Store}

theorem pagePhysicalOffset_cases (block : Superblock) (pageNo : Nat) (store : Store) :
    pagePhysicalOffset block pageNo store =
      (.ok (block.dbBaseOffset.toNat + pageNo * sqlitePageSize), store) ∨
    ∃ error, pagePhysicalOffset block pageNo store = (.err error, store) := by
  rw [pagePhysicalOffset]
  by_cases start : pageNo * sqlitePageSize < u64Bound
  · rw [Action.bind_of_ok _ (checkedMul_of start store)]
    by_cases fits : block.dbBaseOffset.toNat + pageNo * sqlitePageSize < u64Bound
    · exact .inl (checkedAdd_of fits store)
    · exact .inr ⟨_, checkedAdd_overflow fits store⟩
  · refine .inr ⟨.offsetOverflow, ?_⟩
    rw [Action.bind_of_err]
    rw [checkedMul, if_neg start]
    rfl

theorem pagePhysicalOffset_of {pageNo : Nat}
    (fits : block.dbBaseOffset.toNat + pageNo * sqlitePageSize < u64Bound) :
    pagePhysicalOffset block pageNo store =
      (.ok (block.dbBaseOffset.toNat + pageNo * sqlitePageSize), store) := by
  have start : pageNo * sqlitePageSize < u64Bound := by omega
  rw [pagePhysicalOffset, Action.bind_of_ok _ (checkedMul_of start store), checkedAdd_of fits]

theorem pageEnd_cases (block : Superblock) (pageNo : Nat) (store : Store) :
    pageEnd block pageNo store =
      (.ok (block.dbBaseOffset.toNat + pageNo * sqlitePageSize + sqlitePageSize), store) ∨
    ∃ error, pageEnd block pageNo store = (.err error, store) := by
  rw [pageEnd]
  rcases pagePhysicalOffset_cases block pageNo store with placed | failed
  · rw [Action.bind_of_ok _ placed]
    by_cases fits : block.dbBaseOffset.toNat + pageNo * sqlitePageSize + sqlitePageSize < u64Bound
    · exact .inl (checkedAdd_of fits store)
    · exact .inr ⟨_, checkedAdd_overflow fits store⟩
  · obtain ⟨error, ended⟩ := failed
    exact .inr ⟨error, Action.bind_of_err _ ended⟩

theorem requiredEnd_cases (block : Superblock) (finalPageCount : Nat) (pages : List (Nat × List UInt8))
    (required : Nat) (store : Store) :
    (∃ stop, requiredEnd block finalPageCount pages required store = (.ok stop, store) ∧ required ≤ stop ∧
      stop ≤ max required (block.dbBaseOffset.toNat + finalPageCount * sqlitePageSize) ∧
      ∀ entry ∈ pages, entry.1 < finalPageCount →
        block.dbBaseOffset.toNat + entry.1 * sqlitePageSize + sqlitePageSize ≤ stop) ∨
    (∃ error, requiredEnd block finalPageCount pages required store = (.err error, store)) := by
  induction pages generalizing required with
  | nil =>
      refine .inl ⟨required, by rw [requiredEnd]; rfl, Nat.le_refl _, le_max_left _ _, ?_⟩
      intro entry member
      cases member
  | cons entry rest ih =>
      rw [requiredEnd]
      by_cases skipped : finalPageCount ≤ entry.1
      · rw [if_pos skipped]
        rcases ih required with found | failed
        · obtain ⟨stop, ended, above, within, covers⟩ := found
          refine .inl ⟨stop, ended, above, within, ?_⟩
          intro other member inside
          rcases List.mem_cons.mp member with here | there
          · rw [here] at inside
            omega
          · exact covers other there inside
        · exact .inr failed
      · rw [if_neg skipped]
        rcases pageEnd_cases block entry.1 store with placed | failed
        · rw [Action.bind_of_ok _ placed]
          rcases ih (max required
              (block.dbBaseOffset.toNat + entry.1 * sqlitePageSize + sqlitePageSize)) with found | failed
          · obtain ⟨stop, ended, above, within, covers⟩ := found
            have inside : block.dbBaseOffset.toNat + entry.1 * sqlitePageSize + sqlitePageSize ≤
                block.dbBaseOffset.toNat + finalPageCount * sqlitePageSize := by
              simp only [sqlitePageSize]
              omega
            refine .inl ⟨stop, ended, (le_max_left _ _).trans above, by omega, ?_⟩
            intro other member inside
            rcases List.mem_cons.mp member with here | there
            · rw [here]
              exact (le_max_right _ _).trans above
            · exact covers other there inside
          · exact .inr failed
        · obtain ⟨error, ended⟩ := failed
          exact .inr ⟨error, Action.bind_of_err _ ended⟩

/-- Everything the second half of a commit relies on. -/
structure Prepared (block : Superblock) (overlay : Overlay) (zeroExtents : List ZeroExtent)
    (before after : Store) : Prop where
  extents : zeroExtentsAfterCommit block overlay (pageCountForSize overlay.size) = .ok zeroExtents
  bytes : after.memory.bytes = before.memory.bytes
  pages : before.memory.pages ≤ after.memory.pages
  growth : ∃ stop, block.dbBaseOffset.toNat + overlay.size ≤ stop ∧
    stop ≤ block.dbBaseOffset.toNat + pageCountForSize overlay.size * sqlitePageSize ∧
    after.memory.pages = pagesFor before.memory.pages stop
  superblockCache : after.superblockCache = before.superblockCache
  imageRoom : block.dbBaseOffset.toNat + overlay.size ≤ after.memory.capacity
  pageRoom : ∀ entry ∈ overlay.pages, entry.1 < pageCountForSize overlay.size →
    block.dbBaseOffset.toNat + entry.1 * sqlitePageSize + sqlitePageSize ≤ after.memory.capacity

theorem prepareCommit_cases (block : Superblock) (overlay : Overlay) (store : Store) :
    (∃ zeroExtents after, prepareCommit block overlay store = (.ok zeroExtents, after) ∧
      Prepared block overlay zeroExtents store after) ∨
    (∃ error after, prepareCommit block overlay store = (.err error, after) ∧ store.Same after) := by
  rw [prepareCommit]
  cases computed : zeroExtentsAfterCommit block overlay (pageCountForSize overlay.size) with
  | error reason => exact .inr ⟨reason, store, rfl, rfl, rfl⟩
  | ok zeroExtents =>
      rw [Action.bind_of_ok _ Action.ofExcept_ok]
      by_cases fits : block.dbBaseOffset.toNat + overlay.size < u64Bound
      · rw [Action.bind_of_ok _ (checkedAdd_of fits store)]
        rcases requiredEnd_cases block (pageCountForSize overlay.size) overlay.pages
            (block.dbBaseOffset.toNat + overlay.size) store with found | failed
        · obtain ⟨stop, ended, above, within, covers⟩ := found
          have whole : block.dbBaseOffset.toNat + overlay.size ≤
              block.dbBaseOffset.toNat + pageCountForSize overlay.size * sqlitePageSize := by
            simp only [pageCountForSize, divCeil, sqlitePageSize]
            omega
          rw [max_eq_right whole] at within
          rw [Action.bind_of_ok _ ended]
          rcases ensureCapacity_cases store stop with granted | refused
          · obtain ⟨after, capacity, grown⟩ := granted
            refine .inl ⟨zeroExtents, after, by rw [Action.bind_of_ok _ capacity]; rfl, ?_⟩
            refine ⟨computed, grown.bytes, ?_, ⟨stop, above, within, grown.pages⟩, grown.superblockCache,
              above.trans grown.room, ?_⟩
            · rw [grown.pages]
              exact le_max_left _ _
            · intro entry member inside
              exact (covers entry member inside).trans grown.room
          · obtain ⟨error, after, capacity, same⟩ := refused
            exact .inr ⟨error, after, Action.bind_of_err _ capacity, same⟩
        · obtain ⟨error, ended⟩ := failed
          exact .inr ⟨error, store, Action.bind_of_err _ ended, rfl, rfl⟩
      · exact .inr ⟨_, store, Action.bind_of_err _ (checkedAdd_overflow fits store), rfl, rfl⟩

/-! ## The page writes -/

/-- The memory after the dirty pages below `finalPageCount` were written. -/
def withCommitPages (block : Superblock) (finalPageCount : Nat) (pages : List (Nat × List UInt8))
    (memory : Memory) : Memory :=
  pages.foldl (fun memory entry =>
    if finalPageCount ≤ entry.1 then memory
    else memory.write (block.dbBaseOffset.toNat + entry.1 * sqlitePageSize) entry.2) memory

theorem withCommitPages_cons (block : Superblock) (finalPageCount : Nat) (entry : Nat × List UInt8)
    (rest : List (Nat × List UInt8)) (memory : Memory) :
    withCommitPages block finalPageCount (entry :: rest) memory =
      withCommitPages block finalPageCount rest
        (if finalPageCount ≤ entry.1 then memory
          else memory.write (block.dbBaseOffset.toNat + entry.1 * sqlitePageSize) entry.2) := rfl

theorem withCommitPages_pages (block : Superblock) (finalPageCount : Nat) (pages : List (Nat × List UInt8))
    (memory : Memory) : (withCommitPages block finalPageCount pages memory).pages = memory.pages := by
  induction pages generalizing memory with
  | nil => rfl
  | cons entry rest ih =>
      rw [withCommitPages_cons, ih]
      split
      · rfl
      · exact Memory.write_pages _ _ _

/-- Pages of full length for which there is room. -/
structure PagesFit (block : Superblock) (finalPageCount : Nat) (pages : List (Nat × List UInt8))
    (memory : Memory) : Prop where
  pageLength : ∀ entry ∈ pages, entry.2.length = sqlitePageSize
  room : ∀ entry ∈ pages, entry.1 < finalPageCount →
    block.dbBaseOffset.toNat + entry.1 * sqlitePageSize + sqlitePageSize ≤ memory.capacity

theorem PagesFit.rest {finalPageCount : Nat} {entry : Nat × List UInt8} {rest : List (Nat × List UInt8)}
    {memory : Memory} (fit : PagesFit block finalPageCount (entry :: rest) memory) :
    PagesFit block finalPageCount rest memory where
  pageLength := fun page member => fit.pageLength page (List.mem_cons_of_mem _ member)
  room := fun page member => fit.room page (List.mem_cons_of_mem _ member)

theorem PagesFit.written {finalPageCount : Nat} {pages : List (Nat × List UInt8)} {memory : Memory}
    (fit : PagesFit block finalPageCount pages memory) (offset : Nat) (bytes : List UInt8) :
    PagesFit block finalPageCount pages (memory.write offset bytes) :=
  ⟨fit.pageLength, fit.room⟩

theorem PagesFit.head {finalPageCount : Nat} {entry : Nat × List UInt8} {rest : List (Nat × List UInt8)}
    {memory : Memory} (fit : PagesFit block finalPageCount (entry :: rest) memory)
    (inside : entry.1 < finalPageCount) :
    block.dbBaseOffset.toNat + entry.1 * sqlitePageSize + entry.2.length ≤ memory.capacity := by
  rw [fit.pageLength entry List.mem_cons_self]
  exact fit.room entry List.mem_cons_self inside

theorem writeCommitPages_of {finalPageCount : Nat} {pages : List (Nat × List UInt8)}
    (fit : PagesFit block finalPageCount pages store.memory) :
    writeCommitPages block finalPageCount pages store =
      (.ok (), { store with memory := withCommitPages block finalPageCount pages store.memory }) := by
  induction pages generalizing store with
  | nil =>
      rw [writeCommitPages]
      rfl
  | cons entry rest ih =>
      rw [writeCommitPages, withCommitPages_cons]
      by_cases skipped : finalPageCount ≤ entry.1
      · rw [if_pos skipped, if_pos skipped, ih fit.rest]
      · have room := fit.head (Nat.not_le.mp skipped)
        have fits : block.dbBaseOffset.toNat + entry.1 * sqlitePageSize < u64Bound := by
          have addressable : store.memory.capacity < u64Bound := store.memory.addressable
          omega
        rw [if_neg skipped, if_neg skipped, Action.bind_of_ok _ (pagePhysicalOffset_of fits),
          Action.bind_of_ok _ (writePrechecked_of room)]
        exact ih (fit.rest.written _ _)

/-- Nothing below the database region is written. -/
theorem withCommitPages_below {finalPageCount : Nat} {pages : List (Nat × List UInt8)} {memory : Memory}
    (fit : PagesFit block finalPageCount pages memory) {address : Nat}
    (below : address < block.dbBaseOffset.toNat) :
    (withCommitPages block finalPageCount pages memory).bytes address = memory.bytes address := by
  induction pages generalizing memory with
  | nil => rfl
  | cons entry rest ih =>
      rw [withCommitPages_cons]
      by_cases skipped : finalPageCount ≤ entry.1
      · rw [if_pos skipped]
        exact ih fit.rest
      · rw [if_neg skipped, ih (fit.rest.written _ _), Memory.write_bytes _ (fit.head (Nat.not_le.mp skipped))]
        exact if_neg (by omega)

/-- A position of the image holds the dirty page over it, or what it held. -/
theorem withCommitPages_bytes {finalPageCount : Nat} {pages : List (Nat × List UInt8)} {memory : Memory}
    (fit : PagesFit block finalPageCount pages memory) (distinct : (pages.map Prod.fst).Nodup)
    {position : Nat} (inside : position / sqlitePageSize < finalPageCount) :
    (withCommitPages block finalPageCount pages memory).bytes (block.dbBaseOffset.toNat + position) =
      match pages.lookup (position / sqlitePageSize) with
      | some page => page.getD (position % sqlitePageSize) 0
      | none => memory.bytes (block.dbBaseOffset.toNat + position) := by
  induction pages generalizing memory with
  | nil => rfl
  | cons entry rest ih =>
      obtain ⟨fresh, others⟩ := List.nodup_cons.mp distinct
      rw [withCommitPages_cons, List.lookup_cons]
      by_cases skipped : finalPageCount ≤ entry.1
      · have differs : ¬ position / sqlitePageSize = entry.1 := by omega
        rw [if_pos skipped, ih fit.rest others, beq_eq_false_iff_ne.mpr differs]
      · have room := fit.head (Nat.not_le.mp skipped)
        have whole := fit.pageLength entry List.mem_cons_self
        rw [if_neg skipped, ih (fit.rest.written _ _) others, Memory.write_bytes _ room, whole]
        by_cases here : position / sqlitePageSize = entry.1
        · have absent : rest.lookup (position / sqlitePageSize) = none := by
            rw [here]
            exact lookup_eq_none_of.mpr fresh
          have covered : block.dbBaseOffset.toNat + entry.1 * sqlitePageSize ≤
                block.dbBaseOffset.toNat + position ∧
              block.dbBaseOffset.toNat + position <
                block.dbBaseOffset.toNat + entry.1 * sqlitePageSize + sqlitePageSize := by
            simp only [sqlitePageSize] at here ⊢
            omega
          have index : block.dbBaseOffset.toNat + position -
              (block.dbBaseOffset.toNat + entry.1 * sqlitePageSize) = position % sqlitePageSize := by
            simp only [sqlitePageSize] at here ⊢
            omega
          rw [absent, beq_iff_eq.mpr here]
          simp only [if_pos covered, index]
        · have outside : ¬ (block.dbBaseOffset.toNat + entry.1 * sqlitePageSize ≤
                block.dbBaseOffset.toNat + position ∧
              block.dbBaseOffset.toNat + position <
                block.dbBaseOffset.toNat + entry.1 * sqlitePageSize + sqlitePageSize) := by
            simp only [sqlitePageSize] at here ⊢
            omega
          rw [beq_eq_false_iff_ne.mpr here]
          simp only [if_neg outside]

/-! ## The publication -/

/-- The block that a commit stores. -/
def committedBlock (block : Superblock) (advanceTx : Bool) (size : Nat) (zeroExtents : List ZeroExtent) :
    Superblock :=
  match advanceTx with
  | true => (block.withDbImage block.dbBaseOffset size zeroExtents).withCommittedTx
  | false => block.withDbImage block.dbBaseOffset size zeroExtents

section Committed

variable (block) (advanceTx : Bool) (size : Nat) (zeroExtents : List ZeroExtent)

@[simp] theorem committedBlock_dbBaseOffset :
    (committedBlock block advanceTx size zeroExtents).dbBaseOffset = block.dbBaseOffset := by
  cases advanceTx <;> rfl

@[simp] theorem committedBlock_dbSize :
    (committedBlock block advanceTx size zeroExtents).dbSize = UInt64.ofNat size := by
  cases advanceTx <;> rfl

@[simp] theorem committedBlock_pageCount :
    (committedBlock block advanceTx size zeroExtents).pageCount =
      UInt64.ofNat (Superblock.pageCountForSize size) := by
  cases advanceTx <;> rfl

@[simp] theorem committedBlock_zeroExtents :
    (committedBlock block advanceTx size zeroExtents).zeroExtents = zeroExtents := by
  cases advanceTx <;> rfl

@[simp] theorem committedBlock_magic :
    (committedBlock block advanceTx size zeroExtents).magic = block.magic := by
  cases advanceTx <;> rfl

@[simp] theorem committedBlock_layoutVersion :
    (committedBlock block advanceTx size zeroExtents).layoutVersion = currentLayoutVersion := by
  cases advanceTx <;> rfl

end Committed

theorem storeCommitDbImage_of (coherent : Superblock.Coherent store block) {zeroExtents : List ZeroExtent}
    (limit : zeroExtents.length ≤ maxZeroExtents) (normal : Data.Interval.Normal zeroExtents) (advanceTx : Bool)
    (size : Nat) :
    storeCommitDbImage advanceTx block.dbBaseOffset size zeroExtents store =
      (.ok (), (committedBlock block advanceTx size zeroExtents).storedIn store) := by
  have valid : (committedBlock block advanceTx size zeroExtents).validateZeroExtents = .ok () := by
    rw [Superblock.validateZeroExtents_iff, committedBlock_zeroExtents]
    exact ⟨limit, normal⟩
  have stored := Superblock.storePreallocated_of coherent.warm.accepted.pages valid
  cases advanceTx with
  | true =>
      rw [storeCommitDbImage, Superblock.commitDbImage, Action.bind_of_ok _ coherent.load_eq]
      exact stored
  | false =>
      rw [storeCommitDbImage, Superblock.storeDbImageWithoutTx, Action.bind_of_ok _ coherent.load_eq]
      exact stored

/-- The store that a commit leaves. -/
def publishedIn (block : Superblock) (overlay : Overlay) (advanceTx : Bool) (zeroExtents : List ZeroExtent)
    (store : Store) : Store :=
  (committedBlock block advanceTx overlay.size zeroExtents).storedIn
    { store with
      memory := withCommitPages block (pageCountForSize overlay.size) overlay.pages store.memory }

/-- Past the granted capacity nothing fails. -/
theorem publishCommit_of (coherent : Superblock.Coherent store block)
    (base : superblockSize ≤ block.dbBaseOffset.toNat)
    (fit : PagesFit block (pageCountForSize overlay.size) overlay.pages store.memory)
    {zeroExtents : List ZeroExtent} (limit : zeroExtents.length ≤ maxZeroExtents)
    (normal : Data.Interval.Normal zeroExtents) (advanceTx : Bool) :
    publishCommit block overlay advanceTx zeroExtents store =
      (.ok (), publishedIn block overlay advanceTx zeroExtents store) := by
  have after : Superblock.Coherent
      { store with
        memory := withCommitPages block (pageCountForSize overlay.size) overlay.pages store.memory } block := by
    refine ⟨coherent.accepted.frame (withCommitPages_pages _ _ _ _).ge ?_, coherent.cached⟩
    intro address below
    exact withCommitPages_below fit (by omega)
  rw [publishCommit, Action.bind_of_ok _ (writeCommitPages_of fit),
    Action.bind_of_ok _ (Action.attempt_of_ok (storeCommitDbImage_of after limit normal advanceTx overlay.size))]
  rfl

/-- A commit stores the whole overlay, or reports an error and leaves memory
and superblock as they were; it never panics. -/
theorem commitOverlay_cases (coherent : Superblock.Coherent store block)
    (base : superblockSize ≤ block.dbBaseOffset.toNat)
    (pageLength : ∀ entry ∈ overlay.pages, entry.2.length = sqlitePageSize)
    (bounded : overlay.size < u64Bound) (advanceTx : Bool) :
    (∃ zeroExtents grown,
      Prepared block overlay zeroExtents { store with superblockCache := some block } grown ∧
      commitOverlay overlay advanceTx store =
        (.ok (), publishedIn block overlay advanceTx zeroExtents grown)) ∨
    (∃ error after, commitOverlay overlay advanceTx store = (.err error, after) ∧
      after.memory = store.memory ∧ after.superblockCache = some block) := by
  rw [commitOverlay, Action.bind_of_ok _ coherent.load_eq, commitOverlayInPlace]
  rcases prepareCommit_cases block overlay { store with superblockCache := some block } with done | failed
  · obtain ⟨zeroExtents, grown, ended, prepared⟩ := done
    have grownCoherent : Superblock.Coherent grown block := by
      refine ⟨coherent.accepted.frame prepared.pages ?_, .inr prepared.superblockCache⟩
      intro address _
      rw [prepared.bytes]
    have fit : PagesFit block (pageCountForSize overlay.size) overlay.pages grown.memory :=
      ⟨pageLength, prepared.pageRoom⟩
    obtain ⟨limit, normal, _⟩ := zeroExtentsAfterCommit_spec (pageCountForSize_lt bounded)
      coherent.checked.normal prepared.extents
    refine .inl ⟨zeroExtents, grown, prepared, ?_⟩
    rw [Action.bind_of_ok _ ended, publishCommit_of grownCoherent base fit limit normal]
  · obtain ⟨error, after, ended, same⟩ := failed
    exact .inr ⟨error, after, Action.bind_of_err _ ended, same.memory, same.superblockCache⟩

end IcSqliteVfs.SqliteVfs
