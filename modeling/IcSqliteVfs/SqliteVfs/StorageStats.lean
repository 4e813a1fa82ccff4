import IcSqliteVfs.SqliteVfs.Capacity
import IcSqliteVfs.SqliteVfs.CommittedReads

namespace IcSqliteVfs.SqliteVfs

open IcSqliteVfs.Data IcSqliteVfs.Semantics IcSqliteVfs.Stable

/-! # What a database says about its storage -/

structure StorageStats where
  layoutVersion : UInt64
  pageCount : Nat
  pageTableBytes : Nat
  zeroExtentCount : Nat
  activeBytes : Nat
  allocatedBytes : Nat
  orphanBytesEstimate : Nat
  orphanRatioBasisPoints : Nat
  compactRecommended : Bool
deriving DecidableEq, Repr

def saturatingMul (left right : Nat) : Nat := min (left * right) (u64Bound - 1)

/-- A division by zero is zero here as there. -/
def orphanRatio (orphanBytes activeBytes : Nat) : Nat := saturatingMul orphanBytes 10000 / activeBytes

def statsOf (block : Superblock) (zeroExtentCount activeBytes allocatedBytes : Nat) : StorageStats where
  layoutVersion := block.layoutVersion
  pageCount := activePageCount block
  pageTableBytes := 0
  zeroExtentCount
  activeBytes
  allocatedBytes
  orphanBytesEstimate := allocatedBytes - activeBytes
  orphanRatioBasisPoints := orphanRatio (allocatedBytes - activeBytes) activeBytes
  compactRecommended := false

def storageStats : StoreM StorageStats := do
  let block ← Superblock.load
  ensureCurrentLayout
  let zeroExtentCount ← checkedAdd 0 block.zeroExtents.length
  let activeBytes ← checkedAdd superblockSize block.dbSize.toNat
  let store ← Action.read
  let allocatedBytes ← checkedMul store.memory.size stablePageSize
  pure (statsOf block zeroExtentCount activeBytes allocatedBytes)

def compact : ContextM Unit := do
  rejectDuringUpdate
  onContextStore ensureCurrentLayout

variable {context : Context} {block : Superblock} {base : List UInt8}

/-- The superblock, the image and what lies idle are all that is allocated. -/
structure Accounted (memory : Memory) (block : Superblock) (image : List UInt8) (stats : StorageStats) : Prop where
  layoutVersion : stats.layoutVersion = currentLayoutVersion
  pageCount : stats.pageCount = pageCountForSize image.length
  pageTableBytes : stats.pageTableBytes = 0
  zeroExtentCount : stats.zeroExtentCount = block.zeroExtents.length ∧ stats.zeroExtentCount ≤ maxZeroExtents
  activeBytes : stats.activeBytes = superblockSize + image.length
  allocatedBytes : stats.allocatedBytes = memory.capacity
  parts : stats.activeBytes + stats.orphanBytesEstimate = stats.allocatedBytes
  ratio : stats.orphanBytesEstimate * 10000 < u64Bound →
    stats.activeBytes * stats.orphanRatioBasisPoints ≤ stats.orphanBytesEstimate * 10000 ∧
      stats.orphanBytesEstimate * 10000 < stats.activeBytes * (stats.orphanRatioBasisPoints + 1)
  compactRecommended : stats.compactRecommended = false

theorem orphanRatio_bounds {orphanBytes activeBytes : Nat} (exact_ : orphanBytes * 10000 < u64Bound)
    (positive : 0 < activeBytes) :
    activeBytes * orphanRatio orphanBytes activeBytes ≤ orphanBytes * 10000 ∧
      orphanBytes * 10000 < activeBytes * (orphanRatio orphanBytes activeBytes + 1) := by
  have product : saturatingMul orphanBytes 10000 = orphanBytes * 10000 := by
    rw [saturatingMul, min_eq_left (Nat.le_sub_one_of_lt exact_)]
  rw [orphanRatio, product]
  exact ⟨Nat.mul_div_le _ _, Nat.lt_mul_div_succ _ positive⟩

theorem Live.storageStats_of (live : Live context block base) :
    ∃ stats, storageStats context.store = (.ok stats, { context.store with superblockCache := some block }) ∧
      Accounted context.store.memory block base stats := by
  have serves := live.serves
  have extents := (Superblock.validateZeroExtents_iff block).mp serves.coherent.checked.zeroExtents
  have few : 0 + block.zeroExtents.length < u64Bound := by
    have limit : maxZeroExtents < u64Bound := by decide
    omega
  have size : block.dbSize.toNat = base.length := serves.size_eq.symm
  have room : superblockSize + base.length ≤ context.store.memory.capacity :=
    (Nat.add_le_add serves.readable.base size.ge).trans serves.readable.room
  have addressable : context.store.memory.size * stablePageSize < u64Bound := context.store.memory.addressable
  have active : superblockSize + block.dbSize.toNat < u64Bound := by
    rw [size]
    exact Nat.lt_of_le_of_lt room addressable
  -- no step of the call looks into the store that the load leaves
  obtain ⟨warm, warmEq, load, _, _, current⟩ := serves.warmed
  have memory : warm.memory = context.store.memory := by rw [← warmEq]
  refine ⟨statsOf block (0 + block.zeroExtents.length) (superblockSize + block.dbSize.toNat)
    (context.store.memory.size * stablePageSize), ?_, ?_⟩
  · rw [warmEq, storageStats, Action.bind_of_ok _ load, Action.bind_of_ok _ current,
      Action.bind_of_ok _ (checkedAdd_of few _), Action.bind_of_ok _ (checkedAdd_of active _), Action.read_bind_apply,
      memory, Action.bind_of_ok _ (checkedMul_of addressable _)]
    rfl
  · have positive : 0 < superblockSize + block.dbSize.toNat := Nat.add_pos_left (by decide) _
    refine ⟨serves.coherent.checked.layoutVersion, congrArg pageCountForSize size, rfl,
      ⟨Nat.zero_add _, (Nat.zero_add _).le.trans extents.1⟩, congrArg (superblockSize + ·) size, rfl, ?_,
      fun exact_ => orphanRatio_bounds exact_ positive, rfl⟩
    · rw [← size] at room
      exact Nat.add_sub_of_le room

theorem Live.compact_of (live : Live context block base) : Quiet block base context (compact context).2 := by
  cases active : context.overlay with
  | some overlay =>
      rw [compact, Action.bind_of_err _ (rejected_of_active active)]
      exact ⟨live, rfl⟩
  | none =>
      rw [compact, Action.bind_of_ok _ (passed_of_idle active), onContextStore_of (ensureCurrentLayout_of live.serves)]
      exact ⟨live.loaded, rfl⟩

/-- After any calls, imports included, the statistics of a database tell every
allocated byte apart: the superblock, the image and what lies idle.  Without imports
the allocation is that of the largest image, so an image that never shrank leaves
less than one stable page idle, and compacting has nothing to give back. -/
theorem storage_stats_account_for_every_byte (grants : Nat → Bool) (opened : Store)
    (opens : initializeHandle (Context.fresh grants).store = (.ok (), opened)) (calls : List BlobCall)
    (used : 0 < (BlobCall.runAll calls ⟨opened, none⟩).store.memory.pages) :
    let final := BlobCall.runAll calls ⟨opened, none⟩
    ∃ block image stats, Superblock.load final.store = (.ok block, { final.store with superblockCache := some block }) ∧
      committedImage final = some image ∧
      storageStats final.store = (.ok stats, { final.store with superblockCache := some block }) ∧
      Accounted final.store.memory block image stats ∧
      (compact final).2.store.memory = final.store.memory ∧ committedImage (compact final).2 = some image ∧
      ((∀ call ∈ calls, call.isImport = false) →
        stats.allocatedBytes = (1 + divCeil (peakCommittedSize calls ⟨opened, none⟩) stablePageSize) * stablePageSize ∧
        (image.length = peakCommittedSize calls ⟨opened, none⟩ → stats.orphanBytesEstimate < stablePageSize)) := by
  intro final
  obtain ⟨first, empty, live, _⟩ := fitted_initialized opens
  have sane : Sane final := sane_runAll calls (.live first empty live True.intro)
  cases sane with
  | unused pristine _ =>
      have none : final.store.memory.pages = 0 := pristine.pages
      rw [none] at used
      exact absurd used (Nat.lt_irrefl 0)
  | live block image live _ =>
      obtain ⟨stats, told, accounted⟩ := live.storageStats_of
      have compacted := live.compact_of
      refine ⟨block, image, stats, live.serves.coherent.load_eq, live.committedImage_eq, told, accounted,
        compacted.memory, compacted.live.committedImage_eq, fun plain => ?_⟩
      have pages := (stable_size_is_that_of_the_peak_image grants opened opens calls plain).1
      have allocated : stats.allocatedBytes =
          (1 + divCeil (peakCommittedSize calls ⟨opened, none⟩) stablePageSize) * stablePageSize := by
        rw [accounted.allocatedBytes, Memory.capacity, pages]
      refine ⟨allocated, fun peak => ?_⟩
      have parts := accounted.parts
      rw [allocated, accounted.activeBytes, peak] at parts
      simp only [divCeil, superblockSize, stablePageSize] at parts ⊢
      omega

/-- The database of a sparse commit, which never shrank. -/
theorem storage_stats_of_sparse_commit :
    ∃ opened, initializeHandle (Context.fresh fun _ => true).store = (.ok (), opened) ∧
      let final := BlobCall.runAll [.beginUpdate, .file (.write 70000 [1]), .commitUpdate] ⟨opened, none⟩
      ∃ block image stats, storageStats final.store = (.ok stats, { final.store with superblockCache := some block }) ∧
        Accounted final.store.memory block image stats := by
  have pristine : Pristine (Context.fresh fun _ => true).store := ⟨rfl, rfl⟩
  obtain ⟨after, ended, serves⟩ := pristine.load_granted rfl
  have opens : initializeHandle (Context.fresh fun _ => true).store =
      (.ok (), { after with superblockCache := some Superblock.fresh }) := by
    rw [initializeHandle, Action.bind_of_ok _ ended, ensureCurrentLayout_of serves]
  have plain : ∀ call ∈ [BlobCall.beginUpdate, .file (.write 70000 [1]), .commitUpdate], call.isImport = false := by decide
  have pages := (stable_size_is_that_of_the_peak_image _ _ opens _ plain).1
  obtain ⟨block, image, stats, _, _, told, accounted, _⟩ :=
    storage_stats_account_for_every_byte _ _ opens [.beginUpdate, .file (.write 70000 [1]), .commitUpdate] (by rw [pages]; omega)
  exact ⟨_, opens, block, image, stats, told, accounted⟩

end IcSqliteVfs.SqliteVfs
