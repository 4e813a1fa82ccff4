import IcSqliteVfs.SqliteVfs.BlobRun

namespace IcSqliteVfs.SqliteVfs

open IcSqliteVfs.Data IcSqliteVfs.Semantics IcSqliteVfs.Stable

/-! # A published checksum is the checksum of the image -/

/-- What the checksum fields of a block say about the image under it. -/
structure Certified (block : Superblock) (base : List UInt8) : Prop where
  published : block.isChecksumStale = false → 0 < block.lastTxId → block.checksum = fnv1a64 base
  progress : block.isChecksumRefreshing = true → block.checksumRefreshOffset ≤ block.dbSize ∧
    block.checksumRefreshHash = fnv1a64 (base.take block.checksumRefreshOffset.toNat)

variable {context : Context} {block : Superblock} {base : List UInt8}

theorem certified_fresh : Certified Superblock.fresh [] where
  published := by
    intro _ committed
    cases committed
  progress := by
    intro refreshing
    cases refreshing

/-- A block that is not being refreshed and whose checksum is stale or right. -/
theorem certified_of_idle (idle : block.isChecksumRefreshing = false)
    (published : block.isChecksumStale = false → 0 < block.lastTxId → block.checksum = fnv1a64 base) :
    Certified block base :=
  ⟨published, fun refreshing => by rw [idle] at refreshing; cases refreshing⟩

theorem Certified.ofCommit (block : Superblock) (size : Nat) (zeroExtents : List ZeroExtent)
    (published : List UInt8) : Certified (committedBlock block true size zeroExtents).stamped published := by
  have flags : (committedBlock block true size zeroExtents).stamped.flags =
      (block.flags ||| flagChecksumStale) &&& ~~~flagChecksumRefreshing := rfl
  apply certified_of_idle
  · rw [Superblock.isChecksumRefreshing, flags, clear_and_self]
    rfl
  · intro fresh
    rw [Superblock.isChecksumStale, flags, clear_and_other _ (by decide), set_and_self] at fresh
    cases fresh

theorem Certified.ofWhole (block : Superblock) (base : List UInt8) :
    Certified (certified block (fnv1a64 base)).stamped base := by
  have flags : (certified block (fnv1a64 base)).stamped.flags =
      block.flags &&& ~~~flagChecksumStale &&& ~~~flagChecksumRefreshing := rfl
  apply certified_of_idle
  · rw [Superblock.isChecksumRefreshing, flags, clear_and_self]
    rfl
  · intro _ _
    rfl

theorem Certified.cleared (holds : Certified block base) : Certified block.clearChecksumRefresh.stamped base := by
  have flags : block.clearChecksumRefresh.stamped.flags = block.flags &&& ~~~flagChecksumRefreshing := rfl
  apply certified_of_idle (not_refreshing_cleared block)
  intro fresh committed
  rw [Superblock.isChecksumStale, flags, clear_and_other _ (by decide)] at fresh
  exact holds.published fresh committed

/-- A refresh that starts has hashed nothing yet. -/
theorem Certified.resumed (holds : Certified block base) :
    Certified (resumed block) base ∧ (SqliteVfs.resumed block).isChecksumRefreshing = true := by
  rw [SqliteVfs.resumed]
  by_cases refreshing : block.isChecksumRefreshing = true
  · rw [if_pos refreshing]
    exact ⟨holds, refreshing⟩
  · rw [if_neg refreshing]
    have flags : (refreshStarted block).flags = block.flags ||| flagChecksumRefreshing := rfl
    refine ⟨⟨?_, ?_⟩, ?_⟩
    · intro fresh committed
      rw [Superblock.isChecksumStale, flags, set_and_other _ (by decide)] at fresh
      exact holds.published fresh committed
    · intro _
      exact ⟨UInt64.le_iff_toNat_le.mpr (Nat.zero_le _), rfl⟩
    · rw [Superblock.isChecksumRefreshing, flags, set_and_self]
      rfl

/-- Hashing on from a hashed beginning. -/
theorem foldFnv1a64_take {start stop : Nat} (ordered : start ≤ stop) (within : stop ≤ base.length) :
    foldFnv1a64 (fnv1a64 (base.take start)) (readFrom 0 base start (stop - start)) =
      fnv1a64 (base.take stop) := by
  have joined : readFrom 0 base 0 stop = readFrom 0 base 0 start ++ readFrom 0 base start (stop - start) := by
    have split : stop = start + (stop - start) := by omega
    conv => lhs; rw [split]
    rw [readFrom_append, Nat.zero_add]
  rw [← readFrom_zero base within, joined, readFrom_zero base (ordered.trans within)]
  exact foldFnv1a64_append _ _ _

theorem Certified.advanced (holds : Certified block base) (refreshing : block.isChecksumRefreshing = true)
    (size : base.length = block.dbSize.toNat) (maxBytes : Nat) :
    Certified (scanned block base maxBytes).stamped base := by
  obtain ⟨below, hash⟩ := holds.progress refreshing
  have start : block.checksumRefreshOffset.toNat ≤ block.dbSize.toNat := UInt64.le_iff_toNat_le.mp below
  have bound : block.dbSize.toNat < u64Bound := block.dbSize.toNat_lt
  have forward : block.checksumRefreshOffset.toNat ≤ refreshStop block maxBytes := by
    rw [refreshStop]
    omega
  have within : refreshStop block maxBytes ≤ block.dbSize.toNat := min_le_left _ _
  have reached : max block.checksumRefreshOffset.toNat (refreshStop block maxBytes) =
      refreshStop block maxBytes := max_eq_right forward
  have rehashed : foldFnv1a64 block.checksumRefreshHash (readFrom 0 base block.checksumRefreshOffset.toNat
      (refreshStop block maxBytes - block.checksumRefreshOffset.toNat)) =
        fnv1a64 (base.take (refreshStop block maxBytes)) := by
    rw [hash]
    exact foldFnv1a64_take forward (by omega)
  rw [scanned]
  simp only [reached, rehashed]
  rw [refreshAdvanced]
  by_cases finished : refreshStop block maxBytes = block.dbSize.toNat
  · rw [if_pos finished, finished, ← size, List.take_length]
    exact Certified.ofWhole _ base
  · rw [if_neg finished]
    have stopValue : (UInt64.ofNat (refreshStop block maxBytes)).toNat = refreshStop block maxBytes :=
      UInt64.toNat_ofNat_of_lt' (Nat.lt_of_le_of_lt within bound)
    refine ⟨holds.published, ?_⟩
    intro _
    change UInt64.ofNat (refreshStop block maxBytes) ≤ block.dbSize ∧
      fnv1a64 (base.take (refreshStop block maxBytes)) =
        fnv1a64 (base.take (UInt64.ofNat (refreshStop block maxBytes)).toNat)
    rw [stopValue, UInt64.le_iff_toNat_le, stopValue]
    exact ⟨within, rfl⟩

theorem Certified.survivesChunks : SurvivesChunks Certified where
  cleared := fun _ _ holds => holds.cleared
  scanned := by
    intro block base maxBytes holds size _
    obtain ⟨again, refreshing⟩ := holds.resumed
    refine again.advanced refreshing ?_ maxBytes
    rw [size, (sameImage_resumed block).dbSize]

theorem Certified.survivesCalls : SurvivesCalls Certified where
  toSurvivesChunks := Certified.survivesChunks
  fresh := certified_fresh
  committed := fun block _ size zeroExtents published _ => Certified.ofCommit block size zeroExtents published
  certified := fun block base _ => Certified.ofWhole block base
  versioned := fun _ _ _ holds => ⟨holds.published, holds.progress⟩

/-! ## Runs of transactions and refreshes -/

/-- The contexts that transactional calls reach from an empty memory. -/
inductive Reached (grants : Nat → Bool) : Context → Prop where
  | fresh : Reached grants (Context.fresh grants)
  | call {context : Context} (call : BlobCall) (reached : Reached grants context)
      (transactional : call.Transactional context) : Reached grants (call.after context)

theorem Reached.usable {grants : Nat → Bool} (reached : Reached grants context) : Usable Certified context := by
  induction reached with
  | fresh => exact usable_fresh grants
  | call call reached transactional ih => exact ih.transactional Certified.survivesCalls call transactional

/-- Whatever transactions, failed commits, refreshes and upgrades led here: a
checksum that is not marked stale is the checksum of what reads return, and a
refresh in progress has hashed a beginning of it. -/
theorem published_checksum_is_of_image {grants : Nat → Bool} {context : Context} {block : Superblock}
    {loaded : Store} (reached : Reached grants context)
    (load : Superblock.load context.store = (.ok block, loaded)) :
    ∃ file, readBaseAtWithBlock block 0 block.dbSize.toNat loaded = (.ok (file, true), loaded) ∧
      file.length = block.dbSize.toNat ∧
      (block.isChecksumStale = false → 0 < block.lastTxId → block.checksum = fnv1a64 file) ∧
      (block.isChecksumRefreshing = true → block.checksumRefreshOffset ≤ block.dbSize ∧
        block.checksumRefreshHash = fnv1a64 (file.take block.checksumRefreshOffset.toNat)) := by
  have found := reached.usable.load certified_fresh
  rw [Action.Leaves, load] at found
  obtain ⟨base, live, holds⟩ := found
  have serves := live.serves
  have size := serves.size_eq
  refine ⟨base, ?_, size, holds.published, holds.progress⟩
  have whole : block.dbSize.toNat = 0 ∨ 0 + block.dbSize.toNat ≤ block.dbSize.toNat := by omega
  rw [readBaseAtWithBlock_of serves.readable, serves.image_eq, decide_eq_true whole, ← size,
    readFrom_zero base (Nat.le_refl _), List.take_length]

/-- A transaction on an empty memory, after which the block is loaded again. -/
theorem published_checksum_is_of_image_of_first_commit :
    let context := BlobCall.runAll [.beginUpdate, .file (.write 4 [65, 66]), .commitUpdate]
      (Context.fresh fun _ => true)
    ∃ block loaded file, Superblock.load context.store = (.ok block, loaded) ∧
      readBaseAtWithBlock block 0 block.dbSize.toNat loaded = (.ok (file, true), loaded) ∧
      (block.isChecksumStale = false → 0 < block.lastTxId → block.checksum = fnv1a64 file) := by
  intro context
  obtain ⟨begun, ended, active, live⟩ := beginUpdate_granted (fun _ => true) rfl
  have first : BlobCall.after (Context.fresh fun _ => true) .beginUpdate = begun := by
    rw [BlobCall.after, BlobCall.perform, BlobCall.ignore_after, ended]
  have opened : Reached (fun _ => true) begun := first ▸ Reached.call .beginUpdate .fresh True.intro
  have wrote : Reached (fun _ => true) (BlobCall.after begun (.file (.write 4 [65, 66]))) := by
    have updating : begun.overlay.isSome = true := by
      rw [active]
      rfl
    exact Reached.call _ opened updating
  have written : Live (BlobCall.after begun (.file (.write 4 [65, 66]))) Superblock.fresh [] := by
    rw [BlobCall.after, BlobCall.perform, BlobCall.ignore_after]
    exact (live.call_overlay active _).live
  have reached : Reached (fun _ => true) context := by
    change Reached _ (BlobCall.after (BlobCall.after (BlobCall.after _ .beginUpdate) _) .commitUpdate)
    rw [first]
    exact wrote.call .commitUpdate True.intro
  have committed : ∃ block base, Live context block base := by
    change ∃ block base, Live (commitUpdate
      (BlobCall.after (BlobCall.after (Context.fresh fun _ => true) .beginUpdate) _)).2 block base
    rw [first]
    rcases written.commitUpdate_cases with quiet | done | failed
    · obtain ⟨next, finished, _, same⟩ := quiet
      exact ⟨_, _, by rw [finished]; exact same.live⟩
    · obtain ⟨overlay, zeroExtents, grown, published, finished, _, _, after⟩ := done
      exact ⟨_, _, by rw [finished]; exact after⟩
    · obtain ⟨error, next, finished, _, same⟩ := failed
      exact ⟨_, _, by rw [finished]; exact same.live⟩
  obtain ⟨block, base, stored⟩ := committed
  have load := stored.serves.coherent.load_eq
  obtain ⟨file, read, _, published, _⟩ := published_checksum_is_of_image reached load
  exact ⟨block, _, file, load, read, published⟩

end IcSqliteVfs.SqliteVfs
