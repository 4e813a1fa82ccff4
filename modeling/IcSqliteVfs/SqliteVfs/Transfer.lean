import IcSqliteVfs.SqliteVfs.CommittedReads
import IcSqliteVfs.SqliteVfs.ImportMachine
import Mathlib.Logic.Relation

namespace IcSqliteVfs.SqliteVfs

open IcSqliteVfs.Data IcSqliteVfs.Semantics IcSqliteVfs.Stable

/-! # From one canister to another

The image is exported in chunks and imported elsewhere.  Chunks may get lost,
arrive twice or out of order, and both sides go on working and are upgraded.
-/

/-- What there is of `len` bytes of the committed image. -/
def exportChunk (offset len : UInt64) : ContextM (List UInt8) := do
  rejectDuringUpdate
  let block ← onContextStore Superblock.load
  if block.dbSize ≤ offset then pure []
  else onContextStore (readLogicalRange block offset.toNat (min len (block.dbSize - offset)).toNat)

variable {context next : Context} {block : Superblock} {machine after : ImportMachine} {staged : Staged}

/-! ## What one side does -/

theorem readFrom_within {values : List UInt8} {start count : Nat} (below : start + count ≤ values.length) :
    readFrom 0 values start count = (values.drop start).take count := by
  apply ext_getD 0
  · simp
    omega
  · intro index _
    rw [getD_readFrom, getD_take, getD_drop]

/-- Read behind the loaded block, an export answers from the file. -/
theorem Stored.exported (stored : Stored context block machine) (offset len : UInt64) :
    (if block.dbSize ≤ offset then pure []
      else onContextStore (readLogicalRange block offset.toNat (min len (block.dbSize - offset)).toNat) :
        ContextM (List UInt8)) context = (.ok ((machine.file.drop offset.toNat).take len.toNat), context) := by
  have serves := stored.serves
  have size : block.dbSize.toNat = machine.file.length := serves.size_eq.symm
  by_cases past : block.dbSize ≤ offset
  · have beyond : machine.file.length ≤ offset.toNat := size ▸ UInt64.le_iff_toNat_le.mp past
    simp [past, List.drop_eq_nil_of_le beyond]
  · have inside : offset < block.dbSize := not_le.mp past
    have below : offset.toNat < machine.file.length := size ▸ UInt64.lt_iff_toNat_lt.mp inside
    have rest : (block.dbSize - offset).toNat = machine.file.length - offset.toNat := by
      rw [UInt64.toNat_sub_of_le _ _ inside.le, size]
    have count : (min len (block.dbSize - offset)).toNat = min len.toNat (machine.file.length - offset.toNat) := by
      rw [← rest]
      rcases le_total len (block.dbSize - offset) with shorter | longer
      · rw [min_eq_left shorter, min_eq_left (UInt64.le_iff_toNat_le.mp shorter)]
      · rw [min_eq_right longer, min_eq_right (UInt64.le_iff_toNat_le.mp longer)]
    have cut : (machine.file.drop offset.toNat).take (min len.toNat (machine.file.length - offset.toNat)) =
        (machine.file.drop offset.toNat).take len.toNat := by
      rw [List.take_eq_take_iff, List.length_drop]
      omega
    rw [if_neg past, count, onContextStore_of (readLogicalRange_of serves.readable (by omega)), serves.image_eq,
      readFrom_within (by omega), cut]

/-- An export changes nothing, and returns bytes of the file from its offset on. -/
theorem Tracks.exportChunk (tracks : Tracks context machine) (offset len : UInt64) :
    Tracks (SqliteVfs.exportChunk offset len context).2 machine ∧
      ∀ bytes, (SqliteVfs.exportChunk offset len context).1 = .ok bytes →
        bytes = (machine.file.drop offset.toNat).take len.toNat := by
  rcases tracks.enter (SqliteVfs.exportChunk offset len) rfl with refused | entered
  · obtain ⟨error, last, ended, _, kept⟩ := refused
    simp [ended, kept]
  · obtain ⟨block, last, ended, _, stored⟩ := entered
    rw [ended, stored.exported offset len]
    exact ⟨.stored block stored, fun bytes same => (Outcome.ok.inj same).symm⟩

/-- An upgrade gives a transaction up, and keeps the progress of an import. -/
def ImportMachine.upgraded (machine : ImportMachine) : ImportMachine :=
  { machine with phase := match machine.phase with
      | .updating _ => .idle
      | phase => phase }

theorem Tracks.upgrade (tracks : Tracks context machine) : Tracks (BlobCall.after context .upgrade) machine.upgraded := by
  cases tracks with
  | unused pristine closed same =>
      subst same
      exact .unused ⟨pristine.pages, rfl⟩ rfl rfl
  | stored block stored =>
      have serves := stored.serves
      have backs : Backs { context.store with superblockCache := none } block machine :=
        ⟨⟨serves.coherent.cold, serves.readable, serves.image_eq⟩, stored.lastTxId, stored.certified⟩
      refine .stored block ⟨⟨backs.serves, backs.lastTxId, backs.certified⟩, ?_⟩
      have inPhase := stored.phase
      simp only [ImportMachine.upgraded]
      generalize machine.phase = phase at inPhase
      cases inPhase with
      | idle quiet closed => exact .idle quiet rfl
      | importing staged stages closed => exact .importing staged stages rfl
      | updating view overlay quiet active holds => exact .idle quiet rfl

/-- A file that was changed is told by its transaction id, unless it was imported. -/
theorem ImportMachine.Step.lastTxId {call : ImportCall} {outcome : Outcome StableMemoryError ImportCall.Answer}
    (step : machine.Step call outcome after) (kept : call ≠ .finishImport) :
    machine.lastTxId ≤ after.lastTxId ∧
      (machine.lastTxId.toNat + 1 < u64Bound → after.lastTxId = machine.lastTxId → after.file = machine.file) := by
  cases step with
  | committed view updating =>
      have succ : (Superblock.saturatingSucc machine.lastTxId).toNat = min (machine.lastTxId.toNat + 1) (u64Bound - 1) :=
        UInt64.toNat_ofNat_of_lt' (by simp only [u64Bound, UInt64.size]; omega)
      have bound : machine.lastTxId.toNat < u64Bound := machine.lastTxId.toNat_lt
      refine ⟨UInt64.le_iff_toNat_le.mpr (by rw [succ]; omega), fun countable same => ?_⟩
      have equal := congrArg UInt64.toNat same
      rw [succ] at equal
      omega
  | finished => exact absurd rfl kept
  | mismatched => exact absurd rfl kept
  | _ => exact ⟨le_refl _, fun _ _ => rfl⟩

/-! ## The bytes that are staged -/

theorem append_isPrefix_of_drop {values first second : List UInt8} (starts : first <+: values)
    (continues : second <+: values.drop first.length) : first ++ second <+: values := by
  obtain ⟨rest, rfl⟩ := starts
  rw [List.drop_left] at continues
  exact (List.prefix_append_right_inj first).mpr continues

/-- An open import has staged the beginning of this file, and awaits all of it. -/
def Awaits (file : List UInt8) (total : UInt64) (machine : ImportMachine) : Prop :=
  ∀ staged, machine.phase = .importing staged → staged.bytes <+: file ∧ staged.totalSize = total

theorem ImportMachine.Step.awaits {file : List UInt8} {total : UInt64} {call : ImportCall}
    {outcome : Outcome StableMemoryError ImportCall.Answer} (step : machine.Step call outcome after)
    (awaits : Awaits file total machine)
    (announced : ∀ totalSize expectedChecksum, call = .beginImport totalSize expectedChecksum → totalSize = total)
    (excerpt : ∀ offset bytes, call = .importChunk offset bytes → bytes <+: file.drop offset.toNat) :
    Awaits file total after := by
  cases step with
  | importBegun totalSize expectedChecksum idle =>
      intro staged importing
      obtain rfl := Phase.importing.inj importing
      exact ⟨by simp [Staged.bytes], announced _ _ rfl⟩
  | chunkAccepted staged importing offset bytes contiguous within =>
      intro accepted same
      obtain rfl := Phase.importing.inj same
      obtain ⟨starts, size⟩ := awaits staged importing
      rw [Staged.bytes_accept]
      exact ⟨append_isPrefix_of_drop starts (contiguous ▸ excerpt offset bytes rfl), size⟩
  | answered | overflowed => simp [Awaits]
  | finished | mismatched | cancelled | updateBegun | committed | committedNothing | commitFailed | rolledBack =>
      simp [Awaits]
  | _ => exact awaits

/-! ## Both sides and the way between them -/

structure Chunk where
  offset : UInt64
  bytes : List UInt8
deriving DecidableEq, Repr

/-- Two canisters, and every chunk that one of them ever returned. -/
structure Transfer where
  source : Context
  target : Context
  sent : List Chunk

namespace Transfer

/-- The chunks after another export. -/
def sentAfter (sent : List Chunk) (offset : UInt64) : Outcome StableMemoryError (List UInt8) → List Chunk
  | .ok bytes => ⟨offset, bytes⟩ :: sent
  | _ => sent

/-- What may happen next.  A chunk that was sent stays on its way: any piece of it
arrives at any time, as often as it likes or never.  The source finishes no import,
and the imports of the target are of `total` bytes. -/
inductive Step (total : UInt64) : Transfer → Transfer → Prop where
  | exported (transfer : Transfer) (offset len : UInt64) :
      Step total transfer { transfer with
        source := (exportChunk offset len transfer.source).2
        sent := sentAfter transfer.sent offset (exportChunk offset len transfer.source).1 }
  | delivered (transfer : Transfer) (chunk : Chunk) (member : chunk ∈ transfer.sent) (skipped count : Nat)
      (offset : UInt64) (position : offset.toNat = chunk.offset.toNat + skipped) :
      Step total transfer { transfer with
        target := (ImportCall.perform (.importChunk offset ((chunk.bytes.drop skipped).take count)) transfer.target).2 }
  | sourceWorked (transfer : Transfer) (call : ImportCall) (applies : call.Applies transfer.source)
      (kept : call ≠ .finishImport) :
      Step total transfer { transfer with source := (call.perform transfer.source).2 }
  | sourceUpgraded (transfer : Transfer) :
      Step total transfer { transfer with source := BlobCall.after transfer.source .upgrade }
  | targetWorked (transfer : Transfer) (call : ImportCall) (applies : call.Applies transfer.target)
      (ours : ∀ offset bytes, call ≠ .importChunk offset bytes)
      (announced : ∀ totalSize expectedChecksum, call = .beginImport totalSize expectedChecksum → totalSize = total) :
      Step total transfer { transfer with target := (call.perform transfer.target).2 }
  | targetUpgraded (transfer : Transfer) :
      Step total transfer { transfer with target := BlobCall.after transfer.target .upgrade }

/-- While the source has this file under this transaction, everything that was
sent or staged is of the file. -/
structure Genuine (file : List UInt8) (lastTxId total : UInt64) (transfer : Transfer) (source target : ImportMachine) :
    Prop where
  tracksSource : Tracks transfer.source source
  tracksTarget : Tracks transfer.target target
  since : lastTxId ≤ source.lastTxId
  same : source.lastTxId = lastTxId → source.file = file
  sent : source.lastTxId = lastTxId → ∀ chunk ∈ transfer.sent, chunk.bytes <+: file.drop chunk.offset.toNat
  awaits : source.lastTxId = lastTxId → Awaits file total target

theorem take_drop_isPrefix {values part : List UInt8} {start skipped : Nat} (of_ : part <+: values.drop start)
    (count : Nat) : (part.drop skipped).take count <+: values.drop (start + skipped) := by
  rw [← List.drop_drop]
  exact (List.take_prefix _ _).trans (of_.drop skipped)

variable {file : List UInt8} {lastTxId total : UInt64} {transfer later : Transfer} {source target : ImportMachine}

theorem Genuine.sourceStep (genuine : Genuine file lastTxId total transfer source target)
    (countable : lastTxId.toNat + 1 < u64Bound) {changed : Context} {next : ImportMachine}
    (tracks : Tracks changed next) (below : source.lastTxId ≤ next.lastTxId)
    (kept : source.lastTxId.toNat + 1 < u64Bound → next.lastTxId = source.lastTxId → next.file = source.file) :
    Genuine file lastTxId total { transfer with source := changed } next target := by
  -- Where the id is still the first one, it was so before the step.
  have before : next.lastTxId = lastTxId → source.lastTxId = lastTxId := fun current =>
    le_antisymm (current ▸ below) genuine.since
  refine ⟨tracks, genuine.tracksTarget, genuine.since.trans below, fun current => ?_,
    fun current => genuine.sent (before current), fun current => genuine.awaits (before current)⟩
  have unchanged := before current
  rw [kept (unchanged ▸ countable) (current.trans unchanged.symm), genuine.same unchanged]

theorem Genuine.targetStep (genuine : Genuine file lastTxId total transfer source target) {call : ImportCall}
    (follows : Follows target call transfer.target)
    (announced : ∀ totalSize expectedChecksum, call = .beginImport totalSize expectedChecksum → totalSize = total)
    (excerpt : source.lastTxId = lastTxId → ∀ offset bytes, call = .importChunk offset bytes →
      bytes <+: file.drop offset.toNat) :
    ∃ next, Genuine file lastTxId total { transfer with target := (call.perform transfer.target).2 } source next := by
  obtain ⟨next, step, tracks⟩ := follows
  exact ⟨next, genuine.tracksSource, tracks, genuine.since, genuine.same, genuine.sent,
    fun current => step.awaits (genuine.awaits current) announced (excerpt current)⟩

theorem Step.genuine (countable : lastTxId.toNat + 1 < u64Bound) (step : Step total transfer later)
    (genuine : Genuine file lastTxId total transfer source target) :
    ∃ source target, Genuine file lastTxId total later source target := by
  cases step with
  | exported offset len =>
      obtain ⟨kept, returned⟩ := genuine.tracksSource.exportChunk offset len
      refine ⟨source, target, kept, genuine.tracksTarget, genuine.since, genuine.same, fun current => ?_,
        genuine.awaits⟩
      cases outcome : (exportChunk offset len transfer.source).1 with
      | ok bytes =>
          refine List.forall_mem_cons.mpr ⟨?_, genuine.sent current⟩
          rw [returned bytes outcome, genuine.same current]
          exact List.take_prefix _ _
      | err error => exact genuine.sent current
      | panic => exact genuine.sent current
  | delivered chunk member skipped count offset position =>
      refine ⟨source, genuine.targetStep (genuine.tracksTarget.importChunk offset _) (by simp) ?_⟩
      rintro current _ _ ⟨⟩
      rw [position]
      exact take_drop_isPrefix (genuine.sent current chunk member) count
  | sourceWorked call applies kept =>
      obtain ⟨next, machineStep, tracks⟩ := genuine.tracksSource.step call applies
      obtain ⟨below, unchanged⟩ := machineStep.lastTxId kept
      exact ⟨next, target, genuine.sourceStep countable tracks below unchanged⟩
  | sourceUpgraded =>
      exact ⟨_, target, genuine.sourceStep countable genuine.tracksSource.upgrade (le_refl _) fun _ _ => rfl⟩
  | targetWorked call applies ours announced =>
      exact ⟨source, genuine.targetStep (genuine.tracksTarget.step call applies) announced
        fun _ offset bytes chunk => absurd chunk (ours offset bytes)⟩
  | targetUpgraded =>
      refine ⟨source, _, genuine.tracksSource, genuine.tracksTarget.upgrade, genuine.since, genuine.same,
        genuine.sent, fun current staged importing => genuine.awaits current staged ?_⟩
      simp only [ImportMachine.upgraded] at importing
      split at importing <;> simp_all

theorem Genuine.run (countable : lastTxId.toNat + 1 < u64Bound) (run : Relation.ReflTransGen (Step total) transfer later)
    (genuine : Genuine file lastTxId total transfer source target) :
    ∃ source target, Genuine file lastTxId total later source target := by
  induction run with
  | refl => exact ⟨source, target, genuine⟩
  | tail _ step ih =>
      obtain ⟨source, target, before⟩ := ih
      exact step.genuine countable before

end Transfer

/-- Any calls have led here, and the block is stored.  No transaction and no import is open. -/
structure AtRest (context : Context) (block : Superblock) : Prop where
  reached : ∃ grants calls, context = BlobCall.runAll calls (Context.fresh grants)
  closed : context.overlay = none
  used : 0 < context.store.memory.pages
  loads : ∃ loaded, Superblock.load context.store = (.ok block, loaded)
  quiet : block.isImporting = false

theorem Stored.committedImage (stored : Stored context block machine) :
    SqliteVfs.committedImage context = some machine.file := by
  simp only [SqliteVfs.committedImage, stored.serves.coherent.cold.load_eq, stored.serves.image_eq]

theorem AtRest.stored (atRest : AtRest context block) :
    ∃ file, SqliteVfs.committedImage context = some file ∧ file.length = block.dbSize.toNat ∧
      Stored context block ⟨file, block.lastTxId, none, .idle⟩ := by
  obtain ⟨⟨grants, calls, rfl⟩, closed, used, ⟨loaded, load⟩, quiet⟩ := atRest
  have tracks := tracks_committed closed load quiet
  cases tracks with
  | unused pristine _ _ =>
      rw [pristine.pages] at used
      exact absurd used (Nat.lt_irrefl 0)
  | stored other stored =>
      have same := stored.serves.coherent.load_eq
      rw [load] at same
      obtain rfl := Outcome.ok.inj (Prod.mk.inj same).1
      exact ⟨_, stored.committedImage, stored.serves.size_eq, stored⟩

/-- An import that finishes well was complete, and had the checksum that was announced. -/
theorem Tracks.finishes (tracks : Tracks context machine) (returned : (SqliteVfs.finishImport context).1 = .ok ()) :
    ∃ staged, machine.phase = .importing staged ∧ staged.Complete ∧ fnv1a64 staged.bytes = staged.expectedChecksum ∧
      ∃ block, Stored (SqliteVfs.finishImport context).2 block
        { machine with file := staged.bytes, checksum := some staged.expectedChecksum, phase := .idle } := by
  obtain ⟨after, step, kept⟩ := tracks.finishImport
  have performed : ImportCall.perform .finishImport context = (.ok .done, (SqliteVfs.finishImport context).2) := by
    cases ended : SqliteVfs.finishImport context with
    | mk outcome next =>
        rw [ended] at returned
        obtain rfl : outcome = .ok () := returned
        exact Action.bind_of_ok _ ended
  rw [performed] at step kept
  cases step with
  | finished staged importing complete matching =>
      refine ⟨staged, importing, complete, matching, ?_⟩
      cases kept with
      | unused pristine closed same => simp [ImportMachine.unused] at same
      | stored block stored => exact ⟨block, stored⟩

/-- An environment that refuses no growth. -/
def Granting (store : Store) : Prop := ∀ request, store.grants request = true

theorem keeps_checkedAdd (left right : Nat) :
    Action.Keeps Granting (checkedAdd left right) fun _ => True := by
  rw [checkedAdd]
  split
  · exact Action.keeps_pure True.intro
  · exact Action.keeps_fail _

theorem keeps_ensureCapacity (stop : Nat) : Action.Keeps Granting (ensureCapacity stop) fun _ => True := by
  rw [ensureCapacity]
  refine Action.Keeps.bind Action.keeps_read fun store _ => ?_
  refine @Action.Keeps.bind _ _ _ _ _ (fun _ => True) _ _ _ ?_ fun currentBytes _ => ?_
  · rw [checkedMul]
    split
    · exact Action.keeps_pure True.intro
    · exact Action.keeps_fail _
  · split
    · exact Action.keeps_pure True.intro
    · have grown : Action.Keeps Granting (growMemory (divCeil (stop - currentBytes) stablePageSize)) fun _ => True :=
        fun store granting => ⟨fun request => granting (request + 1), fun _ _ => True.intro⟩
      refine Action.Keeps.bind grown fun previous _ => ?_
      split
      · exact Action.Keeps.bind (keeps_checkedAdd _ _) fun _ _ => Action.keeps_fail _
      · exact Action.keeps_pure True.intro

theorem keeps_write (offset : Nat) (bytes : List UInt8) :
    Action.Keeps Granting (Stable.write offset bytes) fun _ => True := by
  rw [Stable.write]
  split
  · exact Action.keeps_pure True.intro
  · refine Action.Keeps.bind (keeps_checkedAdd _ _) fun stop _ => Action.Keeps.bind (keeps_ensureCapacity stop) fun _ _ => ?_
    rw [writePrechecked]
    refine Action.Keeps.bind Action.keeps_read fun store _ => Action.Keeps.bind (Action.keeps_require _) fun _ _ => ?_
    exact Action.keeps_modify fun _ granting => granting

theorem pagesFor_fits {pages stop bound : Nat} (addressable : pages * stablePageSize < bound)
    (room : stop + stablePageSize ≤ bound) : pagesFor pages stop * stablePageSize < bound := by
  rcases le_total (divCeil stop stablePageSize) pages with held | missing
  · rw [pagesFor, max_eq_left held]
    exact addressable
  · have rounded := Nat.div_mul_le_self (stop + stablePageSize - 1) stablePageSize
    have positive : 0 < stablePageSize := by decide
    rw [pagesFor, max_eq_right missing, divCeil]
    omega

/-- An import whose memory is granted to its end. -/
structure Receives (context : Context) (machine : ImportMachine) (staged : Staged) : Prop where
  importing : machine.phase = .importing staged
  closed : context.overlay = none
  granting : Granting context.store
  stored : ∃ block, Stored context block machine ∧
    block.importBaseOffset.toNat + staged.totalSize.toNat + stablePageSize ≤ u64Bound

theorem Receives.importChunk (receives : Receives context machine staged) {offset : UInt64} {bytes : List UInt8}
    (position : offset.toNat = staged.bytes.length)
    (within : staged.bytes.length + bytes.length ≤ staged.totalSize.toNat) :
    ∃ next, SqliteVfs.importChunk offset bytes context = (.ok (), next) ∧
      Receives next { machine with phase := .importing (staged.accept bytes) } (staged.accept bytes) := by
  obtain ⟨importing, closed, granting, block, stored, room⟩ := receives
  rcases stored.phase_cases closed with idle | open_
  · rw [importing] at idle
    cases idle.1
  · obtain ⟨other, same, stages⟩ := open_
    rw [importing] at same
    obtain rfl := Phase.importing.inj same
    have writtenUntil : offset = block.importWrittenUntil := by
      rw [← UInt64.toNat_inj, position, stages.writtenUntil]
    have small : staged.totalSize.toNat < u64Bound := staged.totalSize.toNat_lt
    have fits : staged.bytes.length + bytes.length < u64Bound := Nat.lt_of_le_of_lt within small
    have unopened : ¬ ¬ block.isImporting = true := not_not.mpr stages.importing
    have inOrder : ¬ offset ≠ block.importWrittenUntil := not_not.mpr writtenUntil
    have below : ¬ block.importTotalSize.toNat < staged.bytes.length + bytes.length := by
      rw [stages.totalSize]
      omega
    have sum : block.importBaseOffset.toNat + staged.bytes.length < u64Bound := by
      simp only [stablePageSize] at room
      omega
    generalize warmEq : ({ context with store := { context.store with superblockCache := some block } } : Context) =
      warm
    have loaded : Stored warm block machine := warmEq ▸ stored.loaded
    have warmClosed : warm.overlay = none := warmEq ▸ closed
    have warmGranting : Granting warm.store := warmEq ▸ granting
    have warmStages : Stages warm.store.memory block staged := warmEq ▸ stages
    have addressable : warm.store.memory.capacity < u64Bound := warm.store.memory.addressable
    have pagesFit : pagesFor warm.store.memory.pages
        (block.importBaseOffset.toNat + staged.bytes.length + bytes.length) * stablePageSize < u64Bound := by
      refine pagesFor_fits addressable ?_
      omega
    have wrote := write_granted (warmGranting 0) pagesFit
    have kept := (keeps_write (block.importBaseOffset.toNat + staged.bytes.length) bytes warm.store warmGranting).1
    have entered : SqliteVfs.importChunk offset bytes context = (do
        onContextStore (write (block.importBaseOffset.toNat + staged.bytes.length) bytes)
        onContextStore (chunkWritten block (staged.bytes.length + bytes.length)).store : ContextM Unit) warm := by
      rw [SqliteVfs.importChunk, Action.bind_of_ok _ (passed_of_idle closed),
        Action.bind_of_ok _ (onContextStore_of stored.serves.coherent.load_eq), if_neg unopened, if_neg inOrder, position,
        Action.bind_of_ok _ (checkedAdd_of fits _), if_neg below, Action.bind_of_ok _ (checkedAdd_of sum _), warmEq]
      rfl
    rcases write_cases warm.store (block.importBaseOffset.toNat + staged.bytes.length) bytes with done | failed
    · obtain ⟨after, ended, pages, unwritten, cache, inside, written⟩ := done
      rw [ended] at kept
      have backs : Backs after block machine :=
        loaded.written warmStages pages (fun address before => unwritten address (by omega)) cache
      have accepted := warmStages.accepted fits unwritten (Nat.mul_le_mul_right _ pages)
        backs.serves.coherent.accepted.pages inside written
      have record : SameRecord block (chunkWritten block (staged.bytes.length + bytes.length)) :=
        ⟨⟨rfl, rfl, rfl, rfl, rfl⟩, rfl, rfl, rfl⟩
      have middle : Backs ({ warm with store := after } : Context).store block machine := backs
      obtain ⟨stores, last⟩ := middle.storeEdited record (.importing _ accepted warmClosed)
      refine ⟨{ warm with store := (chunkWritten block (staged.bytes.length + bytes.length)).storedIn after }, ?_, rfl,
        warmClosed, kept, _, last, room⟩
      rw [entered, Action.bind_of_ok _ (onContextStore_of ended), stores]
    · obtain ⟨error, after, ended, _⟩ := failed
      rw [ended] at wrote
      cases wrote

end IcSqliteVfs.SqliteVfs
