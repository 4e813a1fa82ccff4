import IcSqliteVfs.SqliteVfs.Atomicity

namespace IcSqliteVfs.SqliteVfs

open IcSqliteVfs.Data IcSqliteVfs.Semantics IcSqliteVfs.Stable

/-! # The import protocol

An import writes its bytes next to the image that stays active.  To a caller
that is invisible: imports and transactions are a machine over plain files, in
which bytes that were staged and given up never existed.
-/

/-- An announced import and the chunks it accepted. -/
structure Staged where
  totalSize : UInt64
  expectedChecksum : UInt64
  chunks : List (List UInt8)
deriving DecidableEq, Repr

namespace Staged

def bytes (staged : Staged) : List UInt8 := staged.chunks.flatten

def Complete (staged : Staged) : Prop := staged.bytes.length = staged.totalSize.toNat

def accept (staged : Staged) (chunk : List UInt8) : Staged :=
  { staged with chunks := staged.chunks ++ [chunk] }

theorem bytes_accept (staged : Staged) (chunk : List UInt8) :
    (staged.accept chunk).bytes = staged.bytes ++ chunk := by
  simp [bytes, accept]

end Staged

inductive Phase where
  | idle
  | importing (staged : Staged)
  | updating (view : List UInt8)
deriving DecidableEq, Repr

/-- `checksum` is set while the image is known to be certified. -/
structure ImportMachine where
  file : List UInt8
  lastTxId : UInt64
  checksum : Option UInt64
  phase : Phase
deriving DecidableEq, Repr

inductive ImportCall where
  | beginImport (totalSize expectedChecksum : UInt64)
  | importChunk (offset : UInt64) (bytes : List UInt8)
  | finishImport
  | cancelImport
  | beginUpdate
  | file (call : OverlayCall)
  | commitUpdate
  | rollbackUpdate
deriving DecidableEq, Repr

namespace ImportCall

inductive Answer where
  | done
  | size (size : UInt64)
  | file (answer : OverlayCall.Answer)
deriving DecidableEq, Repr

def perform : ImportCall → ContextM Answer
  | .beginImport totalSize expectedChecksum => do
      SqliteVfs.beginImport totalSize expectedChecksum
      pure .done
  | .importChunk offset bytes => do
      SqliteVfs.importChunk offset bytes
      pure .done
  | .finishImport => do
      SqliteVfs.finishImport
      pure .done
  | .cancelImport => do
      SqliteVfs.cancelImport
      pure .done
  | .beginUpdate => do
      let size ← SqliteVfs.beginUpdate
      pure (.size size)
  | .file call => do
      let answer ← call.onContext
      pure (.file answer)
  | .commitUpdate => do
      SqliteVfs.commitUpdate
      pure .done
  | .rollbackUpdate => do
      SqliteVfs.rollbackUpdate
      pure .done

/-- Reads and writes belong to a transaction. -/
def Applies (context : Context) : ImportCall → Prop
  | .file _ => context.overlay.isSome = true
  | _ => True

end ImportCall

/-- A run, with what each call returned. -/
inductive Executes : Context → List (ImportCall × Outcome StableMemoryError ImportCall.Answer) → Context → Prop where
  | nil (context : Context) : Executes context [] context
  | cons {context final : Context} (call : ImportCall)
      {rest : List (ImportCall × Outcome StableMemoryError ImportCall.Answer)} (applies : call.Applies context)
      (later : Executes (call.perform context).2 rest final) :
      Executes context ((call, (call.perform context).1) :: rest) final

/-! ## The machine -/

namespace ImportMachine

/-- What a call may return in a state, and the state it leaves.  A failed or
cancelled import leaves the file as if it had never begun. -/
inductive Step : ImportMachine → ImportCall → Outcome StableMemoryError ImportCall.Answer → ImportMachine → Prop where
  | importBegun (machine : ImportMachine) (totalSize expectedChecksum : UInt64) (idle : machine.phase = .idle) :
      Step machine (.beginImport totalSize expectedChecksum) (.ok .done)
        { machine with phase := .importing ⟨totalSize, expectedChecksum, []⟩ }
  | importRefused (machine : ImportMachine) (totalSize expectedChecksum : UInt64) (error : StableMemoryError) :
      Step machine (.beginImport totalSize expectedChecksum) (.err error) machine
  | chunkAccepted (machine : ImportMachine) (staged : Staged) (importing : machine.phase = .importing staged)
      (offset : UInt64) (bytes : List UInt8) (contiguous : offset.toNat = staged.bytes.length)
      (within : staged.bytes.length + bytes.length ≤ staged.totalSize.toNat) :
      Step machine (.importChunk offset bytes) (.ok .done)
        { machine with phase := .importing (staged.accept bytes) }
  | chunkRefused (machine : ImportMachine) (offset : UInt64) (bytes : List UInt8) (error : StableMemoryError) :
      Step machine (.importChunk offset bytes) (.err error) machine
  | finished (machine : ImportMachine) (staged : Staged) (importing : machine.phase = .importing staged)
      (complete : staged.Complete) (matching : fnv1a64 staged.bytes = staged.expectedChecksum) :
      Step machine .finishImport (.ok .done)
        { machine with file := staged.bytes, checksum := some staged.expectedChecksum, phase := .idle }
  | mismatched (machine : ImportMachine) (staged : Staged) (importing : machine.phase = .importing staged)
      (complete : staged.Complete) (differs : fnv1a64 staged.bytes ≠ staged.expectedChecksum) :
      Step machine .finishImport (.err (.checksumMismatch staged.expectedChecksum (fnv1a64 staged.bytes)))
        { machine with phase := .idle }
  | finishRefused (machine : ImportMachine) (error : StableMemoryError)
      (incomplete : ∀ staged, machine.phase = .importing staged → ¬ staged.Complete) :
      Step machine .finishImport (.err error) machine
  | cancelled (machine : ImportMachine) (staged : Staged) (importing : machine.phase = .importing staged) :
      Step machine .cancelImport (.ok .done) { machine with phase := .idle }
  | cancelRefused (machine : ImportMachine) (error : StableMemoryError)
      (closed : ∀ staged, machine.phase ≠ .importing staged) :
      Step machine .cancelImport (.err error) machine
  | updateBegun (machine : ImportMachine) (size : UInt64) (idle : machine.phase = .idle)
      (whole : size.toNat = machine.file.length) :
      Step machine .beginUpdate (.ok (.size size)) { machine with phase := .updating machine.file }
  | updateRefused (machine : ImportMachine) (error : StableMemoryError)
      (import_ : ∀ staged, machine.phase = .importing staged → error = .importAlreadyStarted) :
      Step machine .beginUpdate (.err error) machine
  | answered (machine : ImportMachine) (view : List UInt8) (updating : machine.phase = .updating view)
      (call : OverlayCall) (answer : OverlayCall.Answer) (accepted : call.outcomeOn view = .ok answer) :
      Step machine (.file call) (.ok (.file answer)) { machine with phase := .updating (call.leftBy view) }
  | overflowed (machine : ImportMachine) (view : List UInt8) (updating : machine.phase = .updating view)
      (call : OverlayCall) (error : StableMemoryError) (refused : call.outcomeOn view = .err error) :
      Step machine (.file call) (.err error) { machine with phase := .updating (call.leftBy view) }
  | committed (machine : ImportMachine) (view : List UInt8) (updating : machine.phase = .updating view) :
      Step machine .commitUpdate (.ok .done)
        { file := view, lastTxId := Superblock.saturatingSucc machine.lastTxId, checksum := none, phase := .idle }
  | committedNothing (machine : ImportMachine) (view : List UInt8) (updating : machine.phase = .updating view)
      (unchanged : view = machine.file) :
      Step machine .commitUpdate (.ok .done) { machine with phase := .idle }
  | commitFailed (machine : ImportMachine) (view : List UInt8) (updating : machine.phase = .updating view)
      (error : StableMemoryError) :
      Step machine .commitUpdate (.err error) { machine with phase := .idle }
  | nothingToCommit (machine : ImportMachine) (closed : ∀ view, machine.phase ≠ .updating view) :
      Step machine .commitUpdate (.ok .done) machine
  | rolledBack (machine : ImportMachine) (view : List UInt8) (updating : machine.phase = .updating view) :
      Step machine .rollbackUpdate (.ok .done) { machine with phase := .idle }
  | nothingToRollBack (machine : ImportMachine) (closed : ∀ view, machine.phase ≠ .updating view) :
      Step machine .rollbackUpdate (.ok .done) machine

inductive Run : ImportMachine → List (ImportCall × Outcome StableMemoryError ImportCall.Answer) → ImportMachine →
    Prop where
  | nil (machine : ImportMachine) : Run machine [] machine
  | cons {machine next final : ImportMachine} {call : ImportCall}
      {outcome : Outcome StableMemoryError ImportCall.Answer}
      {rest : List (ImportCall × Outcome StableMemoryError ImportCall.Answer)}
      (step : Step machine call outcome next) (later : Run next rest final) :
      Run machine ((call, outcome) :: rest) final

end ImportMachine

/-! ## Contexts that run the machine -/

/-- The staged bytes lie behind the active image. -/
structure Stages (memory : Memory) (block : Superblock) (staged : Staged) : Prop where
  importing : block.isImporting = true
  totalSize : block.importTotalSize = staged.totalSize
  expectedChecksum : block.importExpectedChecksum = staged.expectedChecksum
  writtenUntil : block.importWrittenUntil.toNat = staged.bytes.length
  superblock : superblockSize ≤ block.importBaseOffset.toNat
  image : block.dbBaseOffset.toNat + block.dbSize.toNat ≤ block.importBaseOffset.toNat
  room : block.importBaseOffset.toNat + staged.bytes.length ≤ memory.capacity
  bytes : memory.read block.importBaseOffset.toNat staged.bytes.length = staged.bytes

inductive InPhase (context : Context) (block : Superblock) (file : List UInt8) : Phase → Prop where
  | idle (quiet : block.isImporting = false) (closed : context.overlay = none) : InPhase context block file .idle
  | importing (staged : Staged) (stages : Stages context.store.memory block staged)
      (closed : context.overlay = none) : InPhase context block file (.importing staged)
  | updating (view : List UInt8) (overlay : Overlay) (quiet : block.isImporting = false)
      (active : context.overlay = some overlay) (holds : Overlay.Holds block file ⟨overlay, context.store⟩ view) :
      InPhase context block file (.updating view)

/-- The stored block backs the file of the machine, whatever its phase. -/
structure Backs (store : Store) (block : Superblock) (machine : ImportMachine) : Prop where
  serves : Serves store block machine.file
  lastTxId : block.lastTxId = machine.lastTxId
  certified : ∀ checksum, machine.checksum = some checksum →
    block.checksum = checksum ∧ block.isChecksumStale = false

structure Stored (context : Context) (block : Superblock) (machine : ImportMachine) : Prop
    extends Backs context.store block machine where
  phase : InPhase context block machine.file machine.phase

/-- The machine that a context without a superblock is. -/
def ImportMachine.unused : ImportMachine := ⟨[], Superblock.fresh.lastTxId, none, .idle⟩

inductive Tracks (context : Context) (machine : ImportMachine) : Prop where
  | unused (pristine : Pristine context.store) (closed : context.overlay = none) (same : machine = .unused)
  | stored (block : Superblock) (stored : Stored context block machine)

variable {context next : Context} {block edited : Superblock} {machine : ImportMachine} {staged : Staged}

theorem InPhase.loaded {file : List UInt8} {phase : Phase} (inPhase : InPhase context block file phase)
    (serves : Serves context.store block file) :
    InPhase { context with store := { context.store with superblockCache := some block } } block file phase := by
  cases inPhase with
  | idle quiet closed => exact .idle quiet closed
  | importing staged stages closed => exact .importing staged stages closed
  | updating view overlay quiet active holds =>
      exact .updating view overlay quiet active
        ⟨⟨serves.warm, holds.showing.unbudgeted, holds.showing.shows⟩, holds.size, holds.bounded⟩

theorem Stored.loaded (stored : Stored context block machine) :
    Stored { context with store := { context.store with superblockCache := some block } } block machine :=
  ⟨⟨stored.serves.warm, stored.lastTxId, stored.certified⟩, stored.phase.loaded stored.serves⟩

/-- A first load may be refused its page, and leaves the context unused. -/
theorem Tracks.load_cases (tracks : Tracks context machine) :
    (∃ block after, Superblock.load context.store = (.ok block, after) ∧
      Stored { context with store := after } block machine) ∨
    (∃ error after, Superblock.load context.store = (.err error, after) ∧ machine.phase = .idle ∧
      Tracks { context with store := after } machine) := by
  cases tracks with
  | stored block stored => exact .inl ⟨block, _, stored.serves.coherent.load_eq, stored.loaded⟩
  | unused pristine closed same =>
      subst same
      rcases pristine.load_cases with loaded | refused
      · obtain ⟨after, ended, serves, _⟩ := loaded
        refine .inl ⟨_, after, ended, ⟨serves, rfl, ?_⟩, .idle rfl closed⟩
        intro checksum certified
        cases certified
      · obtain ⟨error, after, ended, kept⟩ := refused
        exact .inr ⟨error, after, ended, rfl, .unused kept closed rfl⟩

theorem Tracks.not_importing (tracks : Tracks context machine) {overlay : Overlay}
    (active : context.overlay = some overlay) : ∀ staged, machine.phase ≠ .importing staged := by
  intro staged importing
  cases tracks with
  | unused pristine closed same =>
      rw [active] at closed
      cases closed
  | stored block stored =>
      have inPhase := stored.phase
      rw [importing] at inPhase
      cases inPhase with
      | importing _ _ closed =>
          rw [active] at closed
          cases closed

/-- The calls of an import are refused during a transaction, and load the block. -/
theorem Tracks.enter {α : Type} {rest : Superblock → ContextM α} (tracks : Tracks context machine)
    (call : ContextM α) (body : call = do rejectDuringUpdate; let block ← onContextStore Superblock.load; rest block) :
    (∃ error next, call context = (.err error, next) ∧ (∀ staged, machine.phase ≠ .importing staged) ∧
      Tracks next machine) ∨
    (∃ block next, call context = rest block next ∧ next.overlay = none ∧ Stored next block machine) := by
  rw [body]
  cases active : context.overlay with
  | some overlay =>
      exact .inl ⟨_, context, Action.bind_of_err _ (rejected_of_active active), tracks.not_importing active, tracks⟩
  | none =>
      rw [Action.bind_of_ok _ (passed_of_idle active)]
      rcases tracks.load_cases with loaded | refused
      · obtain ⟨block, after, ended, stored⟩ := loaded
        exact .inr ⟨block, _, Action.bind_of_ok _ (onContextStore_of ended), active, stored⟩
      · obtain ⟨error, after, ended, idle, kept⟩ := refused
        refine .inl ⟨error, _, Action.bind_of_err _ (onContextStore_of ended), ?_, kept⟩
        intro staged importing
        rw [idle] at importing
        cases importing

/-- What a call did is a step of the machine. -/
def Follows (machine : ImportMachine) (call : ImportCall) (context : Context) : Prop :=
  ∃ after, machine.Step call (call.perform context).1 after ∧ Tracks (call.perform context).2 after

theorem follows_of {call : ImportCall} {outcome : Outcome StableMemoryError ImportCall.Answer}
    {after : ImportMachine} (ended : call.perform context = (outcome, next)) (step : machine.Step call outcome after)
    (tracks : Tracks next after) : Follows machine call context := by
  rw [Follows, ended]
  exact ⟨after, step, tracks⟩

theorem Stored.phase_cases (stored : Stored context block machine) (closed : context.overlay = none) :
    (machine.phase = .idle ∧ block.isImporting = false) ∨
    (∃ staged, machine.phase = .importing staged ∧ Stages context.store.memory block staged) := by
  have inPhase := stored.phase
  generalize machine.phase = phase at inPhase
  cases inPhase with
  | idle quiet _ => exact .inl ⟨rfl, quiet⟩
  | importing staged stages _ => exact .inr ⟨staged, rfl, stages⟩
  | updating view overlay _ active _ =>
      rw [closed] at active
      cases active

/-! ## Steps of an import -/

/-- An edit of the import's progress, with nothing else changed. -/
structure SameRecord (block edited : Superblock) : Prop where
  image : SameImage block edited
  lastTxId : edited.lastTxId = block.lastTxId
  checksum : edited.checksum = block.checksum
  isChecksumStale : edited.isChecksumStale = block.isChecksumStale

/-- A stored edit leaves everything of the machine but its phase. -/
theorem Backs.storeEdited (backs : Backs context.store block machine) (same : SameRecord block edited) {phase : Phase}
    (inPhase : InPhase { context with store := edited.storedIn context.store } edited.stamped machine.file phase) :
    onContextStore edited.store context = (.ok (), { context with store := edited.storedIn context.store }) ∧
      Stored { context with store := edited.storedIn context.store } edited.stamped { machine with phase } := by
  obtain ⟨ended, serves⟩ := backs.serves.store_edited same.image
  refine ⟨onContextStore_of ended, ⟨serves, same.lastTxId.trans backs.lastTxId, ?_⟩, inPhase⟩
  intro checksum certified
  obtain ⟨equal, fresh⟩ := backs.certified checksum certified
  exact ⟨same.checksum.trans equal, same.isChecksumStale.trans fresh⟩

theorem sameRecord_importBegun (block : Superblock) (importBaseOffset : Nat) (totalSize expectedChecksum : UInt64) :
    SameRecord block (importBegun block importBaseOffset totalSize expectedChecksum) := by
  refine ⟨⟨rfl, rfl, rfl, rfl, rfl⟩, rfl, rfl, ?_⟩
  simp only [Superblock.isChecksumStale, importBegun, Superblock.clearChecksumRefresh]
  rw [clear_and_other _ (by decide), set_and_other _ (by decide)]

theorem importing_importBegun (block : Superblock) (importBaseOffset : Nat) (totalSize expectedChecksum : UInt64) :
    (importBegun block importBaseOffset totalSize expectedChecksum).isImporting = true := by
  simp only [Superblock.isImporting, importBegun, Superblock.clearChecksumRefresh]
  rw [clear_and_other _ (by decide), set_and_self]
  rfl

/-- An import begins at the end of the memory, behind every byte of the image. -/
theorem Stored.stages_begun (stored : Stored context block machine) (totalSize expectedChecksum : UInt64) :
    let edited := importBegun block context.store.memory.capacity totalSize expectedChecksum
    Stages (edited.storedIn context.store).memory edited.stamped ⟨totalSize, expectedChecksum, []⟩ := by
  intro edited
  have start : edited.stamped.importBaseOffset.toNat = context.store.memory.capacity :=
    UInt64.toNat_ofNat_of_lt' context.store.memory.addressable
  have importing := importing_importBegun block context.store.memory.capacity totalSize expectedChecksum
  refine ⟨importing, rfl, rfl, rfl, ?_, ?_, ?_, rfl⟩
  · rw [start]
    exact Nat.le_mul_of_pos_left _ stored.serves.coherent.accepted.pages
  · rw [start]
    exact stored.serves.readable.room
  · have empty : (Staged.bytes ⟨totalSize, expectedChecksum, []⟩).length = 0 := rfl
    rw [start, Superblock.storedIn_capacity, empty, Nat.add_zero]

theorem Tracks.beginImport (tracks : Tracks context machine) (totalSize expectedChecksum : UInt64) :
    Follows machine (.beginImport totalSize expectedChecksum) context := by
  rcases tracks.enter (SqliteVfs.beginImport totalSize expectedChecksum) rfl with refused | entered
  · obtain ⟨error, next, ended, _, kept⟩ := refused
    exact follows_of (Action.bind_of_err _ ended) (.importRefused machine _ _ error) kept
  · obtain ⟨block, next, ended, closed, stored⟩ := entered
    rcases stored.phase_cases closed with idle | open_
    · have proceeds : ¬ block.isImporting = true := by simp [idle.2]
      rw [if_neg proceeds, Action.bind_of_ok _ (onContextStore_of (appendBase_of next.store))] at ended
      by_cases fits : next.store.memory.capacity + totalSize.toNat < u64Bound
      · obtain ⟨stores, after⟩ := stored.toBacks.storeEdited (sameRecord_importBegun block _ totalSize expectedChecksum)
          (.importing _ (stored.stages_begun totalSize expectedChecksum) closed)
        rw [Action.bind_of_ok _ (checkedAdd_of fits _), stores] at ended
        exact follows_of (Action.bind_of_ok _ ended) (.importBegun machine _ _ idle.1) (.stored _ after)
      · rw [Action.bind_of_err _ (checkedAdd_overflow fits _)] at ended
        exact follows_of (Action.bind_of_err _ ended) (.importRefused machine _ _ _) (.stored block stored)
    · obtain ⟨staged, _, stages⟩ := open_
      rw [if_pos stages.importing] at ended
      exact follows_of (Action.bind_of_err _ ended) (.importRefused machine _ _ _) (.stored block stored)

/-- Only the environment's answers have changed. -/
theorem Stored.same (stored : Stored context block machine) (closed : context.overlay = none) {after : Store}
    (same : context.store.Same after) : Stored { context with store := after } block machine := by
  have serves := stored.serves
  refine ⟨⟨⟨⟨?_, ?_⟩, ?_, ?_⟩, stored.lastTxId, stored.certified⟩, ?_⟩
  · rw [same.memory]
    exact serves.coherent.accepted
  · rw [same.superblockCache]
    exact serves.coherent.cached
  · rw [same.memory]
    exact serves.readable
  · rw [same.memory]
    exact serves.image_eq
  · rcases stored.phase_cases closed with idle | open_
    · rw [idle.1]
      exact .idle idle.2 closed
    · obtain ⟨staged, importing, stages⟩ := open_
      rw [importing]
      refine .importing staged ?_ closed
      rw [same.memory]
      exact stages

/-- Bytes behind the active image are not part of it. -/
theorem Stored.written (stored : Stored context block machine) (stages : Stages context.store.memory block staged)
    {after : Store} (pages : context.store.memory.pages ≤ after.memory.pages)
    (below : ∀ address, address < block.importBaseOffset.toNat →
      after.memory.bytes address = context.store.memory.bytes address)
    (cache : after.superblockCache = context.store.superblockCache) : Backs after block machine := by
  have serves := stored.serves
  have superblock := stages.superblock
  have image := stages.image
  refine ⟨⟨⟨serves.coherent.accepted.frame pages fun address inside => below address (by omega), ?_⟩,
    ⟨serves.readable.base, serves.readable.room.trans (Nat.mul_le_mul_right _ pages)⟩, ?_⟩, stored.lastTxId,
    stored.certified⟩
  · rw [cache]
    exact serves.coherent.cached
  · rw [← serves.image_eq]
    refine image_congr rfl ?_
    intro position inside
    rw [imageByte, imageByte, below _ (by omega)]

/-- What was staged and a chunk written behind it are the new staged bytes. -/
theorem read_accepted {memory after : Memory} {offset : Nat} {bytes chunk : List UInt8}
    (held : memory.read offset bytes.length = bytes)
    (below : ∀ address, address < offset + bytes.length → after.bytes address = memory.bytes address)
    (written : after.read (offset + bytes.length) chunk.length = chunk) :
    after.read offset (bytes ++ chunk).length = bytes ++ chunk := by
  have first : after.read offset bytes.length = bytes := by
    rw [← held, Memory.length_read]
    exact Memory.read_congr fun address _ inside => below address inside
  rw [List.length_append, Memory.read_add, first, written]

/-- The block after a chunk that ends at `stop`. -/
def chunkWritten (block : Superblock) (stop : Nat) : Superblock :=
  { block with importWrittenUntil := UInt64.ofNat stop }

theorem Stages.accepted {memory : Memory} (stages : Stages memory block staged) {after : Store} {bytes : List UInt8}
    (fits : staged.bytes.length + bytes.length < u64Bound)
    (below : ∀ address, address < block.importBaseOffset.toNat + staged.bytes.length →
      after.memory.bytes address = memory.bytes address)
    (capacity : memory.capacity ≤ after.memory.capacity) (pages : 0 < after.memory.pages)
    (room : bytes = [] ∨ block.importBaseOffset.toNat + staged.bytes.length + bytes.length ≤ after.memory.capacity)
    (written : after.memory.read (block.importBaseOffset.toNat + staged.bytes.length) bytes.length = bytes) :
    Stages ((chunkWritten block (staged.bytes.length + bytes.length)).storedIn after).memory
      (chunkWritten block (staged.bytes.length + bytes.length)).stamped (staged.accept bytes) := by
  have held := read_accepted stages.bytes below written
  have superblock := stages.superblock
  refine ⟨stages.importing, stages.totalSize, stages.expectedChecksum, ?_, superblock, stages.image, ?_, ?_⟩
  · rw [staged.bytes_accept, List.length_append]
    exact UInt64.toNat_ofNat_of_lt' fits
  · have old := stages.room
    rw [staged.bytes_accept, List.length_append, Superblock.storedIn_capacity]
    change block.importBaseOffset.toNat + _ ≤ _
    rcases room with empty | inside
    · rw [empty, List.length_nil]
      omega
    · omega
  · rw [staged.bytes_accept]
    change Memory.read _ block.importBaseOffset.toNat _ = _
    refine Eq.trans (Memory.read_congr ?_) held
    intro address past _
    exact Superblock.storedIn_bytes_past _ pages (superblock.trans past)

theorem Tracks.importChunk (tracks : Tracks context machine) (offset : UInt64) (bytes : List UInt8) :
    Follows machine (.importChunk offset bytes) context := by
  rcases tracks.enter (SqliteVfs.importChunk offset bytes) rfl with refused | entered
  · obtain ⟨error, next, ended, _, kept⟩ := refused
    exact follows_of (Action.bind_of_err _ ended) (.chunkRefused machine _ _ error) kept
  · obtain ⟨block, next, ended, closed, stored⟩ := entered
    have refused : ∀ error, SqliteVfs.importChunk offset bytes context = (.err error, next) →
        Follows machine (.importChunk offset bytes) context := fun error failed =>
      follows_of (Action.bind_of_err _ failed) (.chunkRefused machine _ _ error) (.stored block stored)
    rcases stored.phase_cases closed with idle | open_
    · rw [if_pos (by simp [idle.2])] at ended
      exact refused _ ended
    · obtain ⟨staged, importing, stages⟩ := open_
      rw [if_neg (by simp [stages.importing])] at ended
      by_cases inOrder : offset = block.importWrittenUntil
      · have position : offset.toNat = staged.bytes.length := by rw [inOrder, stages.writtenUntil]
        rw [if_neg (not_not.mpr inOrder), position] at ended
        by_cases fits : staged.bytes.length + bytes.length < u64Bound
        · rw [Action.bind_of_ok _ (checkedAdd_of fits _)] at ended
          by_cases within : block.importTotalSize.toNat < staged.bytes.length + bytes.length
          · rw [if_pos within] at ended
            exact refused _ ended
          · have addressable : block.importBaseOffset.toNat + staged.bytes.length < u64Bound :=
              Nat.lt_of_le_of_lt stages.room next.store.memory.addressable
            rw [if_neg within, Action.bind_of_ok _ (checkedAdd_of addressable _)] at ended
            rcases write_cases next.store (block.importBaseOffset.toNat + staged.bytes.length) bytes with
              done | failed
            · obtain ⟨after, wrote, pages, below, cache, room, written⟩ := done
              have backs := stored.written stages pages (fun address inside => below address (by omega)) cache
              have accepted := stages.accepted fits below (Nat.mul_le_mul_right _ pages)
                backs.serves.coherent.accepted.pages room written
              have record : SameRecord block (chunkWritten block (staged.bytes.length + bytes.length)) :=
                ⟨⟨rfl, rfl, rfl, rfl, rfl⟩, rfl, rfl, rfl⟩
              have middle : Backs ({ next with store := after } : Context).store block machine := backs
              obtain ⟨stores, last⟩ := middle.storeEdited record (.importing _ accepted closed)
              rw [Action.bind_of_ok _ (onContextStore_of wrote)] at ended
              rw [stages.totalSize] at within
              exact follows_of (Action.bind_of_ok _ (ended.trans stores))
                (.chunkAccepted machine staged importing offset bytes position (Nat.not_lt.mp within))
                (.stored _ last)
            · obtain ⟨error, after, wrote, same⟩ := failed
              rw [Action.bind_of_err _ (onContextStore_of wrote)] at ended
              exact follows_of (Action.bind_of_err _ ended) (.chunkRefused machine _ _ error)
                (.stored block (stored.same closed same))
        · rw [Action.bind_of_err _ (checkedAdd_overflow fits _)] at ended
          exact refused _ ended
      · rw [if_pos inOrder] at ended
        exact refused _ ended

theorem sameRecord_importCleared (block : Superblock) : SameRecord block (importCleared block) := by
  refine ⟨⟨rfl, rfl, rfl, rfl, rfl⟩, rfl, rfl, ?_⟩
  simp only [Superblock.isChecksumStale, importCleared]
  rw [clear_and_other _ (by decide)]

theorem Stored.clearImport (stored : Stored context block machine) (closed : context.overlay = none) :
    onContextStore (SqliteVfs.clearImport block) context =
        (.ok (), { context with store := (importCleared block).storedIn context.store }) ∧
      Stored { context with store := (importCleared block).storedIn context.store } (importCleared block).stamped
        { machine with phase := .idle } :=
  stored.toBacks.storeEdited (sameRecord_importCleared block) (.idle (idle_importCleared block) closed)

theorem fresh_importFinished (block : Superblock) (checksum : UInt64) :
    (importFinished block checksum).isChecksumStale = false := by
  simp only [Superblock.isChecksumStale, importFinished, Superblock.clearChecksumRefresh]
  rw [clear_and_other _ (by decide), clear_and_self]
  rfl

/-- The staged bytes become the file. -/
theorem Stored.importFinished (stored : Stored context block machine) (closed : context.overlay = none)
    (stages : Stages context.store.memory block staged) (complete : staged.Complete) :
    onContextStore (SqliteVfs.importFinished block staged.expectedChecksum).store context = (.ok (),
        { context with store := (SqliteVfs.importFinished block staged.expectedChecksum).storedIn context.store }) ∧
      Stored { context with store := (SqliteVfs.importFinished block staged.expectedChecksum).storedIn context.store }
        (SqliteVfs.importFinished block staged.expectedChecksum).stamped
        { machine with file := staged.bytes, checksum := some staged.expectedChecksum, phase := .idle } := by
  have coherent := stored.serves.coherent
  have pages := coherent.accepted.pages
  have size : block.importTotalSize.toNat = staged.bytes.length := by rw [stages.totalSize, complete]
  have valid : (SqliteVfs.importFinished block staged.expectedChecksum).validateZeroExtents = .ok () := by
    rw [Superblock.validateZeroExtents_iff]
    exact ⟨Nat.zero_le _, Data.Interval.normal_nil⟩
  refine ⟨onContextStore_of (Superblock.store_of pages valid), ⟨⟨?_, ⟨stages.superblock, ?_⟩, ?_⟩,
    stored.lastTxId, ?_⟩, .idle (idle_importFinished block staged.expectedChecksum) closed⟩
  · exact Superblock.storedIn_coherent pages coherent.checked.magic rfl valid
  · change block.importBaseOffset.toNat + block.importTotalSize.toNat ≤ context.store.memory.capacity
    rw [size]
    exact stages.room
  · -- No page is masked, so the image is read from the staged bytes as they are.
    have read : image ((SqliteVfs.importFinished block staged.expectedChecksum).storedIn context.store).memory
        (SqliteVfs.importFinished block staged.expectedChecksum).stamped =
        Memory.read ((SqliteVfs.importFinished block staged.expectedChecksum).storedIn context.store).memory
          block.importBaseOffset.toNat block.importTotalSize.toNat := rfl
    rw [read, size]
    refine Eq.trans (Memory.read_congr ?_) stages.bytes
    intro address past _
    exact Superblock.storedIn_bytes_past _ pages (stages.superblock.trans past)
  · intro checksum same
    obtain rfl := Option.some.inj same
    exact ⟨rfl, fresh_importFinished block staged.expectedChecksum⟩

theorem Tracks.finishImport (tracks : Tracks context machine) : Follows machine .finishImport context := by
  rcases tracks.enter SqliteVfs.finishImport rfl with refused | entered
  · obtain ⟨error, next, ended, notImporting, kept⟩ := refused
    exact follows_of (Action.bind_of_err _ ended)
      (.finishRefused machine error fun staged importing => absurd importing (notImporting staged)) kept
  · obtain ⟨block, next, ended, closed, stored⟩ := entered
    rcases stored.phase_cases closed with idle | open_
    · rw [if_pos (by simp [idle.2])] at ended
      refine follows_of (Action.bind_of_err _ ended) (.finishRefused machine _ ?_) (.stored block stored)
      intro staged importing
      rw [idle.1] at importing
      cases importing
    · obtain ⟨staged, importing, stages⟩ := open_
      have completeIff : staged.Complete ↔ block.importWrittenUntil = block.importTotalSize := by
        rw [Staged.Complete, ← UInt64.toNat_inj, stages.writtenUntil, stages.totalSize]
      rw [if_neg (by simp [stages.importing])] at ended
      by_cases whole : block.importWrittenUntil = block.importTotalSize
      · have complete := completeIff.mpr whole
        have size : block.importTotalSize.toNat = staged.bytes.length := by rw [stages.totalSize, complete]
        have hashed : onContextStore (checksumPhysicalRange block.importBaseOffset.toNat
            block.importTotalSize.toNat) next = (.ok (fnv1a64 staged.bytes), next) := by
          rw [size]
          refine onContextStore_of ((checksumPhysicalRange_of stages.room).trans ?_)
          rw [stages.bytes]
        rw [if_neg (not_not.mpr whole), Action.bind_of_ok _ hashed, stages.expectedChecksum] at ended
        by_cases matching : fnv1a64 staged.bytes = staged.expectedChecksum
        · obtain ⟨stores, last⟩ := stored.importFinished closed stages complete
          rw [if_neg (not_not.mpr matching), matching] at ended
          exact follows_of (Action.bind_of_ok _ (ended.trans stores))
            (.finished machine staged importing complete matching) (.stored _ last)
        · obtain ⟨clears, last⟩ := stored.clearImport closed
          rw [if_pos matching, Action.bind_of_ok _ clears] at ended
          exact follows_of (Action.bind_of_err _ ended) (.mismatched machine staged importing complete matching)
            (.stored _ last)
      · rw [if_pos whole] at ended
        refine follows_of (Action.bind_of_err _ ended) (.finishRefused machine _ ?_) (.stored block stored)
        intro other same
        rw [importing] at same
        obtain rfl := Phase.importing.inj same
        exact fun complete => whole (completeIff.mp complete)

theorem Tracks.cancelImport (tracks : Tracks context machine) : Follows machine .cancelImport context := by
  rcases tracks.enter SqliteVfs.cancelImport rfl with refused | entered
  · obtain ⟨error, next, ended, notImporting, kept⟩ := refused
    exact follows_of (Action.bind_of_err _ ended) (.cancelRefused machine error notImporting) kept
  · obtain ⟨block, next, ended, closed, stored⟩ := entered
    rcases stored.phase_cases closed with idle | open_
    · rw [if_pos (by simp [idle.2])] at ended
      refine follows_of (Action.bind_of_err _ ended) (.cancelRefused machine _ ?_) (.stored block stored)
      intro staged importing
      rw [idle.1] at importing
      cases importing
    · obtain ⟨staged, importing, stages⟩ := open_
      obtain ⟨clears, last⟩ := stored.clearImport closed
      rw [if_neg (by simp [stages.importing])] at ended
      exact follows_of (Action.bind_of_ok _ (ended.trans clears)) (.cancelled machine staged importing)
        (.stored _ last)

/-! ## Steps of a transaction -/

theorem Tracks.beginUpdate (tracks : Tracks context machine) : Follows machine .beginUpdate context := by
  rcases tracks.load_cases with loaded | refused
  · obtain ⟨block, after, ended, stored⟩ := loaded
    have layout : ¬ block.layoutVersion ≠ currentLayoutVersion :=
      not_not.mpr stored.serves.coherent.checked.layoutVersion
    have body : SqliteVfs.beginUpdate context =
        (if block.isImporting then Action.fail .importAlreadyStarted
          else do beginOverlay block.dbSize.toNat; pure block.dbSize : ContextM UInt64)
        { context with store := after } := by
      rw [SqliteVfs.beginUpdate, Action.bind_of_ok _ (onContextStore_of ended), if_neg layout]
    have inPhase := stored.phase
    generalize phaseEq : machine.phase = phase at inPhase
    cases inPhase with
    | idle quiet closed =>
        rw [if_neg (by simp [quiet]), Action.bind_of_ok _ (beginOverlay_of_none closed _)] at body
        refine follows_of (Action.bind_of_ok _ body) (.updateBegun machine _ phaseEq stored.serves.size_eq.symm)
          (.stored block ⟨⟨stored.serves, stored.lastTxId, stored.certified⟩, ?_⟩)
        refine .updating machine.file _ quiet rfl ?_
        rw [← stored.serves.size_eq]
        exact Overlay.holds_new stored.serves
    | importing staged stages closed =>
        rw [if_pos stages.importing] at body
        exact follows_of (Action.bind_of_err _ body) (.updateRefused machine _ fun _ _ => rfl) (.stored block stored)
    | updating view overlay quiet active holds =>
        rw [if_neg (by simp [quiet]), Action.bind_of_err _ (beginOverlay_of_some active _)] at body
        refine follows_of (Action.bind_of_err _ body) (.updateRefused machine _ ?_) (.stored block stored)
        intro staged importing
        rw [phaseEq] at importing
        cases importing
  · obtain ⟨error, after, ended, idle, kept⟩ := refused
    have failed : SqliteVfs.beginUpdate context = (.err error, { context with store := after }) :=
      Action.bind_of_err _ (onContextStore_of ended)
    refine follows_of (Action.bind_of_err _ failed) (.updateRefused machine error ?_) kept
    intro staged importing
    rw [idle] at importing
    cases importing

/-- An open overlay stands for the view of a transaction. -/
theorem Tracks.updating (tracks : Tracks context machine) {overlay : Overlay}
    (active : context.overlay = some overlay) :
    ∃ block view, machine.phase = .updating view ∧ block.isImporting = false ∧
      Backs context.store block machine ∧ Overlay.Holds block machine.file ⟨overlay, context.store⟩ view := by
  cases tracks with
  | unused pristine closed same =>
      rw [active] at closed
      cases closed
  | stored block stored =>
      have inPhase := stored.phase
      generalize phaseEq : machine.phase = phase at inPhase
      cases inPhase with
      | idle quiet closed =>
          rw [active] at closed
          cases closed
      | importing staged stages closed =>
          rw [active] at closed
          cases closed
      | updating view found quiet same holds =>
          rw [active] at same
          obtain rfl := Option.some.inj same
          exact ⟨block, view, rfl, quiet, stored.toBacks, holds⟩

theorem Tracks.file (tracks : Tracks context machine) (call : OverlayCall)
    (applies : context.overlay.isSome = true) : Follows machine (.file call) context := by
  obtain ⟨overlay, active⟩ := Option.isSome_iff_exists.mp applies
  obtain ⟨block, view, updating, quiet, backs, holds⟩ := tracks.updating active
  obtain ⟨after, ended, kept⟩ := call.perform_of holds
  have called := call.onContext_of_overlay active
  rw [ended] at called
  have tracked : Tracks ⟨after.store, some after.self⟩ { machine with phase := .updating (call.leftBy view) } :=
    .stored block ⟨⟨kept.showing.serves, backs.lastTxId, backs.certified⟩,
      .updating _ after.self quiet rfl kept⟩
  cases outcome : call.outcomeOn view with
  | ok answer =>
      rw [outcome] at called
      exact follows_of (Action.bind_of_ok _ called) (.answered machine view updating call answer outcome) tracked
  | err error =>
      rw [outcome] at called
      exact follows_of (Action.bind_of_err _ called) (.overflowed machine view updating call error outcome) tracked
  | panic =>
      rw [OverlayCall.outcomeOn] at outcome
      split at outcome <;> cases outcome

theorem Tracks.not_updating (tracks : Tracks context machine) (closed : context.overlay = none) :
    ∀ view, machine.phase ≠ .updating view := by
  intro view updating
  cases tracks with
  | unused pristine _ same =>
      rw [same] at updating
      cases updating
  | stored block stored =>
      rcases stored.phase_cases closed with idle | open_
      · rw [idle.1] at updating
        cases updating
      · obtain ⟨staged, importing, _⟩ := open_
        rw [importing] at updating
        cases updating

/-- Without its overlay a context is between transactions. -/
theorem Backs.idle {store : Store} (backs : Backs store block machine) (quiet : block.isImporting = false) :
    Stored ⟨store, none⟩ block { machine with phase := .idle } :=
  ⟨⟨backs.serves, backs.lastTxId, backs.certified⟩, .idle quiet rfl⟩

/-- The view of a transaction becomes the file, under the next transaction id. -/
theorem Backs.published (backs : Backs context.store block machine) (quiet : block.isImporting = false)
    {overlay : Overlay} {view : List UInt8} (holds : Overlay.Holds block machine.file ⟨overlay, context.store⟩ view) :
    (∃ after, commitOverlay overlay true context.store = (.ok (), after) ∧
      Tracks ⟨after, none⟩
        { file := view, lastTxId := Superblock.saturatingSucc machine.lastTxId, checksum := none, phase := .idle }) ∨
    (∃ error after, commitOverlay overlay true context.store = (.err error, after) ∧
      Tracks ⟨after, none⟩ { machine with phase := .idle }) := by
  have serves := backs.serves
  have shows : overlay.Shows machine.file view.length fun position => view.getD position 0 := holds.showing.shows
  have size : overlay.size = view.length := holds.size
  have bounded : overlay.size < u64Bound := by
    rw [size]
    exact holds.bounded
  rcases commitOverlay_cases serves.coherent serves.readable.base shows.pageLength bounded true with done | failed
  · obtain ⟨zeroExtents, grown, prepared, ended⟩ := done
    rw [← size] at shows
    refine .inl ⟨_, ended, .stored _ ⟨⟨publishedIn_serves serves true prepared shows size bounded, ?_, ?_⟩, ?_⟩⟩
    · exact congrArg Superblock.saturatingSucc backs.lastTxId
    · intro checksum certified
      cases certified
    · refine .idle ?_ rfl
      exact (sameImport_committedBlock block true overlay.size zeroExtents).isImporting.trans quiet
  · obtain ⟨error, after, ended, memory, cache⟩ := failed
    refine .inr ⟨error, after, ended, .stored block ⟨⟨⟨⟨?_, .inr cache⟩, ?_, ?_⟩, backs.lastTxId, backs.certified⟩,
      .idle quiet rfl⟩⟩
    · rw [memory]
      exact serves.coherent.accepted
    · rw [memory]
      exact serves.readable
    · rw [memory]
      exact serves.image_eq

theorem Tracks.commitUpdate (tracks : Tracks context machine) : Follows machine .commitUpdate context := by
  cases active : context.overlay with
  | none =>
      exact follows_of (Action.bind_of_ok _ (commitUpdate_of_none active))
        (.nothingToCommit machine (tracks.not_updating active)) tracks
  | some overlay =>
      obtain ⟨block, view, updating, quiet, backs, holds⟩ := tracks.updating active
      have body : SqliteVfs.commitUpdate context =
          (if overlay.isEmpty then pure () else onContextStore (commitOverlay overlay true) : ContextM Unit)
            ⟨context.store, none⟩ := by
        rw [SqliteVfs.commitUpdate, Action.read_bind_apply]
        simp only [active]
        rfl
      by_cases empty : overlay.isEmpty = true
      · rw [if_pos empty] at body
        exact follows_of (Action.bind_of_ok _ body)
          (.committedNothing machine view updating (holds.file_eq empty))
          (.stored block (backs.idle quiet))
      · rw [if_neg empty] at body
        have closed : Backs (⟨context.store, none⟩ : Context).store block machine := backs
        rcases closed.published quiet holds with done | failed
        · obtain ⟨after, ended, tracked⟩ := done
          exact follows_of (Action.bind_of_ok _ (body.trans (onContextStore_of ended)))
            (.committed machine view updating) tracked
        · obtain ⟨error, after, ended, tracked⟩ := failed
          exact follows_of (Action.bind_of_err _ (body.trans (onContextStore_of ended)))
            (.commitFailed machine view updating error) tracked

theorem Tracks.rollbackUpdate (tracks : Tracks context machine) : Follows machine .rollbackUpdate context := by
  cases active : context.overlay with
  | none =>
      have same : ({ context with overlay := none } : Context) = context := by rw [← active]
      have body : SqliteVfs.rollbackUpdate context = (.ok (), context) := by
        rw [SqliteVfs.rollbackUpdate, setOverlay, Action.modify_apply, same]
      exact follows_of (Action.bind_of_ok _ body) (.nothingToRollBack machine (tracks.not_updating active)) tracks
  | some overlay =>
      obtain ⟨block, view, updating, quiet, backs, _⟩ := tracks.updating active
      have body : SqliteVfs.rollbackUpdate context = (.ok (), ⟨context.store, none⟩) := rfl
      exact follows_of (Action.bind_of_ok _ body) (.rolledBack machine view updating)
        (.stored block (backs.idle quiet))

/-! ## Runs -/

theorem Tracks.step (tracks : Tracks context machine) (call : ImportCall) (applies : call.Applies context) :
    Follows machine call context := by
  cases call with
  | beginImport totalSize expectedChecksum => exact tracks.beginImport _ _
  | importChunk offset bytes => exact tracks.importChunk _ _
  | finishImport => exact tracks.finishImport
  | cancelImport => exact tracks.cancelImport
  | beginUpdate => exact tracks.beginUpdate
  | file call => exact tracks.file call applies
  | commitUpdate => exact tracks.commitUpdate
  | rollbackUpdate => exact tracks.rollbackUpdate

theorem Tracks.run {trace : List (ImportCall × Outcome StableMemoryError ImportCall.Answer)} {final : Context}
    (executes : Executes context trace final) (tracks : Tracks context machine) :
    ∃ last, machine.Run trace last ∧ Tracks final last := by
  induction executes generalizing machine with
  | nil context => exact ⟨machine, .nil machine, tracks⟩
  | cons call applies _ ih =>
      obtain ⟨after, step, kept⟩ := tracks.step call applies
      obtain ⟨last, later, final⟩ := ih kept
      exact ⟨last, .cons step later, final⟩

/-- What can be seen of a context is the state of the machine: the committed
file, its size, transaction and certified checksum, and what is open. -/
structure Shown (context : Context) (machine : ImportMachine) : Prop where
  loads : 0 < context.store.memory.pages → ∃ block after, Superblock.load context.store = (.ok block, after)
  file : ∀ block after, Superblock.load context.store = (.ok block, after) →
    block.dbSize.toNat = machine.file.length ∧ image after.memory block = machine.file ∧
    ∀ offset count, readBaseAtWithBlock block offset count after =
      (.ok (readFrom 0 machine.file offset count, decide (count = 0 ∨ offset + count ≤ machine.file.length)), after)
  lastTxId : ∀ block after, Superblock.load context.store = (.ok block, after) → block.lastTxId = machine.lastTxId
  checksum : ∀ block after checksum, Superblock.load context.store = (.ok block, after) →
    machine.checksum = some checksum → block.checksum = checksum ∧ block.isChecksumStale = false
  importing : ∀ block after, Superblock.load context.store = (.ok block, after) →
    (block.isImporting = true ↔ ∃ staged, machine.phase = .importing staged)
  updating : context.overlay.isSome = true ↔ ∃ view, machine.phase = .updating view

theorem Stored.isImporting_iff (stored : Stored context block machine) :
    block.isImporting = true ↔ ∃ staged, machine.phase = .importing staged := by
  have inPhase := stored.phase
  generalize machine.phase = phase at inPhase
  cases inPhase with
  | idle quiet closed => simp [quiet]
  | importing staged stages closed => simp [stages.importing]
  | updating view overlay quiet active holds => simp [quiet]

theorem Tracks.shown (tracks : Tracks context machine) : Shown context machine := by
  have loaded : ∀ block after, Superblock.load context.store = (.ok block, after) →
      Stored { context with store := after } block machine := by
    intro block after load
    rcases tracks.load_cases with found | refused
    · obtain ⟨other, last, ended, stored⟩ := found
      rw [load] at ended
      obtain ⟨sameBlock, rfl⟩ := Prod.mk.inj ended
      obtain rfl := Outcome.ok.inj sameBlock
      exact stored
    · obtain ⟨error, last, ended, _⟩ := refused
      rw [load] at ended
      cases ended
  refine ⟨?_, ?_, ?_, ?_, ?_, ?_⟩
  · intro used
    cases tracks with
    | unused pristine _ _ =>
        rw [pristine.pages] at used
        omega
    | stored block stored => exact ⟨block, _, stored.serves.coherent.load_eq⟩
  · intro block after load
    have serves := (loaded block after load).serves
    refine ⟨serves.size_eq.symm, serves.image_eq, ?_⟩
    intro offset count
    rw [readBaseAtWithBlock_of serves.readable, serves.image_eq, serves.size_eq]
  · exact fun block after load => (loaded block after load).lastTxId
  · exact fun block after checksum load => (loaded block after load).certified checksum
  · exact fun block after load => (loaded block after load).isImporting_iff
  · cases active : context.overlay with
    | none => simpa using tracks.not_updating active
    | some overlay =>
        obtain ⟨block, view, updating, _⟩ := tracks.updating active
        simp [updating]

/-- A committed state in which no import is open, however it was reached. -/
theorem tracks_committed {grants : Nat → Bool} {calls : List BlobCall} {loaded : Store}
    (closed : (BlobCall.runAll calls (Context.fresh grants)).overlay = none)
    (load : Superblock.load (BlobCall.runAll calls (Context.fresh grants)).store = (.ok block, loaded))
    (quiet : block.isImporting = false) :
    Tracks (BlobCall.runAll calls (Context.fresh grants))
      ⟨image loaded.memory block, block.lastTxId, none, .idle⟩ := by
  have sane : Sane (BlobCall.runAll calls (Context.fresh grants)) := sane_runAll calls (usable_fresh grants)
  cases sane with
  | unused pristine overlay =>
      rcases pristine.load_cases with fresh | refused
      · obtain ⟨after, ended, serves, _⟩ := fresh
        rw [load] at ended
        obtain ⟨sameBlock, rfl⟩ := Prod.mk.inj ended
        obtain rfl := Outcome.ok.inj sameBlock
        rw [serves.image_eq]
        exact .unused pristine closed rfl
      · obtain ⟨error, after, ended, _⟩ := refused
        rw [load] at ended
        cases ended
  | live found base live _ =>
      have ended := live.serves.coherent.load_eq
      rw [load] at ended
      obtain ⟨sameBlock, rfl⟩ := Prod.mk.inj ended
      obtain rfl := Outcome.ok.inj sameBlock
      have serves := live.serves
      rw [← serves.image_eq] at serves
      refine .stored block ⟨⟨serves, rfl, ?_⟩, .idle quiet closed⟩
      intro checksum certified
      cases certified

/-- From any committed state that any calls reached, every sequence of import
and transaction calls is a run of the machine, whatever growth is refused. -/
theorem imports_run_the_machine (grants : Nat → Bool) (calls : List BlobCall) (block : Superblock) (loaded : Store)
    (closed : (BlobCall.runAll calls (Context.fresh grants)).overlay = none)
    (load : Superblock.load (BlobCall.runAll calls (Context.fresh grants)).store = (.ok block, loaded))
    (quiet : block.isImporting = false)
    (trace : List (ImportCall × Outcome StableMemoryError ImportCall.Answer)) (final : Context)
    (executes : Executes (BlobCall.runAll calls (Context.fresh grants)) trace final) :
    ∃ last, ImportMachine.Run ⟨image loaded.memory block, block.lastTxId, none, .idle⟩ trace last ∧
      Shown final last := by
  obtain ⟨last, run, tracks⟩ := (tracks_committed closed load quiet).run executes
  exact ⟨last, run, tracks.shown⟩

/-- An import of three bytes that is given up after the first of them. -/
theorem imports_run_the_machine_until_cancelled :
    let start := BlobCall.runAll [.load] (Context.fresh fun _ => true)
    let begun := ImportCall.perform (.beginImport 3 7) start
    let written := ImportCall.perform (.importChunk 0 [65]) begun.2
    let cancelled := ImportCall.perform .cancelImport written.2
    ∃ last, ImportMachine.Run .unused [(.beginImport 3 7, begun.1), (.importChunk 0 [65], written.1),
      (.cancelImport, cancelled.1)] last ∧ Shown cancelled.2 last := by
  intro start begun written cancelled
  have pristine : Pristine (Context.fresh fun _ => true).store := ⟨rfl, rfl⟩
  obtain ⟨after, ended, serves⟩ := pristine.load_granted rfl
  have opened : start = ⟨after, none⟩ := by
    change BlobCall.after (Context.fresh fun _ => true) .load = _
    rw [BlobCall.after, BlobCall.perform, BlobCall.ignore_after, onContextStore_of ended]
    rfl
  have load : Superblock.load start.store =
      (.ok Superblock.fresh, { after with superblockCache := some Superblock.fresh }) := by
    rw [opened]
    exact serves.coherent.load_eq
  have closed : start.overlay = none := by rw [opened]
  have executes : Executes start [(.beginImport 3 7, begun.1), (.importChunk 0 [65], written.1),
      (.cancelImport, cancelled.1)] cancelled.2 :=
    .cons _ True.intro (.cons _ True.intro (.cons _ True.intro (.nil _)))
  have run := imports_run_the_machine (fun _ => true) [.load] Superblock.fresh _ closed load rfl _ _ executes
  rw [serves.warm.image_eq] at run
  exact run

end IcSqliteVfs.SqliteVfs
