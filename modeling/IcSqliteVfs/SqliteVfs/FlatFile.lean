import IcSqliteVfs.SqliteVfs.StableBlob

namespace IcSqliteVfs.SqliteVfs

open IcSqliteVfs.Data IcSqliteVfs.Semantics IcSqliteVfs.Stable

/-! # A context as a flat file

Steps that leave no overlay behind: whole transactions, and reads, writes and
truncates made directly.
-/

namespace OverlayCall

/-- The call through `stable_blob`, which goes to the overlay if one is active. -/
def onContext : OverlayCall → ContextM Answer
  | .read offset count => do
      let answer ← SqliteVfs.readAt offset.toNat count
      pure (some answer)
  | .write offset bytes => do
      SqliteVfs.writeAt offset.toNat bytes
      pure none
  | .truncate size => do
      SqliteVfs.truncate size.toNat
      pure none

def allOnContext : List OverlayCall → Context → List (Outcome StableMemoryError Answer) × Context
  | [], context => ([], context)
  | call :: rest, context =>
      let (outcome, next) := call.onContext context
      let (outcomes, last) := allOnContext rest next
      (outcome :: outcomes, last)

end OverlayCall

inductive Finish where
  | commit
  | rollback
deriving DecidableEq, Repr

def Finish.onContext : Finish → ContextM Unit
  | .commit => commitUpdate
  | .rollback => rollbackUpdate

inductive FileStep where
  | direct (call : OverlayCall)
  | transaction (calls : List OverlayCall) (finish : Finish)
deriving DecidableEq, Repr

/-- What the calls of a step returned; `refused` is a `begin_update` without an overlay. -/
inductive FileStep.Result where
  | direct (outcome : Outcome StableMemoryError OverlayCall.Answer)
  | refused (error : Option StableMemoryError)
  | transaction (outcomes : List (Outcome StableMemoryError OverlayCall.Answer))
      (finish : Outcome StableMemoryError Unit)

namespace FileStep

def run : FileStep → Context → Result × Context
  | .direct call, context =>
      let (outcome, next) := call.onContext context
      (.direct outcome, next)
  | .transaction calls finish, context =>
      match beginUpdate context with
      | (.ok _, begun) =>
          let (outcomes, middle) := OverlayCall.allOnContext calls begun
          let (outcome, last) := finish.onContext middle
          (.transaction outcomes outcome, last)
      | (.err error, next) => (.refused (some error), next)
      | (.panic, next) => (.refused none, next)

def runAll : List FileStep → Context → List Result × Context
  | [], context => ([], context)
  | step :: rest, context =>
      let (result, next) := step.run context
      let (results, last) := runAll rest next
      (result :: results, last)

/-- Every call made inside the transaction returned `Ok`. -/
def Result.CallsAccepted : Result → Prop
  | .transaction outcomes _ => ∀ outcome ∈ outcomes, outcome.isOk = true
  | _ => True

/-- Nothing unwound. -/
def Result.Returned : Result → Prop
  | .direct outcome => outcome ≠ .panic
  | .refused error => error ≠ none
  | .transaction outcomes finish => (∀ outcome ∈ outcomes, outcome ≠ .panic) ∧ finish ≠ .panic

/-- The flat file: a committed transaction and a direct call that returned `Ok`
change it, every other step is the identity. -/
def applyTo (file : List UInt8) : FileStep → Result → List UInt8
  | .direct call, .direct (.ok _) => call.applyTo file
  | .transaction calls .commit, .transaction _ (.ok _) => calls.foldl OverlayCall.applyTo file
  | _, _ => file

def fileAfter : List UInt8 → List FileStep → List Result → List UInt8
  | file, step :: steps, result :: results => fileAfter (step.applyTo file result) steps results
  | file, _, _ => file

end FileStep

/-- What a committed state answers about its file, from the cache or from the
bytes: the loaded block has its size and page count, and reads through it are
reads of the file.  Only the very first load of an empty memory may fail. -/
structure Answers (store : Store) (file : List UInt8) : Prop where
  loaded : 0 < store.memory.pages → ∃ block after, Superblock.load store = (.ok block, after)
  answers : ∀ block after, Superblock.load store = (.ok block, after) →
    block.dbSize.toNat = file.length ∧ block.pageCount.toNat = pageCountForSize file.length ∧
    (∀ offset count, readBaseAtWithBlock block offset count after =
      (.ok (readFrom 0 file offset count, decide (count = 0 ∨ offset + count ≤ file.length)), after)) ∧
    (∀ pageNo, pageNo * sqlitePageSize < u64Bound → (readBasePage pageNo after).1 =
      .ok (readFrom 0 file (pageNo * sqlitePageSize) sqlitePageSize))

variable {block : Superblock} {base file : List UInt8} {store : Store} {context : Context}

theorem Committed.answers (committed : Committed store file) : Answers store file where
  loaded := by
    intro used
    cases committed with
    | pristine unused _ =>
        rw [unused.pages] at used
        omega
    | stored block serves _ => exact ⟨block, _, serves.coherent.load_eq⟩
  answers := by
    intro block after ended
    rcases committed.load_cases with loaded | refused
    · obtain ⟨found, next, foundEnded, serves, pages⟩ := loaded
      rw [ended] at foundEnded
      obtain ⟨sameBlock, rfl⟩ := Prod.mk.inj foundEnded
      obtain rfl := Outcome.ok.inj sameBlock
      have size := serves.size_eq
      refine ⟨size.symm, by rw [size]; exact pages, ?_, ?_⟩
      · intro offset count
        rw [readBaseAtWithBlock_of serves.readable, serves.image_eq, size]
      · intro pageNo fits
        rw [serves.readBasePage_eq fits]
    · obtain ⟨error, next, foundEnded, _⟩ := refused
      rw [ended] at foundEnded
      cases foundEnded

theorem Committed.cold (committed : Committed store file) :
    Committed { store with superblockCache := none } file := by
  cases committed with
  | pristine unused empty => exact .pristine ⟨unused.pages, rfl⟩ empty
  | stored block serves pages => exact .stored block ⟨serves.coherent.cold, serves.readable, serves.image_eq⟩ pages

/-- A context with no overlay whose committed image is this file. -/
structure Idle (context : Context) (file : List UInt8) : Prop where
  committed : Committed context.store file
  overlay : context.overlay = none

/-- A context with an overlay on `base` that stands for `file`. -/
inductive Updating (context : Context) (base file : List UInt8) : Prop where
  | intro (block : Superblock) (overlay : Overlay) (active : context.overlay = some overlay)
      (holds : Overlay.Holds block base ⟨overlay, context.store⟩ file)
      (pages : block.pageCount.toNat = pageCountForSize block.dbSize.toNat)

/-! ## Transactions -/

theorem beginUpdate_of (idle : Idle context file) :
    (∃ size begun, beginUpdate context = (.ok size, begun) ∧ Updating begun file file) ∨
    (∃ error next, beginUpdate context = (.err error, next) ∧ Idle next file) := by
  obtain ⟨committed, overlay⟩ := idle
  rw [beginUpdate]
  rcases committed.load_cases with loaded | refused
  · obtain ⟨block, after, ended, serves, pages⟩ := loaded
    have layout : ¬ block.layoutVersion ≠ currentLayoutVersion :=
      not_not.mpr serves.coherent.checked.layoutVersion
    rw [Action.bind_of_ok _ (onContextStore_of ended), if_neg layout]
    by_cases importing : block.isImporting = true
    · rw [if_pos importing]
      exact .inr ⟨_, _, rfl, .stored block serves pages, overlay⟩
    · have closed : ({ context with store := after } : Context).overlay = none := overlay
      rw [if_neg importing, Action.bind_of_ok _ (beginOverlay_of_none closed _)]
      refine .inl ⟨_, _, rfl, .intro block (Overlay.new block.dbSize.toNat) rfl ?_ pages⟩
      rw [← serves.size_eq]
      exact Overlay.holds_new serves
  · obtain ⟨error, after, ended, kept⟩ := refused
    exact .inr ⟨error, _, Action.bind_of_err _ (onContextStore_of ended), kept, overlay⟩

theorem OverlayCall.onContext_of_overlay {overlay : Overlay} (active : context.overlay = some overlay)
    (call : OverlayCall) :
    call.onContext context =
      ((call.perform ⟨overlay, context.store⟩).1,
        ⟨(call.perform ⟨overlay, context.store⟩).2.store, some (call.perform ⟨overlay, context.store⟩).2.self⟩) := by
  cases call with
  | read offset count =>
      rw [onContext, perform, Action.bind_apply, SqliteVfs.readAt, Action.read_bind_apply]
      simp only [active, onOverlay, Action.bind_apply]
      cases Overlay.readAt offset.toNat count ⟨overlay, context.store⟩ with
      | mk outcome frame => cases outcome <;> rfl
  | write offset bytes =>
      rw [onContext, perform, Action.bind_apply, SqliteVfs.writeAt, Action.read_bind_apply]
      simp only [active, onOverlay, Action.bind_apply]
      cases Overlay.writeAt offset.toNat bytes ⟨overlay, context.store⟩ with
      | mk outcome frame => cases outcome <;> rfl
  | truncate size =>
      rw [onContext, perform, Action.bind_apply, SqliteVfs.truncate, Action.read_bind_apply]
      simp only [active, onOverlay, Action.bind_apply]
      cases Overlay.truncate size.toNat ⟨overlay, context.store⟩ with
      | mk outcome frame => cases outcome <;> rfl

theorem OverlayCall.allOnContext_of (calls : List OverlayCall) (updating : Updating context base file) :
    (allOnContext calls context).1 = outcomesOn file calls ∧
      Updating (allOnContext calls context).2 base (calls.foldl leftBy file) := by
  induction calls generalizing context file with
  | nil => exact ⟨rfl, updating⟩
  | cons call rest ih =>
      obtain ⟨block, overlay, active, holds, pages⟩ := updating
      obtain ⟨after, ended, kept⟩ := perform_of call holds
      have stepped := onContext_of_overlay active call
      rw [ended] at stepped
      obtain ⟨outcomes, final⟩ := ih (.intro block after.self rfl kept pages :
        Updating ⟨after.store, some after.self⟩ base (call.leftBy file))
      simp only [allOnContext, stepped, outcomesOn, outcomes]
      exact ⟨trivial, final⟩

/-- Without an error the calls leave what they make of the plain file. -/
theorem OverlayCall.foldl_leftBy (calls : List OverlayCall) (file : List UInt8)
    (accepted : ∀ outcome ∈ outcomesOn file calls, outcome.isOk = true) :
    calls.foldl leftBy file = calls.foldl applyTo file := by
  induction calls generalizing file with
  | nil => rfl
  | cons call rest ih =>
      have clear : ¬ call.Overflows file.length := by
        intro past
        have first := accepted (call.outcomeOn file) (by rw [outcomesOn]; exact List.mem_cons_self)
        rw [outcomeOn, if_pos past] at first
        cases first
      have left : call.leftBy file = call.applyTo file := if_neg clear
      rw [List.foldl_cons, List.foldl_cons, left]
      apply ih
      intro outcome member
      apply accepted outcome
      rw [outcomesOn, left]
      exact List.mem_cons_of_mem _ member

theorem OverlayCall.outcomesOn_returned (calls : List OverlayCall) (file : List UInt8) :
    ∀ outcome ∈ outcomesOn file calls, outcome ≠ .panic := by
  induction calls generalizing file with
  | nil =>
      intro outcome member
      cases member
  | cons call rest ih =>
      intro outcome member
      rcases List.mem_cons.mp member with here | there
      · rw [here, outcomeOn]
        split <;> simp
      · exact ih _ outcome there

theorem commitUpdate_of (updating : Updating context base file) :
    (∃ after, commitUpdate context = (.ok (), after) ∧ Idle after file) ∨
    (∃ error after, commitUpdate context = (.err error, after) ∧ Idle after base) := by
  obtain ⟨block, overlay, active, holds, pages⟩ := updating
  rw [commitUpdate, Action.read_bind_apply]
  simp only [active]
  by_cases empty : overlay.isEmpty = true
  · simp only [if_pos empty]
    refine .inl ⟨_, rfl, ?_, rfl⟩
    rw [holds.file_eq empty]
    exact .stored block holds.showing.serves pages
  · simp only [if_neg empty]
    rcases commitOverlay_refines holds pages true with done | failed
    · obtain ⟨after, ended, committed⟩ := done
      refine .inl ⟨⟨after, none⟩, ?_, committed, rfl⟩
      rw [setOverlay, Action.modify_bind_apply]
      exact onContextStore_of ended
    · obtain ⟨error, after, ended, committed⟩ := failed
      refine .inr ⟨error, ⟨after, none⟩, ?_, committed, rfl⟩
      rw [setOverlay, Action.modify_bind_apply]
      exact onContextStore_of ended

theorem rollbackUpdate_of (updating : Updating context base file) :
    ∃ after, rollbackUpdate context = (.ok (), after) ∧ Idle after base := by
  obtain ⟨block, overlay, active, holds, pages⟩ := updating
  exact ⟨_, rfl, .stored block holds.showing.serves pages, rfl⟩

/-! ## Direct calls -/

theorem directOverlay_of {change : OverlayM Unit} {overflows : Nat → Prop} {model : List UInt8 → List UInt8}
    (refines : ∀ block base, Overlay.Refines block base change overflows model)
    (committed : Committed store file) :
    (∃ block direct after, directOverlay change store = (.ok direct, after) ∧
      Overlay.Holds block file ⟨direct, after⟩ (model file) ∧
      block.pageCount.toNat = pageCountForSize block.dbSize.toNat) ∨
    (∃ error after, directOverlay change store = (.err error, after) ∧ Committed after file) := by
  rw [directOverlay]
  rcases committed.load_cases with loaded | refused
  · obtain ⟨block, after, ended, serves, pages⟩ := loaded
    have layout : ensureCurrentLayout store = (.ok (), after) := by
      rw [ensureCurrentLayout, Action.bind_of_ok _ ended, if_pos serves.coherent.checked.layoutVersion]
      rfl
    rw [Action.bind_of_ok _ layout, Action.bind_of_ok _ serves.coherent.load_eq]
    have holds := Overlay.holds_new serves.warm
    rw [serves.size_eq] at holds
    rcases refines block file _ file holds with accepted | rejected
    · obtain ⟨_, _, frame, changed, kept⟩ := accepted
      refine .inl ⟨block, frame.self, frame.store, ?_, kept, pages⟩
      rw [onNewOverlay, changed]
    · obtain ⟨_, changed⟩ := rejected
      exact .inr ⟨_, _, by rw [onNewOverlay, changed], .stored block serves.warm pages⟩
  · obtain ⟨error, after, ended, kept⟩ := refused
    refine .inr ⟨error, after, ?_, kept⟩
    rw [Action.bind_of_err]
    rw [ensureCurrentLayout, Action.bind_of_err _ ended]

theorem directWrite_of (committed : Committed store file) (offset : Nat) (bytes : List UInt8) :
    (∃ after, directWrite offset bytes store = (.ok (), after) ∧ Committed after (splice 0 file offset bytes)) ∨
    (∃ error after, directWrite offset bytes store = (.err error, after) ∧ Committed after file) := by
  rw [directWrite]
  by_cases empty : bytes.isEmpty = true
  · have unchanged : splice 0 file offset bytes = file := by
      simp only [splice, empty, if_true]
    rw [if_pos empty, unchanged]
    exact .inl ⟨store, rfl, committed⟩
  · rw [if_neg empty]
    rcases directOverlay_of (fun block base => Overlay.writeAt_refines block base offset bytes) committed with
      built | failed
    · obtain ⟨block, direct, after, ended, holds, pages⟩ := built
      rw [Action.bind_of_ok _ ended]
      exact commitOverlay_refines holds pages false
    · obtain ⟨error, after, ended, kept⟩ := failed
      exact .inr ⟨error, after, Action.bind_of_err _ ended, kept⟩

theorem directTruncate_of (committed : Committed store file) {size : Nat} (bounded : size < u64Bound) :
    (∃ after, directTruncate size store = (.ok (), after) ∧ Committed after (resize 0 file size)) ∨
    (∃ error after, directTruncate size store = (.err error, after) ∧ Committed after file) := by
  rw [directTruncate]
  rcases directOverlay_of (fun block base => Overlay.truncate_refines block base bounded) committed with
    built | failed
  · obtain ⟨block, direct, after, ended, holds, pages⟩ := built
    rw [Action.bind_of_ok _ ended]
    by_cases empty : direct.isEmpty = true
    · rw [if_pos empty]
      refine .inl ⟨after, rfl, ?_⟩
      rw [holds.file_eq empty]
      exact .stored block holds.showing.serves pages
    · rw [if_neg empty]
      exact commitOverlay_refines holds pages false
  · obtain ⟨error, after, ended, kept⟩ := failed
    exact .inr ⟨error, after, Action.bind_of_err _ ended, kept⟩

theorem readBaseAt_keeps (committed : Committed store file) (offset count : Nat) :
    (readBaseAt offset count store).1 ≠ .panic ∧ Committed (readBaseAt offset count store).2 file := by
  rw [readBaseAt]
  by_cases none : count = 0
  · rw [if_pos none]
    exact ⟨by simp, committed⟩
  · rw [if_neg none]
    rcases committed.load_cases with loaded | refused
    · obtain ⟨block, after, ended, serves, pages⟩ := loaded
      rw [Action.bind_of_ok _ ended, readBaseAtWithBlock_of serves.readable]
      exact ⟨by simp, .stored block serves pages⟩
    · obtain ⟨error, after, ended, kept⟩ := refused
      rw [Action.bind_of_err _ ended]
      exact ⟨by simp, kept⟩

/-- A direct call ends with the changed file, or with an error and the old one. -/
theorem OverlayCall.onContext_direct (idle : Idle context file) (call : OverlayCall) :
    (∃ answer after, call.onContext context = (.ok answer, after) ∧ Idle after (call.applyTo file)) ∨
    (∃ error after, call.onContext context = (.err error, after) ∧ Idle after file) := by
  obtain ⟨committed, overlay⟩ := idle
  cases call with
  | read offset count =>
      have returned := readBaseAt_keeps committed offset.toNat count
      have dispatched : SqliteVfs.readAt offset.toNat count context =
          onContextStore (readBaseAt offset.toNat count) context := by
        rw [SqliteVfs.readAt, Action.read_bind_apply]
        simp only [overlay]
      rw [onContext, Action.bind_apply, dispatched]
      cases ended : readBaseAt offset.toNat count context.store with
      | mk outcome after =>
          rw [ended] at returned
          rw [onContextStore_of ended]
          cases outcome with
          | ok answer => exact .inl ⟨_, _, rfl, returned.2, overlay⟩
          | err error => exact .inr ⟨_, _, rfl, returned.2, overlay⟩
          | panic => exact absurd rfl returned.1
  | write offset bytes =>
      have dispatched : SqliteVfs.writeAt offset.toNat bytes context =
          onContextStore (directWrite offset.toNat bytes) context := by
        rw [SqliteVfs.writeAt, Action.read_bind_apply]
        simp only [overlay]
      rw [onContext, Action.bind_apply, dispatched]
      rcases directWrite_of committed offset.toNat bytes with done | failed
      · obtain ⟨after, ended, kept⟩ := done
        rw [onContextStore_of ended]
        exact .inl ⟨_, _, rfl, kept, overlay⟩
      · obtain ⟨error, after, ended, kept⟩ := failed
        rw [onContextStore_of ended]
        exact .inr ⟨_, _, rfl, kept, overlay⟩
  | truncate size =>
      have dispatched : SqliteVfs.truncate size.toNat context =
          onContextStore (directTruncate size.toNat) context := by
        rw [SqliteVfs.truncate, Action.read_bind_apply]
        simp only [overlay]
      rw [onContext, Action.bind_apply, dispatched]
      rcases directTruncate_of committed size.toNat_lt with done | failed
      · obtain ⟨after, ended, kept⟩ := done
        rw [onContextStore_of ended]
        exact .inl ⟨_, _, rfl, kept, overlay⟩
      · obtain ⟨error, after, ended, kept⟩ := failed
        rw [onContextStore_of ended]
        exact .inr ⟨_, _, rfl, kept, overlay⟩

theorem idle_fresh (grants : Nat → Bool) : Idle (Context.fresh grants) [] := ⟨committed_fresh grants, rfl⟩

/-! ## Runs -/

namespace FileStep

/-- A transaction is refused, or its calls have the outcomes they have on the
flat file and it ends with the image they made, or with the one it began with. -/
theorem run_transaction (idle : Idle context file) (calls : List OverlayCall) (finish : Finish) :
    (∃ error, (run (.transaction calls finish) context).1 = .refused (some error) ∧
      Idle (run (.transaction calls finish) context).2 file) ∨
    (∃ outcome, (run (.transaction calls finish) context).1 =
        .transaction (OverlayCall.outcomesOn file calls) outcome ∧ outcome ≠ .panic ∧
      Idle (run (.transaction calls finish) context).2
        (if finish = .commit ∧ outcome.isOk = true then calls.foldl OverlayCall.leftBy file else file)) := by
  rw [run]
  rcases beginUpdate_of idle with begun | refused
  · obtain ⟨size, middle, ended, updating⟩ := begun
    obtain ⟨outcomes, changed⟩ := OverlayCall.allOnContext_of calls updating
    simp only [ended, outcomes]
    cases finish with
    | commit =>
        rcases commitUpdate_of changed with done | failed
        · obtain ⟨after, finished, kept⟩ := done
          simp only [Finish.onContext, finished]
          exact .inr ⟨_, rfl, by simp, by simpa [Outcome.isOk] using kept⟩
        · obtain ⟨error, after, finished, kept⟩ := failed
          simp only [Finish.onContext, finished]
          exact .inr ⟨_, rfl, by simp, by simpa [Outcome.isOk] using kept⟩
    | rollback =>
        obtain ⟨after, finished, kept⟩ := rollbackUpdate_of changed
        simp only [Finish.onContext, finished]
        exact .inr ⟨_, rfl, by simp, by simpa using kept⟩
  · obtain ⟨error, next, ended, kept⟩ := refused
    simp only [ended]
    exact .inl ⟨error, rfl, kept⟩

/-- Calls that the flat file accepts are accepted. -/
theorem run_accepted (idle : Idle context file) {calls : List OverlayCall} (finish : Finish)
    (accepted : ∀ outcome ∈ OverlayCall.outcomesOn file calls, outcome.isOk = true) :
    (run (.transaction calls finish) context).1.CallsAccepted := by
  rcases run_transaction idle calls finish with refused | ran
  · obtain ⟨error, result, _⟩ := refused
    rw [result]
    exact True.intro
  · obtain ⟨outcome, result, _⟩ := ran
    rw [result]
    exact accepted

theorem run_of (idle : Idle context file) (step : FileStep) :
    (step.run context).1.Returned ∧
      ((step.run context).1.CallsAccepted →
        Idle (step.run context).2 (step.applyTo file (step.run context).1)) := by
  cases step with
  | direct call =>
      rw [run]
      rcases OverlayCall.onContext_direct idle call with done | failed
      · obtain ⟨answer, after, ended, kept⟩ := done
        simp only [ended]
        exact ⟨by simp [Result.Returned], fun _ => kept⟩
      · obtain ⟨error, after, ended, kept⟩ := failed
        simp only [ended]
        exact ⟨by simp [Result.Returned], fun _ => kept⟩
  | transaction calls finish =>
      rcases run_transaction idle calls finish with refused | ran
      · obtain ⟨error, result, kept⟩ := refused
        rw [result]
        exact ⟨by simp [Result.Returned], fun _ => by cases finish <;> exact kept⟩
      · obtain ⟨outcome, result, returned, kept⟩ := ran
        rw [result]
        refine ⟨⟨OverlayCall.outcomesOn_returned calls file, returned⟩, ?_⟩
        intro accepted
        rw [OverlayCall.foldl_leftBy calls file accepted] at kept
        cases finish with
        | rollback => simpa [applyTo] using kept
        | commit =>
            cases outcome with
            | ok value => simpa [applyTo, Outcome.isOk] using kept
            | err error => simpa [applyTo, Outcome.isOk] using kept
            | panic => exact absurd rfl returned

theorem runAll_accepted (idle : Idle context file) {calls : List OverlayCall} (finish : Finish)
    (accepted : ∀ outcome ∈ OverlayCall.outcomesOn file calls, outcome.isOk = true) :
    ∀ result ∈ (runAll [.transaction calls finish] context).1, result.CallsAccepted := by
  intro result member
  rw [List.mem_singleton.mp member]
  exact run_accepted idle finish accepted

theorem runAll_of (steps : List FileStep) (idle : Idle context file)
    (accepted : ∀ result ∈ (runAll steps context).1, result.CallsAccepted) :
    (∀ result ∈ (runAll steps context).1, result.Returned) ∧
      Idle (runAll steps context).2 (fileAfter file steps (runAll steps context).1) := by
  induction steps generalizing context file with
  | nil =>
      refine ⟨?_, idle⟩
      intro result member
      cases member
  | cons step rest ih =>
      obtain ⟨returned, kept⟩ := run_of idle step
      have first : (step.run context).1.CallsAccepted := accepted _ List.mem_cons_self
      have others : ∀ result ∈ (runAll rest (step.run context).2).1, result.CallsAccepted :=
        fun result member => accepted result (List.mem_cons_of_mem _ member)
      obtain ⟨allReturned, final⟩ := ih (kept first) others
      refine ⟨?_, final⟩
      intro result member
      rcases List.mem_cons.mp member with here | there
      · rw [here]
        exact returned
      · exact allReturned result there

end FileStep

/-- Every run of transactions and direct calls from an empty memory refines the
flat file: the committed image, loaded warm or cold, is the file that the
committed changes make of nothing, whatever growth the environment refuses. -/
theorem committed_image_refines_flat_file (grants : Nat → Bool) (steps : List FileStep)
    (accepted : ∀ result ∈ (FileStep.runAll steps (Context.fresh grants)).1, result.CallsAccepted) :
    let results := (FileStep.runAll steps (Context.fresh grants)).1
    let final := (FileStep.runAll steps (Context.fresh grants)).2
    let file := FileStep.fileAfter [] steps results
    Answers final.store file ∧ Answers { final.store with superblockCache := none } file ∧
      final.overlay = none ∧ ∀ result ∈ results, result.Returned := by
  intro results final file
  obtain ⟨returned, idle⟩ := FileStep.runAll_of steps (idle_fresh grants) accepted
  exact ⟨idle.committed.answers, idle.committed.cold.answers, idle.overlay, returned⟩

/-- A sparse write cut short in one transaction, from a memory that is granted
every page. -/
theorem committed_image_refines_flat_file_of_sparse_commit :
    let steps : List FileStep := [.transaction [.write 4 [65, 66], .truncate 5] .commit]
    let results := (FileStep.runAll steps (Context.fresh fun _ => true)).1
    Answers (FileStep.runAll steps (Context.fresh fun _ => true)).2.store
      (FileStep.fileAfter [] steps results) := by
  have calls : ∀ outcome ∈ OverlayCall.outcomesOn [] [.write 4 [65, 66], .truncate 5],
      outcome.isOk = true := by decide
  exact (committed_image_refines_flat_file (fun _ => true) _
    (FileStep.runAll_accepted (idle_fresh fun _ => true) .commit calls)).1

end IcSqliteVfs.SqliteVfs
