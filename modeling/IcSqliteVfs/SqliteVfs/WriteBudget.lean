import IcSqliteVfs.Semantics.Observation
import IcSqliteVfs.SqliteVfs.OverlayRun
import IcSqliteVfs.SqliteVfs.OverlaySound

namespace IcSqliteVfs.SqliteVfs

open IcSqliteVfs.Data IcSqliteVfs.Semantics IcSqliteVfs.Stable

/-! # The overlay's write budget

The budget is a matter of the steps inside a call: pages are admitted one at a
time and a refusal stops the call where it stands.  The calls are therefore
observed step by step.
-/

inductive BudgetEvent where
  /-- So many dirty pages are resident. -/
  | resident (pages : Nat)
  /-- A page was to become dirty, as the last of so many. -/
  | admission (pages : Nat) (granted : Bool)
deriving DecidableEq, Repr

namespace BudgetEvent

def Refused : BudgetEvent → Prop
  | .admission _ false => True
  | _ => False

def Granted : BudgetEvent → Prop
  | .admission _ true => True
  | _ => False

/-- The page count a refused admission asked for. -/
def refusal : BudgetEvent → Option Nat
  | .admission pages false => some pages
  | _ => none

theorem refusal_isSome {event : BudgetEvent} : event.refusal.isSome ↔ event.Refused := by
  cases event with
  | resident pages => simp [refusal, Refused]
  | admission pages granted => cases granted <;> simp [refusal, Refused]

end BudgetEvent

abbrev WatchedM : Type → Type := Action (Watched OverlayFrame BudgetEvent) StableMemoryError

namespace Overlay

/-! ## The calls, observed

Every step that can change the resident pages or the budget is observed; the
programs are those of the overlay.
-/

namespace Watching

def see {α : Type} (call : OverlayM α) : WatchedM α :=
  Action.watch (fun _ _ after => .resident after.self.pages.length) call

def admitDirtyPage : WatchedM Unit :=
  Action.watch (fun before outcome _ => .admission (before.self.pages.length + 1) outcome.isOk)
    Overlay.admitDirtyPage

def loadDirtyPage (pageNo : Nat) : WatchedM (List UInt8) := do
  let frame ← Action.look
  match frame.self.dirtyPage pageNo with
  | some page => pure page
  | none => do
      admitDirtyPage
      let page ← see (materializePage pageNo)
      see (pushPage pageNo page)
      pure page

def zeroOldPartialPage (oldSize newSize : Nat) : WatchedM Unit :=
  if oldSize % sqlitePageSize = 0 then pure ()
  else do
    let oldPageNo := oldSize / sqlitePageSize
    let oldPageStart ← checkedMul oldPageNo sqlitePageSize
    let oldPageEnd ← checkedAdd oldPageStart sqlitePageSize
    let page ← loadDirtyPage oldPageNo
    see (fillPage oldPageNo page (oldSize % sqlitePageSize) (zeroedEnd (min newSize oldPageEnd) oldPageEnd))

def zeroNewPartialPage (oldSize newSize : Nat) : WatchedM Unit :=
  if newSize % sqlitePageSize = 0 ∨ newSize / sqlitePageSize = oldSize / sqlitePageSize then pure ()
  else do
    let page ← loadDirtyPage (newSize / sqlitePageSize)
    see (fillPage (newSize / sqlitePageSize) page 0 (newSize % sqlitePageSize))

def zeroNewlyActivePartialPages (oldSize newSize : Nat) : WatchedM Unit :=
  if newSize ≤ oldSize then pure ()
  else do
    zeroOldPartialPage oldSize newSize
    zeroNewPartialPage oldSize newSize

def activatePages (oldSize newSize : Nat) : WatchedM Unit := do
  see (recordNewlyActiveZeroPages oldSize newSize)
  zeroNewlyActivePartialPages oldSize newSize

def writeFullPage (pageNo : Nat) (bytes : List UInt8) : WatchedM Unit := do
  let frame ← Action.look
  match frame.self.dirtyPage pageNo with
  | some page => see (copyIntoPage pageNo page 0 bytes)
  | none => do
      admitDirtyPage
      see (pushPage pageNo bytes)

def writePages (offset : Nat) (bytes : List UInt8) : Nat → Nat → WatchedM Unit
  | 0, _ => pure ()
  | turns + 1, written =>
      if written < bytes.length then do
        let absolute ← checkedAdd offset written
        let pageOffset := absolute % sqlitePageSize
        let copied := min (sqlitePageSize - pageOffset) (bytes.length - written)
        let page ← loadDirtyPage (absolute / sqlitePageSize)
        see (copyIntoPage (absolute / sqlitePageSize) page pageOffset (window bytes written copied))
        writePages offset bytes turns (written + copied)
      else pure ()

def writeContent (offset : Nat) (bytes : List UInt8) : WatchedM Unit :=
  if bytes.length = sqlitePageSize ∧ offset % sqlitePageSize = 0 then
    writeFullPage (offset / sqlitePageSize) bytes
  else writePages offset bytes bytes.length 0

def writeAt (offset : Nat) (bytes : List UInt8) : WatchedM Unit :=
  if bytes.isEmpty then pure ()
  else do
    let stop ← checkedAdd offset bytes.length
    let frame ← Action.look
    let oldSize := frame.self.size
    (if oldSize < stop then activatePages oldSize stop else pure ())
    writeContent offset bytes
    see (updateSelf fun self => { self with size := max self.size stop })

def zeroTail (size : Nat) : WatchedM Unit :=
  if size % sqlitePageSize = 0 then pure ()
  else do
    let page ← loadDirtyPage (size / sqlitePageSize)
    see (fillPage (size / sqlitePageSize) page (size % sqlitePageSize) page.length)

def truncate (size : Nat) : WatchedM Unit := do
  let frame ← Action.look
  let oldSize := frame.self.size
  (if oldSize < size then activatePages oldSize size
    else if size < oldSize then see (recordTruncatedZeroPages size oldSize)
    else pure ())
  see (updateSelf (retainPages size))
  zeroTail size

/-! ## Erasing the observation -/

open Action in
theorem checkedAdd_erases (left right : Nat) :
    Erases (checkedAdd left right : WatchedM Nat) (checkedAdd left right) := by
  rw [checkedAdd, checkedAdd]
  split
  · exact erases_pure _
  · exact erases_fail _

open Action in
theorem checkedMul_erases (left right : Nat) :
    Erases (checkedMul left right : WatchedM Nat) (checkedMul left right) := by
  rw [checkedMul, checkedMul]
  split
  · exact erases_pure _
  · exact erases_fail _

theorem loadDirtyPage_erases (pageNo : Nat) :
    Action.Erases (loadDirtyPage pageNo) (Overlay.loadDirtyPage pageNo) := by
  refine Action.erases_look.bind fun frame => ?_
  cases frame.self.dirtyPage pageNo with
  | some page => exact Action.erases_pure page
  | none =>
      refine (Action.erases_watch _ _).bind fun _ => ?_
      refine (Action.erases_watch _ _).bind fun page => ?_
      exact (Action.erases_watch _ _).bind fun _ => Action.erases_pure page

theorem activatePages_erases (oldSize newSize : Nat) :
    Action.Erases (activatePages oldSize newSize) (Overlay.activatePages oldSize newSize) := by
  have old : Action.Erases (zeroOldPartialPage oldSize newSize) (Overlay.zeroOldPartialPage oldSize newSize) := by
    rw [zeroOldPartialPage, Overlay.zeroOldPartialPage]
    split
    · exact Action.erases_pure ()
    · refine (checkedMul_erases _ _).bind fun oldPageStart => ?_
      refine (checkedAdd_erases _ _).bind fun oldPageEnd => ?_
      exact (loadDirtyPage_erases _).bind fun page => Action.erases_watch _ _
  have new : Action.Erases (zeroNewPartialPage oldSize newSize) (Overlay.zeroNewPartialPage oldSize newSize) := by
    rw [zeroNewPartialPage, Overlay.zeroNewPartialPage]
    split
    · exact Action.erases_pure ()
    · exact (loadDirtyPage_erases _).bind fun page => Action.erases_watch _ _
  rw [activatePages, see, Overlay.activatePages]
  refine (Action.erases_watch _ _).bind fun _ => ?_
  rw [zeroNewlyActivePartialPages, Overlay.zeroNewlyActivePartialPages]
  split
  · exact Action.erases_pure ()
  · exact old.bind fun _ => new

theorem writePages_erases (offset : Nat) (bytes : List UInt8) (turns written : Nat) :
    Action.Erases (writePages offset bytes turns written) (Overlay.writePages offset bytes turns written) := by
  induction turns generalizing written with
  | zero => exact Action.erases_pure ()
  | succ turns ih =>
      rw [writePages, Overlay.writePages]
      split
      · refine (checkedAdd_erases _ _).bind fun absolute => ?_
        refine (loadDirtyPage_erases _).bind fun page => ?_
        exact (Action.erases_watch _ _).bind fun _ => ih _
      · exact Action.erases_pure ()

theorem writeContent_erases (offset : Nat) (bytes : List UInt8) :
    Action.Erases (writeContent offset bytes) (Overlay.writeContent offset bytes) := by
  rw [writeContent, Overlay.writeContent]
  split
  · refine Action.erases_look.bind fun frame => ?_
    cases frame.self.dirtyPage (offset / sqlitePageSize) with
    | some page => exact Action.erases_watch _ _
    | none => exact (Action.erases_watch _ _).bind fun _ => Action.erases_watch _ _
  · exact writePages_erases offset bytes _ _

theorem writeAt_erases (offset : Nat) (bytes : List UInt8) :
    Action.Erases (writeAt offset bytes) (Overlay.writeAt offset bytes) := by
  rw [writeAt, Overlay.writeAt]
  split
  · exact Action.erases_pure ()
  · refine (checkedAdd_erases _ _).bind fun stop => ?_
    refine Action.erases_look.bind fun frame => ?_
    have activated : Action.Erases (if frame.self.size < stop then activatePages frame.self.size stop else pure ())
        (if frame.self.size < stop then Overlay.activatePages frame.self.size stop else pure ()) := by
      split
      · exact activatePages_erases _ _
      · exact Action.erases_pure ()
    refine activated.bind fun _ => ?_
    exact (writeContent_erases offset bytes).bind fun _ => Action.erases_watch _ _

theorem truncate_erases (size : Nat) : Action.Erases (truncate size) (Overlay.truncate size) := by
  refine Action.erases_look.bind fun frame => ?_
  have activated : Action.Erases
      (if frame.self.size < size then activatePages frame.self.size size
        else if size < frame.self.size then see (recordTruncatedZeroPages size frame.self.size) else pure ())
      (if frame.self.size < size then Overlay.activatePages frame.self.size size
        else if size < frame.self.size then recordTruncatedZeroPages size frame.self.size else pure ()) := by
    split
    · exact activatePages_erases _ _
    · split
      · exact Action.erases_watch _ _
      · exact Action.erases_pure ()
  refine activated.bind fun _ => (Action.erases_watch _ _).bind fun _ => ?_
  rw [zeroTail, Overlay.zeroTail]
  split
  · exact Action.erases_pure ()
  · exact (loadDirtyPage_erases _).bind fun page => Action.erases_watch _ _

end Watching

/-! ## The ledger -/

/-- What the budget's statistics say of a history, and what its limits made of it. -/
structure Ledger (maxPages maxBytes : Nat) (stats : WriteStats) (seen : List BudgetEvent) : Prop where
  within : ∀ pages, .resident pages ∈ seen →
    pages ≤ maxPages ∧ min (pages * sqlitePageSize) (u64Bound - 1) ≤ maxBytes
  reached : .resident stats.dirtyPages ∈ seen
  greatest : ∀ pages, .resident pages ∈ seen → pages ≤ stats.dirtyPages
  peakBytes : stats.peakBytes = min (stats.dirtyPages * sqlitePageSize) (u64Bound - 1)
  /-- The marker is the first refusal's: `false` if the page limit was violated. -/
  exceeded : stats.exceeded = (seen.findSome? BudgetEvent.refusal).map fun pages => decide (pages ≤ maxPages)
  violated : ∀ pages, seen.findSome? BudgetEvent.refusal = some pages →
    maxPages < pages ∨ maxBytes < pages * sqlitePageSize
  sticky : seen.Pairwise fun earlier later => earlier.Refused → ¬ later.Granted

section Ledger

variable {maxPages maxBytes : Nat} {stats : WriteStats} {seen : List BudgetEvent}

theorem ledger_new (maxPages maxBytes : Nat) : Ledger maxPages maxBytes {} [.resident 0] where
  within := by simp
  reached := by simp
  greatest := by simp
  peakBytes := by simp
  exceeded := rfl
  violated := by simp [BudgetEvent.refusal]
  sticky := by simp

/-- No more pages than were seen before or after. -/
theorem Ledger.settled {later : List BudgetEvent} {known pages : Nat}
    (ledger : Ledger maxPages maxBytes stats (seen ++ later)) (recorded : .resident known ∈ seen ++ later)
    (fewer : pages ≤ known) : Ledger maxPages maxBytes stats (seen ++ .resident pages :: later) := by
  have split : ∀ count, .resident count ∈ seen ++ .resident pages :: later →
      count = pages ∨ .resident count ∈ seen ++ later := by
    intro count member
    simp only [List.mem_append, List.mem_cons, BudgetEvent.resident.injEq] at member ⊢
    tauto
  have unrefused : (seen ++ .resident pages :: later).findSome? BudgetEvent.refusal =
      (seen ++ later).findSome? BudgetEvent.refusal := by
    rw [List.findSome?_append, List.findSome?_append, List.findSome?_cons]
    rfl
  refine ⟨?_, ?_, ?_, ledger.peakBytes, ?_, ?_, ?_⟩
  · intro count member
    rcases split count member with rfl | old
    · obtain ⟨fits, bytes⟩ := ledger.within known recorded
      have le : count * sqlitePageSize ≤ known * sqlitePageSize := Nat.mul_le_mul_right _ fewer
      exact ⟨fewer.trans fits, (min_le_min_right _ le).trans bytes⟩
    · exact ledger.within count old
  · have reached := ledger.reached
    simp only [List.mem_append, List.mem_cons] at reached ⊢
    tauto
  · intro count member
    rcases split count member with rfl | old
    · exact fewer.trans (ledger.greatest known recorded)
    · exact ledger.greatest count old
  · rw [unrefused]
    exact ledger.exceeded
  · rw [unrefused]
    exact ledger.violated
  · have pairwise := ledger.sticky
    simp only [List.pairwise_append, List.pairwise_cons, List.mem_cons] at pairwise ⊢
    obtain ⟨first, second, across⟩ := pairwise
    refine ⟨first, ⟨fun _ _ refused => refused.elim, second⟩, ?_⟩
    rintro earlier before after (rfl | member)
    · exact fun _ granted => granted
    · exact across earlier before after member

theorem Ledger.mem_of_append {event : BudgetEvent} {count : Nat} (other : ∀ pages, event ≠ .resident pages)
    (member : .resident count ∈ seen ++ [event]) : .resident count ∈ seen := by
  rcases List.mem_append.mp member with old | new
  · exact old
  · exact absurd (List.mem_singleton.mp new).symm (other count)

theorem Ledger.refused {pages : Nat} (ledger : Ledger maxPages maxBytes stats seen)
    (overrun : stats.exceeded.isSome ∨ maxPages < pages ∨ maxBytes < pages * sqlitePageSize) :
    Ledger maxPages maxBytes { stats with exceeded := stats.exceeded.or (some (pages ≤ maxPages)) }
      (seen ++ [.admission pages false]) := by
  have marker := ledger.exceeded
  have found : (seen ++ [BudgetEvent.admission pages false]).findSome? BudgetEvent.refusal =
      (seen.findSome? BudgetEvent.refusal).or (some pages) := by
    rw [List.findSome?_append]
    rfl
  refine ⟨?_, ?_, ?_, ledger.peakBytes, ?_, ?_, ?_⟩
  · intro count member
    exact ledger.within count (mem_of_append (by simp) member)
  · exact List.mem_append_left _ ledger.reached
  · intro count member
    exact ledger.greatest count (mem_of_append (by simp) member)
  · rw [found, marker]
    cases seen.findSome? BudgetEvent.refusal with
    | none => rfl
    | some first => rfl
  · intro count first
    rw [found] at first
    cases before : seen.findSome? BudgetEvent.refusal with
    | some earlier =>
        rw [before] at first
        obtain rfl : earlier = count := Option.some.inj first
        exact ledger.violated earlier before
    | none =>
        rw [before] at first marker
        obtain rfl : pages = count := Option.some.inj first
        exact overrun.resolve_left (by rw [marker]; simp)
  · rw [List.pairwise_append]
    refine ⟨ledger.sticky, List.pairwise_singleton _ _, ?_⟩
    intro earlier _ later member _ granted
    rw [List.mem_singleton.mp member] at granted
    exact granted

/-- The ledger balances again once the admitted page is resident. -/
theorem Ledger.granted {known : Nat} (ledger : Ledger maxPages maxBytes stats seen)
    (unmarked : stats.exceeded = none) (fits : known + 1 ≤ maxPages)
    (bytes : min ((known + 1) * sqlitePageSize) (u64Bound - 1) ≤ maxBytes) :
    Ledger maxPages maxBytes { stats with
        dirtyPages := max stats.dirtyPages (known + 1)
        peakBytes := max stats.peakBytes (min ((known + 1) * sqlitePageSize) (u64Bound - 1)) }
      (seen ++ [.admission (known + 1) true] ++ [.resident (known + 1)]) := by
  have unrefused : seen.findSome? BudgetEvent.refusal = none := by
    have marker := ledger.exceeded
    rw [unmarked] at marker
    exact Option.map_eq_none_iff.mp marker.symm
  have found : (seen ++ [BudgetEvent.admission (known + 1) true] ++
      [BudgetEvent.resident (known + 1)]).findSome? BudgetEvent.refusal = none := by
    rw [List.findSome?_append, List.findSome?_append, unrefused]
    rfl
  have clean : ∀ event ∈ seen, ¬ event.Refused := fun event member =>
    by
    rw [← BudgetEvent.refusal_isSome, List.findSome?_eq_none_iff.mp unrefused event member]
    simp
  have split : ∀ count, .resident count ∈ seen ++ [.admission (known + 1) true] ++ [.resident (known + 1)] →
      count = known + 1 ∨ .resident count ∈ seen := by
    intro count member
    simp at member
    tauto
  refine ⟨?_, ?_, ?_, ?_, ?_, ?_, ?_⟩
  · intro count member
    rcases split count member with rfl | old
    · exact ⟨fits, bytes⟩
    · exact ledger.within count old
  · rcases max_choice stats.dirtyPages (known + 1) with same | next
    · simp only [same]
      exact List.mem_append_left _ (List.mem_append_left _ ledger.reached)
    · simp only [next]
      exact List.mem_append_right _ (List.mem_singleton.mpr rfl)
  · intro count member
    rcases split count member with rfl | old
    · exact le_max_right _ _
    · exact (ledger.greatest count old).trans (le_max_left _ _)
  · rw [ledger.peakBytes, ← min_max_distrib_right, max_mul_of_nonneg _ _ (Nat.zero_le _)]
  · rw [found]
    exact unmarked
  · rw [found]
    intro pages first
    cases first
  · simp only [List.pairwise_append]
    refine ⟨⟨ledger.sticky, List.pairwise_singleton _ _, ?_⟩, List.pairwise_singleton _ _, ?_⟩
    · intro earlier member later _ refused
      exact absurd refused (clean earlier member)
    · intro earlier _ later member _ granted
      rw [List.mem_singleton.mp member] at granted
      exact granted

end Ledger

/-! ## Every step keeps the ledger -/

/-- One more page is refused. -/
def OverBudget (budget : WriteBudget) (resident : Nat) : Prop :=
  budget.stats.exceeded.isSome ∨ budget.maxPages < resident + 1 ∨
    budget.maxBytes < min ((resident + 1) * sqlitePageSize) (u64Bound - 1)

theorem admitDirtyPage_cases {frame : OverlayFrame} {budget : WriteBudget}
    (current : frame.self.writeBudget = some budget) :
    (OverBudget budget frame.self.pages.length ∧ admitDirtyPage frame =
      (.err (.failpoint "overlay write budget exceeded"),
        { frame with self := { frame.self with writeBudget := some { budget with stats := { budget.stats with
          exceeded := budget.stats.exceeded.or (some (frame.self.pages.length + 1 ≤ budget.maxPages)) } } } })) ∨
    (¬ OverBudget budget frame.self.pages.length ∧ admitDirtyPage frame =
      (.ok (), { frame with self := { frame.self with writeBudget := some { budget with stats := { budget.stats with
        dirtyPages := max budget.stats.dirtyPages (frame.self.pages.length + 1)
        peakBytes := max budget.stats.peakBytes
          (min ((frame.self.pages.length + 1) * sqlitePageSize) (u64Bound - 1)) } } } })) := by
  rw [admitDirtyPage, Action.read_bind_apply, current]
  by_cases overrun : OverBudget budget frame.self.pages.length
  · refine .inl ⟨overrun, ?_⟩
    rw [OverBudget] at overrun
    dsimp only
    rw [if_pos overrun]
    rfl
  · refine .inr ⟨overrun, ?_⟩
    rw [OverBudget] at overrun
    dsimp only
    rw [if_neg overrun]
    rfl

/-- The ledger of a run so far, with the pages that are resident now. -/
structure Accounted (memory : Memory) (block : Superblock) (base : List UInt8) (maxPages maxBytes : Nat)
    (watched : Watched OverlayFrame BudgetEvent) : Prop where
  steady : Steady memory block base watched.state
  ledger : ∃ stats, watched.state.self.writeBudget = some ⟨maxPages, maxBytes, stats⟩ ∧
    Ledger maxPages maxBytes stats watched.seen
  recorded : .resident watched.state.self.pages.length ∈ watched.seen

/-- A page was admitted and is not resident yet. -/
structure Owed (memory : Memory) (block : Superblock) (base : List UInt8) (maxPages maxBytes : Nat)
    (watched : Watched OverlayFrame BudgetEvent) : Prop where
  steady : Steady memory block base watched.state
  ledger : ∃ stats, watched.state.self.writeBudget = some ⟨maxPages, maxBytes, stats⟩ ∧
    Ledger maxPages maxBytes stats (watched.seen ++ [.resident (watched.state.self.pages.length + 1)])

/-- A step that admits nothing. -/
def Calm {α : Type} (call : OverlayM α) : Prop :=
  ∀ frame, (call frame).2.self.writeBudget = frame.self.writeBudget ∧
    (call frame).2.self.pages.length ≤ frame.self.pages.length

section Accounted

variable {memory : Memory} {block : Superblock} {base : List UInt8} {maxPages maxBytes : Nat} {α : Type}

theorem calm_recordZeroExtent (startPage endPage : Nat) : Calm (recordZeroExtent startPage endPage) := by
  intro frame
  rw [recordZeroExtent]
  split
  · exact ⟨rfl, Nat.le_refl _⟩
  · exact ⟨rfl, Nat.le_refl _⟩

theorem calm_copyIntoPage (pageNo : Nat) (page : List UInt8) (start : Nat) (source : List UInt8) :
    Calm (copyIntoPage pageNo page start source) := by
  intro frame
  rw [copyIntoPage, Action.require]
  split
  · refine ⟨rfl, ?_⟩
    have keys := congrArg List.length (map_fst_replaceValue pageNo (patch page start source) frame.self.pages)
    rw [List.length_map, List.length_map] at keys
    exact keys.le
  · exact ⟨rfl, Nat.le_refl _⟩

theorem calm_fillPage (pageNo : Nat) (page : List UInt8) (start stop : Nat) :
    Calm (fillPage pageNo page start stop) := by
  intro frame
  rw [fillPage, Action.require]
  split
  · exact calm_copyIntoPage pageNo page start _ frame
  · exact ⟨rfl, Nat.le_refl _⟩

theorem calm_retainPages (size : Nat) : Calm (updateSelf (retainPages size)) :=
  fun frame => ⟨rfl, List.length_filter_le _ frame.self.pages⟩

theorem keeps_see {call : OverlayM α} {result : α → Prop}
    (keeps : Action.Keeps (Steady memory block base) call result) (calm : Calm call) :
    Action.Keeps (Accounted memory block base maxPages maxBytes) (Watching.see call) result := by
  intro watched accounted
  obtain ⟨steady, returned⟩ := keeps watched.state accounted.steady
  obtain ⟨budget, fewer⟩ := calm watched.state
  obtain ⟨stats, current, ledger⟩ := accounted.ledger
  have settled : Ledger maxPages maxBytes stats
      (watched.seen ++ [.resident (call watched.state).2.self.pages.length]) :=
    Ledger.settled (by rw [List.append_nil]; exact ledger) (by rw [List.append_nil]; exact accounted.recorded) fewer
  exact ⟨⟨steady, ⟨stats, budget.trans current, settled⟩, List.mem_append_right _ (List.mem_singleton.mpr rfl)⟩,
    returned⟩

theorem keeps_look : Action.Keeps (Accounted memory block base maxPages maxBytes) (Action.look : WatchedM OverlayFrame)
    (Steady memory block base) := by
  intro watched accounted
  refine ⟨accounted, ?_⟩
  intro frame same
  obtain rfl := Outcome.ok.inj same
  exact accounted.steady

/-- A page is refused and the refusal noted, or it is admitted. -/
theorem Accounted.admitDirtyPage {watched : Watched OverlayFrame BudgetEvent}
    (accounted : Accounted memory block base maxPages maxBytes watched) :
    Action.Leaves Watching.admitDirtyPage watched
      (fun _ next => Owed memory block base maxPages maxBytes next)
      (Accounted memory block base maxPages maxBytes) := by
  obtain ⟨stats, current, ledger⟩ := accounted.ledger
  have kept := (keeps_admitDirtyPage watched.state accounted.steady).1
  rw [Action.Leaves, Watching.admitDirtyPage, Action.watch]
  rcases admitDirtyPage_cases current with refused | admitted
  · obtain ⟨overrun, ended⟩ := refused
    rw [ended] at kept ⊢
    have past : stats.exceeded.isSome ∨ maxPages < watched.state.self.pages.length + 1 ∨
        maxBytes < (watched.state.self.pages.length + 1) * sqlitePageSize :=
      overrun.imp_right (Or.imp_right fun bytes => bytes.trans_le (min_le_left _ _))
    exact ⟨kept, ⟨_, rfl, ledger.refused past⟩, List.mem_append_left _ accounted.recorded⟩
  · obtain ⟨room, ended⟩ := admitted
    rw [ended] at kept ⊢
    simp only [OverBudget, not_or, not_lt, Option.not_isSome_iff_eq_none] at room
    obtain ⟨unmarked, fits, bytes⟩ := room
    exact ⟨kept, _, rfl, ledger.granted unmarked fits bytes⟩

/-- The bytes of an admitted page can always be had. -/
theorem Owed.materializePage {watched : Watched OverlayFrame BudgetEvent} {pageNo : Nat}
    (owed : Owed memory block base maxPages maxBytes watched) (fits : pageNo * sqlitePageSize < u64Bound) :
    Action.Returns (Watching.see (materializePage pageNo)) watched fun page next =>
      page.length = sqlitePageSize ∧ Owed memory block base maxPages maxBytes next := by
  obtain ⟨stats, current, ledger⟩ := owed.ledger
  obtain ⟨steady, whole⟩ := keeps_materializePage pageNo watched.state owed.steady
  have returned : ∃ page after, Overlay.materializePage pageNo watched.state = (.ok page, after) ∧
      after.self.writeBudget = watched.state.self.writeBudget ∧ after.self.pages = watched.state.self.pages := by
    rw [Overlay.materializePage, Action.read_bind_apply]
    split
    · exact ⟨_, _, rfl, rfl, rfl⟩
    · cases watched.state.self.cleanPage pageNo with
      | some page => exact ⟨_, _, rfl, rfl, rfl⟩
      | none =>
          refine ⟨_, _, Action.zoom_of (owed.steady.serves.readBasePage_eq fits), rfl, rfl⟩
  obtain ⟨page, after, ended, budget, pages⟩ := returned
  rw [ended] at steady whole
  refine Action.returns_of (by rw [Watching.see, Action.watch, ended]) ⟨whole page rfl, steady, stats, ?_, ?_⟩
  · exact budget.trans current
  · dsimp only
    rw [pages, List.append_assoc]
    exact ledger.settled (List.mem_append_right _ (List.mem_singleton.mpr rfl)) (Nat.le_succ _)

theorem Owed.pushPage {watched : Watched OverlayFrame BudgetEvent} {page : List UInt8}
    (owed : Owed memory block base maxPages maxBytes watched) (whole : page.length = sqlitePageSize) (pageNo : Nat) :
    Action.Returns (Watching.see (pushPage pageNo page)) watched fun _ next =>
      Accounted memory block base maxPages maxBytes next := by
  obtain ⟨stats, current, ledger⟩ := owed.ledger
  have kept : Steady memory block base (Overlay.pushPage pageNo page watched.state).2 :=
    (keeps_pushPage whole watched.state owed.steady).1
  have grown : (watched.state.self.pages ++ [(pageNo, page)]).length = watched.state.self.pages.length + 1 := by
    simp
  refine Action.returns_of rfl ⟨kept, ⟨stats, current, ?_⟩, List.mem_append_right _ (List.mem_singleton.mpr rfl)⟩
  dsimp only
  rw [grown]
  exact ledger

theorem keeps_watchedLoad {pageNo : Nat} (fits : pageNo * sqlitePageSize < u64Bound) :
    Action.Keeps (Accounted memory block base maxPages maxBytes) (Watching.loadDirtyPage pageNo) fun page =>
      page.length = sqlitePageSize := by
  refine Action.Keeps.bind keeps_look ?_
  intro frame steady
  cases stored : frame.self.dirtyPage pageNo with
  | some page => exact Action.keeps_pure (steady.sound.pageLength (pageNo, page) (mem_of_lookup stored))
  | none =>
      apply Action.keeps_of_leaves
      intro watched accounted
      refine accounted.admitDirtyPage.bind fun _ admitted owed => ?_
      obtain ⟨page, filled, ended, whole, owed⟩ := owed.materializePage fits
      obtain ⟨_, pushed, last, balanced⟩ := owed.pushPage whole pageNo
      exact Action.leaves_after_ok ended (Action.leaves_after_ok last ⟨balanced, whole⟩)

theorem keeps_watchedFull (pageNo : Nat) {bytes : List UInt8} (full : bytes.length = sqlitePageSize) :
    Action.Keeps (Accounted memory block base maxPages maxBytes) (Watching.writeFullPage pageNo bytes) fun _ =>
      True := by
  refine Action.Keeps.bind keeps_look ?_
  intro frame steady
  cases stored : frame.self.dirtyPage pageNo with
  | some page =>
      exact keeps_see (keeps_copyIntoPage (steady.sound.pageLength (_, page) (mem_of_lookup stored)) _ _ _)
        (calm_copyIntoPage _ _ _ _)
  | none =>
      apply Action.keeps_of_leaves
      intro watched accounted
      refine accounted.admitDirtyPage.bind fun _ admitted owed => ?_
      obtain ⟨_, pushed, last, balanced⟩ := owed.pushPage full pageNo
      exact Action.leaves_of_ok last ⟨balanced, trivial⟩

theorem keeps_watchedAdd (left right : Nat) :
    Action.Keeps (Accounted memory block base maxPages maxBytes) (checkedAdd left right) fun sum =>
      sum = left + right ∧ left + right < u64Bound := by
  rw [checkedAdd]
  split
  · exact Action.keeps_pure ⟨rfl, ‹_›⟩
  · exact Action.keeps_fail _

theorem keeps_watchedMul (left right : Nat) :
    Action.Keeps (Accounted memory block base maxPages maxBytes) (checkedMul left right) fun _ => True := by
  rw [checkedMul]
  split
  · exact Action.keeps_pure trivial
  · exact Action.keeps_fail _

/-- Load the page a position is on and zero part of it. -/
theorem keeps_watchedFill {position : Nat} (bounded : position < u64Bound) (range : List UInt8 → Nat × Nat) :
    Action.Keeps (Accounted memory block base maxPages maxBytes)
      (do let page ← Watching.loadDirtyPage (position / sqlitePageSize)
          Watching.see (fillPage (position / sqlitePageSize) page (range page).1 (range page).2)) fun _ => True := by
  have fits : position / sqlitePageSize * sqlitePageSize < u64Bound :=
    (Nat.div_mul_le_self _ _).trans_lt bounded
  refine (keeps_watchedLoad fits).bind fun page whole => ?_
  exact keeps_see (keeps_fillPage whole _ _ _) (calm_fillPage _ _ _ _)

theorem keeps_watchedActivate {oldSize newSize : Nat} (old : oldSize < u64Bound) (new : newSize < u64Bound) :
    Action.Keeps (Accounted memory block base maxPages maxBytes) (Watching.activatePages oldSize newSize) fun _ =>
      True := by
  rw [Watching.activatePages, recordNewlyActiveZeroPages]
  refine (keeps_see (keeps_recordZeroExtent _ _) (calm_recordZeroExtent _ _)).bind fun _ _ => ?_
  rw [Watching.zeroNewlyActivePartialPages]
  split
  · exact Action.keeps_pure trivial
  · have first : Action.Keeps (Accounted memory block base maxPages maxBytes)
        (Watching.zeroOldPartialPage oldSize newSize) fun _ => True := by
      rw [Watching.zeroOldPartialPage]
      split
      · exact Action.keeps_pure trivial
      · refine (keeps_watchedMul _ _).bind fun oldPageStart _ => ?_
        refine (keeps_watchedAdd _ _).bind fun oldPageEnd _ => ?_
        exact keeps_watchedFill old fun _ => (_, _)
    refine first.bind fun _ _ => ?_
    rw [Watching.zeroNewPartialPage]
    split
    · exact Action.keeps_pure trivial
    · exact keeps_watchedFill new fun _ => (_, _)

theorem keeps_watchedPages (offset : Nat) (bytes : List UInt8) (turns written : Nat) :
    Action.Keeps (Accounted memory block base maxPages maxBytes) (Watching.writePages offset bytes turns written)
      fun _ => True := by
  induction turns generalizing written with
  | zero => exact Action.keeps_pure trivial
  | succ turns ih =>
      rw [Watching.writePages]
      split
      · refine (keeps_watchedAdd _ _).bind fun absolute summed => ?_
        have fits : absolute / sqlitePageSize * sqlitePageSize < u64Bound :=
          (Nat.div_mul_le_self _ _).trans_lt (by rw [summed.1]; exact summed.2)
        refine (keeps_watchedLoad fits).bind fun page whole => ?_
        exact (keeps_see (keeps_copyIntoPage whole _ _ _) (calm_copyIntoPage _ _ _ _)).bind fun _ _ => ih _
      · exact Action.keeps_pure trivial

theorem keeps_watchedWrite (offset : Nat) (bytes : List UInt8) :
    Action.Keeps (Accounted memory block base maxPages maxBytes) (Watching.writeAt offset bytes) fun _ => True := by
  rw [Watching.writeAt]
  split
  · exact Action.keeps_pure trivial
  · refine (keeps_watchedAdd _ _).bind fun stop summed => ?_
    have bounded : stop < u64Bound := by
      rw [summed.1]
      exact summed.2
    refine keeps_look.bind fun frame steady => ?_
    have activated : Action.Keeps (Accounted memory block base maxPages maxBytes)
        (if frame.self.size < stop then Watching.activatePages frame.self.size stop else pure ()) fun _ =>
          True := by
      split
      · exact keeps_watchedActivate steady.sound.size bounded
      · exact Action.keeps_pure trivial
    refine activated.bind fun _ _ => ?_
    have written : Action.Keeps (Accounted memory block base maxPages maxBytes)
        (Watching.writeContent offset bytes) fun _ => True := by
      rw [Watching.writeContent]
      split
      · rename_i full
        exact keeps_watchedFull _ full.1
      · exact keeps_watchedPages offset bytes _ _
    refine written.bind fun _ _ => keeps_see (keeps_updateSelf ?_) fun _ => ⟨rfl, Nat.le_refl _⟩
    intro self sound
    exact ⟨sound.pageLength, sound.cleanLength, max_lt sound.size bounded⟩

theorem keeps_watchedTruncate {size : Nat} (bounded : size < u64Bound) :
    Action.Keeps (Accounted memory block base maxPages maxBytes) (Watching.truncate size) fun _ => True := by
  refine keeps_look.bind fun frame steady => ?_
  have recorded : Action.Keeps (Accounted memory block base maxPages maxBytes)
      (if frame.self.size < size then Watching.activatePages frame.self.size size
        else if size < frame.self.size then Watching.see (recordTruncatedZeroPages size frame.self.size)
        else pure ()) fun _ => True := by
    split
    · exact keeps_watchedActivate steady.sound.size bounded
    · split
      · exact keeps_see (keeps_recordZeroExtent _ _) (calm_recordZeroExtent _ _)
      · exact Action.keeps_pure trivial
  refine recorded.bind fun _ _ => ?_
  have retained : Action.Keeps (Steady memory block base) (updateSelf (retainPages size)) fun _ => True := by
    apply keeps_updateSelf
    intro self sound
    exact ⟨fun entry member => sound.pageLength entry (List.mem_filter.mp member).1,
      fun entry member => sound.cleanLength entry (List.mem_filter.mp member).1, bounded⟩
  refine (keeps_see retained (calm_retainPages size)).bind fun _ _ => ?_
  rw [Watching.zeroTail]
  split
  · exact Action.keeps_pure trivial
  · exact keeps_watchedFill bounded fun page => (_, page.length)

end Accounted

/-! ## Without the budget -/

/-- The same frame without a budget. -/
def unbudgeted (frame : OverlayFrame) : OverlayFrame :=
  { frame with self := { frame.self with writeBudget := none } }

def Exceeded (frame : OverlayFrame) : Prop :=
  ∃ budget, frame.self.writeBudget = some budget ∧ budget.stats.exceeded.isSome

/-- The call does not see the budget unless a page is refused. -/
abbrev Unbudgets {α : Type} (call : OverlayM α) : Prop := Action.Forgets unbudgeted Exceeded call

section Unbudgets

open Action

theorem unbudgets_checkedAdd (left right : Nat) : Unbudgets (checkedAdd left right) := by
  rw [checkedAdd]
  split
  · exact forgets_pure _
  · exact forgets_fail _

theorem unbudgets_checkedMul (left right : Nat) : Unbudgets (checkedMul left right) := by
  rw [checkedMul]
  split
  · exact forgets_pure _
  · exact forgets_fail _

theorem unbudgets_updateSelf {update : Overlay → Overlay}
    (budget : ∀ self, (update self).writeBudget = self.writeBudget)
    (commutes : ∀ self, update { self with writeBudget := none } = { update self with writeBudget := none }) :
    Unbudgets (updateSelf update) := by
  apply forgets_modify
  · rintro frame ⟨current, stored, marked⟩
    exact ⟨current, (budget frame.self).trans stored, marked⟩
  · intro frame
    simp only [unbudgeted, commutes]

theorem unbudgets_onStore {α : Type} (call : StoreM α) : Unbudgets (onStore call) :=
  ⟨fun _ marked => marked, fun _ => .inr rfl⟩

theorem unbudgets_admitDirtyPage : Unbudgets admitDirtyPage := by
  constructor
  · rintro frame ⟨budget, current, marked⟩
    rcases admitDirtyPage_cases current with ⟨_, ended⟩ | ⟨_, ended⟩
    · rw [ended]
      refine ⟨_, rfl, ?_⟩
      simp
    · rw [ended]
      exact ⟨_, rfl, marked⟩
  · intro frame
    cases current : frame.self.writeBudget with
    | none =>
        have same : unbudgeted frame = frame := by
          rw [unbudgeted, ← current]
        refine .inr ?_
        rw [admitDirtyPage_of current, same, admitDirtyPage_of current]
    | some budget =>
        rcases admitDirtyPage_cases current with ⟨_, ended⟩ | ⟨_, ended⟩
        · refine .inl ?_
          rw [ended]
          refine ⟨_, rfl, ?_⟩
          simp
        · refine .inr ?_
          rw [ended, admitDirtyPage_of rfl]
          rfl

theorem unbudgets_recordZeroExtent (startPage endPage : Nat) :
    Unbudgets (recordZeroExtent startPage endPage) := by
  rw [recordZeroExtent]
  split
  · exact unbudgets_updateSelf (fun _ => rfl) fun _ => rfl
  · exact forgets_pure ()

theorem unbudgets_loadDirtyPage (pageNo : Nat) : Unbudgets (loadDirtyPage pageNo) := by
  have filled : Unbudgets (materializePage pageNo) := by
    refine forgets_read_bind (fun frame => ?_) fun _ => rfl
    split
    · exact forgets_pure _
    · cases frame.self.cleanPage pageNo with
      | some page => exact (unbudgets_updateSelf (by intro _; rfl) (by intro _; rfl)).bind fun _ => forgets_pure page
      | none => exact unbudgets_onStore _
  refine forgets_read_bind (fun frame => ?_) fun _ => rfl
  cases frame.self.dirtyPage pageNo with
  | some page => exact forgets_pure page
  | none =>
      refine unbudgets_admitDirtyPage.bind fun _ => filled.bind fun page => ?_
      exact (unbudgets_updateSelf (by intro _; rfl) (by intro _; rfl)).bind fun _ => forgets_pure page

theorem unbudgets_copyIntoPage (pageNo : Nat) (page : List UInt8) (start : Nat) (source : List UInt8) :
    Unbudgets (copyIntoPage pageNo page start source) :=
  (forgets_require _).bind fun _ => unbudgets_updateSelf (fun _ => rfl) fun _ => rfl

theorem unbudgets_fillPage (pageNo : Nat) (page : List UInt8) (start stop : Nat) :
    Unbudgets (fillPage pageNo page start stop) :=
  (forgets_require _).bind fun _ => unbudgets_copyIntoPage _ _ _ _

theorem unbudgets_activatePages (oldSize newSize : Nat) : Unbudgets (activatePages oldSize newSize) := by
  rw [activatePages, recordNewlyActiveZeroPages]
  refine (unbudgets_recordZeroExtent _ _).bind fun _ => ?_
  rw [zeroNewlyActivePartialPages]
  split
  · exact forgets_pure ()
  · have old : Unbudgets (zeroOldPartialPage oldSize newSize) := by
      rw [zeroOldPartialPage]
      split
      · exact forgets_pure ()
      · refine (unbudgets_checkedMul _ _).bind fun _ => (unbudgets_checkedAdd _ _).bind fun _ => ?_
        exact (unbudgets_loadDirtyPage _).bind fun _ => unbudgets_fillPage _ _ _ _
    refine old.bind fun _ => ?_
    rw [zeroNewPartialPage]
    split
    · exact forgets_pure ()
    · exact (unbudgets_loadDirtyPage _).bind fun _ => unbudgets_fillPage _ _ _ _

theorem unbudgets_writePages (offset : Nat) (bytes : List UInt8) (turns written : Nat) :
    Unbudgets (writePages offset bytes turns written) := by
  induction turns generalizing written with
  | zero => exact forgets_pure ()
  | succ turns ih =>
      rw [writePages]
      split
      · refine (unbudgets_checkedAdd _ _).bind fun _ => (unbudgets_loadDirtyPage _).bind fun _ => ?_
        exact (unbudgets_copyIntoPage _ _ _ _).bind fun _ => ih _
      · exact forgets_pure ()

theorem unbudgets_writeContent (offset : Nat) (bytes : List UInt8) : Unbudgets (writeContent offset bytes) := by
  rw [writeContent]
  split
  · refine forgets_read_bind (fun frame => ?_) fun _ => rfl
    cases frame.self.dirtyPage (offset / sqlitePageSize) with
    | some page => exact unbudgets_copyIntoPage _ _ _ _
    | none => exact unbudgets_admitDirtyPage.bind fun _ => unbudgets_updateSelf (fun _ => rfl) fun _ => rfl
  · exact unbudgets_writePages offset bytes _ _

theorem unbudgets_writeAt (offset : Nat) (bytes : List UInt8) : Unbudgets (writeAt offset bytes) := by
  rw [writeAt]
  split
  · exact forgets_pure ()
  · refine (unbudgets_checkedAdd _ _).bind fun stop => forgets_read_bind (fun frame => ?_) fun _ => rfl
    have activated : Unbudgets (if frame.self.size < stop then activatePages frame.self.size stop else pure ()) := by
      split
      · exact unbudgets_activatePages _ _
      · exact forgets_pure ()
    refine activated.bind fun _ => (unbudgets_writeContent offset bytes).bind fun _ => ?_
    exact unbudgets_updateSelf (fun _ => rfl) fun _ => rfl

theorem unbudgets_truncate (size : Nat) : Unbudgets (truncate size) := by
  refine forgets_read_bind (fun frame => ?_) fun _ => rfl
  have recorded : Unbudgets (if frame.self.size < size then activatePages frame.self.size size
      else if size < frame.self.size then recordTruncatedZeroPages size frame.self.size else pure ()) := by
    split
    · exact unbudgets_activatePages _ _
    · split
      · exact unbudgets_recordZeroExtent _ _
      · exact forgets_pure ()
  refine recorded.bind fun _ => (unbudgets_updateSelf (by intro _; rfl) (by intro _; rfl)).bind fun _ => ?_
  rw [zeroTail]
  split
  · exact forgets_pure ()
  · exact (unbudgets_loadDirtyPage _).bind fun _ => unbudgets_fillPage _ _ _ _

end Unbudgets

end Overlay

/-! ## Runs -/

inductive OverlayChange where
  | write (offset : UInt64) (bytes : List UInt8)
  | truncate (size : UInt64)
deriving DecidableEq, Repr

namespace OverlayChange

def toCall : OverlayChange → OverlayCall
  | .write offset bytes => .write offset bytes
  | .truncate size => .truncate size

/-- The change, observed. -/
def watch : OverlayChange → WatchedM OverlayCall.Answer
  | .write offset bytes => do
      Overlay.Watching.writeAt offset.toNat bytes
      pure none
  | .truncate size => do
      Overlay.Watching.truncate size.toNat
      pure none

def watchAll : List OverlayChange → Watched OverlayFrame BudgetEvent →
    List (Outcome StableMemoryError OverlayCall.Answer) × Watched OverlayFrame BudgetEvent
  | [], watched => ([], watched)
  | change :: rest, watched =>
      let (outcome, next) := change.watch watched
      let (outcomes, last) := watchAll rest next
      (outcome :: outcomes, last)

theorem watch_erases (change : OverlayChange) : Action.Erases change.watch change.toCall.perform := by
  cases change with
  | write offset bytes => exact (Overlay.Watching.writeAt_erases _ _).bind fun _ => Action.erases_pure none
  | truncate size => exact (Overlay.Watching.truncate_erases _).bind fun _ => Action.erases_pure none

theorem watchAll_erases (changes : List OverlayChange) (watched : Watched OverlayFrame BudgetEvent) :
    ∃ added, watchAll changes watched =
      ((OverlayCall.performAll (changes.map toCall) watched.state).1,
        ⟨(OverlayCall.performAll (changes.map toCall) watched.state).2, watched.seen ++ added⟩) := by
  induction changes generalizing watched with
  | nil => exact ⟨[], by simp [watchAll, OverlayCall.performAll]⟩
  | cons change rest ih =>
      obtain ⟨first, ended⟩ := watch_erases change watched
      obtain ⟨more, last⟩ := ih ⟨(change.toCall.perform watched.state).2, watched.seen ++ first⟩
      refine ⟨first ++ more, ?_⟩
      simp only [watchAll, ended, last, List.map_cons, OverlayCall.performAll, List.append_assoc]

theorem watchAll_append (first second : List OverlayChange) (watched : Watched OverlayFrame BudgetEvent) :
    (watchAll (first ++ second) watched).2 = (watchAll second (watchAll first watched).2).2 := by
  induction first generalizing watched with
  | nil => rfl
  | cons change rest ih => exact ih _

variable {memory : Memory} {block : Superblock} {base : List UInt8} {maxPages maxBytes : Nat}

theorem keeps_watch (change : OverlayChange) :
    Action.Keeps (Overlay.Accounted memory block base maxPages maxBytes) change.watch fun _ => True := by
  cases change with
  | write offset bytes =>
      exact (Overlay.keeps_watchedWrite _ _).bind fun _ _ => Action.keeps_pure trivial
  | truncate size =>
      exact (Overlay.keeps_watchedTruncate size.toNat_lt).bind fun _ _ => Action.keeps_pure trivial

theorem watchAll_accounted (changes : List OverlayChange) {watched : Watched OverlayFrame BudgetEvent}
    (accounted : Overlay.Accounted memory block base maxPages maxBytes watched) :
    Overlay.Accounted memory block base maxPages maxBytes (watchAll changes watched).2 := by
  induction changes generalizing watched with
  | nil => exact accounted
  | cons change rest ih => exact ih (keeps_watch change watched accounted).1

theorem unbudgets_perform (change : OverlayChange) : Overlay.Unbudgets change.toCall.perform := by
  cases change with
  | write offset bytes => exact (Overlay.unbudgets_writeAt _ _).bind fun _ => Action.forgets_pure none
  | truncate size => exact (Overlay.unbudgets_truncate _).bind fun _ => Action.forgets_pure none

theorem performAll_stays (changes : List OverlayChange) {frame : OverlayFrame} (marked : Overlay.Exceeded frame) :
    Overlay.Exceeded (OverlayCall.performAll (changes.map toCall) frame).2 := by
  induction changes generalizing frame with
  | nil => exact marked
  | cons change rest ih => exact ih ((unbudgets_perform change).stays frame marked)

/-- A run that is refused no page is the run without a budget. -/
theorem performAll_unbudgeted (changes : List OverlayChange) (frame : OverlayFrame) :
    Overlay.Exceeded (OverlayCall.performAll (changes.map toCall) frame).2 ∨
      OverlayCall.performAll (changes.map toCall) (Overlay.unbudgeted frame) =
        ((OverlayCall.performAll (changes.map toCall) frame).1,
          Overlay.unbudgeted (OverlayCall.performAll (changes.map toCall) frame).2) := by
  induction changes generalizing frame with
  | nil => exact .inr rfl
  | cons change rest ih =>
      simp only [List.map_cons, OverlayCall.performAll]
      rcases (unbudgets_perform change).same frame with marked | same
      · exact .inl (performAll_stays rest marked)
      · rcases ih (change.toCall.perform frame).2 with marked | last
        · exact .inl marked
        · refine .inr ?_
          rw [same, last]

end OverlayChange

namespace Overlay

/-- `set_write_budget` on a new overlay. -/
def budgeted (maxPages maxBytes baseSize : Nat) : Overlay :=
  { Overlay.new baseSize with writeBudget := some ⟨maxPages, maxBytes, {}⟩ }

def writeStats (self : Overlay) : WriteStats := (self.writeBudget.map WriteBudget.stats).getD {}

theorem accounted_budgeted {store : Store} {block : Superblock} {base : List UInt8}
    (serves : Serves store block base) (maxPages maxBytes : Nat) :
    Accounted store.memory block base maxPages maxBytes
      ⟨⟨budgeted maxPages maxBytes base.length, store⟩, [.resident 0]⟩ where
  steady := by
    have bounded : base.length < u64Bound := by
      rw [serves.size_eq]
      exact block.dbSize.toNat_lt
    have sound := sound_new bounded
    exact ⟨⟨sound.pageLength, sound.cleanLength, sound.size⟩, serves, rfl⟩
  ledger := ⟨{}, rfl, ledger_new maxPages maxBytes⟩
  recorded := List.mem_singleton.mpr rfl

theorem Accounted.stats {memory : Memory} {block : Superblock} {base : List UInt8} {maxPages maxBytes : Nat}
    {watched : Watched OverlayFrame BudgetEvent}
    (accounted : Accounted memory block base maxPages maxBytes watched) :
    Ledger maxPages maxBytes watched.state.self.writeStats watched.seen := by
  obtain ⟨stats, current, ledger⟩ := accounted.ledger
  rw [writeStats, current]
  exact ledger

theorem Ledger.exceeded_iff {maxPages maxBytes : Nat} {stats : WriteStats} {seen : List BudgetEvent}
    (ledger : Ledger maxPages maxBytes stats seen) : stats.exceeded.isSome ↔ ∃ event ∈ seen, event.Refused := by
  rw [ledger.exceeded, Option.isSome_map, List.isSome_findSome?]
  simp only [List.any_eq_true, BudgetEvent.refusal_isSome]

end Overlay

/-- The budget over a run of writes and truncates on a new overlay. -/
theorem overlay_write_budget_is_exact {store : Store} {block : Superblock} {base : List UInt8}
    (serves : Serves store block base) (maxPages maxBytes : UInt64) (changes : List OverlayChange) :
    let start : OverlayFrame := ⟨Overlay.budgeted maxPages.toNat maxBytes.toNat base.length, store⟩
    let run := OverlayCall.performAll (changes.map OverlayChange.toCall) start
    let watched := OverlayChange.watchAll changes ⟨start, [.resident 0]⟩
    let seen := watched.2.seen
    let stats := run.2.self.writeStats
    -- The observed run is the run.
    (watched.1 = run.1 ∧ watched.2.state = run.2) ∧
    -- Resident pages are separate buffers: their bytes are fewer than there are addresses.
    (∀ pages, .resident pages ∈ seen → pages ≤ maxPages.toNat ∧
      (pages * sqlitePageSize < u64Bound → pages * sqlitePageSize ≤ maxBytes.toNat)) ∧
    (.resident stats.dirtyPages ∈ seen ∧ ∀ pages, .resident pages ∈ seen → pages ≤ stats.dirtyPages) ∧
    (stats.exceeded.isSome ↔ ∃ event ∈ seen, event.Refused) ∧
    (∀ pages, seen.findSome? BudgetEvent.refusal = some pages →
      stats.exceeded = some (decide (pages ≤ maxPages.toNat)) ∧
        (maxPages.toNat < pages ∨ maxBytes.toNat < pages * sqlitePageSize)) ∧
    (∀ more, stats.exceeded.isSome →
      (OverlayCall.performAll ((changes ++ more).map OverlayChange.toCall) start).2.self.writeStats.exceeded =
        stats.exceeded) ∧
    (seen.Pairwise fun earlier later => earlier.Refused → ¬ later.Granted) ∧
    ((∀ event ∈ seen, ¬ event.Refused) →
      OverlayCall.performAll (changes.map OverlayChange.toCall) ⟨Overlay.new base.length, store⟩ =
        (run.1, Overlay.unbudgeted run.2)) := by
  intro start run watched seen stats
  have initial := Overlay.accounted_budgeted serves maxPages.toNat maxBytes.toNat
  have accounted := OverlayChange.watchAll_accounted changes initial
  obtain ⟨added, erased⟩ := OverlayChange.watchAll_erases changes ⟨start, [.resident 0]⟩
  have outcomes : watched.1 = run.1 := congrArg Prod.fst erased
  have state : watched.2.state = run.2 := congrArg (fun result => result.2.state) erased
  have ledger : Overlay.Ledger maxPages.toNat maxBytes.toNat stats seen := by
    have balanced := accounted.stats
    rw [state] at balanced
    exact balanced
  refine ⟨⟨outcomes, state⟩, ?_, ⟨ledger.reached, ledger.greatest⟩, ledger.exceeded_iff, ?_, ?_, ledger.sticky, ?_⟩
  · intro pages member
    obtain ⟨fits, bytes⟩ := ledger.within pages member
    refine ⟨fits, fun addressable => ?_⟩
    have unsaturated : pages * sqlitePageSize ≤ u64Bound - 1 := Nat.le_sub_one_of_lt addressable
    rw [min_eq_left unsaturated] at bytes
    exact bytes
  · intro pages first
    refine ⟨?_, ledger.violated pages first⟩
    rw [ledger.exceeded, first]
    rfl
  · intro more marked
    have longer := OverlayChange.watchAll_accounted (changes ++ more) initial
    obtain ⟨_, erasedAll⟩ := OverlayChange.watchAll_erases (changes ++ more) ⟨start, [.resident 0]⟩
    have balanced := longer.stats
    obtain ⟨later, erasedMore⟩ := OverlayChange.watchAll_erases more watched.2
    have extended : (OverlayChange.watchAll (changes ++ more) ⟨start, [.resident 0]⟩).2.seen = seen ++ later := by
      rw [OverlayChange.watchAll_append]
      exact congrArg (fun result => result.2.seen) erasedMore
    have last : (OverlayChange.watchAll (changes ++ more) ⟨start, [.resident 0]⟩).2.state =
        (OverlayCall.performAll ((changes ++ more).map OverlayChange.toCall) start).2 :=
      congrArg (fun result => result.2.state) erasedAll
    rw [last, extended] at balanced
    have first : (seen.findSome? BudgetEvent.refusal).isSome := by
      rw [ledger.exceeded, Option.isSome_map] at marked
      exact marked
    rw [balanced.exceeded, ledger.exceeded, List.findSome?_append, Option.or_of_isSome first]
  · intro accepted
    rcases OverlayChange.performAll_unbudgeted changes start with exceeded | same
    · obtain ⟨budget, current, marked⟩ := exceeded
      have stored : stats = budget.stats := by
        simp only [stats, Overlay.writeStats, run, current]
        rfl
      rw [← stored] at marked
      obtain ⟨event, member, refused⟩ := ledger.exceeded_iff.mp marked
      exact absurd refused (accepted event member)
    · exact same

/-- A budget of no pages refuses the first one. -/
theorem overlay_write_budget_refuses_first_page :
    (OverlayCall.performAll [.write 0 [7]] ⟨Overlay.budgeted 0 0 0, freshStore⟩).2.self.writeStats.exceeded =
      some false := by
  have exact_ := overlay_write_budget_is_exact serves_freshStore 0 0 [.write 0 [7]]
  obtain ⟨_, _, _, _, first, _⟩ := exact_
  exact (first 1 rfl).1

end IcSqliteVfs.SqliteVfs
