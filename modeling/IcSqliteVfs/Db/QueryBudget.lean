import IcSqliteVfs.Db.Query

namespace IcSqliteVfs.Db.Query

open IcSqliteVfs.Semantics

/-! # Which streams a budget admits

The row and byte limits stop the loop at a row; the instruction limit may stop it
anywhere, but what counts in the end is the last reading of the counter.
-/

variable {μ τ α : Type} {host : QueryHost} {state : BudgetLimit} {budget : QueryBudget}
  {map : Row → Action μ DbError τ} {call next last : QueryCall μ}

/-! ## The flag -/

/-- The budget is overrun at this reading of the counter. -/
def Over (host : QueryHost) (state : BudgetLimit) (reading : Nat) : Prop :=
  state.isOver (host.counter.map fun counter => counter reading) = true

/-- The flag is set only after the counter showed it. -/
def Honest (host : QueryHost) (state : BudgetLimit) (call : QueryCall μ) : Prop :=
  call.exceeded = true → ∃ reading < call.readings, Over host state reading

/-- Only the counter was read, and the flag may have been set. -/
structure Ticked (host : QueryHost) (state : BudgetLimit) (before after : QueryCall μ) : Prop where
  connection : after.connection = before.connection
  resultRows : after.metrics.resultRows = before.metrics.resultRows
  resultBytes : after.metrics.resultBytes = before.metrics.resultBytes
  mapper : after.mapper = before.mapper
  readings : before.readings ≤ after.readings
  sticky : before.exceeded = true → after.exceeded = true
  honest : Honest host state before → Honest host state after

theorem Ticked.refl (call : QueryCall μ) : Ticked host state call call :=
  ⟨rfl, rfl, rfl, rfl, Nat.le_refl _, id, id⟩

theorem Ticked.trans (first : Ticked host state call next) (second : Ticked host state next last) :
    Ticked host state call last :=
  ⟨second.connection.trans first.connection, second.resultRows.trans first.resultRows,
    second.resultBytes.trans first.resultBytes, second.mapper.trans first.mapper,
    Nat.le_trans first.readings second.readings, fun overrun => second.sticky (first.sticky overrun),
    fun honest => second.honest (first.honest honest)⟩

/-- The metrics that the limits are not about. -/
theorem ticked_record {metrics : QueryMetrics} (rows : metrics.resultRows = call.metrics.resultRows)
    (bytes : metrics.resultBytes = call.metrics.resultBytes) : Ticked host state call { call with metrics } :=
  ⟨rfl, rows, bytes, rfl, Nat.le_refl _, id, id⟩

theorem instructionCounter_returns (state : BudgetLimit) (call : QueryCall μ) :
    Action.Returns (instructionCounter host) call fun reading next =>
      reading = (host.counter.map fun counter => counter call.readings) ∧ next.exceeded = call.exceeded ∧
        next.metrics = call.metrics ∧
        next.readings = call.readings + (if host.counter.isSome then 1 else 0) ∧ Ticked host state call next := by
  unfold Action.Returns instructionCounter
  cases host.counter with
  | none => exact ⟨_, _, rfl, rfl, rfl, rfl, rfl, .refl call⟩
  | some counter =>
      refine ⟨_, _, rfl, rfl, rfl, rfl, rfl, rfl, rfl, rfl, rfl, Nat.le_succ _, id, ?_⟩
      intro honest exceeded
      obtain ⟨reading, before, overrun⟩ := honest exceeded
      exact ⟨reading, Nat.lt_succ_of_lt before, overrun⟩

theorem delta_returns (state : BudgetLimit) (start : Option UInt64) (call : QueryCall μ) :
    Action.Returns (delta host start) call fun _ next => next.metrics = call.metrics ∧ Ticked host state call next := by
  refine Action.Returns.bind (instructionCounter_returns state call) ?_
  rintro reading next ⟨_, _, metrics, _, ticked⟩
  split
  · exact Action.returns_pure ⟨metrics, ticked⟩
  · exact Action.returns_pure ⟨metrics, ticked⟩

theorem check_none (unlimited : state.limit = none) (call : QueryCall μ) : state.check host call = (.ok (), call) := by
  simp only [BudgetLimit.check, unlimited]
  rfl

/-- A check with a limit, exactly. -/
theorem check_some {limit : UInt64} (limited : state.limit = some limit) (call : QueryCall μ) :
    ∃ next, state.check host call =
        (if next.exceeded then .err (.budgetExceeded .instructions) else .ok (), next) ∧
      Ticked host state call next ∧ next.metrics = call.metrics ∧
      next.readings = call.readings + (if host.counter.isSome then 1 else 0) ∧
      (next.exceeded = true ↔ call.exceeded = true ∨ Over host state call.readings) := by
  obtain ⟨reading, read, ended, shown, flag, metrics, count, ticked⟩ :=
    @instructionCounter_returns μ host state call
  let next : QueryCall μ := { read with exceeded := read.exceeded || state.isOver reading }
  have checked : state.check host call =
      (if next.exceeded then .err (.budgetExceeded .instructions) else .ok (), next) := by
    simp only [BudgetLimit.check, limited]
    rw [Action.bind_of_ok _ ended]
    rfl
  have exact_ : next.exceeded = true ↔ call.exceeded = true ∨ Over host state call.readings := by
    rw [Over, ← shown, ← flag]
    exact Bool.or_eq_true_iff
  have counted : Over host state call.readings → call.readings < next.readings := by
    intro overrun
    cases counter : host.counter with
    | none =>
        rw [Over, counter] at overrun
        simp [BudgetLimit.isOver] at overrun
    | some readings =>
        change call.readings < read.readings
        rw [count, counter]
        exact Nat.lt_succ_self _
  refine ⟨next, checked, ⟨ticked.connection, ticked.resultRows, ticked.resultBytes, ticked.mapper, ticked.readings,
    fun overrun => exact_.mpr (.inl overrun), ?_⟩, metrics, count, exact_⟩
  intro honest overrun
  rcases exact_.mp overrun with before | now
  · obtain ⟨index, earlier, shown⟩ := honest before
    exact ⟨index, Nat.lt_of_lt_of_le earlier ticked.readings, shown⟩
  · exact ⟨call.readings, counted now, now⟩

/-- A check passes, or the flag is set. -/
theorem check_cases (host : QueryHost) (state : BudgetLimit) (call : QueryCall μ) :
    (∃ next, state.check host call = (.ok (), next) ∧ Ticked host state call next) ∨
    ∃ next, state.check host call = (.err (.budgetExceeded .instructions), next) ∧ Ticked host state call next ∧
      next.exceeded = true := by
  cases limit : state.limit with
  | none => exact .inl ⟨call, check_none limit call, .refl call⟩
  | some bound =>
      obtain ⟨next, checked, ticked, _, _, _⟩ := @check_some μ host state bound limit call
      by_cases overrun : next.exceeded = true
      · rw [if_pos overrun] at checked
        exact .inr ⟨next, checked, ticked, overrun⟩
      · rw [if_neg overrun] at checked
        exact .inl ⟨next, checked, ticked⟩

theorem progress_returns (host : QueryHost) (state : BudgetLimit) (times : Nat) (call : QueryCall μ) :
    Action.Returns (state.progress host times) call fun stops next =>
      Ticked host state call next ∧ (stops = true → next.exceeded = true) := by
  induction times generalizing call with
  | zero => exact Action.returns_pure ⟨.refl call, nofun⟩
  | succ times ih =>
      rw [BudgetLimit.progress]
      rcases check_cases host state call with passed | stopped
      · obtain ⟨next, ended, ticked⟩ := passed
        have kept : result (state.check host) call = (.ok (.ok ()), next) := by rw [result, ended]
        refine Action.returns_after kept ((ih next).imp ?_)
        rintro stops last ⟨later, overrun⟩
        exact ⟨ticked.trans later, overrun⟩
      · obtain ⟨next, ended, ticked, overrun⟩ := stopped
        have kept : result (state.check host) call = (.ok (.error (.budgetExceeded .instructions)), next) := by
          rw [result, ended]
        exact Action.returns_after kept (Action.returns_pure ⟨ticked, fun _ => overrun⟩)

/-- A call into SQLite ends with its own error, or the flag is set. -/
theorem watched_returns (host : QueryHost) (state : BudgetLimit) (times : Nat) (error : Option DbError)
    (call : QueryCall μ) :
    Action.Returns (state.watched host times error) call fun ended next =>
      Ticked host state call next ∧ (ended = error ∨ next.exceeded = true) := by
  rw [BudgetLimit.watched]
  refine Action.Returns.bind (progress_returns host state _ call) ?_
  rintro stops next ⟨ticked, overrun⟩
  cases stops with
  | true => exact Action.returns_pure ⟨ticked, .inr (overrun rfl)⟩
  | false => exact Action.returns_pure ⟨ticked, .inl rfl⟩

theorem step_cases (host : QueryHost) (state : BudgetLimit) (times : Nat) (error : Option DbError)
    (call : QueryCall μ) :
    (∃ next, step host state times error call = (.ok (), next) ∧ Ticked host state call next ∧
      (error = none ∨ next.exceeded = true)) ∨
    ∃ failure next, step host state times error call = (.err failure, next) ∧ Ticked host state call next ∧
      (next.exceeded = true ∨ ∃ own, error = some own ∧ failure = .database own) := by
  rw [step]
  rcases check_cases host state call with ⟨first, checked, ticked⟩ | ⟨first, checked, ticked, overrun⟩
  · obtain ⟨stepped, read, ended, steps, own⟩ := watched_returns host state times error first
    rw [Action.bind_of_ok _ checked, Action.bind_of_ok _ ended]
    rcases check_cases host state read with ⟨last, again, ticks⟩ | ⟨last, again, ticks, overrun⟩
    · have all := (ticked.trans steps).trans ticks
      have kept : stepped = error ∨ last.exceeded = true := own.imp id ticks.sticky
      rw [Action.bind_of_ok _ again]
      cases stepped with
      | none => exact .inl ⟨last, rfl, all, kept.imp Eq.symm id⟩
      | some failure => exact .inr ⟨_, last, rfl, all, kept.symm.imp id fun same => ⟨failure, same.symm, rfl⟩⟩
    · rw [Action.bind_of_err _ again]
      exact .inr ⟨_, last, rfl, (ticked.trans steps).trans ticks, .inl overrun⟩
  · rw [Action.bind_of_err _ checked]
    exact .inr ⟨_, first, rfl, ticked, .inl overrun⟩

/-! ## The loop -/

/-- The mapper after it was given these rows. -/
def handOver (map : Row → Action μ DbError τ) (rows : List Row) (mapper : μ) : μ :=
  rows.foldl (fun mapper row => (map row mapper).2) mapper

def payload (rows : List Row) : Nat := (rows.map fun row => (payloadBytes row).toNat).sum

/-- How the loop ends if no check of the instructions stops it. -/
def expected (budget : QueryBudget) (map : Row → Action μ DbError τ) (ending : Option DbError) :
    List Row → Nat → Nat → μ → List τ → Outcome QueryError (List τ)
  | [], _, _, _, output =>
      match ending with
      | some error => .err (.database error)
      | none => .ok output
  | row :: rest, count, bytes, mapper, output =>
      if budget.maxRows.toNat ≤ count then .err (.budgetExceeded .rows)
      else if budget.maxResultBytes.toNat < bytes + (payloadBytes row).toNat then .err (.budgetExceeded .resultBytes)
      else
        match map row mapper with
        | (.ok value, next) =>
            expected budget map ending rest (count + 1) (bytes + (payloadBytes row).toNat) next (output ++ [value])
        | (.err error, _) => .err (.database error)
        | (.panic, _) => .panic

/-- The counts are within the limits. -/
structure Within (budget : QueryBudget) (call : QueryCall μ) : Prop where
  rows : call.metrics.resultRows ≤ budget.maxRows
  bytes : call.metrics.resultBytes ≤ budget.maxResultBytes

/-- These rows, and no others, were counted and handed to the mapper. -/
structure Counted (map : Row → Action μ DbError τ) (handed : List Row) (before after : QueryCall μ) : Prop where
  mapper : after.mapper = handOver map handed before.mapper
  rows : after.metrics.resultRows.toNat = before.metrics.resultRows.toNat + handed.length
  bytes : after.metrics.resultBytes.toNat = before.metrics.resultBytes.toNat + payload handed

theorem counted_nil (ticked : Ticked host state call next) : Counted map [] call next :=
  ⟨ticked.mapper, congrArg UInt64.toNat ticked.resultRows, congrArg UInt64.toNat ticked.resultBytes⟩

theorem Counted.cons {row : Row} {handed : List Row} (first : Counted map [row] call next)
    (later : Counted map handed next last) : Counted map (row :: handed) call last where
  mapper := by
    rw [later.mapper, first.mapper]
    rfl
  rows := by
    simp only [later.rows, first.rows, List.length_cons, List.length_nil]
    omega
  bytes := by
    rw [later.bytes, first.bytes]
    simp only [payload, List.map_cons, List.sum_cons, List.map_nil, List.sum_nil]
    omega

theorem toNat_saturatingSub {left right : UInt64} (fits : right ≤ left) :
    (saturatingSub left right).toNat = left.toNat - right.toNat := by
  rw [saturatingSub, if_pos fits, UInt64.toNat_sub_of_le _ _ fits]

/-- A row within the limits is counted, without a carry. -/
theorem admitRow_cases (within : Within budget call) (row : Row) :
    (budget.maxRows.toNat ≤ call.metrics.resultRows.toNat ∧
      admitRow budget row call = (.err (.budgetExceeded .rows), call)) ∨
    (¬ budget.maxRows.toNat ≤ call.metrics.resultRows.toNat ∧
      budget.maxResultBytes.toNat < call.metrics.resultBytes.toNat + (payloadBytes row).toNat ∧
      admitRow budget row call = (.err (.budgetExceeded .resultBytes), call)) ∨
    (¬ budget.maxRows.toNat ≤ call.metrics.resultRows.toNat ∧
      ¬ budget.maxResultBytes.toNat < call.metrics.resultBytes.toNat + (payloadBytes row).toNat ∧
      ∃ metrics, admitRow budget row call = (.ok (), { call with metrics }) ∧
        metrics.resultRows.toNat = call.metrics.resultRows.toNat + 1 ∧
        metrics.resultBytes.toNat = call.metrics.resultBytes.toNat + (payloadBytes row).toNat ∧
        Within budget { call with metrics }) := by
  have room := toNat_saturatingSub within.bytes
  have fits := UInt64.le_iff_toNat_le.mp within.bytes
  have rowsBound := budget.maxRows.toNat_lt
  have bytesBound := budget.maxResultBytes.toNat_lt
  unfold admitRow
  by_cases full : budget.maxRows ≤ call.metrics.resultRows
  · rw [if_pos full]
    exact .inl ⟨UInt64.le_iff_toNat_le.mp full, rfl⟩
  · rw [if_neg full]
    have space : ¬ budget.maxRows.toNat ≤ call.metrics.resultRows.toNat := mt UInt64.le_iff_toNat_le.mpr full
    by_cases large : saturatingSub budget.maxResultBytes call.metrics.resultBytes < payloadBytes row
    · rw [if_pos large]
      have overrun := UInt64.lt_iff_toNat_lt.mp large
      rw [room] at overrun
      exact .inr (.inl ⟨space, by omega, rfl⟩)
    · rw [if_neg large]
      have small := mt UInt64.lt_iff_toNat_lt.mpr large
      rw [room] at small
      have rows : (call.metrics.resultRows + 1).toNat = call.metrics.resultRows.toNat + 1 := by
        rw [UInt64.toNat_add, UInt64.toNat_one, Nat.mod_eq_of_lt (by omega)]
      have bytes : (call.metrics.resultBytes + payloadBytes row).toNat =
          call.metrics.resultBytes.toNat + (payloadBytes row).toNat := by
        rw [UInt64.toNat_add, Nat.mod_eq_of_lt (by omega)]
      refine .inr (.inr ⟨space, by omega, _, rfl, rows, bytes, ?_, ?_⟩)
      · rw [UInt64.le_iff_toNat_le]
        change (call.metrics.resultRows + 1).toNat ≤ _
        omega
      · rw [UInt64.le_iff_toNat_le]
        change (call.metrics.resultBytes + payloadBytes row).toNat ≤ _
        omega

/-- How the loop over these rows came to an end, if the statement was accepted. -/
structure Scanned (accepted : Prop) (host : QueryHost) (state : BudgetLimit) (budget : QueryBudget)
    (map : Row → Action μ DbError τ) (rows : List Row) (output : List τ) (before : QueryCall μ)
    (ended : Outcome QueryError (List τ) × QueryCall μ) : Prop where
  connection : ended.2.connection = before.connection
  readings : before.readings ≤ ended.2.readings
  sticky : before.exceeded = true → ended.2.exceeded = true
  honest : Honest host state before → Honest host state ended.2
  counted : ∃ handed, handed <+: rows ∧ Counted map handed before ended.2
  within : Within budget ended.2
  outcome : accepted → ended.2.exceeded = false → ended.1 = expected budget map host.ending rows
    before.metrics.resultRows.toNat before.metrics.resultBytes.toNat before.mapper output
  panicked : ended.1 = .panic → ∃ row ∈ rows, ∃ mapper, (map row mapper).1 = .panic

section Scanned

variable {accepted : Prop} {rows : List Row} {row : Row} {output : List τ} {ended : Outcome QueryError (List τ) × QueryCall μ}

theorem Within.ticked (within : Within budget call) (ticked : Ticked host state call next) : Within budget next :=
  ⟨by rw [ticked.resultRows]; exact within.rows, by rw [ticked.resultBytes]; exact within.bytes⟩

/-- The loop ended without a row handed over. -/
theorem scanned_at {outcome : Outcome QueryError (List τ)} (ticked : Ticked host state call next)
    (within : Within budget call) (reports : outcome ≠ .panic)
    (ends : accepted → next.exceeded = false → outcome = expected budget map host.ending rows
      call.metrics.resultRows.toNat call.metrics.resultBytes.toNat call.mapper output) :
    Scanned accepted host state budget map rows output call (outcome, next) where
  connection := ticked.connection
  readings := ticked.readings
  sticky := ticked.sticky
  honest := ticked.honest
  counted := ⟨[], List.nil_prefix, counted_nil ticked⟩
  within := within.ticked ticked
  outcome := ends
  panicked := fun panicked => absurd panicked reports

theorem Scanned.since (ticked : Ticked host state call next)
    (scanned : Scanned accepted host state budget map rows output next ended) :
    Scanned accepted host state budget map rows output call ended where
  connection := scanned.connection.trans ticked.connection
  readings := Nat.le_trans ticked.readings scanned.readings
  sticky := fun overrun => scanned.sticky (ticked.sticky overrun)
  honest := fun honest => scanned.honest (ticked.honest honest)
  counted := by
    obtain ⟨handed, start, counted⟩ := scanned.counted
    refine ⟨handed, start, ?_, ?_, ?_⟩
    · rw [counted.mapper, ticked.mapper]
    · rw [counted.rows, ticked.resultRows]
    · rw [counted.bytes, ticked.resultBytes]
  within := scanned.within
  outcome := by
    intro holds unset
    rw [scanned.outcome holds unset, ticked.resultRows, ticked.resultBytes, ticked.mapper]
  panicked := scanned.panicked

/-- The mapper was given a row that was counted. -/
theorem counted_row {metrics : QueryMetrics} {mapper : μ}
    (rows : metrics.resultRows.toNat = call.metrics.resultRows.toNat + 1)
    (bytes : metrics.resultBytes.toNat = call.metrics.resultBytes.toNat + (payloadBytes row).toNat)
    (mapped : (map row call.mapper).2 = mapper) :
    Counted map [row] call { call with metrics, mapper } where
  mapper := mapped.symm
  rows := rows
  bytes := by
    rw [bytes]
    simp [payload]

/-- The loop stopped at a row that the mapper was given. -/
theorem scanned_row {rest : List Row} {outcome : Outcome QueryError (List τ)} (counted : Counted map [row] call next)
    (connection : next.connection = call.connection) (readings : next.readings = call.readings)
    (flag : next.exceeded = call.exceeded) (within : Within budget next) (ticked : Ticked host state next last)
    (ends : accepted → last.exceeded = false → outcome = expected budget map host.ending (row :: rest)
      call.metrics.resultRows.toNat call.metrics.resultBytes.toNat call.mapper output)
    (panicked : outcome = .panic → (map row call.mapper).1 = .panic) :
    Scanned accepted host state budget map (row :: rest) output call (outcome, last) where
  connection := ticked.connection.trans connection
  readings := readings ▸ ticked.readings
  sticky := fun overrun => ticked.sticky (flag.trans overrun)
  honest := by
    intro honest
    refine ticked.honest fun overrun => ?_
    obtain ⟨reading, before, shown⟩ := honest (flag.symm.trans overrun)
    exact ⟨reading, readings.symm ▸ before, shown⟩
  counted := ⟨[row], ⟨rest, rfl⟩, counted.cons (counted_nil ticked)⟩
  within := within.ticked ticked
  outcome := ends
  panicked := fun unwound => ⟨row, List.mem_cons_self, call.mapper, panicked unwound⟩

/-- The loop went on behind a row that the mapper was given. -/
theorem Scanned.behind {rest : List Row} {value : τ} {mapper : μ} (counted : Counted map [row] call next)
    (connection : next.connection = call.connection) (readings : next.readings = call.readings)
    (flag : next.exceeded = call.exceeded) (mapped : map row call.mapper = (.ok value, mapper))
    (space : ¬ budget.maxRows.toNat ≤ call.metrics.resultRows.toNat)
    (fits : ¬ budget.maxResultBytes.toNat < call.metrics.resultBytes.toNat + (payloadBytes row).toNat)
    (scanned : Scanned accepted host state budget map rest (output ++ [value]) next ended) :
    Scanned accepted host state budget map (row :: rest) output call ended where
  connection := scanned.connection.trans connection
  readings := readings ▸ scanned.readings
  sticky := fun overrun => scanned.sticky (flag.trans overrun)
  honest := by
    intro honest
    refine scanned.honest fun overrun => ?_
    obtain ⟨reading, before, shown⟩ := honest (flag.symm.trans overrun)
    exact ⟨reading, readings.symm ▸ before, shown⟩
  counted := by
    obtain ⟨handed, start, later⟩ := scanned.counted
    exact ⟨row :: handed, List.cons_prefix_cons.mpr ⟨rfl, start⟩, counted.cons later⟩
  within := scanned.within
  outcome := by
    intro holds unset
    have bytes : next.metrics.resultBytes.toNat = call.metrics.resultBytes.toNat + (payloadBytes row).toNat := by
      rw [counted.bytes]
      simp [payload]
    have handed : next.mapper = mapper := by
      rw [counted.mapper]
      exact congrArg Prod.snd mapped
    rw [scanned.outcome holds unset, counted.rows, bytes, handed, expected, if_neg space, if_neg fits, mapped]
    rfl
  panicked := by
    intro unwound
    obtain ⟨other, member, mapper, panics⟩ := scanned.panicked unwound
    exact ⟨other, List.mem_cons_of_mem _ member, mapper, panics⟩

end Scanned

/-- The loop, over every list of rows. -/
theorem scan_scanned (accepted : Prop) (host : QueryHost) (state : BudgetLimit) (map : Row → Action μ DbError τ) (rows : List Row)
    (output : List τ) (within : Within budget call) :
    Scanned accepted host state budget map rows output call (scan host budget map state rows output call) := by
  induction rows generalizing output call with
  | nil =>
      rw [scan]
      rcases step_cases host state (host.stepping 0) host.ending call with
        ⟨next, ended, ticked, own⟩ | ⟨failure, next, ended, ticked, own⟩
      · rw [Action.bind_of_ok _ ended]
        refine scanned_at ticked within nofun fun _ unset => ?_
        rcases own with none_ | overrun
        · rw [none_]
          rfl
        · exact absurd overrun (by rw [unset]; decide)
      · rw [Action.bind_of_err _ ended]
        refine scanned_at ticked within nofun fun _ unset => ?_
        rcases own with overrun | ⟨own, some_, rfl⟩
        · exact absurd overrun (by rw [unset]; decide)
        · rw [some_]
          rfl
  | cons row rest ih =>
      rw [scan]
      rcases step_cases host state (host.stepping (rest.length + 1)) none call with
        ⟨next, ended, ticked, _⟩ | ⟨failure, next, ended, ticked, own⟩
      · rw [Action.bind_of_ok _ ended]
        have withinNext := within.ticked ticked
        refine Scanned.since ticked ?_
        rcases admitRow_cases withinNext row with full | large | admitted
        · obtain ⟨full, stopped⟩ := full
          rw [Action.bind_of_err _ stopped]
          exact scanned_at (.refl next) withinNext nofun fun _ _ => by rw [expected, if_pos full]
        · obtain ⟨space, large, stopped⟩ := large
          rw [Action.bind_of_err _ stopped]
          exact scanned_at (.refl next) withinNext nofun fun _ _ => by rw [expected, if_neg space, if_pos large]
        · obtain ⟨space, fits, metrics, admitted, countedRows, countedBytes, withinAfter⟩ := admitted
          rw [Action.bind_of_ok _ admitted]
          cases mapped : map row next.mapper with
          | mk outcome mapper =>
              let handed : QueryCall μ := { next with metrics, mapper }
              have counted : Counted map [row] next handed :=
                counted_row countedRows countedBytes (by rw [mapped])
              have withinHanded : Within budget handed := ⟨withinAfter.rows, withinAfter.bytes⟩
              cases outcome with
              | panic =>
                  have unwound : callMapper map row { next with metrics } = (.panic, handed) := by
                    simp only [callMapper, mapped]
                    rfl
                  rw [Action.bind_of_panic _ unwound]
                  refine scanned_row counted rfl rfl rfl withinHanded (.refl handed) (fun _ _ => ?_) fun _ => by rw [mapped]
                  rw [expected, if_neg space, if_neg fits, mapped]
              | err error =>
                  have failed : callMapper map row { next with metrics } = (.ok (.error error), handed) := by
                    simp only [callMapper, mapped]
                    rfl
                  rw [Action.bind_of_ok _ failed]
                  rcases check_cases host state handed with ⟨last, checked, ticks⟩ | ⟨last, checked, ticks, overrun⟩
                  · rw [Action.bind_of_ok _ checked]
                    refine scanned_row counted rfl rfl rfl withinHanded ticks (fun _ _ => ?_) nofun
                    rw [expected, if_neg space, if_neg fits, mapped]
                  · rw [Action.bind_of_err _ checked]
                    exact scanned_row counted rfl rfl rfl withinHanded ticks
                      (fun _ unset => absurd overrun (by rw [unset]; decide)) nofun
              | ok value =>
                  have returned : callMapper map row { next with metrics } = (.ok (.ok value), handed) := by
                    simp only [callMapper, mapped]
                    rfl
                  rw [Action.bind_of_ok _ returned]
                  rcases check_cases host state handed with ⟨last, checked, ticks⟩ | ⟨last, checked, ticks, overrun⟩
                  · rw [Action.bind_of_ok _ checked]
                    have later := (ih (output ++ [value]) (withinHanded.ticked ticks)).since ticks
                    exact Scanned.behind counted rfl rfl rfl mapped space fits later
                  · rw [Action.bind_of_err _ checked]
                    exact scanned_row counted rfl rfl rfl withinHanded ticks
                      (fun _ unset => absurd overrun (by rw [unset]; decide)) nofun
      · rw [Action.bind_of_err _ ended]
        refine scanned_at ticked within nofun fun _ unset => ?_
        rcases own with overrun | ⟨own, some_, _⟩
        · exact absurd overrun (by rw [unset]; decide)
        · cases some_

/-! ## Around the loop -/

/-- A phase only reads the counter; it fails when the flag was set, or when
SQLite did not accept something. -/
def Ticks (host : QueryHost) (state : BudgetLimit) (phase : QueryM μ Unit) (accepted : Prop) : Prop :=
  ∀ call, ∃ outcome next, phase call = (outcome, next) ∧ Ticked host state call next ∧
    (outcome = .ok () ∨ ∃ error, outcome = .err error ∧ (next.exceeded = true ∨ ¬ accepted))

section Ticks

variable {phase other : QueryM μ Unit} {accepted : Prop}

theorem ticks_pure : Ticks host state (pure () : QueryM μ Unit) accepted :=
  fun call => ⟨.ok (), call, rfl, .refl call, .inl rfl⟩

theorem ticks_fail (error : QueryError) (refused : ¬ accepted) :
    Ticks host state (Action.fail error : QueryM μ Unit) accepted :=
  fun call => ⟨.err error, call, rfl, .refl call, .inr ⟨error, rfl, .inr refused⟩⟩

theorem ticks_raise {error : Option DbError} (denies : error ≠ none → ¬ accepted) :
    Ticks host state (raise error : QueryM μ Unit) accepted := by
  cases error with
  | none => exact ticks_pure
  | some error => exact ticks_fail _ (denies nofun)

theorem ticks_check (host : QueryHost) (state : BudgetLimit) : Ticks host state (state.check host : QueryM μ Unit) accepted := by
  intro call
  rcases check_cases host state call with ⟨next, ended, ticked⟩ | ⟨next, ended, ticked, overrun⟩
  · exact ⟨_, next, ended, ticked, .inl rfl⟩
  · exact ⟨_, next, ended, ticked, .inr ⟨_, rfl, .inl overrun⟩⟩

theorem Ticks.bind (first : Ticks host state phase accepted) (second : Ticks host state other accepted) :
    Ticks host state (phase >>= fun _ => other) accepted := by
  intro call
  obtain ⟨outcome, next, ended, ticked, how⟩ := first call
  rcases how with rfl | ⟨error, rfl, why⟩
  · obtain ⟨outcome, last, again, ticks, how⟩ := second next
    exact ⟨outcome, last, by rw [Action.bind_of_ok _ ended, again], ticked.trans ticks, how⟩
  · exact ⟨_, next, Action.bind_of_err _ ended, ticked, .inr ⟨error, rfl, why⟩⟩

theorem ticks_prepareSql (denies : host.prepared ≠ none → ¬ accepted) :
    Ticks host state (prepareSql host state : QueryM μ Unit) accepted := by
  intro call
  obtain ⟨stopped, next, ended, ticked, own⟩ := watched_returns host state host.preparing host.prepared call
  rw [prepareSql, Action.bind_of_ok _ ended]
  cases stopped with
  | none => exact ⟨_, next, rfl, ticked, .inl rfl⟩
  | some error =>
      refine ⟨_, next, rfl, ticked, .inr ⟨_, rfl, ?_⟩⟩
      exact own.symm.imp id fun same => denies (by rw [← same]; nofun)

theorem ticks_bindChecked {bindings : List (Option DbError)}
    (denies : (∃ binding ∈ bindings, binding ≠ none) → ¬ accepted) :
    Ticks host state (bindChecked host state bindings : QueryM μ Unit) accepted := by
  induction bindings with
  | nil => exact ticks_pure
  | cons bound rest ih =>
      have others := ih fun ⟨binding, member, refused⟩ => denies ⟨binding, List.mem_cons_of_mem _ member, refused⟩
      have first : Ticks host state (raise bound : QueryM μ Unit) accepted :=
        ticks_raise fun refused => denies ⟨bound, List.mem_cons_self, refused⟩
      exact (ticks_check host state).bind ((ticks_check host state).bind (first.bind others))

theorem ticks_bindValues (refused : host.bindRefused ≠ none → ¬ accepted)
    (denies : (∃ binding ∈ host.bindings, binding ≠ none) → ¬ accepted) :
    Ticks host state (bindValues host budget state : QueryM μ Unit) accepted := by
  rw [bindValues]
  refine (ticks_raise refused).bind ?_
  split
  · exact ticks_bindChecked denies
  · refine ticks_raise fun failed => denies ?_
    obtain ⟨error, found⟩ := Option.ne_none_iff_exists'.mp failed
    obtain ⟨binding, member, same⟩ := List.exists_of_findSome?_eq_some found
    exact ⟨binding, member, Option.ne_none_iff_exists'.mpr ⟨error, same⟩⟩

/-- What a phase is recorded as is not what the limits are about. -/
def Records (record : Option UInt64 → QueryMetrics → QueryMetrics) : Prop :=
  ∀ spent metrics, (record spent metrics).resultRows = metrics.resultRows ∧
    (record spent metrics).resultBytes = metrics.resultBytes

/-- A phase that is timed: the counter is read before and after it. -/
theorem timed_cases {phase : QueryM μ α} {record : Option UInt64 → QueryMetrics → QueryMetrics}
    (records : Records record) (host : QueryHost) (state : BudgetLimit) (call : QueryCall μ) :
    ∃ next, Ticked host state call next ∧
      ((∃ value last, (phase next).1 = .ok value ∧ timed host phase record call = (.ok (.ok value), last) ∧
        Ticked host state (phase next).2 last) ∨
      (∃ error last, (phase next).1 = .err error ∧ timed host phase record call = (.ok (.error error), last) ∧
        Ticked host state (phase next).2 last) ∨
      (phase next).1 = .panic ∧ timed host phase record call = (.panic, (phase next).2)) := by
  obtain ⟨start, next, read, _, _, _, _, ticked⟩ := @instructionCounter_returns μ host state call
  refine ⟨next, ticked, ?_⟩
  obtain ⟨spent, read', counted, _, ticks⟩ := @delta_returns μ host state start (phase next).2
  have recorded : Ticked host state (phase next).2 { read' with metrics := record spent read'.metrics } :=
    ticks.trans (ticked_record (records spent read'.metrics).1 (records spent read'.metrics).2)
  cases came : phase next with
  | mk outcome ended =>
      rw [came] at counted recorded
      cases outcome with
      | ok value =>
          have kept : result phase next = (.ok (.ok value), ended) := by rw [result, came]
          refine .inl ⟨value, _, rfl, ?_, recorded⟩
          rw [timed, Action.bind_of_ok _ read, Action.bind_of_ok _ kept, Action.bind_of_ok _ counted]
          rfl
      | err error =>
          have kept : result phase next = (.ok (.error error), ended) := by rw [result, came]
          refine .inr (.inl ⟨error, _, rfl, ?_, recorded⟩)
          rw [timed, Action.bind_of_ok _ read, Action.bind_of_ok _ kept, Action.bind_of_ok _ counted]
          rfl
      | panic =>
          have kept : result phase next = (.panic, ended) := by rw [result, came]
          refine .inr (.inr ⟨rfl, ?_⟩)
          rw [timed, Action.bind_of_ok _ read, Action.bind_of_panic _ kept]

theorem Ticks.checkedPhase {record : Option UInt64 → QueryMetrics → QueryMetrics} (records : Records record)
    (ticks : Ticks host state phase accepted) :
    Ticks host state (Query.checkedPhase host state phase record) accepted := by
  intro call
  obtain ⟨next, ticked, how⟩ := @timed_cases μ Unit phase record records host state call
  obtain ⟨outcome, after, ended, runs, why⟩ := ticks next
  rw [Query.checkedPhase]
  rw [ended] at how
  rcases why with rfl | ⟨failure, rfl, why⟩
  · rcases how with ⟨value, last, _, timed, later⟩ | ⟨error, last, same, _⟩ | ⟨same, _⟩
    · rw [Action.bind_of_ok _ timed]
      obtain ⟨outcome, final, checked, ticks, how⟩ := @ticks_check μ accepted host state last
      have all := ((ticked.trans runs).trans later).trans ticks
      rcases how with rfl | ⟨error, rfl, why⟩
      · rw [Action.bind_of_ok _ checked]
        exact ⟨_, final, rfl, all, .inl rfl⟩
      · rw [Action.bind_of_err _ checked]
        exact ⟨_, final, rfl, all, .inr ⟨error, rfl, why⟩⟩
    · cases same
    · cases same
  · rcases how with ⟨value, last, same, _⟩ | ⟨error, last, same, timed, later⟩ | ⟨same, _⟩
    · cases same
    · rw [Action.bind_of_ok _ timed]
      obtain ⟨outcome, final, checked, ticks, how⟩ := @ticks_check μ accepted host state last
      have all := ((ticked.trans runs).trans later).trans ticks
      have kept : final.exceeded = true ∨ ¬ accepted := why.imp (fun overrun => ticks.sticky (later.sticky overrun)) id
      rcases how with rfl | ⟨error, rfl, why⟩
      · rw [Action.bind_of_ok _ checked]
        exact ⟨_, final, rfl, all, .inr ⟨_, rfl, kept⟩⟩
      · rw [Action.bind_of_err _ checked]
        exact ⟨_, final, rfl, all, .inr ⟨error, rfl, why⟩⟩
    · cases same

/-- A phase in front of the loop. -/
theorem Ticks.scanned {rest : QueryM μ (List τ)} {rows : List Row} {output : List τ}
    (ticks : Ticks host state phase accepted) (within : Within budget call)
    (continues : ∀ next, Within budget next → Ticked host state call next →
      Scanned accepted host state budget map rows output next (rest next)) :
    Scanned accepted host state budget map rows output call ((phase >>= fun _ => rest) call) := by
  obtain ⟨outcome, next, ended, ticked, how⟩ := ticks call
  rcases how with rfl | ⟨error, rfl, why⟩
  · rw [Action.bind_of_ok _ ended]
    exact Scanned.since ticked (continues next (within.ticked ticked) ticked)
  · rw [Action.bind_of_err _ ended]
    refine scanned_at ticked within nofun fun holds unset => ?_
    rcases why with overrun | refused
    · exact absurd overrun (by rw [unset]; decide)
    · exact absurd holds refused

end Ticks

section Measured

variable {accepted : Prop} {rows : List Row} {output : List τ} {outcome : Outcome QueryError (List τ)}

/-- What follows the loop. -/
theorem Scanned.followed (scanned : Scanned accepted host state budget map rows output call (outcome, next))
    (ticked : Ticked host state next last) :
    Scanned accepted host state budget map rows output call (outcome, last) where
  connection := ticked.connection.trans scanned.connection
  readings := Nat.le_trans scanned.readings ticked.readings
  sticky := fun overrun => ticked.sticky (scanned.sticky overrun)
  honest := fun honest => ticked.honest (scanned.honest honest)
  counted := by
    obtain ⟨handed, start, counted⟩ := scanned.counted
    refine ⟨handed, start, ?_, ?_, ?_⟩
    · rw [ticked.mapper, counted.mapper]
    · rw [ticked.resultRows, counted.rows]
    · rw [ticked.resultBytes, counted.bytes]
  within := scanned.within.ticked ticked
  outcome := by
    intro holds unset
    refine scanned.outcome holds ?_
    by_contra set
    exact absurd (ticked.sticky (Bool.not_eq_false _ ▸ set)) (by rw [unset]; decide)
  panicked := scanned.panicked

/-- The connection that the query was run on is put back. -/
theorem Scanned.reconnected {entered : QueryConnection}
    (scanned : Scanned accepted host state budget map rows output { call with connection := entered } (outcome, next)) :
    Scanned accepted host state budget map rows output call
      (outcome, { next with connection := call.connection }) where
  connection := rfl
  readings := scanned.readings
  sticky := scanned.sticky
  honest := scanned.honest
  counted := by
    obtain ⟨handed, start, counted⟩ := scanned.counted
    exact ⟨handed, start, counted.mapper, counted.rows, counted.bytes⟩
  within := ⟨scanned.within.rows, scanned.within.bytes⟩
  outcome := scanned.outcome
  panicked := scanned.panicked

/-- SQLite accepts the statement on a connection without an observer. -/
structure Accepted (host : QueryHost) (budget : QueryBudget) (sql : String) (connection : QueryConnection) : Prop where
  opened : host.opened = none
  unobserved : connection.queryObserverActive = false
  short : ∀ limit ∈ budget.maxSqlBytes, sql.utf8ByteSize ≤ limit.toNat
  prepared : host.prepared = none
  readOnly : host.readOnly = true
  bindRefused : host.bindRefused = none
  bindings : ∀ binding ∈ host.bindings, binding = none
  ending : host.ending = none

theorem observed_scanned {sql : String} {connection : QueryConnection} (state : BudgetLimit)
    (within : Within budget call) :
    Scanned (Accepted host budget sql connection) host state budget map host.rows [] call
      (observed host budget map state sql call) := by
  rw [observed]
  split
  · rename_i long
    refine scanned_at (.refl call) within nofun fun accepted _ => ?_
    obtain ⟨limit, found, overrun⟩ := Option.any_eq_true _ _ |>.mp long
    exact absurd (accepted.short limit found) (Nat.not_le.mpr (of_decide_eq_true overrun))
  · have prepares : Ticks host state (prepareSql host state : QueryM μ Unit) (Accepted host budget sql connection) :=
      ticks_prepareSql fun refused accepted => refused accepted.prepared
    have records : Records fun spent metrics => { metrics with prepareInstructions := spent } := fun _ _ => ⟨rfl, rfl⟩
    refine (prepares.checkedPhase records).scanned within fun next withinNext _ => ?_
    split
    · rename_i writes
      exact scanned_at (.refl next) withinNext nofun fun accepted _ => absurd accepted.readOnly (by simpa using writes)
    · have binds : Ticks host state (bindValues host budget state : QueryM μ Unit)
          (Accepted host budget sql connection) :=
        ticks_bindValues (fun refused accepted => refused accepted.bindRefused)
          fun ⟨binding, member, failed⟩ accepted => failed (accepted.bindings binding member)
      have records : Records fun spent metrics => { metrics with bindInstructions := spent } := fun _ _ => ⟨rfl, rfl⟩
      refine (binds.checkedPhase records).scanned withinNext fun next withinNext _ => ?_
      obtain ⟨read, ticked, how⟩ := @timed_cases μ (List τ) (scan host budget map state host.rows [])
        (fun spent metrics => { metrics with executeInstructions := spent }) (fun _ _ => ⟨rfl, rfl⟩) host state next
      have scanned := scan_scanned (Accepted host budget sql connection) host state map host.rows []
        (withinNext.ticked ticked)
      refine Scanned.since ticked ?_
      cases came : scan host budget map state host.rows [] read with
      | mk outcome ended =>
          rw [came] at scanned how
          rcases how with ⟨value, last, same, timed, later⟩ | ⟨error, last, same, timed, later⟩ | ⟨same, timed⟩
          · obtain rfl : outcome = _ := same
            rw [Action.bind_of_ok _ timed]
            exact scanned.followed later
          · obtain rfl : outcome = _ := same
            rw [Action.bind_of_ok _ timed]
            exact scanned.followed later
          · obtain rfl : outcome = _ := same
            rw [Action.bind_of_panic _ timed]
            exact scanned

/-- On every exit the observer is gone and the limits are those of before. -/
theorem measured_scanned {sql : String} (state : BudgetLimit) (handlers : call.connection.Observed)
    (within : Within budget call) :
    Scanned (Accepted host budget sql call.connection) host state budget map host.rows [] call
      (measured host budget map state sql call) := by
  have opens : Ticks host state (raise host.opened : QueryM μ Unit) (Accepted host budget sql call.connection) :=
    ticks_raise fun refused accepted => refused accepted.opened
  refine opens.scanned within fun first withinFirst toFirst => ?_
  refine (ticks_check host state).scanned withinFirst fun next withinNext toNext => ?_
  have same : next.connection = call.connection := toNext.connection.trans toFirst.connection
  rw [withObserver]
  split
  · rename_i active
    refine scanned_at (.refl next) withinNext nofun fun accepted _ => ?_
    rw [same, accepted.unobserved] at active
    cases active
  · rename_i inactive
    have idle : next.connection.queryObserverActive = false := Bool.not_eq_true _ ▸ inactive
    have entered : Within budget { next with connection := next.connection.enter budget } :=
      ⟨withinNext.rows, withinNext.bytes⟩
    have scanned := @observed_scanned μ τ host budget map _ sql call.connection state entered
    have restored : (next.connection.guard budget).drop (next.connection.enter budget) = next.connection :=
      drop_enter (same.symm ▸ handlers) idle budget
    rw [Action.finally_]
    cases came : observed host budget map state sql { next with connection := next.connection.enter budget } with
    | mk outcome ended =>
        rw [came] at scanned
        dsimp only
        rw [scanned.connection, restored]
        exact scanned.reconnected

end Measured

/-! ## The rows that violate a check -/

/-- The check that the row at this place violates, behind rows that were counted:
the row limit before the byte limit before the mapper. -/
def rowFailure (budget : QueryBudget) (map : Row → Action μ DbError τ) (count bytes : Nat) (mapper : μ)
    (rows : List Row) (index : Nat) : Option QueryError :=
  if budget.maxRows.toNat ≤ count + index then some (.budgetExceeded .rows)
  else if budget.maxResultBytes.toNat < bytes + payload (rows.take (index + 1)) then
    some (.budgetExceeded .resultBytes)
  else
    match rows[index]? with
    | none => none
    | some row =>
        match (map row (handOver map (rows.take index) mapper)).1 with
        | .err error => some (.database error)
        | _ => none

/-- The values of all rows, in order. -/
def Mapped (map : Row → Action μ DbError τ) : List Row → μ → List τ → Prop
  | [], _, values => values = []
  | row :: rest, mapper, values =>
      ∃ value later, values = value :: later ∧ (map row mapper).1 = .ok value ∧ Mapped map rest (map row mapper).2 later

section Expected

variable {rows rest : List Row} {row : Row} {count bytes : Nat} {mapper : μ} {output : List τ}

theorem payload_cons (row : Row) (rest : List Row) :
    payload (row :: rest) = (payloadBytes row).toNat + payload rest := by
  simp [payload]

theorem rowFailure_succ (index : Nat) :
    rowFailure budget map count bytes mapper (row :: rest) (index + 1) =
      rowFailure budget map (count + 1) (bytes + (payloadBytes row).toNat) (map row mapper).2 rest index := by
  rw [rowFailure, rowFailure, List.take_succ_cons, payload_cons, List.getElem?_cons_succ, List.take_succ_cons]
  have counts : count + (index + 1) = count + 1 + index := by omega
  rw [counts, ← Nat.add_assoc]
  rfl

theorem rowFailure_zero :
    rowFailure budget map count bytes mapper (row :: rest) 0 =
      if budget.maxRows.toNat ≤ count then some (.budgetExceeded .rows)
      else if budget.maxResultBytes.toNat < bytes + (payloadBytes row).toNat then some (.budgetExceeded .resultBytes)
      else
        match (map row mapper).1 with
        | .err error => some (.database error)
        | _ => none := by
  rw [rowFailure]
  simp [payload]
  rfl

/-- The loop ends with the first violation, unless the mapper panics before. -/
theorem expected_of_first {index : Nat} {failure : QueryError} (inside : index < rows.length)
    (earlier : ∀ before < index, rowFailure budget map count bytes mapper rows before = none)
    (fails : rowFailure budget map count bytes mapper rows index = some failure) :
    expected budget map none rows count bytes mapper output = .err failure ∨
      expected budget map none rows count bytes mapper output = .panic := by
  induction rows generalizing index count bytes mapper output with
  | nil => cases inside
  | cons row rest ih =>
      rw [expected]
      cases index with
      | zero =>
          rw [rowFailure_zero] at fails
          split at fails
          · rename_i full
            rw [if_pos full, Option.some.inj fails]
            exact .inl rfl
          · rename_i space
            rw [if_neg space]
            split at fails
            · rename_i large
              rw [if_pos large, Option.some.inj fails]
              exact .inl rfl
            · rename_i fits
              rw [if_neg fits]
              cases mapped : map row mapper with
              | mk outcome next =>
                  rw [mapped] at fails
                  cases outcome with
                  | ok value => cases fails
                  | err error =>
                      rw [← Option.some.inj fails]
                      exact .inl rfl
                  | panic => exact .inr rfl
      | succ index =>
          have first := earlier 0 (Nat.succ_pos _)
          rw [rowFailure_zero] at first
          split at first
          · cases first
          · rename_i space
            rw [if_neg space]
            split at first
            · cases first
            · rename_i fits
              rw [if_neg fits]
              cases mapped : map row mapper with
              | mk outcome next =>
                  cases outcome with
                  | ok value =>
                      have same : next = (map row mapper).2 := by rw [mapped]
                      subst same
                      refine ih (Nat.lt_of_succ_lt_succ inside) (fun before below => ?_) (rowFailure_succ index ▸ fails)
                      rw [← rowFailure_succ]
                      exact earlier (before + 1) (Nat.succ_lt_succ below)
                  | err error =>
                      rw [mapped] at first
                      cases first
                  | panic => exact .inr rfl

/-- The output is only ever appended to. -/
theorem expected_appends {all : List τ} (returned : expected budget map none rows count bytes mapper output = .ok all) :
    ∃ later, all = output ++ later := by
  induction rows generalizing count bytes mapper output with
  | nil => exact ⟨[], by rw [List.append_nil]; exact (Outcome.ok.inj returned).symm⟩
  | cons row rest ih =>
      rw [expected] at returned
      split at returned
      · cases returned
      · split at returned
        · cases returned
        · cases mapped : map row mapper with
          | mk outcome next =>
              rw [mapped] at returned
              cases outcome with
              | ok value =>
                  obtain ⟨later, same⟩ := ih returned
                  exact ⟨value :: later, by rw [same]; simp⟩
              | err error => cases returned
              | panic => cases returned

/-- The loop returns exactly for a stream within the limits that the mapper takes. -/
theorem expected_ok_iff {values : List τ} (rowsFit : count ≤ budget.maxRows.toNat)
    (bytesFit : bytes ≤ budget.maxResultBytes.toNat) :
    expected budget map none rows count bytes mapper output = .ok (output ++ values) ↔
      count + rows.length ≤ budget.maxRows.toNat ∧ bytes + payload rows ≤ budget.maxResultBytes.toNat ∧
        Mapped map rows mapper values := by
  induction rows generalizing count bytes mapper output values with
  | nil =>
      rw [Mapped]
      simp [expected, payload, rowsFit, bytesFit]
  | cons row rest ih =>
      rw [expected, Mapped, payload_cons, List.length_cons]
      by_cases full : budget.maxRows.toNat ≤ count
      · rw [if_pos full]
        exact ⟨nofun, fun all => by omega⟩
      · rw [if_neg full]
        by_cases large : budget.maxResultBytes.toNat < bytes + (payloadBytes row).toNat
        · rw [if_pos large]
          exact ⟨nofun, fun all => by omega⟩
        · rw [if_neg large]
          cases mapped : map row mapper with
          | mk outcome next =>
              cases outcome with
              | ok value =>
                  constructor
                  · intro returned
                    obtain ⟨later, same⟩ := expected_appends returned
                    have values_eq : values = value :: later := by simpa using same
                    subst values_eq
                    have joined : output ++ value :: later = (output ++ [value]) ++ later := by simp
                    rw [joined] at returned
                    obtain ⟨fewer, smaller, others⟩ := (ih (by omega) (by omega)).mp returned
                    exact ⟨by omega, by omega, value, later, rfl, rfl, others⟩
                  · rintro ⟨fewer, smaller, first, later, rfl, same, others⟩
                    obtain rfl := Outcome.ok.inj same
                    have joined : output ++ value :: later = (output ++ [value]) ++ later := by simp
                    rw [joined]
                    exact (ih (by omega) (by omega)).mpr ⟨by omega, by omega, others⟩
              | err error =>
                  exact ⟨nofun, fun ⟨_, _, _, _, _, same, _⟩ => by cases same⟩
              | panic => exact ⟨nofun, fun ⟨_, _, _, _, _, same, _⟩ => by cases same⟩

end Expected

/-! ## The whole query -/

section Whole

variable {sql : String}

/-- The budget of a query that starts now. -/
def startedBudget (host : QueryHost) (budget : QueryBudget) (call : QueryCall μ) : BudgetLimit :=
  ⟨host.counter.map fun counter => counter call.readings, budget.maxInstructions⟩

/-- The state that the query measures from. -/
structure Started (call fresh : QueryCall μ) : Prop where
  connection : fresh.connection = call.connection
  mapper : fresh.mapper = call.mapper
  metrics : fresh.metrics = .default
  unset : fresh.exceeded = false

/-- An ending with a result, for the report. -/
def asOutcome : Except QueryError (List τ) → Outcome QueryError (List τ)
  | .ok values => .ok values
  | .error error => .err error

/-- The query up to its last check. -/
theorem runValid_ended (host : QueryHost) (budget : QueryBudget) (map : Row → Action μ DbError τ) (sql : String)
    (handlers : call.connection.Observed) :
    ∃ fresh outcome before, Started call fresh ∧
      Scanned (Accepted host budget sql call.connection) host (startedBudget host budget call) budget map host.rows []
        fresh (outcome, before) ∧
      ((outcome = .panic ∧ runValid host budget map sql call = (.panic, before)) ∨
        ∃ ended, outcome = asOutcome ended ∧
          runValid host budget map sql call = conclude host (startedBudget host budget call) ended before) := by
  obtain ⟨start, read, began, rfl, _, _, _, ticked⟩ :=
    @instructionCounter_returns μ host (startedBudget host budget call) call
  let fresh : QueryCall μ := { read with exceeded := false, metrics := .default }
  have started : Started call fresh := ⟨ticked.connection, ticked.mapper, rfl, rfl⟩
  have within : Within budget fresh := ⟨UInt64.zero_le, UInt64.zero_le⟩
  have scanned := @measured_scanned μ τ host budget map fresh sql (startedBudget host budget call)
    (started.connection.symm ▸ handlers) within
  rw [started.connection] at scanned
  rw [runValid, Action.bind_of_ok _ began, Action.modify_bind_apply]
  cases came : measured host budget map (startedBudget host budget call) sql fresh with
  | mk outcome after =>
      rw [came] at scanned
      obtain ⟨spent, last, counted, _, ticks⟩ :=
        @delta_returns μ host (startedBudget host budget call) (host.counter.map fun counter => counter call.readings) after
      let before : QueryCall μ := { last with metrics := { last.metrics with instructions := spent } }
      have followed := scanned.followed (ticks.trans (@ticked_record μ host (startedBudget host budget call) last
        { last.metrics with instructions := spent } rfl rfl))
      cases outcome with
      | ok values =>
          have kept : result (measured host budget map (startedBudget host budget call) sql) fresh =
              (.ok (.ok values), after) := by rw [result, came]
          refine ⟨fresh, _, before, started, followed, .inr ⟨.ok values, rfl, ?_⟩⟩
          exact (Action.bind_of_ok _ kept).trans (Action.bind_of_ok _ counted)
      | err error =>
          have kept : result (measured host budget map (startedBudget host budget call) sql) fresh =
              (.ok (.error error), after) := by rw [result, came]
          refine ⟨fresh, _, before, started, followed, .inr ⟨.error error, rfl, ?_⟩⟩
          exact (Action.bind_of_ok _ kept).trans (Action.bind_of_ok _ counted)
      | panic =>
          have kept : result (measured host budget map (startedBudget host budget call) sql) fresh = (.panic, after) := by
            rw [result, came]
          exact ⟨fresh, _, after, started, scanned, .inl ⟨rfl, Action.bind_of_panic _ kept⟩⟩

/-- The counter does not go back. -/
def Monotone (host : QueryHost) : Prop :=
  ∀ counter ∈ host.counter, ∀ earlier later, earlier ≤ later → counter earlier ≤ counter later

theorem Over.later (monotone : Monotone host) {earlier later : Nat} (order : earlier ≤ later)
    (overrun : Over host state earlier) : Over host state later := by
  rw [Over] at overrun ⊢
  cases counter : host.counter with
  | none =>
      rw [counter] at overrun
      exact overrun
  | some readings =>
      rw [counter] at overrun
      have grows := UInt64.le_iff_toNat_le.mp (monotone readings counter earlier later order)
      rcases state with ⟨start, limit⟩
      cases start with
      | none => exact overrun
      | some start =>
          cases limit with
          | none => exact overrun
          | some limit =>
              have large : limit < saturatingSub (readings earlier) start := of_decide_eq_true overrun
              refine decide_eq_true ?_
              rw [saturatingSub] at large
              split at large
              · rename_i after
                have afterNat := UInt64.le_iff_toNat_le.mp after
                have fits : start ≤ readings later := UInt64.le_iff_toNat_le.mpr (by omega)
                rw [UInt64.lt_iff_toNat_lt, UInt64.toNat_sub_of_le _ _ after] at large
                rw [UInt64.lt_iff_toNat_lt, toNat_saturatingSub fits]
                omega
              · exact absurd large (UInt64.not_lt.mpr UInt64.zero_le)

theorem not_over_of_unlimited (unlimited : state.limit = none) (reading : Nat) : ¬ Over host state reading := by
  unfold Over BudgetLimit.isOver
  split
  · rename_i found
    rw [unlimited] at found
    cases found
  · decide

/-- The last check decides by the last reading of the counter. -/
theorem conclude_cases {before : QueryCall μ} (monotone : Monotone host) (honest : Honest host state before)
    (counting : state.limit.isSome = true → host.counter.isSome = true) (ended : Except QueryError (List τ)) :
    ∃ report last, conclude host state ended before = (.ok report, last) ∧ Ticked host state before last ∧
      report.metrics = last.metrics ∧
      (Over host state (last.readings - 1) → report.result = .error (.budgetExceeded .instructions)) ∧
      (¬ Over host state (last.readings - 1) → before.exceeded = false ∧ report.result = ended) := by
  cases limit : state.limit with
  | none =>
      have kept : result (state.check host) before = (.ok (.ok ()), before) := by rw [result, check_none limit]
      refine ⟨⟨ended, before.metrics⟩, before, Action.bind_of_ok _ kept, .refl before, rfl, ?_, ?_⟩
      · intro overrun
        exact absurd overrun (not_over_of_unlimited limit _)
      · intro _
        refine ⟨?_, rfl⟩
        by_contra set
        obtain ⟨reading, _, overrun⟩ := honest (Bool.not_eq_false _ ▸ set)
        exact not_over_of_unlimited limit _ overrun
  | some bound =>
      obtain ⟨last, checked, ticked, _, count, exact_⟩ := @check_some μ host state bound limit before
      rw [counting (by rw [limit]; rfl), if_pos rfl] at count
      -- The flag was honest, and the counter has not gone back since.
      have decides : last.exceeded = true ↔ Over host state (last.readings - 1) := by
        rw [exact_, count, Nat.add_sub_cancel]
        constructor
        · rintro (set | overrun)
          · obtain ⟨reading, earlier, overrun⟩ := honest set
            exact overrun.later monotone (Nat.le_of_lt earlier)
          · exact overrun
        · exact .inr
      by_cases overrun : last.exceeded = true
      · rw [if_pos overrun] at checked
        have kept : result (state.check host) before = (.ok (.error (.budgetExceeded .instructions)), last) := by
          rw [result, checked]
        refine ⟨⟨.error _, last.metrics⟩, last, Action.bind_of_ok _ kept, ticked, rfl, fun _ => rfl, ?_⟩
        intro within
        exact absurd (decides.mp overrun) within
      · rw [if_neg overrun] at checked
        have kept : result (state.check host) before = (.ok (.ok ()), last) := by rw [result, checked]
        refine ⟨⟨ended, last.metrics⟩, last, Action.bind_of_ok _ kept, ticked, rfl, ?_, ?_⟩
        · intro beyond
          exact absurd (decides.mpr beyond) overrun
        · intro _
          refine ⟨?_, rfl⟩
          by_contra set
          exact overrun (ticked.sticky (Bool.not_eq_false _ ▸ set))

/-- What a report says of the rows that were handed to the mapper. -/
structure Accounts (host : QueryHost) (budget : QueryBudget) (map : Row → Action μ DbError τ) (mapper : μ)
    (after : QueryCall μ) (metrics : QueryMetrics) (handed : List Row) : Prop where
  start : handed <+: host.rows
  mapper : after.mapper = handOver map handed mapper
  rows : metrics.resultRows.toNat = handed.length
  bytes : metrics.resultBytes.toNat = payload handed
  rowsWithin : metrics.resultRows ≤ budget.maxRows
  bytesWithin : metrics.resultBytes ≤ budget.maxResultBytes

theorem Scanned.accounts {accepted : Prop} {fresh before : QueryCall μ} {outcome : Outcome QueryError (List τ)}
    (started : Started call fresh)
    (scanned : Scanned accepted host state budget map host.rows [] fresh (outcome, before))
    (ticked : Ticked host state before last) :
    ∃ handed, Accounts host budget map call.mapper last last.metrics handed := by
  obtain ⟨handed, start, counted⟩ := scanned.counted
  have rows := counted.rows
  have bytes := counted.bytes
  rw [started.metrics] at rows bytes
  refine ⟨handed, start, ?_, ?_, ?_, ?_, ?_⟩
  · rw [ticked.mapper, counted.mapper, started.mapper]
  · rw [ticked.resultRows, rows]
    exact Nat.zero_add _
  · rw [ticked.resultBytes, bytes]
    exact Nat.zero_add _
  · rw [ticked.resultRows]
    exact scanned.within.rows
  · rw [ticked.resultBytes]
    exact scanned.within.bytes

theorem Started.expected {accepted : Prop} {fresh before : QueryCall μ} {outcome : Outcome QueryError (List τ)}
    (started : Started call fresh) (clean : host.ending = none)
    (scanned : Scanned accepted host state budget map host.rows [] fresh (outcome, before)) (holds : accepted)
    (unset : before.exceeded = false) :
    outcome = Query.expected budget map none host.rows 0 0 call.mapper [] := by
  have ended := scanned.outcome holds unset
  rw [started.metrics, started.mapper, clean] at ended
  exact ended

theorem counting_of_valid (valid : budget.validate host.counter.isSome = .ok ()) :
    (startedBudget host budget call).limit.isSome = true → host.counter.isSome = true := by
  intro limited
  by_contra missing
  have refused : budget.maxInstructions.isSome = true ∧ ¬ host.counter.isSome = true := ⟨limited, missing⟩
  rw [QueryBudget.validate] at valid
  split at valid
  · cases valid
  · split at valid
    · cases valid
    · cases valid

/-- What the report says of an accepted statement. -/
structure Reports (host : QueryHost) (budget : QueryBudget) (map : Row → Action μ DbError τ) (mapper : μ) (overrun : Prop)
    (result : Except QueryError (List τ)) : Prop where
  returns : ∀ values, result = .ok values ↔
    host.rows.length ≤ budget.maxRows.toNat ∧ payload host.rows ≤ budget.maxResultBytes.toNat ∧
      Mapped map host.rows mapper values ∧ ¬ overrun
  instructions : overrun → result = .error (.budgetExceeded .instructions)
  first : ¬ overrun → ∀ index failure, index < host.rows.length →
    (∀ earlier < index, rowFailure budget map 0 0 mapper host.rows earlier = none) →
    rowFailure budget map 0 0 mapper host.rows index = some failure → result = .error failure

theorem reports_of_expected {mapper : μ} {overrun : Prop} {ended reported : Except QueryError (List τ)}
    (beyond : overrun → reported = .error (.budgetExceeded .instructions))
    (within : ¬ overrun → asOutcome ended = expected budget map none host.rows 0 0 mapper [] ∧ reported = ended) :
    Reports host budget map mapper overrun reported where
  returns := by
    intro values
    by_cases late : overrun
    · rw [beyond late]
      exact ⟨nofun, fun all => absurd late all.2.2.2⟩
    · obtain ⟨same, rfl⟩ := within late
      have loop := @expected_ok_iff μ τ budget map host.rows 0 0 mapper [] values (Nat.zero_le _) (Nat.zero_le _)
      rw [← same, List.nil_append, Nat.zero_add, Nat.zero_add] at loop
      have returned : reported = .ok values ↔ asOutcome reported = .ok values := by
        cases reported with
        | ok all => simp [asOutcome]
        | error error => simp [asOutcome]
      rw [returned, loop]
      exact ⟨fun all => ⟨all.1, all.2.1, all.2.2, late⟩, fun all => ⟨all.1, all.2.1, all.2.2.1⟩⟩
  instructions := beyond
  first := by
    intro early index failure inside earlier fails
    obtain ⟨same, rfl⟩ := within early
    rcases @expected_of_first μ τ budget map host.rows 0 0 mapper [] index failure inside earlier fails with
      stopped | unwound
    · rw [← same] at stopped
      cases reported with
      | ok values => cases stopped
      | error error => rw [show error = failure from Outcome.err.inj stopped]
    · rw [← same] at unwound
      cases reported with
      | ok values => cases unwound
      | error error => cases unwound

/-- The report of a query whose loop ended with a result. -/
theorem concluded {fresh before : QueryCall μ} {ended : Except QueryError (List τ)} (monotone : Monotone host)
    (started : Started call fresh) (counting : state.limit.isSome = true → host.counter.isSome = true)
    (scanned : Scanned (Accepted host budget sql call.connection) host state budget map host.rows [] fresh
      (asOutcome ended, before)) :
    ∃ report last, conclude host state ended before = (.ok report, last) ∧ last.connection = call.connection ∧
      (∃ handed, Accounts host budget map call.mapper last report.metrics handed) ∧
      (Accepted host budget sql call.connection →
        Reports host budget map call.mapper (Over host state (last.readings - 1)) report.result) := by
  have honest : Honest host state before := scanned.honest fun set => absurd set (by rw [started.unset]; decide)
  obtain ⟨report, last, concludes, ticked, metrics, beyond, within⟩ := conclude_cases monotone honest counting ended
  refine ⟨report, last, concludes, ?_, metrics ▸ scanned.accounts started ticked, ?_⟩
  · exact ticked.connection.trans (scanned.connection.trans started.connection)
  · intro accepted
    have decided : ¬ Over host state (last.readings - 1) →
        asOutcome ended = expected budget map none host.rows 0 0 call.mapper [] ∧ report.result = ended := by
      intro early
      obtain ⟨unset, same⟩ := within early
      exact ⟨started.expected accepted.ending scanned accepted unset, same⟩
    exact reports_of_expected beyond decided

/-- A measured query, for every host, budget and mapper.  The connection is left
as it was.  The report counts exactly the rows that the mapper was given, within
the limits.  If the statement is accepted, the result is an error of the
instruction budget when the last reading is beyond it, else the error of the
first row that violates a check, and else the values of all rows. -/
theorem budgeted_query_admits_exactly_what_fits (host : QueryHost) (budget : QueryBudget) (sql : String)
    (map : Row → Action μ DbError τ) (call : QueryCall μ) (monotone : Monotone host)
    (handlers : call.connection.Observed) :
    let ended := run host budget map sql call
    let overrun := Over host (startedBudget host budget call) (ended.2.readings - 1)
    ended.2.connection = call.connection ∧
    (∀ error, ended.1 ≠ .err error) ∧
    (ended.1 = .panic → ∃ row ∈ host.rows, ∃ mapper, (map row mapper).1 = .panic) ∧
    ∀ report, ended.1 = .ok report →
      (∃ handed, Accounts host budget map call.mapper ended.2 report.metrics handed) ∧
      (budget.validate host.counter.isSome = .ok () → Accepted host budget sql call.connection →
        Reports host budget map call.mapper overrun report.result) := by
  intro ended overrun
  cases valid : budget.validate host.counter.isSome with
  | error error =>
      have failed : ended = (.ok (.failed error), call) := by
        simp only [ended, run, valid]
        rfl
      rw [failed]
      refine ⟨rfl, nofun, nofun, fun report same => ⟨⟨[], ?_⟩, nofun⟩⟩
      obtain rfl := Outcome.ok.inj same
      exact ⟨List.nil_prefix, rfl, rfl, rfl, UInt64.zero_le, UInt64.zero_le⟩
  | ok _ =>
      have ran : ended = runValid host budget map sql call := by
        simp only [ended, run, valid]
      have counting := @counting_of_valid μ host budget call valid
      obtain ⟨fresh, outcome, before, started, scanned, how⟩ := runValid_ended host budget map sql handlers
      rcases how with ⟨rfl, unwound⟩ | ⟨kept, rfl, concludes⟩
      · rw [ran, unwound]
        exact ⟨scanned.connection.trans started.connection, nofun, fun _ => scanned.panicked rfl, nofun⟩
      · obtain ⟨report, last, reported, connection, accounts, reports⟩ := concluded monotone started counting scanned
        have came : ended = (.ok report, last) := by rw [ran, concludes, reported]
        have reading : overrun = Over host (startedBudget host budget call) (last.readings - 1) := by
          simp only [overrun, came]
        rw [reading, came]
        refine ⟨connection, nofun, nofun, fun returned same => ?_⟩
        obtain rfl := Outcome.ok.inj same
        exact ⟨accounts, fun _ => reports⟩

end Whole

/-- A statement with two rows of one integer each, on a host with a counter. -/
def twoRowHost : QueryHost where
  counter := some fun reading => UInt64.ofNat (min reading 1000)
  opened := none
  prepared := none
  preparing := 1
  readOnly := true
  bindRefused := none
  bindings := [none]
  rows := [[⟨.integer 1, 1⟩], [⟨.integer 2, 1⟩]]
  stepping := fun _ => 1
  ending := none

/-- A connection that was just opened, and a mapper that counts its calls. -/
def freshCall : QueryCall Nat where
  connection := ⟨false, ⟨1000000000, by decide, by decide⟩, ⟨1000000000, by decide, by decide⟩, none⟩
  readings := 0
  exceeded := false
  metrics := .default
  mapper := 0

def countRows : Row → Action Nat DbError Nat := fun _ calls => (.ok calls, calls + 1)

theorem monotone_twoRowHost : Monotone twoRowHost := by
  intro counter found earlier later order
  obtain rfl := Option.some.inj found
  have small : ∀ reading, min reading 1000 < UInt64.size := fun reading =>
    Nat.lt_of_le_of_lt (Nat.min_le_right _ _) (by decide)
  rw [UInt64.le_iff_toNat_le, UInt64.toNat_ofNat_of_lt' (small _), UInt64.toNat_ofNat_of_lt' (small _)]
  omega

/-- Two rows, sixteen bytes, and some instructions. -/
def exactBudget : QueryBudget :=
  { QueryBudget.default with maxRows := 2, maxResultBytes := 16, maxInstructions := some 500 }

theorem accepted_twoRowHost : Accepted twoRowHost exactBudget "SELECT 1" freshCall.connection where
  opened := rfl
  unobserved := rfl
  short := by
    intro limit found
    obtain rfl := Option.some.inj found
    decide
  prepared := rfl
  readOnly := rfl
  bindRefused := rfl
  bindings := fun _ member => List.mem_singleton.mp member
  ending := rfl

/-- A stream that is exactly at its limits is returned whole. -/
theorem two_rows_fit_their_exact_budget :
    ∃ report, (run twoRowHost exactBudget countRows "SELECT 1" freshCall).1 = .ok report ∧
      report.result = .ok [0, 1] := by
  obtain ⟨_, reported, unwound, reports⟩ := budgeted_query_admits_exactly_what_fits twoRowHost exactBudget "SELECT 1"
    countRows freshCall monotone_twoRowHost fun _ => rfl
  cases came : (run twoRowHost exactBudget countRows "SELECT 1" freshCall).1 with
  | ok report =>
      refine ⟨report, rfl, ?_⟩
      have accepted := (reports report came).2 rfl accepted_twoRowHost
      refine (accepted.returns [0, 1]).mpr ⟨by decide, by decide, ⟨0, [1], rfl, rfl, 1, [], rfl, rfl, rfl⟩, ?_⟩
      unfold Over
      decide +kernel
  | err error => exact absurd came (reported error)
  | panic =>
      obtain ⟨row, _, mapper, panics⟩ := unwound came
      cases panics

end IcSqliteVfs.Db.Query
