import IcSqliteVfs.Db.Statement
import IcSqliteVfs.Semantics.Coupling
import IcSqliteVfs.Semantics.Run
import Mathlib.Data.List.Nodup

namespace IcSqliteVfs.Db

open IcSqliteVfs.Semantics IcSqliteVfs.Semantics.Action

/-! # Reusing a statement

A call on a statement that was used before is compared with the same call on a
statement that was just prepared.  The bindings of earlier calls do not show:
each call binds every parameter before the first step.  An error of the last
step does: the reset that the next call starts with reports it again.
-/

variable {δ κ ε α β τ ς : Type} {sql : Program δ κ}

def SameDatabase (first second : Statement sql) : Prop := first.database = second.database

/-- The next reset has nothing to report. -/
def Unfailed (first second : Statement sql) : Prop :=
  first.database = second.database ∧ first.phase.failure = none ∧ second.phase.failure = none

/-- Both are ready, and agree in the parameters bound so far. -/
structure SameBound (bound : Nat → Prop) (first second : Statement sql) : Prop where
  database : first.database = second.database
  firstReady : first.phase = .ready
  secondReady : second.phase = .ready
  bindings : ∀ position, bound position → first.bindings[position]? = second.bindings[position]?

theorem SameBound.eq {bound : Nat → Prop} {first second : Statement sql} (same : SameBound bound first second)
    (all : ∀ position, position < parameterCount sql → bound position) : first = second := by
  refine Statement.ext same.database (List.ext_getElem? fun position => ?_) (same.firstReady.trans same.secondReady.symm)
  by_cases inside : position < parameterCount sql
  · exact same.bindings position (all position inside)
  · have firstEnd : first.bindings.length ≤ position := first.width ▸ Nat.not_lt.mp inside
    have secondEnd : second.bindings.length ≤ position := second.width ▸ Nat.not_lt.mp inside
    rw [List.getElem?_eq_none firstEnd, List.getElem?_eq_none secondEnd]

theorem SameBound.mono {bound fewer : Nat → Prop} (weakens : ∀ position, fewer position → bound position)
    (first second : Statement sql) (same : SameBound bound first second) : SameBound fewer first second :=
  ⟨same.database, same.firstReady, same.secondReady, fun position held => same.bindings position (weakens position held)⟩

/-! ## Binding -/

/-- A call that binds from agreement in some parameters to agreement in more. -/
abbrev Binds (call : StatementM sql ε α) (bound more : Nat → Prop) : Prop :=
  Couples (SameBound bound) call (SameBound more) SameDatabase

theorem couples_reset :
    Couples Unfailed (reset : StatementM sql DbError Unit) (SameBound fun _ => False) SameDatabase := by
  rintro first second ⟨same, firstClean, secondClean⟩
  have firstReset : (reset : StatementM sql DbError Unit) first = (.ok (), { first with phase := .ready }) := by
    rw [reset, bind_of_ok _ (show sqliteReset first = (.ok first.phase.failure, _) from rfl), firstClean]
    rfl
  have secondReset : (reset : StatementM sql DbError Unit) second = (.ok (), { second with phase := .ready }) := by
    rw [reset, bind_of_ok _ (show sqliteReset second = (.ok second.phase.failure, _) from rfl), secondClean]
    rfl
  rw [firstReset, secondReset]
  exact ⟨rfl, same, rfl, rfl, nofun⟩

/-- The parameter with this number is bound. -/
def andParameter (index : Nat) (bound : Nat → Prop) (position : Nat) : Prop := position + 1 = index ∨ bound position

theorem sqliteBind_ready {self : Statement sql} (ready : self.phase = .ready) {index : Nat} (binding : Binding)
    (inside : ¬ (index = 0 ∨ sql.parameters.length < index)) :
    (sqliteBind index binding : StatementM sql ε Int) self =
      (.ok (sql.bindCode self.database index binding),
        self.hold index (if sql.bindCode self.database index binding = sqliteOk then binding else .unbound)) := by
  rw [sqliteBind, ready]
  dsimp only
  rw [if_neg inside]

theorem sqliteBind_outside {self : Statement sql} (ready : self.phase = .ready) {index : Nat} (binding : Binding)
    (outside : index = 0 ∨ sql.parameters.length < index) :
    (sqliteBind index binding : StatementM sql ε Int) self = (.ok sqliteRange, self) := by
  rw [sqliteBind, ready]
  dsimp only
  rw [if_pos outside]

theorem getElem?_hold (self : Statement sql) {index position : Nat} (binding : Binding)
    (inside : ¬ (index = 0 ∨ sql.parameters.length < index)) :
    (self.hold index binding).bindings[position]? =
      if position + 1 = index then some binding else self.bindings[position]? := by
  rw [Statement.hold, List.getElem?_set]
  have width := self.width
  by_cases here : position + 1 = index
  · rw [if_pos here, if_pos (by omega), if_pos (by omega)]
  · rw [if_neg here, if_neg (by omega)]

theorem SameBound.hold {bound : Nat → Prop} {first second : Statement sql} (same : SameBound bound first second)
    {index : Nat} (binding : Binding) (inside : ¬ (index = 0 ∨ sql.parameters.length < index)) :
    SameBound (andParameter index bound) (first.hold index binding) (second.hold index binding) where
  database := same.database
  firstReady := same.firstReady
  secondReady := same.secondReady
  bindings := by
    intro position held
    rw [getElem?_hold first binding inside, getElem?_hold second binding inside]
    split
    · rfl
    · rename_i other
      exact same.bindings position (held.resolve_left other)

theorem binds_bindWith (bound : Nat → Prop) (index : Nat) (binding : Binding) :
    Binds (bindWith index binding : StatementM sql DbError Unit) bound (andParameter index bound) := by
  intro first second same
  by_cases outside : index = 0 ∨ sql.parameters.length < index
  · have firstEnd := sqliteBind_outside (ε := DbError) same.firstReady binding outside
    have secondEnd := sqliteBind_outside (ε := DbError) same.secondReady binding outside
    rw [bindWith, bind_of_ok _ firstEnd, bind_of_ok _ secondEnd, bindResult, if_neg (by decide)]
    exact ⟨rfl, same.database⟩
  · have firstEnd := sqliteBind_ready (ε := DbError) same.firstReady binding outside
    have secondEnd := sqliteBind_ready (ε := DbError) same.secondReady binding outside
    rw [bindWith, bind_of_ok _ firstEnd, bind_of_ok _ secondEnd, ← same.database, bindResult]
    by_cases ok : sql.bindCode first.database index binding = sqliteOk
    · rw [if_pos ok, if_pos ok]
      exact ⟨rfl, same.hold binding outside⟩
    · rw [if_neg ok, if_neg ok]
      exact ⟨rfl, same.database⟩

section Values

variable (bound : Nat → Prop) (index : Nat)

theorem binds_bindSized (length : Nat) (tooLarge : DbError) (binding : Binding) :
    Binds (bindSized length tooLarge index binding : StatementM sql DbError Unit) bound (andParameter index bound) := by
  rw [bindSized]
  split
  · exact binds_bindWith bound index binding
  · exact couples_fail _ fun _ _ same => same.database

theorem Value.binds_bindTo (value : Value) :
    Binds (value.bindTo index : StatementM sql DbError Unit) bound (andParameter index bound) := by
  cases value with
  | text value => exact binds_bindSized bound index _ _ _
  | integer value => exact binds_bindWith bound index _
  | real bits => exact binds_bindWith bound index _
  | blob value => exact binds_bindSized bound index _ _ _
  | null => exact binds_bindWith bound index _

end Values

/-- The call depends on the statement only through its parameters. -/
theorem binds_ofExcept (bound : Nat → Prop) (result : Except ε α) :
    Binds (ofExcept result : StatementM sql ε α) bound bound := by
  cases result with
  | ok value => exact couples_pure value fun _ _ same => same
  | error error => exact couples_fail error fun _ _ same => same.database

theorem couples_ofExcept (result : Except ε α) :
    Couples SameDatabase (ofExcept result : StatementM sql ε α) SameDatabase SameDatabase := by
  cases result with
  | ok value => exact couples_pure value fun _ _ same => same
  | error error => exact couples_fail error fun _ _ same => same

/-- A range of positions is bound. -/
def andRange (start count : Nat) (bound : Nat → Prop) (position : Nat) : Prop :=
  start ≤ position ∧ position < start + count ∨ bound position

theorem andRange_zero {start position : Nat} {bound : Nat → Prop} (held : andRange start 0 bound position) :
    bound position := by
  rcases held with ⟨low, high⟩ | old
  · exact absurd high (Nat.not_lt.mpr low)
  · exact old

theorem Binds.andRange_cons {call : StatementM sql ε Unit} {bound : Nat → Prop} {start count : Nat}
    (binds : Binds call bound (andRange (start + 1) count (andParameter (start + 1) bound))) :
    Binds call bound (andRange start (count + 1) bound) := by
  refine Couples.imp binds (fun _ _ same => same) (fun first second same => ?_) fun _ _ same => same
  refine SameBound.mono (fun position held => ?_) first second same
  rcases held with ⟨low, high⟩ | old
  · by_cases here : position = start
    · exact .inr (.inl (by omega))
    · exact .inl ⟨by omega, by omega⟩
  · exact .inr (.inr old)

theorem binds_bindAllFrom (values : List Value) (index : Nat) (bound : Nat → Prop) :
    Binds (bindAllFrom index values : StatementM sql DbError Unit) bound (andRange index values.length bound) := by
  induction values generalizing index bound with
  | nil => exact couples_pure _ (SameBound.mono fun _ => andRange_zero)
  | cons value rest ih =>
      refine Binds.andRange_cons ?_
      rw [bindAllFrom, parameterIndex]
      split
      · rw [ofExcept_ok_bind]
        exact Couples.bind (Value.binds_bindTo bound (index + 1) value) fun _ => ih (index + 1) _
      · exact couples_fail _ fun _ _ same => same.database

theorem binds_bindTextsFrom (values : List String) (index : Nat) (bound : Nat → Prop) :
    Binds (bindTextsFrom (index + 1) values : StatementM sql DbError Unit) bound
      (andRange index values.length bound) := by
  induction values generalizing index bound with
  | nil => exact couples_pure _ (SameBound.mono fun _ => andRange_zero)
  | cons value rest ih =>
      refine Binds.andRange_cons ?_
      exact Couples.bind (binds_bindSized bound (index + 1) _ _ _) fun _ => ih (index + 1) _

/-- The checks between the bindings do not look at the statement. -/
theorem binds_bindCheckedFrom (check : Nat → Except QueryError Unit) (values : List Value) (index : Nat)
    (bound : Nat → Prop) :
    Binds (bindCheckedFrom check index values : StatementM sql QueryError Unit) bound
      (andRange index values.length bound) := by
  induction values generalizing index bound with
  | nil => exact couples_pure _ (SameBound.mono fun _ => andRange_zero)
  | cons value rest ih =>
      refine Binds.andRange_cons ?_
      rw [bindCheckedFrom, parameterIndex]
      refine Couples.bind (binds_ofExcept bound _) fun _ => ?_
      split
      · refine Couples.attempt_bind (Couples.mapError (Value.binds_bindTo bound (index + 1) value)) ?_ ?_
        · intro _
          exact Couples.bind (binds_ofExcept _ _) fun _ => ih (index + 1) _
        · intro error
          exact Couples.bind (couples_ofExcept _) fun _ => couples_fail error fun _ _ same => same
      · exact couples_fail _ fun _ _ same => same.database

/-! ## Binding by name -/

theorem namedParametersFrom_eq {parameters : List (Option String)} {index : Nat} {names : List String}
    (named : namedParametersFrom index parameters = .ok names) : parameters = names.map some := by
  induction parameters generalizing index names with
  | nil =>
      cases named
      rfl
  | cons parameter rest ih =>
      rw [namedParametersFrom, parameterIndex] at named
      split at named
      · cases parameter with
        | none => cases named
        | some name =>
            cases others : namedParametersFrom (index + 1) rest with
            | error error =>
                rw [others] at named
                cases named
            | ok tail =>
                rw [others] at named
                cases named
                rw [List.map_cons, ← ih others]
      · cases named

/-- Each parameter has the number of its name. -/
theorem bindParameterIndex_of {names : List String} (named : namedParameters sql = .ok names) {position : Nat}
    {name : String} (here : names[position]? = some name) : bindParameterIndex sql name = position + 1 := by
  have shape : sql.parameters = names.map some := namedParametersFrom_eq named
  have distinct : names.Nodup := by
    have unnamed := sql.distinct
    rwa [shape, List.filterMap_map, Function.id_comp, List.filterMap_some] at unnamed
  obtain ⟨inside, same⟩ := List.getElem?_eq_some_iff.mp here
  have found : sql.parameters.findIdx? (· = some name) = some position := by
    rw [shape, List.findIdx?_map, List.findIdx?_eq_some_iff_getElem]
    refine ⟨inside, by simp [same], ?_⟩
    intro earlier before
    have differ : names[earlier] ≠ names[position] := by
      intro equal
      have positions := (List.Nodup.getElem_inj_iff distinct).mp equal
      omega
    simpa [same] using differ
  rw [bindParameterIndex, found]

/-- The parameters of some names are bound. -/
def andNames (sql : Program δ κ) (names : List String) (bound : Nat → Prop) (position : Nat) : Prop :=
  (∃ name ∈ names, position + 1 = bindParameterIndex sql name) ∨ bound position

theorem binds_bindNamedEach (expected : List String) (values : List (String × Value)) (bound : Nat → Prop) :
    Binds (bindNamedEach expected values : StatementM sql DbError Unit) bound
      (andNames sql (values.map Prod.fst) bound) := by
  induction values generalizing bound with
  | nil =>
      refine couples_pure _ (SameBound.mono fun position held => ?_)
      rcases held with ⟨name, member, _⟩ | old
      · cases member
      · exact old
  | cons pair rest ih =>
      obtain ⟨name, value⟩ := pair
      have refused : ∀ error : DbError, Binds (fail error : StatementM sql DbError Unit) bound
          (andNames sql (((name, value) :: rest).map Prod.fst) bound) :=
        fun error => couples_fail error fun _ _ same => same.database
      rw [bindNamedEach]
      split
      · exact refused _
      split
      · exact refused _
      split
      · exact refused _
      refine Couples.bind (Value.binds_bindTo bound _ value) fun _ => ?_
      refine Couples.imp (ih _) (fun _ _ same => same) (SameBound.mono fun position held => ?_) fun _ _ same => same
      rcases held with ⟨named, member, number⟩ | old
      · rcases List.mem_cons.mp member with rfl | later
        · exact .inr (.inl number)
        · exact .inl ⟨named, later, number⟩
      · exact .inr (.inr old)

/-- Where every name is provided, every parameter is bound. -/
theorem all_named {expected : List String} {values : List (String × Value)}
    (named : namedParameters sql = .ok expected)
    (complete : missingName expected (values.map Prod.fst).dedup = none) (bound : Nat → Prop) (position : Nat)
    (inside : position < parameterCount sql) : andNames sql (values.map Prod.fst) bound position := by
  have shape : sql.parameters = expected.map some := namedParametersFrom_eq named
  have within : position < expected.length := by
    rwa [parameterCount, shape, List.length_map] at inside
  have provided : expected[position] ∈ (values.map Prod.fst).dedup := by
    have present := List.find?_eq_none.mp complete expected[position] (List.getElem_mem within)
    simpa using present
  refine .inl ⟨expected[position], List.mem_dedup.mp provided, ?_⟩
  exact (bindParameterIndex_of named (List.getElem?_eq_getElem within)).symm

/-! ## The forms of binding -/

/-- A call that forgets what was bound before it. -/
abbrev Rebinds (call : StatementM sql ε α) : Prop := Couples Unfailed call Eq SameDatabase

theorem Rebinds.of_binds {call : StatementM sql ε α} {more : Nat → Prop} (binds : Binds call (fun _ => False) more)
    (all : ∀ position, position < parameterCount sql → more position) :
    Couples (SameBound fun _ => False) call Eq SameDatabase :=
  Couples.imp binds (fun _ _ same => same) (fun _ _ same => same.eq all) fun _ _ same => same

theorem rebinds_resetAndBind (values : List Value) :
    Rebinds (resetAndBind values : StatementM sql DbError Unit) := by
  refine Couples.bind couples_reset fun _ => ?_
  split
  · rename_i none
    exact couples_pure _ fun _ _ same => same.eq fun position inside => by omega
  · rw [bindAllWithCount]
    split
    · exact couples_fail _ fun _ _ same => same.database
    · rename_i counted
      refine Rebinds.of_binds (binds_bindAllFrom values 0 _) fun position inside => ?_
      exact .inl ⟨Nat.zero_le _, by omega⟩

theorem rebinds_resetAndBindNamed (values : List (String × Value)) :
    Rebinds (resetAndBindNamed values : StatementM sql DbError Unit) := by
  refine Couples.bind couples_reset fun _ => ?_
  rw [bindNamedAll]
  cases named : namedParameters sql with
  | error error => exact couples_fail _ fun _ _ same => same.database
  | ok expected =>
      rw [ofExcept_ok_bind]
      dsimp only
      split
      · exact couples_fail _ fun _ _ same => same.database
      · cases complete : missingName expected (values.map Prod.fst).dedup with
        | some name => exact couples_fail _ fun _ _ same => same.database
        | none => exact Rebinds.of_binds (binds_bindNamedEach expected values _) (all_named named complete _)

/-- The counted forms, followed by bindings for that many parameters. -/
theorem rebinds_counted {actual : Nat} {bind : StatementM sql DbError Unit} {more : Nat → Prop}
    (binds : Binds bind (fun _ => False) more) (all : ∀ position, position < actual → more position) :
    Rebinds (resetCounted actual >>= fun _ => bind) := by
  rw [resetCounted]
  split
  · exact couples_fail _ fun _ _ same => same.1
  · rename_i counted
    refine Couples.bind couples_reset fun _ => Rebinds.of_binds binds fun position inside => all position ?_
    rwa [Decidable.not_not.mp counted] at inside

section Forms

variable (first second : Int64) (text other : String) (blob : List UInt8)

theorem rebinds_resetAndBindSingleTextBorrowed :
    Rebinds (resetAndBindSingleTextBorrowed text : StatementM sql DbError Unit) := by
  refine rebinds_counted (binds_bindSized _ 1 _ _ _) fun position inside => ?_
  exact .inl (by omega)

theorem rebinds_resetAndBindSingleI64 : Rebinds (resetAndBindSingleI64 first : StatementM sql DbError Unit) := by
  refine rebinds_counted (binds_bindWith _ 1 _) fun position inside => ?_
  exact .inl (by omega)

/-- One binding after another. -/
theorem Binds.and_then {call next : StatementM sql DbError Unit} {bound more most : Nat → Prop}
    (binds : Binds call bound more) (nextBinds : Binds next more most) : Binds (call >>= fun _ => next) bound most :=
  Couples.bind binds fun _ => nextBinds

theorem two_parameters (bound : Nat → Prop) (position : Nat) (inside : position < 2) :
    andParameter 2 (andParameter 1 bound) position := by
  by_cases last : position + 1 = 2
  · exact .inl last
  · exact .inr (.inl (by omega))

theorem rebinds_resetAndBindTwoTextBorrowed :
    Rebinds (resetAndBindTwoTextBorrowed text other : StatementM sql DbError Unit) :=
  rebinds_counted (Binds.and_then (binds_bindSized _ 1 _ _ _) (binds_bindSized _ 2 _ _ _)) (two_parameters _)

theorem rebinds_resetAndBindI64TextBorrowed :
    Rebinds (resetAndBindI64TextBorrowed first text : StatementM sql DbError Unit) :=
  rebinds_counted (Binds.and_then (binds_bindWith _ 1 _) (binds_bindSized _ 2 _ _ _)) (two_parameters _)

theorem rebinds_resetAndBindI64BlobBorrowed :
    Rebinds (resetAndBindI64BlobBorrowed first blob : StatementM sql DbError Unit) :=
  rebinds_counted (Binds.and_then (binds_bindWith _ 1 _) (binds_bindSized _ 2 _ _ _)) (two_parameters _)

theorem rebinds_resetAndBindI64I64TextBorrowed :
    Rebinds (resetAndBindI64I64TextBorrowed first second text : StatementM sql DbError Unit) := by
  refine rebinds_counted (Binds.and_then (binds_bindWith _ 1 _)
    (Binds.and_then (binds_bindWith _ 2 _) (binds_bindSized _ 3 _ _ _))) fun position inside => ?_
  by_cases last : position + 1 = 3
  · exact .inl last
  · exact .inr (two_parameters _ position (by omega))

end Forms

theorem rebinds_resetAndBindTextIter (values : List String) :
    Rebinds (resetAndBindTextIter values : StatementM sql DbError Unit) := by
  refine rebinds_counted (Couples.onError (binds_bindTextsFrom values 0 _) fun _ _ same => same) ?_
  exact fun position inside => .inl ⟨Nat.zero_le _, by omega⟩

/-! ## Calls -/

/-- A call that ends as on a statement that was just prepared. -/
abbrev Forgets (call : StatementM sql ε α) : Prop := Couples Unfailed call SameDatabase SameDatabase

/-- What follows the binding starts from one and the same statement. -/
theorem Rebinds.forgets {bind : StatementM sql ε α} (rebinds : Rebinds bind) (rest : α → StatementM sql ε β) :
    Forgets (bind >>= rest) := by
  have database : ∀ left right : Statement sql, left = right → SameDatabase left right := by
    rintro left _ rfl
    rfl
  exact Couples.bind rebinds fun value => Couples.imp (couples_eq (rest value)) (fun _ _ same => same) database database

theorem Forgets.ofExcept {call : StatementM sql ε (Except ε α)} (forgets : Forgets call) :
    Forgets (call >>= fun result => Action.ofExcept result) :=
  Couples.bind forgets couples_ofExcept

theorem Forgets.orTrap {call : StatementM sql ε (Option α)} (forgets : Forgets call) : Forgets (Db.orTrap call) := by
  intro left right related
  obtain ⟨same, after⟩ := Couples.ends forgets related
  rw [Db.orTrap, Db.orTrap]
  cases leftEnd : call left with
  | mk outcome leftNext =>
      cases rightEnd : call right with
      | mk other rightNext =>
          rw [leftEnd, rightEnd] at same after
          cases same
          cases outcome with
          | ok value =>
              cases value with
              | none => exact ⟨rfl, related.1⟩
              | some value => exact ⟨rfl, after⟩
          | err error => exact ⟨rfl, after⟩
          | panic => exact ⟨rfl, after⟩

theorem Rebinds.onError {bind : StatementM sql DbError Unit} (rebinds : Rebinds bind) :
    Rebinds (Action.onError bind Statement.clearBindings) :=
  Couples.onError rebinds fun _ _ same => same

theorem forgets_stepBorrowed {bind : StatementM sql DbError Unit} (rebinds : Rebinds bind)
    (finish : Stepped → Except DbError α) : Forgets (stepBorrowed bind finish) :=
  rebinds.onError.forgets _

theorem forgets_queryWithBindCheck (values : List Value) (check : Nat → Except QueryError Unit)
    (rows : RowProgram δ α) : Forgets (queryWithBindCheck values check rows : StatementM sql QueryError α) := by
  refine Couples.bind (Couples.mapError couples_reset) fun _ => ?_
  split
  · exact couples_fail _ fun _ _ same => same.database
  · rename_i counted
    have bound : Couples (SameBound fun _ => False) (bindCheckedFrom check 0 values : StatementM sql QueryError Unit)
        Eq SameDatabase := by
      refine Rebinds.of_binds (binds_bindCheckedFrom check values 0 _) fun position inside => ?_
      exact .inl ⟨Nat.zero_le _, by omega⟩
    have database : ∀ left right : Statement sql, left = right → SameDatabase left right := by
      rintro left _ rfl
      rfl
    exact Couples.bind bound fun _ => Couples.imp (couples_eq _) (fun _ _ same => same) database database

theorem StatementCall.forgets (call : StatementCall δ α) :
    Forgets (call.perform : StatementM sql QueryError α) := by
  cases call with
  | execute values => exact Couples.mapError ((rebinds_resetAndBind values).forgets _)
  | executeNamed values => exact Couples.mapError ((rebinds_resetAndBindNamed values).forgets _)
  | executeTextText first second =>
      exact Couples.mapError (forgets_stepBorrowed (rebinds_resetAndBindTwoTextBorrowed first second) _)
  | executeI64Text first second =>
      exact Couples.mapError (forgets_stepBorrowed (rebinds_resetAndBindI64TextBorrowed first second) _)
  | executeI64Blob first second =>
      exact Couples.mapError (forgets_stepBorrowed (rebinds_resetAndBindI64BlobBorrowed first second) _)
  | executeI64I64Text first second third =>
      exact Couples.mapError (forgets_stepBorrowed (rebinds_resetAndBindI64I64TextBorrowed first second third) _)
  | query values rows => exact Couples.mapError ((rebinds_resetAndBind values).forgets _)
  | queryNamed values rows => exact Couples.mapError ((rebinds_resetAndBindNamed values).forgets _)
  | queryWithBindCheck values check rows => exact forgets_queryWithBindCheck values check rows
  | queryI64 value rows => exact Couples.mapError ((rebinds_resetAndBindSingleI64 value).forgets _)
  | queryTexts values rows => exact Couples.mapError ((rebinds_resetAndBindTextIter values).forgets _)
  | queryTextIter values rows => exact Couples.mapError ((rebinds_resetAndBindTextIter values).forgets _)
  | queryTextIterEphemeral values rows => exact Couples.mapError ((rebinds_resetAndBindTextIter values).forgets _)
  | queryTextIterTextLenSum turns values =>
      exact Couples.mapError (Forgets.orTrap ((rebinds_resetAndBindTextIter values).onError.forgets _))
  | queryOne values f => exact Couples.mapError ((rebinds_resetAndBind values).forgets _).ofExcept
  | queryOneNamed values f => exact Couples.mapError ((rebinds_resetAndBindNamed values).forgets _).ofExcept
  | queryOptional values f => exact Couples.mapError ((rebinds_resetAndBind values).forgets _).ofExcept
  | queryOptionalNamed values f => exact Couples.mapError ((rebinds_resetAndBindNamed values).forgets _).ofExcept
  | queryAll turns values f seen => exact Couples.mapError ((rebinds_resetAndBind values).forgets _).ofExcept
  | queryAllNamed turns values f seen => exact Couples.mapError ((rebinds_resetAndBindNamed values).forgets _).ofExcept
  | queryScalar read values => exact Couples.mapError ((rebinds_resetAndBind values).forgets _).ofExcept
  | queryScalarNamed read values => exact Couples.mapError ((rebinds_resetAndBindNamed values).forgets _).ofExcept
  | queryOptionalScalar read values => exact Couples.mapError ((rebinds_resetAndBind values).forgets _).ofExcept
  | queryOptionalScalarNamed read values =>
      exact Couples.mapError ((rebinds_resetAndBindNamed values).forgets _).ofExcept
  | queryColumn turns read values => exact Couples.mapError ((rebinds_resetAndBind values).forgets _).ofExcept
  | queryColumnNamed turns read values =>
      exact Couples.mapError ((rebinds_resetAndBindNamed values).forgets _).ofExcept
  | queryOptionalStringText value =>
      exact Couples.mapError (forgets_stepBorrowed (rebinds_resetAndBindSingleTextBorrowed value) _)
  | queryOptionalStringTextLen value =>
      exact Couples.mapError (forgets_stepBorrowed (rebinds_resetAndBindSingleTextBorrowed value) _)

/-! ## Refused calls -/

/-- The number of values that a call compares with the number of parameters
before it resets the statement. -/
def StatementCall.counted : StatementCall δ α → Option Nat
  | .executeTextText _ _ => some 2
  | .executeI64Text _ _ => some 2
  | .executeI64Blob _ _ => some 2
  | .executeI64I64Text _ _ _ => some 3
  | .queryI64 _ _ => some 1
  | .queryTexts values _ => some values.length
  | .queryTextIter values _ => some values.length
  | .queryTextIterEphemeral values _ => some values.length
  | .queryTextIterTextLenSum _ values => some values.length
  | .queryOptionalStringText _ => some 1
  | .queryOptionalStringTextLen _ => some 1
  | _ => none

/-- What the call starts with. -/
def StatementCall.opening (call : StatementCall δ α) : StatementM sql DbError Unit :=
  match call.counted with
  | some actual => resetCounted actual
  | none => reset

/-- The call ended with this error and did not touch the database. -/
def Refused (call : StatementM sql ε α) (error : ε) (self : Statement sql) : Prop :=
  (call self).1 = .err error ∧ (call self).2.database = self.database

section Refused

variable {self : Statement sql} {error : ε}

theorem Refused.bind {first : StatementM sql ε α} (refused : Refused first error self)
    (rest : α → StatementM sql ε β) : Refused (first >>= rest) error self := by
  have ended : first self = (.err error, (first self).2) := Prod.ext refused.1 rfl
  rw [Refused, bind_of_err rest ended]
  exact ⟨rfl, refused.2⟩

theorem Refused.onError {call : StatementM sql ε α} (refused : Refused call error self) :
    Refused (Action.onError call Statement.clearBindings) error self := by
  have ended : call self = (.err error, (call self).2) := Prod.ext refused.1 rfl
  rw [Refused, Action.onError, ended]
  exact ⟨rfl, refused.2⟩

theorem Refused.orTrap {call : StatementM sql ε (Option α)} (refused : Refused call error self) :
    Refused (Db.orTrap call) error self := by
  have ended : call self = (.err error, (call self).2) := Prod.ext refused.1 rfl
  rw [Refused, Db.orTrap, ended]
  exact ⟨rfl, refused.2⟩

theorem Refused.mapError {error : DbError} {call : StatementM sql DbError α} (refused : Refused call error self) :
    Refused (Action.mapError QueryError.database call) (.database error) self := by
  have ended : call self = (.err error, (call self).2) := Prod.ext refused.1 rfl
  rw [Refused, Action.mapError, ended]
  exact ⟨rfl, refused.2⟩

/-- A call whose opening is refused is refused. -/
theorem StatementCall.refused {call : StatementCall δ α} {error : DbError} (refused : Refused call.opening error self) :
    Refused call.perform (.database error) self := by
  cases call with
  | execute values => exact Refused.mapError (.bind (.bind refused _) _)
  | executeNamed values => exact Refused.mapError (.bind (.bind refused _) _)
  | executeTextText first second => exact Refused.mapError (.bind (.onError (.bind refused _)) _)
  | executeI64Text first second => exact Refused.mapError (.bind (.onError (.bind refused _)) _)
  | executeI64Blob first second => exact Refused.mapError (.bind (.onError (.bind refused _)) _)
  | executeI64I64Text first second third => exact Refused.mapError (.bind (.onError (.bind refused _)) _)
  | query values rows => exact Refused.mapError (.bind (.bind refused _) _)
  | queryNamed values rows => exact Refused.mapError (.bind (.bind refused _) _)
  | queryWithBindCheck values check rows => exact .bind (.mapError refused) _
  | queryI64 value rows => exact Refused.mapError (.bind (.bind refused _) _)
  | queryTexts values rows => exact Refused.mapError (.bind (.bind refused _) _)
  | queryTextIter values rows => exact Refused.mapError (.bind (.bind refused _) _)
  | queryTextIterEphemeral values rows => exact Refused.mapError (.bind (.bind refused _) _)
  | queryTextIterTextLenSum turns values => exact Refused.mapError (.orTrap (.bind (.onError (.bind refused _)) _))
  | queryOne values f => exact Refused.mapError (.bind (.bind (.bind refused _) _) _)
  | queryOneNamed values f => exact Refused.mapError (.bind (.bind (.bind refused _) _) _)
  | queryOptional values f => exact Refused.mapError (.bind (.bind (.bind refused _) _) _)
  | queryOptionalNamed values f => exact Refused.mapError (.bind (.bind (.bind refused _) _) _)
  | queryAll turns values f seen => exact Refused.mapError (.bind (.bind (.bind refused _) _) _)
  | queryAllNamed turns values f seen => exact Refused.mapError (.bind (.bind (.bind refused _) _) _)
  | queryScalar read values => exact Refused.mapError (.bind (.bind (.bind refused _) _) _)
  | queryScalarNamed read values => exact Refused.mapError (.bind (.bind (.bind refused _) _) _)
  | queryOptionalScalar read values => exact Refused.mapError (.bind (.bind (.bind refused _) _) _)
  | queryOptionalScalarNamed read values => exact Refused.mapError (.bind (.bind (.bind refused _) _) _)
  | queryColumn turns read values => exact Refused.mapError (.bind (.bind (.bind refused _) _) _)
  | queryColumnNamed turns read values => exact Refused.mapError (.bind (.bind (.bind refused _) _) _)
  | queryOptionalStringText value => exact Refused.mapError (.bind (.onError (.bind refused _)) _)
  | queryOptionalStringTextLen value => exact Refused.mapError (.bind (.onError (.bind refused _)) _)

end Refused

/-- The call is given a number of values that its statement does not have, and
says so before it resets the statement. -/
def StatementCall.Miscounted (sql : Program δ κ) (call : StatementCall δ α) : Prop :=
  ∃ actual, call.counted = some actual ∧ parameterCount sql ≠ actual

theorem StatementCall.refused_of_miscounted {call : StatementCall δ α} (miscounted : call.Miscounted sql) :
    ∃ error, ∀ self : Statement sql, Refused call.perform (.database error) self := by
  obtain ⟨actual, counted, differ⟩ := miscounted
  refine ⟨.parameterCountMismatch (parameterCount sql) actual, fun self => StatementCall.refused ?_⟩
  rw [StatementCall.opening, counted]
  dsimp only
  rw [resetCounted, if_pos differ]
  exact ⟨rfl, rfl⟩

/-- A call that finds the statement with the error of its last step reports that
error, whatever it was asked to do. -/
theorem StatementCall.reports_old_error {call : StatementCall δ α} {self : Statement sql} {failure : Failure}
    (failed : self.phase.failure = some failure) (counted : ¬ call.Miscounted sql) :
    Refused call.perform (.database failure.error) self := by
  have refused : Refused (reset : StatementM sql DbError Unit) failure.error self := by
    rw [Refused, reset, bind_of_ok _ (show sqliteReset self = (.ok self.phase.failure, _) from rfl), failed]
    exact ⟨rfl, rfl⟩
  refine StatementCall.refused ?_
  rw [StatementCall.opening]
  cases number : call.counted with
  | none => exact refused
  | some actual =>
      have matching : ¬ parameterCount sql ≠ actual := fun differ => counted ⟨actual, number, differ⟩
      dsimp only
      rw [resetCounted, if_neg matching]
      exact refused

/-! ## Runs -/

/-- A call ends as it would on a statement that was just prepared, and with the
same database. -/
def StatementEvent.Forgetful (event : StatementEvent δ) (self : Statement sql) : Prop :=
  match event with
  | .call made =>
      let fresh := Statement.prepared sql self.database
      (made.perform self).1 = (made.perform fresh).1 ∧
        (made.perform self).2.database = (made.perform fresh).2.database
  | .elsewhere _ => True
  | .returned => True

/-- The last step did not fail, or the statement was reset since; or the call
does not get as far as to reset it. -/
def StatementEvent.Unencumbered (event : StatementEvent δ) (self : Statement sql) : Prop :=
  match event with
  | .call made => self.phase.failure = none ∨ made.Miscounted sql
  | .elsewhere _ => True
  | .returned => True

theorem StatementEvent.forgetful (event : StatementEvent δ) (self : Statement sql)
    (unencumbered : event.Unencumbered self) : event.Forgetful self := by
  cases event with
  | call made =>
      rcases unencumbered with unfailed | miscounted
      · exact Couples.ends (StatementCall.forgets made) ⟨rfl, unfailed, rfl⟩
      · obtain ⟨error, refused⟩ := made.refused_of_miscounted miscounted
        have used := refused self
        have fresh := refused (Statement.prepared sql self.database)
        exact ⟨used.1.trans fresh.1.symm, used.2.trans fresh.2.symm⟩
  | elsewhere change => trivial
  | returned => trivial

/-- In every run of calls on one statement in which no call finds the error of a
step that failed before it, each call ends as on a statement just prepared. -/
theorem reused_statement_has_no_memory (sql : Program δ κ) (database : δ) (events : List (StatementEvent δ))
    (unencumbered : Throughout StatementEvent.perform StatementEvent.Unencumbered events
      (Statement.prepared sql database)) :
    Throughout StatementEvent.perform StatementEvent.Forgetful events (Statement.prepared sql database) :=
  unencumbered.imp StatementEvent.forgetful

/-- `INSERT INTO t(k) VALUES (?1)` into a table with a unique integer key. -/
def insertUnique : Program (List Int64) Unit where
  parameters := [some "?1"]
  distinct := by decide
  bindCode _ _ _ := sqliteOk
  step values _ keys :=
    match values with
    | [.integer key] =>
        if key ∈ keys then (.failed ⟨sqliteConstraint, "UNIQUE constraint failed: t.k", by decide⟩, keys)
        else (.done, key :: keys)
    | _ => (.failed ⟨20, "datatype mismatch", by decide⟩, keys)

theorem reused_statement_has_no_memory_returned :
    let events : List (StatementEvent (List Int64)) := [.call (.execute [.integer 1]), .call (.execute [.integer 1]),
      .returned, .call (.execute [.integer 2])]
    Throughout StatementEvent.perform StatementEvent.Forgetful events (Statement.prepared insertUnique []) :=
  reused_statement_has_no_memory insertUnique [] _ ⟨.inl rfl, .inl rfl, trivial, .inl rfl, trivial⟩

/-- The second insert fails, and the third is told so. -/
theorem failed_step_fails_next_call :
    ¬ ∀ (database : List Int64) (events : List (StatementEvent (List Int64))),
      Throughout StatementEvent.perform StatementEvent.Forgetful events
        (Statement.prepared insertUnique database) := by
  intro always
  obtain ⟨_, _, third, _⟩ := always [] [.call (.execute [.integer 1]), .call (.execute [.integer 1]),
    .call (.execute [.integer 2])]
  have reported := third.1
  revert reported
  decide

end IcSqliteVfs.Db
