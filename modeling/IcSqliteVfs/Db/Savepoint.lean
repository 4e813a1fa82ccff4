import IcSqliteVfs.Semantics.Action
import Mathlib.Data.List.Nodup
import Mathlib.Data.List.Pairwise

namespace IcSqliteVfs.Db

open IcSqliteVfs.Semantics

/-! # Nested savepoints

`UpdateConnection::savepoint` brackets a closure with SQLite's savepoint
commands.  SQLite keeps a stack of named savepoints and matches a name from the
innermost one outwards.
-/

/-- An open transaction: the database as it sees it, the open savepoints,
innermost first and each with the database that it was opened on, and the names
that were open after each savepoint command so far. -/
structure Transaction (δ : Type) where
  database : δ
  savepoints : List (String × δ)
  history : List (List String)

inductive SavepointSql where
  | savepoint (name : String)
  | release (name : String)
  | rollbackTo (name : String)
deriving DecidableEq, Repr

section Sqlite

variable {δ : Type}

def Transaction.names (transaction : Transaction δ) : List String := transaction.savepoints.map Prod.fst

/-- The savepoints from the innermost one of this name outwards. -/
def fromName (name : String) (savepoints : List (String × δ)) : List (String × δ) :=
  savepoints.dropWhile fun entry => entry.1 ≠ name

/-- A savepoint is opened; with its inner ones it is merged into the outer
transaction; or the database goes back to it, and it stays open.  A name that
is not open is an error. -/
def SavepointSql.apply (transaction : Transaction δ) : SavepointSql → Option (Transaction δ)
  | .savepoint name =>
      some { transaction with savepoints := (name, transaction.database) :: transaction.savepoints }
  | .release name =>
      match fromName name transaction.savepoints with
      | [] => none
      | _ :: outer => some { transaction with savepoints := outer }
  | .rollbackTo name =>
      match fromName name transaction.savepoints with
      | [] => none
      | entry :: outer => some { transaction with database := entry.2, savepoints := entry :: outer }

def Transaction.noted (transaction : Transaction δ) : Transaction δ :=
  { transaction with history := transaction.history ++ [transaction.names] }

end Sqlite

/-- The counter is a `u64`; no update opens that many savepoints. -/
structure UpdateConnection (δ : Type) where
  connection : Transaction δ
  savepointId : Nat

abbrev UpdateM (δ ε : Type) : Type → Type := Action (UpdateConnection δ) ε

section Savepoint

variable {δ ε α : Type}

def UpdateConnection.new (connection : Transaction δ) : UpdateConnection δ := ⟨connection, 0⟩

-- the error of a command on a name that is not open
variable (noSuchSavepoint : ε)

def executeBatch (sql : SavepointSql) : UpdateM δ ε Unit := fun self =>
  match sql.apply self.connection with
  | some connection => (.ok (), { self with connection := connection.noted })
  | none => (.err noSuchSavepoint, self)

def savepointName (id : Nat) : String := "__ic_sqlite_sp_" ++ toString id

def nextSavepointName : UpdateM δ ε String := fun self =>
  (.ok (savepointName self.savepointId), { self with savepointId := self.savepointId + 1 })

/-- What follows the closure; the results of the commands after an error are dropped. -/
def closeSavepoint (name : String) : Outcome ε α → UpdateM δ ε α
  | .ok value => do
      executeBatch noSuchSavepoint (.release name)
      pure value
  | .err error => do
      let _ ← Action.attempt (executeBatch noSuchSavepoint (.rollbackTo name))
      let _ ← Action.attempt (executeBatch noSuchSavepoint (.release name))
      Action.fail error
  | .panic => Action.panic

def savepoint (f : UpdateM δ ε α) : UpdateM δ ε α := do
  let name ← nextSavepointName
  executeBatch noSuchSavepoint (.savepoint name)
  let ended ← Action.attempt f
  closeSavepoint noSuchSavepoint name ended

end Savepoint

/-! ## Closures

A closure runs statements, whose answers it may look at, and inner savepoints,
whose errors it may swallow or pass on.
-/

inductive UpdateBody (δ ε : Type) : Type → Type 1 where
  | done {α : Type} (result : Except ε α) : UpdateBody δ ε α
  | statement {α β : Type} (execute : δ → β × δ) (rest : β → UpdateBody δ ε α) : UpdateBody δ ε α
  | savepoint {α β : Type} (inner : UpdateBody δ ε β) (rest : Except ε β → UpdateBody δ ε α) : UpdateBody δ ε α

def succeeded {ε α : Type} : Except ε α → Bool
  | .ok _ => true
  | .error _ => false

def toOutcome {ε α : Type} : Except ε α → Outcome ε α
  | .ok value => .ok value
  | .error error => .err error

namespace UpdateBody

variable {δ ε : Type}

/-- The closure run on the connection of an update. -/
def perform (noSuchSavepoint : ε) {α : Type} : UpdateBody δ ε α → UpdateM δ ε α
  | .done result => Action.ofExcept result
  | .statement execute rest => fun self =>
      let (answer, database) := execute self.connection.database
      (rest answer).perform noSuchSavepoint { self with connection := { self.connection with database } }
  | .savepoint inner rest => fun self =>
      match Db.savepoint noSuchSavepoint (inner.perform noSuchSavepoint) self with
      | (.ok value, next) => (rest (.ok value)).perform noSuchSavepoint next
      | (.err error, next) => (rest (.error error)).perform noSuchSavepoint next
      | (.panic, next) => (.panic, next)

/-- What the closure means: a savepoint that fails gives back the database that
it started from. -/
def reference {α : Type} : UpdateBody δ ε α → δ → Except ε α × δ
  | .done result, database => (result, database)
  | .statement execute rest, database => (rest (execute database).1).reference (execute database).2
  | .savepoint inner rest, database =>
      let (result, changed) := inner.reference database
      (rest result).reference (if succeeded result then changed else database)

end UpdateBody

/-! ## Names -/

theorem savepointName_injective : Function.Injective savepointName := by
  intro left right same
  rw [savepointName, savepointName, String.append_right_inj] at same
  have digits : Nat.toDigits 10 left = Nat.toDigits 10 right := by
    rw [← Nat.toList_repr, ← Nat.toList_repr]
    exact congrArg String.toList same
  rw [← @Nat.ofDigitChars_toDigits 10 left (by decide) (by decide), digits,
    Nat.ofDigitChars_toDigits (by decide) (by decide)]

variable {δ ε α : Type} {self next : UpdateConnection δ}

/-- Names that were given out one after the other, the last one first. -/
def Numbered (names : List String) (bound : Nat) : Prop :=
  ∃ ids : List Nat, names = ids.map savepointName ∧ ids.Pairwise (· > ·) ∧ ∀ id ∈ ids, id < bound

theorem Numbered.nodup {names : List String} {bound : Nat} (numbered : Numbered names bound) : names.Nodup := by
  obtain ⟨ids, rfl, ordered, _⟩ := numbered
  refine List.Nodup.map savepointName_injective ?_
  exact ordered.imp fun above => Nat.ne_of_gt above

theorem Numbered.push {names : List String} {bound : Nat} (numbered : Numbered names bound) :
    Numbered (savepointName bound :: names) (bound + 1) := by
  obtain ⟨ids, rfl, ordered, below⟩ := numbered
  refine ⟨bound :: ids, rfl, List.pairwise_cons.mpr ⟨below, ordered⟩, ?_⟩
  intro id member
  rcases List.mem_cons.mp member with rfl | older
  · exact Nat.lt_succ_self _
  · exact Nat.lt_succ_of_lt (below id older)

theorem Numbered.mono {names : List String} {bound later : Nat} (numbered : Numbered names bound)
    (ordered : bound ≤ later) : Numbered names later := by
  obtain ⟨ids, named, decreasing, below⟩ := numbered
  exact ⟨ids, named, decreasing, fun id member => Nat.lt_of_lt_of_le (below id member) ordered⟩

/-- What was open after the commands so far had pairwise different names. -/
def Distinct (history : List (List String)) : Prop := ∀ names ∈ history, names.Nodup

theorem Distinct.noted {transaction : Transaction δ} (distinct : Distinct transaction.history)
    (names : transaction.names.Nodup) : Distinct transaction.noted.history := by
  intro seen member
  rcases List.mem_append.mp member with old | new
  · exact distinct seen old
  · rw [List.mem_singleton.mp new]
    exact names

/-! ## One savepoint -/

/-- The call left the open savepoints as they were.  It used up some numbers; if
those of the open savepoints were in order before it, no two savepoints shared a
name at any time in it. -/
structure Balanced (before after : UpdateConnection δ) : Prop where
  savepoints : after.connection.savepoints = before.connection.savepoints
  forward : before.savepointId ≤ after.savepointId
  distinct : Numbered before.connection.names before.savepointId → Distinct before.connection.history →
    Distinct after.connection.history

theorem Balanced.refl (self : UpdateConnection δ) : Balanced self self :=
  ⟨rfl, Nat.le_refl _, fun _ distinct => distinct⟩

theorem Balanced.names {before after : UpdateConnection δ} (balanced : Balanced before after) :
    after.connection.names = before.connection.names := congrArg (List.map Prod.fst) balanced.savepoints

theorem Balanced.trans {before middle after : UpdateConnection δ} (first : Balanced before middle)
    (second : Balanced middle after) : Balanced before after where
  savepoints := second.savepoints.trans first.savepoints
  forward := Nat.le_trans first.forward second.forward
  distinct := by
    intro numbered distinct
    refine second.distinct ?_ (first.distinct numbered distinct)
    rw [first.names]
    exact numbered.mono first.forward

/-- The connection that the closure of a savepoint gets. -/
def opened (self : UpdateConnection δ) : UpdateConnection δ :=
  ⟨Transaction.noted { self.connection with
    savepoints := (savepointName self.savepointId, self.connection.database) :: self.connection.savepoints },
    self.savepointId + 1⟩

theorem fromName_cons (name : String) (database : δ) (outer : List (String × δ)) :
    fromName name ((name, database) :: outer) = (name, database) :: outer := by
  simp [fromName]

section Steps

variable {noSuchSavepoint : ε} {inner : UpdateConnection δ}

/-- The innermost open savepoint is released. -/
theorem executeBatch_release {name : String} {database : δ} {outer : List (String × δ)}
    (top : self.connection.savepoints = (name, database) :: outer) :
    executeBatch noSuchSavepoint (.release name) self =
      (.ok (), { self with connection := Transaction.noted { self.connection with savepoints := outer } }) := by
  rw [executeBatch, SavepointSql.apply, top, fromName_cons]

/-- The innermost open savepoint gives its database back and stays open. -/
theorem executeBatch_rollbackTo {name : String} {database : δ} {outer : List (String × δ)}
    (top : self.connection.savepoints = (name, database) :: outer) :
    executeBatch noSuchSavepoint (.rollbackTo name) self =
      (.ok (), { self with connection := Transaction.noted { self.connection with
        database, savepoints := (name, database) :: outer } }) := by
  rw [executeBatch, SavepointSql.apply, top, fromName_cons]

theorem Distinct.opened (numbered : Numbered self.connection.names self.savepointId)
    (distinct : Distinct self.connection.history) : Distinct (opened self).connection.history :=
  Distinct.noted distinct numbered.push.nodup

/-- The connection after a savepoint was released. -/
def released (self inner : UpdateConnection δ) : UpdateConnection δ :=
  { inner with connection :=
    Transaction.noted { inner.connection with savepoints := self.connection.savepoints } }

theorem Balanced.released (balanced : Balanced (opened self) inner) : Balanced self (released self inner) where
  savepoints := rfl
  forward := Nat.le_of_succ_le balanced.forward
  distinct := by
    intro numbered distinct
    have closed : Distinct inner.connection.history := balanced.distinct numbered.push (distinct.opened numbered)
    exact Distinct.noted closed numbered.nodup

/-- The connection after the database went back to the innermost savepoint. -/
def rolledBack (self inner : UpdateConnection δ) : UpdateConnection δ :=
  { inner with connection := Transaction.noted { inner.connection with
    database := self.connection.database
    savepoints := (opened self).connection.savepoints } }

theorem Balanced.rolledBack (balanced : Balanced (opened self) inner) :
    Balanced (opened self) (rolledBack self inner) where
  savepoints := rfl
  forward := balanced.forward
  distinct := by
    intro numbered distinct
    exact Distinct.noted (balanced.distinct numbered distinct) numbered.nodup

/-- Closing a savepoint whose closure left it on top of the stack. -/
theorem closeSavepoint_of (noSuchSavepoint : ε) (balanced : Balanced (opened self) inner) (result : Except ε α) :
    ∃ next, closeSavepoint noSuchSavepoint (savepointName self.savepointId) (toOutcome result) inner =
        (toOutcome result, next) ∧ Balanced self next ∧
      next.connection.database = if succeeded result then inner.connection.database else self.connection.database := by
  cases result with
  | ok value =>
      refine ⟨released self inner, ?_, balanced.released, rfl⟩
      rw [toOutcome, closeSavepoint, Action.bind_of_ok _ (executeBatch_release balanced.savepoints)]
      rfl
  | error error =>
      refine ⟨released self (rolledBack self inner), ?_, balanced.rolledBack.released, rfl⟩
      rw [toOutcome, closeSavepoint,
        Action.bind_of_ok _ (Action.attempt_of_ok (executeBatch_rollbackTo balanced.savepoints)),
        Action.bind_of_ok _ (Action.attempt_of_ok (executeBatch_release rfl))]
      rfl

theorem attempt_toOutcome {f : UpdateM δ ε α} {result : Except ε α}
    (ran : f self = (toOutcome result, inner)) : Action.attempt f self = (.ok (toOutcome result), inner) := by
  rw [Action.attempt, ran]
  cases result <;> rfl

/-- A savepoint around a closure that leaves the stack alone: an error gives the
database back that was there before. -/
theorem savepoint_of {f : UpdateM δ ε α} {result : Except ε α} (ran : f (opened self) = (toOutcome result, inner))
    (balanced : Balanced (opened self) inner) :
    ∃ next, savepoint noSuchSavepoint f self = (toOutcome result, next) ∧ Balanced self next ∧
      next.connection.database = if succeeded result then inner.connection.database else self.connection.database := by
  obtain ⟨next, closed, kept, database⟩ := closeSavepoint_of noSuchSavepoint balanced result
  refine ⟨next, ?_, kept, database⟩
  have named : (nextSavepointName : UpdateM δ ε String) self =
      (.ok (savepointName self.savepointId), { self with savepointId := self.savepointId + 1 }) := rfl
  have began : executeBatch noSuchSavepoint (.savepoint (savepointName self.savepointId))
      { self with savepointId := self.savepointId + 1 } = (.ok (), opened self) := rfl
  rw [savepoint, Action.bind_of_ok _ named, Action.bind_of_ok _ began, Action.bind_of_ok _ (attempt_toOutcome ran),
    closed]

end Steps

/-! ## Trees of savepoints -/

/-- The closure goes on with the result of its inner savepoint. -/
theorem UpdateBody.perform_savepoint {noSuchSavepoint : ε} {β : Type} {inner : UpdateBody δ ε β}
    {rest : Except ε β → UpdateBody δ ε α} {result : Except ε β}
    (ended : Db.savepoint noSuchSavepoint (inner.perform noSuchSavepoint) self = (toOutcome result, next)) :
    (UpdateBody.savepoint inner rest).perform noSuchSavepoint self = (rest result).perform noSuchSavepoint next := by
  simp only [UpdateBody.perform, ended]
  cases result <;> rfl

/-- A closure ends as its meaning says and leaves the open savepoints alone. -/
theorem UpdateBody.perform_spec (noSuchSavepoint : ε) (body : UpdateBody δ ε α) (self : UpdateConnection δ) :
    ∃ next, body.perform noSuchSavepoint self = (toOutcome (body.reference self.connection.database).1, next) ∧
      next.connection.database = (body.reference self.connection.database).2 ∧ Balanced self next := by
  induction body generalizing self with
  | done result => exact ⟨self, by cases result <;> rfl, rfl, Balanced.refl self⟩
  | statement execute rest ih =>
      let written : UpdateConnection δ :=
        { self with connection := { self.connection with database := (execute self.connection.database).2 } }
      have wrote : Balanced self written := ⟨rfl, Nat.le_refl _, fun _ distinct => distinct⟩
      obtain ⟨next, ended, database, balanced⟩ := ih (execute self.connection.database).1 written
      exact ⟨next, ended, database, wrote.trans balanced⟩
  | savepoint inner rest innerIH restIH =>
      obtain ⟨last, ran, changed, balanced⟩ := innerIH (opened self)
      obtain ⟨closed, ended, kept, database⟩ := savepoint_of ran balanced
      obtain ⟨next, finished, left, after⟩ := restIH _ closed
      rw [database, changed] at finished left
      exact ⟨next, (UpdateBody.perform_savepoint ended).trans finished, left, kept.trans after⟩

/-- Nested savepoints of an update, whatever the closures run, swallow or pass
on: the closure ends as in the reference semantics and with its database; after
every savepoint call the stack is what it was before it; and no two savepoints
that were open after the same command had one name. -/
theorem savepoints_undo_what_failed (noSuchSavepoint : ε) (body : UpdateBody δ ε α) (database : δ) :
    let update := UpdateConnection.new ⟨database, [], []⟩
    let (outcome, last) := body.perform noSuchSavepoint update
    outcome = toOutcome (body.reference database).1 ∧
    last.connection.database = (body.reference database).2 ∧
    last.connection.savepoints = [] ∧
    (∀ names ∈ last.connection.history, names.Nodup) ∧
    ∀ {β : Type} (inner : UpdateBody δ ε β) (self : UpdateConnection δ),
      (savepoint noSuchSavepoint (inner.perform noSuchSavepoint) self).2.connection.savepoints =
        self.connection.savepoints := by
  intro update
  obtain ⟨last, ended, changed, balanced⟩ := body.perform_spec noSuchSavepoint update
  rw [ended]
  refine ⟨rfl, changed, balanced.savepoints, ?_, ?_⟩
  · have numbered : Numbered update.connection.names update.savepointId := ⟨[], rfl, List.Pairwise.nil, nofun⟩
    exact balanced.distinct numbered nofun
  · intro β inner self
    obtain ⟨stopped, ran, _, kept⟩ := inner.perform_spec noSuchSavepoint (opened self)
    obtain ⟨next, closed, after, _⟩ := savepoint_of ran kept
    rw [closed]
    exact after.savepoints

/-- An inner savepoint fails and its error is swallowed: what it inserted is gone, the rest stays. -/
example :
    let inner : UpdateBody (List Nat) String Unit :=
      .statement (fun rows => ((), 2 :: rows)) fun _ => .done (.error "no")
    let body : UpdateBody (List Nat) String Unit :=
      .savepoint (.statement (fun rows => ((), 1 :: rows)) fun _ => .savepoint inner fun _ => .done (.ok ()))
        fun ended => .done ended
    (body.perform "no such savepoint" (UpdateConnection.new ⟨[0], [], []⟩)).2.connection.database = [1, 0] := by
  decide +kernel

end IcSqliteVfs.Db
