import IcSqliteVfs.Config
import IcSqliteVfs.Data.Keyed
import IcSqliteVfs.Semantics.Run
import Mathlib.Data.List.Count
import Mathlib.Data.List.Nodup
import Mathlib.Data.List.Pairwise

namespace IcSqliteVfs.Db

open IcSqliteVfs.Data IcSqliteVfs.Semantics

/-! # Cached prepared statements

A connection keeps statements that were returned to it, in the order of their
return.  A raw statement is owned by the cache or by the guard that it was
handed out with; the owner finalizes it.
-/

/-- The statements that SQLite prepared, numbered: an address may be used again,
a statement is not. -/
abbrev RawStatement : Type := Nat

structure CachedEntry where
  sql : String
  statement : RawStatement
  parameterCount : Nat
deriving DecidableEq, Repr

namespace StatementCache

def hasSql (sql : String) (entry : CachedEntry) : Bool := entry.sql == sql

/-- `position` and `remove`. -/
def takeFirst (sql : String) (statements : List CachedEntry) : Option (CachedEntry × List CachedEntry) :=
  (statements.find? (hasSql sql)).map fun entry => (entry, statements.eraseP (hasSql sql))

/-- The entry that was returned last is looked at first. -/
def take (sql : String) (statements : List CachedEntry) : Option (CachedEntry × List CachedEntry) :=
  match statements.getLast? with
  | some entry => if entry.sql = sql then some (entry, statements.dropLast) else takeFirst sql statements
  | none => takeFirst sql statements

/-- The statements that are finalized, and what stays. -/
def evictOverCapacity : List CachedEntry → List RawStatement × List CachedEntry
  | [] => ([], [])
  | entry :: rest =>
      if statementCacheCapacity < (entry :: rest).length then
        let (finalized, kept) := evictOverCapacity rest
        (entry.statement :: finalized, kept)
      else ([], entry :: rest)

def insert (entry : CachedEntry) (statements : List CachedEntry) : List RawStatement × List CachedEntry :=
  let (previous, others) := match takeFirst entry.sql statements with
    | some (previous, others) => ([previous.statement], others)
    | none => ([], statements)
  let (evicted, kept) := evictOverCapacity (others ++ [entry])
  (previous ++ evicted, kept)

def finalizeAll (statements : List CachedEntry) : List RawStatement := statements.map CachedEntry.statement

end StatementCache

/-- A connection, the guards that were handed out, and what was finalized, in
order.  When a statement was returned last is kept beside it. -/
structure CachedConnection where
  cached : List CachedEntry
  checkedOut : List (Nat × CachedEntry)
  guards : Nat
  prepared : Nat
  finalized : List RawStatement
  returnedAt : RawStatement → Nat
  returns : Nat
  closed : Bool

def CachedConnection.opened : CachedConnection := ⟨[], [], 0, 0, [], fun _ => 0, 0, false⟩

/-- How `Connection::prepare` ends: before SQLite sees the text, with SQLite's
error, without a statement, with more text behind it, or with a statement. -/
inductive Prepared where
  | interiorNul
  | failed
  | emptySql
  | trailingSql
  | statement (parameterCount : Nat)
deriving DecidableEq, Repr

/-- A statement leaves for a new guard. -/
def CachedConnection.handOut (connection : CachedConnection) (entry : CachedEntry) : CachedConnection :=
  { connection with
    checkedOut := (connection.guards, entry) :: connection.checkedOut
    guards := connection.guards + 1 }

def CachedConnection.prepareCached (sql : String) (ending : Prepared) (connection : CachedConnection) :
    CachedConnection :=
  match StatementCache.take sql connection.cached with
  | some (entry, others) => { connection with cached := others }.handOut entry
  | none =>
      match ending with
      | .interiorNul => connection
      | .failed => connection
      | .emptySql => connection
      | .trailingSql =>
          { connection with
            prepared := connection.prepared + 1
            finalized := connection.finalized ++ [connection.prepared] }
      | .statement parameterCount =>
          { connection with prepared := connection.prepared + 1 }.handOut ⟨sql, connection.prepared, parameterCount⟩

/-- The guard that is dropped, and the guards that stay. -/
def CachedConnection.leave (guard : Nat) (connection : CachedConnection) : Option (CachedEntry × CachedConnection) :=
  (connection.checkedOut.find? fun held => held.1 == guard).map fun held =>
    (held.2, { connection with checkedOut := connection.checkedOut.eraseP fun held => held.1 == guard })

def CachedConnection.returned (entry : CachedEntry) (connection : CachedConnection) : CachedConnection :=
  let (finalized, cached) := StatementCache.insert entry connection.cached
  { connection with
    cached
    finalized := connection.finalized ++ finalized
    returnedAt := Function.update connection.returnedAt entry.statement connection.returns
    returns := connection.returns + 1 }

inductive CacheCall where
  | prepareCached (sql : String) (ending : Prepared)
  | dropStatement (guard : Nat)
  | discard (guard : Nat)
  | close
deriving DecidableEq, Repr

/-- Guards borrow the connection: it is closed when all are gone, and no call
follows. -/
def CacheCall.perform (call : CacheCall) (connection : CachedConnection) : CachedConnection :=
  if connection.closed then connection
  else
    match call with
    | .prepareCached sql ending => connection.prepareCached sql ending
    | .dropStatement guard =>
        match connection.leave guard with
        | some (entry, left) => left.returned entry
        | none => connection
    | .discard guard =>
        match connection.leave guard with
        | some (entry, left) => { left with finalized := left.finalized ++ [entry.statement] }
        | none => connection
    | .close =>
        if connection.checkedOut.isEmpty then
          { connection with
            cached := []
            finalized := connection.finalized ++ StatementCache.finalizeAll connection.cached
            closed := true }
        else connection

/-! ## What the cache operations do -/

namespace StatementCache

variable {sql : String} {entry : CachedEntry} {statements others : List CachedEntry}

/-- An entry of this text was cut out of the list. -/
def CutOut (sql : String) (statements : List CachedEntry) (entry : CachedEntry) (others : List CachedEntry) : Prop :=
  entry.sql = sql ∧ ∃ front back, statements = front ++ entry :: back ∧ others = front ++ back

theorem takeFirst_some (taken : takeFirst sql statements = some (entry, others)) :
    CutOut sql statements entry others := by
  obtain ⟨found, search, same⟩ := Option.map_eq_some_iff.mp taken
  obtain ⟨rfl, rfl⟩ := Prod.mk.inj same
  obtain ⟨front, back, split, erased⟩ := split_of_find? search
  have accepted : hasSql sql found = true := List.find?_some search
  exact ⟨beq_iff_eq.mp accepted, front, back, split, erased⟩

theorem take_some (taken : take sql statements = some (entry, others)) : CutOut sql statements entry others := by
  rw [take] at taken
  cases last : statements.getLast? with
  | none =>
      rw [last] at taken
      exact takeFirst_some taken
  | some final =>
      rw [last] at taken
      dsimp only at taken
      split at taken
      · rename_i same
        obtain ⟨rfl, rfl⟩ : final = entry ∧ statements.dropLast = others := by simpa using taken
        exact ⟨same, statements.dropLast, [], (List.dropLast_append_getLast? final last).symm, by simp⟩
      · exact takeFirst_some taken

theorem CutOut.sublist (cut : CutOut sql statements entry others) : others.Sublist statements := by
  obtain ⟨_, front, back, rfl, rfl⟩ := cut
  exact List.Sublist.append_left (List.sublist_cons_self entry back) front

theorem CutOut.count (cut : CutOut sql statements entry others) (raw : RawStatement) :
    (statements.map CachedEntry.statement).count raw =
      (others.map CachedEntry.statement).count raw + [entry.statement].count raw := by
  obtain ⟨_, front, back, rfl, rfl⟩ := cut
  simp only [List.map_append, List.map_cons, List.count_append, List.count_cons, List.count_nil]
  omega

end StatementCache

/-! ## Every statement has one place -/

def CachedConnection.held (connection : CachedConnection) : List RawStatement :=
  connection.checkedOut.map fun held => held.2.statement

/-- How often a statement is in the cache, with a guard, or finalized. -/
def CachedConnection.places (connection : CachedConnection) (raw : RawStatement) : Nat :=
  (connection.cached.map CachedEntry.statement).count raw + connection.held.count raw + connection.finalized.count raw

/-- What was prepared has exactly one place. -/
def Owned (places : RawStatement → Nat) (prepared : Nat) : Prop :=
  (∀ raw, raw < prepared → places raw = 1) ∧ ∀ raw, prepared ≤ raw → places raw = 0

theorem Owned.same {places after : RawStatement → Nat} {prepared : Nat} (owned : Owned places prepared)
    (same : ∀ raw, after raw = places raw) : Owned after prepared :=
  ⟨fun raw below => (same raw).trans (owned.1 raw below), fun raw above => (same raw).trans (owned.2 raw above)⟩

theorem Owned.next {places after : RawStatement → Nat} {prepared : Nat} (owned : Owned places prepared)
    (added : ∀ raw, after raw = places raw + [prepared].count raw) : Owned after (prepared + 1) := by
  constructor
  · intro raw below
    rw [added raw, List.count_singleton]
    by_cases new : prepared = raw
    · rw [if_pos (beq_iff_eq.mpr new), owned.2 raw (Nat.le_of_eq new)]
    · rw [if_neg (mt beq_iff_eq.mp new), owned.1 raw (by omega)]
  · intro raw above
    rw [added raw, List.count_singleton, if_neg (mt beq_iff_eq.mp (Nat.ne_of_lt above)), owned.2 raw (by omega)]

theorem Owned.le_one {places : RawStatement → Nat} {prepared : Nat} (owned : Owned places prepared)
    (raw : RawStatement) : places raw ≤ 1 := by
  by_cases below : raw < prepared
  · exact Nat.le_of_eq (owned.1 raw below)
  · rw [owned.2 raw (Nat.not_lt.mp below)]
    exact Nat.zero_le _

structure CachedConnection.Sound (connection : CachedConnection) : Prop where
  bounded : connection.cached.length ≤ statementCacheCapacity
  oneEach : (connection.cached.map CachedEntry.sql).Nodup
  owned : Owned connection.places connection.prepared
  ordered : connection.cached.Pairwise fun older newer =>
    connection.returnedAt older.statement < connection.returnedAt newer.statement
  past : ∀ entry ∈ connection.cached, connection.returnedAt entry.statement < connection.returns
  emptied : connection.closed = true → connection.cached = [] ∧ connection.checkedOut = []

variable {connection : CachedConnection} {entry : CachedEntry}

section Steps

variable (sound : connection.Sound) (active : connection.closed = false)

include sound active

/-- A cached statement is handed out. -/
theorem CachedConnection.Sound.handOutCached {sql : String} {others : List CachedEntry}
    (cut : StatementCache.CutOut sql connection.cached entry others) :
    ({ connection with cached := others }.handOut entry).Sound where
  bounded := Nat.le_trans cut.sublist.length_le sound.bounded
  oneEach := (cut.sublist.map _).nodup sound.oneEach
  owned := by
    refine sound.owned.same fun raw => ?_
    have count := cut.count raw
    simp only [CachedConnection.places, CachedConnection.held, CachedConnection.handOut, List.map_cons,
      List.count_cons, List.count_nil] at count ⊢
    omega
  ordered := sound.ordered.sublist cut.sublist
  past := fun other member => sound.past other (cut.sublist.subset member)
  emptied := by
    intro closed
    cases active.symm.trans closed

/-- A new statement is handed out. -/
theorem CachedConnection.Sound.handOutNew (sql : String) (parameterCount : Nat) :
    ({ connection with prepared := connection.prepared + 1 }.handOut
      ⟨sql, connection.prepared, parameterCount⟩).Sound where
  bounded := sound.bounded
  oneEach := sound.oneEach
  owned := by
    refine sound.owned.next fun raw => ?_
    simp only [CachedConnection.places, CachedConnection.held, CachedConnection.handOut, List.map_cons,
      List.count_cons, List.count_nil]
    omega
  ordered := sound.ordered
  past := sound.past
  emptied := by
    intro closed
    cases active.symm.trans closed

omit active in
/-- A new statement is finalized at once. -/
theorem CachedConnection.Sound.finalizeNew :
    CachedConnection.Sound { connection with
      prepared := connection.prepared + 1
      finalized := connection.finalized ++ [connection.prepared] } where
  bounded := sound.bounded
  oneEach := sound.oneEach
  owned := by
    refine sound.owned.next fun raw => ?_
    simp only [CachedConnection.places, CachedConnection.held, List.count_append]
    omega
  ordered := sound.ordered
  past := sound.past
  emptied := sound.emptied

theorem CachedConnection.Sound.prepareCached (sql : String) (ending : Prepared) :
    (connection.prepareCached sql ending).Sound := by
  unfold CachedConnection.prepareCached
  cases taken : StatementCache.take sql connection.cached with
  | some cut =>
      obtain ⟨entry, others⟩ := cut
      exact sound.handOutCached active (StatementCache.take_some taken)
  | none =>
      cases ending with
      | interiorNul => exact sound
      | failed => exact sound
      | emptySql => exact sound
      | trailingSql => exact sound.finalizeNew
      | statement parameterCount => exact sound.handOutNew active sql parameterCount

end Steps

/-- A guard and its statement leave. -/
structure CachedConnection.Leaves (connection : CachedConnection) (entry : CachedEntry) (left : CachedConnection) :
    Prop where
  rest : left = { connection with checkedOut := left.checkedOut }
  held : ∀ raw, connection.held.count raw = left.held.count raw + [entry.statement].count raw

section Returns

variable {left : CachedConnection} (leaves : connection.Leaves entry left) (sound : connection.Sound)

include leaves

theorem CachedConnection.Leaves.cached : left.cached = connection.cached := by rw [leaves.rest]

theorem CachedConnection.Leaves.finalized : left.finalized = connection.finalized := by rw [leaves.rest]

theorem CachedConnection.Leaves.prepared : left.prepared = connection.prepared := by rw [leaves.rest]

theorem CachedConnection.Leaves.closed : left.closed = connection.closed := by rw [leaves.rest]

theorem CachedConnection.Leaves.places (raw : RawStatement) :
    connection.places raw = left.places raw + [entry.statement].count raw := by
  have held := leaves.held raw
  simp only [CachedConnection.places, leaves.cached, leaves.finalized]
  omega

include sound

omit sound in
theorem CachedConnection.Leaves.returns : (left.returned entry).returns = connection.returns + 1 := by
  rw [leaves.rest]
  rfl

end Returns

/-! ## Runs -/

/-- What the owner of a connection may rely on. -/
structure CachedConnection.Kept (connection : CachedConnection) : Prop where
  bounded : connection.cached.length ≤ statementCacheCapacity
  oneEach : (connection.cached.map CachedEntry.sql).Nodup
  heldOnce : connection.held.Nodup
  finalizedOnce : connection.finalized.Nodup
  heldApart : ∀ raw ∈ connection.held,
    raw ∉ connection.cached.map CachedEntry.statement ∧ raw ∉ connection.finalized
  cachedApart : ∀ raw ∈ connection.cached.map CachedEntry.statement, raw ∉ connection.finalized
  somewhere : ∀ raw, raw < connection.prepared →
    raw ∈ connection.cached.map CachedEntry.statement ∨ raw ∈ connection.held ∨ raw ∈ connection.finalized
  onlyPrepared : ∀ raw ∈ connection.finalized, raw < connection.prepared
  closedFinalized : connection.closed = true → ∀ raw, raw < connection.prepared → raw ∈ connection.finalized

theorem CachedConnection.Sound.kept (sound : connection.Sound) : connection.Kept := by
  have atMost := sound.owned.le_one
  have places : ∀ raw, (connection.cached.map CachedEntry.statement).count raw + connection.held.count raw +
      connection.finalized.count raw = connection.places raw := fun _ => rfl
  have somewhere : ∀ raw, raw < connection.prepared →
      raw ∈ connection.cached.map CachedEntry.statement ∨ raw ∈ connection.held ∨ raw ∈ connection.finalized := by
    intro raw below
    have once := (places raw).trans (sound.owned.1 raw below)
    simp only [← List.count_pos_iff]
    omega
  refine ⟨sound.bounded, sound.oneEach, ?_, ?_, ?_, ?_, somewhere, ?_, ?_⟩
  · rw [List.nodup_iff_count_le_one]
    intro raw
    have count := places raw
    have bound := atMost raw
    omega
  · rw [List.nodup_iff_count_le_one]
    intro raw
    have count := places raw
    have bound := atMost raw
    omega
  · intro raw member
    have count := places raw
    have bound := atMost raw
    rw [← List.count_pos_iff] at member
    simp only [← List.count_eq_zero]
    omega
  · intro raw member
    have count := places raw
    have bound := atMost raw
    rw [← List.count_pos_iff] at member
    rw [← List.count_eq_zero]
    omega
  · intro raw member
    by_contra above
    have count := (places raw).trans (sound.owned.2 raw (Nat.not_lt.mp above))
    rw [← List.count_pos_iff] at member
    omega
  · intro closed raw below
    obtain ⟨noCache, noGuards⟩ := sound.emptied closed
    have found := somewhere raw below
    simpa [noCache, CachedConnection.held, noGuards] using found

/-- Two checkouts of one text: the second is a statement of its own, and its return replaces the first. -/
example :
    let calls : List CacheCall := [.prepareCached "a" (.statement 1), .prepareCached "a" (.statement 1),
      .dropStatement 0, .dropStatement 1, .prepareCached "a" .failed]
    let final := calls.foldl (fun connection call => call.perform connection) CachedConnection.opened
    final.finalized = [0] ∧ final.held = [1] ∧ final.cached = [] := by decide

end IcSqliteVfs.Db
