import IcSqliteVfs.Db.Update

namespace IcSqliteVfs.Db

open IcSqliteVfs.Semantics IcSqliteVfs.Stable IcSqliteVfs.SqliteVfs

/-! # Migrations

The versions that were applied, and the checksums of their SQL, are kept in two
tables of the database; the superblock has a copy of the highest version.
-/

structure Migration where
  version : UInt64
  sql : String
deriving DecidableEq, Repr

abbrev Digest : Type := Vector UInt8 32

/-- `__ic_sqlite_migrations` and `__ic_sqlite_migration_checksums`. -/
structure History where
  versions : List Int
  checksums : List (Int × Digest)
deriving DecidableEq, Repr

/-- The tables of the history beside what the SQL of migrations works on. -/
structure MigratedDatabase (ρ : Type) where
  history : History
  rest : ρ
deriving DecidableEq, Repr

/-- The SQL of migrations that was handed to SQLite, and the number of statements
that SQLite was asked to run. -/
structure Journal where
  executed : List String
  statements : Nat
deriving DecidableEq, Repr

/-- What is not of this program: the digest of a text, what the SQL of a migration
does, and which statements fail for reasons of their own. -/
structure MigrationSqlite (ρ : Type) where
  sha256 : String → Digest
  executeBatch : String → ρ → Option DbError × ρ
  fault : Nat → Option DbError

abbrev MigrateM (ρ : Type) : Type → Type := Action (MigratedDatabase ρ × Journal) DbError

variable {ρ α : Type}

def historyError (message : String) : DbError := .sqlite sqliteConstraint message

def sqliteVersion (version : UInt64) : Except DbError Int :=
  if version.toNat < 2 ^ 63 then .ok version.toNat else .error (.migrationVersionOutOfRange version.toNat)

/-- A version below the one before it. -/
def belowPrevious (previous : Option UInt64) (version : UInt64) : Option DbError :=
  match previous with
  | some last =>
      if version < last then some (.migrationVersionOutOfOrder last.toNat version.toNat) else none
  | none => none

/-- The loop of `validate_versions`, with the versions seen and the last of them. -/
def validateVersionsFrom (seen : List UInt64) (previous : Option UInt64) : List Migration → Except DbError Unit
  | [] => .ok ()
  | migration :: rest =>
      if migration.version ∈ seen then .error (.duplicateMigrationVersion migration.version.toNat)
      else
        match belowPrevious previous migration.version with
        | some error => .error error
        | none => do
            let _ ← sqliteVersion migration.version
            validateVersionsFrom (migration.version :: seen) (some migration.version) rest

def validateVersions (migrations : List Migration) : Except DbError Unit := validateVersionsFrom [] none migrations

section Statements

variable (sqlite : MigrationSqlite ρ)

/-- A statement of the program, unless SQLite fails. -/
def statement (execute : MigratedDatabase ρ → Except DbError α × MigratedDatabase ρ) : MigrateM ρ α :=
  fun (database, journal) =>
    let journal := { journal with statements := journal.statements + 1 }
    match sqlite.fault (journal.statements - 1) with
    | some error => (.err error, database, journal)
    | none =>
        match execute database with
        | (.ok value, changed) => (.ok value, changed, journal)
        | (.error error, changed) => (.err error, changed, journal)

/-- Tables that do not exist yet are empty. -/
def ensureHistory : MigrateM ρ Unit := statement sqlite fun database => (.ok (), database)

def isApplied (version : Int) : MigrateM ρ Bool :=
  statement sqlite fun database => (.ok (decide (version ∈ database.history.versions)), database)

def storedChecksum (version : Int) : MigrateM ρ (Option Digest) :=
  statement sqlite fun database => (.ok (database.history.checksums.lookup version), database)

/-- The versions are a primary key. -/
def recordVersion (version : Int) : MigrateM ρ Unit := statement sqlite fun database =>
  if version ∈ database.history.versions then
    (.error (.constraint "UNIQUE constraint failed: __ic_sqlite_migrations.version"), database)
  else
    (.ok (), { database with history := { database.history with
      versions := database.history.versions ++ [version] } })

def recordChecksum (version : Int) (checksum : Digest) : MigrateM ρ Unit := statement sqlite fun database =>
  if version ∈ database.history.checksums.map Prod.fst then
    (.error (.constraint "UNIQUE constraint failed: __ic_sqlite_migration_checksums.version"), database)
  else
    (.ok (), { database with history := { database.history with
      checksums := database.history.checksums ++ [(version, checksum)] } })

/-- The SQL of a migration, which does not touch the history. -/
def executeMigration (sql : String) : MigrateM ρ Unit := do
  Action.modify fun (database, journal) => (database, { journal with executed := journal.executed ++ [sql] })
  statement sqlite fun database =>
    match sqlite.executeBatch sql database.rest with
    | (some error, rest) => (.error error, { database with rest })
    | (none, rest) => (.ok (), { database with rest })

end Statements

section Migrate

variable (sqlite : MigrationSqlite ρ)

def verifyChecksum (migration : Migration) : MigrateM ρ Unit := do
  let version ← Action.ofExcept (sqliteVersion migration.version)
  match ← storedChecksum sqlite version with
  | some stored =>
      if stored ≠ sqlite.sha256 migration.sql then
        Action.fail (historyError s!"migration checksum mismatch for version {migration.version}")
      else pure ()
  | none => pure ()

def verifyChecksums : List Migration → MigrateM ρ Unit
  | [] => pure ()
  | migration :: rest => do
      verifyChecksum sqlite migration
      verifyChecksums rest

/-- The last loop of `apply`. -/
def applyEach : List Migration → MigrateM ρ Unit
  | [] => pure ()
  | migration :: rest => do
      let version ← Action.ofExcept (sqliteVersion migration.version)
      if ← isApplied sqlite version then applyEach rest
      else do
        executeMigration sqlite migration.sql
        recordVersion sqlite version
        recordChecksum sqlite version (sqlite.sha256 migration.sql)
        applyEach rest

def apply (migrations : List Migration) : MigrateM ρ Unit := do
  Action.ofExcept (validateVersions migrations)
  ensureHistory sqlite
  verifyChecksums sqlite migrations
  applyEach sqlite migrations

/-- The first loop of `adopt_checksums`. -/
def adoptable : List Migration → MigrateM ρ Unit
  | [] => pure ()
  | migration :: rest => do
      let version ← Action.ofExcept (sqliteVersion migration.version)
      if ← isApplied sqlite version then do
        verifyChecksum sqlite migration
        adoptable rest
      else
        Action.fail (historyError s!"cannot adopt checksum for unapplied migration version {migration.version}")

/-- Its second loop. -/
def adoptEach : List Migration → MigrateM ρ Unit
  | [] => pure ()
  | migration :: rest => do
      let version ← Action.ofExcept (sqliteVersion migration.version)
      match ← storedChecksum sqlite version with
      | some _ => adoptEach rest
      | none => do
          recordChecksum sqlite version (sqlite.sha256 migration.sql)
          adoptEach rest

def adoptChecksums (migrations : List Migration) : MigrateM ρ Unit := do
  Action.ofExcept (validateVersions migrations)
  ensureHistory sqlite
  adoptable sqlite migrations
  adoptEach sqlite migrations

abbrev MigratedHandle (ρ : Type) : Type := HandleState (MigratedDatabase ρ) Journal

def targetVersion (migrations : List Migration) : UInt64 :=
  (migrations.map Migration.version).foldl max 0

/-- What `DbHandle::migrate` stores behind its update. -/
def storeTargetVersion {δ ω : Type} (target : UInt64) : HandleM δ ω Unit := do
  let block ← onContext (onContextStore Superblock.load)
  if block.schemaVersion < target then do
    Action.modify HandleState.clearReadConnection
    onContext (onContextStore (Superblock.store { block with schemaVersion := target }))
  else pure ()

def migrate (run : SqliteRun) (migrations : List Migration) : HandleM (MigratedDatabase ρ) Journal Unit := do
  update run (withinTransaction (apply sqlite migrations))
  storeTargetVersion (targetVersion migrations)

def adoptMigrationChecksums (run : SqliteRun) (migrations : List Migration) :
    HandleM (MigratedDatabase ρ) Journal Unit :=
  update run (withinTransaction (adoptChecksums sqlite migrations))

end Migrate

/-! ## Versions -/

/-- The version as a key of the history. -/
def Migration.number (migration : Migration) : Int := migration.version.toNat

/-- Strictly increasing versions in the range of an `i64`. -/
structure Ordered (migrations : List Migration) : Prop where
  increasing : migrations.Pairwise fun earlier later => earlier.version < later.version
  inRange : ∀ migration ∈ migrations, migration.version.toNat < 2 ^ 63

theorem sqliteVersion_of {migration : Migration} (inRange : migration.version.toNat < 2 ^ 63) :
    sqliteVersion migration.version = .ok migration.number := by
  rw [sqliteVersion, if_pos inRange]
  rfl

theorem ordered_cons (migration : Migration) (rest : List Migration) :
    Ordered (migration :: rest) ↔ migration.version.toNat < 2 ^ 63 ∧ Ordered rest ∧
      ∀ later ∈ rest, migration.version < later.version := by
  constructor
  · intro ordered
    obtain ⟨before, increasing⟩ := List.pairwise_cons.mp ordered.increasing
    exact ⟨ordered.inRange migration List.mem_cons_self,
      ⟨increasing, fun later member => ordered.inRange later (List.mem_cons_of_mem _ member)⟩, before⟩
  · rintro ⟨inRange, ordered, before⟩
    refine ⟨List.pairwise_cons.mpr ⟨before, ordered.increasing⟩, ?_⟩
    intro later member
    rcases List.mem_cons.mp member with rfl | old
    · exact inRange
    · exact ordered.inRange later old

/-- The last version seen is the highest of them. -/
structure Highest (seen : List UInt64) (previous : Option UInt64) : Prop where
  bounded : ∀ version ∈ seen, ∃ last ∈ previous, version ≤ last
  seen : ∀ last ∈ previous, last ∈ seen

theorem Highest.push {seen : List UInt64} {previous : Option UInt64} (highest : Highest seen previous)
    {version : UInt64} (above : ∀ last ∈ previous, last < version) :
    Highest (version :: seen) (some version) where
  bounded := by
    intro other member
    refine ⟨version, rfl, ?_⟩
    rcases List.mem_cons.mp member with rfl | old
    · exact UInt64.le_refl _
    · obtain ⟨last, found, below⟩ := highest.bounded other old
      exact UInt64.le_of_lt (UInt64.lt_of_le_of_lt below (above last found))
  seen := by
    intro last same
    obtain rfl := Option.some.inj same
    exact List.mem_cons_self

/-- Not seen and not below the last one: above all. -/
theorem Highest.above_iff {seen : List UInt64} {previous : Option UInt64} (highest : Highest seen previous)
    (version : UInt64) :
    (version ∉ seen ∧ ∀ last ∈ previous, ¬ version < last) ↔ ∀ last ∈ previous, last < version := by
  constructor
  · rintro ⟨unseen, ordered⟩ last found
    have different : version ≠ last := fun same => unseen (same ▸ highest.seen last found)
    exact UInt64.lt_of_le_of_ne (UInt64.not_lt.mp (ordered last found)) different.symm
  · intro above
    constructor
    · intro member
      obtain ⟨last, found, below⟩ := highest.bounded version member
      exact UInt64.not_lt.mpr below (above last found)
    · intro last found
      exact UInt64.not_lt.mpr (UInt64.le_of_lt (above last found))

theorem validateVersionsFrom_cons {seen : List UInt64} {previous : Option UInt64} (highest : Highest seen previous)
    (migration : Migration) (rest : List Migration) :
    validateVersionsFrom seen previous (migration :: rest) = .ok () ↔
      (∀ last ∈ previous, last < migration.version) ∧ migration.version.toNat < 2 ^ 63 ∧
        validateVersionsFrom (migration.version :: seen) (some migration.version) rest = .ok () := by
  rw [← highest.above_iff, validateVersionsFrom]
  by_cases repeated : migration.version ∈ seen
  · simp [repeated]
  · rw [if_neg repeated]
    by_cases below : ∃ last ∈ previous, migration.version < last
    · obtain ⟨last, rfl, below⟩ := below
      simp [belowPrevious, below]
    · have above : belowPrevious previous migration.version = none := by
        cases previous with
        | none => rfl
        | some last => simpa [belowPrevious] using below
      rw [above, sqliteVersion]
      have ordered : ∀ last ∈ previous, ¬ migration.version < last := fun last found less => below ⟨last, found, less⟩
      by_cases inRange : migration.version.toNat < 2 ^ 63
      · rw [if_pos inRange]
        exact ⟨fun checked => ⟨⟨repeated, ordered⟩, inRange, checked⟩, fun all => all.2.2⟩
      · rw [if_neg inRange]
        exact ⟨nofun, fun all => absurd all.2.1 inRange⟩

theorem validateVersionsFrom_iff (migrations : List Migration) {seen : List UInt64} {previous : Option UInt64}
    (highest : Highest seen previous) :
    validateVersionsFrom seen previous migrations = .ok () ↔
      Ordered migrations ∧ ∀ last ∈ previous, ∀ migration ∈ migrations, last < migration.version := by
  induction migrations generalizing seen previous with
  | nil => exact ⟨fun _ => ⟨⟨List.Pairwise.nil, nofun⟩, nofun⟩, fun _ => rfl⟩
  | cons migration rest ih =>
      rw [validateVersionsFrom_cons highest, ordered_cons]
      constructor
      · rintro ⟨above, inRange, checked⟩
        obtain ⟨ordered, later⟩ := (ih (highest.push above)).mp checked
        have below := later migration.version rfl
        refine ⟨⟨inRange, ordered, below⟩, ?_⟩
        intro last found other member
        rcases List.mem_cons.mp member with rfl | old
        · exact above last found
        · exact UInt64.lt_trans (above last found) (below other old)
      · rintro ⟨⟨inRange, ordered, below⟩, above⟩
        have first := fun last found => above last found migration List.mem_cons_self
        refine ⟨first, inRange, (ih (highest.push first)).mpr ⟨ordered, ?_⟩⟩
        intro last same
        obtain rfl := Option.some.inj same
        exact below

/-- Exactly the ordered lists are accepted. -/
theorem validateVersions_iff (migrations : List Migration) :
    validateVersions migrations = .ok () ↔ Ordered migrations := by
  have none : Highest [] none := ⟨nofun, nofun⟩
  rw [validateVersions, validateVersionsFrom_iff migrations none]
  exact ⟨fun both => both.1, fun ordered => ⟨ordered, nofun⟩⟩

/-! ## Statements -/

section Runs

variable {sqlite : MigrationSqlite ρ} {state : MigratedDatabase ρ × Journal}

/-- The database is as before, and no SQL of a migration was executed. -/
structure Untouched (before after : MigratedDatabase ρ × Journal) : Prop where
  database : after.1 = before.1
  executed : after.2.executed = before.2.executed

theorem Untouched.refl (state : MigratedDatabase ρ × Journal) : Untouched state state := ⟨rfl, rfl⟩

theorem Untouched.trans {first second third : MigratedDatabase ρ × Journal} (before : Untouched first second)
    (after : Untouched second third) : Untouched first third :=
  ⟨after.database.trans before.database, after.executed.trans before.executed⟩

/-- A statement that ran, or failed, or was kept from running. -/
theorem ends_statement {execute : MigratedDatabase ρ → Except DbError α × MigratedDatabase ρ}
    {good : α → MigratedDatabase ρ × Journal → Prop} {bad : MigratedDatabase ρ × Journal → Prop}
    (ran : ∀ value changed journal, execute state.1 = (.ok value, changed) → journal.executed = state.2.executed →
      good value (changed, journal))
    (failed : ∀ changed journal, journal.executed = state.2.executed → bad (changed, journal)) :
    Action.Ends (statement sqlite execute) state good bad := by
  rcases state with ⟨database, journal⟩
  rw [Action.Ends, statement]
  cases fault : sqlite.fault journal.statements with
  | some error =>
      simp only [Nat.add_sub_cancel, fault]
      exact failed _ _ rfl
  | none =>
      simp only [Nat.add_sub_cancel, fault]
      cases ended : execute database with
      | mk result changed =>
          cases result with
          | ok value => exact ran value changed _ ended rfl
          | error error => exact failed _ _ rfl

/-- A statement that only reads. -/
theorem ends_select {select : MigratedDatabase ρ → α} :
    Action.Ends (statement sqlite fun database => (.ok (select database), database)) state
      (fun answer next => Untouched state next ∧ answer = select state.1) (Untouched state) := by
  rcases state with ⟨database, journal⟩
  rw [Action.Ends, statement]
  cases fault : sqlite.fault journal.statements with
  | some error =>
      simp only [Nat.add_sub_cancel, fault]
      exact ⟨rfl, rfl⟩
  | none =>
      simp only [Nat.add_sub_cancel, fault]
      exact ⟨⟨rfl, rfl⟩, trivial⟩

/-! ## Checking the history -/

/-- The history has another checksum for this version. -/
def Mismatched (sqlite : MigrationSqlite ρ) (history : History) (migration : Migration) : Prop :=
  ∃ stored, history.checksums.lookup migration.number = some stored ∧ stored ≠ sqlite.sha256 migration.sql

theorem ends_verifyChecksum {migration : Migration} (inRange : migration.version.toNat < 2 ^ 63) :
    Action.Ends (verifyChecksum sqlite migration) state
      (fun _ next => Untouched state next ∧ ¬ Mismatched sqlite state.1.history migration) (Untouched state) := by
  rw [verifyChecksum, sqliteVersion_of inRange]
  refine Action.ends_after_ok rfl (Action.Ends.bind ends_select ?_)
  rintro stored next ⟨same, rfl⟩
  cases found : state.1.history.checksums.lookup migration.number with
  | none =>
      refine Action.ends_pure ⟨same, ?_⟩
      rintro ⟨stored, present, _⟩
      rw [found] at present
      cases present
  | some stored =>
      dsimp only
      split
      · exact Action.ends_fail _ same
      · rename_i equal
        refine Action.ends_pure ⟨same, ?_⟩
        rintro ⟨other, present, differ⟩
        rw [found] at present
        obtain rfl := Option.some.inj present
        exact equal differ

theorem ends_verifyChecksums {migrations : List Migration}
    (inRange : ∀ migration ∈ migrations, migration.version.toNat < 2 ^ 63) :
    Action.Ends (verifyChecksums sqlite migrations) state
      (fun _ next => Untouched state next ∧ ∀ migration ∈ migrations, ¬ Mismatched sqlite state.1.history migration)
      (Untouched state) := by
  induction migrations generalizing state with
  | nil => exact Action.ends_pure ⟨Untouched.refl state, nofun⟩
  | cons migration rest ih =>
      refine Action.Ends.bind (ends_verifyChecksum (inRange migration List.mem_cons_self)) ?_
      rintro _ next ⟨same, matching⟩
      refine (ih fun later member => inRange later (List.mem_cons_of_mem _ member)).imp ?_
        fun _ later => same.trans later
      rintro _ last ⟨later, others⟩
      refine ⟨same.trans later, ?_⟩
      intro other member
      rcases List.mem_cons.mp member with rfl | old
      · exact matching
      · rw [← same.database]
        exact others other old

/-! ## Applying -/

/-- The migrations that the history does not have. -/
def pending (history : History) (migrations : List Migration) : List Migration :=
  migrations.filter fun migration => migration.number ∉ history.versions

/-- The history with these migrations recorded, each with the digest of its SQL. -/
def recorded (sqlite : MigrationSqlite ρ) (history : History) (migrations : List Migration) : History where
  versions := history.versions ++ migrations.map Migration.number
  checksums := history.checksums ++ migrations.map fun migration => (migration.number, sqlite.sha256 migration.sql)

theorem recorded_nil (history : History) : recorded sqlite history [] = history := by
  simp [recorded]

theorem recorded_cons (history : History) (migration : Migration) (rest : List Migration) :
    recorded sqlite history (migration :: rest) = recorded sqlite (recorded sqlite history [migration]) rest := by
  simp [recorded]

theorem pending_cons_of_applied {history : History} {migration : Migration} (rest : List Migration)
    (applied : migration.number ∈ history.versions) :
    pending history (migration :: rest) = pending history rest := by
  simp [pending, applied]

theorem pending_cons_of_new {history : History} {migration : Migration} (rest : List Migration)
    (new : migration.number ∉ history.versions) :
    pending history (migration :: rest) = migration :: pending history rest := by
  simp [pending, new]

theorem number_injective {first second : Migration} (same : first.number = second.number) :
    first.version = second.version := by
  rw [Migration.number, Migration.number] at same
  exact UInt64.toNat_inj.mp (Int.ofNat.inj same)

/-- What comes later has another version. -/
theorem pending_recorded {history : History} {migration : Migration} {rest : List Migration}
    (before : ∀ later ∈ rest, migration.version < later.version) :
    pending (recorded sqlite history [migration]) rest = pending history rest := by
  refine List.filter_congr fun later member => ?_
  have differ : later.number ≠ migration.number := by
    intro same
    exact UInt64.ne_of_lt (before later member) (number_injective same).symm
  simp [recorded, differ]

/-- Some of the SQL, in its order and from its beginning, was executed. -/
def Executes (sqls : List String) (before after : MigratedDatabase ρ × Journal) : Prop :=
  ∃ done, done <+: sqls ∧ after.2.executed = before.2.executed ++ done

theorem Untouched.executes {before after : MigratedDatabase ρ × Journal} (same : Untouched before after)
    (sqls : List String) : Executes sqls before after :=
  ⟨[], List.nil_prefix, by rw [same.executed, List.append_nil]⟩

theorem Executes.after {sqls : List String} {first second third : MigratedDatabase ρ × Journal}
    (same : second.2.executed = first.2.executed) (executes : Executes sqls second third) :
    Executes sqls first third := by
  obtain ⟨done, start, executed⟩ := executes
  exact ⟨done, start, by rw [executed, same]⟩

/-- One more text before what was executed later. -/
theorem Executes.cons {sql : String} {sqls : List String} {first second third : MigratedDatabase ρ × Journal}
    (once : second.2.executed = first.2.executed ++ [sql]) (executes : Executes sqls second third) :
    Executes (sql :: sqls) first third := by
  obtain ⟨done, start, executed⟩ := executes
  refine ⟨sql :: done, List.cons_prefix_cons.mpr ⟨rfl, start⟩, ?_⟩
  rw [executed, once, List.append_assoc, List.singleton_append]

/-- So much of the history is left, and this SQL was executed. -/
structure Recorded (history : History) (executed : List String) (state : MigratedDatabase ρ × Journal) : Prop where
  history : state.1.history = history
  executed : state.2.executed = executed

theorem ends_executeMigration (sql : String) :
    Action.Ends (executeMigration sqlite sql) state
      (fun _ => Recorded state.1.history (state.2.executed ++ [sql]))
      fun next => next.2.executed = state.2.executed ++ [sql] := by
  refine Action.ends_after_ok rfl (ends_statement ?_ fun _ _ same => same)
  intro value changed journal ended same
  cases ran : sqlite.executeBatch sql state.1.rest with
  | mk failed rest =>
      rw [ran] at ended
      cases failed with
      | some error => cases ended
      | none =>
          obtain rfl := (Prod.mk.inj ended).2
          exact ⟨rfl, same⟩

theorem ends_recordVersion (version : Int) :
    Action.Ends (recordVersion sqlite version) state
      (fun _ => Recorded { state.1.history with versions := state.1.history.versions ++ [version] } state.2.executed)
      fun next => next.2.executed = state.2.executed := by
  refine ends_statement ?_ fun _ _ same => same
  intro value changed journal ended same
  split at ended
  · cases ended
  · obtain rfl := (Prod.mk.inj ended).2
    exact ⟨rfl, same⟩

theorem ends_recordChecksum (version : Int) (checksum : Digest) :
    Action.Ends (recordChecksum sqlite version checksum) state
      (fun _ => Recorded { state.1.history with checksums := state.1.history.checksums ++ [(version, checksum)] }
        state.2.executed)
      fun next => next.2.executed = state.2.executed := by
  refine ends_statement ?_ fun _ _ same => same
  intro value changed journal ended same
  split at ended
  · cases ended
  · obtain rfl := (Prod.mk.inj ended).2
    exact ⟨rfl, same⟩

theorem ends_applyEach {migrations : List Migration} (ordered : Ordered migrations) :
    Action.Ends (applyEach sqlite migrations) state
      (fun _ => Recorded (recorded sqlite state.1.history (pending state.1.history migrations))
        (state.2.executed ++ (pending state.1.history migrations).map Migration.sql))
      (Executes ((pending state.1.history migrations).map Migration.sql) state) := by
  induction migrations generalizing state with
  | nil =>
      refine Action.ends_pure ⟨?_, ?_⟩
      · exact (recorded_nil _).symm
      · exact (List.append_nil _).symm
  | cons migration rest ih =>
      obtain ⟨inRange, others, before⟩ := (ordered_cons migration rest).mp ordered
      rw [applyEach, sqliteVersion_of inRange]
      refine Action.ends_after_ok rfl (Action.Ends.bind (ends_select.imp (fun _ _ found => found)
        fun _ same => same.executes _) ?_)
      rintro applied next ⟨same, rfl⟩
      by_cases known : migration.number ∈ state.1.history.versions
      · rw [if_pos (by simpa using known), pending_cons_of_applied rest known]
        refine (ih others).imp ?_ ?_
        · intro _ last after
          rw [same.database, same.executed] at after
          exact after
        · intro last executes
          rw [same.database] at executes
          exact executes.after same.executed
      · rw [if_neg (by simpa using known), pending_cons_of_new rest known, List.map_cons]
        refine Action.Ends.bind ((ends_executeMigration migration.sql).imp (fun _ _ ran => ran) ?_) ?_
        · intro last once
          rw [same.executed] at once
          exact Executes.cons once ((Untouched.refl last).executes _)
        intro _ ran after
        have once : ran.2.executed = state.2.executed ++ [migration.sql] := by rw [after.executed, same.executed]
        have stopped : ∀ last : MigratedDatabase ρ × Journal, last.2.executed = ran.2.executed →
            Executes (migration.sql :: (pending state.1.history rest).map Migration.sql) state last := by
          intro last unchanged
          exact Executes.cons (unchanged.trans once) ((Untouched.refl last).executes _)
        refine Action.Ends.bind ((ends_recordVersion migration.number).imp (fun _ _ inserted => inserted) stopped) ?_
        intro _ inserted versioned
        refine Action.Ends.bind ((ends_recordChecksum migration.number (sqlite.sha256 migration.sql)).imp
          (fun _ _ inserted => inserted) fun last unchanged => stopped last (unchanged.trans versioned.executed)) ?_
        intro _ last summed
        have history : last.1.history = recorded sqlite state.1.history [migration] := by
          rw [summed.history, versioned.history, after.history, same.database]
          rfl
        have executed : last.2.executed = state.2.executed ++ [migration.sql] := by
          rw [summed.executed, versioned.executed, once]
        refine (ih others).imp ?_ ?_
        · intro _ final done
          rw [history, pending_recorded before, executed, List.append_assoc] at done
          rw [recorded_cons]
          exact done
        · intro final executes
          rw [history, pending_recorded before] at executes
          exact Executes.cons executed executes

/-- The list is one that `apply` goes on with: in order, and with no other
checksum in the history. -/
structure Acceptable (sqlite : MigrationSqlite ρ) (history : History) (migrations : List Migration) : Prop where
  ordered : Ordered migrations
  matching : ∀ migration ∈ migrations, ¬ Mismatched sqlite history migration

/-- A list that is not acceptable is refused before any of its SQL is executed;
of one that is, what the history does not have is executed in order. -/
theorem ends_apply (migrations : List Migration) :
    Action.Ends (apply sqlite migrations) state
      (fun _ next => Acceptable sqlite state.1.history migrations ∧
        Recorded (recorded sqlite state.1.history (pending state.1.history migrations))
          (state.2.executed ++ (pending state.1.history migrations).map Migration.sql) next)
      fun next => Executes ((pending state.1.history migrations).map Migration.sql) state next ∧
        (¬ Acceptable sqlite state.1.history migrations → next.2.executed = state.2.executed) := by
  have refused : ∀ next, Untouched state next →
      Executes ((pending state.1.history migrations).map Migration.sql) state next ∧
        (¬ Acceptable sqlite state.1.history migrations → next.2.executed = state.2.executed) :=
    fun next same => ⟨same.executes _, fun _ => same.executed⟩
  rw [apply]
  cases valid : validateVersions migrations with
  | error error => exact Action.ends_fail _ (refused state (Untouched.refl state))
  | ok passed =>
      have ordered : Ordered migrations := (validateVersions_iff migrations).mp valid
      refine Action.ends_after_ok rfl (Action.Ends.bind (ends_select.imp (fun _ _ ran => ran.1) refused) ?_)
      intro _ created same
      refine Action.Ends.bind ((ends_verifyChecksums ordered.inRange).imp (fun _ _ checked => checked)
        fun next later => refused next (same.trans later)) ?_
      rintro _ checked ⟨later, matching⟩
      rw [same.database] at matching
      have acceptable : Acceptable sqlite state.1.history migrations := ⟨ordered, matching⟩
      have before := same.trans later
      refine (ends_applyEach ordered).imp ?_ ?_
      · intro _ final done
        rw [before.database, before.executed] at done
        exact ⟨acceptable, done⟩
      · intro final executes
        rw [before.database] at executes
        exact ⟨executes.after before.executed, fun refusal => absurd acceptable refusal⟩

/-! ## Adopting -/

/-- Nothing is executed, no version is recorded, and no checksum is replaced. -/
structure Adopts (before after : MigratedDatabase ρ × Journal) : Prop where
  executed : after.2.executed = before.2.executed
  rest : after.1.rest = before.1.rest
  versions : after.1.history.versions = before.1.history.versions
  checksums : ∀ version checksum, before.1.history.checksums.lookup version = some checksum →
    after.1.history.checksums.lookup version = some checksum

theorem Untouched.adopts {before after : MigratedDatabase ρ × Journal} (same : Untouched before after) :
    Adopts before after :=
  ⟨same.executed, by rw [same.database], by rw [same.database], by rw [same.database]; exact fun _ _ found => found⟩

theorem Adopts.trans {first second third : MigratedDatabase ρ × Journal} (before : Adopts first second)
    (after : Adopts second third) : Adopts first third :=
  ⟨after.executed.trans before.executed, after.rest.trans before.rest, after.versions.trans before.versions,
    fun version checksum found => after.checksums version checksum (before.checksums version checksum found)⟩

/-- Every checksum is one of a version that was applied. -/
def History.Consistent (history : History) : Prop := ∀ entry ∈ history.checksums, entry.1 ∈ history.versions

/-- The SQL of the migrations, one after the other, if none of it fails. -/
def runAll (sqlite : MigrationSqlite ρ) : List String → ρ → Option ρ
  | [], rest => some rest
  | sql :: later, rest =>
      match sqlite.executeBatch sql rest with
      | (none, changed) => runAll sqlite later changed
      | (some _, _) => none

section Quiet

variable (quiet : ∀ statements, sqlite.fault statements = none)

include quiet

end Quiet

end Runs

/-! ## The handle -/

section Handle

variable {δ ω : Type} {self : HandleState δ ω} {block : Superblock} {base : List UInt8}

/-- The schema version that a load finds. -/
def HandleState.schemaVersion (self : HandleState δ ω) : Option UInt64 :=
  match (Superblock.load self.context.store).1 with
  | .ok block => some block.schemaVersion
  | _ => none

theorem Live.schemaVersion_eq (live : Live self.context block base) :
    self.schemaVersion = some block.schemaVersion := by
  rw [HandleState.schemaVersion, live.serves.coherent.load_eq]

/-- Behind an update nothing fails any more. -/
theorem storeTargetVersion_of (live : Live self.context block base) (target : UInt64) :
    ∃ next, storeTargetVersion target self = (.ok (), next) ∧ next.database = self.database ∧
      next.outside = self.outside ∧ next.context.overlay = self.context.overlay ∧
      ∃ stored base, Live next.context stored base ∧ stored.schemaVersion = max block.schemaVersion target := by
  let loaded : HandleState δ ω :=
    { self with context := { self.context with store := { self.context.store with superblockCache := some block } } }
  have load : (onContext (onContextStore Superblock.load) : HandleM δ ω Superblock) self = (.ok block, loaded) :=
    onContext_of_ok (onContextStore_of live.serves.coherent.load_eq)
  rw [storeTargetVersion, Action.bind_of_ok _ load]
  by_cases older : block.schemaVersion < target
  · rw [if_pos older]
    have same : SameImage block { block with schemaVersion := target } := ⟨rfl, rfl, rfl, rfl, rfl⟩
    obtain ⟨stored, after⟩ := live.loaded.store_edited same (live.imported_of ⟨rfl, rfl, rfl⟩)
    refine ⟨_, Action.bind_of_ok _ rfl |>.trans (onContext_of_ok stored), rfl, rfl, rfl, _, base, after, ?_⟩
    exact (max_eq_right (UInt64.le_of_lt older)).symm
  · rw [if_neg older]
    refine ⟨loaded, rfl, rfl, rfl, rfl, block, base, live.loaded, ?_⟩
    exact (max_eq_left (UInt64.not_lt.mp older)).symm

theorem Unpublished.schemaVersion {after : HandleState δ ω} (live : Live self.context block base)
    (left : Unpublished block base self after) : after.schemaVersion = self.schemaVersion := by
  rw [Live.schemaVersion_eq live, Live.schemaVersion_eq left.quiet.live]

end Handle

section Whole

variable {sqlite : MigrationSqlite ρ} {handle : MigratedHandle ρ}

/-- The highest of a version and those of the list. -/
def highestVersion (version : UInt64) (migrations : List Migration) : UInt64 :=
  (migrations.map Migration.version).foldl max version

theorem max_targetVersion (version : UInt64) (migrations : List Migration) :
    max version (targetVersion migrations) = highestVersion version migrations := by
  have pulled : ∀ (versions : List UInt64) (start : UInt64), max version (versions.foldl max start) =
      versions.foldl max (max version start) := by
    intro versions
    induction versions with
    | nil => exact fun _ => rfl
    | cons first rest ih =>
        intro start
        rw [List.foldl_cons, List.foldl_cons, ih, max_assoc]
  rw [targetVersion, pulled, highestVersion, max_eq_left UInt64.zero_le]

/-- What was executed when `apply` stopped, wherever it did. -/
theorem apply_executes (migrations : List Migration) (state : MigratedDatabase ρ × Journal) :
    Executes ((pending state.1.history migrations).map Migration.sql) state (apply sqlite migrations state).2 ∧
      (¬ Acceptable sqlite state.1.history migrations →
        (apply sqlite migrations state).2.2.executed = state.2.executed) := by
  refine (ends_apply migrations).imp (fun _ next done => ?_) (fun _ stopped => stopped) |>.after
  exact ⟨⟨_, List.prefix_refl _, done.2.executed⟩, fun refusal => absurd done.1 refusal⟩

/-- A migration came to an end. -/
inductive MigrationEnded (sqlite : MigrationSqlite ρ) (migrations : List Migration) (before : MigratedHandle ρ) :
    Outcome DbError Unit → MigratedHandle ρ → Prop where
  | done {after : MigratedHandle ρ} (acceptable : Acceptable sqlite before.database.history migrations)
      (recorded : Recorded (recorded sqlite before.database.history (pending before.database.history migrations))
        (before.outside.executed ++ (pending before.database.history migrations).map Migration.sql)
        (after.database, after.outside))
      (schema : after.schemaVersion = before.schemaVersion.map fun version => highestVersion version migrations)
      (initialized : after.Initialized) : MigrationEnded sqlite migrations before (.ok ()) after
  | failed {error : DbError} {after : MigratedHandle ρ} (database : after.database = before.database)
      (schema : after.schemaVersion = before.schemaVersion)
      (executes : Executes ((pending before.database.history migrations).map Migration.sql)
        (before.database, before.outside) (after.database, after.outside))
      (refused : ¬ Acceptable sqlite before.database.history migrations →
        after.outside.executed = before.outside.executed)
      (initialized : after.Initialized) : MigrationEnded sqlite migrations before (.err error) after

theorem migrate_ended (run : SqliteRun) (migrations : List Migration) (initialized : handle.Initialized) :
    MigrationEnded sqlite migrations handle (migrate sqlite run migrations handle).1
      (migrate sqlite run migrations handle).2 := by
  obtain ⟨block, base, live⟩ := initialized.live
  obtain ⟨ended, closed⟩ := update_ended run (withinTransaction (apply sqlite migrations)) live initialized.idle
  have applied := @ends_apply ρ sqlite (handle.database, handle.outside) migrations
  rw [migrate, Action.bind_apply]
  cases came : update run (withinTransaction (apply sqlite migrations)) handle with
  | mk outcome after =>
      rw [came] at ended closed
      cases ended with
      | published returned database outside connection _ schema =>
          obtain ⟨served, image, servedLive, version⟩ := schema
          obtain ⟨next, stored, sameDatabase, sameOutside, sameOverlay, last, lastBase, lastLive, highest⟩ :=
            storeTargetVersion_of servedLive (targetVersion migrations)
          dsimp only
          rw [stored]
          obtain ⟨acceptable, recorded⟩ := applied.ok returned
          refine .done acceptable ?_ ?_ ⟨sameOverlay.trans closed, last, lastBase, lastLive⟩
          · rw [sameDatabase, sameOutside, ← Option.some.inj database, outside]
            exact recorded
          · rw [Live.schemaVersion_eq lastLive, Live.schemaVersion_eq live, highest, version, max_targetVersion]
            rfl
      | failed left outside =>
          dsimp only
          obtain ⟨executes, refused⟩ := @apply_executes ρ sqlite migrations (handle.database, handle.outside)
          refine .failed left.database (left.schemaVersion live) ?_ ?_ ⟨closed, block, base, left.quiet.live⟩
          · rcases outside with early | late
            · exact Untouched.executes ⟨left.database, congrArg Journal.executed early⟩ _
            · obtain ⟨done, start, executed⟩ := executes
              exact ⟨done, start, by rw [late]; exact executed⟩
          · intro refusal
            rcases outside with early | late
            · rw [early]
            · rw [late]
              exact refused refusal
      | unwound panicked left outside connection => exact absurd panicked applied.not_panic

/-- Once recorded, nothing of a list is pending. -/
theorem pending_of_recorded (history : History) (migrations : List Migration) :
    pending (recorded sqlite history (pending history migrations)) migrations = [] := by
  rw [pending, List.filter_eq_nil_iff]
  intro migration member
  have present : migration.number ∈ (recorded sqlite history (pending history migrations)).versions := by
    by_cases known : migration.number ∈ history.versions
    · exact List.mem_append_left _ known
    · have new : migration ∈ pending history migrations := List.mem_filter.mpr ⟨member, by simpa using known⟩
      exact List.mem_append_right _ (List.mem_map_of_mem new)
  simpa using present

/-- A list that was applied executes nothing again, however the second run ends. -/
theorem MigrationEnded.again {migrations : List Migration} {after last : MigratedHandle ρ}
    {outcome : Outcome DbError Unit} (first : MigrationEnded sqlite migrations handle (.ok ()) after)
    (second : MigrationEnded sqlite migrations after outcome last) :
    last.outside.executed = after.outside.executed ∧ last.database.history = after.database.history := by
  cases first with
  | done _ done _ _ =>
      have empty : pending after.database.history migrations = [] := by
        rw [done.history]
        exact pending_of_recorded _ _
      cases second with
      | done _ again _ _ =>
          rw [empty, recorded_nil, List.map_nil, List.append_nil] at again
          exact ⟨again.executed, again.history⟩
      | failed database _ executes _ _ =>
          rw [empty, List.map_nil] at executes
          obtain ⟨done, start, executed⟩ := executes
          rw [List.prefix_nil.mp start, List.append_nil] at executed
          exact ⟨executed, congrArg MigratedDatabase.history database⟩

/-- A handle over a fresh database where version 1 was applied before there were checksums. -/
def legacyHandle : MigratedHandle (List String) where
  context := ⟨freshStore, none⟩
  database := ⟨⟨[1], []⟩, ["first"]⟩
  overlayDatabase := ⟨⟨[1], []⟩, ["first"]⟩
  outside := ⟨[], 0⟩
  activeReads := 0
  readConnection := false
  writeConnection := none

theorem initialized_legacyHandle : legacyHandle.Initialized where
  idle := rfl
  live := ⟨Superblock.fresh, [], serves_freshStore, fun importing => (by cases importing),
    fun _ active => (by cases active)⟩

/-- SQL that is accepted whatever it says. -/
def obligingSqlite : MigrationSqlite (List String) where
  sha256 sql := Vector.replicate 32 (UInt8.ofNat sql.length)
  executeBatch sql rest := (none, rest ++ [sql])
  fault _ := none

end Whole

end IcSqliteVfs.Db
