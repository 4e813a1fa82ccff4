import IcSqliteVfs.Data.Keyed
import IcSqliteVfs.Db.Migrate

namespace IcSqliteVfs.Db

open IcSqliteVfs.Data IcSqliteVfs.Semantics IcSqliteVfs.Stable IcSqliteVfs.SqliteVfs

/-! # Release after release

Every upgrade of the program migrates again, with the list of its own release.  A
migration may fail, and the lists need not have anything to do with one another.
-/

variable {ρ : Type} {sqlite : MigrationSqlite ρ} {state : MigratedDatabase ρ × Journal} {handle : MigratedHandle ρ}

/-! ## What the SQL works on -/

theorem runAll_append (sqls later : List String) (rest : ρ) :
    runAll sqlite (sqls ++ later) rest = (runAll sqlite sqls rest).bind (runAll sqlite later) := by
  induction sqls generalizing rest with
  | nil => rfl
  | cons sql sqls ih =>
      rw [List.cons_append, runAll, runAll]
      cases sqlite.executeBatch sql rest with
      | mk failed changed =>
          cases failed with
          | none => exact ih changed
          | some error => rfl

theorem ends_executeMigration_rest (sql : String) :
    Action.Ends (executeMigration sqlite sql) state
      (fun _ next => sqlite.executeBatch sql state.1.rest = (none, next.1.rest) ∧ next.1.history = state.1.history)
      fun _ => True := by
  refine Action.ends_after_ok rfl (ends_statement ?_ fun _ _ _ => trivial)
  intro value changed journal ended _
  cases ran : sqlite.executeBatch sql state.1.rest with
  | mk failed rest =>
      simp only [ran] at ended
      cases failed with
      | some error => simp at ended
      | none =>
          obtain rfl := (Prod.mk.inj ended).2
          exact ⟨rfl, rfl⟩

theorem ends_recordVersion_rest (version : Int) :
    Action.Ends (recordVersion sqlite version) state
      (fun _ next => next.1 = { state.1 with history := { state.1.history with
        versions := state.1.history.versions ++ [version] } }) fun _ => True := by
  refine ends_statement ?_ fun _ _ _ => trivial
  intro value changed journal ended _
  split at ended
  · simp at ended
  · exact (Prod.mk.inj ended).2.symm

theorem ends_recordChecksum_rest (version : Int) (checksum : Digest) :
    Action.Ends (recordChecksum sqlite version checksum) state
      (fun _ next => next.1 = { state.1 with history := { state.1.history with
        checksums := state.1.history.checksums ++ [(version, checksum)] } }) fun _ => True := by
  refine ends_statement ?_ fun _ _ _ => trivial
  intro value changed journal ended _
  split at ended
  · simp at ended
  · exact (Prod.mk.inj ended).2.symm

/-- The SQL of what the history does not have ran without an error, in order. -/
theorem ends_applyEach_rest {migrations : List Migration} (ordered : Ordered migrations) :
    Action.Ends (applyEach sqlite migrations) state
      (fun _ next => runAll sqlite ((pending state.1.history migrations).map Migration.sql) state.1.rest =
        some next.1.rest) fun _ => True := by
  induction migrations generalizing state with
  | nil => exact Action.ends_pure rfl
  | cons migration rest ih =>
      obtain ⟨inRange, others, before⟩ := (ordered_cons migration rest).mp ordered
      rw [applyEach, sqliteVersion_of inRange]
      refine Action.ends_after_ok rfl (Action.Ends.bind (ends_select.imp (fun _ _ found => found)
        fun _ _ => trivial) ?_)
      rintro applied next ⟨same, rfl⟩
      by_cases known : migration.number ∈ state.1.history.versions
      · rw [if_pos (by simpa using known), pending_cons_of_applied rest known, ← same.database]
        exact ih others
      · rw [if_neg (by simpa using known), pending_cons_of_new rest known, List.map_cons, ← same.database]
        refine Action.Ends.bind (ends_executeMigration_rest migration.sql) ?_
        rintro _ ran ⟨executed, kept⟩
        refine Action.Ends.bind (ends_recordVersion_rest migration.number) ?_
        intro _ inserted versioned
        refine Action.Ends.bind (ends_recordChecksum_rest migration.number (sqlite.sha256 migration.sql)) ?_
        intro _ last summed
        have history : last.1.history = recorded sqlite next.1.history [migration] := by
          rw [summed, versioned, ← kept]
          rfl
        have untouched : last.1.rest = ran.1.rest := by rw [summed, versioned]
        refine (ih others).imp ?_ fun _ _ => trivial
        intro _ final done
        rw [history, pending_recorded before, untouched] at done
        simp only [runAll, executed, done]

theorem ends_apply_rest (migrations : List Migration) :
    Action.Ends (apply sqlite migrations) state
      (fun _ next => runAll sqlite ((pending state.1.history migrations).map Migration.sql) state.1.rest =
        some next.1.rest) fun _ => True := by
  rw [apply]
  cases valid : validateVersions migrations with
  | error error => exact Action.ends_fail _ trivial
  | ok passed =>
      have ordered : Ordered migrations := (validateVersions_iff migrations).mp valid
      refine Action.ends_after_ok rfl (Action.Ends.bind (ends_select.imp (fun _ _ ran => ran.1)
        fun _ _ => trivial) ?_)
      intro _ created same
      refine Action.Ends.bind ((ends_verifyChecksums ordered.inRange).imp (fun _ _ checked => checked.1)
        fun _ _ => trivial) ?_
      intro _ checked later
      have before := same.trans later
      rw [← before.database]
      exact ends_applyEach_rest ordered

/-- A migration that ends well has run the SQL of what was pending on the database. -/
theorem migrate_rest {run : SqliteRun} {migrations : List Migration} (initialized : handle.Initialized)
    (ended : (migrate sqlite run migrations handle).1 = .ok ()) :
    runAll sqlite ((pending handle.database.history migrations).map Migration.sql) handle.database.rest =
      some (migrate sqlite run migrations handle).2.database.rest := by
  obtain ⟨block, base, live⟩ := initialized.live
  obtain ⟨came, _⟩ := update_ended run (withinTransaction (apply sqlite migrations)) live initialized.idle
  have applied := @ends_apply_rest ρ sqlite (handle.database, handle.outside) migrations
  rw [migrate, Action.bind_apply] at ended ⊢
  cases updated : update run (withinTransaction (apply sqlite migrations)) handle with
  | mk outcome after =>
      rw [updated] at came
      simp only [updated] at ended ⊢
      cases came with
      | published returned database outside connection closed schema =>
          obtain ⟨served, image, servedLive, version⟩ := schema
          obtain ⟨next, stored, sameDatabase, _⟩ := storeTargetVersion_of servedLive (targetVersion migrations)
          dsimp only
          rw [stored]
          dsimp only
          rw [sameDatabase, ← Option.some.inj database]
          exact applied.ok returned
      | failed left outside settled => cases ended
      | unwound panicked left outside connection => cases ended

/-! ## Runs of releases -/

/-- How SQLite runs in the update of a release, and the migrations that it lists. -/
structure Release where
  run : SqliteRun
  migrations : List Migration

/-- The lists of the releases that migrated well, and the handle in the end. -/
def deployAll (sqlite : MigrationSqlite ρ) : List Release → MigratedHandle ρ → List (List Migration) × MigratedHandle ρ
  | [], handle => ([], handle)
  | release :: later, handle =>
      match migrate sqlite release.run release.migrations handle with
      | (.ok _, next) =>
          let (accepted, last) := deployAll sqlite later next
          (release.migrations :: accepted, last)
      | (.err _, next) => deployAll sqlite later next
      | (.panic, next) => deployAll sqlite later next

theorem recorded_append (history : History) (migrations later : List Migration) :
    recorded sqlite history (migrations ++ later) = recorded sqlite (recorded sqlite history migrations) later := by
  simp [recorded]

theorem highestVersion_append (version : UInt64) (migrations later : List Migration) :
    highestVersion version (migrations ++ later) = highestVersion (highestVersion version migrations) later := by
  simp [highestVersion]

theorem mem_pending {history : History} {migrations : List Migration} {migration : Migration} :
    migration ∈ pending history migrations ↔ migration ∈ migrations ∧ migration.number ∉ history.versions := by
  simp [pending]

/-- A checksum stays when more is recorded. -/
theorem Mismatched.recorded {history : History} {migration : Migration} (mismatched : Mismatched sqlite history migration)
    (migrations : List Migration) : Mismatched sqlite (recorded sqlite history migrations) migration := by
  obtain ⟨stored, found, differs⟩ := mismatched
  refine ⟨stored, ?_, differs⟩
  rw [Db.recorded, List.lookup_append, found]
  rfl

theorem Ordered.nodup {migrations : List Migration} (ordered : Ordered migrations) :
    (migrations.map Migration.number).Nodup := by
  refine List.pairwise_map.mpr (ordered.increasing.imp fun below same => ?_)
  exact UInt64.ne_of_lt below (number_injective same)

/-- What was just applied is recorded with the digest of its SQL. -/
theorem lookup_recorded {history : History} {migrations : List Migration} (consistent : history.Consistent)
    (ordered : Ordered migrations) {migration : Migration} (member : migration ∈ pending history migrations) :
    (recorded sqlite history (pending history migrations)).checksums.lookup migration.number =
      some (sqlite.sha256 migration.sql) := by
  have unknown : history.checksums.lookup migration.number = none := by
    refine lookup_eq_none_of.mpr fun known => ?_
    obtain ⟨entry, found, same⟩ := List.mem_map.mp known
    exact (mem_pending.mp member).2 (same ▸ consistent entry found)
  have distinct : ((pending history migrations).map Migration.number).Nodup :=
    ordered.nodup.sublist (List.filter_sublist.map Migration.number)
  rw [recorded, List.lookup_append, unknown, Option.none_or]
  refine lookup_eq_of_mem ?_ (List.mem_map_of_mem member)
  rw [List.map_map]
  exact distinct

theorem History.Consistent.recorded {history : History} (consistent : history.Consistent) (migrations : List Migration) :
    (recorded sqlite history migrations).Consistent := by
  intro entry member
  rcases List.mem_append.mp member with old | new
  · exact List.mem_append_left _ (consistent entry old)
  · obtain ⟨migration, found, rfl⟩ := List.mem_map.mp new
    exact List.mem_append_right _ (List.mem_map_of_mem found)

theorem Ordered.eq_of_number {migrations : List Migration} (ordered : Ordered migrations) {first second : Migration}
    (here : first ∈ migrations) (there : second ∈ migrations) (same : first.number = second.number) :
    first = second :=
  List.inj_on_of_nodup_map ordered.nodup here there same

/-- The last list that was accepted. -/
def latest (accepted : List (List Migration)) : List Migration := accepted.getLast?.getD []

theorem latest_cons (migrations : List Migration) (accepted : List (List Migration)) :
    latest (migrations :: accepted) = if accepted = [] then migrations else latest accepted := by
  cases accepted with
  | nil => rfl
  | cons next later => simp [latest, List.getLast?_cons_cons]

theorem latest_mem {accepted : List (List Migration)} (some_ : accepted ≠ []) : latest accepted ∈ accepted := by
  rw [latest, List.getLast?_eq_some_getLast some_]
  exact List.getLast_mem some_

theorem pending_append (history : History) (migrations later : List Migration) :
    pending history (migrations ++ later) = pending history migrations ++ pending history later :=
  List.filter_append ..

/-- What is left of a longer list once its beginning was applied. -/
theorem pending_of_prefix {history : History} {migrations longer : List Migration} (starts : migrations <+: longer)
    (ordered : Ordered longer) :
    pending history migrations ++ pending (recorded sqlite history (pending history migrations)) longer =
      pending history longer := by
  obtain ⟨added, rfl⟩ := starts
  have separate : ∀ migration ∈ added, migration.number ∉ (pending history migrations).map Migration.number := by
    intro migration member known
    obtain ⟨earlier, found, same⟩ := List.mem_map.mp known
    have below := (List.pairwise_append.mp ordered.increasing).2.2 earlier (mem_pending.mp found).1 migration member
    exact UInt64.ne_of_lt below (number_injective same)
  have first := @pending_of_recorded ρ sqlite history migrations
  have second : pending (recorded sqlite history (pending history migrations)) added = pending history added := by
    refine List.filter_congr fun migration member => ?_
    simp only [recorded, List.mem_append, not_or]
    have apart := separate migration member
    simp only [apart, not_false_eq_true, and_true]
  rw [pending_append, pending_append, first, second, List.nil_append]

/-- Exactly these migrations were applied on the way, by the releases with these lists. -/
structure Deployed (sqlite : MigrationSqlite ρ) (before : MigratedHandle ρ) (accepted : List (List Migration))
    (applied : List Migration) (after : MigratedHandle ρ) : Prop where
  history : after.database.history = recorded sqlite before.database.history applied
  rest : runAll sqlite (applied.map Migration.sql) before.database.rest = some after.database.rest
  new : ∀ migration ∈ applied, migration.number ∉ before.database.history.versions
  once : (applied.map Migration.number).Nodup
  listed : ∀ migration ∈ applied, ∃ migrations ∈ accepted, migration ∈ migrations
  complete : ∀ migrations ∈ accepted, ∀ migration ∈ migrations,
    migration.number ∈ after.database.history.versions
  ordered : ∀ migrations ∈ accepted, Ordered migrations
  matching : ∀ migrations ∈ accepted, ∀ migration ∈ migrations,
    ¬ Mismatched sqlite before.database.history migration
  schema : after.schemaVersion = before.schemaVersion.map fun version => highestVersion version accepted.flatten
  texts : before.database.history.Consistent → ∀ migrations ∈ accepted, ∀ migration ∈ migrations,
    ∀ first ∈ applied, migration.number = first.number → sqlite.sha256 migration.sql = sqlite.sha256 first.sql
  staged : accepted.Pairwise (· <+: ·) → applied = pending before.database.history (latest accepted)

theorem Deployed.refl (handle : MigratedHandle ρ) : Deployed sqlite handle [] [] handle where
  history := (recorded_nil _).symm
  rest := rfl
  new := by simp
  once := List.nodup_nil
  listed := by simp
  complete := by simp
  ordered := by simp
  matching := by simp
  schema := by simp [highestVersion]
  texts := by simp
  staged := by simp [latest, pending]

/-- A release that migrated well, before others. -/
theorem Deployed.after {run : SqliteRun} {migrations applied : List Migration} {accepted : List (List Migration)}
    {last : MigratedHandle ρ} (initialized : handle.Initialized)
    (ended : (migrate sqlite run migrations handle).1 = .ok ())
    (later : Deployed sqlite (migrate sqlite run migrations handle).2 accepted applied last) :
    Deployed sqlite handle (migrations :: accepted) (pending handle.database.history migrations ++ applied) last := by
  have rest := migrate_rest initialized ended
  have came := @migrate_ended ρ sqlite handle run migrations initialized
  rw [ended] at came
  cases came with
  | done acceptable recordedIn schema _ =>
      have history : (migrate sqlite run migrations handle).2.database.history =
          recorded sqlite handle.database.history (pending handle.database.history migrations) := recordedIn.history
      have grown : ∀ number, number ∈ handle.database.history.versions →
          number ∈ (migrate sqlite run migrations handle).2.database.history.versions := by
        intro number known
        rw [history]
        exact List.mem_append_left _ known
      have ours : ∀ migration ∈ pending handle.database.history migrations,
          migration.number ∈ (migrate sqlite run migrations handle).2.database.history.versions := by
        intro migration member
        rw [history]
        exact List.mem_append_right _ (List.mem_map_of_mem member)
      constructor
      · rw [later.history, history, recorded_append]
      · rw [List.map_append, runAll_append, rest]
        exact later.rest
      · intro migration member
        rcases List.mem_append.mp member with here | there
        · exact (mem_pending.mp here).2
        · exact fun known => later.new migration there (grown _ known)
      · rw [List.map_append]
        refine List.nodup_append.mpr ⟨?_, later.once, ?_⟩
        · exact acceptable.ordered.nodup.sublist (List.filter_sublist.map Migration.number)
        · intro number here other there same
          obtain ⟨migration, member, rfl⟩ := List.mem_map.mp here
          obtain ⟨again, fresh, rfl⟩ := List.mem_map.mp there
          exact later.new again fresh (same ▸ ours migration member)
      · intro migration member
        rcases List.mem_append.mp member with here | there
        · exact ⟨migrations, List.mem_cons_self, (mem_pending.mp here).1⟩
        · obtain ⟨other, listed, found⟩ := later.listed migration there
          exact ⟨other, List.mem_cons_of_mem _ listed, found⟩
      · intro other member migration found
        rcases List.mem_cons.mp member with rfl | old
        · rw [later.history]
          refine List.mem_append_left _ ?_
          by_cases known : migration.number ∈ handle.database.history.versions
          · exact grown _ known
          · exact ours migration (mem_pending.mpr ⟨found, known⟩)
        · exact later.complete other old migration found
      · exact List.forall_mem_cons.mpr ⟨acceptable.ordered, later.ordered⟩
      · refine List.forall_mem_cons.mpr ⟨acceptable.matching, fun other member migration found mismatched => ?_⟩
        exact later.matching other member migration found (history ▸ mismatched.recorded _)
      · rw [later.schema, schema, Option.map_map, List.flatten_cons]
        exact congrArg (fun raise => handle.schemaVersion.map raise)
          (funext fun version => (highestVersion_append version _ _).symm)
      · intro consistent other member migration found first new same
        rcases List.mem_append.mp new with here | there
        · rcases List.mem_cons.mp member with rfl | old
          · rw [acceptable.ordered.eq_of_number found (mem_pending.mp here).1 same]
          · refine by_contra fun differ => later.matching other old migration found ⟨_, ?_, Ne.symm differ⟩
            rw [history, same]
            exact lookup_recorded consistent acceptable.ordered here
        · have still : (migrate sqlite run migrations handle).2.database.history.Consistent :=
            history ▸ consistent.recorded _
          rcases List.mem_cons.mp member with rfl | old
          · refine absurd ?_ (later.new first there)
            rw [← same]
            by_cases known : migration.number ∈ handle.database.history.versions
            · exact grown _ known
            · exact ours migration (mem_pending.mpr ⟨found, known⟩)
          · exact later.texts still other old migration found first there same
      · intro growing
        obtain ⟨starts, growing⟩ := List.pairwise_cons.mp growing
        rw [later.staged growing, history, latest_cons]
        split
        · rename_i none
          simp [none, latest, pending]
        · rename_i some_
          have member := latest_mem some_
          exact pending_of_prefix (starts _ member) (later.ordered _ member)

/-- A release that did not migrate is as if it had not been. -/
theorem Deployed.since {accepted : List (List Migration)} {applied : List Migration} {first second last : MigratedHandle ρ}
    (database : second.database = first.database) (schema : second.schemaVersion = first.schemaVersion)
    (later : Deployed sqlite second accepted applied last) : Deployed sqlite first accepted applied last := by
  obtain ⟨history, rest, new, once, listed, complete, ordered, matching, highest, texts, staged⟩ := later
  rw [database] at history rest new matching texts staged
  rw [schema] at highest
  exact ⟨history, rest, new, once, listed, complete, ordered, matching, highest, texts, staged⟩

theorem deployAll_deployed (releases : List Release) (initialized : handle.Initialized) :
    ∃ applied, Deployed sqlite handle (deployAll sqlite releases handle).1 applied (deployAll sqlite releases handle).2 := by
  induction releases generalizing handle with
  | nil => exact ⟨[], Deployed.refl handle⟩
  | cons release later ih =>
      have came := @migrate_ended ρ sqlite handle release.run release.migrations initialized
      rw [deployAll]
      cases ended : migrate sqlite release.run release.migrations handle with
      | mk outcome next =>
          rw [ended] at came
          cases came with
          | done acceptable recordedIn schema after =>
              obtain ⟨applied, deployed⟩ := ih after
              have same : next = (migrate sqlite release.run release.migrations handle).2 := by rw [ended]
              rw [same] at deployed ⊢
              exact ⟨_, Deployed.after initialized (by rw [ended]) deployed⟩
          | failed database schema executes refused after =>
              obtain ⟨applied, deployed⟩ := ih after
              exact ⟨applied, deployed.since database schema⟩

/-- Whatever releases follow one another, and however the migrations of each of them
end: every version that the history gained was applied once, by the SQL of a
release that migrated well, on what those before it had left.  No accepted release
lists another text for it.  If the lists only grow at their ends, the
database is in the end what the last of them makes of it at once. -/
theorem releases_apply_each_version_once (sqlite : MigrationSqlite ρ) (releases : List Release) (handle : MigratedHandle ρ)
    (initialized : handle.Initialized) :
    let deployed := deployAll sqlite releases handle
    ∃ applied, Deployed sqlite handle deployed.1 applied deployed.2 ∧
      (deployed.1.Pairwise (· <+: ·) → ∀ run, (migrate sqlite run (latest deployed.1) handle).1 = .ok () →
        (migrate sqlite run (latest deployed.1) handle).2.database = deployed.2.database) := by
  intro deployed
  obtain ⟨applied, holds⟩ := @deployAll_deployed ρ sqlite handle releases initialized
  refine ⟨applied, holds, fun growing run ended => ?_⟩
  have rest := migrate_rest initialized ended
  have came := @migrate_ended ρ sqlite handle run (latest deployed.1) initialized
  rw [ended] at came
  cases came with
  | done acceptable recordedIn schema _ =>
      have same : applied = pending handle.database.history (latest deployed.1) := holds.staged growing
      have history : (migrate sqlite run (latest deployed.1) handle).2.database.history = deployed.2.database.history :=
        recordedIn.history.trans (same ▸ holds.history.symm)
      have worked : some (migrate sqlite run (latest deployed.1) handle).2.database.rest =
          some deployed.2.database.rest := rest.symm.trans (same ▸ holds.rest)
      exact MigratedDatabase.mk.injEq .. |>.mpr ⟨history, Option.some.inj worked⟩

/-- Two releases of which the second adds a migration, and a third that has gone back to the first. -/
def growingReleases : List Release :=
  [⟨⟨none, none, [], none⟩, [⟨1, "first"⟩]⟩, ⟨⟨none, none, [], none⟩, [⟨1, "first"⟩, ⟨2, "second"⟩]⟩,
    ⟨⟨none, none, [], none⟩, [⟨1, "first"⟩]⟩]

theorem growing_releases_over_legacy_history :
    ∃ applied, Deployed obligingSqlite legacyHandle (deployAll obligingSqlite growingReleases legacyHandle).1 applied
      (deployAll obligingSqlite growingReleases legacyHandle).2 :=
  have ⟨applied, deployed, _⟩ := releases_apply_each_version_once obligingSqlite growingReleases legacyHandle
    initialized_legacyHandle
  ⟨applied, deployed⟩

end IcSqliteVfs.Db
