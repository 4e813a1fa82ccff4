import IcSqliteVfs.Stable.Superblock

namespace IcSqliteVfs.Db

open IcSqliteVfs.Stable

/-! # Errors of the database facade -/

inductive DbError where
  | sqlite (code : Int) (message : String)
  | constraint (message : String)
  | notFound
  | typeMismatch (index : Nat) (expected actual : String)
  | columnOutOfRange (index count : Nat)
  | stable (error : StableMemoryError)
  | stableMemoryNotInitialized
  | stableMemoryAlreadyInitialized
  | readConnectionInUse
  | migrationVersionOutOfRange (version : Nat)
  | duplicateMigrationVersion (version : Nat)
  | migrationVersionOutOfOrder (previous next : Nat)
  | interiorNul
  | emptySql
  | trailingSql
  | textTooLarge
  | blobTooLarge
  | tooManyParameters
  | parameterCountMismatch (expected actual : Nat)
  | anonymousParameterInNamedBind (index : Nat)
  | parameterNotFound (name : String)
deriving DecidableEq, Repr

inductive BudgetKind where
  | instructions
  | rows
  | resultBytes
deriving DecidableEq, Repr

/-- Errors of a measured query. -/
inductive QueryError where
  | database (error : DbError)
  | budgetExceeded (kind : BudgetKind)
  | instructionCounterUnavailable
  | invalidQueryBudget (reason : String)
  | sqlTooLong
  | queryObserverActive
  | queryNotReadOnly
deriving DecidableEq, Repr

def sqliteOk : Int := 0
def sqliteConstraint : Int := 19
def sqliteMisuse : Int := 21
def sqliteRange : Int := 25
def sqliteRow : Int := 100

/-- The message is the one that the connection holds. -/
def classifySqliteError (code : Int) (message : String) : DbError :=
  if code = sqliteConstraint then .constraint message else .sqlite code message

end IcSqliteVfs.Db
