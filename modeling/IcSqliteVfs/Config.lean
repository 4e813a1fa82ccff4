import Mathlib.Algebra.Order.Ring.Nat
import Mathlib.Tactic.Common

namespace IcSqliteVfs

/-! Central runtime constants for the SQLite-on-stable-memory layout. -/

def sqlitePageSize : Nat := 16384
def stablePageSize : Nat := 65536
def superblockOffset : Nat := 0
def superblockSize : Nat := stablePageSize
def dbRegionOffset : Nat := superblockOffset + superblockSize
def statementCacheCapacity : Nat := 32

/-- The values of the source's `u64` are the naturals below this bound. -/
def u64Bound : Nat := 2 ^ 64

end IcSqliteVfs
