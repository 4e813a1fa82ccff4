import IcSqliteVfs.Semantics.Action
import IcSqliteVfs.Semantics.Observation
import IcSqliteVfs.Semantics.Coupling
import IcSqliteVfs.Semantics.Run
import IcSqliteVfs.Data.Bytes
import IcSqliteVfs.Data.Intervals
import IcSqliteVfs.Data.Keyed
import IcSqliteVfs.Data.LittleEndian
import IcSqliteVfs.Data.Flags
import IcSqliteVfs.Data.Frames
import IcSqliteVfs.Config
import IcSqliteVfs.Stable.RawMemory
import IcSqliteVfs.Stable.Superblock
import IcSqliteVfs.Stable.Codec
import IcSqliteVfs.Stable.Store
import IcSqliteVfs.Stable.Meta
import IcSqliteVfs.Stable.Persistence
import IcSqliteVfs.Stable.MemoryLayout
import IcSqliteVfs.Stable.MemoryManager
import IcSqliteVfs.Stable.MemoryManagerValidation
import IcSqliteVfs.Stable.BucketAllocation
import IcSqliteVfs.Stable.BucketAccess
import IcSqliteVfs.SqliteVfs.LogicalImage
import IcSqliteVfs.SqliteVfs.PageOffsetCache
import IcSqliteVfs.SqliteVfs.Overlay
import IcSqliteVfs.SqliteVfs.OverlayContents
import IcSqliteVfs.SqliteVfs.ZeroExtents
import IcSqliteVfs.SqliteVfs.Commit
import IcSqliteVfs.SqliteVfs.CommittedImage
import IcSqliteVfs.SqliteVfs.OverlayCalls
import IcSqliteVfs.SqliteVfs.OverlayFile
import IcSqliteVfs.SqliteVfs.OverlaySound
import IcSqliteVfs.SqliteVfs.WriteBudget
import IcSqliteVfs.SqliteVfs.OverlayRun
import IcSqliteVfs.SqliteVfs.ZeroExtentLimit
import IcSqliteVfs.SqliteVfs.StableBlob
import IcSqliteVfs.SqliteVfs.FlatFile
import IcSqliteVfs.SqliteVfs.Checksum
import IcSqliteVfs.SqliteVfs.Import
import IcSqliteVfs.SqliteVfs.BlobRun
import IcSqliteVfs.SqliteVfs.Atomicity
import IcSqliteVfs.SqliteVfs.CertifiedRun
import IcSqliteVfs.SqliteVfs.ChunkedRefresh
import IcSqliteVfs.SqliteVfs.Capacity
import IcSqliteVfs.SqliteVfs.ImportMachine
import IcSqliteVfs.SqliteVfs.File
import IcSqliteVfs.SqliteVfs.FileSafety
import IcSqliteVfs.SqliteVfs.Lock
import IcSqliteVfs.Stable.VirtualMemory
import IcSqliteVfs.Stable.Reload
import IcSqliteVfs.Stable.StrictLoad
import IcSqliteVfs.Stable.GrowFault
import IcSqliteVfs.Stable.GrowAtomicity
import IcSqliteVfs.Stable.CaughtPanic
import IcSqliteVfs.SqliteVfs.DirectChange
import IcSqliteVfs.Db.Savepoint
import IcSqliteVfs.Db.StatementCache
import IcSqliteVfs.Db.Error
import IcSqliteVfs.Db.Statement
import IcSqliteVfs.Db.StatementReuse
import IcSqliteVfs.Db.StatementBorrow
import IcSqliteVfs.Db.Update
import IcSqliteVfs.Db.Migrate
import IcSqliteVfs.Db.UpdateExit
import IcSqliteVfs.SqliteVfs.ExtentAlgebra
import IcSqliteVfs.Db.Query
import IcSqliteVfs.Db.QueryBudget
import IcSqliteVfs.Db.Init
import IcSqliteVfs.Stable.Managers
import IcSqliteVfs.Stable.RegisteredIsolation
import IcSqliteVfs.Db.BudgetedFile
import IcSqliteVfs.Db.UpdateBudget
import IcSqliteVfs.Db.AllOrNothing
import IcSqliteVfs.SqliteVfs.CommittedReads
import IcSqliteVfs.Db.Facade
import IcSqliteVfs.Db.FacadeCoherence
import IcSqliteVfs.Db.NestedOperations
import IcSqliteVfs.Db.Releases
import IcSqliteVfs.SqliteVfs.Transfer
import IcSqliteVfs.Db.FastPaths
import IcSqliteVfs.SqliteVfs.StorageStats
import IcSqliteVfs.Data.Spans
import IcSqliteVfs.SqliteVfs.Libc
import IcSqliteVfs.SqliteVfs.LibcHeap
import IcSqliteVfs.SqliteVfs.LibcStrings
import IcSqliteVfs.Semantics.Mirror
