import IcSqliteVfs.Config
import IcSqliteVfs.Data.Intervals
import IcSqliteVfs.Data.LittleEndian
import Mathlib.Data.UInt

namespace IcSqliteVfs.Stable

open IcSqliteVfs.Data

instance linearOrderUInt64 : LinearOrder UInt64 where
  le_refl := UInt64.le_refl
  le_trans _ _ _ := UInt64.le_trans
  le_antisymm _ _ := UInt64.le_antisymm
  le_total := UInt64.le_total
  lt_iff_le_not_ge _ _ := by
    rw [UInt64.lt_iff_toNat_lt, UInt64.le_iff_toNat_le, UInt64.le_iff_toNat_le]
    omega
  toDecidableLE := inferInstance

/-- A range of logical pages that reads as zero: `lower` is the source's
`start_page`, `upper` its exclusive `end_page`. -/
abbrev ZeroExtent : Type := Data.Interval UInt64

inductive StableMemoryError where
  | notInitialized
  | alreadyInitialized
  | memoryAlreadyRegistered
  | growFailed (currentPages requiredPages : Nat)
  | readOutOfBounds (offset len sizeBytes : Nat)
  | offsetOverflow
  | importAlreadyStarted
  | importNotStarted
  | updateInProgress
  | importOutOfOrder (offset expected : Nat)
  | importOutOfBounds (offset len dbSize : Nat)
  | importIncomplete (writtenUntil dbSize : Nat)
  | checksumMismatch (expected actual : UInt64)
  | checksumRefreshChunkEmpty
  | failpoint (name : String)
  | metaChecksumMismatch
  | unsupportedLayoutVersion (version : UInt64)
  | foreignStableMemoryImage
  | zeroExtentLimitExceeded (limit : Nat)
deriving DecidableEq, Repr

/-- `b"ICSQLITE"`. -/
def magic : Vector UInt8 8 := #v[0x49, 0x43, 0x53, 0x51, 0x4c, 0x49, 0x54, 0x45]
def version : UInt32 := 8
def maxZeroExtents : Nat := 1024
def zeroExtentBytes : Nat := 16
def extentsOffset : Nat := 160
def metaChecksumOffset : Nat := 152
def encodedLen : Nat := extentsOffset + maxZeroExtents * zeroExtentBytes
def currentLayoutVersion : UInt64 := 8
def flagImporting : UInt64 := 1
def flagChecksumStale : UInt64 := 2
def flagChecksumRefreshing : UInt64 := 4

structure Superblock where
  magic : Vector UInt8 8
  version : UInt32
  sqlitePageSize : UInt32
  dbSize : UInt64
  schemaVersion : UInt64
  lastTxId : UInt64
  flags : UInt64
  checksum : UInt64
  importExpectedChecksum : UInt64
  importWrittenUntil : UInt64
  importTotalSize : UInt64
  importBaseOffset : UInt64
  checksumRefreshOffset : UInt64
  checksumRefreshHash : UInt64
  checksumRefreshTxId : UInt64
  dbBaseOffset : UInt64
  pageTableOffset : UInt64
  pageCount : UInt64
  layoutVersion : UInt64
  zeroExtents : List ZeroExtent
  metaChecksum : UInt64
deriving DecidableEq

/-- One FNV-1a step. -/
def fnvStep (hash : UInt64) (byte : UInt8) : UInt64 :=
  (hash ^^^ byte.toUInt64) * 0x00000100000001b3

def foldFnv1a64 (hash : UInt64) (bytes : List UInt8) : UInt64 := bytes.foldl fnvStep hash

def fnv1a64 (bytes : List UInt8) : UInt64 := bytes.foldl fnvStep 0xcbf29ce484222325

def u64LeBytes (value : UInt64) : List UInt8 := leBytes 8 value.toNat
def u32LeBytes (value : UInt32) : List UInt8 := leBytes 4 value.toNat

def u64FromLeBytes {width : Nat} (bytes : Vector UInt8 width) : UInt64 := UInt64.ofNat (leValue bytes.toList)
def u32FromLeBytes {width : Nat} (bytes : Vector UInt8 width) : UInt32 := UInt32.ofNat (leValue bytes.toList)

/-- `four` and `eight` of the source, for both widths. -/
def bytesAt (width : Nat) (bytes : List UInt8) (start : Nat) : Vector UInt8 width :=
  Vector.ofFn fun index : Fin width => bytes.getD (start + index) 0

def four : List UInt8 → Nat → Vector UInt8 4 := bytesAt 4
def eight : List UInt8 → Nat → Vector UInt8 8 := bytesAt 8

namespace Superblock

def isImporting (block : Superblock) : Bool := block.flags &&& flagImporting != 0
def isChecksumStale (block : Superblock) : Bool := block.flags &&& flagChecksumStale != 0
def isChecksumRefreshing (block : Superblock) : Bool := block.flags &&& flagChecksumRefreshing != 0

def clearChecksumRefresh (block : Superblock) : Superblock :=
  { block with
    flags := block.flags &&& ~~~flagChecksumRefreshing
    checksumRefreshOffset := 0
    checksumRefreshHash := 0
    checksumRefreshTxId := 0 }

/-- The fixed header, cut into the eight-byte chunks of the source's offsets. -/
def headerChunks (block : Superblock) : List (List UInt8) := [
  block.magic.toList,
  u32LeBytes block.version ++ u32LeBytes block.sqlitePageSize,
  u64LeBytes block.dbSize,
  u64LeBytes block.schemaVersion,
  u64LeBytes block.lastTxId,
  u64LeBytes block.flags,
  u64LeBytes block.checksum,
  u64LeBytes block.importExpectedChecksum,
  u64LeBytes block.importWrittenUntil,
  u64LeBytes block.importTotalSize,
  u64LeBytes block.importBaseOffset,
  u64LeBytes block.checksumRefreshOffset,
  u64LeBytes block.checksumRefreshHash,
  u64LeBytes block.checksumRefreshTxId,
  u64LeBytes block.dbBaseOffset,
  u64LeBytes block.pageTableOffset,
  u64LeBytes block.pageCount,
  u64LeBytes block.layoutVersion,
  u64LeBytes (UInt64.ofNat (min block.zeroExtents.length (u64Bound - 1))),
  u64LeBytes block.metaChecksum]

def extentChunks (block : Superblock) : List (List UInt8) :=
  (block.zeroExtents.take maxZeroExtents).flatMap fun extent =>
    [u64LeBytes extent.lower, u64LeBytes extent.upper]

/-- The encoding fills a buffer of zeroes of fixed length. -/
def encode (block : Superblock) : List UInt8 :=
  resize 0 (block.headerChunks ++ block.extentChunks).flatten encodedLen

def decode (bytes : List UInt8) : Superblock :=
  let count := (u64FromLeBytes (eight bytes 144)).toNat
  { magic := eight bytes 0
    version := u32FromLeBytes (four bytes 8)
    sqlitePageSize := u32FromLeBytes (four bytes 12)
    dbSize := u64FromLeBytes (eight bytes 16)
    schemaVersion := u64FromLeBytes (eight bytes 24)
    lastTxId := u64FromLeBytes (eight bytes 32)
    flags := u64FromLeBytes (eight bytes 40)
    checksum := u64FromLeBytes (eight bytes 48)
    importExpectedChecksum := u64FromLeBytes (eight bytes 56)
    importWrittenUntil := u64FromLeBytes (eight bytes 64)
    importTotalSize := u64FromLeBytes (eight bytes 72)
    importBaseOffset := u64FromLeBytes (eight bytes 80)
    checksumRefreshOffset := u64FromLeBytes (eight bytes 88)
    checksumRefreshHash := u64FromLeBytes (eight bytes 96)
    checksumRefreshTxId := u64FromLeBytes (eight bytes 104)
    dbBaseOffset := u64FromLeBytes (eight bytes 112)
    pageTableOffset := u64FromLeBytes (eight bytes 120)
    pageCount := u64FromLeBytes (eight bytes 128)
    layoutVersion := u64FromLeBytes (eight bytes 136)
    zeroExtents :=
      if count ≤ maxZeroExtents then
        (List.range count).map fun index =>
          ⟨u64FromLeBytes (eight bytes (extentsOffset + index * zeroExtentBytes)),
            u64FromLeBytes (eight bytes (extentsOffset + index * zeroExtentBytes + 8))⟩
      else []
    metaChecksum := u64FromLeBytes (eight bytes metaChecksumOffset) }

def encodedLenOf (block : Superblock) : Nat :=
  extentsOffset + min block.zeroExtents.length maxZeroExtents * zeroExtentBytes

def computeMetaChecksum (block : Superblock) : UInt64 :=
  let copy := { block with metaChecksum := 0 }
  fnv1a64 (copy.encode.take copy.encodedLenOf)

def verifyChecksum (block : Superblock) : Bool := block.metaChecksum == block.computeMetaChecksum

/-- The loop of `validate_zero_extents` past the limit check. -/
def extentsInOrder (previousEnd : Option UInt64) : List ZeroExtent → Bool
  | [] => true
  | extent :: rest =>
      if extent.lower ≥ extent.upper then false
      else if previousEnd.any (fun stop => extent.lower ≤ stop) then false
      else extentsInOrder (some extent.upper) rest

def validateZeroExtents (block : Superblock) : Except StableMemoryError Unit :=
  if block.zeroExtents.length > maxZeroExtents then .error (.zeroExtentLimitExceeded maxZeroExtents)
  else if extentsInOrder none block.zeroExtents then .ok ()
  else .error .metaChecksumMismatch

def hasNormalizedZeroExtents (block : Superblock) : Bool :=
  match block.validateZeroExtents with
  | .ok _ => true
  | .error _ => false

/-- The fields of `fresh` before its checksum is computed. -/
def blank : Superblock where
  magic := Stable.magic
  version := Stable.version
  sqlitePageSize := UInt32.ofNat IcSqliteVfs.sqlitePageSize
  dbSize := 0
  schemaVersion := 0
  lastTxId := 0
  flags := 0
  checksum := 0
  importExpectedChecksum := 0
  importWrittenUntil := 0
  importTotalSize := 0
  importBaseOffset := 0
  checksumRefreshOffset := 0
  checksumRefreshHash := 0
  checksumRefreshTxId := 0
  dbBaseOffset := UInt64.ofNat dbRegionOffset
  pageTableOffset := 0
  pageCount := 0
  layoutVersion := currentLayoutVersion
  zeroExtents := []
  metaChecksum := 0

def fresh : Superblock := { blank with metaChecksum := blank.computeMetaChecksum }

end Superblock

end IcSqliteVfs.Stable
