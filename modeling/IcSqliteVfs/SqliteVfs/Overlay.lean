import IcSqliteVfs.Data.Keyed
import IcSqliteVfs.SqliteVfs.LogicalImage

namespace IcSqliteVfs.SqliteVfs

open IcSqliteVfs.Data IcSqliteVfs.Semantics IcSqliteVfs.Stable

/-! # Per-message page overlay for the main database image -/

def cleanPageCacheCapacity : Nat := 8

structure WriteStats where
  dirtyPages : Nat := 0
  peakBytes : Nat := 0
  /-- The limit the first refused page violated: `false` for pages, `true` for bytes. -/
  exceeded : Option Bool := none
deriving DecidableEq, Repr

structure WriteBudget where
  maxPages : Nat
  maxBytes : Nat
  stats : WriteStats := {}
deriving DecidableEq, Repr

structure Overlay where
  writeBudget : Option WriteBudget
  baseSize : Nat
  size : Nat
  pages : List (Nat × List UInt8)
  cleanPages : List (Nat × List UInt8)
  zeroExtents : List ZeroExtent
deriving DecidableEq

/-- A borrowed overlay together with the stable side its reads go to. -/
structure OverlayFrame where
  self : Overlay
  store : Store

abbrev OverlayM : Type → Type := Action OverlayFrame StableMemoryError

namespace Overlay

def new (baseSize : Nat) : Overlay where
  writeBudget := none
  baseSize
  size := baseSize
  pages := []
  cleanPages := []
  zeroExtents := []

def isEmpty (self : Overlay) : Bool :=
  self.size == self.baseSize && self.pages.isEmpty && self.zeroExtents.isEmpty

def dirtyPage (self : Overlay) (pageNo : Nat) : Option (List UInt8) := self.pages.lookup pageNo
def cleanPage (self : Overlay) (pageNo : Nat) : Option (List UInt8) := self.cleanPages.lookup pageNo
def pageIsZeroMasked (self : Overlay) (pageNo : Nat) : Bool := extentsMask self.zeroExtents pageNo

def onStore {α : Type} (call : StoreM α) : OverlayM α :=
  Action.zoom OverlayFrame.store (fun store frame => { frame with store }) call

def updateSelf (update : Overlay → Overlay) : OverlayM Unit :=
  Action.modify fun frame => { frame with self := update frame.self }

/-- `record_zero_extent`, for both page counts. -/
def recordZeroExtent (startPage endPage : Nat) : OverlayM Unit :=
  if startPage < endPage then
    updateSelf fun self =>
      { self with zeroExtents := self.zeroExtents ++ [⟨UInt64.ofNat startPage, UInt64.ofNat endPage⟩] }
  else pure ()

def recordNewlyActiveZeroPages (oldSize newSize : Nat) : OverlayM Unit :=
  recordZeroExtent (pageCountForSize oldSize) (pageCountForSize newSize)

def recordTruncatedZeroPages (newSize oldSize : Nat) : OverlayM Unit :=
  recordZeroExtent (pageCountForSize newSize) (pageCountForSize oldSize)

/-- Refuse a page past the budget; the first refusal is remembered. -/
def admitDirtyPage : OverlayM Unit := do
  let frame ← Action.read
  match frame.self.writeBudget with
  | none => pure ()
  | some budget =>
      let pages := frame.self.pages.length + 1
      let bytes := min (pages * sqlitePageSize) (u64Bound - 1)
      if budget.stats.exceeded.isSome ∨ budget.maxPages < pages ∨ budget.maxBytes < bytes then do
        updateSelf fun self => { self with writeBudget := some { budget with stats := { budget.stats with
          exceeded := budget.stats.exceeded.or (some (pages ≤ budget.maxPages)) } } }
        Action.fail (.failpoint "overlay write budget exceeded")
      else
        updateSelf fun self => { self with writeBudget := some { budget with stats := { budget.stats with
          dirtyPages := max budget.stats.dirtyPages pages
          peakBytes := max budget.stats.peakBytes bytes } } }

/-- The bytes a page gets when it becomes dirty: zeroes under a zero extent,
else the cached clean copy, which leaves the cache, else the base page. -/
def materializePage (pageNo : Nat) : OverlayM (List UInt8) := do
  let frame ← Action.read
  if frame.self.pageIsZeroMasked pageNo then pure (List.replicate sqlitePageSize 0)
  else
    match frame.self.cleanPage pageNo with
    | some page => do
        updateSelf fun self => { self with cleanPages := self.cleanPages.eraseP fun entry => entry.1 == pageNo }
        pure page
    | none => onStore (readBasePage pageNo)

def pushPage (pageNo : Nat) (page : List UInt8) : OverlayM Unit :=
  updateSelf fun self => { self with pages := self.pages ++ [(pageNo, page)] }

def loadDirtyPage (pageNo : Nat) : OverlayM (List UInt8) := do
  let frame ← Action.read
  match frame.self.dirtyPage pageNo with
  | some page => pure page
  | none => do
      admitDirtyPage
      let page ← materializePage pageNo
      pushPage pageNo page
      pure page

/-- Write through the reference that `load_dirty_page` returned. -/
def copyIntoPage (pageNo : Nat) (page : List UInt8) (start : Nat) (source : List UInt8) : OverlayM Unit := do
  Action.require (start + source.length ≤ page.length)
  updateSelf fun self => { self with pages := replaceValue pageNo (patch page start source) self.pages }

/-- `page[start..stop].fill(0)`. -/
def fillPage (pageNo : Nat) (page : List UInt8) (start stop : Nat) : OverlayM Unit := do
  Action.require (start ≤ stop)
  copyIntoPage pageNo page start (List.replicate (stop - start) 0)

/-- Where in the old last page the zeroing stops: at the page's end or at the new size. -/
def zeroedEnd (endAbsolute oldPageEnd : Nat) : Nat :=
  if endAbsolute = oldPageEnd then sqlitePageSize else endAbsolute % sqlitePageSize

def zeroOldPartialPage (oldSize newSize : Nat) : OverlayM Unit :=
  if oldSize % sqlitePageSize = 0 then pure ()
  else do
    let oldPageNo := oldSize / sqlitePageSize
    let oldPageStart ← checkedMul oldPageNo sqlitePageSize
    let oldPageEnd ← checkedAdd oldPageStart sqlitePageSize
    let page ← loadDirtyPage oldPageNo
    fillPage oldPageNo page (oldSize % sqlitePageSize) (zeroedEnd (min newSize oldPageEnd) oldPageEnd)

def zeroNewPartialPage (oldSize newSize : Nat) : OverlayM Unit :=
  if newSize % sqlitePageSize = 0 ∨ newSize / sqlitePageSize = oldSize / sqlitePageSize then pure ()
  else do
    let page ← loadDirtyPage (newSize / sqlitePageSize)
    fillPage (newSize / sqlitePageSize) page 0 (newSize % sqlitePageSize)

def zeroNewlyActivePartialPages (oldSize newSize : Nat) : OverlayM Unit :=
  if newSize ≤ oldSize then pure ()
  else do
    zeroOldPartialPage oldSize newSize
    zeroNewPartialPage oldSize newSize

/-- What `write_at` and `truncate` do before growing. -/
def activatePages (oldSize newSize : Nat) : OverlayM Unit := do
  recordNewlyActiveZeroPages oldSize newSize
  zeroNewlyActivePartialPages oldSize newSize

def writeFullPage (pageNo : Nat) (bytes : List UInt8) : OverlayM Unit := do
  let frame ← Action.read
  match frame.self.dirtyPage pageNo with
  | some page => copyIntoPage pageNo page 0 bytes
  | none => do
      admitDirtyPage
      pushPage pageNo bytes

/-- The copy loop of `write_at`; each turn copies at least one byte. -/
def writePages (offset : Nat) (bytes : List UInt8) : Nat → Nat → OverlayM Unit
  | 0, _ => pure ()
  | turns + 1, written =>
      if written < bytes.length then do
        let absolute ← checkedAdd offset written
        let pageOffset := absolute % sqlitePageSize
        let copied := min (sqlitePageSize - pageOffset) (bytes.length - written)
        let page ← loadDirtyPage (absolute / sqlitePageSize)
        copyIntoPage (absolute / sqlitePageSize) page pageOffset (window bytes written copied)
        writePages offset bytes turns (written + copied)
      else pure ()

def writeContent (offset : Nat) (bytes : List UInt8) : OverlayM Unit :=
  if bytes.length = sqlitePageSize ∧ offset % sqlitePageSize = 0 then
    writeFullPage (offset / sqlitePageSize) bytes
  else writePages offset bytes bytes.length 0

def writeAt (offset : Nat) (bytes : List UInt8) : OverlayM Unit :=
  if bytes.isEmpty then pure ()
  else do
    let stop ← checkedAdd offset bytes.length
    let frame ← Action.read
    let oldSize := frame.self.size
    (if oldSize < stop then activatePages oldSize stop else pure ())
    writeContent offset bytes
    updateSelf fun self => { self with size := max self.size stop }

def zeroTail (size : Nat) : OverlayM Unit :=
  if size % sqlitePageSize = 0 then pure ()
  else do
    let page ← loadDirtyPage (size / sqlitePageSize)
    fillPage (size / sqlitePageSize) page (size % sqlitePageSize) page.length

/-- `retain` on both page lists. -/
def retainPages (size : Nat) (self : Overlay) : Overlay :=
  { self with
    size
    pages := self.pages.filter fun entry => entry.1 < pageCountForSize size
    cleanPages := self.cleanPages.filter fun entry => entry.1 < pageCountForSize size }

def truncate (size : Nat) : OverlayM Unit := do
  let frame ← Action.read
  let oldSize := frame.self.size
  (if oldSize < size then activatePages oldSize size
    else if size < oldSize then recordTruncatedZeroPages size oldSize
    else pure ())
  updateSelf (retainPages size)
  zeroTail size

/-- A dirty or cached page is kept as it is; a full cache drops its oldest page. -/
def insertCleanPage (pageNo : Nat) (page : List UInt8) : OverlayM Unit :=
  updateSelf fun self =>
    if (self.dirtyPage pageNo).isSome || (self.cleanPage pageNo).isSome then self
    else
      { self with cleanPages :=
          (if self.cleanPages.length = cleanPageCacheCapacity then self.cleanPages.drop 1
            else self.cleanPages) ++ [(pageNo, page)] }

/-- `page[start..start + count]`. -/
def slicePage (page : List UInt8) (start count : Nat) : OverlayM (List UInt8) := do
  Action.require (start + count ≤ page.length)
  pure (window page start count)

def readPageSlice (pageNo start count : Nat) : OverlayM (List UInt8) := do
  let frame ← Action.read
  match frame.self.dirtyPage pageNo with
  | some page => slicePage page start count
  | none =>
      if frame.self.pageIsZeroMasked pageNo then pure (List.replicate count 0)
      else
        match frame.self.cleanPage pageNo with
        | some page => slicePage page start count
        | none => do
            let page ← onStore (readBasePage pageNo)
            let bytes ← slicePage page start count
            insertCleanPage pageNo page
            pure bytes

/-- The copy loop of `read_range`. -/
def readRange (offset count : Nat) : Nat → Nat → OverlayM (List UInt8)
  | 0, _ => pure []
  | turns + 1, copiedTotal =>
      if copiedTotal < count then do
        let absolute ← checkedAdd offset copiedTotal
        let pageOffset := absolute % sqlitePageSize
        let copied := min (sqlitePageSize - pageOffset) (count - copiedTotal)
        let piece ← readPageSlice (absolute / sqlitePageSize) pageOffset copied
        let rest ← readRange offset count turns (copiedTotal + copied)
        pure (piece ++ rest)
      else pure []

def readAt (offset count : Nat) : OverlayM (List UInt8 × Bool) := do
  let frame ← Action.read
  if count = 0 then pure ([], true)
  else if frame.self.size ≤ offset then pure (List.replicate count 0, false)
  else do
    let copied := min count (frame.self.size - offset)
    let bytes ← readRange offset copied copied 0
    pure (bytes ++ List.replicate (count - copied) 0, copied == count)

end Overlay

end IcSqliteVfs.SqliteVfs
