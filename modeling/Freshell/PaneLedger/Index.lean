import Freshell.Library.Drives
import Freshell.PaneLedger.Rows

/-!
The ledger: files on disk, each replaced or removed as a whole, and the index in memory that
answers all reads. The index is built once from the files; afterwards every change goes to
the file first and to the index only if the file operation reported success.
-/
namespace Freshell.PaneLedger
open Freshell.Library.Tables Freshell.Library.Drives

variable {Payload : Type}

/-- The files of a ledger. The name of each is made from the identity that its content
    carries; a rollback row and a close envelope have theirs from the name alone. -/
structure Files (Payload : Type) where
  bindings : KeyedTable BindingRow.key := ∅
  pending : KeyedTable PendingMarker.terminalId := ∅
  rollback : Table SessionKey Payload := ∅
  killTombstones : KeyedTable KillTombstone.key := ∅
  aliasTombstones : KeyedTable AliasTombstoneRecord.key := ∅
  closeRecords : KeyedTable PaneCloseRecord.terminalId := ∅
  closeEnvelopes : Table String CloseEnvelopeRecord := ∅

structure LedgerIndex (Payload : Type) where
  bindings : KeyedTable BindingRow.key := ∅
  pending : KeyedTable PendingMarker.terminalId := ∅
  rollback : Table SessionKey Payload := ∅
  killTombstones : Table SessionKey KillTombstoneEntry := ∅
  legacyTombstoneKeys : List SessionKey := []
  aliasTombstones : Table SessionKey (List (String × Int)) := ∅
  closeEnvelopes : Table String CloseEnvelopeRecord := ∅

/-- The orders in which hash maps and directories hand out their entries. -/
structure Order where
  bindings : List SessionKey := []
  pending : List String := []
  fences : List SessionKey := []
  aliases : List SessionKey := []
  envelopes : List String := []
  records : List String := []

/-- A ledger with a root directory; without one every call answers at once and stores nothing. -/
structure Ledger (Payload : Type) where
  index : LedgerIndex Payload
  drive : Drive (Files Payload)

def paneEnvelopeKey (terminalId : String) : String := "pane:" ++ terminalId
def agentEnvelopeKey (provider addressedSessionId : String) : String := provider ++ ":" ++ addressedSessionId
def paneDetachEnvelopeKey (createRequestId : String) : String := "pane-detach:" ++ createRequestId
def paneDetachBatchEnvelopeKey (tabId : String) : String := "pane-detach-batch:" ++ tabId

def isDetachCloseKey (key : String) : Bool :=
  "pane-detach:".toList.isPrefixOf key.toList || "pane-detach-batch:".toList.isPrefixOf key.toList

def KillTombstone.kill (tombstone : KillTombstone) : PaneCloseKill :=
  { provider := tombstone.provider, sessionId := tombstone.sessionId, atMs := tombstone.killedAtMs, scope := none }

def AliasTombstoneRecord.entries (record : AliasTombstoneRecord) : List (String × Int) :=
  record.records.map fun entry => (entry.durable,entry.atMs)

def PaneCloseRecord.envelope (record : PaneCloseRecord) : CloseEnvelopeRecord :=
  { ledgerVersion := record.ledgerVersion, terminalId := some record.terminalId,
    createRequestId := record.createRequestId, closedAt := record.closedAt, kills := record.kills, panes := [] }

def feedKills (fences : Table SessionKey KillTombstoneEntry) (kills : List PaneCloseKill) :
    Table SessionKey KillTombstoneEntry :=
  kills.foldl (fun fences kill =>
    fences.insert kill.key (match fences.lookup kill.key with
      | some entry => entry.fold kill
      | none => { atMs := kill.atMs, scope := kill.scope })) fences

/-- The kills of a record are the close fences of the identities in it. -/
def feedCloseEnvelope (index : LedgerIndex Payload) (key : String) (record : CloseEnvelopeRecord) :
    LedgerIndex Payload :=
  { index with
    killTombstones := feedKills index.killTombstones record.kills
    closeEnvelopes := index.closeEnvelopes.insert key record }

def loadIndex (order : Order) (files : Files Payload) : LedgerIndex Payload :=
  let tombstones := (listed order.fences files.killTombstones.table).filter (·.2.ledgerVersion = ledgerVersion)
  let index : LedgerIndex Payload :=
    { bindings := files.bindings.keep (·.ledgerVersion = ledgerVersion)
      pending := files.pending.keep (·.ledgerVersion = ledgerVersion)
      rollback := files.rollback
      killTombstones := feedKills ∅ (tombstones.map fun entry => entry.2.kill)
      legacyTombstoneKeys := tombstones.map Prod.fst
      aliasTombstones :=
        ((listed order.aliases files.aliasTombstones.table).filter (·.2.ledgerVersion = ledgerVersion)).foldl
          (fun aliases entry => aliases.insert entry.1 entry.2.entries) ∅
      closeEnvelopes := ∅ }
  let records := (listed order.records files.closeRecords.table).filter (·.2.ledgerVersion = ledgerVersion)
  let index := records.foldl (fun index entry =>
    feedCloseEnvelope index (paneEnvelopeKey entry.2.terminalId) entry.2.envelope) index
  let envelopes := (listed order.envelopes files.closeEnvelopes).filter (·.2.ledgerVersion = ledgerVersion)
  envelopes.foldl (fun index entry => feedCloseEnvelope index entry.1 entry.2) index

def anyEnvelopeFences (index : LedgerIndex Payload) (key : SessionKey) : Bool :=
  index.closeEnvelopes.entries.any fun entry => entry.2.kills.any (·.key = key)

namespace Ledger

/-- A process that starts on the files as they are. -/
def reload (ledger : Ledger Payload) (order : Order) : Ledger Payload :=
  { index := loadIndex order ledger.drive.files, drive := { ledger.drive with dead := false } }

/-- One file operation, and what the index takes of it where it reports success. -/
def operate (ledger : Ledger Payload) (change : Files Payload → Files Payload)
    (mirror : LedgerIndex Payload → LedgerIndex Payload) : Ledger Payload × Bool :=
  let (drive,done) := ledger.drive.act change
  ({ index := if done then mirror ledger.index else ledger.index, drive },done)

def writeBinding (ledger : Ledger Payload) (row : BindingRow) : Ledger Payload × Bool :=
  ledger.operate (fun files => { files with bindings := files.bindings.put row })
    fun index => { index with bindings := index.bindings.put row }

def deleteBinding (ledger : Ledger Payload) (key : SessionKey) : Ledger Payload × Bool :=
  ledger.operate (fun files => { files with bindings := files.bindings.drop key })
    fun index => { index with bindings := index.bindings.drop key }

def writePending (ledger : Ledger Payload) (marker : PendingMarker) : Ledger Payload × Bool :=
  ledger.operate (fun files => { files with pending := files.pending.put marker })
    fun index => { index with pending := index.pending.put marker }

def removePending (ledger : Ledger Payload) (terminalId : String) : Ledger Payload × Bool :=
  ledger.operate (fun files => { files with pending := files.pending.drop terminalId })
    fun index => { index with pending := index.pending.drop terminalId }

def writeAlias (ledger : Ledger Payload) (key : SessionKey) (records : List (String × Int)) : Ledger Payload × Bool :=
  let row : AliasTombstoneRecord :=
    { ledgerVersion := ledgerVersion, provider := key.1, placeholder := key.2,
      records := records.map fun entry => { durable := entry.1, atMs := entry.2 } }
  ledger.operate (fun files => { files with aliasTombstones := files.aliasTombstones.put row })
    fun index => { index with aliasTombstones := index.aliasTombstones.insert key records }

def removeAlias (ledger : Ledger Payload) (key : SessionKey) : Ledger Payload × Bool :=
  ledger.operate (fun files => { files with aliasTombstones := files.aliasTombstones.drop key })
    fun index => { index with aliasTombstones := index.aliasTombstones.erase key }

/-- The file of a record; what the index takes of it is the caller's. -/
def putEnvelope (ledger : Ledger Payload) (key : String) (record : CloseEnvelopeRecord)
    (mirror : LedgerIndex Payload → LedgerIndex Payload) : Ledger Payload × Bool :=
  ledger.operate (fun files => { files with closeEnvelopes := files.closeEnvelopes.insert key record }) mirror

def unlinkEnvelope (ledger : Ledger Payload) (key : String)
    (mirror : LedgerIndex Payload → LedgerIndex Payload) : Ledger Payload × Bool :=
  ledger.operate (fun files => { files with closeEnvelopes := files.closeEnvelopes.erase key }) mirror

def unlinkCloseRecord (ledger : Ledger Payload) (terminalId : String) : Ledger Payload × Bool :=
  ledger.operate (fun files => { files with closeRecords := files.closeRecords.drop terminalId }) id

def unlinkTombstone (ledger : Ledger Payload) (key : SessionKey)
    (mirror : LedgerIndex Payload → LedgerIndex Payload) : Ledger Payload × Bool :=
  ledger.operate (fun files => { files with killTombstones := files.killTombstones.drop key }) mirror

/-- What stands at a record's file; nothing, where it cannot be read. -/
def probeCloseEnvelope (ledger : Ledger Payload) (key : String) : Ledger Payload × Option CloseEnvelopeRecord :=
  let (probed,readable) := ledger.operate id id
  let record := (probed.drive.files.closeEnvelopes.lookup key).filter (·.ledgerVersion = ledgerVersion)
  (probed,if readable then record else none)

def rowPair (ledger : Ledger Payload) (key : SessionKey) : Option OwnerPair :=
  (ledger.index.bindings.lookup key).bind (·.pair)

theorem operate_index (ledger : Ledger Payload) (change : Files Payload → Files Payload)
    (mirror : LedgerIndex Payload → LedgerIndex Payload) :
    ((ledger.operate change mirror).2 = false ∧ (ledger.operate change mirror).1.index = ledger.index) ∨
      ((ledger.operate change mirror).2 = true ∧ (ledger.operate change mirror).1.index = mirror ledger.index) := by
  unfold operate
  cases done : (ledger.drive.act change).2 with
  | false => exact .inl ⟨rfl,by simp [done]⟩
  | true => exact .inr ⟨rfl,by simp [done]⟩

theorem operate_kept {Part : Type} (part : LedgerIndex Payload → Part) (ledger : Ledger Payload)
    (change : Files Payload → Files Payload) {mirror : LedgerIndex Payload → LedgerIndex Payload}
    (kept : part (mirror ledger.index) = part ledger.index) :
    part (ledger.operate change mirror).1.index = part ledger.index := by
  obtain ⟨_,same⟩ | ⟨_,changed⟩ := ledger.operate_index change mirror
  · rw [same]
  · rw [changed,kept]

end Ledger
end Freshell.PaneLedger
