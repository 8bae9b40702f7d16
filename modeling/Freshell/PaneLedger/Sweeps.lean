import Freshell.PaneLedger.Closes

/-!
The sweeps: what a boot scan does under one lock, and what the periodic pass does to one
entry at a time, with other calls between. What they report is left out.
-/
namespace Freshell.PaneLedger
open Freshell.Library.Tables Freshell.Library.Drives

variable {Payload : Type}

/-- What the retained snapshots of the tabs still refer to. -/
structure RetainedSnapshotReferences where
  createRequestIds : List String := []
  terminalIds : List String := []
  claims : List SessionKey := []
  sessionKeys : List SessionKey := []

/-- References that could not be read keep every record. -/
def CloseEnvelopeRecord.referenced (record : CloseEnvelopeRecord) (refs : Option RetainedSnapshotReferences) : Bool :=
  match refs with
  | none => true
  | some refs =>
    record.terminalId.any (· ∈ refs.terminalIds) || record.createRequestId.any (· ∈ refs.createRequestIds) ||
      (record.panes.any fun linkage =>
        (linkage.createRequestId ≠ "" && linkage.createRequestId ∈ refs.createRequestIds) ||
          linkage.terminalId.any (· ∈ refs.terminalIds)) ||
      (record.kills.any fun kill => kill.key ∈ refs.claims) ||
      record.kills.any fun kill => kill.key ∈ refs.sessionKeys

def CloseEnvelopeRecord.newest (record : CloseEnvelopeRecord) : Int :=
  record.kills.foldl (fun newest kill => max newest kill.atMs) record.closedAt

/-- Whether some row is covered by what the record carries of its panes. -/
def LedgerIndex.rowCovered (index : LedgerIndex Payload) (key : String) (record : CloseEnvelopeRecord) : Bool :=
  let linkages := detachLinkages record
  let detachTerminalIds := if isDetachCloseKey key then linkages.filterMap (·.terminalId) else []
  index.bindings.values.any fun row =>
    closeRecordCoversRow row (fun crid => linkages.any (·.createRequestId = crid)) (· ∈ detachTerminalIds)

/-- A fence of the record that still dominates a bound row. -/
def LedgerIndex.stillDominant (index : LedgerIndex Payload) (record : CloseEnvelopeRecord) (nowMs : Int) : Bool :=
  record.kills.any fun kill =>
    let stamp := ((index.killTombstones.lookup kill.key).map (·.atMs)).getD kill.atMs
    classifyKillTombstone stamp ((index.bindings.lookup kill.key).map (·.view)) nowMs = .dominant

namespace Ledger

def gcMarker (ledger : Ledger Payload) (terminalId : String) (nowMs : Int) (liveTerminalIds : Option (List String)) :
    Ledger Payload :=
  match ledger.index.pending.lookup terminalId with
  | none => ledger
  | some marker =>
    let agedOut := nowMs - marker.spawnedAt > pendingMarkerTtlMs
    let orphaned := liveTerminalIds.any fun live =>
      terminalId ∉ live ∧ nowMs - marker.spawnedAt > pendingMarkerOrphanTtlMs
    if agedOut ∨ orphaned then (ledger.removePending terminalId).1 else ledger

def gcRow (ledger : Ledger Payload) (key : SessionKey) (nowMs : Int) (transcriptAbsent : SessionKey → Bool) :
    Ledger Payload :=
  match ledger.index.bindings.lookup key with
  | none => ledger
  | some row =>
    match row.state with
    | .bound =>
      -- The scope of the fence is not looked at.
      if (ledger.index.killTombstones.lookup key).any fun entry =>
          classifyKillTombstone entry.atMs (some row.view) nowMs = .dominant then
        (ledger.writeBinding (row.retire .closed nowMs)).1
      else if nowMs - row.lastObservedAt > boundGcTtlMs then (ledger.writeBinding (row.retire .gcExpired nowMs)).1
      else ledger
    | .retired =>
      if nowMs - row.updatedAt > tombstoneGcTtlMs ∧ transcriptAbsent key then
        -- A file that is missing is an error here, and the row stays.
        if (ledger.drive.files.bindings.lookup key).isNone then ledger else (ledger.deleteBinding key).1
      else ledger

def gcKillTombstone (ledger : Ledger Payload) (key : SessionKey) (nowMs : Int) : Ledger Payload :=
  match ledger.index.killTombstones.lookup key with
  | none => ledger
  | some entry =>
    -- A fence that a record feeds goes with its record.
    if anyEnvelopeFences ledger.index key then ledger
    else
      match classifyKillTombstone entry.atMs ((ledger.index.bindings.lookup key).map (·.view)) nowMs with
      | .expired | .claimResidue => (ledger.clearKillFence key).1
      | .dominant | .fresh => ledger

def gcAliasTombstone (ledger : Ledger Payload) (key : SessionKey) (nowMs : Int) : Ledger Payload :=
  match ledger.index.aliasTombstones.lookup key with
  | none => ledger
  | some records =>
    let kept := records.filter fun entry =>
      (ledger.index.bindings.lookup (key.1,entry.1)).any (·.state = .bound) || nowMs - entry.2 < aliasTombstoneTtlMs
    if kept.length = records.length then ledger
    else if kept = [] then (ledger.removeAlias key).1
    else (ledger.writeAlias key kept).1

/-- Fences that no record and no legacy file carries any more. -/
def unfeed (index : LedgerIndex Payload) (kill : PaneCloseKill) : LedgerIndex Payload :=
  if kill.key ∈ index.legacyTombstoneKeys then index
  else if anyEnvelopeFences index kill.key then index
  else { index with killTombstones := index.killTombstones.erase kill.key }

def unlinkRecord (ledger : Ledger Payload) (key : String) (terminalId : Option String) : Ledger Payload × Bool :=
  let (unlinked,gone) := ledger.unlinkEnvelope key id
  match terminalId with
  | none => (unlinked,gone)
  | some terminalId =>
    let (unlinked,legacyGone) := unlinked.unlinkCloseRecord terminalId
    (unlinked,gone && legacyGone)

def gcPaneClose (ledger : Ledger Payload) (key : String) (nowMs : Int)
    (snapshotRefs : Option RetainedSnapshotReferences) : Ledger Payload :=
  match ledger.index.closeEnvelopes.lookup key with
  | none => ledger
  | some record =>
    if nowMs - record.newest < killTombstoneTtlMs then ledger
    else if record.referenced snapshotRefs then ledger
    else if ledger.index.rowCovered key record then ledger
    else if ledger.index.stillDominant record nowMs then ledger
    else
      match ledger.unlinkRecord key record.terminalId with
      | (unlinked,true) =>
        let index := { unlinked.index with closeEnvelopes := unlinked.index.closeEnvelopes.erase key }
        { unlinked with index := record.kills.foldl unfeed index }
      | (unlinked,false) => unlinked

def quarantine (ledger : Ledger Payload) (order : Order) : Ledger Payload :=
  let files := ledger.drive.files
  let stale {Key Value : Type} (entries : List (Key × Value)) (version : Value → Nat) : List Key :=
    (entries.filter fun entry => version entry.2 ≠ ledgerVersion).map Prod.fst
  let aside {Key : Type} (change : Key → Files Payload → Files Payload) (drive : Drive (Files Payload))
      (keys : List Key) : Drive (Files Payload) :=
    keys.foldl (fun drive key => (drive.act (change key)).1) drive
  let drive := aside (fun key files => { files with bindings := files.bindings.drop key }) ledger.drive
    (stale (listed order.bindings files.bindings.table) (·.ledgerVersion))
  let drive := aside (fun key files => { files with pending := files.pending.drop key }) drive
    (stale (listed order.pending files.pending.table) (·.ledgerVersion))
  let drive := aside (fun key files => { files with killTombstones := files.killTombstones.drop key }) drive
    (stale (listed order.fences files.killTombstones.table) (·.ledgerVersion))
  let drive := aside (fun key files => { files with aliasTombstones := files.aliasTombstones.drop key }) drive
    (stale (listed order.aliases files.aliasTombstones.table) (·.ledgerVersion))
  let drive := aside (fun key files => { files with closeRecords := files.closeRecords.drop key }) drive
    (stale (listed order.records files.closeRecords.table) (·.ledgerVersion))
  let drive := aside (fun key files => { files with closeEnvelopes := files.closeEnvelopes.erase key }) drive
    (stale (listed order.envelopes files.closeEnvelopes) (·.ledgerVersion))
  { ledger with drive }

/-- A marker whose terminal has a row, or that is old. -/
def sweepStaleMarker (nowMs : Int) (ledger : Ledger Payload) (marker : PendingMarker) : Ledger Payload :=
  let covered := ledger.index.bindings.values.any (·.liveTerminalId = some marker.terminalId)
  if covered ∨ nowMs - marker.spawnedAt > pendingMarkerTtlMs then (ledger.removePending marker.terminalId).1 else ledger

def boundRows (ledger : Ledger Payload) (order : Order) (terminalId : String) : List BindingRow :=
  (((listed order.bindings ledger.index.bindings.table).map Prod.snd).filter fun row =>
    row.state = .bound ∧ row.liveTerminalId = some terminalId).mergeSort fun first second =>
      decide (second.updatedAt ≤ first.updatedAt)

/-- Of two bound rows on one terminal the newer wins. The rows are those that stood when
    the repair began. -/
def repairSupersession (nowMs : Int) (ledger : Ledger Payload) (rows : List BindingRow) : Ledger Payload :=
  match rows with
  | [] => ledger
  | winner :: losers =>
    losers.foldl (fun ledger loser => (ledger.retireAndLink loser winner.locator nowMs).1) ledger

def gcLocked (ledger : Ledger Payload) (order : Order) (nowMs : Int) (transcriptAbsent : SessionKey → Bool)
    (snapshotRefs : Option RetainedSnapshotReferences) : Ledger Payload :=
  let ledger := (arranged order.pending ledger.index.pending.table).foldl
    (fun ledger terminalId => ledger.gcMarker terminalId nowMs none) ledger
  let ledger := (arranged order.bindings ledger.index.bindings.table).foldl
    (fun ledger key => ledger.gcRow key nowMs transcriptAbsent) ledger
  let ledger := (arranged order.fences ledger.index.killTombstones).foldl
    (fun ledger key => ledger.gcKillTombstone key nowMs) ledger
  let ledger := (arranged order.aliases ledger.index.aliasTombstones).foldl
    (fun ledger key => ledger.gcAliasTombstone key nowMs) ledger
  (arranged order.envelopes ledger.index.closeEnvelopes).foldl
    (fun ledger key => ledger.gcPaneClose key nowMs snapshotRefs) ledger

def bootScan (ledger : Ledger Payload) (order : Order) (nowMs : Int) (transcriptAbsent : SessionKey → Bool)
    (snapshotRefs : Option RetainedSnapshotReferences) : Ledger Payload :=
  let ledger := ledger.quarantine order
  let ledger := ((listed order.pending ledger.index.pending.table).map Prod.snd).foldl (sweepStaleMarker nowMs) ledger
  let terminals := ((listed order.bindings ledger.index.bindings.table).filterMap (·.2.liveTerminalId)).dedup
  let ledger := (terminals.map (ledger.boundRows order)).foldl (repairSupersession nowMs) ledger
  ledger.gcLocked order nowMs transcriptAbsent snapshotRefs

end Ledger
end Freshell.PaneLedger
