import Freshell.PaneLedger.Index

/-!
The writers of binding rows: what each of them refuses, and the row that it writes.
-/
namespace Freshell.PaneLedger
open Freshell.Library.Tables

variable {Payload : Type}

/-- A write under an older pair than the row's; only where both carry one. -/
def predates (observed row : Option OwnerPair) : Bool :=
  match observed, row with
  | some observed, some row => observed < row
  | _, _ => false

def staleTerminalWrite : LedgerError := .other
  "STALE_BINDING_PAIR: the write's observed ownership pair predates the row's current owner"

def staleFreshAgentWrite : LedgerError := .other
  "STALE_BINDING_PAIR: the row was rebound under a newer ownership generation; the delayed write is refused"

def unfencedOverTerminal : LedgerError := .other
  "UNFENCED_BINDING_OVER_TERMINAL: the row's recovery binding belongs to a live terminal; the unfenced fresh-agent write is refused"

def notNewerOverTerminal : LedgerError := .other
  "NOT_NEWER_BINDING_OVER_TERMINAL: the row's recovery binding belongs to a live terminal; the fresh-agent write must carry a strictly newer ownership pair (or, over an unstamped row, be the handoff runner's authoritative target binding)"

/-- The row that a terminal's identity event writes. -/
def BindingWrite.row (w : BindingWrite) (existing : Option BindingRow) : BindingRow :=
  let attribution := resolveProvenanceMerge existing w.provenance w.nowMs
  { ledgerVersion := ledgerVersion
    provider := w.provider
    sessionId := w.sessionId
    mode := w.mode
    cwd := w.cwd
    liveTerminalId := some w.terminalId
    createRequestId := w.createRequestId
    originCreateRequestId :=
      (w.originCreateRequestId.or w.createRequestId).or (existing.bind (·.originCreateRequestId))
    createdAt := (existing.map (·.createdAt)).getD w.nowMs
    updatedAt := w.nowMs
    lastObservedAt := w.nowMs
    state := .bound
    retiredReason := none
    supersededBy := none
    paneKind := none
    -- The stamp is the write's own, also where it carries none.
    ownerEpoch := w.observedEpoch
    ownerGeneration := w.observedGeneration
    model := none
    sandbox := none
    permissionMode := none
    effort := none
    clientInstanceId := attribution.clientInstanceId
    deviceId := attribution.deviceId
    tabKey := attribution.tabKey
    lastAttributedAt := attribution.lastAttributedAt }

/-- The row that a fresh agent's identity event writes. What it inherits, it has from the
    row that stands, else from the one that it supersedes. -/
def FreshAgentBindingWrite.row (w : FreshAgentBindingWrite) (existing inherited : Option BindingRow) : BindingRow :=
  let attribution := resolveProvenanceMerge inherited w.provenance w.nowMs
  let createRequestId := w.createRequestId.or (existing.bind (·.createRequestId))
  { ledgerVersion := ledgerVersion
    provider := w.provider
    sessionId := w.sessionId
    mode := w.mode
    cwd := w.cwd
    liveTerminalId := none
    createRequestId
    originCreateRequestId := createRequestId
    createdAt := (existing.map (·.createdAt)).getD w.nowMs
    updatedAt := w.nowMs
    lastObservedAt := w.nowMs
    state := .bound
    retiredReason := none
    supersededBy := none
    paneKind := some "fresh-agent"
    -- Each half of the stamp falls back to the row's.
    ownerEpoch := w.observedEpoch.or (existing.bind (·.ownerEpoch))
    ownerGeneration := w.observedGeneration.or (existing.bind (·.ownerGeneration))
    model := w.model
    sandbox := w.sandbox
    permissionMode := w.permissionMode
    effort := w.effort
    clientInstanceId := attribution.clientInstanceId
    deviceId := attribution.deviceId
    tabKey := attribution.tabKey
    lastAttributedAt := attribution.lastAttributedAt }

/-- The row as an attach of another pane leaves it. -/
def ReattachWrite.row (w : ReattachWrite) (existing : BindingRow) : BindingRow :=
  { existing with
    liveTerminalId := some w.terminalId
    createRequestId := some w.createRequestId
    originCreateRequestId := some w.createRequestId
    updatedAt := w.nowMs
    lastObservedAt := w.nowMs }.attributed (resolveProvenanceMerge (some existing) w.provenance w.nowMs)

namespace Ledger

def answer (result : Ledger Payload × Bool) : Ledger Payload × Except LedgerError Unit :=
  (result.1,if result.2 then .ok () else .error .file)

def retireAndLink (ledger : Ledger Payload) (old : BindingRow) (supersededBy : SessionLocator) (nowMs : Int) :
    Ledger Payload × Bool :=
  ledger.writeBinding (old.supersede supersededBy nowMs)

def recordBinding (ledger : Ledger Payload) (order : Order) (w : BindingWrite) :
    Ledger Payload × Except LedgerError Unit :=
  -- Another identity that this terminal holds is superseded, after the new row stands.
  let previous := (listed order.bindings ledger.index.bindings.table).find? fun entry =>
    entry.2.state = .bound ∧ entry.2.liveTerminalId = some w.terminalId ∧
      (entry.2.provider ≠ w.provider ∨ entry.2.sessionId ≠ w.sessionId)
  if predates w.pair (ledger.rowPair w.key) then (ledger,.error staleTerminalWrite)
  else
    match ledger.writeBinding (w.row (ledger.index.bindings.lookup w.key)) with
    | (written,false) => (written,.error .file)
    | (written,true) =>
      match previous with
      | none => (written,.ok ())
      | some (_,old) =>
        answer (written.retireAndLink old { provider := w.provider, sessionId := w.sessionId } w.nowMs)

def notePaneReattach (ledger : Ledger Payload) (w : ReattachWrite) : Ledger Payload × Except LedgerError Bool :=
  match ledger.index.bindings.lookup (w.provider,w.sessionId) with
  | none => (ledger,.ok false)
  | some existing =>
    if existing.state ≠ .bound then (ledger,.ok false)
    else if existing.createRequestId = some w.createRequestId then (ledger,.ok false)
    else
      match ledger.writeBinding (w.row existing) with
      | (written,true) => (written,.ok true)
      | (written,false) => (written,.error .file)

def stampOwnerPair (ledger : Ledger Payload) (provider sessionId : String) (epoch generation : Nat) (nowMs : Int) :
    Ledger Payload × Except LedgerError Unit :=
  match ledger.index.bindings.lookup (provider,sessionId) with
  | none => (ledger,.ok ())
  | some row =>
    if row.pair.any fun pair => toLex (epoch,generation) ≤ pair then (ledger,.ok ())
    else
      answer (ledger.writeBinding
        { row with ownerEpoch := some epoch, ownerGeneration := some generation, updatedAt := nowMs })

/-- Drops a fence that is dead: its legacy file and what the index has of it. The entries of
    records stay, and feed it again at the next load. -/
def clearKillFence (ledger : Ledger Payload) (key : SessionKey) : Ledger Payload × Bool :=
  ledger.unlinkTombstone key fun index =>
    { index with
      killTombstones := index.killTombstones.erase key
      legacyTombstoneKeys := index.legacyTombstoneKeys.filter (· ≠ key) }

/-- The close fence of the identity speaks first. It answers for the write, or lets it go on. -/
def consultKillFence (ledger : Ledger Payload) (w : FreshAgentBindingWrite) :
    Ledger Payload × Option (Except LedgerError Unit) :=
  match ledger.index.killTombstones.lookup w.key with
  | none => (ledger,none)
  | some tombstone =>
    if tombstoneScopeSparesNewer tombstone.scope w.pair then (ledger,none)
    else
      let row := ledger.index.bindings.lookup w.key
      match classifyKillTombstone tombstone.atMs (row.map (·.view)) w.nowMs with
      | .dominant | .fresh =>
        match row with
        | none => (ledger,some (.ok ()))
        | some remnant =>
          if remnant.state = .bound then
            let (retired,result) := answer (ledger.writeBinding (remnant.retire .closed w.nowMs))
            (retired,some result)
          else (ledger,some (.ok ()))
      | .expired | .claimResidue => ((ledger.clearKillFence w.key).1,none)

/-- Whether a write may take the row of a live terminal over. -/
def overTerminalAccepted (w : FreshAgentBindingWrite) (row : BindingRow) : Bool :=
  match w.pair, row.pair with
  | some _, none => w.authoritative
  | some observed, some pair => pair < observed
  | none, _ => false

def recordFreshAgentBinding (ledger : Ledger Payload) (w : FreshAgentBindingWrite) :
    Ledger Payload × Except LedgerError Unit :=
  match ledger.consultKillFence w with
  | (fenced,some result) => (fenced,result)
  | (ledger,none) =>
    let existing := ledger.index.bindings.lookup w.key
    if predates w.pair (existing.bind (·.pair)) then (ledger,.error staleFreshAgentWrite)
    else if existing.any fun row =>
        row.state = .bound && row.liveTerminalId.isSome && !overTerminalAccepted w row then
      (ledger,.error (if w.pair = none then unfencedOverTerminal else notNewerOverTerminal))
    else
      let parent := (w.supersedes.filter (· ≠ w.sessionId)).bind fun old =>
        ledger.index.bindings.lookup (w.provider,old)
      match ledger.writeBinding (w.row existing (existing.or parent)) with
      | (written,false) => (written,.error .file)
      | (written,true) =>
        -- The superseded row is read anew, after the write.
        match (w.supersedes.filter (· ≠ w.sessionId)).bind fun old =>
          written.index.bindings.lookup (w.provider,old) with
        | none => (written,.ok ())
        | some old =>
          answer (written.retireAndLink old { provider := w.provider, sessionId := w.sessionId } w.nowMs)

def retireMissing (ledger : Ledger Payload) (provider sessionId : String) (nowMs : Int) : Ledger Payload × Bool :=
  match ledger.index.bindings.lookup (provider,sessionId) with
  | none => (ledger,false)
  | some row =>
    if row.state ≠ .bound then (ledger,false) else ledger.writeBinding (row.retire .sessionMissing nowMs)

def recordPending (ledger : Ledger Payload) (terminalId mode : String) (cwd createRequestId : Option String)
    (provenance : ProvenanceStamps) (nowMs : Int) : Ledger Payload × Except LedgerError Unit :=
  answer (ledger.writePending
    { ledgerVersion := ledgerVersion, terminalId, mode, cwd, spawnedAt := nowMs, assertedAt := provenance.assertedAt,
      clientInstanceId := provenance.clientInstanceId, deviceId := provenance.deviceId, tabKey := provenance.tabKey,
      createRequestId })

def recordRollbackRow (ledger : Ledger Payload) (provider sessionId : String) (payload : Payload) :
    Ledger Payload × Except LedgerError Unit :=
  answer (ledger.operate (fun files => { files with rollback := files.rollback.insert (provider,sessionId) payload })
    fun index => { index with rollback := index.rollback.insert (provider,sessionId) payload })

def deleteRollbackRow (ledger : Ledger Payload) (provider sessionId : String) :
    Ledger Payload × Except LedgerError Unit :=
  answer (ledger.operate (fun files => { files with rollback := files.rollback.erase (provider,sessionId) })
    fun index => { index with rollback := index.rollback.erase (provider,sessionId) })

/-- Enters or refreshes what a placeholder answers to. -/
def recordAliasTombstone (ledger : Ledger Payload) (provider placeholder durable : String) (atMs : Int) :
    Ledger Payload × Except LedgerError Unit :=
  let records := (ledger.index.aliasTombstones.lookup (provider,placeholder)).getD []
  let records :=
    if records.any (·.1 = durable) then modifyFirst (·.1 = durable) (fun entry => (entry.1,atMs)) records
    else records ++ [(durable,atMs)]
  answer (ledger.writeAlias (provider,placeholder) records)

end Ledger
end Freshell.PaneLedger
