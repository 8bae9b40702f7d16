import Freshell.PaneLedger.Writes

/-!
Closes, and what undoes them. A close is one record in one file, which names the identities
that it fences; that their rows are retired is done afterwards and may fail. A claim that
commits takes an identity out of every record.
-/
namespace Freshell.PaneLedger
open Freshell.Library.Tables

variable {Payload : Type}

/-- One more identity, or a new stamp for one that is in. -/
def stampKill (nowMs : Int) (scope : Option OwnerPair) (kills : List PaneCloseKill) (key : SessionKey) :
    List PaneCloseKill :=
  if kills.any (·.key = key) then
    modifyFirst (·.key = key) (fun kill => { kill with atMs := nowMs, scope }) kills
  else kills ++ [{ provider := key.1, sessionId := key.2, atMs := nowMs, scope }]

def mergeLinkage (panes : List PaneCloseLinkage) (linkage : PaneCloseLinkage) : List PaneCloseLinkage :=
  if panes.any (·.createRequestId = linkage.createRequestId) then
    modifyFirst (·.createRequestId = linkage.createRequestId)
      (fun pane => { pane with terminalId := linkage.terminalId.or pane.terminalId }) panes
  else panes ++ [linkage]

structure CloseSet where
  identities : List SessionKey := []
  terminalId : Option String := none
  createRequestId : Option String := none
  panes : List PaneCloseLinkage := []
  /-- Of a repair only: the pair of the rows that it retires. -/
  orphanFilter : Option OwnerPair := none
  killScope : Option OwnerPair := none

/-- The record at a key with a close merged into it. -/
def CloseSet.record (close : CloseSet) (prior : Option CloseEnvelopeRecord) (nowMs : Int) : CloseEnvelopeRecord :=
  let record := prior.getD
    { ledgerVersion := ledgerVersion, terminalId := close.terminalId, createRequestId := close.createRequestId,
      closedAt := nowMs, kills := [], panes := [] }
  { record with
    createRequestId := record.createRequestId.or close.createRequestId
    kills := close.identities.foldl (stampKill nowMs close.killScope) record.kills
    panes := close.panes.foldl mergeLinkage record.panes }

def recordCovers (probed intended : CloseEnvelopeRecord) : Bool :=
  probed.terminalId = intended.terminalId &&
    (intended.kills.all fun kill => probed.kills.any (·.key = kill.key)) &&
    intended.panes.all fun linkage => probed.panes.any (·.createRequestId = linkage.createRequestId)

/-- A record without one identity; nothing, where it was a fresh agent's and this its last. -/
def CloseEnvelopeRecord.without (record : CloseEnvelopeRecord) (key : SessionKey) : Option CloseEnvelopeRecord :=
  let kept := record.kills.filter (·.key ≠ key)
  if kept = [] ∧ record.terminalId = none then none else some { record with kills := kept }

/-- A detach record without one pane; nothing, where this was its last. -/
def CloseEnvelopeRecord.withoutPane (record : CloseEnvelopeRecord) (createRequestId : String) :
    Option CloseEnvelopeRecord :=
  let record := { record with panes := record.panes.filter (·.createRequestId ≠ createRequestId) }
  let record :=
    if record.createRequestId = some createRequestId then { record with createRequestId := none, terminalId := none }
    else record
  if record.createRequestId = none ∧ record.panes = [] ∧ record.kills = [] then none else some record

namespace Ledger

def feed (ledger : Ledger Payload) (key : String) (record : CloseEnvelopeRecord) : Ledger Payload :=
  { ledger with index := feedCloseEnvelope ledger.index key record }

/-- After a write that failed: whether the close is durable all the same is read off the disk. -/
def probeOutcome (ledger : Ledger Payload) (key : String) (intended : CloseEnvelopeRecord) :
    Ledger Payload × Except CloseEnvelopeError Unit :=
  match ledger.probeCloseEnvelope key with
  | (probed,some standing) =>
    if recordCovers standing intended then (probed.feed key standing,.error .persisted)
    else (probed,.error .clean)
  | (probed,none) => (probed,.error .clean)

def persistCloseEnvelope (ledger : Ledger Payload) (key : String) (record : CloseEnvelopeRecord) (hadPrior : Bool) :
    Ledger Payload × Except CloseEnvelopeError Unit :=
  match ledger.putEnvelope key record fun index => feedCloseEnvelope index key record with
  | (written,true) => (written,.ok ())
  | (failed,false) =>
    if hadPrior then failed.probeOutcome key record
    else
      match failed.unlinkEnvelope key id with
      | (rolledBack,true) => (rolledBack,.error .clean)
      | (left,false) => left.probeOutcome key record

/-- Retires the row of one closed identity, where it is bound and the close is about it. -/
def projectRowFlip (nowMs : Int) (orphanFilter : Option OwnerPair) (ledger : Ledger Payload) (key : SessionKey) :
    Ledger Payload :=
  match ledger.index.bindings.lookup key with
  | none => ledger
  | some row =>
    if row.state ≠ .bound then ledger
    else
      match orphanFilter with
      | none => (ledger.writeBinding (row.retire .closed nowMs)).1
      | some pair =>
        if row.paneKind = some "fresh-agent" ∧ row.pair = some pair then
          (ledger.writeBinding (row.retire .failedTransition nowMs)).1
        else ledger

def closeEnvelope (ledger : Ledger Payload) (key : String) (close : CloseSet) (nowMs : Int) :
    Ledger Payload × Except CloseEnvelopeError Unit :=
  let prior := ledger.index.closeEnvelopes.lookup key
  match ledger.persistCloseEnvelope key (close.record prior nowMs) prior.isSome with
  | (failed,.error .clean) => (failed,.error .clean)
  | (closed,outcome) => (close.identities.foldl (projectRowFlip nowMs close.orphanFilter) closed,outcome)

def removeAllPending (ledger : Ledger Payload) (terminalIds : List String) : Ledger Payload :=
  terminalIds.foldl (fun ledger terminalId => (ledger.removePending terminalId).1) ledger

def closeIdentities (ledger : Ledger Payload) (provider : String) (sessionIds pendingIds : List String) (nowMs : Int) :
    Ledger Payload × Except CloseEnvelopeError Unit :=
  let identities := (sessionIds.map fun sessionId => (provider,sessionId)).foldl
    (fun keys key => if key ∈ keys then keys else keys ++ [key]) []
  match identities with
  | [] => (ledger.removeAllPending pendingIds,.ok ())
  | (_,firstId) :: _ =>
    match ledger.closeEnvelope (agentEnvelopeKey provider firstId) { identities } nowMs with
    | (closed,.ok ()) => (closed.removeAllPending pendingIds,.ok ())
    | (failed,.error error) => (failed,.error error)

def retireClosed (ledger : Ledger Payload) (provider sessionId : String) (nowMs : Int) :
    Ledger Payload × Except CloseEnvelopeError Unit :=
  ledger.closeIdentities provider [sessionId] [] nowMs

/-- The cleanup after a handoff that failed: a fence up to the transition's pair, and the
    retirement of the row that the transition itself wrote. -/
def repairFailedTransitionBinding (ledger : Ledger Payload) (provider sessionId : String) (epoch generation : Nat)
    (nowMs : Int) : Ledger Payload × Except CloseEnvelopeError Unit :=
  let pair : OwnerPair := toLex (epoch,generation)
  ledger.closeEnvelope (agentEnvelopeKey provider sessionId)
    { identities := [(provider,sessionId)], orphanFilter := some pair, killScope := some pair } nowMs

/-- What the kill names, and every row of the pane. -/
def paneIdentities (ledger : Ledger Payload) (order : Order) (w : PaneCloseWrite) : List SessionKey :=
  let owned := (listed order.bindings ledger.index.bindings.table).filter
    (·.2.liveTerminalId = some w.terminalId)
  owned.foldl (fun keys entry => if entry.2.key ∈ keys then keys else keys ++ [entry.2.key])
    (w.resolved.map fun locator => (locator.provider,locator.sessionId))

def closePane (ledger : Ledger Payload) (order : Order) (w : PaneCloseWrite) :
    Ledger Payload × Except CloseEnvelopeError Unit :=
  match ledger.closeEnvelope (paneEnvelopeKey w.terminalId)
      { identities := ledger.paneIdentities order w, terminalId := some w.terminalId,
        createRequestId := w.createRequestId } w.nowMs with
  | (closed,.ok ()) => ((closed.removePending w.terminalId).1,.ok ())
  | (failed,.error error) => (failed,.error error)

def closePaneDetached (ledger : Ledger Payload) (createRequestId : String) (terminalId : Option String)
    (nowMs : Int) : Ledger Payload × Except CloseEnvelopeError Unit :=
  ledger.closeEnvelope (paneDetachEnvelopeKey createRequestId)
    { terminalId, createRequestId := some createRequestId } nowMs

def closePanesDetached (ledger : Ledger Payload) (tabId : String) (panes : List PaneCloseLinkage) (nowMs : Int) :
    Ledger Payload × Except CloseEnvelopeError Unit :=
  ledger.closeEnvelope (paneDetachBatchEnvelopeKey tabId) { panes } nowMs

/-- The write as the marker of its terminal makes it. -/
def effectiveWrite (marker : Option PendingMarker) (w : BindingWrite) : BindingWrite :=
  let origin := marker.bind (·.createRequestId)
  let stamped (provenance : ProvenancePolicy) : BindingWrite :=
    { w with
      provenance, originCreateRequestId := origin.or w.originCreateRequestId, observedEpoch := none,
      observedGeneration := none }
  let kept :=
    if origin.isSome ∧ w.originCreateRequestId = none then
      { w with originCreateRequestId := origin, observedEpoch := none, observedGeneration := none }
    else w
  match w.provenance, marker with
  | .inherit, some marker =>
    if marker.clientInstanceId.isSome ∨ marker.deviceId.isSome ∨ marker.tabKey.isSome then
      stamped (.replace
        { clientInstanceId := marker.clientInstanceId, deviceId := marker.deviceId, tabKey := marker.tabKey,
          assertedAt := if marker.assertedAt > 0 then marker.assertedAt else marker.spawnedAt })
    else stamped .clear
  | _, _ => kept

/-- The record of a closed pane learns the identity that resolved for it. -/
def learnKill (record : CloseEnvelopeRecord) (w : BindingWrite) : CloseEnvelopeRecord :=
  if record.kills.any (·.key = w.key) then record
  else
    { record with
      kills := record.kills ++
        [{ provider := w.provider, sessionId := w.sessionId, atMs := w.nowMs, scope := none }] }

/-- The row of a closed pane, written and retired at once. -/
def retireResolved (ledger : Ledger Payload) (w : BindingWrite) : Ledger Payload × Bool :=
  match ledger.index.bindings.lookup w.key with
  | none => (ledger,true)
  | some row => if row.state = .bound then ledger.writeBinding (row.retire .closed w.nowMs) else (ledger,true)

def resolvePending (ledger : Ledger Payload) (order : Order) (given : BindingWrite) :
    Ledger Payload × Except LedgerError Unit :=
  let w := effectiveWrite (ledger.index.pending.lookup given.terminalId) given
  match ledger.index.closeEnvelopes.lookup (paneEnvelopeKey w.terminalId) with
  | none =>
    match ledger.recordBinding order w with
    | (failed,.error error) => (failed,.error error)
    | (written,.ok ()) => ((written.removePending w.terminalId).1,.ok ())
  | some close =>
    match ledger.persistCloseEnvelope (paneEnvelopeKey w.terminalId) (learnKill close w) true with
    | (failed,.error .clean) => (failed,.error .file)
    | (folded,_) =>
      match folded.recordBinding order w with
      | (failed,.error error) => (failed,.error error)
      | (written,.ok ()) =>
        match written.retireResolved w with
        | (failed,false) => (failed,.error .file)
        | (retired,true) => ((retired.removePending w.terminalId).1,.ok ())

/-- The record's file without it, or no file any more; the index follows. -/
def replaceEnvelope (ledger : Ledger Payload) (key : String) (record : Option CloseEnvelopeRecord) :
    Ledger Payload × Bool :=
  match record with
  | none =>
    ledger.unlinkEnvelope key fun index => { index with closeEnvelopes := index.closeEnvelopes.erase key }
  | some record =>
    ledger.putEnvelope key record fun index => { index with closeEnvelopes := index.closeEnvelopes.insert key record }

/-- Takes the identity out of one record, or the record away with its last identity. -/
def consumeRecord (key : SessionKey) (state : Ledger Payload × Bool) (envelopeKey : String) : Ledger Payload × Bool :=
  match state.1.index.closeEnvelopes.lookup envelopeKey with
  | none => state
  | some record =>
    let (after,done) := state.1.replaceEnvelope envelopeKey (record.without key)
    (after,state.2 && done)

/-- The fence of an identity as the records that stand would feed it. -/
def recomputedFence (order : Order) (index : LedgerIndex Payload) (key : SessionKey) : Option KillTombstoneEntry :=
  let kills := (listed order.envelopes index.closeEnvelopes).flatMap fun entry =>
    entry.2.kills.filter (·.key = key)
  kills.foldl (fun fence kill => some ((fence.getD default).fold kill)) none

/-- Takes an identity out of its legacy file and out of every record that carries it. -/
def consumeKillFence (ledger : Ledger Payload) (order : Order) (key : SessionKey) : Ledger Payload × Bool :=
  let (unlinked,gone) := ledger.unlinkTombstone key fun index =>
    { index with legacyTombstoneKeys := index.legacyTombstoneKeys.filter (· ≠ key) }
  let affected := (listed order.envelopes unlinked.index.closeEnvelopes).filter fun entry =>
    entry.2.kills.any (·.key = key)
  let (consumed,clean) := (affected.map Prod.fst).foldl (consumeRecord key) (unlinked,gone)
  let fences :=
    match recomputedFence order consumed.index key with
    | some entry => consumed.index.killTombstones.insert key entry
    -- A legacy file that outlived its removal keeps its stamp.
    | none => if gone then consumed.index.killTombstones.erase key else consumed.index.killTombstones
  ({ consumed with index := { consumed.index with killTombstones := fences } },clean)

def clearKillTombstone (ledger : Ledger Payload) (order : Order) (provider sessionId : String) :
    Ledger Payload × Except LedgerError Unit :=
  answer (ledger.consumeKillFence order (provider,sessionId))

/-- A close landed since the claim took its snapshot. -/
def deadStateAdvanced (current expected : Option Int) : Bool :=
  match current, expected with
  | some current, some expected => expected < current
  | some _, none => true
  | none, _ => false

/-- The row of a claimed identity: a closed one comes back, a bound one is seen again. -/
def reviveRow (ledger : Ledger Payload) (key : SessionKey) (nowMs : Int) : Ledger Payload × Bool :=
  match ledger.index.bindings.lookup key with
  | none => (ledger,true)
  | some row =>
    if row.state = .retired ∧ row.retiredReason = some .closed then
      ledger.writeBinding
        { row with state := .bound, retiredReason := none, updatedAt := nowMs, lastObservedAt := nowMs }
    else if row.state = .bound then
      ledger.writeBinding { row with updatedAt := nowMs, lastObservedAt := nowMs }
    else (ledger,true)

def commitClaimAliased (ledger : Ledger Payload) (order : Order) (provider sessionId : String)
    (expectKilledAtMs : Option Int) (fenceCheckedAliases : List String) (nowMs : Int) :
    Ledger Payload × Except LedgerError ClaimCommitOutcome :=
  let key := (provider,sessionId)
  let current := (ledger.index.killTombstones.lookup key).map (·.atMs)
  if fenceCheckedAliases.any fun alias_ => (ledger.index.killTombstones.lookup (provider,alias_)).isSome then
    (ledger,.ok .refusedStale)
  else if deadStateAdvanced current expectKilledAtMs then (ledger,.ok .refusedStale)
  else if current.isSome then
    match ledger.reviveRow key nowMs with
    | (failed,false) => (failed,.error .file)
    -- A fence that could not be consumed everywhere does not undo the claim.
    | (revived,true) => ((revived.consumeKillFence order key).1,.ok .committed)
  else (ledger,.ok .committed)

def commitClaim (ledger : Ledger Payload) (order : Order) (provider sessionId : String)
    (expectKilledAtMs : Option Int) (nowMs : Int) : Ledger Payload × Except LedgerError ClaimCommitOutcome :=
  ledger.commitClaimAliased order provider sessionId expectKilledAtMs [] nowMs

/-- Takes one durable id from the records of one placeholder, and enters the placeholder
    among those that are cleared. -/
def consumeAlias (durable : String) (state : Ledger Payload × Bool × List String) (key : SessionKey) :
    Ledger Payload × Bool × List String :=
  match state.1.index.aliasTombstones.lookup key with
  | none => state
  | some records =>
    let kept := records.filter (·.1 ≠ durable)
    let (after,done) := if kept = [] then state.1.removeAlias key else state.1.writeAlias key kept
    (after,state.2.1 && done,if done then state.2.2 ++ [key.2] else state.2.2)

/-- The placeholders that no longer answer to the durable id, in order. -/
def clearAliasTombstonesForDurable (ledger : Ledger Payload) (order : Order) (provider durable : String) :
    Ledger Payload × Except LedgerError (List String) :=
  let pointing := (listed order.aliases ledger.index.aliasTombstones).filter fun entry =>
    entry.1.1 = provider ∧ entry.2.any (·.1 = durable)
  let (after,clean,cleared) := (pointing.map Prod.fst).foldl (consumeAlias durable) (ledger,true,[])
  (after,if clean then .ok (cleared.mergeSort (· ≤ ·)) else .error .file)

/-- Takes a pane out of one detach record, or the record away with its last pane. -/
def consumeLinkage (createRequestId : String) (state : Ledger Payload × Bool) (key : String) : Ledger Payload × Bool :=
  match state.1.index.closeEnvelopes.lookup key with
  | none => state
  | some record =>
    let (after,done) := state.1.replaceEnvelope key (record.withoutPane createRequestId)
    (after,state.2 && done)

/-- The attribution of one row of an opened pane; a row that would not change is not written. -/
def reassertRow (provenance : ProvenancePolicy) (nowMs : Int) (state : Ledger Payload × Bool) (key : SessionKey) :
    Ledger Payload × Bool :=
  match state.1.index.bindings.lookup key with
  | none => state
  | some row =>
    let attribution := resolveProvenanceMerge (some row) provenance nowMs
    if attribution = row.attribution then state
    else
      let (after,done) := state.1.writeBinding (row.attributed attribution)
      (after,state.2 && done)

def notePaneOpened (ledger : Ledger Payload) (order : Order) (createRequestId : String)
    (provenance : ProvenancePolicy) (nowMs : Int) : Ledger Payload × Except LedgerError Unit :=
  let carrying := (listed order.envelopes ledger.index.closeEnvelopes).filter fun entry =>
    isDetachCloseKey entry.1 && (detachLinkages entry.2).any (·.createRequestId = createRequestId)
  let consumed := (carrying.map Prod.fst).foldl (consumeLinkage createRequestId) (ledger,true)
  let touched := (listed order.bindings consumed.1.index.bindings.table).filter fun entry =>
    entry.2.state = .bound && (entry.2.createRequestId = some createRequestId ||
      entry.2.originCreateRequestId = some createRequestId)
  answer ((touched.map fun entry => entry.2.key).foldl (reassertRow provenance nowMs) consumed)

end Ledger
end Freshell.PaneLedger
