import Freshell.PaneLedger.Sweeps
import Freshell.Library.Runs

/-!
The calls that a process makes on its ledger, one after another, each with what the file
system does to it.
-/
namespace Freshell.PaneLedger
open Freshell.Library.Drives

variable {Payload : Type}

inductive LedgerOp (Payload : Type) where
  | recordBinding (order : Order) (w : BindingWrite)
  | notePaneReattach (w : ReattachWrite)
  | stampOwnerPair (provider sessionId : String) (epoch generation : Nat) (nowMs : Int)
  | recordFreshAgentBinding (w : FreshAgentBindingWrite)
  | retireMissing (provider sessionId : String) (nowMs : Int)
  | deleteBinding (provider sessionId : String)
  | recordPending (terminalId mode : String) (cwd createRequestId : Option String) (provenance : ProvenanceStamps)
      (nowMs : Int)
  | resolvePending (order : Order) (w : BindingWrite)
  | deletePending (terminalId : String)
  | recordRollbackRow (provider sessionId : String) (payload : Payload)
  | deleteRollbackRow (provider sessionId : String)
  | recordAliasTombstone (provider placeholder durable : String) (atMs : Int)
  | clearAliasTombstones (order : Order) (provider durable : String)
  | closeIdentities (provider : String) (sessionIds pendingIds : List String) (nowMs : Int)
  | repairFailedTransition (provider sessionId : String) (epoch generation : Nat) (nowMs : Int)
  | closePane (order : Order) (w : PaneCloseWrite)
  | closePaneDetached (createRequestId : String) (terminalId : Option String) (nowMs : Int)
  | closePanesDetached (tabId : String) (panes : List PaneCloseLinkage) (nowMs : Int)
  | commitClaim (order : Order) (provider sessionId : String) (expectKilledAtMs : Option Int)
      (fenceCheckedAliases : List String) (nowMs : Int)
  | clearKillTombstone (order : Order) (provider sessionId : String)
  | notePaneOpened (order : Order) (createRequestId : String) (provenance : ProvenancePolicy) (nowMs : Int)
  | gcMarker (terminalId : String) (nowMs : Int) (liveTerminalIds : Option (List String))
  | gcRow (key : SessionKey) (nowMs : Int) (transcriptAbsent : SessionKey → Bool)
  | gcKillTombstone (key : SessionKey) (nowMs : Int)
  | gcAliasTombstone (key : SessionKey) (nowMs : Int)
  | gcPaneClose (key : String) (nowMs : Int) (snapshotRefs : Option RetainedSnapshotReferences)
  | bootScan (order : Order) (nowMs : Int) (transcriptAbsent : SessionKey → Bool)
      (snapshotRefs : Option RetainedSnapshotReferences)

namespace Ledger

def perform (ledger : Ledger Payload) (op : LedgerOp Payload) : Ledger Payload :=
  match op with
  | .recordBinding order w => (ledger.recordBinding order w).1
  | .notePaneReattach w => (ledger.notePaneReattach w).1
  | .stampOwnerPair provider sessionId epoch generation nowMs =>
    (ledger.stampOwnerPair provider sessionId epoch generation nowMs).1
  | .recordFreshAgentBinding w => (ledger.recordFreshAgentBinding w).1
  | .retireMissing provider sessionId nowMs => (ledger.retireMissing provider sessionId nowMs).1
  | .deleteBinding provider sessionId => (ledger.deleteBinding (provider,sessionId)).1
  | .recordPending terminalId mode cwd createRequestId provenance nowMs =>
    (ledger.recordPending terminalId mode cwd createRequestId provenance nowMs).1
  | .resolvePending order w => (ledger.resolvePending order w).1
  | .deletePending terminalId => (ledger.removePending terminalId).1
  | .recordRollbackRow provider sessionId payload => (ledger.recordRollbackRow provider sessionId payload).1
  | .deleteRollbackRow provider sessionId => (ledger.deleteRollbackRow provider sessionId).1
  | .recordAliasTombstone provider placeholder durable atMs =>
    (ledger.recordAliasTombstone provider placeholder durable atMs).1
  | .clearAliasTombstones order provider durable => (ledger.clearAliasTombstonesForDurable order provider durable).1
  | .closeIdentities provider sessionIds pendingIds nowMs =>
    (ledger.closeIdentities provider sessionIds pendingIds nowMs).1
  | .repairFailedTransition provider sessionId epoch generation nowMs =>
    (ledger.repairFailedTransitionBinding provider sessionId epoch generation nowMs).1
  | .closePane order w => (ledger.closePane order w).1
  | .closePaneDetached createRequestId terminalId nowMs =>
    (ledger.closePaneDetached createRequestId terminalId nowMs).1
  | .closePanesDetached tabId panes nowMs => (ledger.closePanesDetached tabId panes nowMs).1
  | .commitClaim order provider sessionId expectKilledAtMs fenceCheckedAliases nowMs =>
    (ledger.commitClaimAliased order provider sessionId expectKilledAtMs fenceCheckedAliases nowMs).1
  | .clearKillTombstone order provider sessionId => (ledger.clearKillTombstone order provider sessionId).1
  | .notePaneOpened order createRequestId provenance nowMs =>
    (ledger.notePaneOpened order createRequestId provenance nowMs).1
  | .gcMarker terminalId nowMs liveTerminalIds => ledger.gcMarker terminalId nowMs liveTerminalIds
  | .gcRow key nowMs transcriptAbsent => ledger.gcRow key nowMs transcriptAbsent
  | .gcKillTombstone key nowMs => ledger.gcKillTombstone key nowMs
  | .gcAliasTombstone key nowMs => ledger.gcAliasTombstone key nowMs
  | .gcPaneClose key nowMs snapshotRefs => ledger.gcPaneClose key nowMs snapshotRefs
  | .bootScan order nowMs transcriptAbsent snapshotRefs => ledger.bootScan order nowMs transcriptAbsent snapshotRefs

/-- How the file operations of the next call go. -/
def under (ledger : Ledger Payload) (faults : List Fault) : Ledger Payload :=
  { ledger with drive := { ledger.drive with faults } }

/-- One call; a process that is dead makes none. -/
def next (ledger : Ledger Payload) (call : LedgerOp Payload × List Fault) : Ledger Payload :=
  if ledger.drive.dead then ledger else (ledger.under call.2).perform call.1

end Ledger
end Freshell.PaneLedger
