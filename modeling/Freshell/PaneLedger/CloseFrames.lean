import Freshell.PaneLedger.Frames

/-!
The record that a call writes for a close, and what may stand at its file: that record, or
the one that the file held before.
-/
namespace Freshell.PaneLedger
open Freshell.Library.Drives

variable {Payload : Type}

namespace Ledger

def standing (ledger : Ledger Payload) (key : String) : Option CloseEnvelopeRecord :=
  ledger.drive.files.closeEnvelopes.lookup key

variable (ledger : Ledger Payload)

theorem operate_files (change : Files Payload → Files Payload) (mirror : LedgerIndex Payload → LedgerIndex Payload) :
    (ledger.operate change mirror).1.drive.files = ledger.drive.files ∨
      (ledger.operate change mirror).1.drive.files = change ledger.drive.files :=
  ledger.drive.act_files change

theorem operate_done {ledger : Ledger Payload} {change : Files Payload → Files Payload}
    {mirror : LedgerIndex Payload → LedgerIndex Payload} (done : (ledger.operate change mirror).2 = true) :
    (ledger.operate change mirror).1.drive.files = change ledger.drive.files ∧
      (ledger.operate change mirror).1.index = mirror ledger.index := by
  have acted : (ledger.drive.act change).2 = true := done
  refine ⟨(Drive.act_done acted).1,?_⟩
  obtain ⟨failed,_⟩ | ⟨_,mirrored⟩ := ledger.operate_index change mirror
  · exact Bool.noConfusion (failed.symm.trans done)
  · exact mirrored

variable (key : String) (record : CloseEnvelopeRecord)

theorem putEnvelope_standing (mirror : LedgerIndex Payload → LedgerIndex Payload) :
    (ledger.putEnvelope key record mirror).1.standing key = ledger.standing key ∨
      (ledger.putEnvelope key record mirror).1.standing key = some record := by
  obtain same | changed := ledger.operate_files
    (fun files => { files with closeEnvelopes := files.closeEnvelopes.insert key record }) mirror
  · exact .inl (congrArg (fun files => files.closeEnvelopes.lookup key) same)
  · refine .inr ((congrArg (fun files => files.closeEnvelopes.lookup key) changed).trans ?_)
    simp

theorem unlinkEnvelope_standing (mirror : LedgerIndex Payload → LedgerIndex Payload) :
    (ledger.unlinkEnvelope key mirror).1.standing key = ledger.standing key ∨
      (ledger.unlinkEnvelope key mirror).1.standing key = none := by
  obtain same | changed := ledger.operate_files
    (fun files => { files with closeEnvelopes := files.closeEnvelopes.erase key }) mirror
  · exact .inl (congrArg (fun files => files.closeEnvelopes.lookup key) same)
  · refine .inr ((congrArg (fun files => files.closeEnvelopes.lookup key) changed).trans ?_)
    simp

theorem standing_of_probe {ledger probed : Ledger Payload} {key : String} {record : CloseEnvelopeRecord}
    (probe : ledger.probeCloseEnvelope key = (probed,some record)) :
    ledger.standing key = some record ∧ probed.standing key = some record ∧ record.ledgerVersion = ledgerVersion := by
  have files : (ledger.operate id id).1.drive.files = ledger.drive.files := by
    obtain same | same := ledger.operate_files id id
    · exact same
    · exact same
  unfold probeCloseEnvelope at probe
  simp only [Prod.mk.injEq] at probe
  obtain ⟨rfl,read⟩ := probe
  split at read
  · obtain ⟨found,current⟩ := Option.filter_eq_some_iff.mp read
    refine ⟨?_,found,by simpa using current⟩
    unfold standing
    rw [← files]
    exact found
  · simp at read

/-- Whether a record is one that a write of `record` at the key can bring into the index. -/
def Brings (ledger : Ledger Payload) (key : String) (record brought : CloseEnvelopeRecord) : Prop :=
  brought = record ∨ ledger.standing key = some brought

/-- The identities of a fresh agent's close, each once. -/
def closedKeys (provider : String) (sessionIds : List String) : List SessionKey :=
  (sessionIds.map fun sessionId => (provider,sessionId)).foldl
    (fun keys key => if key ∈ keys then keys else keys ++ [key]) []

def closeWrites (ledger : Ledger Payload) (op : LedgerOp Payload) : Option (String × CloseEnvelopeRecord) :=
  let merged (key : String) (close : CloseSet) (nowMs : Int) : Option (String × CloseEnvelopeRecord) :=
    some (key,close.record (ledger.index.closeEnvelopes.lookup key) nowMs)
  match op with
  | .closeIdentities provider sessionIds _ nowMs =>
    match closedKeys provider sessionIds with
    | [] => none
    | (_,firstId) :: _ =>
      merged (agentEnvelopeKey provider firstId) { identities := closedKeys provider sessionIds } nowMs
  | .repairFailedTransition provider sessionId epoch generation nowMs =>
    let pair : OwnerPair := toLex (epoch,generation)
    merged (agentEnvelopeKey provider sessionId)
      { identities := [(provider,sessionId)], orphanFilter := some pair, killScope := some pair } nowMs
  | .closePane order w =>
    merged (paneEnvelopeKey w.terminalId)
      { identities := ledger.paneIdentities order w, terminalId := some w.terminalId,
        createRequestId := w.createRequestId } w.nowMs
  | .closePaneDetached createRequestId terminalId nowMs =>
    merged (paneDetachEnvelopeKey createRequestId) { terminalId, createRequestId := some createRequestId } nowMs
  | .closePanesDetached tabId panes nowMs => merged (paneDetachBatchEnvelopeKey tabId) { panes } nowMs
  | .resolvePending _ given =>
    let w := effectiveWrite (ledger.index.pending.lookup given.terminalId) given
    (ledger.index.closeEnvelopes.lookup (paneEnvelopeKey w.terminalId)).map fun close =>
      (paneEnvelopeKey w.terminalId,learnKill close w)
  | _ => none

variable {sessionIds : List String}

theorem closeIdentities_nobody {provider : String} (nobody : closedKeys provider sessionIds = [])
    (pendingIds : List String) (nowMs : Int) :
    ledger.closeIdentities provider sessionIds pendingIds nowMs = (ledger.removeAllPending pendingIds,.ok ()) ∧
      ledger.closeWrites (.closeIdentities provider sessionIds pendingIds nowMs) = none := by
  constructor
  · show (match closedKeys provider sessionIds with | [] => _ | (_,firstId) :: _ => _) = _
    rw [nobody]
  · simp only [closeWrites,nobody]

theorem closeIdentities_named {provider firstProvider firstId : String} {rest : List SessionKey}
    (named : closedKeys provider sessionIds = (firstProvider,firstId) :: rest) (pendingIds : List String) (nowMs : Int) :
    (ledger.closeIdentities provider sessionIds pendingIds nowMs =
      match ledger.closeEnvelope (agentEnvelopeKey provider firstId) { identities := closedKeys provider sessionIds }
        nowMs with
      | (closed,.ok ()) => (closed.removeAllPending pendingIds,.ok ())
      | (failed,.error error) => (failed,.error error)) ∧
      ledger.closeWrites (.closeIdentities provider sessionIds pendingIds nowMs) =
        some (agentEnvelopeKey provider firstId,
          CloseSet.record { identities := closedKeys provider sessionIds }
            (ledger.index.closeEnvelopes.lookup (agentEnvelopeKey provider firstId)) nowMs) := by
  constructor
  · show (match closedKeys provider sessionIds with
      | [] => _
      | (_,firstId) :: _ =>
        match ledger.closeEnvelope (agentEnvelopeKey provider firstId)
            { identities := closedKeys provider sessionIds } nowMs with
        | (closed,.ok ()) => _
        | (failed,.error error) => _) = _
    rw [named]
  · simp only [closeWrites,named]

end Ledger
end Freshell.PaneLedger
