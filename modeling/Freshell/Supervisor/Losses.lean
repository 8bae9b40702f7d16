import Freshell.Supervisor.Recoveries

/-!
The certified loss of a soul: the incident is committed before anything is stopped,
its cleanup is finalised afterwards, as often as it takes, and notices tell of it.
At the end of a startup the notices of one kind become one.
-/
namespace Freshell.Supervisor
open Freshell.Library.Transactions

def NoticeKind.name : NoticeKind → String
  | .cleanupSucceeded => "cleanup_succeeded"
  | .cleanupFailed => "cleanup_failed"
  | .endedWithoutProcess => "ended_without_process"

section
variable (installation : Installation)

def stableNoticeId (kind : NoticeKind) (incidents : List String) : String :=
  let ids := incidents.insertionSort (· ≤ ·)
  "notice-" ++ installation.sha256Hex
    ("freshell-runtime-notice-v1\x00" ++ kind.name ++ String.join (ids.map ("\x00" ++ ·)))

/-- A notice that exists already is left as it is. -/
def enqueueNoticeInTx (kind : NoticeKind) (incidents : List String) (now : Nat) (registry : Registry) : Registry :=
  let noticeId := stableNoticeId installation kind incidents
  if registry.notices.any (·.noticeId == noticeId) then registry
  else
    { registry with
      notices := registry.notices ++ [{ noticeId, kind, incidentIds := incidents, supersededBy := none, createdAt := now }] }

structure PreparedLoss where
  certificate : LostDecisionCertificate
  handle : OwnedRuntimeHandle
  committedIntentRevision : Nat
  deriving DecidableEq, Repr

/-- The same certificate again is answered from its incident, while that is still the soul's last intent. -/
def preparedAgain (existing : LossIncident) (certificate : LostDecisionCertificate) : Transaction PreparedLoss :=
    fun registry => do
  ensure (existing.certificate = certificate) .requestConflict
  ensure (certificate.intentRevision + 1 < 2 ^ 64) (.integrity "intent revision overflow")
  let soul ← found (registry.soul existing.soulId) (.sql "no row")
  ensure (soul.intentRevision = certificate.intentRevision + 1 ∧ soul.desiredState = .stopped ∧
    soul.recoveryState = .lost ∧ soul.lossIncidentId = some certificate.incidentId)
    (.staleIntentRevision (certificate.intentRevision + 1) soul.intentRevision)
  let handle ← loadOwnedHandle registry existing.incarnationId
  return ({ certificate := existing.certificate, handle, committedIntentRevision := soul.intentRevision },registry)

def initialCleanup (certificate : LostDecisionCertificate) : LossCleanupReport where
  ownedHandleRef := certificate.cleanupTarget.ownedHandleRef
  ownershipVerified := true
  gracefulAttempt := "not_started"
  forcedAttempt := "not_started"
  verifiedEmpty := false
  foreignObjectsTouched := 0

def Registry.cleanupCandidate (registry : Registry) (soulId : String) : Option Incarnation :=
  latest (·.createdAt) <| (registry.incarnationsOf soulId).filter fun row =>
    row.launchState == .created || row.launchState == .starting || row.launchState == .running ||
      row.launchState == .stopping

/-- The incident, the stop that goes with it, and the cleanup it asks for, in one commit. -/
def prepareLoss (certificate : LostDecisionCertificate) (now : Nat) : Transaction PreparedLoss := fun registry =>
  match registry.lossIncidents.find? fun row =>
      row.soulId == certificate.soulId && row.intentRevision == certificate.intentRevision with
  | some existing => preparedAgain existing certificate registry
  | none => do
    let soul ← found (registry.soul certificate.soulId) (.unknownSoul certificate.soulId)
    ensure (soul.desiredState = .running ∧ soul.intentRevision = certificate.intentRevision ∧
      soul.recoveryState ≠ .lost ∧ soul.recoveryState ≠ .stopped)
      (.staleIntentRevision certificate.intentRevision soul.intentRevision)
    let incarnationId := certificate.cleanupTarget.incarnationId
    ensure ((registry.cleanupCandidate certificate.soulId).map (·.incarnationId) = some incarnationId)
      (.invalidState "loss cleanup target is not the current active incarnation")
    let handle ← loadOwnedHandle registry incarnationId
    ensure (certificate.cleanupTarget.ownershipVerified = true ∧ handle.soulId = certificate.soulId)
      (.invalidState "loss certificate lacks exact owned cleanup authority")
    ensure (soul.intentRevision + 1 < 2 ^ 64) (.integrity "intent revision overflow")
    ensure (∀ row ∈ registry.lossIncidents, row.incidentId ≠ certificate.incidentId) (.sql "loss_incidents.incident_id")
    let registry : Registry :=
      { registry with
        lossIncidents := registry.lossIncidents ++
          [{ incidentId := certificate.incidentId, soulId := certificate.soulId, incarnationId,
             intentRevision := certificate.intentRevision, certificate, cleanupState := .cleanupPending,
             cleanup := initialCleanup certificate }]
        souls := updateWhere
          (fun row => row.soulId == certificate.soulId && row.intentRevision == soul.intentRevision &&
            row.desiredState == .running)
          (fun row => { row with desiredState := .stopped, intentRevision := soul.intentRevision + 1,
                                 recoveryState := .lost, recoveryAttemptId := none,
                                 lossIncidentId := some certificate.incidentId }) registry.souls }
    let registry := registry.updateIncarnation incarnationId fun row =>
      { row with launchState := .stopping, cleanupState := .requested }
    ensure (∀ row ∈ registry.tombstones, row ≠ ⟨certificate.soulId,soul.intentRevision + 1⟩) (.sql "stop_tombstones")
    let registry : Registry :=
      { registry with tombstones := registry.tombstones ++ [⟨certificate.soulId,soul.intentRevision + 1⟩] }
    let registry ← advanceViewsInTx certificate.soulId (soul.intentRevision + 1) now registry
    return ({ certificate, handle, committedIntentRevision := soul.intentRevision + 1 },registry)

def closedKind (cleanup : LossCleanupReport) : NoticeKind :=
  if cleanup.gracefulAttempt = "not_required" then .endedWithoutProcess else .cleanupSucceeded

/-- Every notice that names the incident gives way to the one of its verified end. -/
def supersedeNotices (incidentId noticeId : String) (registry : Registry) : Registry :=
  { registry with
    notices := updateWhere
      (fun notice => notice.supersededBy.isNone && notice.noticeId != noticeId && notice.incidentIds.contains incidentId)
      (fun notice => { notice with supersededBy := some noticeId }) registry.notices }

/-- The rows of a cleanup that left the enclosure verifiably empty. -/
def closeLoss (incidentId incarnationId : String) (cleanup : LossCleanupReport) (now : Nat) (registry : Registry) :
    Registry :=
  let registry := registry.release incarnationId
  let registry :=
    { registry with
      inputCommands := updateWhere
        (fun row => row.incarnationId == incarnationId && row.state != .completed && row.state != .cancelled)
        (fun row => { row with state := .cancelled }) registry.inputCommands }
  let kind := closedKind cleanup
  supersedeNotices incidentId (stableNoticeId installation kind [incidentId])
    (enqueueNoticeInTx installation kind [incidentId] now registry)

def finalizeLossCleanup (incidentId : String) (outcome : StopOutcome) (cleanup : LossCleanupReport) (now : Nat) :
    Transaction PUnit := fun registry => do
  let incident ← found (registry.lossIncidents.find? (·.incidentId == incidentId)) (.incidentNotFound incidentId)
  if incident.cleanupState = .closed then
    return (⟨⟩,enqueueNoticeInTx installation (closedKind incident.cleanup) [incidentId] now registry)
  else do
    ensure (cleanup.ownedHandleRef = incident.certificate.cleanupTarget.ownedHandleRef ∧
      cleanup.foreignObjectsTouched = 0)
      (.invalidState "loss cleanup result does not match the exact certified ownership handle")
    ensure (incident.certificate.intentRevision + 1 < 2 ^ 64) (.integrity "intent revision overflow")
    let expected := incident.certificate.intentRevision + 1
    let soul ← found (registry.soul incident.soulId) (.sql "no row")
    ensure (soul.desiredState = .stopped ∧ soul.intentRevision = expected ∧ soul.recoveryState = .lost ∧
      soul.lossIncidentId = some incidentId) (.staleIntentRevision expected soul.intentRevision)
    let verified := outcome = .verifiedEmpty ∧ cleanup.verifiedEmpty = true
    ensure (verified → cleanup.ownershipVerified = true)
      (.invalidState "verified-empty cleanup lacks exact ownership verification")
    let launchState := if verified then LaunchState.stopped else .stopping
    let cleanupState := if verified then CleanupState.verifiedEmpty
      else if outcome = .blockedOwnership then .blockedOwnership else .terminationUnconfirmed
    let registry : Registry :=
      { registry with
        souls := updateWhere
          (fun row => row.soulId == incident.soulId && row.intentRevision == expected && row.desiredState == .stopped &&
            row.recoveryState == .lost && row.lossIncidentId == some incidentId)
          (fun row => { row with recoveryAttemptId := none }) registry.souls
        lossIncidents := updateWhere (·.incidentId == incidentId)
          (fun row => { row with cleanupState := if verified then .closed else .cleanupFailed, cleanup })
          registry.lossIncidents }
    ensure (∃ row ∈ registry.incarnations, row.incarnationId = incident.incarnationId ∧ row.soulId = incident.soulId)
      (.invalidState "loss cleanup incarnation no longer belongs to the certified soul")
    let registry ← writeIncarnation incident.incarnationId
      (fun row => { row with launchState, cleanupState }) registry
    if verified then return (⟨⟩,closeLoss installation incidentId incident.incarnationId cleanup now registry)
    else return (⟨⟩,enqueueNoticeInTx installation .cleanupFailed [incidentId] now registry)

/-- The notices of one kind that a startup left, if there are several, as one. -/
def coalesceKind (startedAt finishedAt : Nat) (registry : Registry) (kind : NoticeKind) : Registry :=
  let collected := registry.notices.filter fun notice =>
    notice.kind == kind && notice.supersededBy.isNone && decide (startedAt ≤ notice.createdAt) &&
      decide (notice.createdAt ≤ finishedAt)
  if collected.length ≤ 1 then registry
  else
    let incidents := ((collected.flatMap (·.incidentIds)).insertionSort (· ≤ ·)).dedup
    let batch := stableNoticeId installation kind incidents
    let registry := enqueueNoticeInTx installation kind incidents finishedAt registry
    { registry with
      notices := updateWhere
        (fun notice => collected.any (·.noticeId == notice.noticeId) && notice.noticeId != batch)
        (fun notice => { notice with supersededBy := some batch }) registry.notices }

def coalesceStartupNotices (startedAt finishedAt : Nat) : Transaction PUnit := fun registry =>
  return (⟨⟩,[NoticeKind.cleanupSucceeded,.cleanupFailed,.endedWithoutProcess].foldl
    (coalesceKind installation startedAt finishedAt) registry)
end

def Incarnation.unknownOwnership (row : Incarnation) : Bool :=
  (row.launchState != .prepared && row.active && row.container.isNone) ||
    row.container.any fun container => container.containerId.length != 64

def Incarnation.ungranted (row : Incarnation) : Bool :=
  row.launchState == .prepared && row.container.isNone && row.grantId.isNone

/-- The rows that prove that no container was ever committed for them are retired, unless
    the ownership of any row is in doubt. -/
def repairAudit (apply : Bool) : Transaction Bool := fun registry =>
  if apply ∧ registry.incarnations.countP (·.unknownOwnership) = 0 then
    let candidates := (registry.incarnations.filter (·.ungranted)).map (·.incarnationId)
    let retire := fun (registry : Registry) incarnationId =>
      (registry.updateIncarnation incarnationId fun row =>
        if row.ungranted then { row with launchState := .failed, cleanupState := .verifiedEmpty } else row).release
        incarnationId
    return (!candidates.isEmpty,candidates.foldl retire registry)
  else return (false,registry)
end Freshell.Supervisor
