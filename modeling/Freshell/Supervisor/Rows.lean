import Freshell.Library.Transactions

/-!
The supervisor's registry: the rows of its tables, as the columns that its
transactions read, and the errors they answer with. Times are in milliseconds.
A container's six columns are written by one statement only, so they are one value.
-/
namespace Freshell.Supervisor
open Freshell.Library.Transactions

inductive DesiredState where
  | running
  | stopped
  deriving DecidableEq, Repr

inductive LaunchState where
  | prepared
  | created
  | starting
  | running
  | stopping
  | stopped
  | failed
  deriving DecidableEq, Repr

inductive CleanupState where
  | none
  | requested
  | terminationUnconfirmed
  | verifiedEmpty
  | blockedOwnership
  deriving DecidableEq, Repr

inductive RecoveryState where
  | live
  | recovering
  | blocked
  | lost
  | stopped
  deriving DecidableEq, Repr

inductive StopOutcome where
  | verifiedEmpty
  | blockedOwnership
  | backendUnavailable
  | terminationUnconfirmed
  deriving DecidableEq, Repr

inductive RegistryError where
  | integrity (message : String)
  | requestConflict
  | activeIncarnation (soulId : String)
  | blockedResource (scope : String)
  | staleIntentRevision (expected current : Nat)
  | unknownIncarnation (incarnationId : String)
  | unknownSoul (soulId : String)
  | invalidState (message : String)
  | recoveryInProgress (soulId : String)
  | recoveryBlocked (soulId reason : String)
  | nativeIdentityConflict
  | incidentNotFound (incidentId : String)
  | inputConflict
  | sql (constraint : String)
  deriving DecidableEq, Repr

structure RuntimeLimits where
  cpuMilli : Nat
  memoryBytes : Nat
  swapBytes : Nat
  pidsMax : Nat
  deriving DecidableEq, Repr

structure TerminalLaunchSpec where
  terminalId : String
  deriving DecidableEq, Repr

structure FreshAgentLaunchSpec where
  sessionId : String
  nativeSessionId : Option String
  deriving DecidableEq, Repr

structure ProviderSession where
  provider : String
  providerStoreId : String
  nativeSessionId : String
  deriving DecidableEq, Repr

structure BackendCreatedRecord where
  daemonId : String
  containerId : String
  imageRef : String
  runtimeDir : String
  hostBinaryPath : String
  immutableConfigDigest : String
  deriving DecidableEq, Repr

structure Soul where
  soulId : String
  provider : String
  providerStoreId : String
  nativeSessionId : Option String
  desiredState : DesiredState
  intentRevision : Nat
  recoveryState : RecoveryState
  recoveryAttemptId : Option String
  recoveryWindowStartedAt : Option Nat
  successfulRecoveriesInWindow : Nat
  projectKey : String
  resourceProfile : String
  configuredLimits : Option RuntimeLimits
  lossIncidentId : Option String
  createdAt : Nat
  deriving DecidableEq, Repr

structure Incarnation where
  incarnationId : String
  soulId : String
  container : Option BackendCreatedRecord
  launchState : LaunchState
  hostBootId : Option String
  executionGeneration : Nat
  grantId : Option String
  requestedLimits : RuntimeLimits
  effectiveLimits : Option RuntimeLimits
  cleanupState : CleanupState
  terminal : Option TerminalLaunchSpec
  freshAgent : Option FreshAgentLaunchSpec
  priorIncarnationId : Option String
  recoveryAttemptId : Option String
  createdAt : Nat
  deriving DecidableEq, Repr

structure WriterClaim where
  session : ProviderSession
  soulId : String
  incarnationId : String
  intentRevision : Nat
  deriving DecidableEq, Repr

structure AdmissionReservation where
  incarnationId : String
  projectKey : String
  cpuMilli : Nat
  memoryBytes : Nat
  pidsMax : Nat
  deriving DecidableEq, Repr

structure Command where
  soulId : String
  requestId : String
  payloadDigest : String
  incarnationId : String
  createdAt : Nat
  deriving DecidableEq, Repr

inductive InputState where
  | queued
  | dispatching
  | completed
  | ambiguous
  | cancelled
  deriving DecidableEq, Repr

structure InputCommand where
  soulId : String
  requestId : String
  payloadDigest : String
  protectedPayload : String
  incarnationId : String
  state : InputState
  createdAt : Nat
  deriving DecidableEq, Repr

inductive ViewIntentKind where
  | automaticPrimary
  | explicit
  deriving DecidableEq, Repr

inductive ViewVisibilityIntent where
  | visible
  | detached
  | hidden
  deriving DecidableEq, Repr

structure ViewIntent where
  viewId : String
  soulId : String
  ownerId : String
  workspaceId : String
  kind : ViewIntentKind
  preferredTabId : String
  preferredPaneId : String
  title : String
  placementGroup : String
  visibility : ViewVisibilityIntent
  revision : Nat
  soulIntentRevision : Nat
  createdAt : Nat
  updatedAt : Nat
  deriving DecidableEq, Repr

/-- An event of the outbox for a view, with its payload. -/
structure ViewProjectionEvent where
  eventId : String
  viewIntent : ViewIntent
  createdAt : Nat
  deliveredAt : Option Nat
  deriving DecidableEq, Repr

structure CleanupTarget where
  incarnationId : String
  ownedHandleRef : String
  ownershipVerified : Bool
  deriving DecidableEq, Repr

/-- A certificate, with the evidence it was issued on as the text that is compared. -/
structure LostDecisionCertificate where
  incidentId : String
  soulId : String
  intentRevision : Nat
  cleanupTarget : CleanupTarget
  evidence : String
  deriving DecidableEq, Repr

structure LossCleanupReport where
  ownedHandleRef : String
  ownershipVerified : Bool
  gracefulAttempt : String
  forcedAttempt : String
  verifiedEmpty : Bool
  foreignObjectsTouched : Nat
  deriving DecidableEq, Repr

inductive LossIncidentState where
  | cleanupPending
  | cleanupFailed
  | closed
  deriving DecidableEq, Repr

structure LossIncident where
  incidentId : String
  soulId : String
  incarnationId : String
  intentRevision : Nat
  certificate : LostDecisionCertificate
  cleanupState : LossIncidentState
  cleanup : LossCleanupReport
  deriving DecidableEq, Repr

inductive NoticeKind where
  | cleanupSucceeded
  | cleanupFailed
  | endedWithoutProcess
  deriving DecidableEq, Repr

structure RuntimeNotice where
  noticeId : String
  kind : NoticeKind
  incidentIds : List String
  supersededBy : Option String
  createdAt : Nat
  deriving DecidableEq, Repr

structure StopTombstone where
  soulId : String
  intentRevision : Nat
  deriving DecidableEq, Repr

/-- The tables, each in the order in which its rows were written. -/
structure Registry where
  souls : List Soul
  incarnations : List Incarnation
  writerClaims : List WriterClaim
  reservations : List AdmissionReservation
  commands : List Command
  inputCommands : List InputCommand
  viewIntents : List ViewIntent
  outbox : List ViewProjectionEvent
  lossIncidents : List LossIncident
  notices : List RuntimeNotice
  tombstones : List StopTombstone
  deriving DecidableEq, Repr

def Registry.empty : Registry := ⟨[],[],[],[],[],[],[],[],[],[],[]⟩

/-- Where a transaction stops, nothing of it is kept. -/
abbrev Transaction (Answer : Type) := Registry → Except RegistryError (Answer × Registry)

/-- The launch states that the index of one incarnation for each soul is over. -/
def LaunchState.isPotentiallyActive : LaunchState → Bool
  | .prepared | .created | .starting | .running | .stopping => true
  | .stopped | .failed => false

def Incarnation.active (incarnation : Incarnation) : Bool := incarnation.launchState.isPotentiallyActive

namespace Registry
variable (registry : Registry)

def soul (soulId : String) : Option Soul := registry.souls.find? (·.soulId == soulId)

def incarnation (incarnationId : String) : Option Incarnation :=
  registry.incarnations.find? (·.incarnationId == incarnationId)

def incarnationsOf (soulId : String) : List Incarnation := registry.incarnations.filter (·.soulId == soulId)

def input (soulId requestId : String) : Option InputCommand :=
  registry.inputCommands.find? fun row => row.soulId == soulId && row.requestId == requestId

def claimOf (session : ProviderSession) : Option WriterClaim := registry.writerClaims.find? (·.session == session)

def desiredRunning (soulId : String) : Bool :=
  registry.souls.any fun row => row.soulId == soulId && row.desiredState == .running

def updateSoul (soulId : String) (change : Soul → Soul) : Registry :=
  { registry with souls := updateWhere (·.soulId == soulId) change registry.souls }

def updateIncarnation (incarnationId : String) (change : Incarnation → Incarnation) : Registry :=
  { registry with incarnations := updateWhere (·.incarnationId == incarnationId) change registry.incarnations }

def release (incarnationId : String) : Registry :=
  { registry with
    writerClaims := registry.writerClaims.filter (·.incarnationId != incarnationId)
    reservations := registry.reservations.filter (·.incarnationId != incarnationId) }
end Registry

abbrev Statement := Registry → Except RegistryError Registry

def insertSoul (row : Soul) : Statement := fun registry => do
  ensure (registry.soul row.soulId = none) (.sql "souls.soul_id")
  return { registry with souls := registry.souls ++ [row] }

def insertIncarnation (row : Incarnation) : Statement := fun registry => do
  ensure (registry.incarnation row.incarnationId = none) (.sql "incarnations.incarnation_id")
  ensure (row.active = true → ∀ other ∈ registry.incarnationsOf row.soulId, other.active = false)
    (.sql "one_active_incarnation_per_soul")
  return { registry with incarnations := registry.incarnations ++ [row] }

/-- An update of one incarnation, held to the index on active rows. -/
def writeIncarnation (incarnationId : String) (change : Incarnation → Incarnation) : Statement := fun registry => do
  ensure (∀ row ∈ registry.incarnations, row.incarnationId = incarnationId → (change row).active = true →
    ∀ other ∈ registry.incarnationsOf row.soulId, other.active = true → other.incarnationId = incarnationId)
    (.sql "one_active_incarnation_per_soul")
  return registry.updateIncarnation incarnationId change

def insertWriterClaim (row : WriterClaim) : Statement := fun registry => do
  ensure (registry.claimOf row.session = none) (.sql "one_native_writer")
  return { registry with writerClaims := registry.writerClaims ++ [row] }

def insertReservation (row : AdmissionReservation) : Statement := fun registry => do
  ensure (∀ other ∈ registry.reservations, other.incarnationId ≠ row.incarnationId)
    (.sql "admission_reservations.incarnation_id")
  return { registry with reservations := registry.reservations ++ [row] }

section
variable {registry after : Registry}

@[simp] theorem insertSoul_eq_ok {row : Soul} :
    insertSoul row registry = .ok after ↔
      registry.soul row.soulId = none ∧ { registry with souls := registry.souls ++ [row] } = after := by
  simp [insertSoul]

@[simp] theorem insertIncarnation_eq_ok {row : Incarnation} :
    insertIncarnation row registry = .ok after ↔
      registry.incarnation row.incarnationId = none ∧
        (row.active = true → ∀ other ∈ registry.incarnationsOf row.soulId, other.active = false) ∧
        { registry with incarnations := registry.incarnations ++ [row] } = after := by
  simp [insertIncarnation]

@[simp] theorem writeIncarnation_eq_ok {incarnationId : String} {change : Incarnation → Incarnation} :
    writeIncarnation incarnationId change registry = .ok after ↔
      (∀ row ∈ registry.incarnations, row.incarnationId = incarnationId → (change row).active = true →
        ∀ other ∈ registry.incarnationsOf row.soulId, other.active = true → other.incarnationId = incarnationId) ∧
      registry.updateIncarnation incarnationId change = after := by
  simp [writeIncarnation]

@[simp] theorem insertWriterClaim_eq_ok {row : WriterClaim} :
    insertWriterClaim row registry = .ok after ↔
      registry.claimOf row.session = none ∧
        { registry with writerClaims := registry.writerClaims ++ [row] } = after := by
  simp [insertWriterClaim]

@[simp] theorem insertReservation_eq_ok {row : AdmissionReservation} :
    insertReservation row registry = .ok after ↔
      (∀ other ∈ registry.reservations, other.incarnationId ≠ row.incarnationId) ∧
        { registry with reservations := registry.reservations ++ [row] } = after := by
  simp [insertReservation]
end
end Freshell.Supervisor
