import Freshell.Supervisor.Views

/-!
The launch of a soul, step by step, and its stop. Each is a transaction of its own:
between two of them the supervisor works on the container, and any other one can
commit. New identities are random in the source; here they come from outside, and a
row whose key is taken is refused.
-/
namespace Freshell.Supervisor
open Freshell.Library.Transactions

def maxU64 : Nat := 2 ^ 64 - 1

def saturatingAdd (first second : Nat) : Nat := min (first + second) maxU64

structure AdmissionBudget where
  cpuMilli : Nat
  memoryBytes : Nat
  pidsMax : Nat
  deriving DecidableEq, Repr

structure ReservationTotals where
  cpuMilli : Nat
  memoryBytes : Nat
  pidsMax : Nat
  deriving DecidableEq, Repr

structure AdmissionPolicy where
  installation : AdmissionBudget
  project : AdmissionBudget
  deriving DecidableEq, Repr

def AdmissionBudget.admits (budget : AdmissionBudget) (used : ReservationTotals) (requested : RuntimeLimits) : Prop :=
  saturatingAdd used.cpuMilli requested.cpuMilli ≤ budget.cpuMilli ∧
    saturatingAdd used.memoryBytes requested.memoryBytes ≤ budget.memoryBytes ∧
    saturatingAdd used.pidsMax requested.pidsMax ≤ budget.pidsMax

instance (budget : AdmissionBudget) (used : ReservationTotals) (requested : RuntimeLimits) :
    Decidable (budget.admits used requested) := inferInstanceAs (Decidable (_ ∧ _ ∧ _))

def totalsOf (rows : List AdmissionReservation) : ReservationTotals where
  cpuMilli := (rows.map (·.cpuMilli)).sum
  memoryBytes := (rows.map (·.memoryBytes)).sum
  pidsMax := (rows.map (·.pidsMax)).sum

def reservationTotals (registry : Registry) (projectKey : Option String) : ReservationTotals :=
  match projectKey with
  | some projectKey => totalsOf (registry.reservations.filter (·.projectKey == projectKey))
  | none => totalsOf registry.reservations

def reservationOf (incarnationId projectKey : String) (limits : RuntimeLimits) : AdmissionReservation where
  incarnationId
  projectKey
  cpuMilli := limits.cpuMilli
  memoryBytes := limits.memoryBytes
  pidsMax := limits.pidsMax

structure LaunchPreparation where
  soulId : String
  provider : String
  providerStoreId : String
  nativeSessionId : Option String
  requestId : String
  payloadDigest : String
  requestedLimits : RuntimeLimits
  profile : String
  projectKey : String
  terminal : Option TerminalLaunchSpec
  freshAgent : Option FreshAgentLaunchSpec
  viewIntent : Option ViewIntentRequest
  admission : AdmissionPolicy
  deriving DecidableEq, Repr

structure PreparedLaunch where
  soulId : String
  incarnationId : String
  state : LaunchState
  intentRevision : Nat
  existingRequest : Bool
  deriving DecidableEq, Repr

def loadPreparedRow (registry : Registry) (incarnationId : String) : Except RegistryError PreparedLaunch := do
  let row ← found (registry.incarnation incarnationId) (.sql "no row")
  let soul ← found (registry.soul row.soulId) (.sql "no row")
  return { soulId := row.soulId, incarnationId, state := row.launchState, intentRevision := soul.intentRevision,
           existingRequest := true }

/-- A soul that is launched for the first time is desired running. -/
def LaunchPreparation.newSoul (input : LaunchPreparation) (now : Nat) : Soul where
  soulId := input.soulId
  provider := input.provider
  providerStoreId := input.providerStoreId
  nativeSessionId := input.nativeSessionId
  desiredState := .running
  intentRevision := 1
  recoveryState := .live
  recoveryAttemptId := none
  recoveryWindowStartedAt := none
  successfulRecoveriesInWindow := 0
  projectKey := input.projectKey
  resourceProfile := input.profile
  configuredLimits := some input.requestedLimits
  lossIncidentId := none
  createdAt := now

/-- A soul that exists must be the one that the request means. -/
def ensureSoul (input : LaunchPreparation) (now : Nat) : Statement := fun registry =>
  match registry.soul input.soulId with
  | some soul => do
    ensure (soul.provider = input.provider ∧ soul.providerStoreId = input.providerStoreId ∧
      soul.projectKey = input.projectKey ∧ soul.resourceProfile = input.profile ∧
      (soul.nativeSessionId.isSome → soul.nativeSessionId = input.nativeSessionId))
      (.invalidState "existing soul launch identity/profile does not match request")
    return registry
  | none => insertSoul (input.newSoul now) registry

def LaunchPreparation.command (input : LaunchPreparation) (incarnationId : String) (now : Nat) : Command where
  soulId := input.soulId
  requestId := input.requestId
  payloadDigest := input.payloadDigest
  incarnationId
  createdAt := now

/-- The incarnation of a launch or of a replacement, before anything is known of a container. -/
def preparedIncarnation (incarnationId soulId : String) (limits : RuntimeLimits) (terminal : Option TerminalLaunchSpec)
    (freshAgent : Option FreshAgentLaunchSpec) (priorIncarnationId recoveryAttemptId : Option String) (now : Nat) :
    Incarnation where
  incarnationId
  soulId
  container := none
  launchState := .prepared
  hostBootId := none
  executionGeneration := 0
  grantId := none
  requestedLimits := limits
  effectiveLimits := none
  cleanupState := .none
  terminal
  freshAgent
  priorIncarnationId
  recoveryAttemptId
  createdAt := now

/-- The first command that led to an incarnation. -/
def Registry.commandDigest (registry : Registry) (incarnationId : String) : Option String :=
  ((registry.commands.filter (·.incarnationId == incarnationId)).argmin (·.createdAt)).map (·.payloadDigest)

/-- A workload that a pane can show gets its view. -/
def placeView (installation : Installation) (input : LaunchPreparation) (soulIntentRevision now : Nat) : Statement :=
  if input.terminal.isSome ∨ input.viewIntent.isSome then
    ensureAutomaticPrimaryInTx installation input.soulId input.projectKey input.provider soulIntentRevision
      input.viewIntent now
  else .ok

/-- The claim to write a native session, where the session is known. -/
def claimWriter (session : Option ProviderSession) (soulId incarnationId : String) (intentRevision : Nat) : Statement :=
  match session with
  | some session => insertWriterClaim { session, soulId, incarnationId, intentRevision }
  | none => .ok

/-- What the launch takes when nothing of the soul is active: room, a row, and its writer's claim. -/
def admitLaunch (input : LaunchPreparation) (incarnationId : String) (now : Nat) : Statement := fun registry => do
  ensure (input.admission.installation.admits (reservationTotals registry none) input.requestedLimits)
    (.blockedResource "installation")
  ensure (input.admission.project.admits (reservationTotals registry (some input.projectKey)) input.requestedLimits)
    (.blockedResource "project")
  let registry ← insertIncarnation
    (preparedIncarnation incarnationId input.soulId input.requestedLimits input.terminal input.freshAgent none none now)
    registry
  let registry ← insertReservation (reservationOf incarnationId input.projectKey input.requestedLimits) registry
  let registry ← claimWriter
    (input.nativeSessionId.map fun nativeSessionId => ⟨input.provider,input.providerStoreId,nativeSessionId⟩)
    input.soulId incarnationId 1 registry
  return { registry with commands := registry.commands ++ [input.command incarnationId now] }

def prepareLaunch (installation : Installation) (input : LaunchPreparation) (incarnationId : String) (now : Nat) :
    Transaction PreparedLaunch := fun registry =>
  match registry.commands.find? fun row => row.soulId == input.soulId && row.requestId == input.requestId with
  | some command => do
    ensure (command.payloadDigest = input.payloadDigest) .requestConflict
    let row ← loadPreparedRow registry command.incarnationId
    return ({ row with existingRequest := true },registry)
  | none => do
    let registry ← ensureSoul input now registry
    let soul ← found (registry.soul input.soulId) (.sql "no row")
    let registry ← placeView installation input soul.intentRevision now registry
    match (registry.incarnationsOf input.soulId).find? (·.active) with
    | some active => do
      -- Another request id for the launch that is live already joins it.
      ensure (active.launchState = .running ∧ soul.desiredState = .running ∧ soul.recoveryState = .live ∧
        registry.commandDigest active.incarnationId = some input.payloadDigest) (.activeIncarnation input.soulId)
      let registry := { registry with commands := registry.commands ++ [input.command active.incarnationId now] }
      let row ← loadPreparedRow registry active.incarnationId
      return ({ row with existingRequest := true },registry)
    | none => do
      let registry ← admitLaunch input incarnationId now registry
      return ({ soulId := input.soulId, incarnationId, state := .prepared, intentRevision := soul.intentRevision,
                existingRequest := false },registry)

def commitCreated (incarnationId : String) (created : BackendCreatedRecord) : Transaction PUnit := fun registry => do
  let row ← found (registry.incarnation incarnationId) (.invalidState s!"cannot commit CREATED for {incarnationId}")
  ensure (row.launchState = .prepared ∧ row.container = none ∧ registry.desiredRunning row.soulId = true)
    (.invalidState s!"cannot commit CREATED for {incarnationId}")
  ensure (∀ other ∈ registry.incarnations, ∀ held ∈ other.container,
    ¬(held.daemonId = created.daemonId ∧ held.containerId = created.containerId)) (.sql "incarnation_container_identity")
  return (⟨⟩,registry.updateIncarnation incarnationId fun row =>
    { row with container := some created, launchState := .created })

structure ExecutionGrantRecord where
  executionGeneration : Nat
  grantId : String
  hostBootId : String
  deriving DecidableEq, Repr

/-- A grant that is outstanding is answered again, to the host that it was given to. -/
def commitExecutionGrant (incarnationId hostBootId grantId : String) (effectiveLimits : RuntimeLimits) :
    Transaction ExecutionGrantRecord := fun registry => do
  let stale := RegistryError.invalidState
    s!"cannot grant execution for {incarnationId}; stop intent or lifecycle transition won"
  let row ← found (registry.incarnation incarnationId) stale
  if row.launchState = .starting then do
    let boot ← found row.hostBootId (.sql "host_boot_id")
    let grant ← found row.grantId (.sql "grant_id")
    ensure (boot = hostBootId) (.invalidState "host boot changed while grant was outstanding")
    return ({ executionGeneration := row.executionGeneration, grantId := grant, hostBootId := boot },registry)
  else do
    ensure (row.launchState = .created ∧ registry.desiredRunning row.soulId = true) stale
    ensure (row.executionGeneration + 1 < 2 ^ 64) (.integrity "execution generation overflow")
    return ({ executionGeneration := row.executionGeneration + 1, grantId, hostBootId },
      registry.updateIncarnation incarnationId fun row =>
        { row with
          launchState := .starting
          hostBootId := some hostBootId
          executionGeneration := row.executionGeneration + 1
          grantId := some grantId
          effectiveLimits := some effectiveLimits })

def markRunning (incarnationId : String) : Transaction PUnit := fun registry => do
  let row ← found (registry.incarnation incarnationId) (.invalidState s!"cannot mark RUNNING for {incarnationId}")
  ensure (row.launchState = .starting ∧ registry.desiredRunning row.soulId = true)
    (.invalidState s!"cannot mark RUNNING for {incarnationId}")
  return (⟨⟩,registry.updateIncarnation incarnationId fun row => { row with launchState := .running })

/-- The incarnation whose container a mutation may touch. -/
structure OwnedRuntimeHandle where
  soulId : String
  incarnationId : String
  container : BackendCreatedRecord
  requestedLimits : RuntimeLimits
  terminal : Option TerminalLaunchSpec
  freshAgent : Option FreshAgentLaunchSpec
  deriving DecidableEq, Repr

def loadOwnedHandle (registry : Registry) (incarnationId : String) : Except RegistryError OwnedRuntimeHandle := do
  let row ← found (registry.incarnation incarnationId) (.unknownIncarnation incarnationId)
  ensure (row.launchState ≠ .prepared) (.invalidState "PREPARED incarnation has no mutation authority")
  let container ← found row.container (.integrity "owned incarnation missing docker_daemon_id")
  return { soulId := row.soulId, incarnationId, container, requestedLimits := row.requestedLimits,
           terminal := row.terminal, freshAgent := row.freshAgent }

/-- The active incarnation of the soul, else the last one. -/
def Registry.currentIncarnation (registry : Registry) (soulId : String) : Option Incarnation :=
  latest (·.createdAt) ((registry.incarnationsOf soulId).filter (·.active)) <|>
    latest (·.createdAt) (registry.incarnationsOf soulId)

def commitStopIntent (soul : Soul) (registry : Registry) : Registry :=
  if soul.desiredState ≠ .stopped then
    { registry.updateSoul soul.soulId fun row =>
        { row with desiredState := .stopped, intentRevision := soul.intentRevision + 1, recoveryState := .stopped,
                   recoveryAttemptId := none } with
      tombstones :=
        if registry.tombstones.any (· == ⟨soul.soulId,soul.intentRevision + 1⟩) then registry.tombstones
        else registry.tombstones ++ [⟨soul.soulId,soul.intentRevision + 1⟩] }
  else registry

/-- Whatever an incarnation was at, it is stopping now. -/
def requestStop (incarnation : Incarnation) (registry : Registry) : Registry :=
  if incarnation.launchState ≠ .stopped ∧ incarnation.launchState ≠ .failed then
    registry.updateIncarnation incarnation.incarnationId fun row =>
      { row with launchState := .stopping, cleanupState := .requested }
  else registry

/-- Input that may have been sent stays that way. -/
def interruptInput (soulId : String) (registry : Registry) : Registry :=
  { registry with
    inputCommands := updateWhere (fun row => row.soulId == soulId && row.state == .dispatching)
      (fun row => { row with state := .ambiguous }) registry.inputCommands }

/-- The stop commits before it looks for what there is to stop. -/
def beginStopExpected (soulId : String) (expectedIntentRevision : Option Nat) (now : Nat) :
    Transaction (Except RegistryError OwnedRuntimeHandle) := fun registry => do
  let incarnation ← found (registry.currentIncarnation soulId) (.unknownSoul soulId)
  let soul ← found (registry.soul soulId) (.sql "no row")
  ensure (∀ expected ∈ expectedIntentRevision, expected = soul.intentRevision)
    (.staleIntentRevision (expectedIntentRevision.getD 0) soul.intentRevision)
  ensure (soul.desiredState ≠ .stopped → soul.intentRevision + 1 < 2 ^ 64) (.integrity "intent revision overflow")
  let committedRevision := if soul.desiredState ≠ .stopped then soul.intentRevision + 1 else soul.intentRevision
  let registry ← hideAutomaticPrimaryInTx soulId committedRevision now (commitStopIntent soul registry)
  let registry := interruptInput soulId (requestStop incarnation registry)
  return (loadOwnedHandle registry incarnation.incarnationId,registry)

def stopLaunchState : StopOutcome → LaunchState
  | .verifiedEmpty => .stopped
  | .blockedOwnership | .backendUnavailable | .terminationUnconfirmed => .stopping

def stopCleanupState : StopOutcome → CleanupState
  | .verifiedEmpty => .verifiedEmpty
  | .blockedOwnership => .blockedOwnership
  | .backendUnavailable | .terminationUnconfirmed => .terminationUnconfirmed

/-- Only an enclosure that is empty lets go of its claim and its room. -/
def markStopOutcome (incarnationId : String) (outcome : StopOutcome) : Transaction PUnit := fun registry => do
  let registry ← writeIncarnation incarnationId
    (fun row => { row with launchState := stopLaunchState outcome, cleanupState := stopCleanupState outcome }) registry
  if outcome = .verifiedEmpty then
    let registry := registry.release incarnationId
    return (⟨⟩,{ registry with
      souls := updateWhere
        (fun soul => registry.incarnations.any (fun row => row.incarnationId == incarnationId && row.soulId == soul.soulId) &&
          soul.desiredState == .stopped && soul.recoveryState != .lost)
        (fun soul => { soul with recoveryState := .stopped, recoveryAttemptId := none }) registry.souls })
  else return (⟨⟩,registry)
end Freshell.Supervisor
