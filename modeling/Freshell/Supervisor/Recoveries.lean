import Freshell.Supervisor.Inputs

/-!
The recovery of a soul whose runtime is gone: an attempt marks the soul, the old
enclosure is emptied, a replacement is prepared and launched like any incarnation,
and a verdict takes the mark away.
-/
namespace Freshell.Supervisor
open Freshell.Library.Transactions

inductive RecoveryTrigger where
  | providerExit
  | hostUnreachable
  | startupReconcile
  | manualRetry
  | retryExhausted
  | explicitRequest
  deriving DecidableEq, Repr

def RECOVERY_WINDOW_MS : Nat := 60 * 60 * 1000
def MAX_SUCCESSFUL_RECOVERIES_PER_HOUR : Nat := 5

def successfulRecoveryBudgetAvailable (windowStartedAt : Option Nat) (successes now : Nat) : Bool :=
  match windowStartedAt with
  | none => true
  | some started => decide (RECOVERY_WINDOW_MS ≤ now - started) || decide (successes < MAX_SUCCESSFUL_RECOVERIES_PER_HOUR)

structure RecoveryContext where
  soulId : String
  desiredState : DesiredState
  intentRevision : Nat
  recoveryState : RecoveryState
  projectKey : String
  requestedLimits : RuntimeLimits
  recoveryWindowStartedAt : Option Nat
  successfulRecoveriesInWindow : Nat
  priorHandle : OwnedRuntimeHandle
  deriving DecidableEq, Repr

structure RecoveryStart where
  attemptId : String
  context : RecoveryContext
  deriving DecidableEq, Repr

/-- The incarnation that a recovery is from: one with a container, active or else the last. -/
def Registry.recoverable (registry : Registry) (soulId : String) : Option Incarnation :=
  let owned := (registry.incarnationsOf soulId).filter (·.container.isSome)
  latest (·.createdAt) (owned.filter (·.active)) <|> latest (·.createdAt) owned

def loadRecoveryContext (registry : Registry) (soulId : String) : Except RegistryError RecoveryContext := do
  let soul ← found (registry.soul soulId) (.unknownSoul soulId)
  let prior ← found (registry.recoverable soulId) (.invalidState s!"soul {soulId} has no incarnation")
  let priorHandle ← loadOwnedHandle registry prior.incarnationId
  return { soulId, desiredState := soul.desiredState, intentRevision := soul.intentRevision,
           recoveryState := soul.recoveryState, projectKey := soul.projectKey,
           requestedLimits := soul.configuredLimits.getD priorHandle.requestedLimits,
           recoveryWindowStartedAt := soul.recoveryWindowStartedAt,
           successfulRecoveriesInWindow := soul.successfulRecoveriesInWindow, priorHandle }

/-- A replacement that never got a container is given up, with its claim and its room. -/
def retireUnownedPreparedReplacement (soulId : String) : Transaction Bool := fun registry =>
  match latest (·.createdAt) ((registry.incarnationsOf soulId).filter fun row =>
      row.launchState == .prepared && row.priorIncarnationId.isSome && row.container.isNone) with
  | none => return (false,registry)
  | some candidate =>
    let registry := registry.updateIncarnation candidate.incarnationId fun row =>
      { row with launchState := .failed, cleanupState := .terminationUnconfirmed }
    let registry := registry.release candidate.incarnationId
    return (true,{ registry with
      souls := updateWhere (fun soul => soul.soulId == soulId && soul.recoveryState == .recovering)
        (fun soul => { soul with recoveryState := .blocked, recoveryAttemptId := none }) registry.souls })

/-- The mark of the attempt, and the old runtime and its input as the attempt leaves them. -/
def startRecovery (context : RecoveryContext) (attemptId : String) (registry : Registry) : Registry :=
  { registry with
    souls := updateWhere
      (fun soul => soul.soulId == context.soulId && soul.desiredState == .running &&
        soul.intentRevision == context.intentRevision)
      (fun soul => { soul with recoveryState := .recovering, recoveryAttemptId := some attemptId }) registry.souls
    incarnations := updateWhere
      (fun row => row.incarnationId == context.priorHandle.incarnationId &&
        (row.launchState == .created || row.launchState == .starting || row.launchState == .running))
      (fun row => { row with launchState := .stopping, cleanupState := .requested, recoveryAttemptId := some attemptId })
      registry.incarnations
    inputCommands := updateWhere (fun row => row.soulId == context.soulId && row.state == .dispatching)
      (fun row => { row with state := .ambiguous }) registry.inputCommands }

/-- A refusal for want of budget is committed: the soul is blocked. -/
def beginRecovery (soulId : String) (trigger : RecoveryTrigger) (attemptId : String) (now : Nat) :
    Transaction (Except RegistryError RecoveryStart) := fun registry => do
  let context ← loadRecoveryContext registry soulId
  ensure (context.desiredState ≠ .stopped) (.recoveryBlocked soulId "STOP_INTENT")
  ensure (context.recoveryState ≠ .recovering) (.recoveryInProgress soulId)
  let available := successfulRecoveryBudgetAvailable context.recoveryWindowStartedAt
    context.successfulRecoveriesInWindow now
  if available = false ∧ trigger ≠ .manualRetry then
    return (.error (.recoveryBlocked soulId "BLOCKED_RETRY_BUDGET"),
      registry.updateSoul soulId fun soul => { soul with recoveryState := .blocked })
  else
    let registry :=
      if available = false then
        registry.updateSoul soulId fun soul =>
          { soul with recoveryWindowStartedAt := some now, successfulRecoveriesInWindow := 0 }
      else registry
    return (.ok { attemptId, context },startRecovery context attemptId registry)

/-- The replacement takes over the room and the writer's claim of the runtime it replaces. -/
def prepareReplacement (start : RecoveryStart) (terminal : Option TerminalLaunchSpec)
    (freshAgent : Option FreshAgentLaunchSpec) (resumeSpec : Option ProviderSession) (incarnationId : String) (now : Nat) :
    Transaction PreparedLaunch := fun registry => do
  let context := start.context
  let soul ← found (registry.soul context.soulId) (.sql "no row")
  ensure (soul.desiredState = .running ∧ soul.intentRevision = context.intentRevision ∧
    soul.recoveryAttemptId = some start.attemptId) (.recoveryBlocked context.soulId "STOP_INTENT_OR_STALE_ATTEMPT")
  let old ← found (registry.incarnation context.priorHandle.incarnationId) (.sql "no row")
  ensure (old.launchState = .stopped ∧ old.cleanupState = .verifiedEmpty)
    (.recoveryBlocked context.soulId "OLD_RUNTIME_NOT_VERIFIED_EMPTY")
  ensure ((registry.incarnationsOf context.soulId).any (·.active) = false) (.activeIncarnation context.soulId)
  let registry ← insertIncarnation
    (preparedIncarnation incarnationId context.soulId context.requestedLimits terminal freshAgent
      (some context.priorHandle.incarnationId) (some start.attemptId) now) registry
  let registry ← insertReservation (reservationOf incarnationId context.projectKey context.requestedLimits) registry
  let registry ← claimWriter resumeSpec context.soulId incarnationId context.intentRevision registry
  return ({ soulId := context.soulId, incarnationId, state := .prepared, intentRevision := context.intentRevision,
            existingRequest := false },registry)

def markRecoveryLive (soulId incarnationId : String) : Transaction PUnit := fun registry => do
  ensure (registry.runsFor soulId incarnationId) (.recoveryBlocked soulId "STOP_INTENT_OR_STALE_INCARNATION")
  return (⟨⟩,{ registry with
    souls := updateWhere (fun soul => soul.soulId == soulId && soul.desiredState == .running)
      (fun soul => { soul with recoveryState := .live, recoveryAttemptId := none }) registry.souls })

def countSuccess (soul : Soul) (now : Nat) : Nat × Nat :=
  match soul.recoveryWindowStartedAt with
  | some started =>
    if now - started < RECOVERY_WINDOW_MS then (started,saturatingAdd soul.successfulRecoveriesInWindow 1) else (now,1)
  | none => (now,1)

def markRecoverySuccess (soulId incarnationId attemptId : String) (now : Nat) : Transaction PUnit := fun registry => do
  let soul ← found (registry.soul soulId) (.sql "no row")
  ensure (soul.desiredState = .running ∧ soul.recoveryAttemptId = some attemptId)
    (.recoveryBlocked soulId "STOP_INTENT_OR_STALE_ATTEMPT")
  let row ← found (registry.incarnations.find? fun row => row.incarnationId == incarnationId && row.soulId == soulId)
    (.sql "no row")
  ensure (row.launchState = .running) (.invalidState "replacement is not RUNNING")
  let counted := countSuccess soul now
  return (⟨⟩,registry.updateSoul soulId fun soul =>
    { soul with recoveryState := .live, recoveryAttemptId := none, recoveryWindowStartedAt := some counted.1,
                successfulRecoveriesInWindow := counted.2 })

/-- A verdict reaches only a soul that is desired running; for any other it is no error. -/
def finishRecoveryVerdict (soulId : String) (state : RecoveryState) : Transaction PUnit := fun registry =>
  return (⟨⟩,{ registry with
    souls := updateWhere (fun soul => soul.soulId == soulId && soul.desiredState == .running)
      (fun soul => { soul with recoveryState := state, recoveryAttemptId := none }) registry.souls })

def markRecoveryBlocked (soulId : String) : Transaction PUnit := finishRecoveryVerdict soulId .blocked

def markRecoveryLost (soulId : String) : Transaction PUnit := finishRecoveryVerdict soulId .lost
end Freshell.Supervisor
