import Freshell.Ownership.Stops

/-!
The typed fences over a runtime whose death is unconfirmed, their release on
confirmed death, and the operator's acknowledged force-clear.
-/
namespace Freshell.Ownership
namespace Registry

/-- Fence this operation's handoff; the prior is the unconfirmed runtime that
    the caller names, else the one the handoff captured. -/
def fenceUnconfirmedHandoffWithPrior (registry : Registry) (key : SessionKey) (operationId : String)
    (generation : Nat) (reason : FenceReason) (unconfirmed : Option (OwnerIdentity × Nat)) (clock : Nat) :
    FenceOutcome × Registry :=
  match registry.get key with
  | none => (.foreignOperation,registry)
  | some record =>
    if generation ≠ record.generation then (.foreignOperation,registry)
    else
      match record.state with
      | .handoff prior _ op _ initiator _ =>
        if op = operationId then
          (.fenced,registry.set key
            { record with state := .fenced (unconfirmed.or prior) reason op generation initiator clock })
        else (.foreignOperation,registry)
      | _ => (.foreignOperation,registry)

def fenceUnconfirmedHandoff (registry : Registry) (key : SessionKey) (operationId : String) (generation : Nat)
    (reason : FenceReason) (clock : Nat) : FenceOutcome × Registry :=
  registry.fenceUnconfirmedHandoffWithPrior key operationId generation reason none clock

def fenceUnconfirmedStop (registry : Registry) (key : SessionKey) (operationId : String) (generation : Nat)
    (reason : FenceReason) (clock : Nat) : FenceOutcome × Registry :=
  match registry.get key with
  | none => (.foreignOperation,registry)
  | some record =>
    if generation ≠ record.generation then (.foreignOperation,registry)
    else
      match record.state with
      | .stopping owner priorGeneration op _ initiator _ =>
        if op = operationId then
          (.fenced,registry.set key
            { record with
              state := .fenced (owner.map fun owner => (owner,priorGeneration.getD (generation - 1))) reason op
                generation initiator clock })
        else (.foreignOperation,registry)
      | _ => (.foreignOperation,registry)

/-- Fence a live runtime whose exit was seen but whose process tree was not
    confirmed dead; a live state records no initiator. -/
def fenceUnconfirmedLive (registry : Registry) (key : SessionKey) (operationId : String) (generation : Nat)
    (expectedRuntime : OwnerIdentity) (reason : FenceReason) (clock : Nat) : FenceOutcome × Registry :=
  match registry.get key with
  | none => (.foreignOperation,registry)
  | some record =>
    if generation ≠ record.generation then (.foreignOperation,registry)
    else
      match record.state with
      | .live owner liveGeneration _ =>
        if liveGeneration = generation ∧ owner.sameRuntime expectedRuntime ∧
            owner.ownershipId = some operationId then
          (.fenced,registry.set key
            { record with
              state := .fenced (some (owner,generation)) reason operationId generation
                (record.state.initiator.getD "") clock })
        else (.foreignOperation,registry)
      | _ => (.foreignOperation,registry)

/-- The release of a fence after the prior's death was confirmed. -/
def releaseFenced (registry : Registry) (key : SessionKey) (operationId : String) (generation : Nat) :
    CommitOutcome × Registry :=
  match registry.get key with
  | none => (.foreignOperation,registry)
  | some record =>
    if generation ≠ record.generation then (.staleGeneration record.generation,registry)
    else
      match record.state with
      | .fenced _ _ op _ _ _ =>
        if op = operationId then (.committed,registry.set key { record with state := .vacant })
        else (.foreignOperation,registry)
      | _ => (.foreignOperation,registry)

end Registry

/-- The fence reasons that nothing can confirm and an operator may clear. -/
def FenceReason.isUnconfirmable : FenceReason → Bool
  | .platformLimited | .staleStart | .staleStop => true
  | .watcherFailed | .clearedUnverified => false

namespace Registry

/-- The acknowledged operator force-clear: an unconfirmable fence, observed
    exactly, becomes `clearedUnverified`. -/
def forceReleasePlatformLimited (registry : Registry) (key : SessionKey) (observed : ObservedFence)
    (initiator : String) (clock : Nat) : ForceReleaseOutcome × Registry :=
  match registry.get key with
  | none => (.notPlatformLimited .vacant,registry)
  | some record =>
    if observed.epoch ≠ registry.epoch ∨ observed.generation ≠ snapshotGeneration record then
      (.staleObservation registry.epoch (snapshotGeneration record),registry)
    else
      match record.state with
      | .fenced prior reason operationId generation heldBy sinceMs =>
        if reason.isUnconfirmable then
          (.released,registry.set key
            { record with state := .fenced prior .clearedUnverified operationId record.generation initiator clock })
        else (.notPlatformLimited (.fenced prior reason operationId generation heldBy sinceMs),registry)
      | state => (.notPlatformLimited state,registry)

end Registry

/-- One stale fence for the watchdog's confirmed-death probe. -/
structure StaleStartFence where
  key : SessionKey
  operationId : String
  generation : Nat
  priorPid : Option Nat
  initiator : String
  priorKind : Option RuntimeOwnerKind
  settleConcluded : Option Bool
  reason : FenceReason
  priorTerminalId : Option String
  sinceMs : Nat
deriving DecidableEq, Repr

/-- The probe input of one record; the settlement evidence follows the reason. -/
def staleFence (fired : Flag → Bool) (key : SessionKey) (record : SessionRecord) : Option StaleStartFence :=
  match record.state with
  | .fenced prior reason operationId generation initiator sinceMs =>
    let evidence : Option (Option Flag) :=
      match reason with
      | .staleStart => some record.settleFired
      | .staleStop => some record.stopSettled
      | _ => none
    evidence.map fun flag =>
      ⟨key,operationId,generation,prior.bind (·.1.pid),initiator,prior.map (·.1.kind),flag.map fired,reason,
        prior.bind (·.1.terminalId),sinceMs⟩
  | _ => none

def Registry.staleStartFences (registry : Registry) (fired : Flag → Bool) : List StaleStartFence :=
  registry.inner.entries.filterMap fun entry => staleFence fired entry.1 entry.2

namespace Registry

theorem fenceUnconfirmedHandoff_cases (registry : Registry) (key : SessionKey) (operationId : String)
    (generation : Nat) (reason : FenceReason) (unconfirmed : Option (OwnerIdentity × Nat)) (clock : Nat) :
    let answer := registry.fenceUnconfirmedHandoffWithPrior key operationId generation reason unconfirmed clock
    answer = (.foreignOperation,registry) ∨
    ∃ record prior toKind gen initiator sinceMs, registry.get key = some record ∧ generation = record.generation ∧
      record.state = .handoff prior toKind operationId gen initiator sinceMs ∧
      answer = (.fenced,registry.set key
        { record with state := .fenced (unconfirmed.or prior) reason operationId generation initiator clock }) := by
  fun_cases fenceUnconfirmedHandoffWithPrior registry key operationId generation reason unconfirmed clock with
  | case3 record found current prior toKind gen initiator sinceMs held =>
    exact .inr ⟨record,prior,toKind,gen,initiator,sinceMs,found,not_not.mp current,held,rfl⟩
  | _ => exact .inl rfl

theorem fenceUnconfirmedStop_cases (registry : Registry) (key : SessionKey) (operationId : String)
    (generation : Nat) (reason : FenceReason) (clock : Nat) :
    let answer := registry.fenceUnconfirmedStop key operationId generation reason clock
    answer = (.foreignOperation,registry) ∨
    ∃ record owner priorGeneration gen initiator sinceMs, registry.get key = some record ∧
      generation = record.generation ∧
      record.state = .stopping owner priorGeneration operationId gen initiator sinceMs ∧
      answer = (.fenced,registry.set key
        { record with
          state := .fenced (owner.map fun owner => (owner,priorGeneration.getD (generation - 1))) reason operationId
            generation initiator clock }) := by
  fun_cases fenceUnconfirmedStop registry key operationId generation reason clock with
  | case3 record found current owner priorGeneration gen initiator sinceMs held =>
    exact .inr ⟨record,owner,priorGeneration,gen,initiator,sinceMs,found,not_not.mp current,held,rfl⟩
  | _ => exact .inl rfl

theorem fenceUnconfirmedLive_cases (registry : Registry) (key : SessionKey) (operationId : String)
    (generation : Nat) (expectedRuntime : OwnerIdentity) (reason : FenceReason) (clock : Nat) :
    let answer := registry.fenceUnconfirmedLive key operationId generation expectedRuntime reason clock
    answer = (.foreignOperation,registry) ∨
    ∃ record owner sinceMs, registry.get key = some record ∧ generation = record.generation ∧
      record.state = .live owner generation sinceMs ∧ owner.ownershipId = some operationId ∧
      answer = (.fenced,registry.set key
        { record with state := .fenced (some (owner,generation)) reason operationId generation "" clock }) := by
  fun_cases fenceUnconfirmedLive registry key operationId generation expectedRuntime reason clock with
  | case3 record found current owner liveGeneration sinceMs held own =>
    exact .inr ⟨record,owner,sinceMs,found,not_not.mp current,own.1 ▸ held,own.2.2,by rw [held]; rfl⟩
  | _ => exact .inl rfl

theorem releaseFenced_cases (registry : Registry) (key : SessionKey) (operationId : String) (generation : Nat) :
    let answer := registry.releaseFenced key operationId generation
    (answer.2 = registry ∧ answer.1 ≠ .committed) ∨
    ∃ record prior reason gen initiator sinceMs, registry.get key = some record ∧ generation = record.generation ∧
      record.state = .fenced prior reason operationId gen initiator sinceMs ∧
      answer = (.committed,registry.set key { record with state := .vacant }) := by
  fun_cases releaseFenced registry key operationId generation with
  | case3 record found current prior reason gen initiator sinceMs held =>
    exact .inr ⟨record,prior,reason,gen,initiator,sinceMs,found,not_not.mp current,held,rfl⟩
  | _ => exact .inl ⟨rfl,nofun⟩

theorem forceReleasePlatformLimited_cases (registry : Registry) (key : SessionKey) (observed : ObservedFence)
    (initiator : String) (clock : Nat) :
    let answer := registry.forceReleasePlatformLimited key observed initiator clock
    (answer.2 = registry ∧ answer.1 ≠ .released) ∨
    ∃ record prior reason operationId generation heldBy sinceMs, registry.get key = some record ∧
      record.state = .fenced prior reason operationId generation heldBy sinceMs ∧ reason.isUnconfirmable = true ∧
      answer = (.released,registry.set key
        { record with state := .fenced prior .clearedUnverified operationId record.generation initiator clock }) := by
  fun_cases forceReleasePlatformLimited registry key observed initiator clock with
  | case3 record found fresh prior reason operationId generation heldBy sinceMs held clears =>
    exact .inr ⟨record,prior,reason,operationId,generation,heldBy,sinceMs,found,held,clears,rfl⟩
  | _ => exact .inl ⟨rfl,nofun⟩

end Registry
end Freshell.Ownership
