import Freshell.Ownership.Rekeys

/-!
Attach guards: the windows that an attach to a live runtime holds on a key.
-/
namespace Freshell.Ownership

/-- The largest `u32`, where the in-flight count saturates. -/
def maxInFlight : Nat := 4294967295

/-- A guard remembers the key it was armed on; `disarmed` is set by the first
    of disarm and drop, which alone releases the window. -/
structure AttachGuard where
  key : SessionKey
  operationId : String
  generation : Nat
  initiator : String
  armedAtMs : Nat
  disarmed : Bool
deriving DecidableEq, Repr

inductive AttachGuardOutcome where
  | armed (guard : AttachGuard)
  | refused (state : OwnershipState) (generation : Nat)
  | staleGeneration (currentEpoch currentGeneration : Nat)
deriving DecidableEq, Repr

def SessionRecord.arm (record : SessionRecord) (operationId : String) : SessionRecord :=
  { record with
    inFlightAttaches := min (record.inFlightAttaches + 1) maxInFlight
    armedAttachOps := record.armedAttachOps ++ [operationId] }

def SessionRecord.closeWindow (record : SessionRecord) (operationId : String) : SessionRecord :=
  { record with
    inFlightAttaches := record.inFlightAttaches - 1
    armedAttachOps := record.armedAttachOps.erase operationId }

/-- Whether every identity field that the adopter supplied is the owner's. -/
def OwnerIdentity.adoptable (owner expected : OwnerIdentity) : Bool :=
  owner.kind == expected.kind &&
    (expected.terminalId.isNone || owner.terminalId == expected.terminalId) &&
    (expected.liveSessionKey.isNone || owner.liveSessionKey == expected.liveSessionKey) &&
    (expected.pid.isNone || owner.pid == expected.pid)

namespace Registry

def beginAttachGuard (registry : Registry) (key : SessionKey) (operationId : String)
    (observedGeneration : Option Nat) (initiator : String) (clock : Nat) : AttachGuardOutcome × Registry :=
  match registry.get key with
  | none => (.refused .vacant 0,registry)
  | some record =>
    match record.state with
    | .live _ generation _ =>
      if observedGeneration.any (· < generation) then (.staleGeneration registry.epoch generation,registry)
      else (.armed ⟨key,operationId,generation,initiator,clock,false⟩,registry.set key (record.arm operationId))
    | state => (.refused state (snapshotGeneration record),registry)

/-- The atomic adopt: epoch, exact generation, kind and every supplied identity
    field are validated before the window is armed. -/
def beginAdoptGuard (registry : Registry) (key : SessionKey) (operationId : String) (expected : OwnerIdentity)
    (observed : ObservedFence) (initiator : String) (clock : Nat) : AttachGuardOutcome × Registry :=
  if observed.epoch ≠ registry.epoch then (.staleGeneration registry.epoch 0,registry)
  else
    match registry.get key with
    | none => (.refused .vacant 0,registry)
    | some record =>
      match record.state with
      | .live owner generation sinceMs =>
        if observed.generation ≠ generation then (.staleGeneration registry.epoch generation,registry)
        else if owner.adoptable expected then
          (.armed ⟨key,operationId,generation,initiator,clock,false⟩,registry.set key (record.arm operationId))
        else (.refused (.live owner generation sinceMs) generation,registry)
      | state => (.refused state (snapshotGeneration record),registry)

def releaseWindow (registry : Registry) (guard : AttachGuard) : Registry :=
  match registry.get guard.key with
  | none => registry
  | some record => registry.set guard.key (record.closeWindow guard.operationId)

theorem beginAttachGuard_cases (registry : Registry) (key : SessionKey) (operationId : String)
    (observedGeneration : Option Nat) (initiator : String) (clock : Nat) :
    let answer := registry.beginAttachGuard key operationId observedGeneration initiator clock
    (answer.2 = registry ∧ ∀ guard, answer.1 ≠ .armed guard) ∨
    ∃ record owner generation sinceMs, registry.get key = some record ∧
      record.state = .live owner generation sinceMs ∧
      answer = (.armed ⟨key,operationId,generation,initiator,clock,false⟩,
        registry.set key (record.arm operationId)) := by
  fun_cases beginAttachGuard registry key operationId observedGeneration initiator clock with
  | case3 record found owner generation sinceMs held _ =>
    exact .inr ⟨record,owner,generation,sinceMs,found,held,rfl⟩
  | _ => exact .inl ⟨rfl,nofun⟩

theorem beginAdoptGuard_cases (registry : Registry) (key : SessionKey) (operationId : String)
    (expected : OwnerIdentity) (observed : ObservedFence) (initiator : String) (clock : Nat) :
    let answer := registry.beginAdoptGuard key operationId expected observed initiator clock
    (answer.2 = registry ∧ ∀ guard, answer.1 ≠ .armed guard) ∨
    ∃ record owner generation sinceMs, registry.get key = some record ∧
      record.state = .live owner generation sinceMs ∧
      answer = (.armed ⟨key,operationId,generation,initiator,clock,false⟩,
        registry.set key (record.arm operationId)) := by
  fun_cases beginAdoptGuard registry key operationId expected observed initiator clock with
  | case4 _ record found owner generation sinceMs held _ _ =>
    exact .inr ⟨record,owner,generation,sinceMs,found,held,rfl⟩
  | _ => exact .inl ⟨rfl,nofun⟩

def AcceptsAttach (registry : Registry) (key : SessionKey) (observedGeneration : Option Nat) : Prop :=
  ∃ owner generation sinceMs, (registry.record key).state = .live owner generation sinceMs ∧
    observedGeneration.any (· < generation) = false

def AcceptsAdopt (registry : Registry) (key : SessionKey) (expected : OwnerIdentity)
    (observed : ObservedFence) : Prop :=
  observed.epoch = registry.epoch ∧ ∃ owner sinceMs,
    (registry.record key).state = .live owner observed.generation sinceMs ∧ owner.adoptable expected = true

theorem acceptsAttach_of_armed {registry : Registry} {key : SessionKey} {operationId initiator : String}
    {observedGeneration : Option Nat} {clock : Nat} {guard : AttachGuard}
    (armed : (registry.beginAttachGuard key operationId observedGeneration initiator clock).1 = .armed guard) :
    registry.AcceptsAttach key observedGeneration := by
  revert armed
  fun_cases beginAttachGuard registry key operationId observedGeneration initiator clock with
  | case3 record found owner generation sinceMs held current =>
    exact fun _ => ⟨owner,generation,sinceMs,by rw [record_of_get found,held],eq_false_of_ne_true current⟩
  | _ => exact nofun

theorem acceptsAdopt_of_armed {registry : Registry} {key : SessionKey} {operationId initiator : String}
    {expected : OwnerIdentity} {observed : ObservedFence} {clock : Nat} {guard : AttachGuard}
    (armed : (registry.beginAdoptGuard key operationId expected observed initiator clock).1 = .armed guard) :
    registry.AcceptsAdopt key expected observed := by
  revert armed
  fun_cases beginAdoptGuard registry key operationId expected observed initiator clock with
  | case4 epoch record found owner generation sinceMs held current adopted =>
    have live : (registry.record key).state = .live owner observed.generation sinceMs := by
      rw [record_of_get found,held,not_not.mp current]
    exact fun _ => ⟨not_not.mp epoch,owner,sinceMs,live,adopted⟩
  | _ => exact nofun

end Registry
end Freshell.Ownership
