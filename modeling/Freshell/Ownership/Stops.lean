import Freshell.Ownership.Starts

/-!
Explicit stops, the releases of watchers and lane timeouts, and the watchdog
that fences over-aged stops.
-/
namespace Freshell.Ownership

def OwnerIdentity.sameRuntime (owner runtime : OwnerIdentity) : Bool :=
  owner.kind == runtime.kind && owner.terminalId == runtime.terminalId &&
    owner.liveSessionKey == runtime.liveSessionKey && owner.pid == runtime.pid

/-- Runtime-identity match for the release fence: the watched runtime and the
    committing operation must both agree. -/
def runtimeMatches (owner : OwnerIdentity) (claim : ReleaseClaim) : Bool :=
  match claim.runtime with
  | none => false
  | some runtime => owner.sameRuntime runtime && owner.ownershipId == some claim.operationId

theorem stamped_of_runtimeMatches {owner : OwnerIdentity} {claim : ReleaseClaim}
    (matched : runtimeMatches owner claim = true) : owner.ownershipId = some claim.operationId := by
  unfold runtimeMatches at matched
  split at matched
  · cases matched
  · simpa using (Bool.and_eq_true_iff.mp matched).2

def StopClaim.identityMismatch (claim : StopClaim) (owner : OwnerIdentity) : Bool :=
  claim.expectedKind != owner.kind ||
    match claim.expectedRuntime with
    | none => false
    | some expected => !expected.sameRuntime owner

namespace Registry

def beginStop (registry : Registry) (key : SessionKey) (operationId : String) (claim : StopClaim)
    (initiator : String) (nowMs : Nat) : StopOutcome × Registry :=
  match registry.get key with
  | none => (.notLive .vacant,registry)
  | some record =>
    match record.state with
    | .live owner generation _ =>
      if 0 < record.inFlightAttaches then (.blockedHandoff record.state ownershipRetryAfterMs,registry)
      else if claim.observed.epoch ≠ registry.epoch ∨ claim.observed.generation ≠ generation ∨
          claim.identityMismatch owner then
        (.staleClaim registry.epoch generation record.state,registry)
      else
        (.granted (record.generation + 1),registry.set key
          { record with
            generation := record.generation + 1
            state := .stopping (some owner) (some generation) operationId (record.generation + 1) initiator nowMs })
    | .handoff _ _ _ _ _ _ => (.blockedHandoff record.state ownershipRetryAfterMs,registry)
    | state => (.notLive state,registry)

def commitStop (registry : Registry) (key : SessionKey) (operationId : String) (generation : Nat) :
    CommitOutcome × Registry :=
  match registry.get key with
  | none => (.foreignOperation,registry)
  | some record =>
    if generation ≠ record.generation then (.staleGeneration record.generation,registry)
    else
      match record.state with
      | .stopping _ _ op _ _ _ =>
        if op = operationId then (.committed,registry.set key { record with state := .vacant })
        else (.foreignOperation,registry)
      | _ => (.foreignOperation,registry)

/-- Abort a granted stop: the owner is live again at its pre-stop generation,
    while the record keeps the generation that the stop bumped. -/
def abortStop (registry : Registry) (key : SessionKey) (operationId : String) (generation clock : Nat) :
    AbortStopOutcome × Registry :=
  match registry.get key with
  | none => (.foreignOperation,registry)
  | some record =>
    if generation ≠ record.generation then (.staleGeneration record.generation,registry)
    else
      match record.state with
      | .stopping (some owner) (some priorGeneration) op _ _ _ =>
        if op = operationId then
          (.aborted,registry.set key { record with state := .live owner priorGeneration clock })
        else (.foreignOperation,registry)
      | _ => (.foreignOperation,registry)

/-- The exit-watcher hook: a live record that matches the claim exactly goes vacant. -/
def release (registry : Registry) (key : SessionKey) (claim : ReleaseClaim) : Bool × Registry :=
  match registry.get key with
  | none => (false,registry)
  | some record =>
    match record.state with
    | .live owner generation _ =>
      if runtimeMatches owner claim ∧ generation = claim.generation then
        (true,registry.set key { record with state := .vacant })
      else (false,registry)
    | _ => (false,registry)

end Registry

def OwnershipState.forceReleases (state : OwnershipState) (claim : ReleaseClaim) : Bool :=
  match state with
  | .live owner generation _ => runtimeMatches owner claim && generation == claim.generation
  | .stopping owner _ operationId generation _ _ =>
    operationId == claim.operationId && generation == claim.generation &&
      match owner with
      | some owner => runtimeMatches owner claim
      | none => claim.runtime.isNone
  | .starting _ operationId generation _ _ =>
    operationId == claim.operationId && generation == claim.generation && claim.runtime.isNone
  | _ => false

namespace Registry

def forceReleaseForConfirmedKill (registry : Registry) (key : SessionKey) (claim : ReleaseClaim) : Registry :=
  match registry.get key with
  | none => registry
  | some record =>
    if record.state.forceReleases claim then registry.set key { record with state := .vacant } else registry

def registerStopSettlement (registry : Registry) (key : SessionKey) (operationId : String) (generation : Nat)
    (flag : Flag) : Bool × Registry :=
  match registry.get key with
  | none => (false,registry)
  | some record =>
    match record.state with
    | .stopping _ _ op gen _ _ =>
      if op = operationId ∧ gen = generation then
        (true,registry.set key { record with stopSettled := some flag })
      else (false,registry)
    | _ => (false,registry)

end Registry

/-- What the stale-stop sweep does to one record: an over-aged stop whose
    witness is not still running is fenced with its owner as the prior. -/
def recoverStopping (nowMs maxAgeMs : Nat) (fired : Flag → Bool) (key : SessionKey) (record : SessionRecord) :
    Option (StaleStopping × SessionRecord) :=
  match record.state with
  | .stopping owner priorGeneration operationId generation initiator sinceMs =>
    if nowMs - sinceMs < maxAgeMs || stillRunning fired record.stopSettled then none
    else
      let prior := owner.map fun owner => (owner,priorGeneration.getD generation)
      some (⟨key,operationId,generation,prior,initiator,sinceMs⟩,
        { record with state := .fenced prior .staleStop operationId generation initiator sinceMs })
  | _ => none

namespace Registry

/-- The stale-stopping watchdog, over every record. -/
def recoverStaleStoppings (registry : Registry) (nowMs maxAgeMs : Nat) (fired : Flag → Bool) :
    List StaleStopping × Registry :=
  (registry.inner.entries.filterMap (fun entry => (recoverStopping nowMs maxAgeMs fired entry.1 entry.2).map (·.1)),
    registry.mapRecords fun key record => ((recoverStopping nowMs maxAgeMs fired key record).map (·.2)).getD record)


/-- A stop is granted only on a live record without an open attach window, for
    a claim that names its owner and its live generation. -/
theorem beginStop_cases (registry : Registry) (key : SessionKey) (operationId : String) (claim : StopClaim)
    (initiator : String) (nowMs : Nat) :
    let answer := registry.beginStop key operationId claim initiator nowMs
    (answer.2 = registry ∧ ∀ generation, answer.1 ≠ .granted generation) ∨
    ∃ record owner generation sinceMs, registry.get key = some record ∧
      record.state = .live owner generation sinceMs ∧ record.inFlightAttaches = 0 ∧
      claim.observed = ⟨registry.epoch,generation⟩ ∧ claim.identityMismatch owner = false ∧
      answer = (.granted (record.generation + 1),registry.set key
        { record with
          generation := record.generation + 1
          state := .stopping (some owner) (some generation) operationId (record.generation + 1) initiator nowMs }) := by
  fun_cases beginStop registry key operationId claim initiator nowMs with
  | case4 record found owner generation sinceMs held free fresh =>
    obtain ⟨epoch,rest⟩ := not_or.mp fresh
    obtain ⟨current,own⟩ := not_or.mp rest
    have exactly : claim.observed = ⟨registry.epoch,generation⟩ := by rw [← not_not.mp epoch,← not_not.mp current]
    exact .inr ⟨record,owner,generation,sinceMs,found,held,Nat.eq_zero_of_not_pos free,exactly,by simpa using own,rfl⟩
  | _ => exact .inl ⟨rfl,nofun⟩

theorem commitStop_cases (registry : Registry) (key : SessionKey) (operationId : String) (generation : Nat) :
    let answer := registry.commitStop key operationId generation
    (answer.2 = registry ∧ answer.1 ≠ .committed) ∨
    ∃ record owner priorGeneration gen initiator sinceMs, registry.get key = some record ∧
      generation = record.generation ∧
      record.state = .stopping owner priorGeneration operationId gen initiator sinceMs ∧
      answer = (.committed,registry.set key { record with state := .vacant }) := by
  fun_cases commitStop registry key operationId generation with
  | case3 record found current owner priorGeneration gen initiator sinceMs held =>
    exact .inr ⟨record,owner,priorGeneration,gen,initiator,sinceMs,found,not_not.mp current,held,rfl⟩
  | _ => exact .inl ⟨rfl,nofun⟩

theorem abortStop_cases (registry : Registry) (key : SessionKey) (operationId : String) (generation clock : Nat) :
    let answer := registry.abortStop key operationId generation clock
    (answer.2 = registry ∧ answer.1 ≠ .aborted) ∨
    ∃ record owner priorGeneration gen initiator sinceMs, registry.get key = some record ∧
      generation = record.generation ∧
      record.state = .stopping (some owner) (some priorGeneration) operationId gen initiator sinceMs ∧
      answer = (.aborted,registry.set key { record with state := .live owner priorGeneration clock }) := by
  fun_cases abortStop registry key operationId generation clock with
  | case3 record found current owner priorGeneration gen initiator sinceMs held =>
    exact .inr ⟨record,owner,priorGeneration,gen,initiator,sinceMs,found,not_not.mp current,held,rfl⟩
  | _ => exact .inl ⟨rfl,nofun⟩

theorem release_cases (registry : Registry) (key : SessionKey) (claim : ReleaseClaim) :
    let answer := registry.release key claim
    answer = (false,registry) ∨
    ∃ record owner sinceMs, registry.get key = some record ∧
      record.state = .live owner claim.generation sinceMs ∧ runtimeMatches owner claim = true ∧
      answer = (true,registry.set key { record with state := .vacant }) := by
  fun_cases release registry key claim with
  | case2 record found owner generation sinceMs held matched =>
    exact .inr ⟨record,owner,sinceMs,found,matched.2 ▸ held,matched.1,rfl⟩
  | _ => exact .inl rfl

theorem forceRelease_cases (registry : Registry) (key : SessionKey) (claim : ReleaseClaim) :
    registry.forceReleaseForConfirmedKill key claim = registry ∨
    ∃ record, registry.get key = some record ∧ record.state.forceReleases claim = true ∧
      registry.forceReleaseForConfirmedKill key claim = registry.set key { record with state := .vacant } := by
  fun_cases forceReleaseForConfirmedKill registry key claim with
  | case2 record found matched => exact .inr ⟨record,found,matched,rfl⟩
  | _ => exact .inl rfl

theorem registerStopSettlement_cases (registry : Registry) (key : SessionKey) (operationId : String)
    (generation : Nat) (flag : Flag) :
    let answer := registry.registerStopSettlement key operationId generation flag
    answer = (false,registry) ∨
    ∃ record owner priorGeneration initiator sinceMs, registry.get key = some record ∧
      record.state = .stopping owner priorGeneration operationId generation initiator sinceMs ∧
      answer = (true,registry.set key { record with stopSettled := some flag }) := by
  fun_cases registerStopSettlement registry key operationId generation flag with
  | case2 record found owner priorGeneration op gen initiator sinceMs held own =>
    exact .inr ⟨record,owner,priorGeneration,initiator,sinceMs,found,own.1 ▸ own.2 ▸ held,rfl⟩
  | _ => exact .inl rfl

end Registry

theorem recoverStopping_some {nowMs maxAgeMs : Nat} {fired : Flag → Bool} {key : SessionKey} {record : SessionRecord}
    {recovered : StaleStopping × SessionRecord}
    (swept : recoverStopping nowMs maxAgeMs fired key record = some recovered) :
    ∃ owner priorGeneration operationId generation initiator sinceMs,
      record.state = .stopping owner priorGeneration operationId generation initiator sinceMs ∧
      recovered.2 = { record with
        state := .fenced (owner.map fun owner => (owner,priorGeneration.getD generation)) .staleStop operationId
          generation initiator sinceMs } := by
  unfold recoverStopping at swept
  split at swept
  · next owner priorGeneration operationId generation initiator sinceMs held =>
    split at swept
    · cases swept
    · cases swept; exact ⟨owner,priorGeneration,operationId,generation,initiator,sinceMs,held,rfl⟩
  · cases swept

end Freshell.Ownership
