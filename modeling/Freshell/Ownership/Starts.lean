import Freshell.Ownership.Types

/-!
Begins, commits and failures of start and handoff operations, and the watchdog
that recovers over-aged starts. `clock` is the wall-clock reading that an
operation takes inside its lock scope.
-/
namespace Freshell.Ownership

namespace Registry

/-- The fence-relevant generation of a key, 0 where it has no record. -/
def currentGeneration (registry : Registry) (key : SessionKey) : Nat :=
  ((registry.get key).map snapshotGeneration).getD 0

/-- Whether a delayed request carries a fence of another epoch or of an older
    generation; a request without a fence is never stale. -/
def isStale (registry : Registry) (key : SessionKey) : Option ObservedFence → Bool
  | none => false
  | some fence => fence.epoch != registry.epoch || decide (fence.generation < registry.currentGeneration key)

end Registry

/-- Whether the caller named one of the record's armed attach windows. -/
def SessionRecord.isWindowed (record : SessionRecord) : Option String → Bool
  | none => false
  | some windowOp => record.armedAttachOps.contains windowOp

namespace Registry

def beginStartInner (registry : Registry) (key : SessionKey) (kind : RuntimeOwnerKind) (operationId : String)
    (observed : Option ObservedFence) (initiator : String) (nowMs : Nat) (attachWindowOperationId : Option String) :
    BeginOutcome × Registry :=
  if registry.isStale key observed then
    (.staleGeneration registry.epoch (registry.currentGeneration key),registry)
  else
    let record := registry.record key
    match record.state with
    | .aliased toId generation => (.blocked (.aliased toId generation) ownershipRetryAfterMs,registry)
    | .vacant =>
      if 0 < record.inFlightAttaches && !record.isWindowed attachWindowOperationId then
        (.blocked record.state ownershipRetryAfterMs,registry)
      else
        (.granted (record.generation + 1),registry.set key
          { record with
            cancellation := none
            settle := none
            settleFired := none
            partialRuntime := none
            generation := record.generation + 1
            state := .starting kind operationId (record.generation + 1) initiator nowMs })
    | .starting heldKind heldOp generation heldBy sinceMs =>
      if heldKind = kind ∧ heldOp = operationId then (.granted generation,registry)
      else (.blocked (.starting heldKind heldOp generation heldBy sinceMs) ownershipRetryAfterMs,registry)
    | .handoff prior toKind handoffOp generation heldBy sinceMs =>
      if toKind = kind ∧ handoffOp = operationId then (.granted generation,registry)
      else (.blocked (.handoff prior toKind handoffOp generation heldBy sinceMs) ownershipRetryAfterMs,registry)
    | .live owner generation _ =>
      if owner.kind = kind then (.adoptLive owner generation,registry)
      else (.ownedByOtherKind owner generation,registry)
    | state => (.blocked state ownershipRetryAfterMs,registry)

def beginStart (registry : Registry) (key : SessionKey) (kind : RuntimeOwnerKind) (operationId : String)
    (observed : Option ObservedFence) (initiator : String) (nowMs : Nat) : BeginOutcome × Registry :=
  registry.beginStartInner key kind operationId observed initiator nowMs none

/-- The begin of an attach-guard holder inside its own window. -/
def beginStartUnderAttachWindow (registry : Registry) (key : SessionKey) (kind : RuntimeOwnerKind)
    (operationId : String) (observed : Option ObservedFence) (initiator : String) (nowMs : Nat)
    (windowOperationId : String) : BeginOutcome × Registry :=
  registry.beginStartInner key kind operationId observed initiator nowMs (some windowOperationId)

def beginHandoff (registry : Registry) (key : SessionKey) (toKind : RuntimeOwnerKind) (operationId : String)
    (observed : Option ObservedFence) (initiator : String) (nowMs : Nat) : BeginOutcome × Registry :=
  if registry.isStale key observed then
    (.staleGeneration registry.epoch (registry.currentGeneration key),registry)
  else
    let record := registry.record key
    let entered (prior : Option (OwnerIdentity × Nat)) :=
      if 0 < record.inFlightAttaches then (.blocked record.state ownershipRetryAfterMs,registry)
      else
        (.granted (record.generation + 1),registry.set key
          { record with
            generation := record.generation + 1
            state := .handoff prior toKind operationId (record.generation + 1) initiator nowMs })
    match record.state with
    | .vacant => entered none
    | .live owner generation _ => entered (some (owner,generation))
    | state => (.blocked state ownershipRetryAfterMs,registry)

/-- The acknowledged start: only a `clearedUnverified` fence, observed exactly,
    enters a handoff, which carries the unverified prior as its reap target.
    The in-flight attaches of the record are not consulted. -/
def beginHandoffAcknowledgedClearedUnverified (registry : Registry) (key : SessionKey) (toKind : RuntimeOwnerKind)
    (operationId : String) (observed : ObservedFence) (initiator : String) (nowMs : Nat) :
    AcknowledgedStartOutcome × Registry :=
  match registry.get key with
  | none => (.lostRace .vacant,registry)
  | some record =>
    if observed.epoch ≠ registry.epoch ∨ observed.generation ≠ snapshotGeneration record then
      (.staleObservation registry.epoch (snapshotGeneration record),registry)
    else
      match record.state with
      | .fenced prior .clearedUnverified _ _ _ _ =>
        (.granted (record.generation + 1),registry.set key
          { record with
            generation := record.generation + 1
            state := .handoff prior toKind operationId (record.generation + 1) initiator nowMs })
      | state => (.lostRace state,registry)

end Registry

/-- The committed owner carries the committing operation as its release fence. -/
def OwnerIdentity.stamped (owner : OwnerIdentity) (operationId : String) : OwnerIdentity :=
  { owner with ownershipId := some (owner.ownershipId.getD operationId) }

/-- Whether this operation's `starting` or its `handoff` to `kind` holds the record. -/
def OwnershipState.commits (state : OwnershipState) (operationId : String) (kind : RuntimeOwnerKind) : Bool :=
  match state with
  | .starting _ op _ _ _ => op == operationId
  | .handoff _ toKind op _ _ _ => op == operationId && toKind == kind
  | _ => false

namespace Registry

def commitLive (registry : Registry) (key : SessionKey) (operationId : String) (generation : Nat)
    (owner : OwnerIdentity) (clock : Nat) : CommitOutcome × Registry :=
  match registry.get key with
  | none => (.foreignOperation,registry)
  | some record =>
    if generation ≠ record.generation then (.staleGeneration record.generation,registry)
    else if record.state.commits operationId owner.kind then
      (.committed,registry.set key { record with state := .live (owner.stamped operationId) generation clock })
    else (.foreignOperation,registry)

/-- Fail an in-flight operation; a handoff restores its prior only when the
    caller confirms it is still live, at the record's current generation. -/
def fail (registry : Registry) (key : SessionKey) (operationId : String) (generation : Nat)
    (priorConfirmedLive : Bool) (clock : Nat) : FailOutcome × Registry :=
  match registry.get key with
  | none => (.foreignOperation,registry)
  | some record =>
    if generation ≠ record.generation then (.foreignOperation,registry)
    else
      match record.state with
      | .starting _ op _ _ _ =>
        if op = operationId then (.released,registry.set key { record with state := .vacant })
        else (.foreignOperation,registry)
      | .handoff prior _ op _ _ _ =>
        if op = operationId then
          match prior with
          | some (owner,_) =>
            if priorConfirmedLive then
              (.restoredPriorOwner,registry.set key { record with state := .live owner record.generation clock })
            else (.vacant .priorNotLive,registry.set key { record with state := .vacant })
          | none => (.vacant .noPrior,registry.set key { record with state := .vacant })
        else (.foreignOperation,registry)
      | _ => (.foreignOperation,registry)

def dropTicket (registry : Registry) (key : SessionKey) (operationId : String) (generation clock : Nat) :
    FailOutcome × Registry :=
  registry.fail key operationId generation false clock

end Registry

/-- Whether the record is this operation's `starting` at this generation. -/
def SessionRecord.isStarting (record : SessionRecord) (operationId : String) (generation : Nat) : Bool :=
  match record.state with
  | .starting _ op gen _ _ => op == operationId && gen == generation
  | _ => false

namespace Registry

def registerStartCancellation (registry : Registry) (key : SessionKey) (operationId : String) (generation : Nat)
    (abort settle : Handle) (settleFired : Option Flag) : Bool × Registry :=
  match registry.get key with
  | none => (false,registry)
  | some record =>
    if record.isStarting operationId generation then
      (true,registry.set key
        { record with cancellation := some abort, settle := some settle, settleFired := settleFired })
    else (false,registry)

def registerPartialRuntime (registry : Registry) (key : SessionKey) (operationId : String) (generation : Nat)
    (owner : OwnerIdentity) : Registry :=
  match registry.get key with
  | none => registry
  | some record =>
    if record.isStarting operationId generation then registry.set key { record with partialRuntime := some owner }
    else registry

end Registry

/-- A settlement flag that was registered and has not fired. -/
def stillRunning (fired : Flag → Bool) : Option Flag → Bool
  | none => false
  | some flag => !fired flag

/-- What the stale-start sweep does to one record: an over-aged start whose
    witness is not still running goes to a `stopping` that owns no live era. -/
def recoverStart (nowMs maxAgeMs : Nat) (fired : Flag → Bool) (key : SessionKey) (record : SessionRecord) :
    Option (RecoveredStart × SessionRecord) :=
  match record.state with
  | .starting kind operationId generation initiator sinceMs =>
    if maxAgeMs ≤ nowMs - sinceMs && !stillRunning fired record.settleFired then
      some (⟨key,operationId,generation,kind,initiator,sinceMs,record.cancellation,record.settle,record.partialRuntime⟩,
        { record with
          cancellation := none
          settle := none
          partialRuntime := none
          state := .stopping record.partialRuntime none operationId generation initiator sinceMs })
    else none
  | _ => none

namespace Registry

/-- The stale-start watchdog, over every record. -/
def recoverStaleStarts (registry : Registry) (nowMs maxAgeMs : Nat) (fired : Flag → Bool) :
    List RecoveredStart × Registry :=
  (registry.inner.entries.filterMap (fun entry => (recoverStart nowMs maxAgeMs fired entry.1 entry.2).map (·.1)),
    registry.mapRecords fun key record => ((recoverStart nowMs maxAgeMs fired key record).map (·.2)).getD record)


theorem currentGeneration_eq (registry : Registry) (key : SessionKey) :
    registry.currentGeneration key = snapshotGeneration (registry.record key) := by
  unfold currentGeneration Registry.record
  cases registry.get key <;> rfl

/-- A begin of a start enters `starting` from a vacant record, or leaves the
    registry as it is; then it answers a grant only to a re-claim. -/
theorem beginStartInner_cases (registry : Registry) (key : SessionKey) (kind : RuntimeOwnerKind) (operationId : String)
    (observed : Option ObservedFence) (initiator : String) (nowMs : Nat) (window : Option String) :
    let answer := registry.beginStartInner key kind operationId observed initiator nowMs window
    let record := registry.record key
    (answer.2 = registry ∧ ∀ generation, answer.1 = .granted generation →
      (∃ heldBy sinceMs, record.state = .starting kind operationId generation heldBy sinceMs) ∨
      ∃ prior heldBy sinceMs, record.state = .handoff prior kind operationId generation heldBy sinceMs) ∨
    (registry.isStale key observed = false ∧ record.state = .vacant ∧
      (record.inFlightAttaches = 0 ∨ record.isWindowed window = true) ∧
      answer = (.granted (record.generation + 1),registry.set key
        { record with
          cancellation := none
          settle := none
          settleFired := none
          partialRuntime := none
          generation := record.generation + 1
          state := .starting kind operationId (record.generation + 1) initiator nowMs })) := by
  fun_cases beginStartInner registry key kind operationId observed initiator nowMs window with
  | case4 fresh record held blocked =>
    refine .inr ⟨eq_false_of_ne_true fresh,held,?_,rfl⟩
    rw [Bool.and_eq_true,not_and_or] at blocked
    rcases blocked with none | windowed
    · left; simpa using none
    · right; simpa using windowed
  | case5 _ record heldKind heldOp generation heldBy sinceMs held reclaim =>
    obtain ⟨rfl,rfl⟩ := reclaim
    refine .inl ⟨rfl,?_⟩
    rintro _ ⟨⟩
    exact .inl ⟨heldBy,sinceMs,held⟩
  | case7 _ record prior toKind heldOp generation heldBy sinceMs held reclaim =>
    obtain ⟨rfl,rfl⟩ := reclaim
    refine .inl ⟨rfl,?_⟩
    rintro _ ⟨⟩
    exact .inr ⟨prior,heldBy,sinceMs,held⟩
  | _ => exact .inl ⟨rfl,nofun⟩

/-- A handoff is granted from a vacant record, or from a live one that it
    captures, and only while no attach window is open. -/
theorem beginHandoff_cases (registry : Registry) (key : SessionKey) (toKind : RuntimeOwnerKind) (operationId : String)
    (observed : Option ObservedFence) (initiator : String) (nowMs : Nat) :
    let answer := registry.beginHandoff key toKind operationId observed initiator nowMs
    let record := registry.record key
    (answer.2 = registry ∧ ∀ generation, answer.1 ≠ .granted generation) ∨
    ∃ prior, registry.isStale key observed = false ∧ ((record.state = .vacant ∧ prior = none) ∨
        ∃ owner generation sinceMs, record.state = .live owner generation sinceMs ∧ prior = some (owner,generation)) ∧
      record.inFlightAttaches = 0 ∧
      answer = (.granted (record.generation + 1),registry.set key
        { record with
          generation := record.generation + 1
          state := .handoff prior toKind operationId (record.generation + 1) initiator nowMs }) := by
  fun_cases beginHandoff registry key toKind operationId observed initiator nowMs with
  | case2 fresh record entered held =>
    by_cases free : 0 < record.inFlightAttaches
    · exact .inl (by simp [entered,free])
    · refine .inr ⟨none,eq_false_of_ne_true fresh,.inl ⟨held,rfl⟩,Nat.eq_zero_of_not_pos free,?_⟩
      exact if_neg free
  | case3 fresh record entered owner generation sinceMs held =>
    by_cases free : 0 < record.inFlightAttaches
    · exact .inl (by simp [entered,free])
    · refine .inr ⟨some (owner,generation),eq_false_of_ne_true fresh,.inr ⟨owner,generation,sinceMs,held,rfl⟩,
        Nat.eq_zero_of_not_pos free,?_⟩
      exact if_neg free
  | _ => exact .inl ⟨rfl,nofun⟩

theorem beginHandoffAcknowledged_cases (registry : Registry) (key : SessionKey) (toKind : RuntimeOwnerKind)
    (operationId : String) (observed : ObservedFence) (initiator : String) (nowMs : Nat) :
    let answer := registry.beginHandoffAcknowledgedClearedUnverified key toKind operationId observed initiator nowMs
    (answer.2 = registry ∧ ∀ generation, answer.1 ≠ .granted generation) ∨
    ∃ record prior fencedBy generation heldBy sinceMs, registry.get key = some record ∧
      observed = ⟨registry.epoch,snapshotGeneration record⟩ ∧
      record.state = .fenced prior .clearedUnverified fencedBy generation heldBy sinceMs ∧
      answer = (.granted (record.generation + 1),registry.set key
        { record with
          generation := record.generation + 1
          state := .handoff prior toKind operationId (record.generation + 1) initiator nowMs }) := by
  fun_cases beginHandoffAcknowledgedClearedUnverified registry key toKind operationId observed initiator nowMs with
  | case3 record found fresh prior fencedBy generation heldBy sinceMs held =>
    obtain ⟨epoch,current⟩ := not_or.mp fresh
    have exactly : observed = ⟨registry.epoch,snapshotGeneration record⟩ := by rw [← not_not.mp epoch,← not_not.mp current]
    exact .inr ⟨record,prior,fencedBy,generation,heldBy,sinceMs,found,exactly,held,rfl⟩
  | _ => exact .inl ⟨rfl,nofun⟩

theorem commitLive_cases (registry : Registry) (key : SessionKey) (operationId : String) (generation : Nat)
    (owner : OwnerIdentity) (clock : Nat) :
    let answer := registry.commitLive key operationId generation owner clock
    (answer.2 = registry ∧ answer.1 ≠ .committed) ∨
    ∃ record, registry.get key = some record ∧ generation = record.generation ∧
      record.state.commits operationId owner.kind = true ∧
      answer = (.committed,registry.set key
        { record with state := .live (owner.stamped operationId) generation clock }) := by
  fun_cases commitLive registry key operationId generation owner clock with
  | case3 record found current commits => exact .inr ⟨record,found,not_not.mp current,commits,rfl⟩
  | _ => exact .inl ⟨rfl,nofun⟩

end Registry

/-- The record is in flight under this operation: its own start or handoff. -/
def OwnershipState.heldBy (state : OwnershipState) (operationId : String) : Prop :=
  (∃ kind generation initiator sinceMs, state = .starting kind operationId generation initiator sinceMs) ∨
    ∃ prior toKind generation initiator sinceMs, state = .handoff prior toKind operationId generation initiator sinceMs

theorem OwnershipState.heldBy_of_commits {state : OwnershipState} {operationId : String} {kind : RuntimeOwnerKind}
    (commits : state.commits operationId kind = true) : state.heldBy operationId := by
  cases state with
  | starting heldKind op generation initiator sinceMs =>
    simp only [OwnershipState.commits,beq_iff_eq] at commits
    exact .inl ⟨heldKind,generation,initiator,sinceMs,by rw [commits]⟩
  | handoff prior toKind op generation initiator sinceMs =>
    simp only [OwnershipState.commits,Bool.and_eq_true,beq_iff_eq] at commits
    exact .inr ⟨prior,toKind,generation,initiator,sinceMs,by rw [commits.1]⟩
  | _ => simp [OwnershipState.commits] at commits

namespace Registry

/-- A failed operation's record goes vacant, or live under the prior of its
    handoff that the caller confirmed. -/
theorem fail_cases (registry : Registry) (key : SessionKey) (operationId : String) (generation : Nat)
    (priorConfirmedLive : Bool) (clock : Nat) :
    let answer := registry.fail key operationId generation priorConfirmedLive clock
    answer = (.foreignOperation,registry) ∨
    ∃ record, registry.get key = some record ∧ generation = record.generation ∧ record.state.heldBy operationId ∧
      answer.1 ≠ .foreignOperation ∧
      (answer.2 = registry.set key { record with state := .vacant } ∨
        ∃ owner priorGeneration, record.state.priorOwner = some (owner,priorGeneration) ∧
          answer.2 = registry.set key { record with state := .live owner record.generation clock }) := by
  fun_cases fail registry key operationId generation priorConfirmedLive clock with
  | case3 record found current kind gen initiator sinceMs held =>
    exact .inr ⟨record,found,not_not.mp current,.inl ⟨kind,gen,initiator,sinceMs,held⟩,nofun,.inl rfl⟩
  | case5 record found current toKind gen initiator sinceMs owner priorGeneration confirmed held =>
    refine .inr ⟨record,found,not_not.mp current,.inr ⟨_,toKind,gen,initiator,sinceMs,held⟩,nofun,.inr ?_⟩
    exact ⟨owner,priorGeneration,by rw [held]; rfl,rfl⟩
  | case6 record found current toKind gen initiator sinceMs owner priorGeneration _ held =>
    exact .inr ⟨record,found,not_not.mp current,.inr ⟨_,toKind,gen,initiator,sinceMs,held⟩,nofun,.inl rfl⟩
  | case7 record found current toKind gen initiator sinceMs held =>
    exact .inr ⟨record,found,not_not.mp current,.inr ⟨_,toKind,gen,initiator,sinceMs,held⟩,nofun,.inl rfl⟩
  | _ => exact .inl rfl

end Registry

theorem SessionRecord.isStarting_iff (record : SessionRecord) (operationId : String) (generation : Nat) :
    record.isStarting operationId generation = true ↔
      ∃ kind initiator sinceMs, record.state = .starting kind operationId generation initiator sinceMs := by
  unfold SessionRecord.isStarting
  split
  · next held => simp [held]
  · next other => simpa using fun kind initiator sinceMs held => other kind operationId generation initiator sinceMs held

/-- The sweep of one record goes from `starting` to a `stopping` without a prior era. -/
theorem recoverStart_some {nowMs maxAgeMs : Nat} {fired : Flag → Bool} {key : SessionKey} {record : SessionRecord}
    {recovered : RecoveredStart × SessionRecord} (swept : recoverStart nowMs maxAgeMs fired key record = some recovered) :
    ∃ kind operationId generation initiator sinceMs,
      record.state = .starting kind operationId generation initiator sinceMs ∧
      recovered.2 = { record with
        cancellation := none
        settle := none
        partialRuntime := none
        state := .stopping record.partialRuntime none operationId generation initiator sinceMs } := by
  unfold recoverStart at swept
  split at swept
  · next kind operationId generation initiator sinceMs held =>
    split at swept
    · cases swept; exact ⟨kind,operationId,generation,initiator,sinceMs,held,rfl⟩
    · cases swept
  · cases swept

namespace Registry

theorem registerStartCancellation_cases (registry : Registry) (key : SessionKey) (operationId : String)
    (generation : Nat) (abort settle : Handle) (settleFired : Option Flag) :
    let answer := registry.registerStartCancellation key operationId generation abort settle settleFired
    answer = (false,registry) ∨
    ∃ record kind initiator sinceMs, registry.get key = some record ∧
      record.state = .starting kind operationId generation initiator sinceMs ∧
      answer = (true,registry.set key
        { record with cancellation := some abort, settle := some settle, settleFired := settleFired }) := by
  fun_cases registerStartCancellation registry key operationId generation abort settle settleFired with
  | case2 record found own =>
    obtain ⟨kind,initiator,sinceMs,held⟩ := (record.isStarting_iff _ _).mp own
    exact .inr ⟨record,kind,initiator,sinceMs,found,held,rfl⟩
  | _ => exact .inl rfl

theorem registerPartialRuntime_cases (registry : Registry) (key : SessionKey) (operationId : String)
    (generation : Nat) (owner : OwnerIdentity) :
    registry.registerPartialRuntime key operationId generation owner = registry ∨
    ∃ record kind initiator sinceMs, registry.get key = some record ∧
      record.state = .starting kind operationId generation initiator sinceMs ∧
      registry.registerPartialRuntime key operationId generation owner =
        registry.set key { record with partialRuntime := some owner } := by
  fun_cases registerPartialRuntime registry key operationId generation owner with
  | case2 record found own =>
    obtain ⟨kind,initiator,sinceMs,held⟩ := (record.isStarting_iff _ _).mp own
    exact .inr ⟨record,kind,initiator,sinceMs,found,held,rfl⟩
  | _ => exact .inl rfl

end Registry
end Freshell.Ownership
