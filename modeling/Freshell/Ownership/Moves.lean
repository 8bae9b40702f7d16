import Freshell.Ownership.Operations

/-!
Everything that one call can do to one record (`Move`), with the guards that the
call checked. A call either leaves the record of a key as it is or makes one of
these moves on it (`step_get`), so an invariant of the records is a case
analysis of the moves and no operation is unfolded again.
-/
namespace Freshell.Ownership
set_option linter.unusedSimpArgs false

/-- The record that a call leaves at a key when it changes it. -/
inductive Move (world : World) : Op → SessionKey → SessionRecord → Prop where
  | startGranted {key kind operationId observed initiator nowMs window}
      (fresh : world.registry.isStale key observed = false) (held : (world.registry.record key).state = .vacant)
      (free : (world.registry.record key).inFlightAttaches = 0 ∨
        (world.registry.record key).isWindowed window = true) :
      Move world (.beginStart key kind operationId observed initiator nowMs window) key
        { world.registry.record key with
          cancellation := none
          settle := none
          settleFired := none
          partialRuntime := none
          generation := (world.registry.record key).generation + 1
          state := .starting kind operationId ((world.registry.record key).generation + 1) initiator nowMs }
  | handoffGranted {key toKind operationId observed initiator nowMs} {prior : Option (OwnerIdentity × Nat)}
      (fresh : world.registry.isStale key observed = false)
      (held : ((world.registry.record key).state = .vacant ∧ prior = none) ∨
        ∃ owner generation sinceMs, (world.registry.record key).state = .live owner generation sinceMs ∧
          prior = some (owner,generation))
      (free : (world.registry.record key).inFlightAttaches = 0) :
      Move world (.beginHandoff key toKind operationId observed initiator nowMs) key
        { world.registry.record key with
          generation := (world.registry.record key).generation + 1
          state := .handoff prior toKind operationId ((world.registry.record key).generation + 1) initiator nowMs }
  | acknowledged {key toKind operationId observed initiator nowMs record prior fencedBy generation heldBy sinceMs}
      (found : world.registry.get key = some record)
      (exactly : observed = ⟨world.registry.epoch,snapshotGeneration record⟩)
      (held : record.state = .fenced prior .clearedUnverified fencedBy generation heldBy sinceMs) :
      Move world (.beginHandoffAcknowledged key toKind operationId observed initiator nowMs) key
        { record with
          generation := record.generation + 1
          state := .handoff prior toKind operationId (record.generation + 1) initiator nowMs }
  | committed {key operationId owner clock record} (found : world.registry.get key = some record)
      (commits : record.state.commits operationId owner.kind = true) :
      Move world (.commitLive key operationId record.generation owner clock) key
        { record with state := .live (owner.stamped operationId) record.generation clock }
  | commitMovedOut {provider oldId newId operationId owner clock record kind gen initiator sinceMs}
      (found : world.registry.get ⟨provider,oldId⟩ = some record)
      (held : record.state = .starting kind operationId gen initiator sinceMs)
      (absent : world.registry.get ⟨provider,newId⟩ = none) :
      Move world (.commitLiveRekey provider oldId newId operationId record.generation owner clock) ⟨provider,oldId⟩
        { record with state := .aliased newId record.generation }
  | commitMovedIn {provider oldId newId operationId owner clock record kind gen initiator sinceMs}
      (found : world.registry.get ⟨provider,oldId⟩ = some record)
      (held : record.state = .starting kind operationId gen initiator sinceMs)
      (absent : world.registry.get ⟨provider,newId⟩ = none) :
      Move world (.commitLiveRekey provider oldId newId operationId record.generation owner clock) ⟨provider,newId⟩
        (.fresh record.generation (.live (owner.stamped operationId) record.generation clock))
  | startMovedOut {provider oldId newId operationId record kind gen initiator sinceMs}
      (found : world.registry.get ⟨provider,oldId⟩ = some record)
      (held : record.state = .starting kind operationId gen initiator sinceMs)
      (absent : world.registry.get ⟨provider,newId⟩ = none) :
      Move world (.rekeyStarting provider oldId newId operationId record.generation) ⟨provider,oldId⟩
        (.fresh record.generation (.aliased newId record.generation))
  | startMovedIn {provider oldId newId operationId record kind gen initiator sinceMs}
      (found : world.registry.get ⟨provider,oldId⟩ = some record)
      (held : record.state = .starting kind operationId gen initiator sinceMs)
      (absent : world.registry.get ⟨provider,newId⟩ = none) :
      Move world (.rekeyStarting provider oldId newId operationId record.generation) ⟨provider,newId⟩ record
  | liveMovedOut {provider oldId newId expectedLiveSessionKey newOwner clock record owner gen sinceMs}
      (found : world.registry.get ⟨provider,oldId⟩ = some record) (held : record.state = .live owner gen sinceMs)
      (expected : owner.kind = newOwner.kind ∧ owner.liveSessionKey = some expectedLiveSessionKey)
      (absent : world.registry.get ⟨provider,newId⟩ = none) :
      Move world (.rekeyLive provider oldId newId expectedLiveSessionKey newOwner clock) ⟨provider,oldId⟩
        { record with generation := record.generation + 1, state := .aliased newId (record.generation + 1) }
  | liveMovedIn {provider oldId newId expectedLiveSessionKey newOwner clock record owner gen sinceMs}
      (found : world.registry.get ⟨provider,oldId⟩ = some record) (held : record.state = .live owner gen sinceMs)
      (expected : owner.kind = newOwner.kind ∧ owner.liveSessionKey = some expectedLiveSessionKey)
      (absent : world.registry.get ⟨provider,newId⟩ = none) :
      Move world (.rekeyLive provider oldId newId expectedLiveSessionKey newOwner clock) ⟨provider,newId⟩
        (.fresh (record.generation + 1) (.live newOwner (record.generation + 1) clock))
  | terminalMovedIn {provider newId operationId generation oldId expectedTerminalId owner clock newRecord oldRecord
        kind initiator startedMs oldOwner oldGeneration sinceMs}
      (found : world.registry.get ⟨provider,newId⟩ = some newRecord)
      (held : newRecord.state = .starting kind operationId generation initiator startedMs)
      (foundOld : world.registry.get ⟨provider,oldId⟩ = some oldRecord)
      (heldOld : oldRecord.state = .live oldOwner oldGeneration sinceMs)
      (under : oldOwner.kind = .terminal ∧ oldOwner.terminalId = some expectedTerminalId) :
      Move world (.commitLiveRekeyFromTerminal provider newId operationId generation oldId expectedTerminalId owner
        clock) ⟨provider,newId⟩ { newRecord with state := .live owner generation clock }
  | terminalMovedOut {provider newId operationId generation oldId expectedTerminalId owner clock newRecord oldRecord
        kind initiator startedMs oldOwner oldGeneration sinceMs}
      (found : world.registry.get ⟨provider,newId⟩ = some newRecord)
      (held : newRecord.state = .starting kind operationId generation initiator startedMs)
      (foundOld : world.registry.get ⟨provider,oldId⟩ = some oldRecord)
      (heldOld : oldRecord.state = .live oldOwner oldGeneration sinceMs)
      (under : oldOwner.kind = .terminal ∧ oldOwner.terminalId = some expectedTerminalId) :
      Move world (.commitLiveRekeyFromTerminal provider newId operationId generation oldId expectedTerminalId owner
        clock) ⟨provider,oldId⟩
        { oldRecord with generation := oldGeneration + 1, state := .aliased newId (oldGeneration + 1) }
  | aliased {provider fromId toId toRecord} (absent : world.registry.get ⟨provider,fromId⟩ = none)
      (found : world.registry.get ⟨provider,toId⟩ = some toRecord) :
      Move world (.aliasVacantKey provider fromId toId) ⟨provider,fromId⟩
        (.fresh toRecord.generation (.aliased toId toRecord.generation))
  | failedVacant {key operationId priorConfirmedLive clock record} (found : world.registry.get key = some record)
      (held : record.state.heldBy operationId) :
      Move world (.fail key operationId record.generation priorConfirmedLive clock) key { record with state := .vacant }
  | failedRestored {key operationId priorConfirmedLive clock record owner priorGeneration}
      (found : world.registry.get key = some record) (held : record.state.heldBy operationId)
      (prior : record.state.priorOwner = some (owner,priorGeneration)) :
      Move world (.fail key operationId record.generation priorConfirmedLive clock) key
        { record with state := .live owner record.generation clock }
  | handoffFenced {key operationId reason unconfirmed clock record prior toKind gen initiator sinceMs}
      (found : world.registry.get key = some record)
      (held : record.state = .handoff prior toKind operationId gen initiator sinceMs) :
      Move world (.fenceUnconfirmedHandoff key operationId record.generation reason unconfirmed clock) key
        { record with
          state := .fenced (unconfirmed.or prior) reason operationId record.generation initiator clock }
  | stopFenced {key operationId reason clock record owner priorGeneration gen initiator sinceMs}
      (found : world.registry.get key = some record)
      (held : record.state = .stopping owner priorGeneration operationId gen initiator sinceMs) :
      Move world (.fenceUnconfirmedStop key operationId record.generation reason clock) key
        { record with
          state := .fenced (owner.map fun owner => (owner,priorGeneration.getD (record.generation - 1))) reason
            operationId record.generation initiator clock }
  | liveFenced {key operationId expectedRuntime reason clock record owner sinceMs}
      (found : world.registry.get key = some record) (held : record.state = .live owner record.generation sinceMs)
      (stamped : owner.ownershipId = some operationId) :
      Move world (.fenceUnconfirmedLive key operationId record.generation expectedRuntime reason clock) key
        { record with
          state := .fenced (some (owner,record.generation)) reason operationId record.generation "" clock }
  | fenceReleased {key operationId record prior reason gen initiator sinceMs}
      (found : world.registry.get key = some record)
      (held : record.state = .fenced prior reason operationId gen initiator sinceMs) :
      Move world (.releaseFenced key operationId record.generation) key { record with state := .vacant }
  | forceCleared {key observed initiator clock record prior reason operationId generation heldBy sinceMs}
      (found : world.registry.get key = some record)
      (held : record.state = .fenced prior reason operationId generation heldBy sinceMs)
      (clears : reason.isUnconfirmable = true) :
      Move world (.forceReleasePlatformLimited key observed initiator clock) key
        { record with state := .fenced prior .clearedUnverified operationId record.generation initiator clock }
  | stopGranted {key operationId claim initiator nowMs record owner generation sinceMs}
      (found : world.registry.get key = some record) (held : record.state = .live owner generation sinceMs)
      (free : record.inFlightAttaches = 0) (exactly : claim.observed = ⟨world.registry.epoch,generation⟩)
      (own : claim.identityMismatch owner = false) :
      Move world (.beginStop key operationId claim initiator nowMs) key
        { record with
          generation := record.generation + 1
          state := .stopping (some owner) (some generation) operationId (record.generation + 1) initiator nowMs }
  | stopCommitted {key operationId record owner priorGeneration gen initiator sinceMs}
      (found : world.registry.get key = some record)
      (held : record.state = .stopping owner priorGeneration operationId gen initiator sinceMs) :
      Move world (.commitStop key operationId record.generation) key { record with state := .vacant }
  | stopAborted {key operationId clock record owner priorGeneration gen initiator sinceMs}
      (found : world.registry.get key = some record)
      (held : record.state = .stopping (some owner) (some priorGeneration) operationId gen initiator sinceMs) :
      Move world (.abortStop key operationId record.generation clock) key
        { record with state := .live owner priorGeneration clock }
  | released {key claim record owner sinceMs} (found : world.registry.get key = some record)
      (held : record.state = .live owner claim.generation sinceMs) (matched : runtimeMatches owner claim = true) :
      Move world (.release key claim) key { record with state := .vacant }
  | forceReleased {key claim record} (found : world.registry.get key = some record)
      (matched : record.state.forceReleases claim = true) :
      Move world (.forceReleaseForConfirmedKill key claim) key { record with state := .vacant }
  | startRegistered {key operationId generation abort settle settleFired record kind initiator sinceMs}
      (found : world.registry.get key = some record)
      (held : record.state = .starting kind operationId generation initiator sinceMs) :
      Move world (.registerStartCancellation key operationId generation abort settle settleFired) key
        { record with cancellation := some abort, settle := some settle, settleFired := settleFired }
  | stopRegistered {key operationId generation flag record owner priorGeneration initiator sinceMs}
      (found : world.registry.get key = some record)
      (held : record.state = .stopping owner priorGeneration operationId generation initiator sinceMs) :
      Move world (.registerStopSettlement key operationId generation flag) key { record with stopSettled := some flag }
  | partialRegistered {key operationId generation owner record kind initiator sinceMs}
      (found : world.registry.get key = some record)
      (held : record.state = .starting kind operationId generation initiator sinceMs) :
      Move world (.registerPartialRuntime key operationId generation owner) key
        { record with partialRuntime := some owner }
  | startRecovered {nowMs maxAgeMs fired key record kind operationId generation initiator sinceMs}
      (found : world.registry.get key = some record)
      (held : record.state = .starting kind operationId generation initiator sinceMs) :
      Move world (.recoverStaleStarts nowMs maxAgeMs fired) key
        { record with
          cancellation := none
          settle := none
          partialRuntime := none
          state := .stopping record.partialRuntime none operationId generation initiator sinceMs }
  | stopRecovered {nowMs maxAgeMs fired key record owner priorGeneration operationId generation initiator sinceMs}
      (found : world.registry.get key = some record)
      (held : record.state = .stopping owner priorGeneration operationId generation initiator sinceMs) :
      Move world (.recoverStaleStoppings nowMs maxAgeMs fired) key
        { record with
          state := .fenced (owner.map fun owner => (owner,priorGeneration.getD generation)) .staleStop operationId
            generation initiator sinceMs }
  | attachArmed {key operationId observedGeneration initiator clock record owner generation sinceMs}
      (found : world.registry.get key = some record) (held : record.state = .live owner generation sinceMs) :
      Move world (.beginAttachGuard key operationId observedGeneration initiator clock) key (record.arm operationId)
  | adoptArmed {key operationId expected observed initiator clock record owner generation sinceMs}
      (found : world.registry.get key = some record) (held : record.state = .live owner generation sinceMs) :
      Move world (.beginAdoptGuard key operationId expected observed initiator clock) key (record.arm operationId)
  | windowClosed {index guard record} (listed : world.guards[index]? = some guard) (outstanding : guard.disarmed = false)
      (found : world.registry.get guard.key = some record) :
      Move world (.closeGuard index) guard.key (record.closeWindow guard.operationId)

variable {world : World} {op : Op} {key : SessionKey}

/-- A call that leaves this registry keeps the record of the key, or makes a move on it. -/
def Moved (world : World) (op : Op) (key : SessionKey) (after : Registry) : Prop :=
  after.get key = world.registry.get key ∨ ∃ record, after.get key = some record ∧ Move world op key record

variable {Answer : Type} {reply : Answer} {answer : Answer × Registry}

private theorem Moved.same {after : Registry} (same : after = world.registry) : Moved world op key after :=
  .inl (by rw [same])

private theorem Moved.placed {after : Registry} {other : SessionKey} {record : SessionRecord}
    (placed : after = world.registry.set other record) (move : Move world op other record) : Moved world op key after := by
  subst placed
  by_cases same : key = other
  · subst same; exact .inr ⟨record,by simp,move⟩
  · exact .inl (by simp [same])

private theorem Moved.set {other : SessionKey} {record : SessionRecord}
    (answered : answer = (reply,world.registry.set other record)) (move : Move world op other record) :
    Moved world op key answer.2 := .placed (congrArg Prod.snd answered) move

private theorem Moved.refused (same : answer = (reply,world.registry)) : Moved world op key answer.2 :=
  .same (congrArg Prod.snd same)

private theorem Moved.pair {first second : SessionKey} {firstRecord secondRecord : SessionRecord}
    (answered : answer = (reply,(world.registry.set first firstRecord).set second secondRecord))
    (firstMove : Move world op first firstRecord) (secondMove : Move world op second secondRecord) :
    Moved world op key answer.2 := by
  subst answered
  by_cases last : key = second
  · subst last; exact .inr ⟨secondRecord,by simp,secondMove⟩
  · simp only [Moved,Registry.get_set_of_ne _ _ last]
    exact Moved.placed rfl firstMove

private theorem Moved.mapped (change : SessionKey → SessionRecord → Option SessionRecord)
    (move : ∀ record changed, world.registry.get key = some record → change key record = some changed →
      Move world op key changed) :
    Moved world op key (world.registry.mapRecords fun key record => (change key record).getD record) := by
  rw [Moved,Registry.get_mapRecords]
  cases found : world.registry.get key with
  | none => exact .inl rfl
  | some record =>
    cases swept : change key record with
    | none => left; simp [swept]
    | some changed => right; exact ⟨changed,by simp [swept],move record changed found swept⟩

theorem step_get (world : World) (op : Op) (key : SessionKey) :
    (world.step op).registry.get key = world.registry.get key ∨
      ∃ record, (world.step op).registry.get key = some record ∧ Move world op key record := by
  change Moved world op key _
  cases op with
  | beginStart target kind operationId observed initiator nowMs window =>
    rcases world.registry.beginStartInner_cases target kind operationId observed initiator nowMs window with
      ⟨same,_⟩ | ⟨fresh,held,free,answered⟩
    · exact .same same
    · exact .set answered (.startGranted fresh held free)
  | beginHandoff target toKind operationId observed initiator nowMs =>
    rcases world.registry.beginHandoff_cases target toKind operationId observed initiator nowMs with
      ⟨same,_⟩ | ⟨prior,fresh,held,free,answered⟩
    · exact .same same
    · exact .set answered (.handoffGranted fresh held free)
  | beginHandoffAcknowledged target toKind operationId observed initiator nowMs =>
    rcases world.registry.beginHandoffAcknowledged_cases target toKind operationId observed initiator nowMs with
      ⟨same,_⟩ | ⟨record,prior,fencedBy,generation,heldBy,sinceMs,found,exactly,held,answered⟩
    · exact .same same
    · exact .set answered (.acknowledged found exactly held)
  | commitLive target operationId generation owner clock =>
    rcases world.registry.commitLive_cases target operationId generation owner clock with
      ⟨same,_⟩ | ⟨record,found,rfl,commits,answered⟩
    · exact .same same
    · exact .set answered (.committed found commits)
  | commitLiveRekey provider oldId newId operationId generation owner clock =>
    rcases world.registry.commitLiveRekey_cases provider oldId newId operationId generation owner clock with
      ⟨same,_⟩ | ⟨record,kind,gen,initiator,sinceMs,found,rfl,held,absent,answered⟩
    · exact .same same
    · exact .pair answered (.commitMovedOut found held absent) (.commitMovedIn found held absent)
  | rekeyStarting provider oldId newId operationId generation =>
    rcases world.registry.rekeyStarting_cases provider oldId newId operationId generation with
      ⟨same,_⟩ | ⟨record,kind,gen,initiator,sinceMs,found,rfl,held,absent,answered⟩
    · exact .same same
    · exact .pair answered (.startMovedOut found held absent) (.startMovedIn found held absent)
  | rekeyLive provider oldId newId expectedLiveSessionKey newOwner clock =>
    rcases world.registry.rekeyLive_cases provider oldId newId expectedLiveSessionKey newOwner clock with
      ⟨same,_⟩ | ⟨record,owner,gen,sinceMs,found,held,kind,keyed,absent,answered⟩
    · exact .same same
    · exact .pair answered (.liveMovedOut found held ⟨kind,keyed⟩ absent) (.liveMovedIn found held ⟨kind,keyed⟩ absent)
  | commitLiveRekeyFromTerminal provider newId operationId generation oldId expectedTerminalId owner clock =>
    rcases world.registry.commitLiveRekeyFromTerminal_cases provider newId operationId generation oldId
        expectedTerminalId owner clock with
      ⟨same,_⟩ | ⟨newRecord,oldRecord,kind,initiator,startedMs,oldOwner,oldGeneration,sinceMs,found,held,foundOld,
        heldOld,terminal,under,answered⟩
    · exact .same same
    · exact .pair answered (.terminalMovedIn found held foundOld heldOld ⟨terminal,under⟩)
        (.terminalMovedOut found held foundOld heldOld ⟨terminal,under⟩)
  | aliasVacantKey provider fromId toId =>
    rcases world.registry.aliasVacantKey_cases provider fromId toId with ⟨same,_⟩ | ⟨toRecord,absent,found,answered⟩
    · exact .same same
    · exact .set answered (.aliased absent found)
  | fail target operationId generation priorConfirmedLive clock =>
    rcases world.registry.fail_cases target operationId generation priorConfirmedLive clock with
      same | ⟨record,found,rfl,held,_,vacated | ⟨owner,priorGeneration,prior,restored⟩⟩
    · exact .refused same
    · exact .placed vacated (.failedVacant found held)
    · exact .placed restored (.failedRestored found held prior)
  | fenceUnconfirmedHandoff target operationId generation reason unconfirmed clock =>
    rcases world.registry.fenceUnconfirmedHandoff_cases target operationId generation reason unconfirmed clock with
      same | ⟨record,prior,toKind,gen,initiator,sinceMs,found,rfl,held,answered⟩
    · exact .refused same
    · exact .set answered (.handoffFenced found held)
  | fenceUnconfirmedStop target operationId generation reason clock =>
    rcases world.registry.fenceUnconfirmedStop_cases target operationId generation reason clock with
      same | ⟨record,owner,priorGeneration,gen,initiator,sinceMs,found,rfl,held,answered⟩
    · exact .refused same
    · exact .set answered (.stopFenced found held)
  | fenceUnconfirmedLive target operationId generation expectedRuntime reason clock =>
    rcases world.registry.fenceUnconfirmedLive_cases target operationId generation expectedRuntime reason clock with
      same | ⟨record,owner,sinceMs,found,rfl,held,stamped,answered⟩
    · exact .refused same
    · exact .set answered (.liveFenced found held stamped)
  | releaseFenced target operationId generation =>
    rcases world.registry.releaseFenced_cases target operationId generation with
      ⟨same,_⟩ | ⟨record,prior,reason,gen,initiator,sinceMs,found,rfl,held,answered⟩
    · exact .same same
    · exact .set answered (.fenceReleased found held)
  | forceReleasePlatformLimited target observed initiator clock =>
    rcases world.registry.forceReleasePlatformLimited_cases target observed initiator clock with
      ⟨same,_⟩ | ⟨record,prior,reason,operationId,generation,heldBy,sinceMs,found,held,clears,answered⟩
    · exact .same same
    · exact .set answered (.forceCleared found held clears)
  | beginStop target operationId claim initiator nowMs =>
    rcases world.registry.beginStop_cases target operationId claim initiator nowMs with
      ⟨same,_⟩ | ⟨record,owner,generation,sinceMs,found,held,free,exactly,own,answered⟩
    · exact .same same
    · exact .set answered (.stopGranted found held free exactly own)
  | commitStop target operationId generation =>
    rcases world.registry.commitStop_cases target operationId generation with
      ⟨same,_⟩ | ⟨record,owner,priorGeneration,gen,initiator,sinceMs,found,rfl,held,answered⟩
    · exact .same same
    · exact .set answered (.stopCommitted found held)
  | abortStop target operationId generation clock =>
    rcases world.registry.abortStop_cases target operationId generation clock with
      ⟨same,_⟩ | ⟨record,owner,priorGeneration,gen,initiator,sinceMs,found,rfl,held,answered⟩
    · exact .same same
    · exact .set answered (.stopAborted found held)
  | release target claim =>
    rcases world.registry.release_cases target claim with same | ⟨record,owner,sinceMs,found,held,matched,answered⟩
    · exact .refused same
    · exact .set answered (.released found held matched)
  | forceReleaseForConfirmedKill target claim =>
    rcases world.registry.forceRelease_cases target claim with same | ⟨record,found,matched,answered⟩
    · exact .same same
    · exact .placed answered (.forceReleased found matched)
  | registerStartCancellation target operationId generation abort settle settleFired =>
    rcases world.registry.registerStartCancellation_cases target operationId generation abort settle settleFired with
      same | ⟨record,kind,initiator,sinceMs,found,held,answered⟩
    · exact .refused same
    · exact .set answered (.startRegistered found held)
  | registerStopSettlement target operationId generation flag =>
    rcases world.registry.registerStopSettlement_cases target operationId generation flag with
      same | ⟨record,owner,priorGeneration,initiator,sinceMs,found,held,answered⟩
    · exact .refused same
    · exact .set answered (.stopRegistered found held)
  | registerPartialRuntime target operationId generation owner =>
    rcases world.registry.registerPartialRuntime_cases target operationId generation owner with
      same | ⟨record,kind,initiator,sinceMs,found,held,answered⟩
    · exact .same same
    · exact .placed answered (.partialRegistered found held)
  | recoverStaleStarts nowMs maxAgeMs fired =>
    refine .mapped (fun key record => (recoverStart nowMs maxAgeMs fired key record).map (·.2)) ?_
    intro record changed found mapped
    obtain ⟨recovered,swept,rfl⟩ := Option.map_eq_some_iff.mp mapped
    obtain ⟨kind,operationId,generation,initiator,sinceMs,held,changed⟩ := recoverStart_some swept
    exact changed ▸ .startRecovered found held
  | recoverStaleStoppings nowMs maxAgeMs fired =>
    refine .mapped (fun key record => (recoverStopping nowMs maxAgeMs fired key record).map (·.2)) ?_
    intro record changed found mapped
    obtain ⟨recovered,swept,rfl⟩ := Option.map_eq_some_iff.mp mapped
    obtain ⟨owner,priorGeneration,operationId,generation,initiator,sinceMs,held,changed⟩ := recoverStopping_some swept
    exact changed ▸ .stopRecovered found held
  | beginAttachGuard target operationId observedGeneration initiator clock =>
    rcases world.registry.beginAttachGuard_cases target operationId observedGeneration initiator clock with
      ⟨same,_⟩ | ⟨record,owner,generation,sinceMs,found,held,answered⟩
    · exact .same same
    · exact .set answered (.attachArmed found held)
  | beginAdoptGuard target operationId expected observed initiator clock =>
    rcases world.registry.beginAdoptGuard_cases target operationId expected observed initiator clock with
      ⟨same,_⟩ | ⟨record,owner,generation,sinceMs,found,held,answered⟩
    · exact .same same
    · exact .set answered (.adoptArmed found held)
  | closeGuard index =>
    simp only [World.step,World.call,World.closeGuard]
    cases listed : world.guards[index]? with
    | none => exact .inl rfl
    | some guard =>
      cases outstanding : guard.disarmed with
      | true => left; simp [outstanding]
      | false =>
        cases found : world.registry.get guard.key with
        | none => left; simp [outstanding,Registry.releaseWindow,found]
        | some record =>
          simpa [outstanding,Registry.releaseWindow,found] using Moved.placed rfl (.windowClosed listed outstanding found)

theorem record_step (same : (world.step op).registry.get key = world.registry.get key) :
    (world.step op).registry.record key = world.registry.record key := by
  simp only [Registry.record,same]

def OwnershipState.isAliased : OwnershipState → Bool
  | .aliased _ _ => true
  | _ => false

theorem aliased_step {toId : String} {generation : Nat} (op : Op)
    (aliased : (world.registry.record key).state = .aliased toId generation) :
    ((world.step op).registry.record key).state = .aliased toId generation ∧
      ((world.step op).registry.record key).generation = (world.registry.record key).generation := by
  rcases step_get world op key with same | ⟨record,after,move⟩
  · rw [record_step same]; exact ⟨aliased,rfl⟩
  · have before := Registry.get_of_not_vacant (aliased ▸ nofun : (world.registry.record key).state ≠ .vacant)
    rw [Registry.record_of_get after]
    generalize recorded : world.registry.record key = old at aliased before ⊢
    cases move with
    | windowClosed listed outstanding found =>
      obtain rfl := Option.some.inj (found.symm.trans before)
      exact ⟨aliased,rfl⟩
    | committed found commits =>
      obtain rfl := Option.some.inj (found.symm.trans before)
      simp [aliased,OwnershipState.commits] at commits
    | forceReleased found matched =>
      obtain rfl := Option.some.inj (found.symm.trans before)
      simp [aliased,OwnershipState.forceReleases] at matched
    | failedVacant found held | failedRestored found held =>
      obtain rfl := Option.some.inj (found.symm.trans before)
      simp [aliased,OwnershipState.heldBy] at held
    | _ => exfalso; simp_all

theorem isAliased_step (op : Op) (aliased : (world.registry.record key).state.isAliased = true) :
    ((world.step op).registry.record key).state.isAliased = true := by
  unfold OwnershipState.isAliased at aliased
  split at aliased
  · next held => rw [(aliased_step op held).1]; rfl
  · cases aliased

theorem epoch_step (world : World) (op : Op) : (world.step op).registry.epoch = world.registry.epoch := by
  cases op <;>
    simp only [World.step,World.call,Registry.beginStartInner,Registry.beginHandoff,
      Registry.beginHandoffAcknowledgedClearedUnverified,Registry.commitLive,Registry.commitLiveRekey,
      Registry.rekeyStarting,Registry.rekeyLive,Registry.commitLiveRekeyFromTerminal,Registry.aliasVacantKey,
      Registry.fail,Registry.fenceUnconfirmedHandoffWithPrior,Registry.fenceUnconfirmedStop,
      Registry.fenceUnconfirmedLive,Registry.releaseFenced,Registry.forceReleasePlatformLimited,Registry.beginStop,
      Registry.commitStop,Registry.abortStop,Registry.release,Registry.forceReleaseForConfirmedKill,
      Registry.registerStartCancellation,Registry.registerStopSettlement,Registry.registerPartialRuntime,
      Registry.recoverStaleStarts,Registry.recoverStaleStoppings,Registry.beginAttachGuard,Registry.beginAdoptGuard,
      World.closeGuard,Registry.releaseWindow] <;>
    (repeat' split) <;> rfl

end Freshell.Ownership
