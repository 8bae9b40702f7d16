import Freshell.Supervisor.Operations

/-!
What each transaction that writes more than views does to the other tables, read off
its body once. A transaction that answers from what is there writes nothing.
-/
namespace Freshell.Supervisor
open Freshell.Library.Transactions
variable {registry after : Registry}

/-- The registry of a launch once the soul stands and has its view. -/
structure Placed (input : LaunchPreparation) (now : Nat) (before placed : Registry) : Prop where
  souls : placed.souls = before.souls ∨
    (before.soul input.soulId = none ∧ placed.souls = before.souls ++ [input.newSoul now])
  incarnations : placed.incarnations = before.incarnations
  writerClaims : placed.writerClaims = before.writerClaims
  reservations : placed.reservations = before.reservations
  inputCommands : placed.inputCommands = before.inputCommands
  lossIncidents : placed.lossIncidents = before.lossIncidents
  notices : placed.notices = before.notices
  tombstones : placed.tombstones = before.tombstones

variable {input : LaunchPreparation} {now : Nat}

theorem ensureSoul_cases (done : ensureSoul input now registry = .ok after) :
    after = registry ∨ (registry.soul input.soulId = none ∧
      after = { registry with souls := registry.souls ++ [input.newSoul now] }) := by
  simp only [ensureSoul] at done
  split at done
  · simp only [bind_eq_ok,ensure_eq_ok,pure_eq_ok] at done
    obtain ⟨_,_,rfl⟩ := done
    exact .inl rfl
  · rw [insertSoul_eq_ok] at done
    exact .inr ⟨done.1,done.2.symm⟩

variable {installation : Installation}

theorem placeView_only {revision : Nat} (done : placeView installation input revision now registry = .ok after) :
    ViewsOnly registry after := by
  simp only [placeView] at done
  split at done
  · exact .ensureAutomaticPrimary done
  · obtain rfl := Except.ok.inj done
    exact .refl _

variable {soulId incarnationId : String}

theorem claimWriter_eq_ok {session : Option ProviderSession} {revision : Nat} :
    claimWriter session soulId incarnationId revision registry = .ok after ↔
      (∀ held ∈ session, registry.claimOf held = none) ∧
        { registry with
          writerClaims := registry.writerClaims ++
            session.toList.map fun session => ⟨session,soulId,incarnationId,revision⟩ } = after := by
  cases session with
  | none => simp [claimWriter]
  | some session => simp [claimWriter]

def LaunchPreparation.session (input : LaunchPreparation) : Option ProviderSession :=
  input.nativeSessionId.map fun nativeSessionId => ⟨input.provider,input.providerStoreId,nativeSessionId⟩

def LaunchPreparation.incarnation (input : LaunchPreparation) (incarnationId : String) (now : Nat) : Incarnation :=
  preparedIncarnation incarnationId input.soulId input.requestedLimits input.terminal input.freshAgent none none now

/-- What has to hold for an incarnation to enter with its room and its writer's claim. -/
structure Enters (registry : Registry) (row : Incarnation) (session : Option ProviderSession) : Prop where
  fresh : registry.incarnation row.incarnationId = none
  alone : ∀ other ∈ registry.incarnationsOf row.soulId, other.active = false
  unreserved : ∀ other ∈ registry.reservations, other.incarnationId ≠ row.incarnationId
  unclaimed : ∀ held ∈ session, registry.claimOf held = none

theorem admitLaunch_cases (done : admitLaunch input incarnationId now registry = .ok after) :
    input.admission.installation.admits (reservationTotals registry none) input.requestedLimits ∧
      input.admission.project.admits (reservationTotals registry (some input.projectKey)) input.requestedLimits ∧
      Enters registry (input.incarnation incarnationId now) input.session ∧
      after = { registry with
        incarnations := registry.incarnations ++ [input.incarnation incarnationId now]
        reservations := registry.reservations ++ [reservationOf incarnationId input.projectKey input.requestedLimits]
        writerClaims := registry.writerClaims ++
          input.session.toList.map fun session => ⟨session,input.soulId,incarnationId,1⟩
        commands := registry.commands ++ [input.command incarnationId now] } := by
  simp only [admitLaunch,bind_eq_ok,ensure_eq_ok,insertIncarnation_eq_ok,insertReservation_eq_ok,pure_eq_ok,
    claimWriter_eq_ok] at done
  obtain ⟨_,roomy,_,projectRoomy,_,⟨fresh,alone,rfl⟩,_,⟨unreserved,rfl⟩,_,⟨unclaimed,rfl⟩,rfl⟩ := done
  exact ⟨roomy,projectRoomy,⟨fresh,alone rfl,unreserved,unclaimed⟩,rfl⟩

theorem prepareLaunch_cases {answer : PreparedLaunch}
    (done : prepareLaunch installation input incarnationId now registry = .ok (answer,after)) :
    after = registry ∨ ∃ placed, Placed input now registry placed ∧
      ((∃ command, after = { placed with commands := placed.commands ++ [command] }) ∨
        admitLaunch input incarnationId now placed = .ok after) := by
  simp only [prepareLaunch] at done
  split at done
  · simp only [bind_eq_ok,ensure_eq_ok,pure_eq_ok,Prod.mk.injEq] at done
    obtain ⟨_,_,_,_,_,rfl⟩ := done
    exact .inl rfl
  · simp only [bind_eq_ok,found_eq_ok] at done
    obtain ⟨base,stood,soul,_,placed,viewed,rest⟩ := done
    have views := placeView_only viewed
    have stands : Placed input now registry placed := by
      rcases ensureSoul_cases stood with rfl | ⟨unknown,rfl⟩
      · exact ⟨.inl views.souls,views.incarnations,views.writerClaims,views.reservations,views.inputCommands,
          views.lossIncidents,views.notices,views.tombstones⟩
      · exact ⟨.inr ⟨unknown,views.souls⟩,views.incarnations,views.writerClaims,views.reservations,views.inputCommands,
          views.lossIncidents,views.notices,views.tombstones⟩
    refine .inr ⟨placed,stands,?_⟩
    split at rest
    · simp only [bind_eq_ok,ensure_eq_ok,pure_eq_ok,Prod.mk.injEq] at rest
      obtain ⟨_,_,_,_,_,rfl⟩ := rest
      exact .inl ⟨_,rfl⟩
    · simp only [bind_eq_ok,pure_eq_ok,Prod.mk.injEq] at rest
      obtain ⟨_,admitted,_,rfl⟩ := rest
      exact .inr admitted

/-- The attempt may bring up a replacement: it is still the soul's, and the old runtime is gone. -/
structure Registry.Awaits (registry : Registry) (start : RecoveryStart) : Prop where
  soul : ∃ soul, registry.soul start.context.soulId = some soul ∧ soul.desiredState = .running ∧
    soul.intentRevision = start.context.intentRevision ∧ soul.recoveryAttemptId = some start.attemptId
  prior : ∃ old, registry.incarnation start.context.priorHandle.incarnationId = some old ∧ old.launchState = .stopped ∧
    old.cleanupState = .verifiedEmpty
  alone : (registry.incarnationsOf start.context.soulId).any (·.active) = false

def RecoveryStart.incarnation (start : RecoveryStart) (terminal : Option TerminalLaunchSpec)
    (freshAgent : Option FreshAgentLaunchSpec) (incarnationId : String) (now : Nat) : Incarnation :=
  preparedIncarnation incarnationId start.context.soulId start.context.requestedLimits terminal freshAgent
    (some start.context.priorHandle.incarnationId) (some start.attemptId) now

theorem prepareReplacement_cases {start : RecoveryStart} {terminal : Option TerminalLaunchSpec}
    {freshAgent : Option FreshAgentLaunchSpec} {resumeSpec : Option ProviderSession} {answer : PreparedLaunch}
    (done : prepareReplacement start terminal freshAgent resumeSpec incarnationId now registry = .ok (answer,after)) :
    registry.Awaits start ∧
      Enters registry (start.incarnation terminal freshAgent incarnationId now) resumeSpec ∧
      after = { registry with
        incarnations := registry.incarnations ++ [start.incarnation terminal freshAgent incarnationId now]
        reservations := registry.reservations ++
          [reservationOf incarnationId start.context.projectKey start.context.requestedLimits]
        writerClaims := registry.writerClaims ++
          resumeSpec.toList.map fun session =>
            ⟨session,start.context.soulId,incarnationId,start.context.intentRevision⟩ } := by
  simp only [prepareReplacement,bind_eq_ok,found_eq_ok,ensure_eq_ok,insertIncarnation_eq_ok,insertReservation_eq_ok,
    pure_eq_ok,claimWriter_eq_ok,Prod.mk.injEq] at done
  obtain ⟨soul,known,_,⟨running,intent,attempt⟩,old,prior,_,⟨stopped,empty⟩,_,alone,_,⟨fresh,quiet,rfl⟩,_,
    ⟨unreserved,rfl⟩,_,⟨unclaimed,rfl⟩,_,rfl⟩ := done
  exact ⟨⟨⟨soul,known,running,intent,attempt⟩,⟨old,prior,stopped,empty⟩,alone⟩,⟨fresh,quiet rfl,unreserved,unclaimed⟩,
    rfl⟩

section
variable (soul : Soul) (incarnation : Incarnation) (registry : Registry)

theorem commitStopIntent_eq : ∃ souls tombstones,
    commitStopIntent soul registry = { registry with souls, tombstones } := by
  simp only [commitStopIntent]
  split
  · exact ⟨_,_,rfl⟩
  · exact ⟨registry.souls,registry.tombstones,rfl⟩

theorem requestStop_eq : ∃ incarnations, requestStop incarnation registry = { registry with incarnations } := by
  simp only [requestStop]
  split
  · exact ⟨_,rfl⟩
  · exact ⟨registry.incarnations,rfl⟩

theorem requestStop_congr {first second : Registry} (same : first.incarnations = second.incarnations) :
    (requestStop incarnation first).incarnations = (requestStop incarnation second).incarnations := by
  simp only [requestStop]
  split
  · simp only [Registry.updateIncarnation,same]
  · exact same
end

theorem beginStop_cases {expected : Option Nat} {answer : Except RegistryError OwnedRuntimeHandle}
    (done : beginStopExpected soulId expected now registry = .ok (answer,after)) :
    ∃ incarnation soul, registry.currentIncarnation soulId = some incarnation ∧ registry.soul soulId = some soul ∧
      after.souls = (commitStopIntent soul registry).souls ∧
      after.incarnations = (requestStop incarnation registry).incarnations ∧
      after.inputCommands = (interruptInput soulId registry).inputCommands ∧
      after.writerClaims = registry.writerClaims ∧ after.reservations = registry.reservations ∧
      after.lossIncidents = registry.lossIncidents ∧ after.notices = registry.notices := by
  simp only [beginStopExpected,bind_eq_ok,found_eq_ok,ensure_eq_ok,pure_eq_ok,Prod.mk.injEq] at done
  obtain ⟨incarnation,current,soul,known,_,_,_,_,hidden,hid,_,rfl⟩ := done
  have views := ViewsOnly.setAutomaticPrimary hid
  obtain ⟨souls,tombstones,intended⟩ := commitStopIntent_eq soul registry
  obtain ⟨incarnations,requested⟩ := requestStop_eq incarnation hidden
  have untouched : hidden.incarnations = registry.incarnations := by rw [views.incarnations,intended]
  refine ⟨incarnation,soul,current,known,?_,?_,?_,?_,?_,?_,?_⟩
  · simp only [interruptInput,requested]
    exact views.souls
  · exact requestStop_congr incarnation untouched
  · simp only [interruptInput,requested,views.inputCommands,intended]
  · simp only [interruptInput,requested,views.writerClaims,intended]
  · simp only [interruptInput,requested,views.reservations,intended]
  · simp only [interruptInput,requested,views.lossIncidents,intended]
  · simp only [interruptInput,requested,views.notices,intended]

/-- What a stop outcome writes to the soul: the end of a stop, unless a loss is certified. -/
def settleStop (incarnationId : String) (registry : Registry) : List Soul :=
  updateWhere
    (fun soul => registry.incarnations.any (fun row => row.incarnationId == incarnationId && row.soulId == soul.soulId) &&
      soul.desiredState == .stopped && soul.recoveryState != .lost)
    (fun soul => { soul with recoveryState := .stopped, recoveryAttemptId := none }) registry.souls

def stopIncarnation (incarnationId : String) (outcome : StopOutcome) (registry : Registry) : Registry :=
  registry.updateIncarnation incarnationId fun row =>
    { row with launchState := stopLaunchState outcome, cleanupState := stopCleanupState outcome }

variable {outcome : StopOutcome}

theorem markStopOutcome_cases {answer : PUnit}
    (done : markStopOutcome incarnationId outcome registry = .ok (answer,after)) : (outcome = .verifiedEmpty ∧
      after = { (stopIncarnation incarnationId outcome registry).release incarnationId with
        souls := settleStop incarnationId (stopIncarnation incarnationId outcome registry) }) ∨
    (outcome ≠ .verifiedEmpty ∧
      (∀ row ∈ registry.incarnations, row.incarnationId = incarnationId →
        ∀ other ∈ registry.incarnationsOf row.soulId, other.active = true → other.incarnationId = incarnationId) ∧
      after = stopIncarnation incarnationId outcome registry) := by
  simp only [markStopOutcome,bind_eq_ok,writeIncarnation_eq_ok] at done
  obtain ⟨_,⟨alone,rfl⟩,rest⟩ := done
  by_cases verified : outcome = .verifiedEmpty
  · simp only [verified,if_true,pure_eq_ok,Prod.mk.injEq] at rest
    exact .inl ⟨verified,rest.2 ▸ verified ▸ rfl⟩
  · simp only [verified,if_false,pure_eq_ok,Prod.mk.injEq] at rest
    refine .inr ⟨verified,fun row listed same => alone row listed same ?_,rest.2.symm⟩
    cases outcome with
    | verifiedEmpty => exact absurd rfl verified
    | blockedOwnership => rfl
    | backendUnavailable => rfl
    | terminationUnconfirmed => rfl

section
variable {answer : PUnit}

variable {incarnationId : String}

theorem commitCreated_cases {created : BackendCreatedRecord}
    (done : commitCreated incarnationId created registry = .ok (answer,after)) :
    ∃ row, registry.incarnation incarnationId = some row ∧ row.launchState = .prepared ∧ row.container = none ∧
      registry.desiredRunning row.soulId = true ∧
      after = registry.updateIncarnation incarnationId fun row =>
        { row with container := some created, launchState := .created } := by
  simp only [commitCreated,bind_eq_ok,found_eq_ok,ensure_eq_ok,pure_eq_ok,Prod.mk.injEq] at done
  obtain ⟨row,known,_,⟨prepared,bare,desired⟩,_,_,_,rfl⟩ := done
  exact ⟨row,known,prepared,bare,desired,rfl⟩

theorem markRunning_cases (done : markRunning incarnationId registry = .ok (answer,after)) :
    ∃ row, registry.incarnation incarnationId = some row ∧ row.launchState = .starting ∧
      registry.desiredRunning row.soulId = true ∧
      after = registry.updateIncarnation incarnationId fun row => { row with launchState := .running } := by
  simp only [markRunning,bind_eq_ok,found_eq_ok,ensure_eq_ok,pure_eq_ok,Prod.mk.injEq] at done
  obtain ⟨row,known,_,⟨starting,desired⟩,_,rfl⟩ := done
  exact ⟨row,known,starting,desired,rfl⟩

variable {soulId : String}

theorem setInputState_cases {requestId : String} {state : InputState}
    (done : setInputState soulId requestId state registry = .ok (answer,after)) : after = { registry with
      inputCommands := updateWhere (·.isFor soulId requestId) (fun row => { row with state }) registry.inputCommands } := by
  simp only [setInputState,bind_eq_ok,ensure_eq_ok,pure_eq_ok,Prod.mk.injEq] at done
  obtain ⟨_,_,_,rfl⟩ := done
  rfl

theorem markRecoveryLive_cases (done : markRecoveryLive soulId incarnationId registry = .ok (answer,after)) :
    registry.runsFor soulId incarnationId ∧ after = { registry with
      souls := updateWhere (fun soul => soul.soulId == soulId && soul.desiredState == .running)
        (fun soul => { soul with recoveryState := .live, recoveryAttemptId := none }) registry.souls } := by
  simp only [markRecoveryLive,bind_eq_ok,ensure_eq_ok,pure_eq_ok,Prod.mk.injEq] at done
  obtain ⟨_,runs,_,rfl⟩ := done
  exact ⟨runs,rfl⟩

theorem markRecoverySuccess_cases {attemptId : String} {now : Nat}
    (done : markRecoverySuccess soulId incarnationId attemptId now registry = .ok (answer,after)) :
    ∃ soul row, registry.soul soulId = some soul ∧ soul.desiredState = .running ∧
      soul.recoveryAttemptId = some attemptId ∧ row ∈ registry.incarnations ∧ row.incarnationId = incarnationId ∧
      row.soulId = soulId ∧ row.launchState = .running ∧
      after = registry.updateSoul soulId fun other =>
        { other with recoveryState := .live, recoveryAttemptId := none,
                     recoveryWindowStartedAt := some (countSuccess soul now).1,
                     successfulRecoveriesInWindow := (countSuccess soul now).2 } := by
  simp only [markRecoverySuccess,bind_eq_ok,found_eq_ok,ensure_eq_ok,pure_eq_ok,Prod.mk.injEq] at done
  obtain ⟨soul,known,_,⟨desired,attempt⟩,row,picked,_,running,_,rfl⟩ := done
  have listed := List.mem_of_find?_eq_some picked
  have named := List.find?_some picked
  simp only [Bool.and_eq_true,beq_iff_eq] at named
  exact ⟨soul,row,known,desired,attempt,listed,named.1,named.2,running,rfl⟩

theorem finishRecoveryVerdict_cases {state : RecoveryState}
    (done : finishRecoveryVerdict soulId state registry = .ok (answer,after)) : after = { registry with
      souls := updateWhere (fun soul => soul.soulId == soulId && soul.desiredState == .running)
        (fun soul => { soul with recoveryState := state, recoveryAttemptId := none }) registry.souls } := by
  simp only [finishRecoveryVerdict,pure_eq_ok,Prod.mk.injEq] at done
  exact done.2.symm

theorem recordNativeSession_cases {nativeSessionId : String}
    (done : recordNativeSession soulId incarnationId nativeSessionId registry = .ok (answer,after)) :
    ∃ soul incarnation, registry.soul soulId = some soul ∧ registry.incarnation incarnationId = some incarnation ∧
      incarnation.soulId = soulId ∧ ∃ claims,
        after = { registry with
          souls := updateWhere (·.soulId == soulId) (fun row => { row with nativeSessionId := some nativeSessionId })
            registry.souls
          incarnations := updateWhere (·.incarnationId == incarnationId) (rememberSession nativeSessionId)
            registry.incarnations
          writerClaims := registry.writerClaims ++ claims } ∧
        (claims = [] ∨
          claims = [⟨⟨soul.provider,soul.providerStoreId,nativeSessionId⟩,soulId,incarnationId,soul.intentRevision⟩] ∧
            registry.claimOf ⟨soul.provider,soul.providerStoreId,nativeSessionId⟩ = none) := by
  simp only [recordNativeSession,bind_eq_ok,found_eq_ok,ensure_eq_ok] at done
  obtain ⟨_,_,soul,known,incarnation,listed,_,⟨owner,_⟩,_,_,rest⟩ := done
  refine ⟨soul,incarnation,known,listed,owner,?_⟩
  split at rest
  · simp only [bind_eq_ok,ensure_eq_ok,pure_eq_ok,Prod.mk.injEq] at rest
    obtain ⟨_,_,_,rfl⟩ := rest
    exact ⟨[],by simp [Registry.updateSoul,Registry.updateIncarnation],.inl rfl⟩
  · simp only [bind_eq_ok,insertWriterClaim_eq_ok,pure_eq_ok,Prod.mk.injEq] at rest
    obtain ⟨_,⟨unclaimed,rfl⟩,_,rfl⟩ := rest
    exact ⟨_,rfl,.inr ⟨rfl,unclaimed⟩⟩

/-- The claim of a fork goes from the parent to the child of one incarnation, or is there already. -/
theorem transitionNativeSession_cases {expectedParent childSessionId : String}
    (done : transitionNativeSession soulId incarnationId expectedParent childSessionId registry = .ok (answer,after)) :
    after = registry ∨ ∃ soul spec,
      let parent : ProviderSession := ⟨soul.provider,soul.providerStoreId,expectedParent⟩
      let child : ProviderSession := ⟨soul.provider,soul.providerStoreId,childSessionId⟩
      let owned := fun claim : WriterClaim =>
        claim.session == parent && claim.soulId == soulId && claim.incarnationId == incarnationId
      registry.soul soulId = some soul ∧ registry.claimOf child = none ∧ registry.writerClaims.countP owned = 1 ∧
        after = { registry with
          souls := updateWhere (·.soulId == soulId) (fun row => { row with nativeSessionId := some childSessionId })
            registry.souls
          incarnations := updateWhere (·.incarnationId == incarnationId)
            (fun row => { row with freshAgent := some spec }) registry.incarnations
          writerClaims := registry.writerClaims.filter (fun claim => !owned claim) ++
            [⟨child,soulId,incarnationId,soul.intentRevision⟩] } := by
  simp only [transitionNativeSession,bind_eq_ok,found_eq_ok,ensure_eq_ok] at done
  obtain ⟨_,_,soul,known,incarnation,listed,_,owner,rest⟩ := done
  split at rest
  · simp only [bind_eq_ok,ensure_eq_ok,pure_eq_ok,Prod.mk.injEq] at rest
    obtain ⟨_,_,_,rfl⟩ := rest
    exact .inl rfl
  · simp only [bind_eq_ok,found_eq_ok,ensure_eq_ok,insertWriterClaim_eq_ok,pure_eq_ok,Prod.mk.injEq] at rest
    obtain ⟨_,_,spec,_,_,_,_,unclaimed,_,counted,_,⟨_,rfl⟩,_,rfl⟩ := rest
    exact .inr ⟨soul,_,known,unclaimed,counted,rfl⟩
end

variable {limits : RuntimeLimits}

theorem commitExecutionGrant_cases {hostBootId grantId : String} {answer : ExecutionGrantRecord}
    (done : commitExecutionGrant incarnationId hostBootId grantId limits registry = .ok (answer,after)) :
    ∃ row, registry.incarnation incarnationId = some row ∧
      ((row.launchState = .starting ∧ after = registry) ∨
        (row.launchState = .created ∧ registry.desiredRunning row.soulId = true ∧
          after = registry.updateIncarnation incarnationId fun row =>
            { row with launchState := .starting, hostBootId := some hostBootId,
                       executionGeneration := row.executionGeneration + 1, grantId := some grantId,
                       effectiveLimits := some limits })) := by
  simp only [commitExecutionGrant,bind_eq_ok,found_eq_ok] at done
  obtain ⟨row,known,rest⟩ := done
  refine ⟨row,known,?_⟩
  split at rest
  · next starting =>
    simp only [bind_eq_ok,found_eq_ok,ensure_eq_ok,pure_eq_ok,Prod.mk.injEq] at rest
    obtain ⟨_,_,_,_,_,_,_,rfl⟩ := rest
    exact .inl ⟨starting,rfl⟩
  · simp only [bind_eq_ok,ensure_eq_ok,pure_eq_ok,Prod.mk.injEq] at rest
    obtain ⟨_,⟨created,desired⟩,_,_,_,rfl⟩ := rest
    exact .inr ⟨created,desired,rfl⟩

variable {answer : InputJournalDisposition × String}

theorem queueInput_cases {requestId payloadDigest data : String}
    (done : queueInput soulId requestId payloadDigest data now registry = .ok (answer,after)) :
    ∃ incarnation, registry.liveIncarnation soulId = some incarnation ∧
      answer = (.dispatch,incarnation.incarnationId) ∧ ∃ inputCommands, after = { registry with inputCommands } := by
  simp only [queueInput,bind_eq_ok,found_eq_ok,pure_eq_ok,Prod.mk.injEq] at done
  obtain ⟨incarnation,live,rfl,rfl⟩ := done
  refine ⟨incarnation,live,rfl,?_⟩
  split
  · exact ⟨_,rfl⟩
  · exact ⟨_,rfl⟩

theorem beginInput_cases {requestId payloadDigest data : String}
    (done : beginInput soulId requestId payloadDigest data now registry = .ok (answer,after)) :
    (answer.1 ≠ .dispatch ∧ after = registry) ∨
      queueInput soulId requestId payloadDigest data now registry = .ok (answer,after) := by
  simp only [beginInput] at done
  split at done
  · simp only [bind_eq_ok,ensure_eq_ok] at done
    obtain ⟨_,_,rest⟩ := done
    split at rest
    · simp only [pure_eq_ok,Prod.mk.injEq] at rest
      obtain ⟨rfl,rfl⟩ := rest
      exact .inl ⟨by simp,rfl⟩
    · simp only [pure_eq_ok,Prod.mk.injEq] at rest
      obtain ⟨rfl,rfl⟩ := rest
      exact .inl ⟨by simp,rfl⟩
    · simp only [pure_eq_ok,Prod.mk.injEq] at rest
      obtain ⟨rfl,rfl⟩ := rest
      exact .inl ⟨by simp,rfl⟩
    · exact .inr rest
    · simp [throw,throwThe,MonadExceptOf.throw] at rest
  · exact .inr done

theorem claimNextQueuedInput_cases {answer : Option QueuedInput}
    (done : claimNextQueuedInput soulId incarnationId registry = .ok (answer,after)) :
    registry.runsFor soulId incarnationId ∧ ∃ inputCommands, after = { registry with inputCommands } := by
  simp only [claimNextQueuedInput,bind_eq_ok,ensure_eq_ok] at done
  obtain ⟨_,runs,rest⟩ := done
  refine ⟨runs,?_⟩
  split at rest
  · simp only [pure_eq_ok,Prod.mk.injEq] at rest
    exact ⟨registry.inputCommands,rest.2.symm⟩
  · simp only [pure_eq_ok,Prod.mk.injEq] at rest
    exact ⟨_,rest.2.symm⟩

theorem retire_cases {answer : Bool} (done : retireUnownedPreparedReplacement soulId registry = .ok (answer,after)) :
    after = registry ∨ ∃ candidate ∈ registry.incarnations, candidate.soulId = soulId ∧
      candidate.launchState = .prepared ∧ candidate.container = none ∧
      after = { (registry.updateIncarnation candidate.incarnationId fun row =>
          { row with launchState := .failed, cleanupState := .terminationUnconfirmed }).release
            candidate.incarnationId with
        souls := updateWhere (fun soul => soul.soulId == soulId && soul.recoveryState == .recovering)
          (fun soul => { soul with recoveryState := .blocked, recoveryAttemptId := none }) registry.souls } := by
  simp only [retireUnownedPreparedReplacement] at done
  split at done
  · simp only [pure_eq_ok,Prod.mk.injEq] at done
    exact .inl done.2.symm
  · next candidate picked =>
    simp only [pure_eq_ok,Prod.mk.injEq] at done
    have listed := latest_mem picked
    simp only [Registry.incarnationsOf,List.mem_filter,Bool.and_eq_true,beq_iff_eq,Option.isNone_iff_eq_none] at listed
    obtain ⟨⟨listed,owner⟩,⟨prepared,_⟩,bare⟩ := listed
    exact .inr ⟨candidate,listed,owner,prepared,bare,done.2.symm⟩

theorem beginRecovery_cases {trigger : RecoveryTrigger} {attemptId : String}
    {answer : Except RegistryError RecoveryStart}
    (done : beginRecovery soulId trigger attemptId now registry = .ok (answer,after)) :
    ∃ context, loadRecoveryContext registry soulId = .ok context ∧ context.desiredState = .running ∧
      context.recoveryState ≠ .recovering ∧
      ((∃ error, answer = .error error ∧
          after = registry.updateSoul soulId fun soul => { soul with recoveryState := .blocked }) ∨
        (answer = .ok { attemptId, context } ∧ ∃ rearm : Bool,
          after = startRecovery context attemptId
            (if rearm then registry.updateSoul soulId fun soul =>
              { soul with recoveryWindowStartedAt := some now, successfulRecoveriesInWindow := 0 } else registry))) := by
  simp only [beginRecovery,bind_eq_ok,ensure_eq_ok] at done
  obtain ⟨context,loaded,_,running,_,idle,rest⟩ := done
  have desired : context.desiredState = .running := by
    cases given : context.desiredState with
    | running => rfl
    | stopped => exact absurd given running
  refine ⟨context,loaded,desired,idle,?_⟩
  split at rest
  · simp only [pure_eq_ok,Prod.mk.injEq] at rest
    exact .inl ⟨_,rest.1.symm,rest.2.symm⟩
  · simp only [pure_eq_ok,Prod.mk.injEq] at rest
    exact .inr ⟨rest.1.symm,
      decide (successfulRecoveryBudgetAvailable context.recoveryWindowStartedAt context.successfulRecoveriesInWindow now =
        false),by simp [rest.2.symm]⟩

/-- The incident of a certificate, as it is committed. -/
def LostDecisionCertificate.incident (certificate : LostDecisionCertificate) : LossIncident where
  incidentId := certificate.incidentId
  soulId := certificate.soulId
  incarnationId := certificate.cleanupTarget.incarnationId
  intentRevision := certificate.intentRevision
  certificate
  cleanupState := .cleanupPending
  cleanup := initialCleanup certificate

/-- What the commit of a loss writes before it reaches the views. -/
def commitLoss (certificate : LostDecisionCertificate) (soul : Soul) (registry : Registry) : Registry :=
  { registry with
    lossIncidents := registry.lossIncidents ++ [certificate.incident]
    souls := updateWhere
      (fun row => row.soulId == certificate.soulId && row.intentRevision == soul.intentRevision &&
        row.desiredState == .running)
      (fun row => { row with desiredState := .stopped, intentRevision := soul.intentRevision + 1,
                             recoveryState := .lost, recoveryAttemptId := none,
                             lossIncidentId := some certificate.incidentId }) registry.souls
    incarnations := updateWhere (·.incarnationId == certificate.cleanupTarget.incarnationId)
      (fun row => { row with launchState := .stopping, cleanupState := .requested }) registry.incarnations
    tombstones := registry.tombstones ++ [⟨certificate.soulId,soul.intentRevision + 1⟩] }

/-- What a loss that is committed for the first time was checked against. -/
structure Certifiable (certificate : LostDecisionCertificate) (soul : Soul) (registry : Registry) : Prop where
  unseen : ∀ row ∈ registry.lossIncidents,
    ¬(row.soulId = certificate.soulId ∧ row.intentRevision = certificate.intentRevision)
  fresh : ∀ row ∈ registry.lossIncidents, row.incidentId ≠ certificate.incidentId
  known : registry.soul certificate.soulId = some soul
  desired : soul.desiredState = .running
  intent : soul.intentRevision = certificate.intentRevision
  owned : ∃ row, registry.incarnation certificate.cleanupTarget.incarnationId = some row ∧
    row.soulId = certificate.soulId ∧ row.container.isSome = true
  candidate : (registry.cleanupCandidate certificate.soulId).map (·.incarnationId) =
    some certificate.cleanupTarget.incarnationId

theorem loadOwnedHandle_cases {handle : OwnedRuntimeHandle}
    (done : loadOwnedHandle registry incarnationId = .ok handle) :
    ∃ row, registry.incarnation incarnationId = some row ∧ row.launchState ≠ .prepared ∧
      row.container = some handle.container ∧ handle.soulId = row.soulId ∧ handle.incarnationId = incarnationId ∧
      handle.requestedLimits = row.requestedLimits := by
  simp only [loadOwnedHandle,bind_eq_ok,found_eq_ok,ensure_eq_ok,pure_eq_ok] at done
  obtain ⟨row,known,_,launched,container,held,rfl⟩ := done
  exact ⟨row,known,launched,held,rfl,rfl,rfl⟩

theorem prepareLoss_cases {certificate : LostDecisionCertificate} {answer : PreparedLoss}
    (done : prepareLoss certificate now registry = .ok (answer,after)) :
    (after = registry ∧ ∃ row ∈ registry.lossIncidents, row.soulId = certificate.soulId ∧
      row.intentRevision = certificate.intentRevision) ∨
    ∃ soul, Certifiable certificate soul registry ∧
      advanceViewsInTx certificate.soulId (soul.intentRevision + 1) now (commitLoss certificate soul registry) =
        .ok after := by
  simp only [prepareLoss] at done
  split at done
  · next existing picked =>
    simp only [preparedAgain,bind_eq_ok,ensure_eq_ok,found_eq_ok,pure_eq_ok,Prod.mk.injEq] at done
    obtain ⟨_,_,_,_,_,_,_,_,_,_,_,rfl⟩ := done
    have named := List.find?_some picked
    simp only [Bool.and_eq_true,beq_iff_eq] at named
    exact .inl ⟨rfl,existing,List.mem_of_find?_eq_some picked,named⟩
  · next unseen =>
    simp only [bind_eq_ok,found_eq_ok,ensure_eq_ok,pure_eq_ok,Prod.mk.injEq] at done
    obtain ⟨soul,known,_,⟨desired,intent,_⟩,_,candidate,handle,loaded,_,⟨_,owner⟩,_,_,_,fresh,_,_,_,advanced,_,rfl⟩ :=
      done
    obtain ⟨row,listed,_,held,own,_⟩ := loadOwnedHandle_cases loaded
    refine .inr ⟨soul,⟨?_,fresh,known,desired,intent,⟨row,listed,own.symm.trans owner,by simp [held]⟩,candidate⟩,
      advanced⟩
    intro other listed same
    have := List.find?_eq_none.mp unseen other listed
    simp [same] at this

/-- The incident of a finalisation that is not closed yet, and the soul it belongs to. -/
structure Finalizable (incidentId : String) (incident : LossIncident) (soul : Soul) (registry : Registry) : Prop where
  found : registry.lossIncidents.find? (·.incidentId == incidentId) = some incident
  unsettled : incident.cleanupState ≠ .closed
  known : registry.soul incident.soulId = some soul
  stopped : soul.desiredState = .stopped
  lost : soul.recoveryState = .lost
  current : soul.lossIncidentId = some incidentId
  owned : ∃ row ∈ registry.incarnations, row.incarnationId = incident.incarnationId ∧ row.soulId = incident.soulId

/-- The rows that a finalisation writes whatever its outcome. -/
def recordCleanup (incidentId : String) (incident : LossIncident) (verified : Prop) [Decidable verified]
    (outcome : StopOutcome) (cleanup : LossCleanupReport) (registry : Registry) : Registry :=
  { registry with
    souls := updateWhere
      (fun row => row.soulId == incident.soulId && row.intentRevision == incident.certificate.intentRevision + 1 &&
        row.desiredState == .stopped && row.recoveryState == .lost && row.lossIncidentId == some incidentId)
      (fun row => { row with recoveryAttemptId := none }) registry.souls
    lossIncidents := updateWhere (·.incidentId == incidentId)
      (fun row => { row with cleanupState := if verified then .closed else .cleanupFailed, cleanup })
      registry.lossIncidents
    incarnations := updateWhere (·.incarnationId == incident.incarnationId)
      (fun row => { row with
        launchState := if verified then .stopped else .stopping
        cleanupState := if verified then .verifiedEmpty
          else if outcome = .blockedOwnership then .blockedOwnership else .terminationUnconfirmed })
      registry.incarnations }

variable {incidentId : String} {cleanup : LossCleanupReport}

theorem finalizeLossCleanup_cases {answer : PUnit}
    (done : finalizeLossCleanup installation incidentId outcome cleanup now registry = .ok (answer,after)) :
    (∃ incident, registry.lossIncidents.find? (·.incidentId == incidentId) = some incident ∧
      incident.cleanupState = .closed ∧
      after = enqueueNoticeInTx installation (closedKind incident.cleanup) [incidentId] now registry) ∨
    ∃ incident soul, Finalizable incidentId incident soul registry ∧
      ((outcome = .verifiedEmpty ∧ cleanup.verifiedEmpty = true ∧
          after = closeLoss installation incidentId incident.incarnationId cleanup now
            (recordCleanup incidentId incident True outcome cleanup registry)) ∨
        (¬(outcome = .verifiedEmpty ∧ cleanup.verifiedEmpty = true) ∧
          (∀ row ∈ registry.incarnations, row.incarnationId = incident.incarnationId →
            ∀ other ∈ registry.incarnationsOf row.soulId, other.active = true →
              other.incarnationId = incident.incarnationId) ∧
          after = enqueueNoticeInTx installation .cleanupFailed [incidentId] now
            (recordCleanup incidentId incident False outcome cleanup registry))) := by
  simp only [finalizeLossCleanup,bind_eq_ok,found_eq_ok] at done
  obtain ⟨incident,picked,rest⟩ := done
  split at rest
  · next closed =>
    simp only [pure_eq_ok,Prod.mk.injEq] at rest
    exact .inl ⟨incident,picked,closed,rest.2.symm⟩
  · next unsettled =>
    simp only [bind_eq_ok,found_eq_ok,ensure_eq_ok,writeIncarnation_eq_ok] at rest
    obtain ⟨_,_,_,_,soul,known,_,⟨stopped,_,lost,current⟩,_,_,_,owned,_,⟨alone,rfl⟩,rest⟩ := rest
    refine .inr ⟨incident,soul,⟨picked,unsettled,known,stopped,lost,current,owned⟩,?_⟩
    by_cases verified : outcome = .verifiedEmpty ∧ cleanup.verifiedEmpty = true
    · simp only [if_pos verified,pure_eq_ok,Prod.mk.injEq] at rest
      obtain ⟨_,rfl⟩ := rest
      exact .inl ⟨verified.1,verified.2,rfl⟩
    · simp only [if_neg verified,pure_eq_ok,Prod.mk.injEq] at rest alone
      obtain ⟨_,rfl⟩ := rest
      exact .inr ⟨verified,fun row listed same => alone row listed same rfl,rfl⟩

variable {kind : NoticeKind}

theorem enqueueNotice_eq {incidents : List String} :
    ∃ notices, enqueueNoticeInTx installation kind incidents now registry = { registry with notices } := by
  simp only [enqueueNoticeInTx]
  split
  · exact ⟨registry.notices,rfl⟩
  · exact ⟨_,rfl⟩

theorem coalesceKind_eq {startedAt finishedAt : Nat} :
    ∃ notices, coalesceKind installation startedAt finishedAt registry kind = { registry with notices } := by
  simp only [coalesceKind]
  split
  · exact ⟨registry.notices,rfl⟩
  · obtain ⟨notices,enqueued⟩ := enqueueNotice_eq
    rw [enqueued]
    exact ⟨_,rfl⟩

theorem coalesce_cases {startedAt finishedAt : Nat} {answer : PUnit}
    (done : coalesceStartupNotices installation startedAt finishedAt registry = .ok (answer,after)) :
    ∃ notices, after = { registry with notices } := by
  simp only [coalesceStartupNotices,pure_eq_ok,Prod.mk.injEq,List.foldl_cons,List.foldl_nil] at done
  obtain ⟨_,rfl⟩ := done
  obtain ⟨first,one⟩ := coalesceKind_eq
  obtain ⟨second,two⟩ := coalesceKind_eq
  obtain ⟨third,three⟩ := coalesceKind_eq
  exact ⟨third,by rw [three,two,one]⟩

theorem closeLoss_cases : ∃ notices, closeLoss installation incidentId incarnationId cleanup now registry =
      { registry.release incarnationId with
        notices
        inputCommands := updateWhere
          (fun row => row.incarnationId == incarnationId && row.state != .completed && row.state != .cancelled)
          (fun row => { row with state := .cancelled }) registry.inputCommands } := by
  simp only [closeLoss]
  obtain ⟨notices,enqueued⟩ := enqueueNotice_eq
  rw [enqueued]
  exact ⟨_,rfl⟩

theorem updateConfiguredLimits_cases {expected : Nat} {answer : PUnit}
    (done : updateConfiguredLimits soulId limits expected now registry = .ok (answer,after)) :
    after = registry ∨ ∃ soul, registry.soul soulId = some soul ∧
      advanceViewsInTx soulId (soul.intentRevision + 1) now (registry.updateSoul soulId fun row =>
        { row with configuredLimits := some limits, resourceProfile := "custom",
                   intentRevision := soul.intentRevision + 1 }) = .ok after := by
  simp only [updateConfiguredLimits,bind_eq_ok,found_eq_ok,ensure_eq_ok] at done
  obtain ⟨soul,known,_,_,rest⟩ := done
  split at rest
  · simp only [pure_eq_ok,Prod.mk.injEq] at rest
    exact .inl rest.2.symm
  · simp only [bind_eq_ok,ensure_eq_ok,pure_eq_ok,Prod.mk.injEq] at rest
    obtain ⟨_,_,_,advanced,_,rfl⟩ := rest
    exact .inr ⟨soul,known,advanced⟩

def retireUngranted (registry : Registry) (incarnationId : String) : Registry :=
  (registry.updateIncarnation incarnationId fun row =>
    if row.ungranted then { row with launchState := .failed, cleanupState := .verifiedEmpty } else row).release
    incarnationId

theorem repairAudit_cases {apply : Bool} {answer : Bool} (done : repairAudit apply registry = .ok (answer,after)) :
    after = registry ∨ (registry.incarnations.countP (·.unknownOwnership) = 0 ∧
      after = ((registry.incarnations.filter (·.ungranted)).map (·.incarnationId)).foldl retireUngranted registry) := by
  simp only [repairAudit] at done
  split at done
  · next sound =>
    simp only [pure_eq_ok,Prod.mk.injEq] at done
    exact .inr ⟨sound.2,done.2.symm⟩
  · simp only [pure_eq_ok,Prod.mk.injEq] at done
    exact .inl done.2.symm
end Freshell.Supervisor
