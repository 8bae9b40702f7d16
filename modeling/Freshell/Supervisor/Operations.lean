import Freshell.Library.Runs
import Freshell.Supervisor.Losses

/-!
The transactions as the labels of one transition system, whose runs are the
interleavings of everything that uses the registry. A statement on views leaves the
other tables alone, so what a transaction does to these is read off its body.
-/
namespace Freshell.Supervisor
open Freshell.Library.Transactions

inductive Operation where
  | openRegistry (now : Nat)
  | prepareLaunch (input : LaunchPreparation) (incarnationId : String) (now : Nat)
  | commitCreated (incarnationId : String) (created : BackendCreatedRecord)
  | commitExecutionGrant (incarnationId hostBootId grantId : String) (effectiveLimits : RuntimeLimits)
  | markRunning (incarnationId : String)
  | beginStop (soulId : String) (expectedIntentRevision : Option Nat) (now : Nat)
  | markStopOutcome (incarnationId : String) (outcome : StopOutcome)
  | beginInput (soulId requestId payloadDigest data : String) (now : Nat)
  | claimNextQueuedInput (soulId incarnationId : String)
  | markInputDispatching (soulId requestId : String)
  | markInputCompleted (soulId requestId : String)
  | markInputAmbiguous (soulId requestId : String)
  | recordNativeSession (soulId incarnationId nativeSessionId : String)
  | transitionNativeSession (soulId incarnationId expectedParent childSessionId : String)
  | retireUnownedPreparedReplacement (soulId : String)
  | beginRecovery (soulId : String) (trigger : RecoveryTrigger) (attemptId : String) (now : Nat)
  | prepareReplacement (start : RecoveryStart) (terminal : Option TerminalLaunchSpec)
      (freshAgent : Option FreshAgentLaunchSpec) (resumeSpec : Option ProviderSession) (incarnationId : String) (now : Nat)
  | markRecoveryLive (soulId incarnationId : String)
  | markRecoverySuccess (soulId incarnationId attemptId : String) (now : Nat)
  | markRecoveryBlocked (soulId : String)
  | markRecoveryLost (soulId : String)
  | prepareLoss (certificate : LostDecisionCertificate) (now : Nat)
  | finalizeLossCleanup (incidentId : String) (outcome : StopOutcome) (cleanup : LossCleanupReport) (now : Nat)
  | coalesceStartupNotices (startedAt finishedAt : Nat)
  | repairAudit (apply : Bool)
  | makeDesiredRunningViewsVisible (now : Nat)
  | acknowledgeViewProjection (eventId : String) (now : Nat)
  | updateViewVisibility (viewId : String) (visibility : ViewVisibilityIntent)
      (expectedRevision expectedSoulIntentRevision now : Nat)
  | upsertViewIntent (request : UpsertViewIntentRequest) (now : Nat)
  | updateConfiguredLimits (soulId : String) (limits : RuntimeLimits) (expectedIntentRevision now : Nat)
  deriving DecidableEq, Repr

section
variable (installation : Installation)

def Operation.transaction : Operation → (Answer : Type) × Transaction Answer
  | .openRegistry now => ⟨_,backfillAutomaticViewIntents installation now⟩
  | .prepareLaunch input incarnationId now => ⟨_,Supervisor.prepareLaunch installation input incarnationId now⟩
  | .commitCreated incarnationId created => ⟨_,Supervisor.commitCreated incarnationId created⟩
  | .commitExecutionGrant incarnationId hostBootId grantId effectiveLimits =>
    ⟨_,Supervisor.commitExecutionGrant incarnationId hostBootId grantId effectiveLimits⟩
  | .markRunning incarnationId => ⟨_,Supervisor.markRunning incarnationId⟩
  | .beginStop soulId expected now => ⟨_,beginStopExpected soulId expected now⟩
  | .markStopOutcome incarnationId outcome => ⟨_,Supervisor.markStopOutcome incarnationId outcome⟩
  | .beginInput soulId requestId payloadDigest data now => ⟨_,Supervisor.beginInput soulId requestId payloadDigest data now⟩
  | .claimNextQueuedInput soulId incarnationId => ⟨_,Supervisor.claimNextQueuedInput soulId incarnationId⟩
  | .markInputDispatching soulId requestId => ⟨_,Supervisor.markInputDispatching soulId requestId⟩
  | .markInputCompleted soulId requestId => ⟨_,Supervisor.markInputCompleted soulId requestId⟩
  | .markInputAmbiguous soulId requestId => ⟨_,Supervisor.markInputAmbiguous soulId requestId⟩
  | .recordNativeSession soulId incarnationId nativeSessionId =>
    ⟨_,Supervisor.recordNativeSession soulId incarnationId nativeSessionId⟩
  | .transitionNativeSession soulId incarnationId expectedParent childSessionId =>
    ⟨_,Supervisor.transitionNativeSession soulId incarnationId expectedParent childSessionId⟩
  | .retireUnownedPreparedReplacement soulId => ⟨_,Supervisor.retireUnownedPreparedReplacement soulId⟩
  | .beginRecovery soulId trigger attemptId now => ⟨_,Supervisor.beginRecovery soulId trigger attemptId now⟩
  | .prepareReplacement start terminal freshAgent resumeSpec incarnationId now =>
    ⟨_,Supervisor.prepareReplacement start terminal freshAgent resumeSpec incarnationId now⟩
  | .markRecoveryLive soulId incarnationId => ⟨_,Supervisor.markRecoveryLive soulId incarnationId⟩
  | .markRecoverySuccess soulId incarnationId attemptId now =>
    ⟨_,Supervisor.markRecoverySuccess soulId incarnationId attemptId now⟩
  | .markRecoveryBlocked soulId => ⟨_,Supervisor.markRecoveryBlocked soulId⟩
  | .markRecoveryLost soulId => ⟨_,Supervisor.markRecoveryLost soulId⟩
  | .prepareLoss certificate now => ⟨_,Supervisor.prepareLoss certificate now⟩
  | .finalizeLossCleanup incidentId outcome cleanup now =>
    ⟨_,Supervisor.finalizeLossCleanup installation incidentId outcome cleanup now⟩
  | .coalesceStartupNotices startedAt finishedAt =>
    ⟨_,Supervisor.coalesceStartupNotices installation startedAt finishedAt⟩
  | .repairAudit apply => ⟨_,Supervisor.repairAudit apply⟩
  | .makeDesiredRunningViewsVisible now => ⟨_,Supervisor.makeDesiredRunningViewsVisible now⟩
  | .acknowledgeViewProjection eventId now => ⟨_,Supervisor.acknowledgeViewProjection eventId now⟩
  | .updateViewVisibility viewId visibility expectedRevision expectedSoulIntentRevision now =>
    ⟨_,Supervisor.updateViewVisibility viewId visibility expectedRevision expectedSoulIntentRevision now⟩
  | .upsertViewIntent request now => ⟨_,Supervisor.upsertViewIntent installation request now⟩
  | .updateConfiguredLimits soulId limits expectedIntentRevision now =>
    ⟨_,Supervisor.updateConfiguredLimits soulId limits expectedIntentRevision now⟩

def perform (registry : Registry) (operation : Operation) : Registry :=
  committed (operation.transaction installation).2 registry

variable {installation}

theorem perform_induction {registry : Registry} {operation : Operation} (holds : Registry → Prop) (before : holds registry)
    (commits : ∀ answer after, (operation.transaction installation).2 registry = .ok (answer,after) → holds after) :
    holds (perform installation registry operation) := committed_induction before commits
end

structure ViewsOnly (before after : Registry) : Prop where
  souls : after.souls = before.souls
  incarnations : after.incarnations = before.incarnations
  writerClaims : after.writerClaims = before.writerClaims
  reservations : after.reservations = before.reservations
  commands : after.commands = before.commands
  inputCommands : after.inputCommands = before.inputCommands
  lossIncidents : after.lossIncidents = before.lossIncidents
  notices : after.notices = before.notices
  tombstones : after.tombstones = before.tombstones

namespace ViewsOnly
variable {before middle after : Registry}

theorem refl (registry : Registry) : ViewsOnly registry registry := ⟨rfl,rfl,rfl,rfl,rfl,rfl,rfl,rfl,rfl⟩

theorem trans (first : ViewsOnly before middle) (second : ViewsOnly middle after) : ViewsOnly before after where
  souls := second.souls.trans first.souls
  incarnations := second.incarnations.trans first.incarnations
  writerClaims := second.writerClaims.trans first.writerClaims
  reservations := second.reservations.trans first.reservations
  commands := second.commands.trans first.commands
  inputCommands := second.inputCommands.trans first.inputCommands
  lossIncidents := second.lossIncidents.trans first.lossIncidents
  notices := second.notices.trans first.notices
  tombstones := second.tombstones.trans first.tombstones

theorem enqueueProjection (intent : ViewIntent) (registry : Registry) :
    ViewsOnly registry (Supervisor.enqueueProjection intent registry) := by
  simp only [Supervisor.enqueueProjection]
  split
  · exact refl registry
  · exact ⟨rfl,rfl,rfl,rfl,rfl,rfl,rfl,rfl,rfl⟩

theorem insertView {intent : ViewIntent} (done : Supervisor.insertView intent before = .ok after) :
    ViewsOnly before after := by
  simp only [Supervisor.insertView,bind_eq_ok,ensure_eq_ok,pure_eq_ok] at done
  obtain ⟨_,_,_,_,rfl⟩ := done
  exact ⟨rfl,rfl,rfl,rfl,rfl,rfl,rfl,rfl,rfl⟩

variable {installation : Installation} {soulId : String} {revision now : Nat}

theorem ensureAutomaticPrimary {workspaceId provider : String} {request : Option ViewIntentRequest}
    (done : ensureAutomaticPrimaryInTx installation soulId workspaceId provider revision request now before = .ok after) :
    ViewsOnly before after := by
  simp only [ensureAutomaticPrimaryInTx] at done
  split at done
  · rw [pure_eq_ok] at done
    exact done ▸ refl before
  · simp only [bind_eq_ok,pure_eq_ok] at done
    obtain ⟨middle,inserted,rfl⟩ := done
    exact (insertView inserted).trans (enqueueProjection _ _)

theorem reviseView {overflow : String} {current : ViewIntent} {change : ViewIntent → ViewIntent}
    (done : Supervisor.reviseView overflow current change now before = .ok after) : ViewsOnly before after := by
  simp only [Supervisor.reviseView,bind_eq_ok,ensure_eq_ok,found_eq_ok,pure_eq_ok] at done
  obtain ⟨_,_,updated,_,rfl⟩ := done
  have written : ViewsOnly before
      { before with
        viewIntents := updateWhere (fun row => row.viewId == current.viewId && row.revision == current.revision)
          (fun row => { change row with revision := current.revision + 1, updatedAt := now }) before.viewIntents } :=
    ⟨rfl,rfl,rfl,rfl,rfl,rfl,rfl,rfl,rfl⟩
  exact written.trans (enqueueProjection _ _)

variable {visibility : ViewVisibilityIntent}

theorem setAutomaticPrimary (done : setAutomaticPrimaryInTx visibility soulId revision now before = .ok after) :
    ViewsOnly before after := by
  simp only [setAutomaticPrimaryInTx] at done
  split at done
  · rw [pure_eq_ok] at done
    exact done ▸ refl before
  · split at done
    · rw [pure_eq_ok] at done
      exact done ▸ refl before
    · exact reviseView done

theorem foldlM {Item : Type} {body : Registry → Item → Except RegistryError Registry}
    (each : ∀ registry item next, body registry item = .ok next → ViewsOnly registry next) :
    ∀ {items : List Item} {before after : Registry}, items.foldlM body before = .ok after → ViewsOnly before after
  | [],before,after,done => by
    simp only [List.foldlM_nil,pure_eq_ok] at done
    exact done ▸ refl before
  | item :: rest,before,after,done => by
    simp only [List.foldlM_cons,bind_eq_ok] at done
    obtain ⟨next,stepped,rested⟩ := done
    exact (each before item next stepped).trans (foldlM each rested)

theorem advanceViews (done : advanceViewsInTx soulId revision now before = .ok after) : ViewsOnly before after := by
  refine foldlM (fun registry viewId next stepped => ?_) done
  simp only [bind_eq_ok,found_eq_ok] at stepped
  obtain ⟨current,_,revised⟩ := stepped
  exact reviseView revised

variable {answer : PUnit}

theorem backfill (done : backfillAutomaticViewIntents installation now before = .ok (answer,after)) :
    ViewsOnly before after := by
  simp only [backfillAutomaticViewIntents,bind_eq_ok,pure_eq_ok,Prod.mk.injEq,true_and] at done
  obtain ⟨last,folded,rfl⟩ := done
  refine foldlM (fun registry soul next stepped => ?_) folded
  simp only [bind_eq_ok] at stepped
  obtain ⟨placed,ensured,rest⟩ := stepped
  split at rest
  · exact (ensureAutomaticPrimary ensured).trans (setAutomaticPrimary rest)
  · rw [pure_eq_ok] at rest
    exact rest ▸ ensureAutomaticPrimary ensured

theorem makeVisible (done : makeDesiredRunningViewsVisible now before = .ok (answer,after)) :
    ViewsOnly before after := by
  simp only [makeDesiredRunningViewsVisible,bind_eq_ok,pure_eq_ok,Prod.mk.injEq,true_and] at done
  obtain ⟨last,folded,rfl⟩ := done
  exact foldlM (fun registry soul next stepped => setAutomaticPrimary stepped) folded

theorem updateVisibility {viewId : String} {soulRevision : Nat} {answer : ViewIntent}
    (done : updateViewVisibility viewId visibility revision soulRevision now before = .ok (answer,after)) :
    ViewsOnly before after := by
  simp only [updateViewVisibility,bind_eq_ok,found_eq_ok,ensure_eq_ok,pure_eq_ok,Prod.mk.injEq] at done
  obtain ⟨_,_,_,_,_,_,_,_,_,_,_,revised,_,_,_,rfl⟩ := done
  exact reviseView revised

theorem upsert {request : UpsertViewIntentRequest} {answer : ViewIntent}
    (done : upsertViewIntent installation request now before = .ok (answer,after)) : ViewsOnly before after := by
  simp only [upsertViewIntent,bind_eq_ok,found_eq_ok,ensure_eq_ok,pure_eq_ok,Prod.mk.injEq] at done
  obtain ⟨soul,_,_,_,revision,_,written,wrote,intent,_,_,rfl⟩ := done
  refine trans ?_ (enqueueProjection _ _)
  split at wrote
  · simp only [writeView,bind_eq_ok,ensure_eq_ok,pure_eq_ok] at wrote
    obtain ⟨_,_,rfl⟩ := wrote
    exact ⟨rfl,rfl,rfl,rfl,rfl,rfl,rfl,rfl,rfl⟩
  · exact insertView wrote

theorem acknowledge {eventId : String} (done : acknowledgeViewProjection eventId now before = .ok (answer,after)) :
    ViewsOnly before after := by
  simp only [acknowledgeViewProjection,bind_eq_ok,ensure_eq_ok,pure_eq_ok,Prod.mk.injEq] at done
  obtain ⟨_,_,_,rfl⟩ := done
  exact ⟨rfl,rfl,rfl,rfl,rfl,rfl,rfl,rfl,rfl⟩
end ViewsOnly

def sampleInstallation : Installation := ⟨"installation",id⟩

def samplePolicy : AdmissionPolicy := ⟨⟨1000,1000,100⟩,⟨1000,1000,100⟩⟩

def sampleLimits : RuntimeLimits := ⟨800,800,0,10⟩

def sampleContainer (containerId : String) : BackendCreatedRecord := ⟨"daemon",containerId,"image","/run","/host","digest"⟩

def sampleLaunch (soulId requestId : String) : LaunchPreparation :=
  ⟨soulId,"shell","store",none,requestId,"payload",sampleLimits,"custom","project",none,none,none,samplePolicy⟩
end Freshell.Supervisor
