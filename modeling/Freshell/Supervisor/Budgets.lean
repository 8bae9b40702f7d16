import Freshell.Library.Tables
import Freshell.Supervisor.Effects

/-!
The rooms that the admission policy gives out. A launch is let in only where its
limits still fit; a replacement takes its room unasked, in the limits that its soul
was given last, so the budgets hold as long as there was room for each one.
-/
namespace Freshell.Supervisor
open Freshell.Library Freshell.Library.Runs

def ReservationTotals.plus (totals : ReservationTotals) (limits : RuntimeLimits) : ReservationTotals where
  cpuMilli := totals.cpuMilli + limits.cpuMilli
  memoryBytes := totals.memoryBytes + limits.memoryBytes
  pidsMax := totals.pidsMax + limits.pidsMax

structure ReservationTotals.Within (totals : ReservationTotals) (budget : AdmissionBudget) : Prop where
  cpuMilli : totals.cpuMilli ≤ budget.cpuMilli
  memoryBytes : totals.memoryBytes ≤ budget.memoryBytes
  pidsMax : totals.pidsMax ≤ budget.pidsMax

structure ReservationTotals.Fits (totals : ReservationTotals) : Prop where
  cpuMilli : totals.cpuMilli ≤ maxU64
  memoryBytes : totals.memoryBytes ≤ maxU64
  pidsMax : totals.pidsMax ≤ maxU64

structure AdmissionPolicy.Holds (policy : AdmissionPolicy) (registry : Registry) : Prop where
  installation : (reservationTotals registry none).Within policy.installation
  project : ∀ projectKey, (reservationTotals registry (some projectKey)).Within policy.project

/-- The budgets have room for limits in a project. -/
structure AdmissionPolicy.Admits (policy : AdmissionPolicy) (registry : Registry) (projectKey : String)
    (limits : RuntimeLimits) : Prop where
  installation : policy.installation.admits (reservationTotals registry none) limits
  project : policy.project.admits (reservationTotals registry (some projectKey)) limits

/-- Limits are asked for under the policy, and the sums they lead to are of 64 bits. A
    replacement that is about to be prepared finds room in both budgets. -/
def Roomy (policy : AdmissionPolicy) (registry : Registry) : Operation → Prop
  | .prepareLaunch input _ _ =>
    input.admission = policy ∧ ((reservationTotals registry none).plus input.requestedLimits).Fits
  | .prepareReplacement start _ _ _ _ _ =>
    ((reservationTotals registry none).plus start.context.requestedLimits).Fits ∧
      (registry.Awaits start → policy.Admits registry start.context.projectKey start.context.requestedLimits)
  | _ => True

theorem totalsOf_append (rows : List AdmissionReservation) (incarnationId projectKey : String) (limits : RuntimeLimits) :
    totalsOf (rows ++ [reservationOf incarnationId projectKey limits]) = (totalsOf rows).plus limits := by
  simp [totalsOf,reservationOf,ReservationTotals.plus]

theorem totalsOf_sublist {part rows : List AdmissionReservation} (sublist : part.Sublist rows)
    {budget : AdmissionBudget} (within : (totalsOf rows).Within budget) : (totalsOf part).Within budget where
  cpuMilli := (Tables.sum_map_le_of_sublist _ sublist).trans within.cpuMilli
  memoryBytes := (Tables.sum_map_le_of_sublist _ sublist).trans within.memoryBytes
  pidsMax := (Tables.sum_map_le_of_sublist _ sublist).trans within.pidsMax

theorem le_of_saturatingAdd {first second bound : Nat} (fits : first + second ≤ maxU64)
    (admitted : saturatingAdd first second ≤ bound) : first + second ≤ bound := by
  simp only [saturatingAdd] at admitted
  omega

variable {limits : RuntimeLimits}

theorem AdmissionBudget.within_of_admits {budget : AdmissionBudget} {used : ReservationTotals}
    (fits : (used.plus limits).Fits) (admitted : budget.admits used limits) : (used.plus limits).Within budget where
  cpuMilli := le_of_saturatingAdd fits.cpuMilli admitted.1
  memoryBytes := le_of_saturatingAdd fits.memoryBytes admitted.2.1
  pidsMax := le_of_saturatingAdd fits.pidsMax admitted.2.2

theorem AdmissionPolicy.Holds.sublist {policy : AdmissionPolicy} {before after : Registry}
    (sublist : after.reservations.Sublist before.reservations) (held : policy.Holds before) : policy.Holds after where
  installation := totalsOf_sublist sublist held.installation
  project projectKey := totalsOf_sublist (sublist.filter _) (held.project projectKey)

variable {registry : Registry} {projectKey : String}

theorem project_fits (fits : ((reservationTotals registry none).plus limits).Fits) :
    ((reservationTotals registry (some projectKey)).plus limits).Fits := by
  have sublist : (registry.reservations.filter (·.projectKey == projectKey)).Sublist registry.reservations :=
    List.filter_sublist
  have part := @totalsOf_sublist _ _ sublist ⟨_,_,_⟩ ⟨le_rfl,le_rfl,le_rfl⟩
  constructor
  · exact (Nat.add_le_add_right part.cpuMilli _).trans fits.cpuMilli
  · exact (Nat.add_le_add_right part.memoryBytes _).trans fits.memoryBytes
  · exact (Nat.add_le_add_right part.pidsMax _).trans fits.pidsMax

variable {policy : AdmissionPolicy} {incarnationId : String}

theorem AdmissionPolicy.Holds.reserve {before after : Registry}
    (fits : ((reservationTotals before none).plus limits).Fits) (admitted : policy.Admits before projectKey limits)
    (entered : after.reservations = before.reservations ++ [reservationOf incarnationId projectKey limits])
    (held : policy.Holds before) : policy.Holds after where
  installation := by
    simp only [reservationTotals,entered,totalsOf_append]
    exact AdmissionBudget.within_of_admits fits admitted.installation
  project other := by
    simp only [reservationTotals,entered,List.filter_append]
    by_cases own : projectKey = other
    · subst own
      have kept : [reservationOf incarnationId projectKey limits].filter (·.projectKey == projectKey) =
          [reservationOf incarnationId projectKey limits] := by simp [reservationOf]
      rw [kept,totalsOf_append]
      exact AdmissionBudget.within_of_admits (project_fits fits) admitted.project
    · have kept : [reservationOf incarnationId projectKey limits].filter (·.projectKey == other) = [] := by
        simp [reservationOf,own]
      rw [kept,List.append_nil]
      exact held.project other

theorem repair_reservations (ids : List String) (registry : Registry) :
    (ids.foldl retireUngranted registry).reservations.Sublist registry.reservations := by
  induction ids generalizing registry with
  | nil => exact List.Sublist.refl _
  | cons id rest ih => exact (ih _).trans List.filter_sublist

/-- What an operation does to the reservations: it takes a room for a launch or for a
    replacement, or leaves no more than there were. -/
inductive Reserves (registry after : Registry) : Operation → Prop where
  | fewer {operation : Operation} (sublist : after.reservations.Sublist registry.reservations) :
    Reserves registry after operation
  | launch {input : LaunchPreparation} {incarnationId : String} {now : Nat}
      (admitted : input.admission.Admits registry input.projectKey input.requestedLimits)
      (entered : after.reservations =
        registry.reservations ++ [reservationOf incarnationId input.projectKey input.requestedLimits]) :
    Reserves registry after (.prepareLaunch input incarnationId now)
  | replacement {start : RecoveryStart} {terminal : Option TerminalLaunchSpec}
      {freshAgent : Option FreshAgentLaunchSpec} {resumeSpec : Option ProviderSession} {incarnationId : String} {now : Nat}
      (awaited : registry.Awaits start)
      (entered : after.reservations =
        registry.reservations ++ [reservationOf incarnationId start.context.projectKey start.context.requestedLimits]) :
    Reserves registry after (.prepareReplacement start terminal freshAgent resumeSpec incarnationId now)

theorem Reserves.same {registry after : Registry} {operation : Operation}
    (same : after.reservations = registry.reservations) : Reserves registry after operation :=
  .fewer (same ▸ List.Sublist.refl _)

theorem prepareLaunch_reserves {installation : Installation} {input : LaunchPreparation} {now : Nat} {after : Registry}
    {answer : PreparedLaunch} (done : prepareLaunch installation input incarnationId now registry = .ok (answer,after)) :
    Reserves registry after (.prepareLaunch input incarnationId now) := by
  rcases prepareLaunch_cases done with rfl | ⟨placed,stands,⟨command,rfl⟩ | admitted⟩
  · exact .same rfl
  · exact .same stands.reservations
  · obtain ⟨roomy,projectRoomy,_,rfl⟩ := admitLaunch_cases admitted
    simp only [reservationTotals,stands.reservations] at roomy projectRoomy
    exact .launch ⟨roomy,projectRoomy⟩ (by rw [← stands.reservations])

variable (installation : Installation)

theorem perform_reserves (registry : Registry) (operation : Operation) :
    Reserves registry (perform installation registry operation) operation := by
  refine perform_induction (Reserves registry · operation) (.same rfl) fun answer after done => ?_
  cases operation with
  | openRegistry now => exact .same (ViewsOnly.backfill done).reservations
  | prepareLaunch input id now => exact prepareLaunch_reserves done
  | commitCreated id created =>
    obtain ⟨_,_,_,_,_,rfl⟩ := commitCreated_cases done
    exact .same rfl
  | commitExecutionGrant id boot grant limits =>
    obtain ⟨_,_,⟨_,rfl⟩ | ⟨_,_,rfl⟩⟩ := commitExecutionGrant_cases done
    · exact .same rfl
    · exact .same rfl
  | markRunning id =>
    obtain ⟨_,_,_,_,rfl⟩ := markRunning_cases done
    exact .same rfl
  | beginStop soulId expected now =>
    obtain ⟨_,_,_,_,_,_,_,_,reservations,_⟩ := beginStop_cases done
    exact .same reservations
  | markStopOutcome id outcome =>
    rcases markStopOutcome_cases done with ⟨_,rfl⟩ | ⟨_,_,rfl⟩
    · exact .fewer List.filter_sublist
    · exact .same rfl
  | beginInput soulId requestId digest data now =>
    rcases beginInput_cases done with ⟨_,rfl⟩ | queued
    · exact .same rfl
    · obtain ⟨_,_,_,_,rfl⟩ := queueInput_cases queued
      exact .same rfl
  | claimNextQueuedInput soulId id =>
    obtain ⟨_,_,rfl⟩ := claimNextQueuedInput_cases done
    exact .same rfl
  | markInputDispatching soulId requestId =>
    exact .same (setInputState_cases done ▸ rfl)
  | markInputCompleted soulId requestId =>
    exact .same (setInputState_cases done ▸ rfl)
  | markInputAmbiguous soulId requestId =>
    exact .same (setInputState_cases done ▸ rfl)
  | recordNativeSession soulId id session =>
    obtain ⟨_,_,_,_,_,_,rfl,_⟩ := recordNativeSession_cases done
    exact .same rfl
  | transitionNativeSession soulId id parent child =>
    rcases transitionNativeSession_cases done with rfl | ⟨_,_,_,_,_,rfl⟩
    · exact .same rfl
    · exact .same rfl
  | retireUnownedPreparedReplacement soulId =>
    rcases retire_cases done with rfl | ⟨_,_,_,_,_,rfl⟩
    · exact .same rfl
    · exact .fewer List.filter_sublist
  | beginRecovery soulId trigger attempt now =>
    obtain ⟨_,_,_,_,⟨_,_,rfl⟩ | ⟨_,rearm,rfl⟩⟩ := beginRecovery_cases done
    · exact .same rfl
    · cases rearm <;> exact .same rfl
  | prepareReplacement start terminal freshAgent resumeSpec id now =>
    obtain ⟨awaited,_,rfl⟩ := prepareReplacement_cases done
    exact .replacement awaited rfl
  | markRecoveryLive soulId id =>
    obtain ⟨_,rfl⟩ := markRecoveryLive_cases done
    exact .same rfl
  | markRecoverySuccess soulId id attempt now =>
    obtain ⟨_,_,_,_,_,_,_,_,_,rfl⟩ := markRecoverySuccess_cases done
    exact .same rfl
  | markRecoveryBlocked soulId =>
    exact .same (finishRecoveryVerdict_cases done ▸ rfl)
  | markRecoveryLost soulId =>
    exact .same (finishRecoveryVerdict_cases done ▸ rfl)
  | prepareLoss certificate now =>
    rcases prepareLoss_cases done with ⟨rfl,_⟩ | ⟨_,_,advanced⟩
    · exact .same rfl
    · exact .same (ViewsOnly.advanceViews advanced).reservations
  | finalizeLossCleanup incidentId outcome cleanup now =>
    rcases finalizeLossCleanup_cases done with ⟨_,_,_,rfl⟩ | ⟨_,_,_,⟨_,_,rfl⟩ | ⟨_,_,rfl⟩⟩
    · obtain ⟨_,enqueued⟩ := enqueueNotice_eq
      exact .same (by rw [enqueued])
    · obtain ⟨_,closed⟩ := closeLoss_cases
      exact .fewer (by rw [closed]; exact List.filter_sublist)
    · obtain ⟨_,enqueued⟩ := enqueueNotice_eq
      exact .same (by rw [enqueued]; rfl)
  | coalesceStartupNotices startedAt finishedAt =>
    obtain ⟨_,rfl⟩ := coalesce_cases done
    exact .same rfl
  | repairAudit apply =>
    rcases repairAudit_cases done with rfl | ⟨_,rfl⟩
    · exact .same rfl
    · exact .fewer (repair_reservations _ _)
  | makeDesiredRunningViewsVisible now =>
    exact .same (ViewsOnly.makeVisible done).reservations
  | acknowledgeViewProjection eventId now =>
    exact .same (ViewsOnly.acknowledge done).reservations
  | updateViewVisibility viewId visibility revision soulRevision now =>
    exact .same (ViewsOnly.updateVisibility done).reservations
  | upsertViewIntent request now =>
    exact .same (ViewsOnly.upsert done).reservations
  | updateConfiguredLimits soulId limits expected now =>
    rcases updateConfiguredLimits_cases done with rfl | ⟨_,_,advanced⟩
    · exact .same rfl
    · exact .same (ViewsOnly.advanceViews advanced).reservations

theorem AdmissionPolicy.Holds.perform {operation : Operation} (roomy : Roomy policy registry operation)
    (held : policy.Holds registry) : policy.Holds (perform installation registry operation) := by
  cases perform_reserves installation registry operation with
  | fewer sublist => exact held.sublist sublist
  | launch admitted entered =>
    obtain ⟨rfl,fits⟩ := roomy
    exact held.reserve fits admitted entered
  | replacement awaited entered => exact held.reserve roomy.1 (roomy.2 awaited) entered

theorem AdmissionPolicy.holds_empty (policy : AdmissionPolicy) : policy.Holds .empty where
  installation := ⟨Nat.zero_le _,Nat.zero_le _,Nat.zero_le _⟩
  project _ := ⟨Nat.zero_le _,Nat.zero_le _,Nat.zero_le _⟩

/-- The budgets hold at every moment of a run in which each replacement finds room. -/
theorem budgets_run (installation : Installation) (policy : AdmissionPolicy) (operations : List Operation)
    (roomy : Along (perform installation) (Roomy policy) .empty operations) :
    policy.Holds (run (perform installation) .empty operations) :=
  invariant_run (fun _ _ held allowed => held.perform installation allowed) policy.holds_empty roomy

/-- A launched soul that a recovery is begun for, with the limits it has then. -/
def sampleStart (limits : RuntimeLimits) (intentRevision : Nat) : RecoveryStart :=
  ⟨"attempt",⟨"soul",.running,intentRevision,.live,"project",limits,none,0,
    ⟨"soul","first",sampleContainer "one",sampleLimits,none,none⟩⟩⟩

/-- The soul is given more than the budget has, and recovered. -/
def raisedRecovery : List Operation :=
  [.prepareLaunch (sampleLaunch "soul" "request") "first" 1,.commitCreated "first" (sampleContainer "one"),
    .updateConfiguredLimits "soul" ⟨2000,800,0,10⟩ 1 2,.beginRecovery "soul" .hostUnreachable "attempt" 3,
    .markStopOutcome "first" .verifiedEmpty]

/-- The recovery is admitted to more room than the budget has: nothing asks. -/
theorem raised_recovery_exceeds :
    let recovering := run (perform sampleInstallation) .empty raisedRecovery
    let start := sampleStart ⟨2000,800,0,10⟩ 2
    (beginRecovery "soul" .hostUnreachable "attempt" 3
        (run (perform sampleInstallation) .empty (raisedRecovery.take 3))).map (·.1) = .ok (.ok start) ∧
      ((reservationTotals recovering none).plus start.context.requestedLimits).Fits ∧
      ¬samplePolicy.Holds (perform sampleInstallation recovering (.prepareReplacement start none none none "second" 4)) := by
  refine ⟨by decide,⟨by decide,by decide,by decide⟩,?_⟩
  intro held
  exact absurd held.installation.cpuMilli (by decide)

def sameRecovery : List Operation :=
  [.prepareLaunch (sampleLaunch "soul" "request") "first" 1,.commitCreated "first" (sampleContainer "one"),
    .beginRecovery "soul" .hostUnreachable "attempt" 3,.markStopOutcome "first" .verifiedEmpty,
    .prepareReplacement (sampleStart sampleLimits 1) none none none "second" 4]

theorem budgets_sameRecovery : samplePolicy.Holds (run (perform sampleInstallation) .empty sameRecovery) := by
  refine budgets_run sampleInstallation samplePolicy sameRecovery ⟨⟨rfl,?_⟩,trivial,trivial,trivial,⟨?_,fun _ => ?_⟩,trivial⟩
  · exact ⟨by decide,by decide,by decide⟩
  · exact ⟨by decide,by decide,by decide⟩
  · exact ⟨by decide,by decide⟩
end Freshell.Supervisor
