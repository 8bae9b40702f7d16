import Freshell.Supervisor.ViewSteps

/-!
What each operation does to the views: it changes the souls first, then writes
views at its own time, and leaves the views that were there to their souls.
-/
namespace Freshell.Supervisor
open Freshell.Library.Transactions
variable {registry before middle written after : Registry}

/-- The souls move first, then the views, at one time. -/
structure Moves (now : Nat) (before after : Registry) : Prop where
  chain : ∃ middle written, SoulsKept before middle ∧ middle.viewIntents = before.viewIntents ∧
    middle.outbox = before.outbox ∧ ViewWrites now middle written ∧ after.souls = written.souls ∧
    after.viewIntents = written.viewIntents ∧ after.outbox = written.outbox

theorem Moves.souls {now : Nat} (kept : SoulsKept before after) (views : after.viewIntents = before.viewIntents)
    (outbox : after.outbox = before.outbox) : Moves now before after :=
  ⟨after,after,kept,views,outbox,.refl,rfl,rfl,rfl⟩

theorem Moves.views {now : Nat} (writes : ViewWrites now before after) : Moves now before after :=
  ⟨before,after,.same rfl,rfl,rfl,writes,rfl,rfl,rfl⟩

theorem Moves.steps {now : Nat} (kept : SoulsKept before middle) (views : middle.viewIntents = before.viewIntents)
    (outbox : middle.outbox = before.outbox) (writes : ViewWrites now middle after) : Moves now before after :=
  ⟨middle,after,kept,views,outbox,writes,rfl,rfl,rfl⟩

theorem Numbered.congr (views : after.viewIntents = before.viewIntents) (outbox : after.outbox = before.outbox)
    (numbered : Numbered before) : Numbered after where
  distinct := views ▸ numbered.distinct
  revisions viewId := by
    simp only [Registry.eventsOf,Registry.viewRevision,Registry.loadViewIntent,views,outbox]
    exact numbered.revisions viewId
  named := outbox ▸ numbered.named
  current := by
    rw [views,outbox]
    exact numbered.current

theorem InSight.souls_kept (kept : SoulsKept before after) (views : after.viewIntents = before.viewIntents)
    (held : InSight before) : InSight after where
  souls := kept.distinct held.souls
  known view listed := by
    obtain ⟨soul,known,same⟩ := held.known view (views ▸ listed)
    obtain ⟨next,stays,again⟩ := kept.known soul known
    exact ⟨next,stays,again.trans same⟩
  sight view listed hidden :=
    kept.rests view.soulId (held.known view (views ▸ listed)) (held.sight view (views ▸ listed) hidden)
  primary first firstListed second secondListed :=
    held.primary first (views ▸ firstListed) second (views ▸ secondListed)

theorem InSight.congr (souls : after.souls = before.souls) (views : after.viewIntents = before.viewIntents)
    (held : InSight before) : InSight after := held.souls_kept (.same souls) views

theorem Numbered.moves {now : Nat} (moves : Moves now before after) (numbered : Numbered before) : Numbered after := by
  obtain ⟨middle,written,_,views,outbox,writes,_,lastViews,lastOutbox⟩ := moves.chain
  exact ((numbered.congr views outbox).writes writes).congr lastViews lastOutbox

theorem InSight.moves {now : Nat} (moves : Moves now before after) (numbered : Numbered before)
    (held : InSight before) : InSight after := by
  obtain ⟨middle,written,kept,views,outbox,writes,lastSouls,lastViews,_⟩ := moves.chain
  exact ((held.souls_kept kept views).writes writes (numbered.congr views outbox)).congr lastSouls lastViews

theorem writes_outbox {now : Nat} (writes : ViewWrites now before after) (numbered : Numbered before) :
    ∃ events, after.outbox = before.outbox ++ events ∧ ∀ event ∈ events, event.createdAt = now ∧ event.deliveredAt = none := by
  induction writes with
  | refl => exact ⟨[],by simp,by simp⟩
  | tail rest write ih =>
    obtain ⟨events,grown,fresh⟩ := ih
    obtain ⟨next,write⟩ := write
    refine ⟨events ++ [next.event],?_,?_⟩
    · rw [write.eq (numbered.writes rest)]
      simp [grown]
    · intro event listed
      rcases List.mem_append.mp listed with old | new
      · exact fresh event old
      · obtain rfl := List.mem_singleton.mp new
        exact ⟨write.stamped,rfl⟩

theorem Moves.outbox {now : Nat} (moves : Moves now before after) (numbered : Numbered before) :
    ∃ events, after.outbox = before.outbox ++ events ∧ ∀ event ∈ events, event.createdAt = now ∧ event.deliveredAt = none := by
  obtain ⟨middle,written,_,views,outbox,writes,_,_,lastOutbox⟩ := moves.chain
  obtain ⟨events,grown,fresh⟩ := writes_outbox writes (numbered.congr views outbox)
  exact ⟨events,by rw [lastOutbox,grown,outbox],fresh⟩

/-- Every view is still there, of the same soul, and as it was unless its revision grew. -/
def KeepsViews (before after : Registry) : Prop :=
  ∀ view ∈ before.viewIntents, ∃ next ∈ after.viewIntents, next.viewId = view.viewId ∧ next.soulId = view.soulId ∧
    (next = view ∨ view.revision < next.revision)

theorem KeepsViews.same (views : after.viewIntents = before.viewIntents) : KeepsViews before after :=
  fun view listed => ⟨view,views ▸ listed,rfl,rfl,.inl rfl⟩

theorem KeepsViews.trans (first : KeepsViews before middle) (second : KeepsViews middle after) : KeepsViews before after := by
  intro view listed
  obtain ⟨next,held,id,soul,grew⟩ := first view listed
  obtain ⟨last,kept,lastId,lastSoul,again⟩ := second next held
  refine ⟨last,kept,lastId.trans id,lastSoul.trans soul,?_⟩
  rcases grew with rfl | grew
  · exact again
  · rcases again with rfl | again
    · exact .inr grew
    · exact .inr (grew.trans again)

theorem ViewWrite.keeps {now : Nat} {next : ViewIntent} (numbered : Numbered before)
    (write : ViewWrite now before next after) : KeepsViews before after := by
  have written := write.eq numbered
  intro view listed
  by_cases own : view.viewId = next.viewId
  · have loaded := numbered.load listed
    rw [own] at loaded
    refine ⟨next,?_,own.symm,(write.kept view loaded).symm,.inr ?_⟩
    · have found := @loadViewIntent_putView before next next.viewId
      rw [if_pos rfl] at found
      rw [written]
      exact (loadViewIntent_some found).1
    · have counted := write.numbered
      simp only [Registry.viewRevision,loaded,Option.map_some,Option.getD_some] at counted
      omega
  · have found := @loadViewIntent_putView before next view.viewId
    rw [if_neg own,numbered.load listed] at found
    refine ⟨view,?_,rfl,rfl,.inl rfl⟩
    rw [written]
    exact (loadViewIntent_some found).1

theorem writes_keep {now : Nat} (writes : ViewWrites now before after) (numbered : Numbered before) :
    KeepsViews before after := by
  induction writes with
  | refl => exact .same rfl
  | tail rest write ih =>
    obtain ⟨next,write⟩ := write
    exact ih.trans (write.keeps (numbered.writes rest))

theorem Moves.keeps {now : Nat} (moves : Moves now before after) (numbered : Numbered before) : KeepsViews before after := by
  obtain ⟨middle,written,_,views,outbox,writes,_,lastViews,_⟩ := moves.chain
  have first : KeepsViews before middle := .same views
  have last : KeepsViews written after := .same lastViews
  exact (first.trans (writes_keep writes (numbered.congr views outbox))).trans last

theorem prepareLaunch_moves {installation : Installation} {input : LaunchPreparation} {incarnationId : String} {now : Nat}
    {answer : PreparedLaunch}
    (done : prepareLaunch installation input incarnationId now registry = .ok (answer,after)) : Moves now registry after := by
  simp only [prepareLaunch] at done
  split at done
  · simp only [bind_eq_ok,ensure_eq_ok,pure_eq_ok,Prod.mk.injEq] at done
    obtain ⟨_,_,_,_,_,rfl⟩ := done
    exact .souls (.same rfl) rfl rfl
  · simp only [bind_eq_ok,found_eq_ok] at done
    obtain ⟨base,stood,soul,known,placed,viewed,rest⟩ := done
    have kept : SoulsKept registry base ∧ base.viewIntents = registry.viewIntents ∧ base.outbox = registry.outbox := by
      rcases ensureSoul_cases stood with rfl | ⟨unknown,rfl⟩
      · exact ⟨.same rfl,rfl,rfl⟩
      · exact ⟨.insert unknown rfl,rfl,rfl⟩
    have writes : ViewWrites now base placed := by
      simp only [placeView] at viewed
      split at viewed
      · exact ensureAutomaticPrimary_writes ⟨soul,soul_known known⟩ viewed
      · obtain rfl := Except.ok.inj viewed
        exact .refl
    refine ⟨base,placed,kept.1,kept.2.1,kept.2.2,writes,?_⟩
    split at rest
    · simp only [bind_eq_ok,ensure_eq_ok,pure_eq_ok,Prod.mk.injEq] at rest
      obtain ⟨_,_,_,_,_,rfl⟩ := rest
      exact ⟨rfl,rfl,rfl⟩
    · simp only [bind_eq_ok,pure_eq_ok,Prod.mk.injEq] at rest
      obtain ⟨_,admitted,_,rfl⟩ := rest
      obtain ⟨_,_,_,rfl⟩ := admitLaunch_cases admitted
      exact ⟨rfl,rfl,rfl⟩

theorem commitStopIntent_kept (soul : Soul) : SoulsKept registry (commitStopIntent soul registry) := by
  simp only [commitStopIntent]
  split
  · exact .update rfl (fun _ => rfl) fun _ _ => rfl
  · exact .same rfl

theorem commitStopIntent_rests (distinct : (registry.souls.map (·.soulId)).Nodup) {soulId : String} {soul : Soul}
    (known : registry.soul soulId = some soul) : (commitStopIntent soul registry).rests soulId := by
  have named := (soul_known known).2
  simp only [commitStopIntent]
  split
  · intro other listed own
    obtain ⟨old,_,⟨_,rfl⟩ | ⟨unpicked,rfl⟩⟩ := mem_updateWhere.mp listed
    · rfl
    · simp [named,own] at unpicked
  · next stopped => exact rests_of_stopped distinct known (by simpa using stopped)

theorem beginStop_moves (numbered : Numbered registry) (distinct : (registry.souls.map (·.soulId)).Nodup)
    {soulId : String} {expected : Option Nat} {now : Nat} {answer : Except RegistryError OwnedRuntimeHandle}
    (done : beginStopExpected soulId expected now registry = .ok (answer,after)) : Moves now registry after := by
  simp only [beginStopExpected,bind_eq_ok,found_eq_ok,ensure_eq_ok,pure_eq_ok,Prod.mk.injEq] at done
  obtain ⟨incarnation,_,soul,known,_,_,_,_,hidden,hid,_,rfl⟩ := done
  obtain ⟨souls,tombstones,intended⟩ := commitStopIntent_eq soul registry
  obtain ⟨incarnations,requested⟩ := requestStop_eq incarnation hidden
  have counted : Numbered (commitStopIntent soul registry) := numbered.congr (by rw [intended]) (by rw [intended])
  have writes := setAutomaticPrimary_writes counted (fun _ => commitStopIntent_rests distinct known) hid
  refine ⟨commitStopIntent soul registry,hidden,commitStopIntent_kept soul,by rw [intended],by rw [intended],writes,?_⟩
  rw [requested]
  exact ⟨rfl,rfl,rfl⟩

/-- What an operation asks of the views, where its own checks let it through. An
    acknowledgement comes from the reader. -/
def Operation.MindsViews (installation : Installation) (registry : Registry) : Operation → Prop
  | .upsertViewIntent request _ => request.Sound installation registry
  | .acknowledgeViewProjection _ _ => False
  | _ => True

def Operation.now : Operation → Option Nat
  | .openRegistry now | .prepareLaunch _ _ now | .beginStop _ _ now | .beginInput _ _ _ _ now
  | .beginRecovery _ _ _ now | .prepareReplacement _ _ _ _ _ now | .markRecoverySuccess _ _ _ now | .prepareLoss _ now
  | .finalizeLossCleanup _ _ _ now | .coalesceStartupNotices _ now | .makeDesiredRunningViewsVisible now
  | .acknowledgeViewProjection _ now | .updateViewVisibility _ _ _ _ now | .upsertViewIntent _ now
  | .updateConfiguredLimits _ _ _ now => some now
  | _ => none

/-- An operation moves the registry at its time, and one that has none leaves the views alone. -/
theorem perform_moves {installation : Installation} (numbered : Numbered registry) (held : InSight registry)
    {operation : Operation} (minds : operation.MindsViews installation registry) {moment : Nat}
    (timed : ∀ now ∈ operation.now, now = moment) : Moves moment registry (perform installation registry operation) := by
  refine perform_induction (Moves moment registry) (.souls (.same rfl) rfl rfl) fun answer after done => ?_
  cases operation with
  | openRegistry now =>
    obtain rfl := timed now rfl
    exact .views (backfill_writes numbered held.souls done)
  | prepareLaunch input id now =>
    obtain rfl := timed now rfl
    exact prepareLaunch_moves done
  | commitCreated id created =>
    obtain ⟨_,_,_,_,_,rfl⟩ := commitCreated_cases done
    exact .souls (.same rfl) rfl rfl
  | commitExecutionGrant id boot grant limits =>
    obtain ⟨_,_,⟨_,rfl⟩ | ⟨_,_,rfl⟩⟩ := commitExecutionGrant_cases done
    · exact .souls (.same rfl) rfl rfl
    · exact .souls (.same rfl) rfl rfl
  | markRunning id =>
    obtain ⟨_,_,_,_,rfl⟩ := markRunning_cases done
    exact .souls (.same rfl) rfl rfl
  | beginStop soulId expected now =>
    obtain rfl := timed now rfl
    exact beginStop_moves numbered held.souls done
  | markStopOutcome id outcome =>
    rcases markStopOutcome_cases done with ⟨_,rfl⟩ | ⟨_,_,rfl⟩
    · exact .souls (.update rfl (fun _ => rfl) fun _ stopped => stopped) rfl rfl
    · exact .souls (.same rfl) rfl rfl
  | beginInput soulId requestId digest data now =>
    rcases beginInput_cases done with ⟨_,rfl⟩ | queued
    · exact .souls (.same rfl) rfl rfl
    · obtain ⟨_,_,_,_,rfl⟩ := queueInput_cases queued
      exact .souls (.same rfl) rfl rfl
  | claimNextQueuedInput soulId id =>
    obtain ⟨_,_,rfl⟩ := claimNextQueuedInput_cases done
    exact .souls (.same rfl) rfl rfl
  | markInputDispatching soulId requestId =>
    obtain rfl := setInputState_cases done
    exact .souls (.same rfl) rfl rfl
  | markInputCompleted soulId requestId =>
    obtain rfl := setInputState_cases done
    exact .souls (.same rfl) rfl rfl
  | markInputAmbiguous soulId requestId =>
    obtain rfl := setInputState_cases done
    exact .souls (.same rfl) rfl rfl
  | recordNativeSession soulId id session =>
    obtain ⟨_,_,_,_,_,_,rfl,_⟩ := recordNativeSession_cases done
    exact .souls (.update rfl (fun _ => rfl) fun _ stopped => stopped) rfl rfl
  | transitionNativeSession soulId id parent child =>
    rcases transitionNativeSession_cases done with rfl | ⟨_,_,_,_,_,rfl⟩
    · exact .souls (.same rfl) rfl rfl
    · exact .souls (.update rfl (fun _ => rfl) fun _ stopped => stopped) rfl rfl
  | retireUnownedPreparedReplacement soulId =>
    rcases retire_cases done with rfl | ⟨_,_,_,_,_,rfl⟩
    · exact .souls (.same rfl) rfl rfl
    · exact .souls (.update rfl (fun _ => rfl) fun _ stopped => stopped) rfl rfl
  | beginRecovery soulId trigger attempt now =>
    obtain ⟨context,_,_,_,⟨_,_,rfl⟩ | ⟨_,rearm,rfl⟩⟩ := beginRecovery_cases done
    · exact .souls (.update rfl (fun _ => rfl) fun _ stopped => stopped) rfl rfl
    · have started : ∀ base : Registry, SoulsKept base (startRecovery context attempt base) :=
        fun base => .update rfl (fun _ => rfl) fun _ stopped => stopped
      cases rearm with
      | false => exact .souls (started registry) rfl rfl
      | true =>
        have rearmed : SoulsKept registry (registry.updateSoul soulId fun soul =>
            { soul with recoveryWindowStartedAt := some now, successfulRecoveriesInWindow := 0 }) :=
          .update rfl (fun _ => rfl) fun _ stopped => stopped
        exact .souls (rearmed.trans (started _)) rfl rfl
  | prepareReplacement start terminal freshAgent resumeSpec id now =>
    obtain ⟨_,_,rfl⟩ := prepareReplacement_cases done
    exact .souls (.same rfl) rfl rfl
  | markRecoveryLive soulId id =>
    obtain ⟨_,rfl⟩ := markRecoveryLive_cases done
    exact .souls (.update rfl (fun _ => rfl) fun _ stopped => stopped) rfl rfl
  | markRecoverySuccess soulId id attempt now =>
    obtain ⟨_,_,_,_,_,_,_,_,_,rfl⟩ := markRecoverySuccess_cases done
    exact .souls (.update rfl (fun _ => rfl) fun _ stopped => stopped) rfl rfl
  | markRecoveryBlocked soulId =>
    obtain rfl := finishRecoveryVerdict_cases done
    exact .souls (.update rfl (fun _ => rfl) fun _ stopped => stopped) rfl rfl
  | markRecoveryLost soulId =>
    obtain rfl := finishRecoveryVerdict_cases done
    exact .souls (.update rfl (fun _ => rfl) fun _ stopped => stopped) rfl rfl
  | prepareLoss certificate now =>
    obtain rfl := timed now rfl
    rcases prepareLoss_cases done with ⟨rfl,_⟩ | ⟨soul,_,advanced⟩
    · exact .souls (.same rfl) rfl rfl
    · have counted : Numbered (commitLoss certificate soul registry) := @Numbered.congr registry _ rfl rfl numbered
      have lost : SoulsKept registry (commitLoss certificate soul registry) := .update rfl (fun _ => rfl) fun _ _ => rfl
      exact .steps lost rfl rfl (advanceViews_writes counted advanced)
  | finalizeLossCleanup incidentId outcome cleanup now =>
    rcases finalizeLossCleanup_cases done with ⟨_,_,_,rfl⟩ | ⟨_,_,_,⟨_,_,rfl⟩ | ⟨_,_,rfl⟩⟩
    · obtain ⟨_,enqueued⟩ := enqueueNotice_eq
      rw [enqueued]
      exact .souls (.same rfl) rfl rfl
    · obtain ⟨_,closed⟩ := closeLoss_cases
      rw [closed]
      exact .souls (.update rfl (fun _ => rfl) fun _ stopped => stopped) rfl rfl
    · obtain ⟨_,enqueued⟩ := enqueueNotice_eq
      rw [enqueued]
      exact .souls (.update rfl (fun _ => rfl) fun _ stopped => stopped) rfl rfl
  | coalesceStartupNotices startedAt finishedAt =>
    obtain ⟨_,rfl⟩ := coalesce_cases done
    exact .souls (.same rfl) rfl rfl
  | repairAudit apply =>
    rcases repairAudit_cases done with rfl | ⟨_,rfl⟩
    · exact .souls (.same rfl) rfl rfl
    · have kept : ∀ (ids : List String) (base : Registry), (ids.foldl retireUngranted base).souls = base.souls ∧
          (ids.foldl retireUngranted base).viewIntents = base.viewIntents ∧
          (ids.foldl retireUngranted base).outbox = base.outbox := by
        intro ids
        induction ids with
        | nil => exact fun _ => ⟨rfl,rfl,rfl⟩
        | cons id rest ih => exact fun base => ih _
      obtain ⟨souls,views,outbox⟩ := kept _ registry
      exact .souls (.same souls) views outbox
  | makeDesiredRunningViewsVisible now =>
    obtain rfl := timed now rfl
    exact .views (makeVisible_writes numbered done)
  | acknowledgeViewProjection eventId now => exact minds.elim
  | updateViewVisibility viewId visibility revision soulRevision now =>
    obtain rfl := timed now rfl
    exact .views (updateVisibility_writes numbered held.souls done)
  | upsertViewIntent request now =>
    obtain rfl := timed now rfl
    exact .views (upsert_writes minds done)
  | updateConfiguredLimits soulId limits expected now =>
    obtain rfl := timed now rfl
    rcases updateConfiguredLimits_cases done with rfl | ⟨soul,_,advanced⟩
    · exact .souls (.same rfl) rfl rfl
    · have counted : Numbered (registry.updateSoul soulId fun row =>
          { row with configuredLimits := some limits, resourceProfile := "custom",
                     intentRevision := soul.intentRevision + 1 }) := @Numbered.congr registry _ rfl rfl numbered
      have kept : SoulsKept registry (registry.updateSoul soulId fun row =>
          { row with configuredLimits := some limits, resourceProfile := "custom",
                     intentRevision := soul.intentRevision + 1 }) := .update rfl (fun _ => rfl) fun _ stopped => stopped
      exact .steps kept rfl rfl (advanceViews_writes counted advanced)
end Freshell.Supervisor
