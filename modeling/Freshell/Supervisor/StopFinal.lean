import Freshell.Supervisor.Lifecycles
import Freshell.Supervisor.ViewMoves

/-!
A stop or a certified loss is the end of a soul: in every interleaving of the
transactions that follow, the soul stays desired stopped, nothing of it comes up,
and whatever would bring it on is refused.
-/
namespace Freshell.Supervisor
open Freshell.Library.Transactions Freshell.Library.Runs
variable {registry before after : Registry}

/-- The soul is known, desired stopped and at the end of a stop or a loss; nothing of it is up. -/
structure Ended (registry : Registry) (soulId : String) : Prop where
  soul : ∃ soul, registry.soul soulId = some soul ∧ soul.desiredState = .stopped ∧ soul.settled
  down : ∀ row ∈ registry.incarnations, row.soulId = soulId → row.up = false

/-- The transactions that bring a soul or one of its incarnations on. -/
def Operation.Advances (registry : Registry) (soulId : String) : Operation → Prop
  | .commitCreated incarnationId _ | .commitExecutionGrant incarnationId _ _ _ | .markRunning incarnationId =>
    ∃ row, registry.incarnation incarnationId = some row ∧ row.soulId = soulId
  | .beginRecovery other _ _ _ | .markRecoveryLive other _ | .markRecoverySuccess other _ _ _
  | .claimNextQueuedInput other _ => other = soulId
  | .prepareReplacement start _ _ _ _ _ => start.context.soulId = soulId
  | _ => False

structure Barred (installation : Installation) (soulId : String) (registry : Registry) (operation : Operation) : Prop where
  ended : Ended (perform installation registry operation) soulId
  refused : operation.Advances registry soulId →
    ∃ error, (operation.transaction installation).2 registry = .error error
  undelivered : ∀ requestId payloadDigest data now answer after,
    beginInput soulId requestId payloadDigest data now registry = .ok (answer,after) → answer.1 ≠ .dispatch

def Operation.Ends (installation : Installation) (registry : Registry) (soulId : String) (operation : Operation) : Prop :=
  ((∃ expected now, operation = .beginStop soulId expected now) ∨
      ∃ certificate now, operation = .prepareLoss certificate now ∧ certificate.soulId = soulId) ∧
    ∃ committed, (operation.transaction installation).2 registry = .ok committed

variable {soulId : String}

theorem Ended.not_running (lives : Lives registry) (ended : Ended registry soulId) :
    registry.desiredRunning soulId ≠ true := by
  obtain ⟨soul,known,stopped,_⟩ := ended.soul
  obtain ⟨listed,rfl⟩ := soul_known known
  exact fun running => not_stopped_of_desiredRunning lives.rested.distinct listed running stopped

theorem Ended.not_desired (ended : Ended registry soulId) {soul : Soul} (known : registry.soul soulId = some soul) :
    soul.desiredState ≠ .running := by
  obtain ⟨other,otherKnown,stopped,_⟩ := ended.soul
  rw [known] at otherKnown
  obtain rfl := Option.some.inj otherKnown
  simp [stopped]

theorem refused_of_not_ok {Error Answer : Type} {body : Except Error Answer} (never : ∀ result, body ≠ .ok result) :
    ∃ error, body = .error error := by
  cases body with
  | error error => exact ⟨error,rfl⟩
  | ok result => exact (never result rfl).elim

theorem runsFor_desired {incarnationId : String} (runs : registry.runsFor soulId incarnationId) :
    registry.desiredRunning soulId = true := by
  obtain ⟨_,_,_,_,_,desired⟩ := runs
  exact desired

theorem liveIncarnation_desired {row : Incarnation} (live : registry.liveIncarnation soulId = some row) :
    registry.desiredRunning soulId = true := by
  have listed := latest_mem live
  rw [List.mem_filter,mem_incarnationsOf] at listed
  obtain ⟨⟨_,owner⟩,runs⟩ := listed
  simp only [Bool.and_eq_true,List.any_eq_true,beq_iff_eq] at runs
  obtain ⟨_,soul,soulListed,⟨own,desired⟩,_⟩ := runs
  simp only [Registry.desiredRunning,List.any_eq_true,Bool.and_eq_true,beq_iff_eq]
  exact ⟨soul,soulListed,own.trans owner,desired⟩

variable {installation : Installation}

theorem Ended.refuses (lives : Lives registry) (ended : Ended registry soulId) {operation : Operation}
    (advances : operation.Advances registry soulId) :
    ∃ error, (operation.transaction installation).2 registry = .error error := by
  have still := ended.not_running lives
  refine refused_of_not_ok fun (answer,after) done => ?_
  cases operation with
  | commitCreated id created =>
    obtain ⟨row,known,owner⟩ := advances
    obtain ⟨other,otherKnown,_,_,desired,_⟩ := commitCreated_cases done
    rw [known] at otherKnown
    obtain rfl := Option.some.inj otherKnown
    exact still (owner ▸ desired)
  | commitExecutionGrant id boot grant limits =>
    obtain ⟨row,known,owner⟩ := advances
    obtain ⟨other,otherKnown,granted⟩ := commitExecutionGrant_cases done
    rw [known] at otherKnown
    obtain rfl := Option.some.inj otherKnown
    rcases granted with ⟨starting,_⟩ | ⟨_,desired,_⟩
    · -- A grant that is outstanding would be answered again, but its incarnation is up.
      have down := ended.down row (of_find_key known).1 owner
      simp [Incarnation.up,starting,LaunchState.isUp] at down
    · exact still (owner ▸ desired)
  | markRunning id =>
    obtain ⟨row,known,owner⟩ := advances
    obtain ⟨other,otherKnown,_,desired,_⟩ := markRunning_cases done
    rw [known] at otherKnown
    obtain rfl := Option.some.inj otherKnown
    exact still (owner ▸ desired)
  | beginRecovery other trigger attempt now =>
    obtain rfl : other = soulId := advances
    obtain ⟨context,loaded,desired,_⟩ := beginRecovery_cases done
    obtain ⟨soul,known,_,same,_⟩ := loadRecoveryContext_soul loaded
    exact ended.not_desired known (same ▸ desired)
  | markRecoveryLive other id =>
    obtain rfl : other = soulId := advances
    exact still (runsFor_desired (markRecoveryLive_cases done).1)
  | markRecoverySuccess other id attempt now =>
    obtain rfl : other = soulId := advances
    obtain ⟨soul,_,known,desired,_⟩ := markRecoverySuccess_cases done
    exact ended.not_desired known desired
  | claimNextQueuedInput other id =>
    obtain rfl : other = soulId := advances
    exact still (runsFor_desired (claimNextQueuedInput_cases done).1)
  | prepareReplacement start terminal freshAgent resumeSpec id now =>
    obtain rfl : start.context.soulId = soulId := advances
    obtain ⟨awaited,_⟩ := prepareReplacement_cases done
    obtain ⟨soul,known,desired,_⟩ := awaited.soul
    exact ended.not_desired known desired
  | _ => exact advances

variable {now : Nat}

theorem Ended.undelivered (lives : Lives registry) (ended : Ended registry soulId)
    {requestId payloadDigest data : String} {answer : InputJournalDisposition × String}
    (done : beginInput soulId requestId payloadDigest data now registry = .ok (answer,after)) :
    answer.1 ≠ .dispatch := by
  rcases beginInput_cases done with ⟨other,_⟩ | queued
  · exact other
  · obtain ⟨_,live,_⟩ := queueInput_cases queued
    exact (ended.not_running lives (liveIncarnation_desired live)).elim

theorem ended_of_rests (lives : Lives registry) (known : ∃ soul ∈ registry.souls, soul.soulId = soulId)
    (rests : registry.rests soulId) : Ended registry soulId := by
  obtain ⟨soul,listed,rfl⟩ := known
  have stopped := rests soul listed rfl
  exact ⟨⟨soul,find_key_of_mem lives.rested.distinct listed,stopped,lives.rested.settled soul listed stopped⟩,
    lives.rested.down soul listed stopped⟩

theorem Ended.known {soulId : String} (ended : Ended registry soulId) : ∃ soul ∈ registry.souls, soul.soulId = soulId := by
  obtain ⟨soul,known,_⟩ := ended.soul
  exact ⟨soul,(soul_known known).1,(soul_known known).2⟩

theorem Ended.rests (lives : Lives registry) (ended : Ended registry soulId) : registry.rests soulId := by
  obtain ⟨soul,known,stopped,_⟩ := ended.soul
  exact rests_of_stopped lives.rested.distinct known stopped

theorem Ended.perform (installation : Installation) (lives : Lives registry) (ended : Ended registry soulId)
    (operation : Operation) : Ended (perform installation registry operation) soulId := by
  have kept := (perform_changes installation lives.lone lives.rested.distinct operation).soulsKept
  obtain ⟨soul,listed,own⟩ := ended.known
  obtain ⟨next,nextListed,same⟩ := kept.known soul listed
  exact ended_of_rests (lives.perform installation operation) ⟨next,nextListed,same.trans own⟩
    (kept.rests soulId ended.known (ended.rests lives))

theorem beginStop_rests (lives : Lives registry) {expected : Option Nat}
    {answer : Except RegistryError OwnedRuntimeHandle}
    (done : beginStopExpected soulId expected now registry = .ok (answer,after)) :
    (∃ soul ∈ registry.souls, soul.soulId = soulId) ∧ after.rests soulId := by
  obtain ⟨_,soul,_,known,souls,_⟩ := beginStop_cases done
  refine ⟨⟨soul,soul_known known⟩,?_⟩
  simp only [Registry.rests,souls]
  exact commitStopIntent_rests lives.rested.distinct known

theorem prepareLoss_rests (lives : Lives registry) {certificate : LostDecisionCertificate} {answer : PreparedLoss}
    (done : prepareLoss certificate now registry = .ok (answer,after)) :
    (∃ soul ∈ registry.souls, soul.soulId = certificate.soulId) ∧ after.rests certificate.soulId := by
  have distinct := lives.rested.distinct
  rcases prepareLoss_cases done with ⟨rfl,incident,seen,same⟩ | ⟨soul,certifiable,advanced⟩
  · simp only [prepareLoss] at done
    split at done
    · next existing picked =>
      have named := List.find?_some picked
      simp only [Bool.and_eq_true,beq_iff_eq] at named
      simp only [preparedAgain,bind_eq_ok,ensure_eq_ok,found_eq_ok] at done
      obtain ⟨_,_,_,_,soul,known,_,⟨_,stopped,_⟩,_⟩ := done
      rw [named.1] at known
      exact ⟨⟨soul,soul_known known⟩,rests_of_stopped distinct known stopped⟩
    · next unseen =>
      have := List.find?_eq_none.mp unseen incident seen
      simp [same] at this
  · have views := ViewsOnly.advanceViews advanced
    have known := certifiable.known
    refine ⟨⟨soul,soul_known known⟩,?_⟩
    rw [Registry.rests,views.souls]
    intro other listed own
    obtain ⟨old,held,⟨_,rfl⟩ | ⟨unpicked,rfl⟩⟩ := mem_updateWhere.mp listed
    · rfl
    · have same := only_soul distinct known held (beq_iff_eq.mpr own)
      subst same
      simp [own,certifiable.desired] at unpicked

theorem Operation.Ends.ended (lives : Lives registry) {stop : Operation}
    (ends : stop.Ends installation registry soulId) : Ended (Supervisor.perform installation registry stop) soulId := by
  obtain ⟨kind,⟨answer,after⟩,done⟩ := ends
  have lasting := perform_changes installation lives.lone lives.rested.distinct stop
  have still := lives.perform installation stop
  have committed : Supervisor.perform installation registry stop = after := committed_of_ok done
  rw [committed] at lasting still ⊢
  have ending : (∃ soul ∈ registry.souls, soul.soulId = soulId) ∧ after.rests soulId := by
    rcases kind with ⟨expected,now,rfl⟩ | ⟨certificate,now,rfl,rfl⟩
    · exact beginStop_rests lives done
    · exact prepareLoss_rests lives done
  obtain ⟨⟨soul,listed,own⟩,rests⟩ := ending
  obtain ⟨next,nextListed,same⟩ := lasting.soulsKept.known soul listed
  exact ended_of_rests still ⟨next,nextListed,same.trans own⟩ rests

theorem lives_run (installation : Installation) (operations : List Operation) :
    Lives (run (perform installation) .empty operations) := by
  have kept : ∀ registry operation, Lives registry → True → Lives (perform installation registry operation) :=
    fun _ operation lives _ => lives.perform installation operation
  exact invariant_run kept lives_empty (along_of_forall (fun _ _ => trivial) _ operations)

/-- In every run a soul has at most one active incarnation; one that is desired stopped is
    settled, and nothing of it is up. -/
theorem souls_lone (installation : Installation) (operations : List Operation) :
    let registry := run (perform installation) .empty operations
    (∀ first ∈ registry.incarnations, ∀ second ∈ registry.incarnations, first.soulId = second.soulId →
      first.active = true → second.active = true → first = second) ∧
      ∀ soul ∈ registry.souls, soul.desiredState = .stopped →
        soul.settled ∧ ∀ row ∈ registry.incarnations, row.soulId = soul.soulId → row.up = false := by
  intro registry
  have lives : Lives registry := lives_run installation operations
  constructor
  · intro first firstListed second secondListed same firstActive secondActive
    have id := lives.lone.alone first firstListed second secondListed same firstActive secondActive
    exact lone_eq lives.lone firstListed secondListed id
  · exact fun soul listed stopped => ⟨lives.rested.settled soul listed stopped,lives.rested.down soul listed stopped⟩

/-- Whatever runs before a stop or a loss of a soul and whatever after it, the soul is at its
    end from the commit on, and no transaction brings it on again. -/
theorem ended_run (installation : Installation) (operations rest : List Operation) (soulId : String) (stop : Operation)
    (ends : stop.Ends installation (run (perform installation) .empty operations) soulId) :
    let stopped := perform installation (run (perform installation) .empty operations) stop
    Ended stopped soulId ∧ Along (perform installation) (Barred installation soulId) stopped rest := by
  have lives := lives_run installation operations
  have ended := ends.ended lives
  have kept : ∀ registry operation, (Lives registry ∧ Ended registry soulId) → True →
      Lives (perform installation registry operation) ∧ Ended (perform installation registry operation) soulId :=
    fun registry operation held _ =>
      ⟨held.1.perform installation operation,held.2.perform installation held.1 operation⟩
  have barred : ∀ registry operation, (Lives registry ∧ Ended registry soulId) → True →
      Barred installation soulId registry operation :=
    fun registry operation held _ =>
      ⟨held.2.perform installation held.1 operation,held.2.refuses held.1,
        fun _ _ _ _ _ _ done => held.2.undelivered held.1 done⟩
  exact ⟨ended,invariant_along kept barred ⟨lives.perform installation stop,ended⟩
    (along_of_forall (fun _ _ => trivial) _ rest)⟩

def underRecovery : List Operation :=
  [.prepareLaunch (sampleLaunch "soul" "request") "first" 1,.commitCreated "first" (sampleContainer "one"),
    .beginRecovery "soul" .hostUnreachable "attempt" 2]

theorem ended_underRecovery :
    let stopped := perform sampleInstallation (run (perform sampleInstallation) .empty underRecovery)
      (.beginStop "soul" none 3)
    Ended stopped "soul" ∧
      Along (perform sampleInstallation) (Barred sampleInstallation "soul") stopped [.markRecoveryBlocked "soul"] :=
  ended_run sampleInstallation underRecovery [.markRecoveryBlocked "soul"] "soul" (.beginStop "soul" none 3)
    ⟨.inl ⟨none,3,rfl⟩,⟨_,rfl⟩⟩

/-- The next transactions of the recovery that a stop overtook are answered without an error. -/
theorem stopped_recovery_unaware :
    let recovering := run (perform sampleInstallation) .empty underRecovery
    let stopped := perform sampleInstallation recovering (.beginStop "soul" none 3)
    (recovering.soul "soul").map (·.recoveryState) = some .recovering ∧
      (Operation.beginStop "soul" none 3).Ends sampleInstallation recovering "soul" ∧
      (∃ result, markStopOutcome "first" .verifiedEmpty stopped = .ok result) ∧
      ∃ result, markRecoveryBlocked "soul" stopped = .ok result :=
  ⟨by decide,⟨.inl ⟨none,3,rfl⟩,⟨_,rfl⟩⟩,⟨_,rfl⟩,⟨_,rfl⟩⟩
end Freshell.Supervisor
