import Freshell.Supervisor.ViewSteps

/-!
The lives of souls and incarnations. Whatever a transaction does to the two tables is
a chain of single changes: of the souls a test picks, of one incarnation, or the entry
of one. A soul has one active incarnation, and one that is desired stopped has none
that is up.
-/
namespace Freshell.Supervisor
open Freshell.Library.Transactions
variable {registry before middle after : Registry}

def LaunchState.isUp : LaunchState → Bool
  | .created | .starting | .running => true
  | .prepared | .stopping | .stopped | .failed => false

/-- The incarnation has a container that was created for it and is not to stop. -/
def Incarnation.up (row : Incarnation) : Bool := row.launchState.isUp

variable {row : Incarnation}

theorem Incarnation.active_of_up (up : row.up = true) : row.active = true := by
  simp only [Incarnation.up,Incarnation.active] at up ⊢
  cases state : row.launchState <;> simp [state,LaunchState.isUp,LaunchState.isPotentiallyActive] at up ⊢

def Soul.settled (soul : Soul) : Prop := soul.recoveryState = .stopped ∨ soul.recoveryState = .lost

structure Lone (rows : List Incarnation) : Prop where
  distinct : (rows.map (·.incarnationId)).Nodup
  alone : ∀ first ∈ rows, ∀ second ∈ rows, first.soulId = second.soulId → first.active = true → second.active = true →
    first.incarnationId = second.incarnationId

/-- A soul that is desired stopped has nothing up and is not being recovered. -/
structure Rested (registry : Registry) : Prop where
  distinct : (registry.souls.map (·.soulId)).Nodup
  settled : ∀ soul ∈ registry.souls, soul.desiredState = .stopped → soul.settled
  down : ∀ soul ∈ registry.souls, soul.desiredState = .stopped →
    ∀ row ∈ registry.incarnations, row.soulId = soul.soulId → row.up = false

inductive Change (before after : Registry) : Prop where
  | elsewhere (souls : after.souls = before.souls) (rows : after.incarnations = before.incarnations)
  | soulEntered {row : Soul} (fresh : before.soul row.soulId = none) (running : row.desiredState = .running)
      (souls : after.souls = before.souls ++ [row]) (rows : after.incarnations = before.incarnations)
  /-- A soul is stopped only where nothing of it is up. -/
  | souls {test : Soul → Bool} {change : Soul → Soul} (souls : after.souls = updateWhere test change before.souls)
      (rows : after.incarnations = before.incarnations) (ids : ∀ soul, (change soul).soulId = soul.soulId)
      (remains : ∀ soul, soul.desiredState = .stopped → (change soul).desiredState = .stopped)
      (stops : ∀ soul ∈ before.souls, test soul = true → (change soul).desiredState = .stopped →
        soul.desiredState = .stopped ∨ ∀ row ∈ before.incarnations, row.soulId = soul.soulId → row.up = false)
      (settles : ∀ soul ∈ before.souls, test soul = true → (change soul).desiredState = .stopped →
        (soul.desiredState = .stopped → soul.settled) → (change soul).settled)
  | rowEntered {row : Incarnation} (prepared : row.launchState = .prepared)
      (fresh : before.incarnation row.incarnationId = none)
      (alone : ∀ other ∈ before.incarnationsOf row.soulId, other.active = false) (souls : after.souls = before.souls)
      (rows : after.incarnations = before.incarnations ++ [row])
  /-- An incarnation comes up only where its soul is desired running. -/
  | row {incarnationId : String} {test : Incarnation → Bool} {change : Incarnation → Incarnation}
      (rows : after.incarnations = updateWhere test change before.incarnations) (souls : after.souls = before.souls)
      (named : ∀ row, test row = true → row.incarnationId = incarnationId)
      (ids : ∀ row, (change row).incarnationId = row.incarnationId) (owners : ∀ row, (change row).soulId = row.soulId)
      (revives : ∀ row ∈ before.incarnations, test row = true → (change row).active = true →
        row.active = true ∨ ∀ other ∈ before.incarnationsOf row.soulId, other.active = true →
          other.incarnationId = incarnationId)
      (rises : ∀ row ∈ before.incarnations, test row = true → (change row).up = true →
        row.up = true ∨ before.desiredRunning row.soulId = true)

variable {soulId : String}

theorem mem_incarnationsOf :
    row ∈ registry.incarnationsOf soulId ↔ row ∈ registry.incarnations ∧ row.soulId = soulId := by
  simp [Registry.incarnationsOf]

theorem Lone.change (change : Change before after) (lone : Lone before.incarnations) : Lone after.incarnations := by
  cases change with
  | elsewhere _ rows => exact rows ▸ lone
  | soulEntered _ _ _ rows => exact rows ▸ lone
  | souls _ rows _ _ _ _ => exact rows ▸ lone
  | @rowEntered row _ fresh alone _ rows =>
    rw [rows]
    constructor
    · rw [List.map_append,List.nodup_append]
      refine ⟨lone.distinct,by simp,?_⟩
      intro incarnationId listed other own same
      subst same
      obtain ⟨old,held,rfl⟩ := List.mem_map.mp listed
      simp only [List.map_cons,List.map_nil,List.mem_singleton] at own
      exact find_key_eq_none.mp fresh old held own
    · intro first firstListed second secondListed soul firstActive secondActive
      rcases List.mem_append.mp firstListed with firstOld | firstNew <;>
        rcases List.mem_append.mp secondListed with secondOld | secondNew
      · exact lone.alone first firstOld second secondOld soul firstActive secondActive
      · obtain rfl := List.mem_singleton.mp secondNew
        simp [alone first (mem_incarnationsOf.mpr ⟨firstOld,soul⟩)] at firstActive
      · obtain rfl := List.mem_singleton.mp firstNew
        simp [alone second (mem_incarnationsOf.mpr ⟨secondOld,soul.symm⟩)] at secondActive
      · obtain rfl := List.mem_singleton.mp firstNew
        obtain rfl := List.mem_singleton.mp secondNew
        rfl
  | @row incarnationId test change rows _ named ids owners revives _ =>
    rw [rows]
    constructor
    · rw [map_updateWhere ids]
      exact lone.distinct
    · -- An active row was active, or was let in by the index on active rows.
      intro first firstListed second secondListed soul firstActive secondActive
      obtain ⟨one,oneListed,⟨onePicked,rfl⟩ | ⟨_,rfl⟩⟩ := mem_updateWhere.mp firstListed <;>
        obtain ⟨two,twoListed,⟨twoPicked,rfl⟩ | ⟨_,rfl⟩⟩ := mem_updateWhere.mp secondListed
      · rw [ids,ids,named one onePicked,named two twoPicked]
      · rw [owners] at soul
        rcases revives one oneListed onePicked firstActive with was | index
        · rw [ids]
          exact lone.alone one oneListed second twoListed soul was secondActive
        · rw [ids,named one onePicked]
          exact (index second (mem_incarnationsOf.mpr ⟨twoListed,soul.symm⟩) secondActive).symm
      · rw [owners] at soul
        rcases revives two twoListed twoPicked secondActive with was | index
        · rw [ids]
          exact lone.alone first oneListed two twoListed soul firstActive was
        · rw [ids,named two twoPicked]
          exact index first (mem_incarnationsOf.mpr ⟨oneListed,soul⟩) firstActive
      · exact lone.alone first oneListed second twoListed soul firstActive secondActive

variable {soul : Soul}

theorem not_stopped_of_desiredRunning (distinct : (registry.souls.map (·.soulId)).Nodup)
    (listed : soul ∈ registry.souls) (running : registry.desiredRunning soul.soulId = true) :
    soul.desiredState ≠ .stopped := by
  simp only [Registry.desiredRunning,List.any_eq_true,Bool.and_eq_true,beq_iff_eq] at running
  obtain ⟨other,otherListed,own,desired⟩ := running
  rw [← soul_eq distinct (find_key_of_mem distinct listed) otherListed own,desired]
  simp

theorem Rested.change (change : Change before after) (rested : Rested before) : Rested after := by
  cases change with
  | elsewhere souls rows =>
    refine ⟨souls ▸ rested.distinct,souls ▸ rested.settled,?_⟩
    rw [souls,rows]
    exact rested.down
  | @soulEntered row fresh running souls rows =>
    refine ⟨(SoulsKept.insert fresh souls).distinct rested.distinct,?_,?_⟩
    · intro soul listed stopped
      rw [souls] at listed
      rcases List.mem_append.mp listed with old | new
      · exact rested.settled soul old stopped
      · obtain rfl := List.mem_singleton.mp new
        simp [running] at stopped
    · intro soul listed stopped
      rw [souls] at listed
      rw [rows]
      rcases List.mem_append.mp listed with old | new
      · exact rested.down soul old stopped
      · obtain rfl := List.mem_singleton.mp new
        simp [running] at stopped
  | souls souls rows ids _ stops settles =>
    refine ⟨by rw [souls,map_updateWhere ids]; exact rested.distinct,?_,?_⟩
    · intro soul listed stopped
      rw [souls] at listed
      obtain ⟨old,held,⟨picked,rfl⟩ | ⟨_,rfl⟩⟩ := mem_updateWhere.mp listed
      · exact settles old held picked stopped (rested.settled old held)
      · exact rested.settled soul held stopped
    · intro soul listed stopped
      rw [souls] at listed
      rw [rows]
      obtain ⟨old,held,⟨picked,rfl⟩ | ⟨_,rfl⟩⟩ := mem_updateWhere.mp listed
      · rw [ids]
        rcases stops old held picked stopped with was | down
        · exact rested.down old held was
        · exact down
      · exact rested.down soul held stopped
  | @rowEntered row prepared _ _ souls rows =>
    refine ⟨souls ▸ rested.distinct,souls ▸ rested.settled,?_⟩
    rw [souls,rows]
    intro soul listed stopped other otherListed own
    rcases List.mem_append.mp otherListed with old | new
    · exact rested.down soul listed stopped other old own
    · obtain rfl := List.mem_singleton.mp new
      simp [Incarnation.up,prepared,LaunchState.isUp]
  | row rows souls named ids owners _ rises =>
    refine ⟨souls ▸ rested.distinct,souls ▸ rested.settled,?_⟩
    rw [souls,rows]
    intro soul listed stopped other otherListed own
    obtain ⟨old,held,⟨picked,rfl⟩ | ⟨_,rfl⟩⟩ := mem_updateWhere.mp otherListed
    · rw [owners] at own
      rw [Bool.eq_false_iff]
      intro up
      rcases rises old held picked up with was | running
      · simp [rested.down soul listed stopped old held own] at was
      · exact not_stopped_of_desiredRunning rested.distinct listed (own ▸ running) stopped
    · exact rested.down soul listed stopped other held own
theorem Change.soulsKept (change : Change before after) : SoulsKept before after := by
  cases change with
  | elsewhere souls _ => exact .same souls
  | soulEntered fresh _ souls _ => exact .insert fresh souls
  | souls souls _ ids remains _ _ => exact .update souls ids remains
  | rowEntered _ _ _ souls _ => exact .same souls
  | row _ souls _ _ _ _ _ => exact .same souls

def Changes : Registry → Registry → Prop := Relation.ReflTransGen Change

theorem Changes.elsewhere (souls : after.souls = before.souls) (rows : after.incarnations = before.incarnations) :
    Changes before after := .single (.elsewhere souls rows)

theorem ViewsOnly.changes (views : ViewsOnly before after) : Changes before after :=
  .elsewhere views.souls views.incarnations

theorem Lone.changes (changes : Changes before after) (lone : Lone before.incarnations) : Lone after.incarnations := by
  induction changes with
  | refl => exact lone
  | tail _ change ih => exact ih.change change

theorem Rested.changes (changes : Changes before after) (rested : Rested before) : Rested after := by
  induction changes with
  | refl => exact rested
  | tail _ change ih => exact ih.change change

theorem Changes.soulsKept (changes : Changes before after) : SoulsKept before after := by
  induction changes with
  | refl => exact .same rfl
  | tail _ change ih => exact ih.trans change.soulsKept

theorem lone_eq {rows : List Incarnation} (lone : Lone rows) {first second : Incarnation} (firstListed : first ∈ rows)
    (secondListed : second ∈ rows) (same : first.incarnationId = second.incarnationId) : first = second := by
  have found := find_key_of_mem lone.distinct firstListed
  rw [same,find_key_of_mem lone.distinct secondListed] at found
  exact (Option.some.inj found).symm

variable {incarnationId : String}

theorem picked_eq (lone : Lone registry.incarnations) {other : Incarnation}
    (known : registry.incarnation incarnationId = some row) (listed : other ∈ registry.incarnations)
    (picked : (other.incarnationId == incarnationId) = true) : other = row := by
  obtain ⟨rowListed,named⟩ := of_find_key known
  exact lone_eq lone listed rowListed ((beq_iff_eq.mp picked).trans named.symm)

theorem Change.calm {change : Incarnation → Incarnation}
    (rows : after.incarnations = updateWhere (·.incarnationId == incarnationId) change before.incarnations)
    (souls : after.souls = before.souls) (ids : ∀ row, (change row).incarnationId = row.incarnationId)
    (owners : ∀ row, (change row).soulId = row.soulId)
    (revives : ∀ row ∈ before.incarnations, row.incarnationId = incarnationId → (change row).active = true →
      row.active = true ∨ ∀ other ∈ before.incarnationsOf row.soulId, other.active = true →
        other.incarnationId = incarnationId)
    (rises : ∀ row ∈ before.incarnations, row.incarnationId = incarnationId → (change row).up = true →
      row.up = true ∨ before.desiredRunning row.soulId = true) : Change before after :=
  .row rows souls (fun _ picked => beq_iff_eq.mp picked) ids owners
    (fun row listed picked => revives row listed (beq_iff_eq.mp picked))
    fun row listed picked => rises row listed (beq_iff_eq.mp picked)

variable {installation : Installation} {now : Nat}

theorem prepareLaunch_changes {input : LaunchPreparation} {answer : PreparedLaunch}
    (done : prepareLaunch installation input incarnationId now registry = .ok (answer,after)) :
    Changes registry after := by
  rcases prepareLaunch_cases done with rfl | ⟨placed,stands,rest⟩
  · exact .refl
  · have stood : Changes registry placed := by
      rcases stands.souls with same | ⟨unknown,entered⟩
      · exact .elsewhere same stands.incarnations
      · exact .single (.soulEntered unknown rfl entered stands.incarnations)
    rcases rest with ⟨command,rfl⟩ | admitted
    · exact stood.trans (Changes.elsewhere rfl rfl)
    · obtain ⟨_,_,enters,rfl⟩ := admitLaunch_cases admitted
      exact stood.trans (.single (.rowEntered rfl enters.fresh enters.alone rfl rfl))

variable {incarnation : Incarnation}

theorem currentIncarnation_spec (current : registry.currentIncarnation soulId = some incarnation) :
    incarnation ∈ registry.incarnations ∧ incarnation.soulId = soulId ∧
      (incarnation.active = false → ∀ other ∈ registry.incarnationsOf soulId, other.active = false) := by
  simp only [Registry.currentIncarnation] at current
  cases picked : latest (·.createdAt) ((registry.incarnationsOf soulId).filter (·.active)) with
  | none =>
    rw [picked] at current
    have current : latest (·.createdAt) (registry.incarnationsOf soulId) = some incarnation := current
    have listed := mem_incarnationsOf.mp (latest_mem current)
    refine ⟨listed.1,listed.2,fun _ other otherListed => ?_⟩
    simpa using List.filter_eq_nil_iff.mp (latest_eq_none.mp picked) other otherListed
  | some row =>
    rw [picked] at current
    obtain rfl := Option.some.inj current
    have listed := latest_mem picked
    rw [List.mem_filter,mem_incarnationsOf] at listed
    exact ⟨listed.1.1,listed.1.2,fun ended => by simp [listed.2] at ended⟩

theorem down_of_requestStop (lone : Lone registry.incarnations)
    (current : registry.currentIncarnation soulId = some incarnation) :
    ∀ row ∈ (requestStop incarnation registry).incarnations, row.soulId = soulId → row.up = false := by
  obtain ⟨listed,owner,ended⟩ := currentIncarnation_spec current
  have only : ∀ old ∈ registry.incarnations, old.soulId = soulId → old.up = true →
      old.incarnationId = incarnation.incarnationId := by
    intro old oldListed own up
    have active := Incarnation.active_of_up up
    cases state : incarnation.active with
    | true => exact lone.alone old oldListed incarnation listed (own.trans owner.symm) active state
    | false => simp [ended state old (mem_incarnationsOf.mpr ⟨oldListed,own⟩)] at active
  intro row rowListed own
  simp only [requestStop] at rowListed
  split at rowListed
  · obtain ⟨old,held,⟨_,rfl⟩ | ⟨other,rfl⟩⟩ := mem_updateWhere.mp rowListed
    · rfl
    · rw [Bool.eq_false_iff]
      intro up
      simp [only row held own up] at other
  · next stopped =>
    rw [Bool.eq_false_iff]
    intro up
    obtain rfl := lone_eq lone rowListed listed (only row rowListed own up)
    simp only [Incarnation.up] at up
    cases state : row.launchState <;> simp [state,LaunchState.isUp] at up stopped

variable {test : Soul → Bool}

theorem Change.mild {change : Soul → Soul} (souls : after.souls = updateWhere test change before.souls)
    (rows : after.incarnations = before.incarnations) (ids : ∀ soul, (change soul).soulId = soul.soulId)
    (desired : ∀ soul, (change soul).desiredState = soul.desiredState)
    (recovery : ∀ soul, (change soul).recoveryState = soul.recoveryState) : Change before after :=
  .souls souls rows ids (fun soul stopped => (desired soul).trans stopped)
    (fun soul _ _ stopped => .inl (desired soul ▸ stopped)) fun soul _ _ stopped settled => by
    simpa only [Soul.settled,recovery soul] using settled (desired soul ▸ stopped)

theorem Change.running {change : Soul → Soul} (souls : after.souls = updateWhere test change before.souls)
    (rows : after.incarnations = before.incarnations) (ids : ∀ soul, (change soul).soulId = soul.soulId)
    (desired : ∀ soul, (change soul).desiredState = soul.desiredState)
    (only : ∀ soul ∈ before.souls, test soul = true → soul.desiredState = .running) : Change before after := by
  have never : ∀ soul ∈ before.souls, test soul = true → (change soul).desiredState ≠ .stopped := by
    intro soul listed picked stopped
    rw [desired,only soul listed picked] at stopped
    simp at stopped
  exact .souls souls rows ids (fun soul stopped => (desired soul).trans stopped)
    (fun soul listed picked stopped => (never soul listed picked stopped).elim)
    fun soul listed picked stopped _ => (never soul listed picked stopped).elim

theorem only_soul (distinct : (registry.souls.map (·.soulId)).Nodup) (known : registry.soul soulId = some soul)
    {other : Soul} (listed : other ∈ registry.souls) (picked : (other.soulId == soulId) = true) : other = soul := by
  have named := (soul_known known).2
  exact soul_eq distinct (named ▸ known) listed ((beq_iff_eq.mp picked).trans named.symm)

theorem beginStop_changes (lone : Lone registry.incarnations) (distinct : (registry.souls.map (·.soulId)).Nodup)
    {expected : Option Nat} {answer : Except RegistryError OwnedRuntimeHandle}
    (done : beginStopExpected soulId expected now registry = .ok (answer,after)) : Changes registry after := by
  obtain ⟨incarnation,soul,current,known,souls,rows,_⟩ := beginStop_cases done
  have stopped : Change registry (requestStop incarnation registry) := by
    simp only [requestStop]
    split
    · refine .calm rfl rfl (fun _ => rfl) (fun _ => rfl) ?_ (fun row _ _ up => by simp [Incarnation.up,LaunchState.isUp] at up)
      intro row listed same _
      obtain ⟨held,_,_⟩ := currentIncarnation_spec current
      obtain rfl := lone_eq lone listed held same
      refine .inl ?_
      simp only [Incarnation.active]
      cases state : row.launchState <;> simp [state,LaunchState.isPotentiallyActive] at *
    · exact .elsewhere rfl rfl
  refine (Relation.ReflTransGen.single stopped).tail ?_
  have same : (requestStop incarnation registry).souls = registry.souls := by
    obtain ⟨_,requested⟩ := requestStop_eq incarnation registry
    rw [requested]
  simp only [commitStopIntent] at souls
  split at souls
  · simp only [Registry.updateSoul] at souls
    rw [← same] at souls
    refine .souls souls rows (fun _ => rfl) (fun _ _ => rfl) ?_ (fun _ _ _ _ _ => .inl rfl)
    intro other listed picked _
    refine .inr fun row rowListed own => ?_
    have named := beq_iff_eq.mp picked
    exact down_of_requestStop lone current row rowListed (own.trans (named.trans (soul_known known).2))
  · exact .elsewhere (souls.trans same.symm) rows

theorem Change.stopped {change : Incarnation → Incarnation}
    (rows : after.incarnations = updateWhere (·.incarnationId == incarnationId) change before.incarnations)
    (souls : after.souls = before.souls) (ids : ∀ row, (change row).incarnationId = row.incarnationId)
    (owners : ∀ row, (change row).soulId = row.soulId) (down : ∀ row, (change row).up = false)
    (index : ∀ row ∈ before.incarnations, row.incarnationId = incarnationId → (change row).active = true →
      ∀ other ∈ before.incarnationsOf row.soulId, other.active = true → other.incarnationId = incarnationId) :
    Change before after :=
  .calm rows souls ids owners (fun row listed same active => .inr (index row listed same active))
    fun row _ _ up => by simp [down row] at up

variable {outcome : StopOutcome} {answer : PUnit}

theorem markStopOutcome_changes (done : markStopOutcome incarnationId outcome registry = .ok (answer,after)) :
    Changes registry after := by
  have down : (stopLaunchState outcome).isUp = false := by cases outcome <;> rfl
  rcases markStopOutcome_cases done with ⟨rfl,rfl⟩ | ⟨_,alone,rfl⟩
  · have ended : Change registry (stopIncarnation incarnationId .verifiedEmpty registry) :=
      .stopped rfl rfl (fun _ => rfl) (fun _ => rfl) (fun _ => down) fun row _ _ active => by
        simp [Incarnation.active,stopLaunchState,LaunchState.isPotentiallyActive] at active
    refine (Relation.ReflTransGen.single ended).tail ?_
    exact .souls rfl rfl (fun _ => rfl) (fun _ stopped => stopped) (fun _ _ _ stopped => .inl stopped)
      fun _ _ _ _ _ => .inl rfl
  · exact .single (.stopped rfl rfl (fun _ => rfl) (fun _ => rfl) (fun _ => down) fun row listed same _ => alone row listed same)

theorem loadRecoveryContext_soul {context : RecoveryContext}
    (loaded : loadRecoveryContext registry soulId = .ok context) :
    ∃ soul, registry.soul soulId = some soul ∧ context.soulId = soulId ∧ context.desiredState = soul.desiredState ∧
      context.recoveryState = soul.recoveryState := by
  simp only [loadRecoveryContext,bind_eq_ok,found_eq_ok,pure_eq_ok] at loaded
  obtain ⟨soul,known,_,_,_,_,rfl⟩ := loaded
  exact ⟨soul,known,rfl,rfl,rfl⟩

theorem startRecovery_changes (context : RecoveryContext) (attemptId : String) (base : Registry) :
    Changes base (startRecovery context attemptId base) := by
  have rows : Change base { base with incarnations := (startRecovery context attemptId base).incarnations } := by
    refine @Change.row base _ context.priorHandle.incarnationId _ _ rfl rfl ?_ (fun _ => rfl) (fun _ => rfl) ?_ ?_
    · intro row picked
      simp only [Bool.and_eq_true,beq_iff_eq] at picked
      exact picked.1
    · intro row _ picked _
      simp only [Bool.and_eq_true,Bool.or_eq_true,beq_iff_eq] at picked
      refine .inl ?_
      simp only [Incarnation.active]
      rcases picked.2 with (state | state) | state <;> rw [state] <;> rfl
    · intro row _ _ up
      simp [Incarnation.up,LaunchState.isUp] at up
  refine (Relation.ReflTransGen.single rows).tail ?_
  refine .running rfl rfl (fun _ => rfl) (fun _ => rfl) fun soul _ picked => ?_
  simp only [Bool.and_eq_true,beq_iff_eq] at picked
  exact picked.1.2

theorem beginRecovery_changes (distinct : (registry.souls.map (·.soulId)).Nodup) {trigger : RecoveryTrigger}
    {attemptId : String} {answer : Except RegistryError RecoveryStart}
    (done : beginRecovery soulId trigger attemptId now registry = .ok (answer,after)) : Changes registry after := by
  obtain ⟨context,loaded,desired,_,⟨_,_,rfl⟩ | ⟨_,rearm,rfl⟩⟩ := beginRecovery_cases done
  · obtain ⟨soul,known,_,same,_⟩ := loadRecoveryContext_soul loaded
    refine .single (.running rfl rfl (fun _ => rfl) (fun _ => rfl) fun other listed picked => ?_)
    rw [only_soul distinct known listed picked,← same,desired]
  · cases rearm with
    | false => exact startRecovery_changes context attemptId registry
    | true =>
      have rearmed : Change registry (registry.updateSoul soulId fun soul =>
          { soul with recoveryWindowStartedAt := some now, successfulRecoveriesInWindow := 0 }) :=
        .mild rfl rfl (fun _ => rfl) (fun _ => rfl) fun _ => rfl
      exact (Relation.ReflTransGen.single rearmed).trans (startRecovery_changes context attemptId _)

theorem retire_changes (lone : Lone registry.incarnations) {answer : Bool}
    (done : retireUnownedPreparedReplacement soulId registry = .ok (answer,after)) : Changes registry after := by
  rcases retire_cases done with rfl | ⟨candidate,_,_,_,_,rfl⟩
  · exact .refl
  · have failed : Change registry (registry.updateIncarnation candidate.incarnationId fun row =>
        { row with launchState := .failed, cleanupState := .terminationUnconfirmed }) :=
      .stopped rfl rfl (fun _ => rfl) (fun _ => rfl) (fun _ => rfl) fun row _ _ active => by
        simp [Incarnation.active,LaunchState.isPotentiallyActive] at active
    refine (Relation.ReflTransGen.single failed).tail ?_
    refine .souls rfl rfl (fun _ => rfl) (fun _ stopped => stopped) (fun _ _ _ stopped => .inl stopped) ?_
    -- A soul that is desired stopped is not one that recovers.
    intro soul _ picked stopped settled
    simp only [Bool.and_eq_true,beq_iff_eq] at picked
    rcases settled stopped with state | state <;> simp [picked.2] at state

theorem commitLoss_changes (lone : Lone registry.incarnations) {certificate : LostDecisionCertificate}
    (certifiable : Certifiable certificate soul registry) :
    Changes registry (commitLoss certificate soul registry) := by
  obtain ⟨target,known,owner,_⟩ := certifiable.owned
  have targetListed := of_find_key known
  have candidate : ∃ row, registry.cleanupCandidate certificate.soulId = some row ∧
      row.incarnationId = certificate.cleanupTarget.incarnationId := by
    have picked := certifiable.candidate
    rwa [Option.map_eq_some_iff] at picked
  obtain ⟨row,picked,same⟩ := candidate
  have among := latest_mem picked
  rw [List.mem_filter,mem_incarnationsOf] at among
  have rowActive : row.active = true := by
    simp only [Incarnation.active]
    cases state : row.launchState <;> simp [state,LaunchState.isPotentiallyActive] at among ⊢
  have first : Change registry (registry.updateIncarnation certificate.cleanupTarget.incarnationId fun row =>
      { row with launchState := .stopping, cleanupState := .requested }) := by
    refine .calm rfl rfl (fun _ => rfl) (fun _ => rfl) ?_ fun _ _ _ up => by simp [Incarnation.up,LaunchState.isUp] at up
    intro other listed named _
    rw [lone_eq lone listed among.1.1 (named.trans same.symm)]
    exact .inl rowActive
  refine (Relation.ReflTransGen.single first).tail ?_
  refine .souls rfl rfl (fun _ => rfl) (fun _ _ => rfl) ?_ (fun _ _ _ _ _ => .inr rfl)
  intro other _ isPicked _
  simp only [Bool.and_eq_true,beq_iff_eq] at isPicked
  refine .inr fun one oneListed own => ?_
  obtain ⟨old,held,⟨_,rfl⟩ | ⟨unpicked,rfl⟩⟩ := mem_updateWhere.mp oneListed
  · rfl
  · rw [Bool.eq_false_iff]
    intro up
    have sameId := lone.alone one held row among.1.1 (own.trans (isPicked.1.1.trans among.1.2.symm))
      (Incarnation.active_of_up up) rowActive
    simp [sameId,same] at unpicked

theorem finalize_changes {incidentId : String} {cleanup : LossCleanupReport}
    (done : finalizeLossCleanup installation incidentId outcome cleanup now registry = .ok (answer,after)) :
    Changes registry after := by
  have recorded : ∀ (incident : LossIncident) (verified : Prop) [Decidable verified],
      (¬verified → ∀ row ∈ registry.incarnations, row.incarnationId = incident.incarnationId →
        ∀ other ∈ registry.incarnationsOf row.soulId, other.active = true →
          other.incarnationId = incident.incarnationId) →
      Changes registry (recordCleanup incidentId incident verified outcome cleanup registry) := by
    intro incident verified _ index
    have rows : Change registry { registry with
        incarnations := (recordCleanup incidentId incident verified outcome cleanup registry).incarnations } := by
      refine .stopped rfl rfl (fun _ => rfl) (fun _ => rfl) ?_ ?_
      · intro row
        simp only [Incarnation.up]
        split <;> rfl
      · intro row listed named active
        by_cases holds : verified
        · simp [Incarnation.active,holds,LaunchState.isPotentiallyActive] at active
        · exact index holds row listed named
    exact (Relation.ReflTransGen.single rows).tail (.mild rfl rfl (fun _ => rfl) (fun _ => rfl) fun _ => rfl)
  rcases finalizeLossCleanup_cases done with ⟨_,_,_,rfl⟩ | ⟨incident,_,_,⟨_,_,rfl⟩ | ⟨_,alone,rfl⟩⟩
  · obtain ⟨_,enqueued⟩ := enqueueNotice_eq
    rw [enqueued]
    exact .elsewhere rfl rfl
  · obtain ⟨_,closed⟩ := closeLoss_cases
    rw [closed]
    exact (recorded incident True (fun never => (never trivial).elim)).trans (Changes.elsewhere rfl rfl)
  · obtain ⟨_,enqueued⟩ := enqueueNotice_eq
    rw [enqueued]
    exact (recorded incident False (fun _ => alone)).trans (Changes.elsewhere rfl rfl)

theorem repair_changes (ids : List String) (base : Registry) : Changes base (ids.foldl retireUngranted base) := by
  induction ids generalizing base with
  | nil => exact .refl
  | cons id rest ih =>
    have retired : Change base (retireUngranted base id) := by
      refine .calm rfl rfl (fun row => by split <;> rfl) (fun row => by split <;> rfl) ?_ ?_
      · intro row _ _ active
        split at active
        · simp [Incarnation.active,LaunchState.isPotentiallyActive] at active
        · exact .inl active
      · intro row _ _ up
        split at up
        · simp [Incarnation.up,LaunchState.isUp] at up
        · exact .inl up
    exact (Relation.ReflTransGen.single retired).trans (ih _)

theorem perform_changes (installation : Installation) (lone : Lone registry.incarnations)
    (distinct : (registry.souls.map (·.soulId)).Nodup) (operation : Operation) :
    Changes registry (perform installation registry operation) := by
  refine perform_induction (Changes registry) .refl fun answer after done => ?_
  cases operation with
  | openRegistry now => exact (ViewsOnly.backfill done).changes
  | prepareLaunch input id now => exact prepareLaunch_changes done
  | commitCreated id created =>
    obtain ⟨row,known,prepared,_,desired,rfl⟩ := commitCreated_cases done
    refine .single (.calm rfl rfl (fun _ => rfl) (fun _ => rfl) ?_ ?_)
    · intro other listed named _
      rw [picked_eq lone known listed (beq_iff_eq.mpr named)]
      exact .inl (by simp [Incarnation.active,prepared,LaunchState.isPotentiallyActive])
    · intro other listed named _
      rw [picked_eq lone known listed (beq_iff_eq.mpr named)]
      exact .inr desired
  | commitExecutionGrant id boot grant limits =>
    obtain ⟨row,known,⟨_,rfl⟩ | ⟨created,desired,rfl⟩⟩ := commitExecutionGrant_cases done
    · exact .refl
    · refine .single (.calm rfl rfl (fun _ => rfl) (fun _ => rfl) ?_ ?_)
      · intro other listed named _
        rw [picked_eq lone known listed (beq_iff_eq.mpr named)]
        exact .inl (by simp [Incarnation.active,created,LaunchState.isPotentiallyActive])
      · intro other listed named _
        rw [picked_eq lone known listed (beq_iff_eq.mpr named)]
        exact .inr desired
  | markRunning id =>
    obtain ⟨row,known,starting,desired,rfl⟩ := markRunning_cases done
    refine .single (.calm rfl rfl (fun _ => rfl) (fun _ => rfl) ?_ ?_)
    · intro other listed named _
      rw [picked_eq lone known listed (beq_iff_eq.mpr named)]
      exact .inl (by simp [Incarnation.active,starting,LaunchState.isPotentiallyActive])
    · intro other listed named _
      rw [picked_eq lone known listed (beq_iff_eq.mpr named)]
      exact .inr desired
  | beginStop soulId expected now => exact beginStop_changes lone distinct done
  | markStopOutcome id outcome => exact markStopOutcome_changes done
  | beginInput soulId requestId digest data now =>
    rcases beginInput_cases done with ⟨_,rfl⟩ | queued
    · exact .refl
    · obtain ⟨_,_,_,_,rfl⟩ := queueInput_cases queued
      exact .elsewhere rfl rfl
  | claimNextQueuedInput soulId id =>
    obtain ⟨_,_,rfl⟩ := claimNextQueuedInput_cases done
    exact .elsewhere rfl rfl
  | markInputDispatching soulId requestId =>
    obtain rfl := setInputState_cases done
    exact .elsewhere rfl rfl
  | markInputCompleted soulId requestId =>
    obtain rfl := setInputState_cases done
    exact .elsewhere rfl rfl
  | markInputAmbiguous soulId requestId =>
    obtain rfl := setInputState_cases done
    exact .elsewhere rfl rfl
  | recordNativeSession soulId id session =>
    obtain ⟨_,_,_,_,_,_,rfl,_⟩ := recordNativeSession_cases done
    have named : Change registry { registry with
        souls := updateWhere (·.soulId == soulId) (fun row => { row with nativeSessionId := some session }) registry.souls } :=
      .mild rfl rfl (fun _ => rfl) (fun _ => rfl) fun _ => rfl
    exact (Relation.ReflTransGen.single named).tail (.calm rfl rfl (fun _ => rfl) (fun _ => rfl)
      (fun _ _ _ active => .inl active) fun _ _ _ up => .inl up)
  | transitionNativeSession soulId id parent child =>
    rcases transitionNativeSession_cases done with rfl | ⟨_,_,_,_,_,rfl⟩
    · exact .refl
    · have named : Change registry { registry with
          souls := updateWhere (·.soulId == soulId) (fun row => { row with nativeSessionId := some child }) registry.souls } :=
        .mild rfl rfl (fun _ => rfl) (fun _ => rfl) fun _ => rfl
      exact (Relation.ReflTransGen.single named).tail (.calm rfl rfl (fun _ => rfl) (fun _ => rfl)
        (fun _ _ _ active => .inl active) fun _ _ _ up => .inl up)
  | retireUnownedPreparedReplacement soulId => exact retire_changes lone done
  | beginRecovery soulId trigger attempt now => exact beginRecovery_changes distinct done
  | prepareReplacement start terminal freshAgent resumeSpec id now =>
    obtain ⟨_,enters,rfl⟩ := prepareReplacement_cases done
    exact .single (.rowEntered rfl enters.fresh enters.alone rfl rfl)
  | markRecoveryLive soulId id =>
    obtain ⟨_,rfl⟩ := markRecoveryLive_cases done
    refine .single (.running rfl rfl (fun _ => rfl) (fun _ => rfl) fun soul _ picked => ?_)
    simp only [Bool.and_eq_true,beq_iff_eq] at picked
    exact picked.2
  | markRecoverySuccess soulId id attempt now =>
    obtain ⟨soul,_,known,desired,_,_,_,_,_,rfl⟩ := markRecoverySuccess_cases done
    refine .single (.running rfl rfl (fun _ => rfl) (fun _ => rfl) fun other listed picked => ?_)
    rw [only_soul distinct known listed picked,desired]
  | markRecoveryBlocked soulId =>
    obtain rfl := finishRecoveryVerdict_cases done
    refine .single (.running rfl rfl (fun _ => rfl) (fun _ => rfl) fun soul _ picked => ?_)
    simp only [Bool.and_eq_true,beq_iff_eq] at picked
    exact picked.2
  | markRecoveryLost soulId =>
    obtain rfl := finishRecoveryVerdict_cases done
    refine .single (.running rfl rfl (fun _ => rfl) (fun _ => rfl) fun soul _ picked => ?_)
    simp only [Bool.and_eq_true,beq_iff_eq] at picked
    exact picked.2
  | prepareLoss certificate now =>
    rcases prepareLoss_cases done with ⟨rfl,_⟩ | ⟨_,certifiable,advanced⟩
    · exact .refl
    · exact (commitLoss_changes lone certifiable).trans (ViewsOnly.advanceViews advanced).changes
  | finalizeLossCleanup incidentId outcome cleanup now => exact finalize_changes done
  | coalesceStartupNotices startedAt finishedAt =>
    obtain ⟨_,rfl⟩ := coalesce_cases done
    exact .elsewhere rfl rfl
  | repairAudit apply =>
    rcases repairAudit_cases done with rfl | ⟨_,rfl⟩
    · exact .refl
    · exact repair_changes _ _
  | makeDesiredRunningViewsVisible now => exact (ViewsOnly.makeVisible done).changes
  | acknowledgeViewProjection eventId now => exact (ViewsOnly.acknowledge done).changes
  | updateViewVisibility viewId visibility revision soulRevision now => exact (ViewsOnly.updateVisibility done).changes
  | upsertViewIntent request now => exact (ViewsOnly.upsert done).changes
  | updateConfiguredLimits soulId limits expected now =>
    rcases updateConfiguredLimits_cases done with rfl | ⟨soul,_,advanced⟩
    · exact .refl
    · have limited : Change registry (registry.updateSoul soulId fun row =>
          { row with configuredLimits := some limits, resourceProfile := "custom",
                     intentRevision := soul.intentRevision + 1 }) :=
        .mild rfl rfl (fun _ => rfl) (fun _ => rfl) fun _ => rfl
      exact (Relation.ReflTransGen.single limited).trans (ViewsOnly.advanceViews advanced).changes

structure Lives (registry : Registry) : Prop where
  lone : Lone registry.incarnations
  rested : Rested registry

theorem Lives.perform (installation : Installation) (lives : Lives registry) (operation : Operation) :
    Lives (perform installation registry operation) :=
  have changes := perform_changes installation lives.lone lives.rested.distinct operation
  ⟨lives.lone.changes changes,lives.rested.changes changes⟩

theorem lives_empty : Lives .empty where
  lone := ⟨List.nodup_nil,by simp [Registry.empty]⟩
  rested := ⟨List.nodup_nil,by simp [Registry.empty],by simp [Registry.empty]⟩
end Freshell.Supervisor
