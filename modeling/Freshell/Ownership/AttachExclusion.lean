import Mathlib.Data.Finset.Card
import Freshell.Ownership.AttachWindows

/-!
What a held attach guard excludes on the key where its session is recorded, as
the session is followed through every rekey. The count that blocks the begins is
on one record, so a rekey that moves the runtime to another record without it,
and the acknowledged start, which does not consult it, lose the exclusion.
-/
namespace Freshell.Ownership
open Freshell.Library.Runs
set_option linter.unusedSimpArgs false

def World.rekey (world : World) (op : Op) : Option (SessionKey × SessionKey) :=
  match op,world.reply op with
  | .commitLiveRekey provider oldId newId _ _ _ _,.commit .committed => some (⟨provider,oldId⟩,⟨provider,newId⟩)
  | .rekeyStarting provider oldId newId _ _,.commit .committed => some (⟨provider,oldId⟩,⟨provider,newId⟩)
  | .rekeyLive provider oldId newId _ _ _,.commit .committed => some (⟨provider,oldId⟩,⟨provider,newId⟩)
  | .commitLiveRekeyFromTerminal provider newId _ _ oldId _ _ _,.commit .committed =>
    some (⟨provider,oldId⟩,⟨provider,newId⟩)
  | _,_ => none

/-- The keys that the call moves a runtime from and to when it commits. -/
def Op.rekeys : Op → Option (SessionKey × SessionKey)
  | .commitLiveRekey provider oldId newId _ _ _ _ => some (⟨provider,oldId⟩,⟨provider,newId⟩)
  | .rekeyStarting provider oldId newId _ _ => some (⟨provider,oldId⟩,⟨provider,newId⟩)
  | .rekeyLive provider oldId newId _ _ _ => some (⟨provider,oldId⟩,⟨provider,newId⟩)
  | .commitLiveRekeyFromTerminal provider newId _ _ oldId _ _ _ => some (⟨provider,oldId⟩,⟨provider,newId⟩)
  | _ => none

/-- Where a session recorded at a key is recorded after the call. -/
def World.follow (world : World) (op : Op) (key : SessionKey) : SessionKey :=
  match world.rekey op with
  | some (old,new) => if key = old then new else key
  | none => key

/-- A world with the key where the session of each guard is recorded, by the
    guard's index. -/
structure Tracked where
  world : World
  session : Nat → SessionKey

namespace Tracked

def mint (epoch : Nat) : Tracked := ⟨.mint epoch,fun _ => ⟨"",""⟩⟩

/-- A guard that the call arms is recorded at its own key. -/
def step (tracked : Tracked) (op : Op) : Tracked :=
  ⟨tracked.world.step op,fun index =>
    if index < tracked.world.guards.length then tracked.world.follow op (tracked.session index)
    else ((tracked.world.step op).guards[index]?.map (·.key)).getD ⟨"",""⟩⟩

/-- The guard at this index is held, for a session recorded at this key. -/
def Holds (tracked : Tracked) (index : Nat) (guard : AttachGuard) (key : SessionKey) : Prop :=
  tracked.world.guards[index]? = some guard ∧ guard.disarmed = false ∧ tracked.session index = key

/-- The indices of the guards held for a session recorded at this key. -/
def followers (tracked : Tracked) (key : SessionKey) : Finset Nat :=
  (Finset.range tracked.world.guards.length).filter fun index =>
    tracked.session index = key ∧ tracked.world.guards[index]?.any (!·.disarmed) = true

theorem mem_followers {tracked : Tracked} {key : SessionKey} {index : Nat} :
    index ∈ tracked.followers key ↔ ∃ guard, tracked.Holds index guard key := by
  simp only [followers,Finset.mem_filter,Finset.mem_range,Holds]
  cases listed : tracked.world.guards[index]? with
  | none => simp
  | some guard =>
    have bound : index < tracked.world.guards.length := (List.getElem?_eq_some_iff.mp listed).1
    simp [bound,and_comm]

end Tracked

/-- An acknowledged start that the registry grants. -/
def Registry.AcceptsAcknowledged (registry : Registry) (key : SessionKey) (observed : ObservedFence) : Prop :=
  observed.epoch = registry.epoch ∧ observed.generation = snapshotGeneration (registry.record key) ∧
    ∃ prior fencedBy generation initiator sinceMs,
      (registry.record key).state = .fenced prior .clearedUnverified fencedBy generation initiator sinceMs

/-- While a guard is held for the session, the call does not move its runtime to
    another record by a committing or a live rekey, is no granted acknowledged
    start, arms no guard at the largest count, and begins no start under the
    window of a guard that is already closed. -/
def Tracked.KeepsWindows (tracked : Tracked) : Op → Prop
  | .commitLiveRekey provider oldId newId operationId generation _ _ =>
    tracked.world.registry.AcceptsStartRekey provider oldId newId operationId generation →
      tracked.followers ⟨provider,oldId⟩ = ∅
  | .rekeyLive provider oldId newId expectedLiveSessionKey newOwner _ =>
    tracked.world.registry.AcceptsLiveRekey provider oldId newId expectedLiveSessionKey newOwner →
      tracked.followers ⟨provider,oldId⟩ = ∅
  | .commitLiveRekeyFromTerminal provider newId operationId generation oldId expectedTerminalId _ _ =>
    tracked.world.registry.AcceptsTerminalRekey provider newId operationId generation oldId expectedTerminalId →
      tracked.followers ⟨provider,oldId⟩ = ∅
  | .beginHandoffAcknowledged key _ _ observed _ _ =>
    tracked.world.registry.AcceptsAcknowledged key observed → tracked.followers key = ∅
  | .beginAttachGuard key _ observedGeneration _ _ =>
    tracked.world.registry.AcceptsAttach key observedGeneration →
      (tracked.world.registry.record key).inFlightAttaches < maxInFlight
  | .beginAdoptGuard key _ expected observed _ _ =>
    tracked.world.registry.AcceptsAdopt key expected observed →
      (tracked.world.registry.record key).inFlightAttaches < maxInFlight
  | .beginStart key _ _ observed _ _ (some window) =>
    tracked.world.registry.isStale key observed = false → (tracked.world.registry.record key).state = .vacant →
      (tracked.world.registry.record key).isWindowed (some window) = true → tracked.followers key ≠ ∅ →
      ∃ index guard, tracked.Holds index guard key ∧ guard.operationId = window
  | _ => True

/-- While a guard is held, a claim granted on the key where its session is
    recorded is a re-claim by the operation that already holds the record, or a
    start begun under the window of a guard held for that session. -/
def Tracked.Excludes (tracked : Tracked) (op : Op) : Prop :=
  ∀ index guard grant, tracked.Holds index guard grant.key → tracked.world.grant op = some grant →
    ((tracked.world.registry.record grant.key).state.isClaimed = true ∧
      (tracked.world.registry.record grant.key).state.operationId = some grant.operationId) ∨
    ∃ kind observed initiator nowMs window holder other,
      op = .beginStart grant.key kind grant.operationId observed initiator nowMs (some window) ∧
      tracked.Holds holder other grant.key ∧ other.operationId = window

/-- The key has a record, and it is no residue of a rekey. -/
def Registry.Recorded (registry : Registry) (key : SessionKey) : Prop :=
  ∃ record, registry.get key = some record ∧ record.state.isAliased = false

section
variable {world : World} {op : Op} {key : SessionKey}

variable {provider : String} {generation clock : Nat} {owner : OwnerIdentity}

theorem rekey_iff {keys : SessionKey × SessionKey} :
    world.rekey op = some keys ↔ op.rekeys = some keys ∧ world.reply op = .commit .committed := by
  constructor
  · intro rekeyed
    unfold World.rekey at rekeyed
    split at rekeyed
    all_goals first | exact ⟨rekeyed,‹_›⟩ | cases rekeyed
  · rintro ⟨names,committed⟩
    unfold World.rekey
    cases op <;> cases names
    all_goals simp only [committed]

theorem rekey_of_accepts_commit {oldId newId operationId : String}
    (accepts : world.registry.AcceptsStartRekey provider oldId newId operationId generation) :
    world.rekey (.commitLiveRekey provider oldId newId operationId generation owner clock) =
      some (⟨provider,oldId⟩,⟨provider,newId⟩) :=
  rekey_iff.mpr ⟨rfl,congrArg Reply.commit (Registry.commitLiveRekey_committed_iff.mpr accepts)⟩

theorem rekey_of_accepts_start {oldId newId operationId : String}
    (accepts : world.registry.AcceptsStartRekey provider oldId newId operationId generation) :
    world.rekey (.rekeyStarting provider oldId newId operationId generation) =
      some (⟨provider,oldId⟩,⟨provider,newId⟩) :=
  rekey_iff.mpr ⟨rfl,congrArg Reply.commit (Registry.rekeyStarting_committed_iff.mpr accepts)⟩

theorem rekey_of_accepts_live {oldId newId expectedLiveSessionKey : String} {newOwner : OwnerIdentity}
    (accepts : world.registry.AcceptsLiveRekey provider oldId newId expectedLiveSessionKey newOwner) :
    world.rekey (.rekeyLive provider oldId newId expectedLiveSessionKey newOwner clock) =
      some (⟨provider,oldId⟩,⟨provider,newId⟩) :=
  rekey_iff.mpr ⟨rfl,congrArg Reply.commit (Registry.rekeyLive_committed_iff.mpr accepts)⟩

theorem rekey_of_accepts_terminal {newId operationId oldId expectedTerminalId : String}
    (accepts : world.registry.AcceptsTerminalRekey provider newId operationId generation oldId expectedTerminalId) :
    world.rekey (.commitLiveRekeyFromTerminal provider newId operationId generation oldId expectedTerminalId owner
      clock) = some (⟨provider,oldId⟩,⟨provider,newId⟩) :=
  rekey_iff.mpr ⟨rfl,congrArg Reply.commit (Registry.commitLiveRekeyFromTerminal_committed_iff.mpr accepts)⟩

theorem recorded_step (op : Op) (recorded : world.registry.Recorded key) :
    (∃ new, world.rekey op = some (key,new)) ∨ (world.step op).registry.Recorded key := by
  obtain ⟨old,before,free⟩ := recorded
  rcases step_get world op key with same | ⟨record,after,move⟩
  · exact .inr ⟨old,same.trans before,free⟩
  · cases move with
    | commitMovedOut found held absent =>
      exact .inl ⟨_,rekey_of_accepts_commit ⟨_,_,_,_,_,found,rfl,held,absent⟩⟩
    | startMovedOut found held absent =>
      exact .inl ⟨_,rekey_of_accepts_start ⟨_,_,_,_,_,found,rfl,held,absent⟩⟩
    | liveMovedOut found held expected absent =>
      exact .inl ⟨_,rekey_of_accepts_live ⟨⟨_,_,_,Registry.state_of_get found held,expected⟩,absent⟩⟩
    | terminalMovedOut found held foundOld heldOld under =>
      exact .inl ⟨_,rekey_of_accepts_terminal ⟨⟨_,_,_,Registry.state_of_get found held⟩,_,_,_,
        Registry.state_of_get foundOld heldOld,under⟩⟩
    | startMovedIn found held absent | aliased absent found =>
      rw [before] at absent
      cases absent
    | windowClosed listed outstanding found | startRegistered found held | stopRegistered found held
    | partialRegistered found held | attachArmed found held | adoptArmed found held =>
      obtain rfl := Option.some.inj (found.symm.trans before)
      exact .inr ⟨_,after,free⟩
    | _ => exact .inr ⟨_,after,rfl⟩

/-- A call that arms and closes no guard keeps the count of a key, unless it
    rekeys a start from or to it. -/
theorem count_step (plain : op.isGuard = false) (key : SessionKey) :
    ((world.step op).registry.record key).inFlightAttaches = (world.registry.record key).inFlightAttaches ∨
      ∃ provider oldId newId operationId generation, op = .rekeyStarting provider oldId newId operationId generation ∧
        world.registry.AcceptsStartRekey provider oldId newId operationId generation ∧
        (key = ⟨provider,oldId⟩ ∨ key = ⟨provider,newId⟩) := by
  rcases step_get world op key with same | ⟨record,after,move⟩
  · exact .inl (by rw [record_step same])
  · rw [Registry.record_of_get after]
    rcases move_windows plain move with ⟨count,_⟩ | ⟨provider,oldId,newId,operationId,generation,same,accepts,moved⟩
    · exact .inl count
    · exact .inr ⟨provider,oldId,newId,operationId,generation,same,accepts,moved.imp And.left And.left⟩

/-- A rekey that commits leaves the old key, which was no residue, as a residue
    of the new one, which is recorded. -/
theorem rekey_cases {old new : SessionKey} (rekeyed : world.rekey op = some (old,new)) :
    (op.isGuard = false ∧ old.provider = new.provider ∧ old ≠ new ∧
      (world.registry.record old).state.isAliased = false ∧ (world.registry.record new).state.isAliased = false ∧
      (∃ generation, ((world.step op).registry.record old).state = .aliased new.sessionId generation) ∧
      (world.step op).registry.Recorded new) ∧
      ((∃ provider oldId newId operationId generation, op = .rekeyStarting provider oldId newId operationId generation ∧
          old = ⟨provider,oldId⟩ ∧ new = ⟨provider,newId⟩ ∧ world.registry.get new = none ∧
          ((world.step op).registry.record new).inFlightAttaches = (world.registry.record old).inFlightAttaches) ∨
        ((∀ provider oldId newId operationId generation,
            op ≠ .rekeyStarting provider oldId newId operationId generation) ∧
          ∀ tracked : Tracked, tracked.world = world → tracked.KeepsWindows op → tracked.followers old = ∅)) := by
  obtain ⟨names,committed⟩ := rekey_iff.mp rekeyed
  cases op with
  | commitLiveRekey provider oldId newId operationId generation owner clock =>
    cases names
    rcases world.registry.commitLiveRekey_cases provider oldId newId operationId generation owner clock with
      ⟨_,refused⟩ | ⟨record,kind,gen,initiator,sinceMs,found,current,held,absent,answered⟩
    · exact absurd (Reply.commit.inj committed) refused
    · have distinct := Registry.ne_of_recorded found absent
      simp only [World.step,World.call,answered]
      refine ⟨⟨rfl,trivial,distinct,by simp [Registry.record_of_get found,held,OwnershipState.isAliased],
        by rw [Registry.record_of_none absent]; rfl,⟨generation,by simp [distinct]⟩,⟨_,Registry.get_set_self _ _ _,rfl⟩⟩,
        .inr ⟨by simp,?_⟩⟩
      rintro tracked rfl keeps
      exact keeps ⟨record,kind,gen,initiator,sinceMs,found,current,held,absent⟩
  | rekeyStarting provider oldId newId operationId generation =>
    cases names
    rcases world.registry.rekeyStarting_cases provider oldId newId operationId generation with
      ⟨_,refused⟩ | ⟨record,kind,gen,initiator,sinceMs,found,current,held,absent,answered⟩
    · exact absurd (Reply.commit.inj committed) refused
    · have distinct := Registry.ne_of_recorded found absent
      simp only [World.step,World.call,answered]
      refine ⟨⟨rfl,trivial,distinct,by simp [Registry.record_of_get found,held,OwnershipState.isAliased],
        by rw [Registry.record_of_none absent]; rfl,⟨generation,by simp [distinct,SessionRecord.fresh]⟩,
        ⟨_,Registry.get_set_self _ _ _,by rw [held]; rfl⟩⟩,.inl ⟨_,_,_,_,_,rfl,rfl,rfl,absent,?_⟩⟩
      simp [Registry.record_of_get found]
  | rekeyLive provider oldId newId expectedLiveSessionKey newOwner clock =>
    cases names
    rcases world.registry.rekeyLive_cases provider oldId newId expectedLiveSessionKey newOwner clock with
      ⟨_,refused⟩ | ⟨record,owner,gen,sinceMs,found,held,kind,keyed,absent,answered⟩
    · exact absurd (Reply.commit.inj committed) refused
    · have distinct := Registry.ne_of_recorded found absent
      simp only [World.step,World.call,answered]
      refine ⟨⟨rfl,trivial,distinct,by simp [Registry.record_of_get found,held,OwnershipState.isAliased],
        by rw [Registry.record_of_none absent]; rfl,⟨_,by simp [distinct]; rfl⟩,⟨_,Registry.get_set_self _ _ _,rfl⟩⟩,
        .inr ⟨by simp,?_⟩⟩
      rintro tracked rfl keeps
      exact keeps ⟨⟨owner,gen,sinceMs,Registry.state_of_get found held,kind,keyed⟩,absent⟩
  | commitLiveRekeyFromTerminal provider newId operationId generation oldId expectedTerminalId owner clock =>
    cases names
    rcases world.registry.commitLiveRekeyFromTerminal_cases provider newId operationId generation oldId
        expectedTerminalId owner clock with
      ⟨_,refused⟩ | ⟨newRecord,oldRecord,kind,initiator,startedMs,oldOwner,oldGeneration,sinceMs,found,held,foundOld,
        heldOld,terminal,under,answered⟩
    · exact absurd (Reply.commit.inj committed) refused
    · have distinct : (⟨provider,newId⟩ : SessionKey) ≠ ⟨provider,oldId⟩ := by
        intro same
        rw [same,foundOld] at found
        cases found
        rw [held] at heldOld
        cases heldOld
      simp only [World.step,World.call,answered]
      refine ⟨⟨rfl,trivial,distinct.symm,by simp [Registry.record_of_get foundOld,heldOld,OwnershipState.isAliased],
        by simp [Registry.record_of_get found,held,OwnershipState.isAliased],⟨_,by simp; rfl⟩,
        ⟨_,(Registry.get_set_of_ne _ _ distinct).trans (Registry.get_set_self _ _ _),rfl⟩⟩,.inr ⟨by simp,?_⟩⟩
      rintro tracked rfl keeps
      exact keeps ⟨⟨kind,initiator,startedMs,Registry.state_of_get found held⟩,oldOwner,oldGeneration,sinceMs,
        Registry.state_of_get foundOld heldOld,terminal,under⟩
  | _ => cases names

end

namespace Tracked

/-- The count of a record covers the guards held for the session recorded there;
    a guard whose session moved away remembers an aliased key; and the session
    of a held guard is recorded. -/
structure Guarded (tracked : Tracked) : Prop where
  covered : ∀ key, (tracked.followers key).card ≤ (tracked.world.registry.record key).inFlightAttaches
  moved : ∀ index guard key, tracked.Holds index guard key → guard.key ≠ key →
    (tracked.world.registry.record guard.key).state.isAliased = true
  recorded : ∀ index guard key, tracked.Holds index guard key → tracked.world.registry.Recorded key

theorem guarded_mint (epoch : Nat) : (mint epoch).Guarded where
  covered key := by simp [mint,World.mint,followers]
  moved index guard key holds := by simp [mint,World.mint,Holds] at holds
  recorded index guard key holds := by simp [mint,World.mint,Holds] at holds

section
variable {tracked : Tracked} {op : Op}

variable {key : SessionKey}

theorem followers_of_absent (guarded : tracked.Guarded) (absent : tracked.world.registry.get key = none) :
    tracked.followers key = ∅ := by
  by_contra held
  obtain ⟨index,member⟩ := Finset.nonempty_iff_ne_empty.mpr held
  obtain ⟨guard,holds⟩ := mem_followers.mp member
  obtain ⟨record,found,_⟩ := guarded.recorded index guard key holds
  rw [absent] at found
  cases found

variable {guard : AttachGuard}

theorem holds_plain (plain : op.isGuard = false) {index : Nat} : (tracked.step op).Holds index guard key ↔
      ∃ before, tracked.Holds index guard before ∧ tracked.world.follow op before = key := by
  simp only [Holds,step,guards_step plain]
  constructor
  · rintro ⟨listed,held,session⟩
    rw [if_pos (List.getElem?_eq_some_iff.mp listed).1] at session
    exact ⟨_,⟨listed,held,rfl⟩,session⟩
  · rintro ⟨before,⟨listed,held,rfl⟩,session⟩
    rw [if_pos (List.getElem?_eq_some_iff.mp listed).1]
    exact ⟨listed,held,session⟩

theorem followers_plain (plain : op.isGuard = false)
    (same : ∀ before, tracked.world.follow op before = key ↔ before = key) :
    (tracked.step op).followers key = tracked.followers key := by
  ext index
  simp only [mem_followers,holds_plain plain,same]
  simp

theorem guarded_still (plain : op.isGuard = false) (still : tracked.world.rekey op = none)
    (guarded : tracked.Guarded) : (tracked.step op).Guarded := by
  have stays (key : SessionKey) : tracked.world.follow op key = key := by simp [World.follow,still]
  have holds {index : Nat} {guard : AttachGuard} {key : SessionKey} :
      (tracked.step op).Holds index guard key ↔ tracked.Holds index guard key := by
    simp [holds_plain plain,stays]
  refine ⟨?_,?_,?_⟩
  · intro key
    rw [followers_plain plain (by simp [stays])]
    refine Nat.le_trans (guarded.covered key) (Nat.le_of_eq ?_)
    rcases @count_step tracked.world op plain key with same | ⟨_,_,_,_,_,rfl,accepts,_⟩
    · exact same.symm
    · rw [rekey_of_accepts_start accepts] at still
      cases still
  · intro index guard key held distinct
    exact isAliased_step op (guarded.moved index guard key (holds.mp held) distinct)
  · intro index guard key held
    rcases recorded_step op (guarded.recorded index guard key (holds.mp held)) with ⟨new,rekeyed⟩ | recorded
    · rw [still] at rekeyed
      cases rekeyed
    · exact recorded

theorem guarded_rekey {old new : SessionKey} (rekeyed : tracked.world.rekey op = some (old,new))
    (keeps : tracked.KeepsWindows op) (guarded : tracked.Guarded) : (tracked.step op).Guarded := by
  obtain ⟨⟨plain,_,distinct,_,_,⟨generation,aliased⟩,recordedNew⟩,windows⟩ := rekey_cases rekeyed
  have follow (key : SessionKey) : tracked.world.follow op key = if key = old then new else key := by
    simp [World.follow,rekeyed]
  have holds {index : Nat} {guard : AttachGuard} {key : SessionKey} (held : (tracked.step op).Holds index guard key) :
      (key = new ∧ tracked.Holds index guard old) ∨ (key ≠ old ∧ tracked.Holds index guard key) := by
    obtain ⟨before,held,same⟩ := (holds_plain plain).mp held
    rw [follow] at same
    split at same
    · next moved => exact .inl ⟨same.symm,moved ▸ held⟩
    · next stayed => exact .inr (same ▸ ⟨stayed,held⟩)
  refine ⟨?_,?_,?_⟩
  · intro key
    rcases windows with ⟨provider,oldId,newId,operationId,generation,rfl,rfl,rfl,absent,count⟩ | ⟨other,idle⟩
    · by_cases arrived : key = ⟨provider,newId⟩
      · subst arrived
        show _ ≤ ((tracked.world.step _).registry.record _).inFlightAttaches
        rw [count]
        refine Nat.le_trans (Finset.card_le_card fun index member => ?_) (guarded.covered _)
        obtain ⟨guard,held⟩ := mem_followers.mp member
        rcases holds held with ⟨_,held⟩ | ⟨_,held⟩
        · exact mem_followers.mpr ⟨guard,held⟩
        · obtain ⟨record,found,_⟩ := guarded.recorded _ _ _ held
          rw [absent] at found
          cases found
      · rcases count_step plain key with same | ⟨_,_,_,_,_,same,_,touched⟩
        · show _ ≤ ((tracked.world.step _).registry.record _).inFlightAttaches
          rw [same]
          refine Nat.le_trans (Finset.card_le_card fun index member => ?_) (guarded.covered _)
          obtain ⟨guard,held⟩ := mem_followers.mp member
          rcases holds held with ⟨arrival,_⟩ | ⟨_,held⟩
          · exact absurd arrival arrived
          · exact mem_followers.mpr ⟨guard,held⟩
        · cases same
          rcases touched with rfl | arrival
          · have left_ : (tracked.step (.rekeyStarting provider oldId newId operationId generation)).followers
                ⟨provider,oldId⟩ = ∅ := by
              by_contra remains
              obtain ⟨index,member⟩ := Finset.nonempty_iff_ne_empty.mpr remains
              obtain ⟨guard,held⟩ := mem_followers.mp member
              rcases holds held with ⟨same,_⟩ | ⟨stayed,_⟩
              · exact distinct same
              · exact stayed rfl
            rw [left_]
            exact Nat.zero_le _
          · exact absurd arrival arrived
    · have none_ := idle tracked rfl keeps
      rcases count_step plain key with same | ⟨_,_,_,_,_,rekey,_⟩
      · show _ ≤ ((tracked.world.step op).registry.record key).inFlightAttaches
        rw [same]
        refine Nat.le_trans (Finset.card_le_card fun index member => ?_) (guarded.covered key)
        obtain ⟨guard,held⟩ := mem_followers.mp member
        rcases holds held with ⟨_,held⟩ | ⟨_,held⟩
        · have member : index ∈ tracked.followers old := mem_followers.mpr ⟨guard,held⟩
          rw [none_] at member
          cases member
        · exact mem_followers.mpr ⟨guard,held⟩
      · exact absurd rekey (other _ _ _ _ _)
  · intro index guard key held apart
    rcases holds held with ⟨_,held⟩ | ⟨_,held⟩
    · by_cases remembered : guard.key = old
      · exact remembered ▸ congrArg OwnershipState.isAliased aliased
      · exact isAliased_step op (guarded.moved index guard old held remembered)
    · exact isAliased_step op (guarded.moved index guard key held apart)
  · intro index guard key held
    rcases holds held with ⟨rfl,_⟩ | ⟨stayed,held⟩
    · exact recordedNew
    · rcases recorded_step op (guarded.recorded index guard key held) with ⟨target,again⟩ | recorded
      · rw [rekeyed] at again
        cases again
        exact absurd rfl stayed
      · exact recorded

variable {after : Tracked}

theorem guarded_arm {record : SessionRecord} {operationId : String} (guarded : tracked.Guarded)
    (found : tracked.world.registry.get key = some record) (live : record.state.isAliased = false)
    (below : record.inFlightAttaches < maxInFlight) (own : guard.key = key)
    (world : after.world = ⟨tracked.world.registry.set key (record.arm operationId),tracked.world.guards ++ [guard]⟩)
    (kept : ∀ index < tracked.world.guards.length, after.session index = tracked.session index)
    (opened : after.session tracked.world.guards.length = key) : after.Guarded := by
  have holds {index : Nat} {other : AttachGuard} {session : SessionKey} (held : after.Holds index other session) :
      tracked.Holds index other session ∨
        (index = tracked.world.guards.length ∧ other = guard ∧ session = key) := by
    obtain ⟨listed,outstanding,rfl⟩ := held
    rw [world,List.getElem?_append] at listed
    split at listed
    · next bound => exact .inl ⟨listed,outstanding,(kept index bound).symm⟩
    · next bound =>
      obtain ⟨last,rfl⟩ : index - tracked.world.guards.length = 0 ∧ guard = other := by
        simpa [List.getElem?_singleton] using listed
      obtain rfl : index = tracked.world.guards.length := by omega
      exact .inr ⟨rfl,rfl,opened⟩
  have state (other : SessionKey) : (after.world.registry.record other).state =
      (tracked.world.registry.record other).state := by
    rw [world]
    by_cases same : other = key
    · subst same
      simp [Registry.record_of_get found,SessionRecord.arm]
    · simp [same]
  refine ⟨?_,?_,?_⟩
  · intro other
    have covered := guarded.covered other
    by_cases same : other = key
    · subst same
      rw [Registry.record_of_get found] at covered
      have bound : (after.followers other).card ≤ (tracked.followers other).card + 1 := by
        refine Nat.le_trans (Finset.card_le_card fun index member => ?_)
          (Finset.card_insert_le tracked.world.guards.length (tracked.followers other))
        obtain ⟨held,holding⟩ := mem_followers.mp member
        rcases holds holding with before | ⟨rfl,_⟩
        · exact Finset.mem_insert_of_mem (mem_followers.mpr ⟨held,before⟩)
        · exact Finset.mem_insert_self _ _
      simp only [world,Registry.record_set_self,SessionRecord.arm]
      omega
    · rw [world]
      simp only [Registry.record_set_of_ne _ _ same]
      refine Nat.le_trans (Finset.card_le_card fun index member => ?_) covered
      obtain ⟨held,holding⟩ := mem_followers.mp member
      rcases holds holding with before | ⟨_,_,arrived⟩
      · exact mem_followers.mpr ⟨held,before⟩
      · exact absurd arrived same
  · intro index other session held apart
    rw [state]
    rcases holds held with before | ⟨_,rfl,rfl⟩
    · exact guarded.moved index other session before apart
    · exact absurd own apart
  · intro index other session held
    rcases holds held with before | ⟨_,_,rfl⟩
    · obtain ⟨old,foundOld,free⟩ := guarded.recorded index other session before
      by_cases same : session = key
      · subst same
        exact ⟨record.arm operationId,by rw [world]; exact Registry.get_set_self _ _ _,live⟩
      · exact ⟨old,by rw [world,Registry.get_set_of_ne _ _ same,foundOld],free⟩
    · exact ⟨record.arm operationId,by rw [world]; exact Registry.get_set_self _ _ _,live⟩

/-- The close of a held guard. A guard whose session moved away closes a window
    of an aliased record, where no session of a held guard is recorded. -/
theorem guarded_close {index : Nat} (guarded : tracked.Guarded) (listed : tracked.world.guards[index]? = some guard)
    (outstanding : guard.disarmed = false) (world : after.world =
      ⟨tracked.world.registry.releaseWindow guard,tracked.world.guards.set index { guard with disarmed := true }⟩)
    (kept : ∀ index < tracked.world.guards.length, after.session index = tracked.session index) : after.Guarded := by
  have holds {position : Nat} {other : AttachGuard} {session : SessionKey}
      (held : after.Holds position other session) : position ≠ index ∧ tracked.Holds position other session := by
    obtain ⟨found,open_,rfl⟩ := held
    rw [world] at found
    have bound : position < tracked.world.guards.length := by
      simpa using (List.getElem?_eq_some_iff.mp found).1
    by_cases same : position = index
    · subst same
      simp only [List.getElem?_set_self bound,Option.some.injEq] at found
      rw [← found] at open_
      cases open_
    · rw [List.getElem?_set_ne (Ne.symm same)] at found
      exact ⟨same,found,open_,(kept position bound).symm⟩
  have state (key : SessionKey) : (after.world.registry.record key).state =
      (tracked.world.registry.record key).state := by
    rw [world]
    unfold Registry.releaseWindow
    cases found : tracked.world.registry.get guard.key with
    | none => rfl
    | some record =>
      by_cases same : key = guard.key
      · subst same
        simp [Registry.record_of_get found,SessionRecord.closeWindow]
      · simp [same]
  have fewer (key : SessionKey) : after.followers key ⊆ (tracked.followers key).erase index := by
    intro position member
    obtain ⟨other,held⟩ := mem_followers.mp member
    exact Finset.mem_erase.mpr ⟨(holds held).1,mem_followers.mpr ⟨other,(holds held).2⟩⟩
  refine ⟨?_,?_,?_⟩
  · intro key
    have covered := guarded.covered key
    have card := Finset.card_le_card (fewer key)
    by_cases same : key = guard.key
    · subst same
      obtain ⟨record,found⟩ | absent : (∃ record, tracked.world.registry.get guard.key = some record) ∨
          tracked.world.registry.get guard.key = none := by
        cases tracked.world.registry.get guard.key <;> simp
      · have count : (after.world.registry.record guard.key).inFlightAttaches = record.inFlightAttaches - 1 := by
          simp [world,Registry.releaseWindow,found,SessionRecord.closeWindow]
        rw [Registry.record_of_get found] at covered
        by_cases home : tracked.session index = guard.key
        · have member : index ∈ tracked.followers guard.key := mem_followers.mpr ⟨guard,listed,outstanding,home⟩
          rw [Finset.card_erase_of_mem member] at card
          omega
        · have aliased := guarded.moved index guard _ ⟨listed,outstanding,rfl⟩ (Ne.symm home)
          have none_ : tracked.followers guard.key = ∅ := by
            by_contra remains
            obtain ⟨position,member⟩ := Finset.nonempty_iff_ne_empty.mpr remains
            obtain ⟨other,held⟩ := mem_followers.mp member
            obtain ⟨old,foundOld,free⟩ := guarded.recorded position other guard.key held
            rw [Registry.record_of_get foundOld,free] at aliased
            cases aliased
          rw [none_,Finset.erase_empty,Finset.card_empty] at card
          omega
      · rw [followers_of_absent guarded absent,Finset.erase_empty,Finset.card_empty] at card
        omega
    · have count : (after.world.registry.record key).inFlightAttaches =
          (tracked.world.registry.record key).inFlightAttaches := by
        rw [world]
        unfold Registry.releaseWindow
        cases tracked.world.registry.get guard.key <;> simp [same]
      rw [count]
      exact Nat.le_trans card (Nat.le_trans (Finset.card_le_card (Finset.erase_subset _ _)) covered)
  · intro position other key held apart
    rw [state]
    exact guarded.moved position other key (holds held).2 apart
  · intro position other key held
    obtain ⟨old,foundOld,free⟩ := guarded.recorded position other key (holds held).2
    have unchanged := state key
    rw [Registry.record_of_get foundOld] at unchanged
    cases found : after.world.registry.get key with
    | some record => exact ⟨record,found,by rw [← free,← unchanged,Registry.record_of_get found]⟩
    | none =>
      rw [world] at found
      unfold Registry.releaseWindow at found
      split at found
      · rw [foundOld] at found; cases found
      · by_cases same : key = guard.key
        · subst same; simp at found
        · rw [Registry.get_set_of_ne _ _ same,foundOld] at found; cases found

end

theorem guarded_of_agree {tracked after : Tracked} (guarded : tracked.Guarded) (world : after.world = tracked.world)
    (kept : ∀ index < tracked.world.guards.length, after.session index = tracked.session index) :
    after.Guarded := by
  have holds {index : Nat} {guard : AttachGuard} {key : SessionKey} (held : after.Holds index guard key) :
      tracked.Holds index guard key := by
    obtain ⟨listed,outstanding,rfl⟩ := held
    rw [world] at listed
    exact ⟨listed,outstanding,(kept index (List.getElem?_eq_some_iff.mp listed).1).symm⟩
  refine ⟨?_,?_,?_⟩
  · intro key
    rw [world]
    refine Nat.le_trans (Finset.card_le_card fun index member => ?_) (guarded.covered key)
    obtain ⟨guard,held⟩ := mem_followers.mp member
    exact mem_followers.mpr ⟨guard,holds held⟩
  · intro index guard key held apart
    rw [world]
    exact guarded.moved index guard key (holds held) apart
  · intro index guard key held
    rw [world]
    exact guarded.recorded index guard key (holds held)

variable (tracked : Tracked)

theorem guarded_step (op : Op) (guarded : tracked.Guarded) (keeps : tracked.KeepsWindows op) :
    (tracked.step op).Guarded := by
  by_cases plain : op.isGuard = false
  · cases rekeyed : tracked.world.rekey op with
    | none => exact guarded_still plain rekeyed guarded
    | some keys => exact guarded_rekey rekeyed keeps guarded
  · cases op with
    | beginAttachGuard key operationId observedGeneration initiator clock =>
      rcases tracked.world.registry.beginAttachGuard_cases key operationId observedGeneration initiator clock with
        ⟨same,refused⟩ | ⟨record,owner,generation,sinceMs,found,held,answered⟩
      · refine guarded_of_agree guarded ?_ (fun index bound => if_pos bound)
        simp only [step,World.step,World.call,same,armedGuard_refused refused,List.append_nil]
      · have below := keeps (Registry.acceptsAttach_of_armed (congrArg Prod.fst answered))
        rw [Registry.record_of_get found] at below
        have after : tracked.world.step (.beginAttachGuard key operationId observedGeneration initiator clock) =
            ⟨tracked.world.registry.set key (record.arm operationId),
              tracked.world.guards ++ [⟨key,operationId,generation,initiator,clock,false⟩]⟩ := by
          simp only [World.step,World.call,answered,World.armedGuard]
        exact guarded_arm guarded found (by rw [held]; rfl) below rfl after (fun index bound => if_pos bound)
          (by simp [step,after])
    | beginAdoptGuard key operationId expected observed initiator clock =>
      rcases tracked.world.registry.beginAdoptGuard_cases key operationId expected observed initiator clock with
        ⟨same,refused⟩ | ⟨record,owner,generation,sinceMs,found,held,answered⟩
      · refine guarded_of_agree guarded ?_ (fun index bound => if_pos bound)
        simp only [step,World.step,World.call,same,armedGuard_refused refused,List.append_nil]
      · have below := keeps (Registry.acceptsAdopt_of_armed (congrArg Prod.fst answered))
        rw [Registry.record_of_get found] at below
        have after : tracked.world.step (.beginAdoptGuard key operationId expected observed initiator clock) =
            ⟨tracked.world.registry.set key (record.arm operationId),
              tracked.world.guards ++ [⟨key,operationId,generation,initiator,clock,false⟩]⟩ := by
          simp only [World.step,World.call,answered,World.armedGuard]
        exact guarded_arm guarded found (by rw [held]; rfl) below rfl after (fun index bound => if_pos bound)
          (by simp [step,after])
    | closeGuard index =>
      cases listed : tracked.world.guards[index]? with
      | none =>
        refine guarded_of_agree guarded ?_ (fun index bound => if_pos bound)
        simp only [step,World.step,World.call,World.closeGuard,listed]
      | some guard =>
        cases held : guard.disarmed with
        | true =>
          refine guarded_of_agree guarded ?_ (fun index bound => if_pos bound)
          simp [step,World.step,World.call,World.closeGuard,listed,held]
        | false =>
          refine guarded_close guarded listed held ?_ (fun index bound => if_pos bound)
          simp [step,World.step,World.call,World.closeGuard,listed,held]
    | _ => exact absurd rfl plain

theorem excludes_of_guarded (op : Op) (guarded : tracked.Guarded) (keeps : tracked.KeepsWindows op) :
    tracked.Excludes op := by
  intro index guard grant holds granted
  have held : tracked.followers grant.key ≠ ∅ :=
    Finset.nonempty_iff_ne_empty.mp ⟨index,mem_followers.mpr ⟨guard,holds⟩⟩
  have covered : 0 < (tracked.world.registry.record grant.key).inFlightAttaches :=
    Nat.lt_of_lt_of_le (Finset.card_pos.mpr (Finset.nonempty_iff_ne_empty.mpr held)) (guarded.covered grant.key)
  rcases grant_cases granted with ⟨_,claimed,own,_⟩ | ⟨_,_,record,_,move,_,own⟩
  · exact .inl ⟨claimed,own⟩
  · obtain ⟨key,operationId,generation⟩ := grant
    cases move with
    | @startGranted _ kind starter observed initiator nowMs window fresh vacant free =>
      obtain rfl : starter = operationId := Option.some.inj own
      rcases free with none_ | windowed
      · exact absurd none_ (Nat.ne_of_gt covered)
      · cases window with
        | none => cases windowed
        | some window =>
          obtain ⟨holder,other,holding,named⟩ := keeps fresh vacant windowed held
          exact .inr ⟨kind,observed,initiator,nowMs,window,holder,other,rfl,holding,named⟩
    | handoffGranted fresh vacant free => exact absurd free (Nat.ne_of_gt covered)
    | acknowledged found exactly fenced =>
      refine absurd (keeps ⟨?_,?_,_,_,_,_,_,Registry.state_of_get found fenced⟩) held
      · rw [exactly]
      · rw [exactly,Registry.record_of_get found]
    | stopGranted found live free exactly own =>
      rw [Registry.record_of_get found] at covered
      exact absurd free (Nat.ne_of_gt covered)
    | _ => simp [World.grant,Op.claims] at granted

end Tracked

/-- A terminal is attached under a guard; a stop and a competing handoff are
    refused, it dies, a competing start is refused and the guard's holder starts. -/
def guardedDeath : List Op :=
  let key : SessionKey := ⟨"codex","s"⟩
  let owner : OwnerIdentity := ⟨.terminal,some "term-1",none,none,none⟩
  [.beginStart key .terminal "start-1" none "device" 0 none, .commitLive key "start-1" 1 owner 0,
    .beginAttachGuard key "attach-1" none "device" 0,
    .beginStop key "stop-1" ⟨.terminal,none,⟨7,1⟩⟩ "device" 0,
    .beginHandoff key .freshAgent "handoff-1" none "device" 0,
    .release key ⟨"start-1",1,some (owner.stamped "start-1")⟩,
    .beginStart key .freshAgent "start-2" none "device" 0 none,
    .beginStart key .terminal "start-3" none "device" 0 (some "attach-1")]

/-- A guarded live session is rekeyed and then stopped under its new key. -/
def stopAfterRekey : List Op :=
  let owner : OwnerIdentity := ⟨.freshAgent,none,some "map-1",none,none⟩
  [.beginStart ⟨"claude","old"⟩ .freshAgent "start-1" none "device" 0 none,
    .commitLive ⟨"claude","old"⟩ "start-1" 1 owner 0,
    .beginAttachGuard ⟨"claude","old"⟩ "attach-1" none "device" 0,
    .rekeyLive "claude" "old" "new" "map-1" owner 0,
    .beginStop ⟨"claude","new"⟩ "stop-1" ⟨.freshAgent,none,⟨7,2⟩⟩ "device" 0]

end Freshell.Ownership
