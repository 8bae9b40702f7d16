import Freshell.Ownership.Replay

/-!
The fences that a client keeps. It stores one owner record for each key, resets
them all and folds the replay on a handshake, and folds the pair of a typed
refusal into the record that it has; a fold drops an older generation of the
same epoch.
-/
namespace Freshell.Ownership
open Freshell.Library.Runs
set_option linter.unusedSimpArgs false

inductive RuntimeOwnerTransition where
  | handoffStarted | handoffCommitted | handoffFailed | released
deriving DecidableEq, Repr

structure SessionRuntimeOwnerMessage where
  provider : String
  sessionId : String
  epoch : Nat
  generation : Nat
  ownerKind : String
  previousKind : Option String
  terminalId : Option String
  transition : RuntimeOwnerTransition
  reason : Option String
  fenced : Option Bool
  aliasOf : Option String
deriving DecidableEq, Repr

def SessionRuntimeOwnerMessage.key (f : SessionRuntimeOwnerMessage) : SessionKey := ⟨f.provider,f.sessionId⟩

/-- The client's record of a key: the message that it folded last, and when. -/
structure RuntimeOwnerRecord extends SessionRuntimeOwnerMessage where
  updatedAt : Nat
deriving DecidableEq, Repr

/-- The store joins provider and session id to one string; the providers are
    fixed names without the colon that separates the two. -/
abbrev RuntimeOwners := SessionKey → Option RuntimeOwnerRecord

/-- The gate of both folds: an older generation of the same epoch. -/
def dropsOlder (existing : RuntimeOwnerRecord) (epoch generation : Nat) : Bool :=
  existing.epoch == epoch && decide (generation < existing.generation)

def applyRuntimeOwner (owners : RuntimeOwners) (f : SessionRuntimeOwnerMessage) (nowMs : Nat) : RuntimeOwners :=
  if (owners f.key).any (dropsOlder · f.epoch f.generation) then owners
  else Function.update owners f.key (some { f with updatedAt := nowMs })

/-- The refresh corrects the pair of a record that the client has, and makes none. -/
def applyRuntimeOwnerFenceRefresh (owners : RuntimeOwners) (key : SessionKey) (epoch generation nowMs : Nat) :
    RuntimeOwners :=
  match owners key with
  | none => owners
  | some existing =>
    if dropsOlder existing epoch generation then owners
    else Function.update owners key (some { existing with epoch, generation, updatedAt := nowMs })

def resetRuntimeOwners : RuntimeOwners := fun _ => none

/-- The message that the handshake folds for a replay record: a fenced record
    as failed, one in progress as started, never as a committed owner. -/
def replayMessage (owner : RuntimeOwnerReplayRecord) : SessionRuntimeOwnerMessage where
  provider := owner.provider
  sessionId := owner.sessionId
  epoch := owner.epoch
  generation := owner.generation
  ownerKind := owner.ownerKind
  previousKind := none
  terminalId := owner.terminalId
  transition :=
    match owner.state with
    | .fenced => .handoffFailed
    | .starting | .handoff | .stopping => .handoffStarted
    | .live => if owner.ownerKind = "vacant" then .released else .handoffCommitted
  reason := if owner.state = .fenced then some (owner.reason.getD "fenced") else none
  fenced := if owner.state = .fenced then some true else none
  aliasOf := owner.aliasOf

def foldReadyRuntimeOwners (records : List RuntimeOwnerReplayRecord) (nowMs : Nat) : RuntimeOwners :=
  records.foldl (fun owners owner => applyRuntimeOwner owners (replayMessage owner) nowMs) resetRuntimeOwners

variable (owners : RuntimeOwners) {f : SessionRuntimeOwnerMessage}

theorem applyRuntimeOwner_of_ne (nowMs : Nat) {key : SessionKey} (distinct : key ≠ f.key) :
    applyRuntimeOwner owners f nowMs key = owners key := by
  unfold applyRuntimeOwner
  split
  · rfl
  · rw [Function.update_of_ne distinct]

theorem applyRuntimeOwner_of_absent (nowMs : Nat) (absent : owners f.key = none) :
    applyRuntimeOwner owners f nowMs f.key = some { f with updatedAt := nowMs } := by
  simp [applyRuntimeOwner,absent]

variable (registry : Registry)

theorem replayMessage_key (key : SessionKey) (record : SessionRecord) :
    (replayMessage (registry.replayRecord key record)).key = key := by
  have ⟨provider,sessionId,_⟩ := registry.replayRecord_key key record
  simp only [SessionRuntimeOwnerMessage.key,replayMessage,provider,sessionId]

theorem fenceRefresh_of_ne {key other : SessionKey} (epoch generation nowMs : Nat) (distinct : other ≠ key) :
    applyRuntimeOwnerFenceRefresh owners key epoch generation nowMs other = owners other := by
  unfold applyRuntimeOwnerFenceRefresh
  cases owners key with
  | none => rfl
  | some existing =>
    dsimp only
    split
    · rfl
    · rw [Function.update_of_ne distinct]

variable {existing : RuntimeOwnerRecord}

/-- A refresh by a pair of the record's epoch takes its generation to the larger one. -/
theorem fenceRefresh_same_epoch {owners : RuntimeOwners} {key : SessionKey} (found : owners key = some existing)
    (generation nowMs : Nat) :
    ∃ stored, applyRuntimeOwnerFenceRefresh owners key existing.epoch generation nowMs key = some stored ∧
      stored.epoch = existing.epoch ∧ stored.generation = max existing.generation generation := by
  by_cases older : generation < existing.generation
  · exact ⟨existing,by simp [applyRuntimeOwnerFenceRefresh,found,dropsOlder,older],rfl,by omega⟩
  · refine ⟨{ existing with generation, updatedAt := nowMs },?_,rfl,by dsimp only; omega⟩
    simp [applyRuntimeOwnerFenceRefresh,found,dropsOlder,older]

theorem fenceRefresh_other_epoch {owners : RuntimeOwners} {key : SessionKey} (found : owners key = some existing)
    {epoch : Nat} (other : existing.epoch ≠ epoch) (generation nowMs : Nat) :
    ∃ stored, applyRuntimeOwnerFenceRefresh owners key epoch generation nowMs key = some stored ∧
      stored.epoch = epoch ∧ stored.generation = generation := by
  refine ⟨{ existing with epoch, generation, updatedAt := nowMs },?_,rfl,rfl⟩
  simp [applyRuntimeOwnerFenceRefresh,found,dropsOlder,other]

private theorem fold_entries (nowMs : Nat) (key : SessionKey)
    (entries : List (Sigma fun _ : SessionKey => SessionRecord)) (owners : RuntimeOwners) (nodup : entries.NodupKeys)
    (absent : ∀ entry ∈ entries, owners entry.1 = none) :
    (entries.map fun entry => registry.replayRecord entry.1 entry.2).foldl
        (fun owners owner => applyRuntimeOwner owners (replayMessage owner) nowMs) owners key =
      match entries.dlookup key with 
      | some record => some { replayMessage (registry.replayRecord key record) with updatedAt := nowMs }
      | none => owners key := by
  induction entries generalizing owners with
  | nil => rfl
  | cons entry rest ih =>
    obtain ⟨head,record⟩ := entry
    have named := replayMessage_key registry head record
    have fresh : head ∉ rest.keys := List.notMem_keys_of_nodupKeys_cons nodup
    have others {other : SessionKey} (distinct : other ≠ head) :
        applyRuntimeOwner owners (replayMessage (registry.replayRecord head record)) nowMs other = owners other :=
      applyRuntimeOwner_of_ne owners nowMs (by rwa [named])
    rw [List.map_cons,List.foldl_cons,ih _ (List.nodupKeys_of_nodupKeys_cons nodup)]
    · by_cases own : key = head
      · subst own
        have first := absent ⟨key,record⟩ (.head _)
        rw [List.dlookup_eq_none.mpr fresh,List.dlookup_cons_eq]
        have stored := applyRuntimeOwner_of_absent owners (f := replayMessage (registry.replayRecord key record)) nowMs
          (by rwa [named])
        rwa [named] at stored
      · rw [List.dlookup_cons_ne _ _ own]
        cases rest.dlookup key with
        | some other => rfl
        | none => exact others own
    · intro other member
      have distinct : other.1 ≠ head := by
        rintro rfl
        exact fresh (List.mem_keys_of_mem member)
      rw [others distinct]
      exact absent other (.tail _ member)

/-- After a handshake the client has exactly the registry's keys, each with its
    replay. -/
theorem foldReady_key (nowMs : Nat) (key : SessionKey) :
    foldReadyRuntimeOwners registry.snapshotRecords nowMs key = (registry.get key).map fun record =>
      { replayMessage (registry.replayRecord key record) with updatedAt := nowMs } := by
  unfold foldReadyRuntimeOwners Registry.snapshotRecords
  rw [fold_entries registry nowMs key _ _ registry.inner.nodupKeys (fun _ _ => rfl)]
  unfold Registry.get AList.lookup
  cases registry.inner.entries.dlookup key <;> rfl

/-- The registry, the refusals that it has sent and the client's store. A
    refusal can be folded at any later time. -/
structure Device where
  world : World
  sent : List Refusal
  owners : RuntimeOwners

/-- A call on the registry, a refusal under the pair that the registry observes
    for a key, a handshake, and the fold of a refusal that was sent. -/
inductive Event where
  | serve (op : Op)
  | refuse (key : SessionKey)
  | replay (nowMs : Nat)
  | fold (index nowMs : Nat)

namespace Device

/-- A fresh registry and whatever the client kept from other servers. -/
def start (epoch : Nat) (owners : RuntimeOwners) : Device := ⟨.mint epoch,[],owners⟩

def observe (device : Device) (key : SessionKey) : OwnershipSnapshot := device.world.registry.observe key

def step (device : Device) : Event → Device
  | .serve op =>
    ⟨device.world.step op,device.sent ++ (device.world.refusal op).toList,device.owners⟩
  | .refuse key =>
    { device with sent := device.sent ++ [⟨key,(device.observe key).epoch,(device.observe key).generation⟩] }
  | .replay nowMs => { device with owners := foldReadyRuntimeOwners device.world.registry.snapshotRecords nowMs }
  | .fold index nowMs =>
    match device.sent[index]? with
    | none => device
    | some refusal =>
      { device with
        owners := applyRuntimeOwnerFenceRefresh device.owners refusal.key refusal.epoch refusal.generation nowMs }

/-- The client folds the registry's current pair of the key: by a handshake, or
    by a refusal into a record that it has. -/
def Folds (device : Device) (key : SessionKey) : Event → Prop
  | .replay _ => (device.world.registry.get key).isSome = true
  | .fold index _ => (device.owners key).isSome = true ∧
      device.sent[index]? = some ⟨key,(device.observe key).epoch,(device.observe key).generation⟩
  | _ => False

/-- The client's pair of the key is the one that the registry observes. -/
def Holds (device : Device) (key : SessionKey) : Prop :=
  ∃ stored, device.owners key = some stored ∧ stored.epoch = (device.observe key).epoch ∧
    stored.generation = (device.observe key).generation

/-- A stop claim for the current owner under the client's pair is not stale. -/
def ClaimsFresh (device : Device) (key : SessionKey) : Prop :=
  ∀ owner generation sinceMs stored expectedRuntime operationId initiator nowMs currentEpoch currentGeneration state,
    (device.world.registry.record key).state = .live owner generation sinceMs → device.owners key = some stored →
    (expectedRuntime = none ∨ expectedRuntime = some owner) →
    device.world.reply (.beginStop key operationId
      ⟨owner.kind,expectedRuntime,⟨stored.epoch,stored.generation⟩⟩ initiator nowMs) ≠
      .stop (.staleClaim currentEpoch currentGeneration state)

/-- No pair of this epoch that was sent for the key, or that the client has, is
    past the bound. -/
def Within (device : Device) (key : SessionKey) (bound : Nat) : Prop :=
  (∀ refusal ∈ device.sent, refusal.key = key → refusal.generation ≤ bound) ∧
  ∀ stored, device.owners key = some stored → stored.epoch = device.world.registry.epoch → stored.generation ≤ bound

/-- The event is no accepted abort of a stop on the key that restores a live
    generation below a pair that was sent or folded for it. -/
def AbortsInStep (key : SessionKey) (device : Device) (event : Event) : Prop :=
  ∀ operationId generation clock owner prior heldBy initiator sinceMs,
    event = .serve (.abortStop key operationId generation clock) →
    (device.world.registry.record key).generation = generation →
    (device.world.registry.record key).state =
      .stopping (some owner) (some prior) operationId heldBy initiator sinceMs → device.Within key prior

/-- Unless the key was moved, no pair of this epoch is past its observed one. -/
structure Behind (device : Device) (key : SessionKey) : Prop where
  coherent : device.world.Coherent
  epochs : ∀ refusal ∈ device.sent, refusal.epoch = device.world.registry.epoch
  within : (device.world.registry.record key).state.isAliased = false →
    device.Within key (snapshotGeneration (device.world.registry.record key))

@[simp] theorem observe_epoch (device : Device) (key : SessionKey) :
    (device.observe key).epoch = device.world.registry.epoch := device.world.registry.observe_epoch key

@[simp] theorem observe_generation (device : Device) (key : SessionKey) :
    (device.observe key).generation = snapshotGeneration (device.world.registry.record key) :=
  device.world.registry.observe_generation key

theorem behind_start (epoch : Nat) {owners : RuntimeOwners}
    (foreign : ∀ key stored, owners key = some stored → stored.epoch ≠ epoch) (key : SessionKey) :
    (start epoch owners).Behind key := by
  refine ⟨coherent_mint epoch,by simp [start],fun _ => ⟨by simp [start],?_⟩⟩
  intro stored found same
  exact absurd same (foreign key stored found)

variable {device : Device} {refusal : Refusal}

theorem step_fold {index : Nat} (listed : device.sent[index]? = some refusal) (nowMs : Nat) :
    device.step (.fold index nowMs) = { device with
      owners := applyRuntimeOwnerFenceRefresh device.owners refusal.key refusal.epoch refusal.generation nowMs } := by
  simp only [step,listed]

theorem step_fold_none {index : Nat} (absent : device.sent[index]? = none) (nowMs : Nat) :
    device.step (.fold index nowMs) = device := by
  simp only [step,absent]

/-- A refresh by a pair of the registry's epoch leaves the client within a bound
    that both keep. -/
private theorem within_refresh {key : SessionKey} {bound : Nat} (within : device.Within key bound)
    (member : refusal ∈ device.sent) (same : refusal.epoch = device.world.registry.epoch) (nowMs : Nat)
    (stored : RuntimeOwnerRecord)
    (found : applyRuntimeOwnerFenceRefresh device.owners refusal.key refusal.epoch refusal.generation nowMs key =
      some stored) (current : stored.epoch = device.world.registry.epoch) : stored.generation ≤ bound := by
  by_cases own : key = refusal.key
  · subst own
    have bounded := within.1 refusal member rfl
    cases existing : device.owners refusal.key with
    | none => simp [applyRuntimeOwnerFenceRefresh,existing] at found
    | some before =>
      by_cases level : before.epoch = refusal.epoch
      · obtain ⟨after,stores,_,larger⟩ := fenceRefresh_same_epoch existing refusal.generation nowMs
        rw [level,found] at stores
        cases stores
        have older := within.2 before existing (level.trans same)
        omega
      · obtain ⟨after,stores,_,generation⟩ := fenceRefresh_other_epoch existing level refusal.generation nowMs
        rw [found] at stores
        cases stores
        omega
  · rw [fenceRefresh_of_ne _ _ _ _ own] at found
    exact within.2 stored found current

theorem behind_serve {key : SessionKey} {op : Op} (behind : device.Behind key)
    (inStep : AbortsInStep key device (.serve op)) : (device.step (.serve op)).Behind key := by
  have same := epoch_step device.world op
  refine ⟨coherent_step _ _ behind.coherent,?_,?_⟩
  · intro refusal member
    simp only [step,List.mem_append,Option.mem_toList,Option.mem_def] at member ⊢
    rw [same]
    rcases member with earlier | now
    · exact behind.epochs refusal earlier
    · exact (refusal_reports now).1
  · intro direct
    have before : (device.world.registry.record key).state.isAliased = false := by
      by_contra aliased
      have moved := isAliased_step op (by simpa using aliased)
      exact Bool.noConfusion (moved.symm.trans direct)
    have within := behind.within before
    cases aborts : op.aborts key with
    | false =>
      have grown := snapshot_step behind.coherent aborts
      refine ⟨?_,fun stored found current => Nat.le_trans (within.2 stored found (same ▸ current)) grown⟩
      intro refusal member own
      simp only [step,List.mem_append,Option.mem_toList,Option.mem_def] at member
      rcases member with earlier | now
      · exact Nat.le_trans (within.1 refusal earlier own) grown
      · exact Nat.le_trans (own ▸ (refusal_reports now).2) grown
    | true =>
      cases op with
      | abortStop target operationId generation clock =>
        obtain rfl : target = key := of_decide_eq_true aborts
        have stepped : device.step (.serve (.abortStop target operationId generation clock)) =
            { device with world := device.world.step (.abortStop target operationId generation clock) } := by
          simp [step,World.refusal,Op.checks]
        rcases device.world.registry.abortStop_cases target operationId generation clock with
          ⟨unchanged,_⟩ | ⟨record,owner,prior,heldBy,initiator,sinceMs,found,current,held,answered⟩
        · have registry : (device.world.step (.abortStop target operationId generation clock)).registry =
              device.world.registry := unchanged
          rw [stepped,registry]
          exact ⟨within.1,fun stored found current => within.2 stored found (same ▸ current)⟩
        · have restored := inStep operationId generation clock owner prior heldBy initiator sinceMs rfl
            (by rw [Registry.record_of_get found,current]) (by rw [Registry.record_of_get found,held])
          have observed : snapshotGeneration ((device.world.step
              (.abortStop target operationId generation clock)).registry.record target) = prior := by
            simp only [World.step,World.call,answered,Registry.record_set_self,snapshotGeneration]
          rw [stepped,observed]
          exact ⟨restored.1,fun stored found current => restored.2 stored found (same ▸ current)⟩
      | _ => cases aborts

theorem behind_step {key : SessionKey} (event : Event) (behind : device.Behind key)
    (inStep : AbortsInStep key device event) : (device.step event).Behind key := by
  cases event with
  | serve op => exact behind_serve behind inStep
  | refuse target =>
    refine ⟨behind.coherent,?_,fun direct => ⟨?_,(behind.within direct).2⟩⟩
    · intro refusal member
      rcases List.mem_append.mp member with earlier | now
      · exact behind.epochs refusal earlier
      · obtain rfl := List.mem_singleton.mp now
        exact device.observe_epoch target
    · intro refusal member own
      rcases List.mem_append.mp member with earlier | now
      · exact (behind.within direct).1 refusal earlier own
      · obtain rfl := List.mem_singleton.mp now
        subst own
        exact Nat.le_of_eq (device.observe_generation target)
  | replay nowMs =>
    refine ⟨behind.coherent,behind.epochs,fun direct => ⟨(behind.within direct).1,?_⟩⟩
    intro stored found current
    simp only [step,foldReady_key,Option.map_eq_some_iff] at found
    obtain ⟨record,recorded,rfl⟩ := found
    simp only [step,Registry.record_of_get recorded] at direct ⊢
    exact Nat.le_of_eq (Registry.replayRecord_direct _ _ _ direct)
  | fold index nowMs =>
    cases listed : device.sent[index]? with
    | none => rwa [step_fold_none listed]
    | some refusal =>
      have member := List.mem_of_getElem? listed
      rw [step_fold listed]
      refine ⟨behind.coherent,behind.epochs,fun direct => ⟨(behind.within direct).1,?_⟩⟩
      exact within_refresh (behind.within direct) member (behind.epochs refusal member) nowMs

section
variable {device : Device} {key : SessionKey} {record : SessionRecord}

theorem holds_replay (found : device.world.registry.get key = some record) (direct : record.state.isAliased = false)
    (nowMs : Nat) : (device.step (.replay nowMs)).Holds key := by
  refine ⟨{ replayMessage (device.world.registry.replayRecord key record) with updatedAt := nowMs },?_,?_,?_⟩
  · simp [step,foldReady_key,found]
  · rw [observe_epoch]
    exact (device.world.registry.replayRecord_key key record).2.2
  · rw [observe_generation]
    simp only [step,Registry.record_of_get found]
    exact Registry.replayRecord_direct _ _ _ direct

theorem holds_fold (within : device.Within key (snapshotGeneration (device.world.registry.record key)))
    {index : Nat} (has : (device.owners key).isSome = true)
    (listed : device.sent[index]? = some ⟨key,(device.observe key).epoch,(device.observe key).generation⟩)
    (nowMs : Nat) : (device.step (.fold index nowMs)).Holds key := by
  obtain ⟨existing,found⟩ := Option.isSome_iff_exists.mp has
  rw [step_fold listed]
  by_cases level : existing.epoch = (device.observe key).epoch
  · obtain ⟨stored,stores,epoch,generation⟩ := fenceRefresh_same_epoch found (device.observe key).generation nowMs
    have older := within.2 existing found (by rw [level,observe_epoch])
    rw [level] at stores
    rw [← observe_generation] at older
    exact ⟨stored,stores,epoch.trans level,generation.trans (Nat.max_eq_right older)⟩
  · obtain ⟨stored,stores,epoch,generation⟩ :=
      fenceRefresh_other_epoch found level (device.observe key).generation nowMs
    exact ⟨stored,stores,epoch,generation⟩

variable {event : Event}

theorem holds_folds (behind : device.Behind key) (found : device.world.registry.get key = some record)
    (direct : record.state.isAliased = false) (folds : device.Folds key event) : (device.step event).Holds key := by
  cases event with
  | replay nowMs => exact holds_replay found direct nowMs
  | fold index nowMs =>
    exact holds_fold (behind.within (by rwa [Registry.record_of_get found])) folds.1 folds.2 nowMs
  | _ => exact False.elim folds

theorem holds_step (behind : device.Behind key) (holds : device.Holds key)
    (found : device.world.registry.get key = some record)
    (after : (device.step event).world.registry.get key = some record) (direct : record.state.isAliased = false) :
    (device.step event).Holds key := by
  obtain ⟨stored,stores,epoch,generation⟩ := holds
  rw [observe_epoch] at epoch
  rw [observe_generation,Registry.record_of_get found] at generation
  cases event with
  | serve op =>
    refine ⟨stored,stores,?_,?_⟩
    · rw [observe_epoch]; exact epoch.trans (epoch_step device.world op).symm
    · rw [observe_generation,Registry.record_of_get after,generation]
  | refuse target =>
    refine ⟨stored,stores,?_,?_⟩
    · rw [observe_epoch]; exact epoch
    · rw [observe_generation,Registry.record_of_get after,generation]
  | replay nowMs => exact holds_replay found direct nowMs
  | fold index nowMs =>
    cases listed : device.sent[index]? with
    | none =>
      rw [step_fold_none listed]
      exact ⟨stored,stores,by rw [observe_epoch,epoch],by
        rw [observe_generation,Registry.record_of_get found,generation]⟩
    | some refusal =>
      have member := List.mem_of_getElem? listed
      rw [step_fold listed]
      by_cases own : key = refusal.key
      · subst own
        have bounded := (behind.within (by rwa [Registry.record_of_get found])).1 refusal member rfl
        rw [Registry.record_of_get found] at bounded
        obtain ⟨larger,stores',epoch',generation'⟩ := fenceRefresh_same_epoch stores refusal.generation nowMs
        rw [epoch.trans (behind.epochs refusal member).symm] at stores' epoch'
        refine ⟨larger,stores',?_,?_⟩
        · rw [observe_epoch]; exact epoch'.trans (behind.epochs refusal member)
        · rw [observe_generation,Registry.record_of_get found,generation',generation]
          exact Nat.max_eq_left bounded
      · refine ⟨stored,?_,by rw [observe_epoch]; exact epoch,?_⟩
        · dsimp only
          rw [fenceRefresh_of_ne _ _ _ _ own,stores]
        · rw [observe_generation,Registry.record_of_get found,generation]

/-- A client that holds the pair of a live key makes a stop claim that is not stale. -/
theorem claimsFresh_of_holds (holds : device.Holds key) : device.ClaimsFresh key := by
  obtain ⟨stored',stores',epoch,level⟩ := holds
  intro owner generation sinceMs stored expectedRuntime operationId initiator nowMs currentEpoch currentGeneration
    state live stores names stale
  obtain rfl := Option.some.inj (stores'.symm.trans stores)
  rw [observe_epoch] at epoch
  simp only [observe_generation,snapshotGeneration,live] at level
  have found := Registry.get_of_not_vacant (show (device.world.registry.record key).state ≠ .vacant by simp [live])
  have own (observed : ObservedFence) :
      (StopClaim.mk owner.kind expectedRuntime observed).identityMismatch owner = false := by
    rcases names with rfl | rfl <;> simp [StopClaim.identityMismatch,OwnerIdentity.sameRuntime]
  have answered := Reply.stop.inj stale
  generalize device.world.registry.record key = current at live found
  simp only [Registry.beginStop,found,live,epoch,level,own] at answered
  split at answered
  · cases answered
  · simp at answered

end

/-- In every run, once the client folded the current pair of a key that was not
    moved, it holds the pair that the registry observes and its stop claims are
    not stale as long as the key's record does not change. A handshake gives it,
    for a key that was moved, the pair of the canonical key. -/
structure Converges (start : Device) (key : SessionKey) (events : List Event) : Prop where
  direct : ∀ history event future record, events = history ++ event :: future →
    (run step start history).world.registry.get key = some record → record.state.isAliased = false →
    (run step start history).Folds key event →
    (∀ before, before <+: future →
      (run step start (history ++ event :: before)).world.registry.get key = some record) →
    (run step start events).Holds key ∧ (run step start events).ClaimsFresh key
  moved : ∀ history nowMs future record toId generation resolved, events = history ++ .replay nowMs :: future →
    let registry := (run step start history).world.registry
    let canonical := registry.resolveCanonical key.provider toId
    registry.get key = some record → record.state = .aliased toId generation →
    registry.get ⟨key.provider,canonical⟩ = some resolved →
    ∃ stored, (run step start (history ++ [.replay nowMs])).owners key = some stored ∧
      stored.aliasOf = some canonical ∧ stored.epoch = (registry.observe ⟨key.provider,canonical⟩).epoch ∧
      stored.generation = (registry.observe ⟨key.provider,canonical⟩).generation

theorem behind_run {start : Device} {key : SessionKey} (initial : start.Behind key) {events : List Event}
    (inStep : Along step (AbortsInStep key) start events) : (run step start events).Behind key := by
  have kept (device : Device) (event : Event) (behind : device.Behind key) (inStep : AbortsInStep key device event) :
      (device.step event).Behind key := behind_step event behind inStep
  exact invariant_run kept initial inStep

/-- A client that starts without records of this epoch converges on every key
    whose aborts restore no generation below a pair sent or folded before. -/
theorem client_fences_converge (epoch : Nat) (owners : RuntimeOwners)
    (foreign : ∀ key stored, owners key = some stored → stored.epoch ≠ epoch) (key : SessionKey) (events : List Event)
    (inStep : Along step (AbortsInStep key) (start epoch owners) events) :
    Converges (start epoch owners) key events := by
  refine ⟨?_,?_⟩
  · rintro history event future record rfl found direct folds unchanged
    have ⟨past,along⟩ := (along_append _ _ _ _ _).mp inStep
    have behind := behind_run (behind_start epoch foreign key) past
    rw [run_append,run_cons]
    simp only [run_append,run_cons] at unchanged
    generalize run step (start epoch owners) history = device at *
    have folded := holds_folds behind found direct folds
    have recorded : Along step (fun device event => device.world.registry.get key = some record ∧
        (device.step event).world.registry.get key = some record) (device.step event) future :=
      along_of_prefixes (fun _ _ before after => ⟨before,after⟩) unchanged
    have kept (device : Device) (event : Event) (holds : device.Behind key ∧ device.Holds key)
        (condition : AbortsInStep key device event ∧ device.world.registry.get key = some record ∧
          (device.step event).world.registry.get key = some record) :
        (device.step event).Behind key ∧ (device.step event).Holds key :=
      ⟨behind_step event holds.1 condition.1,holds_step holds.1 holds.2 condition.2.1 condition.2.2 direct⟩
    have ⟨_,holds⟩ := invariant_run kept ⟨behind_step event behind along.1,folded⟩ (along_and along.2 recorded)
    exact ⟨holds,claimsFresh_of_holds holds⟩
  · rintro history nowMs future record toId generation resolved rfl registry canonical found held target
    refine ⟨{ replayMessage (registry.replayRecord key record) with updatedAt := nowMs },?_,?_,?_,?_⟩
    · rw [run_append]
      simp only [run_cons,run_nil,step,foldReady_key]
      rw [found]
      rfl
    · exact (registry.replayRecord_aliased key held target).1
    · rw [Registry.observe_epoch]
      exact (registry.replayRecord_key key record).2.2
    · rw [Registry.observe_generation,Registry.record_of_get target]
      exact (registry.replayRecord_aliased key held target).2

/-- A handshake in the middle of a stop that is granted after the client folded
    a refusal of its first claim. -/
theorem client_fences_converge_codex :
    let key : SessionKey := ⟨"codex","s"⟩
    let owner : OwnerIdentity := ⟨.terminal,some "term-1",none,none,none⟩
    let events : List Event := [.serve (.beginStart key .terminal "start-1" none "device" 0 none),
      .serve (.commitLive key "start-1" 1 owner 0), .replay 1,
      .serve (.beginStop key "stop-1" ⟨.terminal,none,⟨7,0⟩⟩ "device" 2), .fold 0 3]
    Converges (start 7 resetRuntimeOwners) key events := by
  intro key owner events
  refine client_fences_converge 7 resetRuntimeOwners (fun _ _ found => nomatch found) key events ?_
  refine ⟨?_,?_,?_,?_,?_,trivial⟩ <;> rintro _ _ _ _ _ _ _ _ ⟨⟩

private theorem not_holds {key : SessionKey} {generation : Nat}
    (stores : (device.owners key).map (·.generation) = some generation)
    (other : (device.observe key).generation ≠ generation) : ¬ device.Holds key := by
  rintro ⟨stored,found,_,level⟩
  rw [found] at stores
  exact other (level.symm.trans (Option.some.inj stores))

/-- A moved key replays the pair of its canonical key, not the one observed for
    it. And a client that folded a handshake during a stop keeps the stopping
    generation after the abort restored the older live one: it drops the current
    pair of each refusal, and its next claim is refused as stale again. -/
theorem abortedStop_diverges :
    let key : SessionKey := ⟨"codex","s"⟩
    let owner : OwnerIdentity := ⟨.terminal,some "term-1",some "live",none,none⟩
    let live : List Event := [.serve (.beginStart key .terminal "start-1" none "device" 0 none),
      .serve (.commitLive key "start-1" 1 owner 0)]
    let moved := run step (start 7 resetRuntimeOwners) (live ++ [.serve (.rekeyLive "codex" "s" "t" "live" owner 0),
      .serve (.beginStop ⟨"codex","t"⟩ "stop-1" ⟨.terminal,none,⟨7,2⟩⟩ "device" 0)])
    let aborted := run step (start 7 resetRuntimeOwners) (live ++
      [.serve (.beginStop key "stop-1" ⟨.terminal,none,⟨7,1⟩⟩ "device" 0), .replay 1,
        .serve (.abortStop key "stop-1" 2 2), .serve (.beginStop key "stop-2" ⟨.terminal,none,⟨7,2⟩⟩ "device" 3)])
    (moved.Folds key (.replay 1) ∧ ¬ (moved.step (.replay 1)).Holds key) ∧
    aborted.Folds key (.fold 0 4) ∧ ¬ (aborted.step (.fold 0 4)).Holds key ∧
      ¬ (aborted.step (.fold 0 4)).ClaimsFresh key := by
  intro key owner live moved aborted
  have behind : ((moved.step (.replay 1)).owners key).map (·.generation) = some 3 := by decide
  have ahead : ((aborted.step (.fold 0 4)).owners key).map (·.generation) = some 2 := by decide
  have pair : ((aborted.step (.fold 0 4)).owners key).map (fun stored => (stored.epoch,stored.generation)) =
      some (7,2) := by decide
  refine ⟨⟨by change (_ : Bool) = true; decide,not_holds behind (by decide)⟩,⟨by decide,by decide⟩,
    not_holds ahead (by decide),?_⟩
  intro fresh
  obtain ⟨stored,found,same⟩ := Option.map_eq_some_iff.mp pair
  have ⟨epoch,generation⟩ := Prod.mk.inj same
  refine fresh (owner.stamped "start-1") 1 2 stored none "stop-3" "device" 5 7 1 (.live (owner.stamped "start-1") 1 2)
    (by decide) found (.inl rfl) ?_
  rw [epoch,generation]
  rfl

end Device
end Freshell.Ownership
