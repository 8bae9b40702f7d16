import Freshell.Ownership.Generations

/-!
Commits against grants. The ledger gives every new grant of a run an identity
and keeps the latest one of each key, which a rekeyed start takes with it; a
commit that the registry accepts spends the latest grant of its key, and no
grant is spent twice.
-/
namespace Freshell.Ownership
open Freshell.Library.Runs
set_option linter.unusedSimpArgs false

def Op.commits : Op → Option Grant
  | .commitLive key operationId generation _ _ => some ⟨key,operationId,generation⟩
  | .commitLiveRekey provider oldId _ operationId generation _ _ => some ⟨⟨provider,oldId⟩,operationId,generation⟩
  | .commitLiveRekeyFromTerminal provider newId operationId generation _ _ _ _ =>
    some ⟨⟨provider,newId⟩,operationId,generation⟩
  | _ => none

/-- The claim that a rekey of a start names, and the key that it moves it to. -/
def Op.carries : Op → Option (Grant × SessionKey)
  | .rekeyStarting provider oldId newId operationId generation =>
    some (⟨⟨provider,oldId⟩,operationId,generation⟩,⟨provider,newId⟩)
  | _ => none

def Reply.isCommitted : Reply → Bool
  | .commit .committed => true
  | _ => false

def World.committed (world : World) (op : Op) : Option Grant :=
  if (world.reply op).isCommitted then op.commits else none

/-- The started claim that a call moves to another key. -/
def World.carried (world : World) (op : Op) : Option (Grant × SessionKey) :=
  if (world.reply op).isCommitted then op.carries else none

/-- The record of a key is started or handed off under this operation and generation. -/
def World.InFlight (world : World) (grant : Grant) : Prop :=
  (world.registry.record grant.key).state.isClaimed = true ∧
  (world.registry.record grant.key).state.operationId = some grant.operationId ∧
  (world.registry.record grant.key).generation = grant.generation

variable {world : World} {op : Op}

theorem World.isCommitted_iff : (world.reply op).isCommitted = true ↔ world.reply op = .commit .committed := by
  cases world.reply op with
  | commit outcome => cases outcome <;> simp [Reply.isCommitted]
  | _ => simp [Reply.isCommitted]

variable {grant : Grant}

theorem committed_cases (coherent : world.Coherent) (committed : world.committed op = some grant) :
    world.InFlight grant ∧ ((world.step op).registry.record grant.key).state.isClaimed = false := by
  obtain ⟨accepted,named⟩ := Option.ite_none_right_eq_some.mp committed
  rw [World.isCommitted_iff] at accepted
  cases op with
  | commitLive key operationId generation owner clock =>
    cases named
    rcases world.registry.commitLive_cases key operationId generation owner clock with
      ⟨_,refused⟩ | ⟨record,found,rfl,commits,answered⟩
    · exact absurd (Reply.commit.inj accepted) refused
    · rw [World.InFlight,Registry.record_of_get found]
      simp only [World.step,World.call,answered,Registry.record_set_self,OwnershipState.isClaimed,and_true]
      rcases OwnershipState.heldBy_of_commits commits with ⟨_,_,_,_,held⟩ | ⟨_,_,_,_,_,held⟩ <;>
        simp [held,OwnershipState.isClaimed,OwnershipState.operationId]
  | commitLiveRekey provider oldId newId operationId generation owner clock =>
    cases named
    rcases world.registry.commitLiveRekey_cases provider oldId newId operationId generation owner clock with
      ⟨_,refused⟩ | ⟨record,kind,gen,initiator,sinceMs,found,rfl,held,absent,answered⟩
    · exact absurd (Reply.commit.inj accepted) refused
    · rw [World.InFlight,Registry.record_of_get found]
      simp [World.step,World.call,answered,Registry.ne_of_recorded found absent,held,OwnershipState.isClaimed,
        OwnershipState.operationId]
  | commitLiveRekeyFromTerminal provider newId operationId generation oldId expectedTerminalId owner clock =>
    cases named
    rcases world.registry.commitLiveRekeyFromTerminal_cases provider newId operationId generation oldId
        expectedTerminalId owner clock with
      ⟨_,refused⟩ | ⟨newRecord,oldRecord,kind,initiator,startedMs,oldOwner,oldGeneration,sinceMs,found,held,foundOld,
        heldOld,_,_,answered⟩
    · exact absurd (Reply.commit.inj accepted) refused
    · have distinct : (⟨provider,newId⟩ : SessionKey) ≠ ⟨provider,oldId⟩ := by
        intro same
        rw [same,foundOld,Option.some.injEq] at found
        simp [found,held] at heldOld
      have current : generation = newRecord.generation := by
        simpa only [SessionRecord.Coherent,held] using coherent _ _ found
      rw [World.InFlight,Registry.record_of_get found]
      refine ⟨⟨?_,?_,current.symm⟩,?_⟩
      · simp [held,OwnershipState.isClaimed]
      · simp [held,OwnershipState.operationId]
      · simp [World.step,World.call,answered,distinct,OwnershipState.isClaimed]
  | _ => cases named

theorem carried_cases {newKey : SessionKey} (carried : world.carried op = some (grant,newKey)) :
    world.InFlight grant ∧ world.registry.get newKey = none ∧
      (world.step op).registry.record newKey = world.registry.record grant.key ∧
      ((world.step op).registry.record grant.key).state.isClaimed = false := by
  obtain ⟨accepted,named⟩ := Option.ite_none_right_eq_some.mp carried
  rw [World.isCommitted_iff] at accepted
  cases op with
  | rekeyStarting provider oldId newId operationId generation =>
    cases named
    rcases world.registry.rekeyStarting_cases provider oldId newId operationId generation with
      ⟨_,refused⟩ | ⟨record,kind,gen,initiator,sinceMs,found,rfl,held,absent,answered⟩
    · exact absurd (Reply.commit.inj accepted) refused
    · rw [World.InFlight,Registry.record_of_get found]
      simp [World.step,World.call,answered,Registry.ne_of_recorded found absent,held,absent,OwnershipState.isClaimed,
        OwnershipState.operationId,SessionRecord.fresh]
  | _ => cases named

/-- A record that is in flight after a call was newly granted or moved in by it,
    or was in flight under the same claim before. -/
theorem inFlight_step {key : SessionKey} (claimed : ((world.step op).registry.record key).state.isClaimed = true) :
    (∃ grant, world.newGrant op = some grant ∧ grant.key = key ∧ (world.step op).InFlight grant) ∨
    (∃ grant, world.carried op = some (grant,key)) ∨
    ∀ grant, grant.key = key → (world.step op).InFlight grant → world.InFlight grant := by
  rcases step_get world op key with same | ⟨record,found,move⟩
  · right; right
    rintro grant rfl
    simp only [World.InFlight,record_step same]
    exact id
  · have after := Registry.record_of_get found
    rw [after] at claimed
    cases move with
    | @startGranted _ kind operationId observed initiator nowMs window fresh held free =>
      left
      have answered : (world.registry.beginStartInner key kind operationId observed initiator nowMs window).1 =
          .granted ((world.registry.record key).generation + 1) := by
        rcases free with free | windowed
        · simp [Registry.beginStartInner,fresh,held,free]
        · simp [Registry.beginStartInner,fresh,held,windowed]
      refine ⟨⟨key,operationId,(world.registry.record key).generation + 1⟩,?_,rfl,?_⟩
      · simp [World.newGrant,World.grant,Op.claims,World.reply,World.call,answered,Reply.granted,held,
          OwnershipState.isClaimed]
      · simp [World.InFlight,after,OwnershipState.isClaimed,OwnershipState.operationId]
    | @handoffGranted _ toKind operationId observed initiator nowMs prior fresh held free =>
      left
      have answered : (world.registry.beginHandoff key toKind operationId observed initiator nowMs).1 =
          .granted ((world.registry.record key).generation + 1) := by
        rcases held with ⟨held,_⟩ | ⟨owner,generation,sinceMs,held,_⟩ <;>
          simp [Registry.beginHandoff,fresh,held,free]
      have before : (world.registry.record key).state.isClaimed = false := by
        rcases held with ⟨held,_⟩ | ⟨owner,generation,sinceMs,held,_⟩ <;> simp [held,OwnershipState.isClaimed]
      refine ⟨⟨key,operationId,(world.registry.record key).generation + 1⟩,?_,rfl,?_⟩
      · simp [World.newGrant,World.grant,Op.claims,World.reply,World.call,answered,Reply.granted,before]
      · simp [World.InFlight,after,OwnershipState.isClaimed,OwnershipState.operationId]
    | @acknowledged _ toKind operationId observed initiator nowMs old prior fencedBy generation heldBy sinceMs found'
        exactly held =>
      left
      have recorded := Registry.record_of_get found'
      have answered : (world.registry.beginHandoffAcknowledgedClearedUnverified key toKind operationId observed
          initiator nowMs).1 = .granted (old.generation + 1) := by
        simp [Registry.beginHandoffAcknowledgedClearedUnverified,found',exactly,held]
      refine ⟨⟨key,operationId,old.generation + 1⟩,?_,rfl,?_⟩
      · simp [World.newGrant,World.grant,Op.claims,World.reply,World.call,answered,Reply.granted,recorded,held,
          OwnershipState.isClaimed]
      · simp [World.InFlight,after,OwnershipState.isClaimed,OwnershipState.operationId]
    | @startMovedIn provider oldId newId operationId _ _ _ _ _ found' held absent =>
      right; left
      have answered : (world.registry.rekeyStarting provider oldId newId operationId record.generation).1 =
          .committed :=
        Registry.rekeyStarting_committed_iff.mpr ⟨_,_,_,_,_,found',rfl,held,absent⟩
      exact ⟨⟨⟨provider,oldId⟩,operationId,record.generation⟩,by
        simp [World.carried,World.reply,World.call,answered,Reply.isCommitted,Op.carries]⟩
    | startRegistered found' held | partialRegistered found' held =>
      right; right
      rintro grant rfl
      simp only [World.InFlight,after,Registry.record_of_get found']
      exact id
    | windowClosed listed outstanding found' =>
      right; right
      intro grant same
      simp only [World.InFlight,same,after,Registry.record_of_get found',SessionRecord.closeWindow]
      exact id
    | stopRegistered found' held | attachArmed found' held | adoptArmed found' held =>
      simp [held,OwnershipState.isClaimed,SessionRecord.arm] at claimed
    | _ => simp [OwnershipState.isClaimed,SessionRecord.fresh] at claimed

structure Entry where
  id : Nat
  operationId : String
  generation : Nat

/-- The world with the latest grant of each key, the number of grants issued
    and the grants that were committed. -/
structure Ledger where
  world : World
  latest : SessionKey → Option Entry
  issued : Nat
  committed : List Nat

namespace Ledger

def mint (epoch : Nat) : Ledger := ⟨.mint epoch,fun _ => none,0,[]⟩

/-- A new grant is the latest of its key, a rekeyed start takes the latest
    grant along, and an accepted commit spends the latest grant of its key. -/
def step (ledger : Ledger) (op : Op) : Ledger :=
  match ledger.world.newGrant op,ledger.world.carried op with
  | some grant,_ =>
    ⟨ledger.world.step op,
      Function.update ledger.latest grant.key (some ⟨ledger.issued,grant.operationId,grant.generation⟩),
      ledger.issued + 1,ledger.committed⟩
  | none,some (grant,newKey) =>
    ⟨ledger.world.step op,Function.update ledger.latest newKey (ledger.latest grant.key),ledger.issued,
      ledger.committed⟩
  | none,none =>
    ⟨ledger.world.step op,ledger.latest,ledger.issued,
      ((ledger.world.committed op).bind fun grant => (ledger.latest grant.key).map (·.id)).toList ++ ledger.committed⟩

def CommitsLatest (ledger : Ledger) (op : Op) : Prop :=
  ∀ grant, ledger.world.committed op = some grant →
    ∃ entry, ledger.latest grant.key = some entry ∧ entry.operationId = grant.operationId ∧
      entry.generation = grant.generation ∧ entry.id ∉ ledger.committed

/-- Every record in flight is under the latest grant of its key, not committed
    yet, and no two records are in flight under one grant. -/
structure Sound (ledger : Ledger) : Prop where
  coherent : ledger.world.Coherent
  claimed : ∀ key, (ledger.world.registry.record key).state.isClaimed = true →
    ∃ entry, ledger.latest key = some entry ∧ ledger.world.InFlight ⟨key,entry.operationId,entry.generation⟩ ∧
      entry.id ∉ ledger.committed
  latest : ∀ key entry, ledger.latest key = some entry → entry.id < ledger.issued
  committed : ∀ id ∈ ledger.committed, id < ledger.issued
  distinct : ∀ key other entry entry', (ledger.world.registry.record key).state.isClaimed = true →
    (ledger.world.registry.record other).state.isClaimed = true → ledger.latest key = some entry →
    ledger.latest other = some entry' → entry.id = entry'.id → key = other

theorem sound_mint (epoch : Nat) : (mint epoch).Sound := by
  refine ⟨coherent_mint epoch,?_,?_,?_,?_⟩ <;>
    simp [mint,World.mint,Registry.record,SessionRecord.default,OwnershipState.isClaimed]

private theorem inFlight_of_claimed {world : World} {key : SessionKey}
    (claimed : (world.registry.record key).state.isClaimed = true) : ∃ grant, grant.key = key ∧ world.InFlight grant := by
  have under (operationId : String) (held : (world.registry.record key).state.operationId = some operationId) :
      ∃ grant, grant.key = key ∧ world.InFlight grant :=
    ⟨⟨key,operationId,(world.registry.record key).generation⟩,rfl,claimed,held,rfl⟩
  cases held : (world.registry.record key).state with
  | starting kind operationId | handoff prior toKind operationId => exact under operationId (by rw [held]; rfl)
  | _ => simp [held,OwnershipState.isClaimed] at claimed

section
variable {ledger : Ledger} {op : Op}

private theorem entry_kept (sound : ledger.Sound) {key : SessionKey}
    (claimed : ((ledger.world.step op).registry.record key).state.isClaimed = true)
    (kept : ∀ grant, grant.key = key → (ledger.world.step op).InFlight grant → ledger.world.InFlight grant) :
    (ledger.world.registry.record key).state.isClaimed = true ∧
      ∃ entry, ledger.latest key = some entry ∧
        (ledger.world.step op).InFlight ⟨key,entry.operationId,entry.generation⟩ ∧ entry.id ∉ ledger.committed := by
  obtain ⟨grant,rfl,after⟩ := inFlight_of_claimed claimed
  have before := kept grant rfl after
  obtain ⟨entry,latest,⟨_,operation,current⟩,unspent⟩ := sound.claimed grant.key before.1
  refine ⟨before.1,entry,latest,⟨claimed,?_,?_⟩,unspent⟩
  · rw [after.2.1,← operation,before.2.1]
  · rw [after.2.2,← current,before.2.2]

variable {grant : Grant}

private theorem not_carried_of_newGrant {world : World} (granted : world.newGrant op = some grant) :
    world.carried op = none := by
  cases op with
  | rekeyStarting => simp [World.newGrant,World.grant,Op.claims] at granted
  | _ => simp [World.carried,Op.carries]

private theorem sound_granted (sound : ledger.Sound) (granted : ledger.world.newGrant op = some grant) :
    (ledger.step op).Sound := by
  have stepped : ledger.step op = ⟨ledger.world.step op,
      Function.update ledger.latest grant.key (some ⟨ledger.issued,grant.operationId,grant.generation⟩),
      ledger.issued + 1,ledger.committed⟩ := by
    simp only [step,granted]
  have free := (grant_of_newGrant granted).2
  -- a claim on another key was in flight before
  have others (key : SessionKey) (distinct : key ≠ grant.key)
      (claimed : ((ledger.world.step op).registry.record key).state.isClaimed = true) :=
    entry_kept sound claimed <| by
      rcases inFlight_step claimed with ⟨other,granted',same,_⟩ | ⟨other,carried⟩ | kept
      · rw [granted] at granted'; cases granted'; exact absurd same.symm distinct
      · rw [not_carried_of_newGrant granted] at carried; cases carried
      · exact kept
  rw [stepped]
  refine ⟨coherent_step _ _ sound.coherent,?_,?_,?_,?_⟩
  · intro key claimed
    by_cases own : key = grant.key
    · subst own
      refine ⟨⟨ledger.issued,grant.operationId,grant.generation⟩,by simp,?_,fun spent =>
        Nat.lt_irrefl _ (sound.committed _ spent)⟩
      rcases inFlight_step claimed with ⟨other,granted',same,entered⟩ | ⟨other,carried⟩ | kept
      · rw [granted] at granted'; cases granted'; exact entered
      · rw [not_carried_of_newGrant granted] at carried; cases carried
      · have before := (entry_kept sound claimed kept).1
        rw [free] at before
        cases before
    · have ⟨_,entry,latest,entered,unspent⟩ := others key own claimed
      exact ⟨entry,by simp [own,latest],entered,unspent⟩
  · intro key entry latest
    by_cases own : key = grant.key
    · subst own
      simp only [Function.update_self,Option.some.injEq] at latest
      rw [← latest]
      exact Nat.lt_succ_self _
    · exact Nat.lt_succ_of_lt (sound.latest key entry (by simpa [own] using latest))
  · exact fun id spent => Nat.lt_succ_of_lt (sound.committed id spent)
  · intro key other entry entry' claimed claimed' latest latest' same
    by_cases own : key = grant.key <;> by_cases own' : other = grant.key
    · rw [own,own']
    · simp only [own,Function.update_self,Option.some.injEq] at latest
      have older := sound.latest other entry' (by simpa [own'] using latest')
      rw [← same,← latest] at older
      exact absurd older (Nat.lt_irrefl _)
    · simp only [own',Function.update_self,Option.some.injEq] at latest'
      have older := sound.latest key entry (by simpa [own] using latest)
      rw [same,← latest'] at older
      exact absurd older (Nat.lt_irrefl _)
    · exact sound.distinct key other entry entry' (others key own claimed).1 (others other own' claimed').1
        (by simpa [own] using latest) (by simpa [own'] using latest') same

/-- A rekeyed start keeps its entry under the new key, and the old key is no
    longer in flight. -/
private theorem sound_carried (sound : ledger.Sound) {newKey : SessionKey} (old : ledger.world.newGrant op = none)
    (carried : ledger.world.carried op = some (grant,newKey)) : (ledger.step op).Sound := by
  have stepped : ledger.step op = ⟨ledger.world.step op,
      Function.update ledger.latest newKey (ledger.latest grant.key),ledger.issued,ledger.committed⟩ := by
    simp only [step,old,carried]
  have ⟨before,absent,moved,left⟩ := carried_cases carried
  have others (key : SessionKey) (distinct : key ≠ newKey)
      (claimed : ((ledger.world.step op).registry.record key).state.isClaimed = true) :=
    entry_kept sound claimed <| by
      rcases inFlight_step claimed with ⟨other,granted,_⟩ | ⟨other,carried'⟩ | kept
      · rw [old] at granted; cases granted
      · rw [carried] at carried'; cases carried'; exact absurd rfl distinct
      · exact kept
  obtain ⟨moving,latestMoving,⟨_,operation,current⟩,unspentMoving⟩ := sound.claimed grant.key before.1
  -- another claim in flight cannot share the moved grant, whose old key is free now
  have apart (key : SessionKey) (entry : Entry) (distinct : key ≠ newKey)
      (claimed : ((ledger.world.step op).registry.record key).state.isClaimed = true)
      (latest : ledger.latest key = some entry) : moving.id ≠ entry.id := by
    intro same
    have := sound.distinct grant.key key moving entry before.1 (others key distinct claimed).1 latestMoving latest same
    rw [← this,left] at claimed
    cases claimed
  rw [stepped]
  refine ⟨coherent_step _ _ sound.coherent,?_,?_,sound.committed,?_⟩
  · intro key claimed
    by_cases own : key = newKey
    · subst own
      refine ⟨moving,by simpa using latestMoving,⟨claimed,?_,?_⟩,unspentMoving⟩
      · rw [moved]; exact operation
      · rw [moved]; exact current
    · have ⟨_,entry,latest,entered,unspent⟩ := others key own claimed
      exact ⟨entry,by simp [own,latest],entered,unspent⟩
  · intro key entry latest
    by_cases own : key = newKey
    · subst own
      exact sound.latest grant.key entry (by simpa using latest)
    · exact sound.latest key entry (by simpa [own] using latest)
  · intro key other entry entry' claimed claimed' latest latest' same
    by_cases own : key = newKey <;> by_cases own' : other = newKey
    · rw [own,own']
    · simp only [own,Function.update_self,latestMoving,Option.some.injEq] at latest
      exact absurd (latest ▸ same) (apart other entry' own' claimed' (by simpa [own'] using latest'))
    · simp only [own',Function.update_self,latestMoving,Option.some.injEq] at latest'
      exact absurd (latest' ▸ same).symm (apart key entry own claimed (by simpa [own] using latest))
    · exact sound.distinct key other entry entry' (others key own claimed).1 (others other own' claimed').1
        (by simpa [own] using latest) (by simpa [own'] using latest') same

/-- Every other call leaves each claim in flight its entry; an accepted commit
    spends the entry of a claim that is no longer in flight. -/
private theorem sound_kept (sound : ledger.Sound) (old : ledger.world.newGrant op = none)
    (stays : ledger.world.carried op = none) : (ledger.step op).Sound := by
  let spent := ((ledger.world.committed op).bind fun grant => (ledger.latest grant.key).map (·.id)).toList
  have stepped : ledger.step op = ⟨ledger.world.step op,ledger.latest,ledger.issued,spent ++ ledger.committed⟩ := by
    simp only [step,old,stays,spent]
  have spent_iff (id : Nat) : id ∈ spent ↔
      ∃ grant, ledger.world.committed op = some grant ∧ ∃ entry, ledger.latest grant.key = some entry ∧ entry.id = id := by
    simp [spent,Option.bind_eq_some_iff]
  have keeps (key : SessionKey) (claimed : ((ledger.world.step op).registry.record key).state.isClaimed = true) :=
    entry_kept sound claimed <| by
      rcases inFlight_step claimed with ⟨other,granted,_⟩ | ⟨other,carried⟩ | kept
      · rw [old] at granted; cases granted
      · rw [stays] at carried; cases carried
      · exact kept
  rw [stepped]
  refine ⟨coherent_step _ _ sound.coherent,?_,sound.latest,?_,?_⟩
  · intro key claimed
    have ⟨before,entry,latest,entered,unspent⟩ := keeps key claimed
    refine ⟨entry,latest,entered,?_⟩
    rw [List.mem_append,spent_iff]
    rintro (⟨grant,committed,entry',latest',same⟩ | earlier)
    · have ⟨inFlight,concluded⟩ := committed_cases sound.coherent committed
      rw [sound.distinct grant.key key entry' entry inFlight.1 before latest' latest same,claimed] at concluded
      cases concluded
    · exact unspent earlier
  · intro id member
    rcases List.mem_append.mp member with now | earlier
    · obtain ⟨grant,_,entry,latest,rfl⟩ := (spent_iff id).mp now
      exact sound.latest grant.key entry latest
    · exact sound.committed id earlier
  · intro key other entry entry' claimed claimed' latest latest' same
    exact sound.distinct key other entry entry' (keeps key claimed).1 (keeps other claimed').1 latest latest' same

theorem sound_step (sound : ledger.Sound) : (ledger.step op).Sound := by
  cases granted : ledger.world.newGrant op with
  | some grant => exact sound_granted sound granted
  | none =>
    cases carried : ledger.world.carried op with
    | some moved => exact sound_carried sound granted carried
    | none => exact sound_kept sound granted carried

end

theorem commitsLatest_of_sound {ledger : Ledger} (sound : ledger.Sound) (op : Op) : ledger.CommitsLatest op := by
  intro grant committed
  have ⟨⟨claimed,operation,current⟩,_⟩ := committed_cases sound.coherent committed
  obtain ⟨entry,latest,⟨_,operation',current'⟩,unspent⟩ := sound.claimed grant.key claimed
  rw [operation] at operation'
  exact ⟨entry,latest,(Option.some.inj operation').symm,current'.symm.trans current,unspent⟩

end Ledger
end Freshell.Ownership
