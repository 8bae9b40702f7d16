import Freshell.Ownership.Generations

/-!
What the registry tells its clients about a key: the observed pair, the replay
of every record on a handshake, and the pair that a typed refusal carries. A
key's observed generation goes back only when an abort restores the live era
that a stop had left.
-/
namespace Freshell.Ownership
open Freshell.Library.Runs
set_option linter.unusedSimpArgs false

inductive ReplayOwnerState where
  | live | fenced | starting | handoff | stopping
deriving DecidableEq, Repr

/-- The part of a replay record that is read off one state. -/
structure ReplayFields where
  ownerKind : String
  terminalId : Option String
  state : ReplayOwnerState
  reason : Option String
deriving DecidableEq, Repr

def replayFieldsFor : OwnershipState → ReplayFields
  | .vacant | .aliased _ _ => ⟨"vacant",none,.live,none⟩
  | .live owner _ _ => ⟨kindWire owner.kind,owner.terminalId,.live,none⟩
  | .starting kind _ _ _ _ => ⟨kindWire kind,none,.starting,none⟩
  | .handoff _ toKind _ _ _ _ => ⟨kindWire toKind,none,.handoff,none⟩
  | .stopping (some owner) _ _ _ _ _ => ⟨kindWire owner.kind,owner.terminalId,.stopping,none⟩
  | .stopping none _ _ _ _ _ => ⟨"vacant",none,.stopping,none⟩
  | .fenced (some (owner,_)) reason _ _ _ _ =>
    ⟨kindWire owner.kind,owner.terminalId,.fenced,some reason.wireStr⟩
  | .fenced none reason _ _ _ _ => ⟨"vacant",none,.fenced,some reason.wireStr⟩

structure RuntimeOwnerReplayRecord extends ReplayFields where
  provider : String
  sessionId : String
  epoch : Nat
  generation : Nat
  aliasOf : Option String
deriving DecidableEq, Repr

namespace Registry

def observe (registry : Registry) (key : SessionKey) : OwnershipSnapshot :=
  match registry.get key with
  | some record => ⟨registry.epoch,snapshotGeneration record,record.state⟩
  | none => ⟨registry.epoch,0,.vacant⟩

def replayRecord (registry : Registry) (key : SessionKey) (record : SessionRecord) : RuntimeOwnerReplayRecord :=
  match record.state with
  | .aliased toId _ =>
    let canonical := registry.resolveCanonical key.provider toId
    match registry.get ⟨key.provider,canonical⟩ with
    | some resolved =>
      { replayFieldsFor resolved.state with
        provider := key.provider
        sessionId := key.sessionId
        epoch := registry.epoch
        generation := snapshotGeneration resolved
        aliasOf := some canonical }
    | none =>
      { replayFieldsFor .vacant with
        provider := key.provider
        sessionId := key.sessionId
        epoch := registry.epoch
        generation := snapshotGeneration record
        aliasOf := some canonical }
  | state =>
    { replayFieldsFor state with
      provider := key.provider
      sessionId := key.sessionId
      epoch := registry.epoch
      generation := snapshotGeneration record
      aliasOf := none }

/-- Every recorded key's replay, for the handshake. -/
def snapshotRecords (registry : Registry) : List RuntimeOwnerReplayRecord :=
  registry.inner.entries.map fun entry => registry.replayRecord entry.1 entry.2

variable (registry : Registry) (key : SessionKey)

theorem observe_epoch : (registry.observe key).epoch = registry.epoch := by
  unfold observe
  split <;> rfl

theorem observe_generation : (registry.observe key).generation = snapshotGeneration (registry.record key) := by
  unfold observe Registry.record
  cases registry.get key <;> rfl

end Registry

variable (registry : Registry) (key : SessionKey) (record : SessionRecord)

@[simp] theorem Registry.replayRecord_key : (registry.replayRecord key record).provider = key.provider ∧
      (registry.replayRecord key record).sessionId = key.sessionId ∧
      (registry.replayRecord key record).epoch = registry.epoch := by
  unfold Registry.replayRecord
  split
  · next toId generation held =>
    dsimp only
    split <;> exact ⟨rfl,rfl,rfl⟩
  · exact ⟨rfl,rfl,rfl⟩

theorem Registry.replayRecord_direct (direct : record.state.isAliased = false) :
    (registry.replayRecord key record).generation = snapshotGeneration record := by
  unfold Registry.replayRecord
  split
  · next held => rw [held] at direct; cases direct
  · rfl

/-- A key that was moved names its canonical key and replays the generation
    observed there. -/
theorem Registry.replayRecord_aliased {record resolved : SessionRecord} {toId : String} {generation : Nat}
    (held : record.state = .aliased toId generation)
    (found : registry.get ⟨key.provider,registry.resolveCanonical key.provider toId⟩ = some resolved) :
    (registry.replayRecord key record).aliasOf = some (registry.resolveCanonical key.provider toId) ∧
      (registry.replayRecord key record).generation = snapshotGeneration resolved := by
  simp only [Registry.replayRecord,held,found,and_self]

/-- The current pair that a typed refusal of a key carries. -/
structure Refusal where
  key : SessionKey
  epoch : Nat
  generation : Nat
deriving DecidableEq, Repr

def Reply.currentPair : Reply → Option (Nat × Nat)
  | .begin (.staleGeneration epoch generation) | .acknowledged (.staleObservation epoch generation)
  | .forceRelease (.staleObservation epoch generation) | .stop (.staleClaim epoch generation _)
  | .guard (.staleGeneration epoch generation) => some (epoch,generation)
  | _ => none

def Op.checks : Op → Option SessionKey
  | .beginStart key _ _ _ _ _ _ | .beginHandoff key _ _ _ _ _ | .beginHandoffAcknowledged key _ _ _ _ _
  | .forceReleasePlatformLimited key _ _ _ | .beginStop key _ _ _ _ | .beginAttachGuard key _ _ _ _
  | .beginAdoptGuard key _ _ _ _ _ => some key
  | _ => none

def World.refusal (world : World) (op : Op) : Option Refusal :=
  op.checks.bind fun key => (world.reply op).currentPair.map fun pair => ⟨key,pair.1,pair.2⟩

/-- The pair is the registry's epoch and no generation past the observed one. -/
def Registry.Reports (registry : Registry) (key : SessionKey) (epoch generation : Nat) : Prop :=
  epoch = registry.epoch ∧ generation ≤ snapshotGeneration (registry.record key)

section
variable {registry : Registry} {key : SessionKey} {operationId initiator : String} {clock epoch generation : Nat}

private theorem reports_current (registry : Registry) (key : SessionKey) :
    registry.Reports key registry.epoch (registry.currentGeneration key) :=
  ⟨rfl,Nat.le_of_eq (registry.currentGeneration_eq key)⟩

private theorem reports_recorded {record : SessionRecord} (found : registry.get key = some record) :
    registry.Reports key registry.epoch (snapshotGeneration record) :=
  ⟨rfl,by rw [Registry.record_of_get found]⟩

private theorem beginStart_reports {kind : RuntimeOwnerKind} {observed : Option ObservedFence} {window : Option String}
    (stale : (registry.beginStartInner key kind operationId observed initiator clock window).1 =
      .staleGeneration epoch generation) : registry.Reports key epoch generation := by
  unfold Registry.beginStartInner at stale
  split at stale
  · cases stale; exact reports_current registry key
  · simp only at stale
    split at stale <;> (try split at stale) <;> cases stale

variable {toKind : RuntimeOwnerKind}

private theorem beginHandoff_reports {observed : Option ObservedFence}
    (stale : (registry.beginHandoff key toKind operationId observed initiator clock).1 =
      .staleGeneration epoch generation) : registry.Reports key epoch generation := by
  unfold Registry.beginHandoff at stale
  split at stale
  · cases stale; exact reports_current registry key
  · simp only at stale
    split at stale <;> (try split at stale) <;> cases stale

variable {observed : ObservedFence}

private theorem beginHandoffAcknowledged_reports
    (stale : (registry.beginHandoffAcknowledgedClearedUnverified key toKind operationId observed initiator clock).1 =
      .staleObservation epoch generation) : registry.Reports key epoch generation := by
  unfold Registry.beginHandoffAcknowledgedClearedUnverified at stale
  split at stale
  · cases stale
  · next record found =>
    split at stale
    · cases stale; exact reports_recorded found
    · split at stale <;> cases stale

private theorem forceRelease_reports (stale : (registry.forceReleasePlatformLimited key observed initiator clock).1 =
      .staleObservation epoch generation) : registry.Reports key epoch generation := by
  unfold Registry.forceReleasePlatformLimited at stale
  split at stale
  · cases stale
  · next record found =>
    split at stale
    · cases stale; exact reports_recorded found
    · split at stale
      · split at stale <;> cases stale
      · cases stale

private theorem beginStop_reports {claim : StopClaim} {state : OwnershipState}
    (stale : (registry.beginStop key operationId claim initiator clock).1 = .staleClaim epoch generation state) :
    registry.Reports key epoch generation := by
  unfold Registry.beginStop at stale
  split at stale
  · cases stale
  · next record found =>
    split at stale
    · next owner live sinceMs held =>
      split at stale
      · cases stale
      · split at stale
        · cases stale
          have current := reports_recorded found
          rwa [snapshotGeneration,held] at current
        · cases stale
    · cases stale
    · cases stale

private theorem beginAttachGuard_reports {observed : Option Nat}
    (stale : (registry.beginAttachGuard key operationId observed initiator clock).1 =
      .staleGeneration epoch generation) : registry.Reports key epoch generation := by
  unfold Registry.beginAttachGuard at stale
  split at stale
  · cases stale
  · next record found =>
    split at stale
    · next owner live sinceMs held =>
      split at stale
      · cases stale
        have current := reports_recorded found
        rwa [snapshotGeneration,held] at current
      · cases stale
    · cases stale

private theorem beginAdoptGuard_reports {expected : OwnerIdentity}
    (stale : (registry.beginAdoptGuard key operationId expected observed initiator clock).1 =
      .staleGeneration epoch generation) : registry.Reports key epoch generation := by
  unfold Registry.beginAdoptGuard at stale
  split at stale
  · cases stale; exact ⟨rfl,Nat.zero_le _⟩
  · split at stale
    · cases stale
    · next record found =>
      split at stale
      · next owner live sinceMs held =>
        split at stale
        · cases stale
          have current := reports_recorded found
          rwa [snapshotGeneration,held] at current
        · split at stale <;> cases stale
      · cases stale

end

theorem currentPair_cases {reply : Reply} {pair : Nat × Nat} (answer : reply.currentPair = some pair) :
    reply = .begin (.staleGeneration pair.1 pair.2) ∨ reply = .acknowledged (.staleObservation pair.1 pair.2) ∨
    reply = .forceRelease (.staleObservation pair.1 pair.2) ∨ (∃ state, reply = .stop (.staleClaim pair.1 pair.2 state)) ∨
    reply = .guard (.staleGeneration pair.1 pair.2) := by
  unfold Reply.currentPair at answer
  split at answer <;> cases answer <;> simp

variable {world : World} {op : Op}

/-- A refusal carries the registry's epoch, and no generation past the observed one. -/
theorem refusal_reports {refusal : Refusal} (refused : world.refusal op = some refusal) :
    world.registry.Reports refusal.key refusal.epoch refusal.generation := by
  obtain ⟨key,checks,mapped⟩ := Option.bind_eq_some_iff.mp refused
  obtain ⟨pair,answer,rfl⟩ := Option.map_eq_some_iff.mp mapped
  have stale := currentPair_cases answer
  cases op with
  | beginStart =>
    cases checks
    rcases stale with stale | stale | stale | ⟨_,stale⟩ | stale
    · exact beginStart_reports (Reply.begin.inj stale)
    all_goals cases stale
  | beginHandoff =>
    cases checks
    rcases stale with stale | stale | stale | ⟨_,stale⟩ | stale
    · exact beginHandoff_reports (Reply.begin.inj stale)
    all_goals cases stale
  | beginHandoffAcknowledged =>
    cases checks
    rcases stale with stale | stale | stale | ⟨_,stale⟩ | stale
    · cases stale
    · exact beginHandoffAcknowledged_reports (Reply.acknowledged.inj stale)
    all_goals cases stale
  | forceReleasePlatformLimited =>
    cases checks
    rcases stale with stale | stale | stale | ⟨_,stale⟩ | stale
    · cases stale
    · cases stale
    · exact forceRelease_reports (Reply.forceRelease.inj stale)
    all_goals cases stale
  | beginStop =>
    cases checks
    rcases stale with stale | stale | stale | ⟨_,stale⟩ | stale
    · cases stale
    · cases stale
    · cases stale
    · exact beginStop_reports (Reply.stop.inj stale)
    · cases stale
  | beginAttachGuard =>
    cases checks
    rcases stale with stale | stale | stale | ⟨_,stale⟩ | stale
    iterate 4 cases stale
    exact beginAttachGuard_reports (Reply.guard.inj stale)
  | beginAdoptGuard =>
    cases checks
    rcases stale with stale | stale | stale | ⟨_,stale⟩ | stale
    iterate 4 cases stale
    exact beginAdoptGuard_reports (Reply.guard.inj stale)
  | _ => cases checks

theorem snapshotGeneration_le (coherent : record.Coherent) : snapshotGeneration record ≤ record.generation := by
  unfold snapshotGeneration
  split
  · next held => simpa only [SessionRecord.Coherent,held] using coherent
  · exact Nat.le_refl _

def Op.aborts (key : SessionKey) : Op → Bool
  | .abortStop target _ _ _ => target = key
  | _ => false

/-- What a call leaves in a state that is not live is observed at the record's
    generation, which no move takes below the generation observed before. -/
private theorem snapshot_of_not_live {key : SessionKey} {record : SessionRecord} (coherent : world.Coherent)
    (move : Move world op key record)
    (settled : ∀ owner generation sinceMs, record.state ≠ .live owner generation sinceMs) :
    snapshotGeneration (world.registry.record key) ≤ snapshotGeneration record := by
  have observed : snapshotGeneration record = record.generation := by
    unfold snapshotGeneration
    split
    · next held => exact absurd held (settled _ _ _)
    · rfl
  rw [observed]
  rcases move_generation move with grown | ⟨_,_,_,_,_,_,_,_,_,_,_,lowered,_⟩
  · exact Nat.le_trans (snapshotGeneration_le _ (coherent.record key)) grown
  · omega

theorem snapshot_step {key : SessionKey} (coherent : world.Coherent) (keeps : op.aborts key = false) :
    snapshotGeneration (world.registry.record key) ≤ snapshotGeneration ((world.step op).registry.record key) := by
  rcases step_get world op key with same | ⟨record,found,move⟩
  · rw [record_step same]
  · rw [Registry.record_of_get found]
    by_cases live : ∃ owner generation sinceMs, record.state = .live owner generation sinceMs
    · obtain ⟨owner,generation,sinceMs,live⟩ := live
      have bounded := snapshotGeneration_le _ (coherent.record key)
      cases move with
      | stopAborted found' held => simp [Op.aborts] at keeps
      | committed found' commits | failedRestored found' held prior =>
        rw [Registry.record_of_get found'] at bounded ⊢
        exact bounded
      | commitMovedIn found' held absent | startMovedIn found' held absent | liveMovedIn found' held expected absent =>
        simp [Registry.record_of_none absent,SessionRecord.default,snapshotGeneration]
      | terminalMovedIn found' held foundOld heldOld under =>
        have state := coherent _ _ found'
        simp only [SessionRecord.Coherent,held] at state
        rw [Registry.record_of_get found'] at bounded ⊢
        simpa only [snapshotGeneration,state] using bounded
      | attachArmed found' held | adoptArmed found' held => rw [Registry.record_of_get found']; exact Nat.le_refl _
      | windowClosed listed outstanding found' => rw [Registry.record_of_get found']; exact Nat.le_refl _
      | startRegistered found' held | partialRegistered found' held | stopRegistered found' held =>
        rw [held] at live
        cases live
      | _ => cases live
    · exact snapshot_of_not_live coherent move fun owner generation sinceMs held =>
        live ⟨owner,generation,sinceMs,held⟩

end Freshell.Ownership
