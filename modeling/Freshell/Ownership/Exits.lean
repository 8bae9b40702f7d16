import Freshell.Ownership.Replay

/-!
The natural exit of a live owner. Its watcher carries the identity and the operation
that the record is stamped with, and the generation that the key is observed at. The
release fences against the generation of the live state, the fence of an unconfirmed
exit against the record's as well, which an aborted stop leaves above it.
-/
namespace Freshell.Ownership
open Freshell.Library.Runs
set_option linter.unusedSimpArgs false

namespace Registry

/-- The watcher's release takes the key to vacant. -/
def ExitReleases (registry : Registry) (key : SessionKey) (operationId : String) (owner : OwnerIdentity) : Prop :=
  let claim : ReleaseClaim := ⟨operationId,(registry.observe key).generation,some owner⟩
  (registry.release key claim).1 = true ∧ ((registry.release key claim).2.record key).state = .vacant

/-- The watcher's fence takes the key to fenced, with the owner as the prior. -/
def ExitFences (registry : Registry) (key : SessionKey) (operationId : String) (owner : OwnerIdentity) : Prop :=
  let generation := (registry.observe key).generation
  ∀ reason clock,
    let answer := registry.fenceUnconfirmedLive key operationId generation owner reason clock
    answer.1 = .fenced ∧
      (answer.2.record key).state = .fenced (some (owner,generation)) reason operationId generation "" clock

theorem observe_live {registry : Registry} {key : SessionKey} {record : SessionRecord} {owner : OwnerIdentity}
    {generation sinceMs : Nat} (found : registry.get key = some record)
    (held : record.state = .live owner generation sinceMs) : (registry.observe key).generation = generation := by
  simp [observe,found,snapshotGeneration,held]

theorem sameRuntime_self (owner : OwnerIdentity) : owner.sameRuntime owner = true := by
  simp [OwnerIdentity.sameRuntime]

section
variable {registry : Registry} {key : SessionKey} {owner : OwnerIdentity} {generation sinceMs : Nat} {operationId : String}

theorem exit_releases (held : (registry.record key).state = .live owner generation sinceMs)
    (stamped : owner.ownershipId = some operationId) : registry.ExitReleases key operationId owner := by
  have found : registry.get key = some (registry.record key) := get_of_not_vacant (by simp [held])
  have observed := observe_live found held
  have matched : runtimeMatches owner ⟨operationId,generation,some owner⟩ = true := by
    simp [runtimeMatches,sameRuntime_self,stamped]
  constructor
  · simp [release,found,held,observed,matched]
  · simp [release,found,held,observed,matched]

/-- The fence of an unconfirmed exit lets through only a live state at the record's generation. -/
theorem exit_fences_iff (held : (registry.record key).state = .live owner generation sinceMs)
    (stamped : owner.ownershipId = some operationId) :
    registry.ExitFences key operationId owner ↔ generation = (registry.record key).generation := by
  have found : registry.get key = some (registry.record key) := get_of_not_vacant (by simp [held])
  have observed := observe_live found held
  constructor
  · intro fences
    by_contra behind
    have refused := (fences .watcherFailed 0).1
    simp [fenceUnconfirmedLive,found,observed,behind] at refused
  · intro current reason clock
    rw [observed]
    constructor
    · simp [fenceUnconfirmedLive,found,held,current,sameRuntime_self,stamped]
    · simp [fenceUnconfirmedLive,found,held,current,sameRuntime_self,stamped,OwnershipState.initiator]
end
end Registry

/-- The call puts a stopping owner back to live. -/
def World.AbortsStop (world : World) (op : Op) : Prop :=
  ∃ key operationId generation clock, op = .abortStop key operationId generation clock ∧
    (world.registry.abortStop key operationId generation clock).1 = .aborted

def SessionRecord.LiveInStep (record : SessionRecord) : Prop :=
  ∀ owner generation sinceMs, record.state = .live owner generation sinceMs → generation = record.generation

def World.LiveInStep (world : World) : Prop := ∀ key record, world.registry.get key = some record → record.LiveInStep

theorem move_liveInStep {world : World} {op : Op} {key : SessionKey} {record : SessionRecord} (coherent : world.Coherent)
    (inStep : world.LiveInStep) (kept : ¬world.AbortsStop op) (move : Move world op key record) : record.LiveInStep := by
  intro owner generation sinceMs live
  cases move with
  | startMovedIn found held absent => simp [held] at live
  | stopAborted found held =>
    refine (kept ⟨_,_,_,_,rfl,?_⟩).elim
    simp [Registry.abortStop,found,held]
  | terminalMovedIn found held foundOld heldOld under =>
    have before := coherent _ _ found
    simp only [SessionRecord.Coherent,held] at before
    cases live
    exact before
  | startRegistered found held | partialRegistered found held | stopRegistered found held => simp [held] at live
  | attachArmed found held | adoptArmed found held =>
    have before := inStep _ _ found
    exact before owner generation sinceMs live
  | windowClosed listed outstanding found =>
    have before := inStep _ _ found
    exact before owner generation sinceMs live
  | committed found commits =>
    cases live
    rfl
  | failedRestored found held prior =>
    cases live
    rfl
  | commitMovedIn found held absent =>
    cases live
    rfl
  | liveMovedIn found held expected absent =>
    cases live
    rfl
  | _ => simp [SessionRecord.fresh] at live

theorem liveInStep_step {world : World} {op : Op} (coherent : world.Coherent) (inStep : world.LiveInStep)
    (kept : ¬world.AbortsStop op) : (world.step op).LiveInStep := by
  intro key record found
  rcases step_get world op key with same | ⟨changed,foundChanged,move⟩
  · exact inStep key record (same ▸ found)
  · rw [foundChanged] at found
    cases found
    exact move_liveInStep coherent inStep kept move

theorem liveInStep_run {epoch : Nat} {ops : List Op}
    (kept : Along World.step (fun world op => ¬world.AbortsStop op) (.mint epoch) ops) :
    (run World.step (.mint epoch) ops).LiveInStep := by
  have initial : (World.mint epoch).Coherent ∧ (World.mint epoch).LiveInStep :=
    ⟨coherent_mint epoch,fun key record found => by simp [World.mint] at found⟩
  have preserved : ∀ (world : World) (op : Op), (world.Coherent ∧ world.LiveInStep) → ¬world.AbortsStop op →
      (world.step op).Coherent ∧ (world.step op).LiveInStep := fun world op held kept =>
    ⟨coherent_step world op held.1,liveInStep_step held.1 held.2 kept⟩
  exact (invariant_run preserved initial kept).2

/-- In every state reached in which a key is live, its owner's exit can be released; it can be
    fenced just where the live state is at the record's generation, and so it is in every run in
    which no stop was aborted. -/
theorem exits_recorded (epoch : Nat) (ops : List Op) {key : SessionKey} {owner : OwnerIdentity} {generation sinceMs : Nat}
    {operationId : String}
    (held : ((run World.step (.mint epoch) ops).registry.record key).state = .live owner generation sinceMs)
    (stamped : owner.ownershipId = some operationId) :
    let registry := (run World.step (.mint epoch) ops).registry
    registry.ExitReleases key operationId owner ∧
      (registry.ExitFences key operationId owner ↔ generation = (registry.record key).generation) ∧
      (Along World.step (fun world op => ¬world.AbortsStop op) (.mint epoch) ops →
        generation = (registry.record key).generation) := by
  intro registry
  refine ⟨Registry.exit_releases held stamped,Registry.exit_fences_iff held stamped,fun kept => ?_⟩
  have found : registry.get key = some (registry.record key) := Registry.get_of_not_vacant (by simp [registry,held])
  exact liveInStep_run kept key _ found owner generation sinceMs held

def abortedStop : List Op :=
  let key : SessionKey := ⟨"codex","session"⟩
  [.beginStart key .terminal "start" none "device" 0 none,
    .commitLive key "start" 1 ⟨.terminal,some "term",none,some 17,none⟩ 0,
    .beginStop key "stop" ⟨.terminal,none,⟨7,1⟩⟩ "device" 0,.abortStop key "stop" 2 0]

def abortedOwner : OwnerIdentity := ⟨.terminal,some "term",none,some 17,some "start"⟩

theorem abortedStop_unfenced :
    let registry := (run World.step (.mint 7) abortedStop).registry
    (registry.record ⟨"codex","session"⟩).state = .live abortedOwner 1 0 ∧
      ¬registry.ExitFences ⟨"codex","session"⟩ "start" abortedOwner := by
  refine ⟨by decide,fun fences => ?_⟩
  exact absurd (fences .watcherFailed 0).1 (by decide)

theorem exits_recorded_started :
    let registry := (run World.step (.mint 7) (abortedStop.take 2)).registry
    registry.ExitReleases ⟨"codex","session"⟩ "start" abortedOwner ∧
      (registry.ExitFences ⟨"codex","session"⟩ "start" abortedOwner ↔
        1 = (registry.record ⟨"codex","session"⟩).generation) ∧
      (Along World.step (fun world op => ¬world.AbortsStop op) (.mint 7) (abortedStop.take 2) →
        1 = (registry.record ⟨"codex","session"⟩).generation) :=
  @exits_recorded 7 (abortedStop.take 2) ⟨"codex","session"⟩ abortedOwner 1 0 "start" (by decide) rfl
end Freshell.Ownership
