import Freshell.Ownership.Generations

/-!
A fence stays on its key, with the prior it was entered with, until its own
release on confirmed death or an acknowledged start that carries the prior as
its reap target.
-/
namespace Freshell.Ownership
open Freshell.Library.Runs
set_option linter.unusedSimpArgs false

/-- The key is fenced over this prior by this operation at this generation; the
    reason and the metadata may be any. -/
def World.FencedOver (world : World) (key : SessionKey) (prior : Option (OwnerIdentity × Nat)) (fencedBy : String)
    (generation : Nat) : Prop :=
  ∃ record reason initiator sinceMs, world.registry.get key = some record ∧ record.generation = generation ∧
    record.state = .fenced prior reason fencedBy generation initiator sinceMs

/-- No ordinary begin on the key is granted: no start, with a window or without,
    no handoff and no stop, and no attach or adopt guard is armed on it. -/
def World.BlocksBegins (world : World) (key : SessionKey) : Prop :=
  (∀ kind operationId observed initiator nowMs window,
    world.grant (.beginStart key kind operationId observed initiator nowMs window) = none) ∧
  (∀ toKind operationId observed initiator nowMs,
    world.grant (.beginHandoff key toKind operationId observed initiator nowMs) = none) ∧
  (∀ operationId claim initiator nowMs, world.grant (.beginStop key operationId claim initiator nowMs) = none) ∧
  (∀ operationId observed initiator clock guard,
    world.reply (.beginAttachGuard key operationId observed initiator clock) ≠ .guard (.armed guard)) ∧
  ∀ operationId expected observed initiator clock guard,
    world.reply (.beginAdoptGuard key operationId expected observed initiator clock) ≠ .guard (.armed guard)

/-- The operator's force-clear changes nothing but the reason, the initiator and
    the time of the fence. -/
def World.ClearKeepsFence (world : World) (key : SessionKey) (prior : Option (OwnerIdentity × Nat))
    (fencedBy : String) (generation : Nat) : Prop :=
  ∀ observed initiator clock, ∃ reason initiator' sinceMs,
    (world.step (.forceReleasePlatformLimited key observed initiator clock)).registry.get key =
      (world.registry.get key).map fun record =>
        { record with state := .fenced prior reason fencedBy generation initiator' sinceMs }

/-- The two ways out of a fence: its release under the fencing operation and
    generation, and an acknowledged start whose handoff carries the prior. -/
def World.DischargesFence (world : World) (key : SessionKey) (prior : Option (OwnerIdentity × Nat))
    (fencedBy : String) (generation : Nat) (op : Op) : Prop :=
  op = .releaseFenced key fencedBy generation ∨
  ∃ toKind operationId observed initiator nowMs record,
    op = .beginHandoffAcknowledged key toKind operationId observed initiator nowMs ∧
    (world.step op).registry.get key = some record ∧
    record.state = .handoff prior toKind operationId (generation + 1) initiator nowMs

section
variable {world : World} {key : SessionKey} {prior : Option (OwnerIdentity × Nat)} {fencedBy : String}
  {generation : Nat}

theorem fence_step (op : Op) (fenced : world.FencedOver key prior fencedBy generation) :
    world.DischargesFence key prior fencedBy generation op ∨
      (world.step op).FencedOver key prior fencedBy generation := by
  obtain ⟨record,reason,initiator,sinceMs,found,current,held⟩ := fenced
  rcases step_get world op key with same | ⟨changed,foundChanged,move⟩
  · exact .inr ⟨record,reason,initiator,sinceMs,same.trans found,current,held⟩
  · have recorded := Registry.record_of_get found
    cases move with
    | fenceReleased found' held' =>
      obtain rfl := Option.some.inj (found'.symm.trans found)
      rw [held] at held'
      cases held'
      exact .inl (.inl (by rw [current]))
    | @acknowledged _ toKind operationId observed initiator' nowMs _ _ _ _ _ _ found' exactly held' =>
      obtain rfl := Option.some.inj (found'.symm.trans found)
      rw [held] at held'
      cases held'
      exact .inl (.inr ⟨toKind,operationId,observed,initiator',nowMs,_,rfl,foundChanged,by rw [current]⟩)
    | @forceCleared _ _ initiator' clock _ _ _ _ _ _ _ found' held' clears =>
      obtain rfl := Option.some.inj (found'.symm.trans found)
      rw [held] at held'
      cases held'
      exact .inr ⟨_,.clearedUnverified,initiator',clock,foundChanged,current,by rw [current]⟩
    | windowClosed listed outstanding found' =>
      obtain rfl := Option.some.inj (found'.symm.trans found)
      exact .inr ⟨_,reason,initiator,sinceMs,foundChanged,current,held⟩
    | committed found' commits =>
      obtain rfl := Option.some.inj (found'.symm.trans found)
      simp [held,OwnershipState.commits] at commits
    | forceReleased found' matched =>
      obtain rfl := Option.some.inj (found'.symm.trans found)
      simp [held,OwnershipState.forceReleases] at matched
    | failedVacant found' held' | failedRestored found' held' =>
      obtain rfl := Option.some.inj (found'.symm.trans found)
      simp [held,OwnershipState.heldBy] at held'
    | _ => exfalso; simp_all

theorem fenced_blocksBegins (fenced : world.FencedOver key prior fencedBy generation) : world.BlocksBegins key := by
  obtain ⟨record,reason,initiator,sinceMs,found,current,held⟩ := fenced
  have recorded := Registry.record_of_get found
  refine ⟨?_,?_,?_,?_,?_⟩
  · intro kind operationId observed initiator nowMs window
    by_cases stale : world.registry.isStale key observed = true <;>
      simp [World.grant,World.reply,World.call,Op.claims,Reply.granted,Registry.beginStartInner,stale,recorded,held]
  · intro toKind operationId observed initiator nowMs
    by_cases stale : world.registry.isStale key observed = true <;>
      simp [World.grant,World.reply,World.call,Op.claims,Reply.granted,Registry.beginHandoff,stale,recorded,held]
  · intro operationId claim initiator nowMs
    simp [World.grant,World.reply,World.call,Op.claims,Reply.granted,Registry.beginStop,found,held]
  · intro operationId observed initiator clock guard
    simp [World.reply,World.call,Registry.beginAttachGuard,found,held]
  · intro operationId expected observed initiator clock guard
    by_cases epoch : observed.epoch = world.registry.epoch <;>
      simp [World.reply,World.call,Registry.beginAdoptGuard,epoch,found,held]

theorem fenced_clearKeepsFence (fenced : world.FencedOver key prior fencedBy generation) :
    world.ClearKeepsFence key prior fencedBy generation := by
  obtain ⟨record,reason,initiator,sinceMs,found,current,held⟩ := fenced
  intro observed initiator' clock
  rcases world.registry.forceReleasePlatformLimited_cases key observed initiator' clock with
    ⟨same,_⟩ | ⟨_,_,_,_,_,_,_,found',held',_,answered⟩
  · refine ⟨reason,initiator,sinceMs,?_⟩
    simp only [World.step,World.call,same,found,Option.map_some]
    rw [← held]
  · obtain rfl := Option.some.inj (found'.symm.trans found)
    rw [held] at held'
    cases held'
    refine ⟨.clearedUnverified,initiator',clock,?_⟩
    simp only [World.step,World.call,answered,Registry.get_set_self,found,Option.map_some,current]

end

/-- From any state that a run reaches with a key fenced, the key stays fenced
    over the same prior, under the same operation and generation, in every
    further run: every ordinary begin is refused and the operator's force-clear
    changes only reason and metadata, until the fence is released under its own
    operation and generation or an acknowledged start carries the prior on. -/
theorem fence_sticky (epoch : Nat) (history future : List Op) (key : SessionKey) (record : SessionRecord)
    (prior : Option (OwnerIdentity × Nat)) (reason : FenceReason) (fencedBy : String) (generation : Nat)
    (initiator : String) (sinceMs : Nat)
    (found : (run World.step (.mint epoch) history).registry.get key = some record)
    (fenced : record.state = .fenced prior reason fencedBy generation initiator sinceMs) :
    Until World.step
      (fun world => world.FencedOver key prior fencedBy generation ∧ world.BlocksBegins key ∧
        world.ClearKeepsFence key prior fencedBy generation)
      (fun world op => world.DischargesFence key prior fencedBy generation op)
      (run World.step (.mint epoch) history) future := by
  have coherent := coherent_run epoch history key record found
  have current : generation = record.generation := by simpa only [SessionRecord.Coherent,fenced] using coherent
  have held : (run World.step (.mint epoch) history).FencedOver key prior fencedBy generation :=
    ⟨record,reason,initiator,sinceMs,found,current.symm,fenced⟩
  have guarded (world : World) (fenced : world.FencedOver key prior fencedBy generation) :
      world.FencedOver key prior fencedBy generation ∧ world.BlocksBegins key ∧
        world.ClearKeepsFence key prior fencedBy generation :=
    ⟨fenced,fenced_blocksBegins fenced,fenced_clearKeepsFence fenced⟩
  refine until_run ?_ ?_ future
  · intro world op holds
    exact (fence_step op holds.1).imp_right (guarded _)
  · exact guarded _ held

/-- A fenced codex session against a dropped ticket, a late release and both
    sweeps, and then its release. -/
theorem fence_sticky_codex :
    let key : SessionKey := ⟨"codex","s"⟩
    let owner : OwnerIdentity := ⟨.terminal,some "term-1",none,some 42,some "start-1"⟩
    let history : List Op := [.beginStart key .terminal "start-1" none "device" 0 none,
      .commitLive key "start-1" 1 owner 0, .fenceUnconfirmedLive key "start-1" 1 owner .watcherFailed 5]
    Until World.step
      (fun world => world.FencedOver key (some (owner,1)) "start-1" 1 ∧ world.BlocksBegins key ∧
        world.ClearKeepsFence key (some (owner,1)) "start-1" 1)
      (fun world op => world.DischargesFence key (some (owner,1)) "start-1" 1 op)
      (run World.step (.mint 7) history)
      [.dropTicket key "start-1" 1 6, .release key ⟨"start-1",1,some owner⟩, .recoverStaleStarts 90 30 (fun _ => true),
        .recoverStaleStoppings 90 30 (fun _ => true), .releaseFenced key "start-1" 1] := by
  intro key owner history
  exact fence_sticky 7 history _ key ⟨1,.fenced (some (owner,1)) .watcherFailed "start-1" 1 "" 5,none,none,none,none,
    none,0,[]⟩ (some (owner,1)) .watcherFailed "start-1" 1 "" 5 (by decide) rfl

end Freshell.Ownership
