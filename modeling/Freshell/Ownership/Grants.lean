import Freshell.Ownership.Moves

/-!
The grants of the registry: a begin, an acknowledged start or a begin of a stop
that answers a generation. A grant enters the next generation of its key, or
re-claims the start or handoff that its own operation already holds.
-/
namespace Freshell.Ownership
set_option linter.unusedSimpArgs false

/-- A granted claim: the operation holds the key at the generation. -/
structure Grant where
  key : SessionKey
  operationId : String
  generation : Nat
deriving DecidableEq, Repr

def Op.claims : Op → Option (SessionKey × String)
  | .beginStart key _ operationId _ _ _ _ | .beginHandoff key _ operationId _ _ _
  | .beginHandoffAcknowledged key _ operationId _ _ _ | .beginStop key operationId _ _ _ => some (key,operationId)
  | _ => none

def Reply.granted : Reply → Option Nat
  | .begin (.granted generation) | .acknowledged (.granted generation) | .stop (.granted generation) => some generation
  | _ => none

def World.grant (world : World) (op : Op) : Option Grant :=
  op.claims.bind fun claim => (world.reply op).granted.map fun generation => ⟨claim.1,claim.2,generation⟩

/-- The record is held by a start or a handoff, which its operation may re-claim. -/
def OwnershipState.isClaimed : OwnershipState → Bool
  | .starting _ _ _ _ _ | .handoff _ _ _ _ _ _ => true
  | _ => false

/-- A grant that is no re-claim of a start or handoff that the record holds. -/
def World.newGrant (world : World) (op : Op) : Option Grant :=
  (world.grant op).filter fun grant => !(world.registry.record grant.key).state.isClaimed

/-- A grant re-claims what its operation holds and changes nothing, or enters
    the next generation of a record that nobody holds, by a move on it. -/
theorem grant_cases {world : World} {op : Op} {grant : Grant} (granted : world.grant op = some grant) :
    ((world.step op).registry = world.registry ∧ (world.registry.record grant.key).state.isClaimed = true ∧
      (world.registry.record grant.key).state.operationId = some grant.operationId ∧
      (world.registry.record grant.key).state.generation = some grant.generation) ∨
    ((world.registry.record grant.key).state.isClaimed = false ∧
      grant.generation = (world.registry.record grant.key).generation + 1 ∧
      ∃ record, (world.step op).registry.get grant.key = some record ∧ Move world op grant.key record ∧
        record.generation = grant.generation ∧ record.state.operationId = some grant.operationId) := by
  obtain ⟨⟨key,operationId⟩,claims,mapped⟩ := Option.bind_eq_some_iff.mp granted
  obtain ⟨generation,answer,rfl⟩ := Option.map_eq_some_iff.mp mapped
  cases op with
  | beginStart target kind claimer observed initiator nowMs window =>
    cases claims
    rcases world.registry.beginStartInner_cases key kind operationId observed initiator nowMs window with
      ⟨same,reclaim⟩ | ⟨fresh,held,free,answered⟩
    · left
      have answered : (world.registry.beginStartInner key kind operationId observed initiator nowMs window).1 =
          .granted generation := by
        simp only [World.reply,World.call,Reply.granted] at answer
        split at answer <;> simp_all
      refine ⟨same,?_⟩
      rcases reclaim generation answered with ⟨heldBy,sinceMs,held⟩ | ⟨prior,heldBy,sinceMs,held⟩ <;>
        simp [held,OwnershipState.isClaimed,OwnershipState.operationId,OwnershipState.generation]
    · right
      simp only [World.reply,World.call,answered,Reply.granted,Option.some.injEq] at answer
      subst answer
      exact ⟨by simp [held,OwnershipState.isClaimed],rfl,_,(congrArg (fun answer => answer.2.get key) answered).trans (Registry.get_set_self _ _ _),
        .startGranted fresh held free,rfl,rfl⟩
  | beginHandoff target toKind claimer observed initiator nowMs =>
    cases claims
    rcases world.registry.beginHandoff_cases key toKind operationId observed initiator nowMs with
      ⟨same,refused⟩ | ⟨prior,fresh,held,free,answered⟩
    · exfalso
      simp only [World.reply,World.call,Reply.granted] at answer
      split at answer <;> simp_all
    · right
      simp only [World.reply,World.call,answered,Reply.granted,Option.some.injEq] at answer
      subst answer
      refine ⟨?_,rfl,_,(congrArg (fun answer => answer.2.get key) answered).trans (Registry.get_set_self _ _ _),
        .handoffGranted fresh held free,rfl,rfl⟩
      rcases held with ⟨held,_⟩ | ⟨owner,generation,sinceMs,held,_⟩ <;> simp [held,OwnershipState.isClaimed]
  | beginHandoffAcknowledged target toKind claimer observed initiator nowMs =>
    cases claims
    rcases world.registry.beginHandoffAcknowledged_cases key toKind operationId observed initiator nowMs with
      ⟨same,refused⟩ | ⟨record,prior,fencedBy,generation,heldBy,sinceMs,found,exactly,held,answered⟩
    · exfalso
      simp only [World.reply,World.call,Reply.granted] at answer
      split at answer <;> simp_all
    · right
      simp only [World.reply,World.call,answered,Reply.granted,Option.some.injEq] at answer
      subst answer
      rw [Registry.record_of_get found]
      exact ⟨by simp [held,OwnershipState.isClaimed],rfl,_,(congrArg (fun answer => answer.2.get key) answered).trans (Registry.get_set_self _ _ _),
        .acknowledged found exactly held,rfl,rfl⟩
  | beginStop target claimer claim initiator nowMs =>
    cases claims
    rcases world.registry.beginStop_cases key operationId claim initiator nowMs with
      ⟨same,refused⟩ | ⟨record,owner,generation,sinceMs,found,held,free,exactly,own,answered⟩
    · exfalso
      simp only [World.reply,World.call,Reply.granted] at answer
      split at answer <;> simp_all
    · right
      simp only [World.reply,World.call,answered,Reply.granted,Option.some.injEq] at answer
      subst answer
      rw [Registry.record_of_get found]
      exact ⟨by simp [held,OwnershipState.isClaimed],rfl,_,(congrArg (fun answer => answer.2.get key) answered).trans (Registry.get_set_self _ _ _),
        .stopGranted found held free exactly own,rfl,rfl⟩
  | _ => cases claims

theorem grant_of_newGrant {world : World} {op : Op} {grant : Grant} (granted : world.newGrant op = some grant) :
    world.grant op = some grant ∧ (world.registry.record grant.key).state.isClaimed = false := by
  simpa [World.newGrant,Option.filter_eq_some_iff] using granted

end Freshell.Ownership
