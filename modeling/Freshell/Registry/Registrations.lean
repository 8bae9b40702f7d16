import Freshell.Registry.Frames

/-!
What a step of the registry does to the registered ids, to the kills under way
and to the recorded bindings; and that every id, and every kill, names its cell.
-/
namespace Freshell.Registry
open Freshell.Library.Tables
set_option linter.unusedSimpArgs false

/-- What a step does to the registered ids and the kills under way. -/
inductive Registration (s : TerminalRegistry) : Op → TerminalRegistry → Prop
  | frame {op : Op} {after : TerminalRegistry} (terminals : after.terminals = s.terminals)
      (kills : after.kills = s.kills) : Registration s op after
  | registers {terminalId mode : String} {resume : Option String} {createdAt : Int} {managed : Bool}
      {after : TerminalRegistry}
      (terminals : after.terminals = s.terminals.insert terminalId ⟨s.cells.length,managed⟩)
      (kills : after.kills = s.kills) : Registration s (.register terminalId mode resume createdAt managed) after
  | removes {op : Op} {terminalId : String} {handle : TerminalHandle} {after : TerminalRegistry}
      (found : s.terminals.lookup terminalId = some handle)
      (terminals : after.terminals = s.terminals.erase terminalId)
      (kills : after.kills = s.kills.insert handle.shared ⟨terminalId,false⟩) : Registration s op after
  | prunes {shared : Nat} {kill : Kill} {after : TerminalRegistry} (pending : s.kills.lookup shared = some kill)
      (terminals : after.terminals = s.terminals)
      (kills : after.kills = s.kills.insert shared { kill with pruned := true }) : Registration s (.prune shared) after
  | finishes {shared : Nat} {terminalId : String} {after : TerminalRegistry}
      (pruned : s.kills.lookup shared = some ⟨terminalId,true⟩) (terminals : after.terminals = s.terminals)
      (kills : after.kills = s.kills.erase shared) : Registration s (.finishKill shared) after

inductive BindingStep (s : TerminalRegistry) : Op → Bindings → Prop
  | frame (op : Op) : BindingStep s op s.bindings
  | pruned {shared : Nat} {kill : Kill} (pending : s.kills.lookup shared = some kill) (unlocked : s.bindingsLock = none) :
      BindingStep s (.prune shared) (retain (fun _ bound => bound ≠ kill.terminalId) s.bindings)
  | bound {locator : SessionLocator} {request : String} (terminalId : String)
      (may : mayComplete s.leases locator request) (unlocked : s.bindingsLock = none) :
      BindingStep s (.complete locator request terminalId) (s.bindings.insert (sessionRefKey locator) terminalId)
  | absent {call : Nat} {claimant : Claimant} {terminalId : String}
      (peeking : s.calls.lookup call = some ⟨claimant,.peeking terminalId⟩)
      (gone : s.terminals.lookup terminalId = none) : BindingStep s (.claimStep call) (s.bindings.erase claimant.key)
  | dead {call : Nat} {claimant : Claimant} {terminalId : String} {shared : Nat}
      (reading : s.calls.lookup call = some ⟨claimant,.reading terminalId shared⟩)
      (exited : s.cells[shared]?.map (·.status) ≠ some .running) :
      BindingStep s (.claimStep call) (s.bindings.erase claimant.key)

namespace TerminalRegistry

theorem kill_spec (s : TerminalRegistry) (terminalId : String) (allowManaged : Bool) :
    (s.kill terminalId allowManaged).1 = s ∨ ∃ shared, Removes s terminalId shared (s.kill terminalId allowManaged).1 := by
  unfold kill
  split
  · next shared after removed => exact .inr ⟨shared,removeRow_spec removed⟩
  · exact .inl rfl

theorem registration_step (s : TerminalRegistry) (ttl : UInt64) (op : Op) : Registration s op (s.next ttl op) := by
  have framed {op : Op} {after : TerminalRegistry} (same : SameRegistry s after) : Registration s op after :=
    .frame same.terminals same.kills
  cases op with
  | register terminalId mode resume createdAt managed => exact .registers rfl rfl
  | row shared op => exact .frame rfl rfl
  | kill terminalId allowManaged =>
    show Registration s _ (s.kill terminalId allowManaged).1
    rcases s.kill_spec terminalId allowManaged with same | ⟨shared,removes⟩
    · rw [same]
      exact .frame rfl rfl
    · obtain ⟨handle,found,rfl⟩ := removes.registered
      exact .removes found removes.terminals removes.kills
  | prune shared =>
    show Registration s _ (s.prune shared).1
    unfold prune
    split
    · next pending _ => exact .prunes pending rfl rfl
    · exact .frame rfl rfl
  | finishKill shared =>
    show Registration s _ (s.finishKill shared).1
    unfold finishKill
    split
    · next pruned => exact .finishes pruned rfl rfl
    · exact .frame rfl rfl
  | enforceIdleKills now =>
    show Registration s _ (s.enforceIdleKills now)
    unfold enforceIdleKills
    split
    · split <;> exact .frame rfl rfl
    · exact .frame rfl rfl
  | probeIdle terminalId =>
    show Registration s _ (s.probeIdle terminalId)
    rcases s.probeIdle_spec terminalId with same | ⟨handle,row,collects⟩
    · rw [same]
      exact .frame rfl rfl
    · obtain ⟨now,threshold,candidates,_,_,_,after⟩ := collects.collecting
      rw [after]
      exact .frame rfl rfl
  | reapIdle =>
    show Registration s _ s.reapIdle
    unfold reapIdle
    split <;> exact .frame rfl rfl
  | killIdle =>
    show Registration s _ s.killIdle
    unfold killIdle
    split
    · exact .frame rfl rfl
    · split
      · next shared after removed =>
        have removes := removeRow_spec removed
        obtain ⟨handle,found,rfl⟩ := removes.registered
        exact .removes found removes.terminals removes.kills
      · exact .frame rfl rfl
    · exact .frame rfl rfl
  | claim call claimant => exact framed claim_registry
  | claimStep call => exact framed claimStep_registry
  | complete locator request terminalId => exact framed complete_registry
  | setAutoKillIdleMinutes minutes => exact .frame rfl rfl
  | setLeasePid locator request pid => exact .frame rfl rfl
  | fail locator request => exact .frame rfl rfl
  | releaseForConn conn => exact .frame rfl rfl
  | forceRelease locator => exact .frame rfl rfl

theorem claimBinding_bindings {s : TerminalRegistry} {call : Nat} {claimant : Claimant} :
    (s.claimBinding call claimant).1.bindings = s.bindings := by
  unfold claimBinding
  split
  · rfl
  · split <;> rfl

theorem claimLease_bindings {s : TerminalRegistry} {ttl : UInt64} {call : Nat} {claimant : Claimant} :
    (s.claimLease ttl call claimant).1.bindings = s.bindings := by
  unfold claimLease
  split <;> rfl

theorem binding_step (s : TerminalRegistry) (ttl : UInt64) (op : Op) : BindingStep s op (s.next ttl op).bindings := by
  have framed {op : Op} {after : TerminalRegistry} (refs : SameRefs s after) : BindingStep s op after.bindings := by
    rw [refs.bindings]
    exact .frame op
  have still {op : Op} {bindings : Bindings} (same : bindings = s.bindings) : BindingStep s op bindings := by
    rw [same]
    exact .frame op
  cases op with
  | prune shared =>
    show BindingStep s _ (s.prune shared).1.bindings
    unfold prune
    split
    · next pending unlocked => exact .pruned pending unlocked
    · exact .frame _
  | complete locator request terminalId =>
    show BindingStep s _ (s.complete locator request terminalId).1.bindings
    unfold complete
    split
    · next may =>
      split
      · exact .frame _
      · next unlocked => exact .bound terminalId may unlocked
    · exact .frame _
  | claimStep call =>
    show BindingStep s _ (s.claimStep ttl call).1.bindings
    unfold claimStep
    split
    · exact .frame _
    · split
      · exact .frame _
      · split <;> exact .frame _
    · split <;> exact .frame _
    · exact still claimBinding_bindings
    · split <;> exact .frame _
    · next claimant terminalId peeking =>
      split
      · next gone => exact .absent peeking gone
      · exact .frame _
    · next claimant terminalId shared reading =>
      split
      · exact .frame _
      · next exited => exact .dead reading exited
    · exact still claimLease_bindings
  | claim call claimant =>
    show BindingStep s _ (s.claim call claimant).1.bindings
    unfold claim
    split <;> exact .frame _
  | kill terminalId allowManaged => exact framed kill_refs
  | finishKill shared => exact framed finishKill_refs
  | enforceIdleKills now => exact framed enforceIdleKills_refs
  | probeIdle terminalId => exact framed probeIdle_refs
  | reapIdle => exact framed reapIdle_refs
  | killIdle => exact framed killIdle_refs
  | _ => exact .frame _

/-- Every registered id, and every kill under way, names its cell. -/
structure Rooted (s : TerminalRegistry) : Prop where
  registered : ∀ terminalId handle, s.terminals.lookup terminalId = some handle →
    ∃ row, s.cells[handle.shared]? = some row ∧ row.terminalId = terminalId
  killing : ∀ shared kill, s.kills.lookup shared = some kill →
    ∃ row, s.cells[shared]? = some row ∧ row.terminalId = kill.terminalId

theorem cell_kept {s : TerminalRegistry} {shared : Nat} {row : TerminalShared} (ttl : UInt64) (op : Op)
    (held : s.cells[shared]? = some row) :
    ∃ after, (s.next ttl op).cells[shared]? = some after ∧ after.terminalId = row.terminalId := by
  have moved := s.cell_step ttl op
  generalize (s.next ttl op).cells = cells at moved
  cases moved with
  | frame => exact ⟨row,held,rfl⟩
  | register terminalId mode resume createdAt managed =>
    obtain ⟨bound,_⟩ := List.getElem?_eq_some_iff.mp held
    exact ⟨row,(List.getElem?_append_left bound).trans held,rfl⟩
  | row place op =>
    rw [List.getElem?_modify,held]
    refine ⟨_,rfl,?_⟩
    split
    · exact TerminalShared.apply_terminalId op
    · rfl
  | killed place =>
    rw [List.getElem?_modify,held]
    refine ⟨_,rfl,?_⟩
    split <;> rfl

theorem rooted_next {s : TerminalRegistry} (rooted : s.Rooted) (ttl : UInt64) (op : Op) : (s.next ttl op).Rooted := by
  have kept {shared : Nat} {terminalId : String}
      (held : ∃ row, s.cells[shared]? = some row ∧ row.terminalId = terminalId) :
      ∃ row, (s.next ttl op).cells[shared]? = some row ∧ row.terminalId = terminalId := by
    obtain ⟨row,found,named⟩ := held
    obtain ⟨after,now,same⟩ := cell_kept ttl op found
    exact ⟨after,now,same.trans named⟩
  have step := s.registration_step ttl op
  constructor
  · intro id handle found
    cases step with
    | frame terminals kills =>
      rw [terminals] at found
      exact kept (rooted.registered id handle found)
    | @registers terminalId mode resume createdAt managed _ terminals kills =>
      rw [terminals,lookup_insert] at found
      split at found
      · next same =>
        cases found
        exact ⟨.registered terminalId mode resume createdAt managed,List.getElem?_concat_length,same.symm⟩
      · exact kept (rooted.registered id handle found)
    | removes removed terminals kills =>
      rw [terminals,lookup_erase] at found
      split at found
      · cases found
      · exact kept (rooted.registered id handle found)
    | prunes pending terminals kills =>
      rw [terminals] at found
      exact kept (rooted.registered id handle found)
    | finishes pruned terminals kills =>
      rw [terminals] at found
      exact kept (rooted.registered id handle found)
  · intro shared kill found
    cases step with
    | frame terminals kills =>
      rw [kills] at found
      exact kept (rooted.killing shared kill found)
    | registers terminals kills =>
      rw [kills] at found
      exact kept (rooted.killing shared kill found)
    | removes removed terminals kills =>
      rw [kills,lookup_insert] at found
      split at found
      · next same =>
        cases found
        exact same ▸ kept (rooted.registered _ _ removed)
      · exact kept (rooted.killing shared kill found)
    | prunes pending terminals kills =>
      rw [kills,lookup_insert] at found
      split at found
      · next same =>
        cases found
        exact same ▸ kept (rooted.killing _ _ pending)
      · exact kept (rooted.killing shared kill found)
    | finishes pruned terminals kills =>
      rw [kills,lookup_erase] at found
      split at found
      · cases found
      · exact kept (rooted.killing shared kill found)

theorem rooted_new (minutes : Int) : (new minutes).Rooted where
  registered _ _ found := nomatch found
  killing _ _ found := nomatch found

end TerminalRegistry
end Freshell.Registry
