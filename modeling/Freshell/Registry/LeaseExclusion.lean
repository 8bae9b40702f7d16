import Freshell.Registry.LeaseLedger
import Freshell.Registry.Watchers

/-!
Mutual exclusion of session-reference leases, over every run: one outstanding
grant a reference, a grant consumed by each completion, and no grant beside the
running terminal that a completion has bound.
-/
namespace Freshell.Registry
open Freshell.Library.Tables Freshell.Library.Runs
set_option linter.unusedSimpArgs false

/-- The registry, and the ledger of the run that led to it. -/
structure LeaseBook where
  registry : TerminalRegistry
  ledger : Ledger

namespace LeaseBook

def new (autoKillIdleMinutes : Int) : LeaseBook := ⟨.new autoKillIdleMinutes,.new⟩

def next (ttl : UInt64) (b : LeaseBook) (op : Op) : LeaseBook :=
  ⟨(b.registry.step ttl op).1,b.ledger.note op (b.registry.step ttl op).2⟩

def reply (ttl : UInt64) (b : LeaseBook) (op : Op) : Reply := (b.registry.step ttl op).2

end LeaseBook

theorem mayComplete_iff {leases : Leases} {locator : SessionLocator} {request : String} :
    mayComplete leases locator request = true ↔ ∃ lease, leases.lookup (sessionRefKey locator) = some lease ∧
      lease.holderCreateRequestId = request ∧ lease.revoked = false := by
  unfold mayComplete
  split
  · next lease found => simp [found]
  · next absent => simp [absent]

/-- What the lease phase does: it grants a free reference, or leaves every lease
    in its holder's hands. -/
theorem claimLeasePhase_spec (ttl : UInt64) (leases : Leases) (bindings : Bindings) (claimant : Claimant) :
    (leases.lookup claimant.key = none ∧ bindings.lookup claimant.key = none ∧
      claimLeasePhase ttl leases bindings claimant = (.acquired,leases.insert claimant.key claimant.lease)) ∨
    (claimLeasePhase ttl leases bindings claimant).1 ≠ .acquired ∧
      ((claimLeasePhase ttl leases bindings claimant).2 = leases ∨
        ∃ lease, leases.lookup claimant.key = some lease ∧
          (claimLeasePhase ttl leases bindings claimant).2 =
            leases.insert claimant.key { lease with revoked := true }) := by
  unfold claimLeasePhase
  split
  · next free =>
    split
    · exact .inr ⟨nofun,.inl rfl⟩
    · next unbound => exact .inl ⟨free,unbound,rfl⟩
  · next lease held =>
    right
    split
    · exact ⟨nofun,.inl rfl⟩
    · split
      · exact ⟨nofun,.inl rfl⟩
      · exact ⟨nofun,.inr ⟨lease,held,rfl⟩⟩

theorem note_claimStep {l : Ledger} {call : Nat} {claimant : Claimant} {claim : SessionRefClaim}
    (other : claim ≠ .acquired) : l.note (.claimStep call) (.answered claimant claim) = l := by
  cases claim with
  | acquired => exact absurd rfl other
  | held => rfl
  | expiredNeedsKill => rfl
  | boundElsewhere => rfl

theorem Ledger.Synced.claimStep {s : TerminalRegistry} {ttl : UInt64} {l : Ledger} (synced : l.Synced s.leases)
    {call : Nat} {result : TerminalRegistry × Reply} (stepped : ClaimStep ttl s call result) :
    (l.note (.claimStep call) result.2).Synced result.1.leases := by
  cases stepped with
  | blocked => exact synced
  | moves _ _ _ leases =>
    rw [leases]
    exact synced
  | @answers claimant _ _ _ _ answered _ leases =>
    rw [leases]
    cases answered with
    | joined => exact synced
    | unknown => exact synced
    | running => exact synced
    | leased =>
      show Synced _ (claimLeasePhase _ _ _ _).2
      rcases claimLeasePhase_spec ttl s.leases s.bindings claimant with
        ⟨free,_,phase⟩ | ⟨other,same | ⟨lease,held,revoked⟩⟩
      · rw [phase]
        exact synced.grants free
      · rw [note_claimStep other,same]
        exact synced
      · rw [note_claimStep other,revoked]
        exact synced.replaces held rfl rfl rfl

namespace LeaseBook
variable {b : LeaseBook} {ttl : UInt64} {op : Op}

def Synced (b : LeaseBook) : Prop := b.ledger.Synced b.registry.leases

theorem synced_next (synced : b.Synced) : (b.next ttl op).Synced := by
  unfold Synced at synced ⊢
  have framed {after : TerminalRegistry} (refs : SameRefs b.registry after) : b.ledger.Synced after.leases := by
    rw [refs.leases]
    exact synced
  cases op with
  | claimStep call => exact synced.claimStep (b.registry.claimStep_spec ttl call)
  | complete locator request terminalId =>
    show (b.ledger.note _ (b.registry.complete locator request terminalId).2).Synced
      (b.registry.complete locator request terminalId).1.leases
    unfold TerminalRegistry.complete
    split
    · next may =>
      obtain ⟨lease,found,_⟩ := mayComplete_iff.mp may
      split
      · exact synced
      · exact synced.binds found terminalId
    · exact synced
  | fail locator request => exact synced.fails locator request
  | releaseForConn conn => exact synced.releases conn
  | forceRelease locator =>
    apply synced.keeps (fun key => key = sessionRefKey locator) (fun key => lookup_erase _ _ key)
    intro entry _
    simp
  | setLeasePid locator request pid => exact synced.setLeasePid locator request pid
  | prune shared =>
    show b.ledger.Synced (b.registry.prune shared).1.leases
    unfold TerminalRegistry.prune
    split <;> exact synced
  | claim call claimant =>
    show b.ledger.Synced (b.registry.claim call claimant).1.leases
    unfold TerminalRegistry.claim
    split <;> exact synced
  | kill terminalId allowManaged => exact framed TerminalRegistry.kill_refs
  | finishKill shared => exact framed TerminalRegistry.finishKill_refs
  | enforceIdleKills now => exact framed TerminalRegistry.enforceIdleKills_refs
  | probeIdle terminalId => exact framed TerminalRegistry.probeIdle_refs
  | reapIdle => exact framed TerminalRegistry.reapIdle_refs
  | killIdle => exact framed TerminalRegistry.killIdle_refs
  | _ => exact synced

theorem synced_run (ttl : UInt64) (minutes : Int) (ops : List Op) :
    (run (next ttl) (new minutes) ops).Synced := by
  have kept : ∀ (b : LeaseBook) op, b.Synced → True → (b.next ttl op).Synced := fun b op synced _ => synced_next synced
  have initial : (new minutes).Synced := Ledger.Synced.empty
  exact invariant_run kept initial (along_of_forall (fun _ _ => trivial) _ ops)

/-- The step is a completion that answers true: it consumes a grant that its
    reference's claimant was given before, and that no completion has consumed. -/
def ConsumesGrant (ttl : UInt64) (b : LeaseBook) (op : Op) : Prop :=
  ∀ locator request terminalId, op = .complete locator request terminalId → b.reply ttl op = .completed true →
    ∃ token claimant, b.ledger.granted[token]? = some claimant ∧ claimant.key = sessionRefKey locator ∧
      claimant.createRequestId = request ∧ token ∉ b.ledger.consumed ∧
      (b.next ttl op).ledger.consumed = b.ledger.consumed ++ [token]

theorem consumesGrant (synced : b.Synced) : b.ConsumesGrant ttl op := by
  rintro locator request terminalId rfl completed
  have may : mayComplete b.registry.leases locator request = true := by
    by_contra refused
    simp only [reply,TerminalRegistry.step,TerminalRegistry.complete,if_neg refused] at completed
    cases completed
  obtain ⟨lease,found,holder,_⟩ := mayComplete_iff.mp may
  obtain ⟨token,claimant,only,_,granted,holds,unused⟩ := synced.taken found
  refine ⟨token,claimant,granted,holds.reference,holds.request.symm.trans holder,unused,?_⟩
  have noted : (b.next ttl (.complete locator request terminalId)).ledger =
      b.ledger.note (.complete locator request terminalId) (.completed true) := by rw [← completed]; rfl
  rw [noted,← only]
  rfl

end LeaseBook

namespace TerminalRegistry

def Live (s : TerminalRegistry) (terminalId : String) : Prop :=
  ∃ handle, s.terminals.lookup terminalId = some handle ∧ s.cells[handle.shared]?.map (·.status) = some .running

def Known (s : TerminalRegistry) (terminalId : String) : Prop :=
  ∃ (shared : Nat) (row : TerminalShared), s.cells[shared]? = some row ∧ row.terminalId = terminalId

def RegistersOnce (s : TerminalRegistry) (terminalId : String) (op : Op) : Prop :=
  ∀ mode resume createdAt managed, op = .register terminalId mode resume createdAt managed → ¬s.Known terminalId

def Apart (s : TerminalRegistry) : Prop :=
  ∀ key lease, s.leases.lookup key = some lease → s.bindings.lookup key = none

def Locked (s : TerminalRegistry) : Prop :=
  ∀ call standing terminalId, s.calls.lookup call = some standing → standing.phase.holds = some terminalId →
    s.bindingsLock = some call ∧ s.bindings.lookup standing.claimant.key = some terminalId

variable {s : TerminalRegistry} {ttl : UInt64} {op : Op} {terminalId : String}

/-- Where a cell comes from: it is an earlier one, changed in place, or the step
    registered it. -/
theorem cell_origin {shared : Nat} {after : TerminalShared} (held : (s.next ttl op).cells[shared]? = some after) :
    (∃ row, s.cells[shared]? = some row ∧ row.terminalId = after.terminalId ∧
      (after.status = .running → row.status = .running)) ∨
    shared = s.cells.length ∧ ∃ mode resume createdAt managed,
      op = .register after.terminalId mode resume createdAt managed := by
  have moved := s.cell_step ttl op
  generalize (s.next ttl op).cells = cells at moved held
  cases moved with
  | frame => exact .inl ⟨after,held,rfl,id⟩
  | register terminalId mode resume createdAt managed =>
    rcases Nat.lt_or_ge shared s.cells.length with bound | beyond
    · rw [List.getElem?_append_left bound] at held
      exact .inl ⟨after,held,rfl,id⟩
    · have limit := (List.getElem?_eq_some_iff.mp held).1
      rw [List.length_append,List.length_singleton] at limit
      have here : shared = s.cells.length := by omega
      rw [here,List.getElem?_concat_length] at held
      obtain rfl := Option.some.inj held
      exact .inr ⟨here,mode,resume,createdAt,managed,rfl⟩
  | row place change =>
    rw [List.getElem?_modify] at held
    obtain ⟨before,was,rfl⟩ := Option.map_eq_some_iff.mp held
    refine .inl ⟨before,was,?_⟩
    split
    · exact ⟨(TerminalShared.apply_terminalId change).symm,TerminalShared.running_of_apply⟩
    · exact ⟨rfl,id⟩
  | killed place =>
    rw [List.getElem?_modify] at held
    obtain ⟨before,was,rfl⟩ := Option.map_eq_some_iff.mp held
    refine .inl ⟨before,was,?_⟩
    split
    · exact ⟨rfl,nofun⟩
    · exact ⟨rfl,id⟩

theorem known_next (known : s.Known terminalId) : (s.next ttl op).Known terminalId := by
  obtain ⟨shared,row,held,named⟩ := known
  obtain ⟨after,kept,same⟩ := cell_kept ttl op held
  exact ⟨shared,after,kept,same.trans named⟩

theorem registered_before {handle : TerminalHandle} (found : (s.next ttl op).terminals.lookup terminalId = some handle) :
    s.terminals.lookup terminalId = some handle ∨
      ∃ mode resume createdAt managed, op = .register terminalId mode resume createdAt managed := by
  have step := s.registration_step ttl op
  generalize s.next ttl op = after at step found
  cases step with
  | frame terminals =>
    rw [terminals] at found
    exact .inl found
  | registers terminals =>
    rw [terminals,lookup_insert] at found
    split at found
    · next same => exact .inr ⟨_,_,_,_,by rw [same]⟩
    · exact .inl found
  | removes _ terminals =>
    rw [terminals,lookup_erase] at found
    split at found
    · cases found
    · exact .inl found
  | prunes _ terminals =>
    rw [terminals] at found
    exact .inl found
  | finishes _ terminals =>
    rw [terminals] at found
    exact .inl found

theorem dead_next (rooted : s.Rooted) (once : RegistersOnce s terminalId op) (known : s.Known terminalId)
    (dead : ¬s.Live terminalId) : ¬(s.next ttl op).Live terminalId := by
  rintro ⟨handle,found,running⟩
  rcases registered_before found with before | ⟨mode,resume,createdAt,managed,rfl⟩
  · obtain ⟨after,held,runs⟩ := Option.map_eq_some_iff.mp running
    obtain ⟨row,was,_⟩ := rooted.registered terminalId handle before
    rcases cell_origin held with ⟨origin,also,_,ran⟩ | ⟨fresh,_⟩
    · apply dead
      refine ⟨handle,before,?_⟩
      rw [also]
      exact congrArg some (ran runs)
    · rw [fresh,List.getElem?_eq_none (Nat.le_refl _)] at was
      cases was
  · exact once mode resume createdAt managed rfl known

theorem erase_before {leases : Leases} {key other : String} {lease : SessionRefLease}
    (held : (leases.erase other).lookup key = some lease) : leases.lookup key = some lease := by
  rw [lookup_erase] at held
  split at held
  · cases held
  · exact held

theorem lease_before {key : String} {lease : SessionRefLease} (held : (s.next ttl op).leases.lookup key = some lease) :
    (∃ was, s.leases.lookup key = some was) ∨ s.bindings.lookup key = none := by
  have framed {after : TerminalRegistry} (refs : SameRefs s after) (held : after.leases.lookup key = some lease) :
      (∃ was, s.leases.lookup key = some was) ∨ s.bindings.lookup key = none := by
    rw [refs.leases] at held
    exact .inl ⟨lease,held⟩
  cases op with
  | claimStep call =>
    have stepped := s.claimStep_spec ttl call
    replace held : (s.claimStep ttl call).1.leases.lookup key = some lease := held
    generalize s.claimStep ttl call = result at stepped held
    cases stepped with
    | blocked => exact .inl ⟨lease,held⟩
    | moves _ _ _ leases =>
      rw [leases] at held
      exact .inl ⟨lease,held⟩
    | @answers claimant _ _ _ _ answered _ leases =>
      rw [leases] at held
      cases answered with
      | joined => exact .inl ⟨lease,held⟩
      | unknown => exact .inl ⟨lease,held⟩
      | running => exact .inl ⟨lease,held⟩
      | leased =>
        replace held : (claimLeasePhase ttl s.leases s.bindings claimant).2.lookup key = some lease := held
        rcases claimLeasePhase_spec ttl s.leases s.bindings claimant with
          ⟨_,unbound,phase⟩ | ⟨_,same | ⟨was,found,revoked⟩⟩
        · rw [phase,lookup_insert] at held
          split at held
          · next same => exact .inr (same ▸ unbound)
          · exact .inl ⟨lease,held⟩
        · rw [same] at held
          exact .inl ⟨lease,held⟩
        · rw [revoked,lookup_insert] at held
          split at held
          · next same => exact .inl ⟨was,same ▸ found⟩
          · exact .inl ⟨lease,held⟩
  | complete locator request terminalId =>
    replace held : (s.complete locator request terminalId).1.leases.lookup key = some lease := held
    unfold complete at held
    split at held
    · split at held
      · exact .inl ⟨lease,held⟩
      · exact .inl ⟨lease,erase_before held⟩
    · exact .inl ⟨lease,held⟩
  | setLeasePid locator request pid =>
    replace held : (Registry.setLeasePid s.leases locator request pid).lookup key = some lease := held
    unfold Registry.setLeasePid at held
    split at held
    · next was found =>
      split at held
      · rw [lookup_insert] at held
        split at held
        · next same => exact .inl ⟨was,same ▸ found⟩
        · exact .inl ⟨lease,held⟩
      · exact .inl ⟨lease,held⟩
    · exact .inl ⟨lease,held⟩
  | fail locator request =>
    replace held : (failClaim s.leases locator request).lookup key = some lease := held
    unfold failClaim at held
    split at held
    · split at held
      · exact .inl ⟨lease,erase_before held⟩
      · exact .inl ⟨lease,held⟩
    · exact .inl ⟨lease,held⟩
  | releaseForConn conn =>
    replace held : (Registry.releaseForConn s.leases conn).lookup key = some lease := held
    rw [Registry.releaseForConn,lookup_retain,Option.filter_eq_some_iff] at held
    exact .inl ⟨lease,held.1⟩
  | forceRelease locator => exact .inl ⟨lease,erase_before held⟩
  | prune shared =>
    replace held : (s.prune shared).1.leases.lookup key = some lease := held
    unfold prune at held
    split at held <;> exact .inl ⟨lease,held⟩
  | claim call claimant =>
    replace held : (s.claim call claimant).1.leases.lookup key = some lease := held
    unfold claim at held
    split at held <;> exact .inl ⟨lease,held⟩
  | kill terminalId allowManaged => exact framed kill_refs held
  | finishKill shared => exact framed finishKill_refs held
  | enforceIdleKills now => exact framed enforceIdleKills_refs held
  | probeIdle terminalId => exact framed probeIdle_refs held
  | reapIdle => exact framed reapIdle_refs held
  | killIdle => exact framed killIdle_refs held
  | _ => exact .inl ⟨lease,held⟩

theorem apart_next (apart : s.Apart) : (s.next ttl op).Apart := by
  intro key lease held
  have unbound : s.bindings.lookup key = none := by
    rcases lease_before held with ⟨was,before⟩ | none
    · exact apart key was before
    · exact none
  have step := s.binding_step ttl op
  rcases bound : (s.next ttl op).bindings.lookup key with _ | terminalId
  · rfl
  · exfalso
    generalize (s.next ttl op).bindings = bindings at step bound
    cases step with
    | frame =>
      rw [unbound] at bound
      cases bound
    | pruned =>
      rw [lookup_retain,unbound] at bound
      cases bound
    | @bound locator request other may unlocked =>
      rw [lookup_insert] at bound
      split at bound
      · next same =>
        -- the completion that binds the reference ends its lease
        have ended : (s.next ttl (.complete locator request other)).leases.lookup key = none := by
          show (s.complete locator request other).1.leases.lookup key = none
          rw [complete,if_pos may,unlocked,same]
          exact (lookup_erase _ _ _).trans (if_pos rfl)
        rw [ended] at held
        cases held
      · rw [unbound] at bound
        cases bound
    | absent =>
      rw [lookup_erase,unbound] at bound
      split at bound <;> cases bound
    | dead =>
      rw [lookup_erase,unbound] at bound
      split at bound <;> cases bound

/-- A lock hold takes the bindings lock only where it is free, and gives it up
    only where its own call holds it. -/
theorem locked_claimStep (locked : s.Locked) {call : Nat} {result : TerminalRegistry × Reply}
    (stepped : ClaimStep ttl s call result) : result.1.Locked := by
  intro other standing bound under holding
  cases stepped with
  | blocked => exact locked other standing bound under holding
  | @moves claimant before phase after held moved calls leases lock bindings =>
    rw [calls,lookup_insert] at under
    split at under
    · next same =>
      cases under
      subst same
      cases moved with
      | passed => cases holding
      | joined => cases holding
      | unjoined => cases holding
      | unbound => cases holding
      | bound free found =>
        cases holding
        exact ⟨lock,(congrArg _ bindings).trans found⟩
      | registered known =>
        obtain ⟨mine,found⟩ := locked other _ bound held holding
        exact ⟨lock.trans mine,(congrArg _ bindings).trans found⟩
      | gone => cases holding
      | peeked known =>
        obtain ⟨mine,found⟩ := locked other _ bound held holding
        exact ⟨lock.trans mine,(congrArg _ bindings).trans found⟩
      | dead => cases holding
    · next distinct =>
      obtain ⟨mine,found⟩ := locked other standing bound under holding
      have unheld : before.holds = none := by
        rcases holds : before.holds with _ | terminalId
        · rfl
        · obtain ⟨also,_⟩ := locked call _ terminalId held holds
          exact absurd (Option.some.inj (mine.symm.trans also)) distinct
      have unlocked : phase.holds = none := by
        cases moved with
        | bound free => exact absurd (mine.symm.trans free) nofun
        | registered => exact unheld
        | peeked => exact unheld
        | _ => rfl
      rw [unheld,unlocked] at lock bindings
      exact ⟨lock.trans mine,(congrArg _ bindings).trans found⟩
  | @answers claimant before claim after held answered calls leases lock bindings =>
    rw [calls,lookup_erase] at under
    split at under
    · cases under
    · next distinct =>
      obtain ⟨mine,found⟩ := locked other standing bound under holding
      have unheld : before.holds = none := by
        rcases holds : before.holds with _ | terminalId
        · rfl
        · obtain ⟨also,_⟩ := locked call _ terminalId held holds
          exact absurd (Option.some.inj (mine.symm.trans also)) distinct
      rw [unheld] at lock
      exact ⟨lock.trans mine,(congrArg _ bindings).trans found⟩

theorem locked_next (locked : s.Locked) : (s.next ttl op).Locked := by
  intro call standing bound under holding
  have former (before : s.calls.lookup call = some standing) (lock : (s.next ttl op).bindingsLock = s.bindingsLock)
      (bindings : (s.next ttl op).bindings.lookup standing.claimant.key = s.bindings.lookup standing.claimant.key) :
      (s.next ttl op).bindingsLock = some call ∧
        (s.next ttl op).bindings.lookup standing.claimant.key = some bound := by
    obtain ⟨held,found⟩ := locked call standing bound before holding
    exact ⟨lock.trans held,bindings.trans found⟩
  have step := s.call_step ttl op
  cases step with
  | frame elsewhere calls lock =>
    rw [calls] at under
    obtain ⟨held,_⟩ := locked call standing bound under holding
    apply former under lock
    have unlocked : s.bindingsLock ≠ none := by
      rw [held]
      exact nofun
    have moved := s.binding_step ttl op
    generalize (s.next ttl op).bindings = bindings at moved
    cases moved with
    | frame => rfl
    | pruned _ free => exact absurd free unlocked
    | bound _ _ free => exact absurd free unlocked
    | absent => exact absurd rfl (elsewhere _)
    | dead => exact absurd rfl (elsewhere _)
  | @begins place claimant _ fresh calls lock =>
    rw [calls,lookup_insert] at under
    split at under
    · cases under
      cases holding
    · apply former under lock
      show (s.claim place claimant).1.bindings.lookup _ = _
      unfold claim
      split <;> rfl
  | steps stepped => exact locked_claimStep locked stepped call standing bound under holding

end TerminalRegistry

namespace LeaseBook
variable {b : LeaseBook} {ttl : UInt64} {op : Op} {terminalId : String}

/-- What holds of one terminal that is registered once: a reference that a
    completion has bound to it is still bound to it, or it is dead. -/
structure Binds (terminalId : String) (b : LeaseBook) : Prop where
  rooted : b.registry.Rooted
  apart : b.registry.Apart
  locked : b.registry.Locked
  unique : ∀ (first second : Nat) (row other : TerminalShared), b.registry.cells[first]? = some row →
    b.registry.cells[second]? = some other → row.terminalId = terminalId → other.terminalId = terminalId → first = second
  removed : ∀ shared pruned, b.registry.kills.lookup shared = some ⟨terminalId,pruned⟩ →
    b.registry.terminals.lookup terminalId = none
  peeked : ∀ call standing, b.registry.calls.lookup call = some standing → standing.phase = .peeking terminalId →
    b.registry.Known terminalId
  reading : ∀ call standing shared, b.registry.calls.lookup call = some standing →
    standing.phase = .reading terminalId shared →
    ∃ row, b.registry.cells[shared]? = some row ∧ row.terminalId = terminalId
  stays : ∀ key, (key,terminalId) ∈ b.ledger.bound →
    b.registry.bindings.lookup key = some terminalId ∨ b.registry.Known terminalId ∧ ¬b.registry.Live terminalId

namespace Binds

theorem unique_next (binds : b.Binds terminalId) (once : b.registry.RegistersOnce terminalId op)
    (first second : Nat) (row other : TerminalShared)
    (held : (b.next ttl op).registry.cells[first]? = some row)
    (also : (b.next ttl op).registry.cells[second]? = some other) (named : row.terminalId = terminalId)
    (same : other.terminalId = terminalId) : first = second := by
  subst named
  rcases TerminalRegistry.cell_origin held with ⟨was,before,named,_⟩ | ⟨here,mode,resume,createdAt,managed,registers⟩
  · rcases TerminalRegistry.cell_origin also with ⟨were,former,known,_⟩ | ⟨_,mode,resume,createdAt,managed,registers⟩
    · exact binds.unique first second was were before former named (known.trans same)
    · rw [same] at registers
      exact absurd ⟨first,was,before,named⟩ (once mode resume createdAt managed registers)
  · rcases TerminalRegistry.cell_origin also with ⟨were,former,known,_⟩ | ⟨there,_⟩
    · exact absurd ⟨second,were,former,known.trans same⟩ (once mode resume createdAt managed registers)
    · exact here.trans there.symm

theorem removed_next (binds : b.Binds terminalId) (once : b.registry.RegistersOnce terminalId op)
    (shared : Nat) (pruned : Bool)
    (killing : (b.next ttl op).registry.kills.lookup shared = some ⟨terminalId,pruned⟩) :
    (b.next ttl op).registry.terminals.lookup terminalId = none := by
  have step := b.registry.registration_step ttl op
  replace killing : (b.registry.next ttl op).kills.lookup shared = some ⟨terminalId,pruned⟩ := killing
  show (b.registry.next ttl op).terminals.lookup terminalId = none
  generalize b.registry.next ttl op = after at step killing
  cases step with
  | frame terminals kills =>
    rw [kills] at killing
    rw [terminals]
    exact binds.removed shared pruned killing
  | registers terminals kills =>
    rw [kills] at killing
    rw [terminals,lookup_insert]
    split
    · next same =>
      subst same
      obtain ⟨row,held,named⟩ := binds.rooted.killing shared _ killing
      exact absurd ⟨shared,row,held,named⟩ (once _ _ _ _ rfl)
    · exact binds.removed shared pruned killing
  | removes found terminals kills =>
    rw [kills,lookup_insert] at killing
    rw [terminals,lookup_erase]
    split at killing
    · cases killing
      exact if_pos rfl
    · split
      · rfl
      · exact binds.removed shared pruned killing
  | prunes pending terminals kills =>
    rw [kills,lookup_insert] at killing
    rw [terminals]
    split at killing
    · cases killing
      exact binds.removed _ _ pending
    · exact binds.removed shared pruned killing
  | finishes done terminals kills =>
    rw [kills,lookup_erase] at killing
    rw [terminals]
    split at killing
    · cases killing
    · exact binds.removed shared pruned killing

theorem peeked_next (binds : b.Binds terminalId) (call : Nat) (standing : ClaimCall)
    (under : (b.next ttl op).registry.calls.lookup call = some standing) (peeking : standing.phase = .peeking terminalId) :
    (b.next ttl op).registry.Known terminalId := by
  have former (before : b.registry.calls.lookup call = some standing) : (b.next ttl op).registry.Known terminalId :=
    TerminalRegistry.known_next (binds.peeked call standing before peeking)
  have step : TerminalRegistry.CallStep ttl b.registry op (b.next ttl op).registry := b.registry.call_step ttl op
  cases step with
  | frame _ calls =>
    rw [calls] at under
    exact former under
  | begins _ calls =>
    rw [calls,lookup_insert] at under
    split at under
    · cases under
      cases peeking
    · exact former under
  | steps stepped =>
    rcases TerminalRegistry.under_of_claimStep stepped under with before | ⟨_,_,_,moved⟩
    · exact former before
    · rw [peeking] at moved
      cases moved with
      | registered known =>
        obtain ⟨handle,found⟩ := Option.isSome_iff_exists.mp known
        obtain ⟨row,held,named⟩ := binds.rooted.registered terminalId handle found
        exact TerminalRegistry.known_next ⟨handle.shared,row,held,named⟩

theorem reading_next (binds : b.Binds terminalId) (call : Nat) (standing : ClaimCall) (shared : Nat)
    (under : (b.next ttl op).registry.calls.lookup call = some standing)
    (reading : standing.phase = .reading terminalId shared) :
    ∃ row, (b.next ttl op).registry.cells[shared]? = some row ∧ row.terminalId = terminalId := by
  have kept (before : ∃ row, b.registry.cells[shared]? = some row ∧ row.terminalId = terminalId) :
      ∃ row, (b.next ttl op).registry.cells[shared]? = some row ∧ row.terminalId = terminalId := by
    obtain ⟨row,held,named⟩ := before
    obtain ⟨after,now,same⟩ := TerminalRegistry.cell_kept ttl op held
    exact ⟨after,now,same.trans named⟩
  have former (before : b.registry.calls.lookup call = some standing) :
      ∃ row, (b.next ttl op).registry.cells[shared]? = some row ∧ row.terminalId = terminalId :=
    kept (binds.reading call standing shared before reading)
  have step : TerminalRegistry.CallStep ttl b.registry op (b.next ttl op).registry := b.registry.call_step ttl op
  cases step with
  | frame _ calls =>
    rw [calls] at under
    exact former under
  | begins _ calls =>
    rw [calls,lookup_insert] at under
    split at under
    · cases under
      cases reading
    · exact former under
  | steps stepped =>
    rcases TerminalRegistry.under_of_claimStep stepped under with before | ⟨_,_,_,moved⟩
    · exact former before
    · rw [reading] at moved
      cases moved with
      | peeked found => exact kept (binds.rooted.registered terminalId _ found)

theorem dead_of_unregistered (gone : b.registry.terminals.lookup terminalId = none) : ¬b.registry.Live terminalId := by
  rintro ⟨handle,found,_⟩
  rw [gone] at found
  cases found

theorem bound_next (binds : b.Binds terminalId) {key : String} (found : b.registry.bindings.lookup key = some terminalId) :
    (b.next ttl op).registry.bindings.lookup key = some terminalId ∨
      b.registry.Known terminalId ∧ ¬b.registry.Live terminalId := by
  have step : BindingStep b.registry op (b.next ttl op).registry.bindings := b.registry.binding_step ttl op
  generalize (b.next ttl op).registry.bindings = bindings at step
  cases step with
  | frame => exact .inl found
  | @pruned shared kill pending free =>
    by_cases same : terminalId = kill.terminalId
    · right
      subst same
      obtain ⟨row,held,named⟩ := binds.rooted.killing shared kill pending
      exact ⟨⟨shared,row,held,named⟩,dead_of_unregistered (binds.removed shared kill.pruned pending)⟩
    · left
      rw [lookup_retain,found]
      simp [same]
  | @bound locator request other may free =>
    left
    rw [lookup_insert]
    split
    · next same =>
      obtain ⟨lease,held,_⟩ := mayComplete_iff.mp may
      rw [same,binds.apart _ lease held] at found
      cases found
    · exact found
  | @absent call claimant other peeking gone =>
    by_cases same : key = claimant.key
    · right
      obtain ⟨_,recorded⟩ := binds.locked call _ other peeking rfl
      rw [← same,found] at recorded
      obtain rfl := Option.some.inj recorded
      exact ⟨binds.peeked call _ peeking rfl,dead_of_unregistered gone⟩
    · left
      rw [lookup_erase,if_neg same]
      exact found
  | @dead call claimant other shared reading exited =>
    by_cases same : key = claimant.key
    · right
      obtain ⟨_,recorded⟩ := binds.locked call _ other reading rfl
      rw [← same,found] at recorded
      obtain rfl := Option.some.inj recorded
      obtain ⟨row,held,named⟩ := binds.reading call _ shared reading rfl
      refine ⟨⟨shared,row,held,named⟩,?_⟩
      rintro ⟨handle,registered,running⟩
      obtain ⟨live,there,also⟩ := binds.rooted.registered _ handle registered
      have one := binds.unique shared handle.shared row live held there named also
      exact exited (one ▸ running)
    · left
      rw [lookup_erase,if_neg same]
      exact found

theorem bound_before {key : String} (listed : (key,terminalId) ∈ (b.next ttl op).ledger.bound) :
    (key,terminalId) ∈ b.ledger.bound ∨ (b.next ttl op).registry.bindings.lookup key = some terminalId := by
  cases op with
  | complete locator request other =>
    replace listed : (key,terminalId) ∈ (b.ledger.note (.complete locator request other)
      (b.registry.complete locator request other).2).bound := listed
    show _ ∨ (b.registry.complete locator request other).1.bindings.lookup key = some terminalId
    unfold TerminalRegistry.complete at listed ⊢
    split at listed
    · next may =>
      rw [if_pos may]
      split at listed
      · exact .inl listed
      · rcases List.mem_cons.mp listed with now | before
        · cases now
          exact .inr ((lookup_insert _ _ _ _).trans (if_pos rfl))
        · exact .inl before
    · exact .inl listed
  | claimStep call =>
    left
    replace listed : (key,terminalId) ∈ (b.ledger.note (.claimStep call) (b.registry.claimStep ttl call).2).bound := listed
    generalize (b.registry.claimStep ttl call).2 = reply at listed
    cases reply with
    | answered claimant claim => cases claim <;> exact listed
    | _ => exact listed
  | releaseForConn conn => exact .inl listed
  | _ => exact .inl listed

theorem stays_next (binds : b.Binds terminalId) (once : b.registry.RegistersOnce terminalId op)
    (key : String) (listed : (key,terminalId) ∈ (b.next ttl op).ledger.bound) :
    (b.next ttl op).registry.bindings.lookup key = some terminalId ∨
      (b.next ttl op).registry.Known terminalId ∧ ¬(b.next ttl op).registry.Live terminalId := by
  have buried (gone : b.registry.Known terminalId ∧ ¬b.registry.Live terminalId) :
      (b.next ttl op).registry.Known terminalId ∧ ¬(b.next ttl op).registry.Live terminalId :=
    ⟨TerminalRegistry.known_next gone.1,TerminalRegistry.dead_next binds.rooted once gone.1 gone.2⟩
  rcases bound_before listed with before | now
  · rcases binds.stays key before with found | gone
    · exact (binds.bound_next found).imp_right buried
    · exact .inr (buried gone)
  · exact .inl now

theorem next (binds : b.Binds terminalId) (once : b.registry.RegistersOnce terminalId op) :
    (b.next ttl op).Binds terminalId where
  rooted := TerminalRegistry.rooted_next binds.rooted ttl op
  apart := TerminalRegistry.apart_next binds.apart
  locked := TerminalRegistry.locked_next binds.locked
  unique := binds.unique_next once
  removed := binds.removed_next once
  peeked := binds.peeked_next
  reading := binds.reading_next
  stays := binds.stays_next once

end Binds

theorem binds_new (terminalId : String) (minutes : Int) : (new minutes).Binds terminalId where
  rooted := TerminalRegistry.rooted_new minutes
  apart _ _ held := nomatch held
  locked _ _ _ under := nomatch under
  unique _ _ _ _ held := nomatch held
  removed _ _ killing := nomatch killing
  peeked _ _ under := nomatch under
  reading _ _ _ under := nomatch under
  stays _ listed := nomatch listed

/-- The step grants no reference that a completion has bound to the terminal
    while the terminal is registered and running. -/
def GrantsNoBound (ttl : UInt64) (terminalId : String) (b : LeaseBook) (op : Op) : Prop :=
  ∀ call claimant, op = .claimStep call → b.reply ttl op = .answered claimant .acquired →
    (claimant.key,terminalId) ∈ b.ledger.bound → ¬b.registry.Live terminalId

theorem Binds.grantsNoBound (binds : b.Binds terminalId) : b.GrantsNoBound ttl terminalId op := by
  rintro call claimant rfl acquired listed
  have spec := b.registry.claimStep_spec ttl call
  rw [show b.registry.claimStep ttl call = ((b.registry.claimStep ttl call).1,.answered claimant .acquired)
    from Prod.ext rfl acquired] at spec
  generalize (b.registry.claimStep ttl call).1 = after at spec
  generalize granted : SessionRefClaim.acquired = claim at spec
  cases spec with
  | answers standing answered =>
    cases answered with
    | joined => cases granted
    | unknown => cases granted
    | running => cases granted
    | leased =>
      rcases claimLeasePhase_spec ttl b.registry.leases b.registry.bindings claimant with ⟨_,unbound,_⟩ | ⟨other,_⟩
      · rcases binds.stays claimant.key listed with found | gone
        · rw [unbound] at found
          cases found
        · exact gone.2
      · exact absurd granted.symm other

end LeaseBook

/-- Over every run, a session reference has at most one outstanding grant; every
    completion that answers true consumes a grant of its own, given earlier to
    the same claimant; and no claim is granted a reference that a completion has
    bound to a terminal while that terminal is registered and running. -/
theorem leases_exclude (ttl : UInt64) (minutes : Int) (ops : List Op) :
    let book := run (LeaseBook.next ttl) (.new minutes) ops
    (book.ledger.outstanding.map Prod.fst).Nodup ∧
      Along (LeaseBook.next ttl) (LeaseBook.ConsumesGrant ttl) (.new minutes) ops ∧
      ∀ terminalId, Along (LeaseBook.next ttl) (fun b => b.registry.RegistersOnce terminalId) (.new minutes) ops →
        Along (LeaseBook.next ttl) (LeaseBook.GrantsNoBound ttl terminalId) (.new minutes) ops := by
  intro book
  refine ⟨(LeaseBook.synced_run ttl minutes ops).single,?_,?_⟩
  · have kept : ∀ (b : LeaseBook) op, b.Synced → True → (b.next ttl op).Synced := fun b op synced _ =>
      LeaseBook.synced_next synced
    have initial : (LeaseBook.new minutes).Synced := Ledger.Synced.empty
    exact invariant_along kept (fun b op synced _ => LeaseBook.consumesGrant synced) initial
      (along_of_forall (fun _ _ => trivial) _ ops)
  · intro terminalId once
    have kept : ∀ (b : LeaseBook) op, b.Binds terminalId → b.registry.RegistersOnce terminalId op →
        (b.next ttl op).Binds terminalId := fun b op binds once => binds.next once
    exact invariant_along kept (fun b op binds _ => binds.grantsNoBound) (LeaseBook.binds_new terminalId minutes) once

end Freshell.Registry
