import Freshell.Registry.Registrations

/-!
The lock holds of a call of `claim_session_ref`: from which phase to which it
moves, and what it answers.
-/
namespace Freshell.Registry
open Freshell.Library.Tables
set_option linter.unusedSimpArgs false

inductive Moves (s : TerminalRegistry) (claimant : Claimant) : ClaimPhase → ClaimPhase → Prop
  | passed {shared : Nat} {rest : List Nat} {live : List (Int × String)} :
      Moves s claimant (.joining (shared :: rest) live) (.joining rest live)
  | joined {shared : Nat} {rest : List Nat} {live : List (Int × String)} {row : TerminalShared}
      (held : s.cells[shared]? = some row) (carries : row.Carries claimant.locator) :
      Moves s claimant (.joining (shared :: rest) live) (.joining rest (live ++ [(row.createdAt,row.terminalId)]))
  | unjoined {live : List (Int × String)} : Moves s claimant (.joining [] live) .binding
  | unbound (none : s.bindings.lookup claimant.key = none) : Moves s claimant .binding .leasing
  | bound {terminalId : String} (unlocked : s.bindingsLock = none)
      (found : s.bindings.lookup claimant.key = some terminalId) : Moves s claimant .binding (.probing terminalId)
  | registered {terminalId : String} (known : (s.terminals.lookup terminalId).isSome) :
      Moves s claimant (.probing terminalId) (.peeking terminalId)
  | gone {terminalId : String} (absent : s.terminals.lookup terminalId = none) :
      Moves s claimant (.peeking terminalId) .leasing
  | peeked {terminalId : String} {handle : TerminalHandle} (found : s.terminals.lookup terminalId = some handle) :
      Moves s claimant (.peeking terminalId) (.reading terminalId handle.shared)
  | dead {terminalId : String} {shared : Nat} (exited : s.cells[shared]?.map (·.status) ≠ some .running) :
      Moves s claimant (.reading terminalId shared) .leasing

/-- The lock hold that ends the call, and its answer. -/
inductive Answers (ttl : UInt64) (s : TerminalRegistry) (claimant : Claimant) : ClaimPhase → SessionRefClaim → Prop
  | joined {live : List (Int × String)} {terminalId : String} (found : newest live = some terminalId) :
      Answers ttl s claimant (.joining [] live) (.boundElsewhere terminalId)
  | unknown {terminalId : String} (absent : s.terminals.lookup terminalId = none) :
      Answers ttl s claimant (.probing terminalId) (.boundElsewhere terminalId)
  | running {terminalId : String} {shared : Nat} (runs : s.cells[shared]?.map (·.status) = some .running) :
      Answers ttl s claimant (.reading terminalId shared) (.boundElsewhere terminalId)
  | leased (unlocked : s.leases.lookup claimant.key = none → s.bindingsLock = none) :
      Answers ttl s claimant .leasing (claimLeasePhase ttl s.leases s.bindings claimant).1

/-- The leases after the lock hold that ends the call. -/
def ClaimPhase.leases (ttl : UInt64) (s : TerminalRegistry) (claimant : Claimant) : ClaimPhase → Leases
  | .leasing => (claimLeasePhase ttl s.leases s.bindings claimant).2
  | _ => s.leases

/-- The terminal on whose binding the phase holds the bindings lock. -/
def ClaimPhase.holds : ClaimPhase → Option String
  | .probing terminalId => some terminalId
  | .peeking terminalId => some terminalId
  | .reading terminalId _ => some terminalId
  | _ => none

/-- The bindings lock after a lock hold that leads from the one binding held to
    the other. -/
def lockAfter (lock : Option Nat) (call : Nat) : Option String → Option String → Option Nat
  | none, some _ => some call
  | some _, none => none
  | _, _ => lock

/-- The bindings after it: a call that lets go of a binding drops it. -/
def bindingsAfter (bindings : Bindings) (key : String) : Option String → Option String → Bindings
  | some _, none => bindings.erase key
  | _, _ => bindings

inductive ClaimStep (ttl : UInt64) (s : TerminalRegistry) (call : Nat) : TerminalRegistry × Reply → Prop
  | blocked : ClaimStep ttl s call (s,.blocked)
  | moves {claimant : Claimant} {before phase : ClaimPhase} {after : TerminalRegistry}
      (standing : s.calls.lookup call = some ⟨claimant,before⟩) (moved : Moves s claimant before phase)
      (calls : after.calls = s.calls.insert call ⟨claimant,phase⟩) (leases : after.leases = s.leases)
      (lock : after.bindingsLock = lockAfter s.bindingsLock call before.holds phase.holds)
      (bindings : after.bindings = bindingsAfter s.bindings claimant.key before.holds phase.holds) :
      ClaimStep ttl s call (after,.done)
  | answers {claimant : Claimant} {before : ClaimPhase} {claim : SessionRefClaim} {after : TerminalRegistry}
      (standing : s.calls.lookup call = some ⟨claimant,before⟩) (answered : Answers ttl s claimant before claim)
      (calls : after.calls = s.calls.erase call) (leases : after.leases = before.leases ttl s claimant)
      (lock : after.bindingsLock = lockAfter s.bindingsLock call before.holds none)
      (bindings : after.bindings = s.bindings) :
      ClaimStep ttl s call (after,.answered claimant claim)

namespace TerminalRegistry
variable {s : TerminalRegistry} {ttl : UInt64} {call : Nat} {claimant : Claimant}

theorem claimBinding_spec (standing : s.calls.lookup call = some ⟨claimant,.binding⟩) :
    ClaimStep ttl s call (s.claimBinding call claimant) := by
  unfold claimBinding
  split
  · exact .blocked
  · next unlocked =>
    split
    · next unbound => exact .moves standing (.unbound unbound) rfl rfl rfl rfl
    · next terminalId found => exact .moves standing (.bound unlocked found) rfl rfl rfl rfl

theorem claimLease_spec (standing : s.calls.lookup call = some ⟨claimant,.leasing⟩) :
    ClaimStep ttl s call (s.claimLease ttl call claimant) := by
  unfold claimLease
  split
  · exact .blocked
  · next waits =>
    have unlocked : s.leases.lookup claimant.key = none → s.bindingsLock = none := by
      intro free
      rcases locked : s.bindingsLock with _ | holder
      · rfl
      · exact (waits holder free locked).elim
    exact .answers standing (.leased unlocked) rfl rfl rfl rfl

theorem claimStep_spec (s : TerminalRegistry) (ttl : UInt64) (call : Nat) : ClaimStep ttl s call (s.claimStep ttl call) := by
  unfold claimStep
  split
  · exact .blocked
  · next claimant shared rest live standing =>
    split
    · exact .moves standing .passed rfl rfl rfl rfl
    · next row held =>
      split
      · next carries => exact .moves standing (.joined held carries) rfl rfl rfl rfl
      · exact .moves standing .passed rfl rfl rfl rfl
  · next claimant live standing =>
    split
    · next terminalId found => exact .answers standing (.joined found) rfl rfl rfl rfl
    · exact .moves standing .unjoined rfl rfl rfl rfl
  · next claimant standing => exact claimBinding_spec standing
  · next claimant terminalId standing =>
    split
    · next known => exact .moves standing (.registered known) rfl rfl rfl rfl
    · next unknown => exact .answers standing (.unknown (Option.not_isSome_iff_eq_none.mp unknown)) rfl rfl rfl rfl
  · next claimant terminalId standing =>
    split
    · next absent => exact .moves standing (.gone absent) rfl rfl rfl rfl
    · next handle found => exact .moves standing (.peeked found) rfl rfl rfl rfl
  · next claimant terminalId shared standing =>
    split
    · next runs => exact .answers standing (.running runs) rfl rfl rfl rfl
    · next exited => exact .moves standing (.dead exited) rfl rfl rfl rfl
  · next claimant standing => exact claimLease_spec standing

/-- A call under way after a lock hold was under way before, or is the one that
    the lock hold moved. -/
theorem under_of_claimStep {result : TerminalRegistry × Reply} (stepped : ClaimStep ttl s call result) {other : Nat}
    {standing : ClaimCall} (under : result.1.calls.lookup other = some standing) :
    s.calls.lookup other = some standing ∨ other = call ∧ ∃ before,
      s.calls.lookup call = some ⟨standing.claimant,before⟩ ∧ Moves s standing.claimant before standing.phase := by
  cases stepped with
  | blocked => exact .inl under
  | moves held moved calls =>
    rw [calls,lookup_insert] at under
    split at under
    · next same =>
      cases under
      exact .inr ⟨same,_,held,moved⟩
    · exact .inl under
  | answers held answered calls =>
    rw [calls,lookup_erase] at under
    split at under
    · cases under
    · exact .inl under

inductive CallStep (ttl : UInt64) (s : TerminalRegistry) : Op → TerminalRegistry → Prop
  | frame {op : Op} {after : TerminalRegistry} (elsewhere : ∀ call, op ≠ .claimStep call) (calls : after.calls = s.calls)
      (lock : after.bindingsLock = s.bindingsLock) : CallStep ttl s op after
  | begins {call : Nat} {claimant : Claimant} {after : TerminalRegistry} (fresh : s.calls.lookup call = none)
      (calls : after.calls =
        s.calls.insert call ⟨claimant,.joining (s.terminals.entries.map (·.2.shared)) []⟩)
      (lock : after.bindingsLock = s.bindingsLock) :
      CallStep ttl s (.claim call claimant) after
  | steps {call : Nat} {reply : Reply} {after : TerminalRegistry} (stepped : ClaimStep ttl s call (after,reply)) :
      CallStep ttl s (.claimStep call) after

theorem prune_calls {shared : Nat} :
    (s.prune shared).1.calls = s.calls ∧ (s.prune shared).1.bindingsLock = s.bindingsLock := by
  unfold prune
  split <;> exact ⟨rfl,rfl⟩

theorem complete_calls {locator : SessionLocator} {request terminalId : String} :
    (s.complete locator request terminalId).1.calls = s.calls ∧
      (s.complete locator request terminalId).1.bindingsLock = s.bindingsLock := by
  unfold complete
  split
  · split <;> exact ⟨rfl,rfl⟩
  · exact ⟨rfl,rfl⟩

theorem call_step (s : TerminalRegistry) (ttl : UInt64) (op : Op) : CallStep ttl s op (s.next ttl op) := by
  cases op with
  | claim call claimant =>
    show CallStep ttl s _ (s.claim call claimant).1
    unfold claim
    split
    · exact .frame nofun rfl rfl
    · next fresh => exact .begins fresh rfl rfl
  | claimStep call => exact .steps (s.claimStep_spec ttl call)
  | prune shared => exact .frame nofun prune_calls.1 prune_calls.2
  | complete locator request terminalId => exact .frame nofun complete_calls.1 complete_calls.2
  | kill terminalId allowManaged => exact .frame nofun kill_refs.calls kill_refs.bindingsLock
  | finishKill shared => exact .frame nofun finishKill_refs.calls finishKill_refs.bindingsLock
  | enforceIdleKills now => exact .frame nofun enforceIdleKills_refs.calls enforceIdleKills_refs.bindingsLock
  | probeIdle terminalId => exact .frame nofun probeIdle_refs.calls probeIdle_refs.bindingsLock
  | reapIdle => exact .frame nofun reapIdle_refs.calls reapIdle_refs.bindingsLock
  | killIdle => exact .frame nofun killIdle_refs.calls killIdle_refs.bindingsLock
  | _ => exact .frame nofun rfl rfl

end TerminalRegistry
end Freshell.Registry
