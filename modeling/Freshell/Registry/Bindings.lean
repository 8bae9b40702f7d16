import Freshell.Registry.Claims
import Freshell.Library.Runs

/-!
The recorded bindings of session references: where each names a terminal that is
registered, or whose kill has yet to prune it, a claim is referred to terminals
that were registered while it looked.
-/
namespace Freshell.Registry
open Freshell.Library.Tables Freshell.Library.Runs
set_option linter.unusedSimpArgs false

namespace TerminalRegistry

def Present (s : TerminalRegistry) (terminalId : String) : Prop := terminalId ∈ s.terminals.keys

instance (s : TerminalRegistry) (terminalId : String) : Decidable (s.Present terminalId) :=
  inferInstanceAs (Decidable (_ ∈ _))

/-- A kill has removed the terminal and has yet to prune its bindings. -/
def Leaving (s : TerminalRegistry) (terminalId : String) : Prop :=
  ∃ shared, s.kills.lookup shared = some ⟨terminalId,false⟩

theorem present_iff {s : TerminalRegistry} {terminalId : String} :
    s.Present terminalId ↔ (s.terminals.lookup terminalId).isSome := AList.lookup_isSome.symm

def Begins (s : TerminalRegistry) (op : Op) (call : Nat) : Prop :=
  (∃ claimant, op = .claim call claimant) ∧ s.calls.lookup call = none

end TerminalRegistry

/-- The registry, and for each call of `claim_session_ref` the terminals that
    were registered at some moment since it began. -/
structure History where
  registry : TerminalRegistry
  seen : Nat → Set String

namespace History

def new (autoKillIdleMinutes : Int) : History := ⟨.new autoKillIdleMinutes,fun _ => ∅⟩

def next (ttl : UInt64) (h : History) (op : Op) : History where
  registry := h.registry.next ttl op
  seen call := { terminalId | (h.registry.next ttl op).Present terminalId ∨
    ¬h.registry.Begins op call ∧ terminalId ∈ h.seen call }

def RefersToPresent (ttl : UInt64) (h : History) (op : Op) : Prop :=
  ∀ call claimant terminalId, op = .claimStep call →
    (h.registry.step ttl op).2 = .answered claimant (.boundElsewhere terminalId) → terminalId ∈ h.seen call

/-- A binding is completed only for a terminal that is registered, or that a
    kill is about to prune; and no claim checks the binding of a terminal that a
    kill has removed and not yet pruned. -/
structure Orderly (h : History) (op : Op) : Prop where
  completes : ∀ locator request terminalId, op = .complete locator request terminalId →
    mayComplete h.registry.leases locator request → h.registry.Present terminalId ∨ h.registry.Leaving terminalId
  checks : ∀ call claimant phase terminalId, op = .claimStep call →
    h.registry.calls.lookup call = some ⟨claimant,phase⟩ → phase = .binding ∨ phase = .leasing →
    h.registry.bindings.lookup claimant.key = some terminalId → h.registry.Leaving terminalId →
    h.registry.Present terminalId

end History

/-- What a call has looked up was registered while it looked. -/
def ClaimPhase.Seen (cells : List TerminalShared) (seen : Set String) : ClaimPhase → Prop
  | .joining rest live =>
    (∀ shared ∈ rest, ∃ row, cells[shared]? = some row ∧ row.terminalId ∈ seen) ∧ ∀ entry ∈ live, entry.2 ∈ seen
  | .probing terminalId => terminalId ∈ seen
  | .peeking terminalId => terminalId ∈ seen
  | .reading terminalId _ => terminalId ∈ seen
  | _ => True

namespace History

structure Honest (h : History) : Prop where
  rooted : h.registry.Rooted
  bound : ∀ key terminalId, h.registry.bindings.lookup key = some terminalId →
    h.registry.Present terminalId ∨ h.registry.Leaving terminalId
  current : ∀ call standing, h.registry.calls.lookup call = some standing →
    ∀ terminalId, h.registry.Present terminalId → terminalId ∈ h.seen call
  looked : ∀ call standing, h.registry.calls.lookup call = some standing →
    standing.phase.Seen h.registry.cells (h.seen call)

variable {h : History} {ttl : UInt64} {op : Op}

variable {terminalId : String}

theorem present_or_leaving_next (rooted : h.registry.Rooted)
    (standing : h.registry.Present terminalId ∨ h.registry.Leaving terminalId)
    (unpruned : ∀ shared, op = .prune shared → h.registry.kills.lookup shared ≠ some ⟨terminalId,false⟩) :
    (h.registry.next ttl op).Present terminalId ∨ (h.registry.next ttl op).Leaving terminalId := by
  have step := h.registry.registration_step ttl op
  simp only [TerminalRegistry.present_iff] at standing ⊢
  generalize h.registry.next ttl op = after at step
  cases step with
  | frame terminals kills =>
    rw [TerminalRegistry.Leaving,terminals,kills]
    exact standing
  | registers terminals kills =>
    rw [TerminalRegistry.Leaving,terminals,kills,lookup_insert]
    refine standing.imp_left fun present => ?_
    split
    · rfl
    · exact present
  | @removes _ removed handle _ found terminals kills =>
    rw [TerminalRegistry.Leaving,terminals,kills,lookup_erase]
    by_cases same : terminalId = removed
    · exact .inr ⟨handle.shared,by rw [lookup_insert,if_pos rfl,same]⟩
    · rw [if_neg same]
      refine standing.imp_right ?_
      rintro ⟨shared,pending⟩
      refine ⟨shared,?_⟩
      rw [lookup_insert,if_neg _,pending]
      intro here
      -- the cell of a kill under way is not registered under another id
      obtain ⟨row,held,named⟩ := rooted.killing shared _ pending
      obtain ⟨other,also,registered⟩ := rooted.registered removed handle found
      rw [← here,held] at also
      obtain rfl := Option.some.inj also
      exact same (named.symm.trans registered)
  | @prunes shared kill _ pending terminals kills =>
    rw [TerminalRegistry.Leaving,terminals,kills]
    refine standing.imp_right ?_
    rintro ⟨place,leaving⟩
    refine ⟨place,?_⟩
    rw [lookup_insert,if_neg _,leaving]
    rintro rfl
    exact unpruned place rfl leaving
  | @finishes shared other _ pruned terminals kills =>
    rw [TerminalRegistry.Leaving,terminals,kills]
    refine standing.imp_right ?_
    rintro ⟨place,leaving⟩
    refine ⟨place,?_⟩
    rw [lookup_erase,if_neg _,leaving]
    rintro rfl
    rw [pruned] at leaving
    cases leaving

theorem Honest.bound_prune (honest : h.Honest) (shared : Nat) (key terminalId : String)
    (found : (h.registry.next ttl (.prune shared)).bindings.lookup key = some terminalId) :
    (h.registry.next ttl (.prune shared)).Present terminalId ∨ (h.registry.next ttl (.prune shared)).Leaving terminalId := by
  have step : h.registry.next ttl (.prune shared) = (h.registry.prune shared).1 := rfl
  rcases pending : h.registry.kills.lookup shared with _ | kill
  · have same : h.registry.next ttl (.prune shared) = h.registry := by
      rw [step,TerminalRegistry.prune,pending]
    rw [same] at found ⊢
    exact honest.bound key terminalId found
  · have former : h.registry.bindings.lookup key = some terminalId ∧
        (h.registry.bindingsLock = none → terminalId ≠ kill.terminalId) := by
      rw [step,TerminalRegistry.prune,pending] at found
      rcases lock : h.registry.bindingsLock with _ | holder
      · simp only [lock] at found
        replace found : (retain (fun _ bound => bound ≠ kill.terminalId) h.registry.bindings).lookup key = some terminalId :=
          found
        rw [lookup_retain,Option.filter_eq_some_iff] at found
        exact ⟨found.1,fun _ => of_decide_eq_true found.2⟩
      · simp only [lock] at found
        exact ⟨found,nofun⟩
    rcases lock : h.registry.bindingsLock with _ | holder
    · apply present_or_leaving_next honest.rooted (honest.bound key terminalId former.1)
      rintro place named leaving
      cases named
      rw [pending] at leaving
      obtain rfl := Option.some.inj leaving
      exact former.2 lock rfl
    · have same : h.registry.next ttl (.prune shared) = h.registry := by
        rw [step,TerminalRegistry.prune,pending,lock]
      rw [same]
      exact honest.bound key terminalId former.1

theorem Honest.bound_next (honest : h.Honest) (orderly : h.Orderly op) (key terminalId : String)
    (found : (h.registry.next ttl op).bindings.lookup key = some terminalId) :
    (h.registry.next ttl op).Present terminalId ∨ (h.registry.next ttl op).Leaving terminalId := by
  by_cases pruning : ∃ shared, op = .prune shared
  · obtain ⟨shared,rfl⟩ := pruning
    exact honest.bound_prune shared key terminalId found
  · have unpruned : ∀ shared, op = .prune shared → h.registry.kills.lookup shared ≠ some ⟨terminalId,false⟩ :=
      fun shared named => absurd ⟨shared,named⟩ pruning
    apply present_or_leaving_next honest.rooted _ unpruned
    have step := h.registry.binding_step ttl op
    generalize (h.registry.next ttl op).bindings = bindings at step found
    cases step with
    | frame => exact honest.bound key terminalId found
    | pruned => exact absurd ⟨_,rfl⟩ pruning
    | @bound locator request bound may unlocked =>
      rw [lookup_insert] at found
      split at found
      · cases found
        exact orderly.completes locator request terminalId rfl may
      · exact honest.bound key terminalId found
    | absent =>
      rw [lookup_erase] at found
      split at found
      · cases found
      · exact honest.bound key terminalId found
    | dead =>
      rw [lookup_erase] at found
      split at found
      · cases found
      · exact honest.bound key terminalId found

variable {call : Nat} {claimant : Claimant} {phase : ClaimPhase}

theorem Honest.present_of_check (honest : h.Honest) (orderly : h.Orderly (.claimStep call))
    (standing : h.registry.calls.lookup call = some ⟨claimant,phase⟩) (checking : phase = .binding ∨ phase = .leasing)
    (found : h.registry.bindings.lookup claimant.key = some terminalId) : terminalId ∈ h.seen call := by
  have present : h.registry.Present terminalId := by
    rcases honest.bound claimant.key terminalId found with present | leaving
    · exact present
    · exact orderly.checks call claimant phase terminalId rfl standing checking found leaving
  exact honest.current call ⟨claimant,phase⟩ standing terminalId present

theorem mem_newest {live : List (Int × String)} (found : newest live = some terminalId) :
    ∃ entry ∈ live, entry.2 = terminalId := by
  obtain ⟨entry,first,rfl⟩ := Option.map_eq_some_iff.mp found
  exact ⟨entry,(List.mem_insertionSort _).mp (List.mem_of_head? first),rfl⟩

theorem seen_next {standing : ClaimCall} (under : h.registry.calls.lookup call = some standing) :
    h.seen call ⊆ (h.next ttl op).seen call := by
  intro terminalId seen
  refine .inr ⟨?_,seen⟩
  rintro ⟨_,fresh⟩
  rw [under] at fresh
  cases fresh

theorem looked_mono {seen after : Set String} (grows : seen ⊆ after) (looked : phase.Seen h.registry.cells seen) :
    phase.Seen (h.registry.next ttl op).cells after := by
  cases phase with
  | joining rest live =>
    constructor
    · intro shared listed
      obtain ⟨row,held,known⟩ := looked.1 shared listed
      obtain ⟨now,kept,same⟩ := TerminalRegistry.cell_kept ttl op held
      exact ⟨now,kept,grows (same ▸ known)⟩
    · intro entry listed
      exact grows (looked.2 entry listed)
  | probing terminalId => exact grows looked
  | peeking terminalId => exact grows looked
  | reading terminalId shared => exact grows looked
  | binding => trivial
  | leasing => trivial

theorem Honest.looked_moves (honest : h.Honest) (orderly : h.Orderly (.claimStep call)) {before : ClaimPhase}
    (standing : h.registry.calls.lookup call = some ⟨claimant,before⟩) (moved : Moves h.registry claimant before phase) :
    phase.Seen h.registry.cells (h.seen call) := by
  have looked := honest.looked call _ standing
  cases moved with
  | passed => exact ⟨fun shared listed => looked.1 shared (List.mem_cons_of_mem _ listed),looked.2⟩
  | joined held carries =>
    refine ⟨fun shared listed => looked.1 shared (List.mem_cons_of_mem _ listed),?_⟩
    intro entry listed
    rcases List.mem_append.mp listed with old | new
    · exact looked.2 entry old
    · obtain rfl := List.mem_singleton.mp new
      obtain ⟨row,same,known⟩ := looked.1 _ List.mem_cons_self
      obtain rfl := Option.some.inj (held.symm.trans same)
      exact known
  | unjoined => trivial
  | unbound => trivial
  | bound unlocked found => exact honest.present_of_check orderly standing (.inl rfl) found
  | registered known => exact looked
  | gone => trivial
  | peeked => exact looked
  | dead => trivial

theorem Honest.looked_next (honest : h.Honest) (orderly : h.Orderly op) (call : Nat) (standing : ClaimCall)
    (under : (h.next ttl op).registry.calls.lookup call = some standing) :
    standing.phase.Seen (h.next ttl op).registry.cells ((h.next ttl op).seen call) := by
  have former (before : h.registry.calls.lookup call = some standing) :
      standing.phase.Seen (h.next ttl op).registry.cells ((h.next ttl op).seen call) :=
    looked_mono (seen_next before) (honest.looked call standing before)
  have step : TerminalRegistry.CallStep ttl h.registry op (h.next ttl op).registry := h.registry.call_step ttl op
  cases step with
  | frame _ calls =>
    rw [calls] at under
    exact former under
  | @begins other claimant _ fresh calls =>
    rw [calls,lookup_insert] at under
    split at under
    · next same =>
      cases under
      constructor
      · intro shared listed
        obtain ⟨⟨terminalId,handle⟩,entry,rfl⟩ := List.mem_map.mp listed
        have found : h.registry.terminals.lookup terminalId = some handle := AList.mem_lookup_iff.mpr entry
        obtain ⟨row,held,named⟩ := honest.rooted.registered terminalId handle found
        obtain ⟨now,kept,also⟩ := TerminalRegistry.cell_kept ttl (.claim other claimant) held
        refine ⟨now,kept,.inl ?_⟩
        rw [also,named,TerminalRegistry.present_iff]
        show ((h.registry.claim other claimant).1.terminals.lookup terminalId).isSome
        rw [TerminalRegistry.claim_registry.terminals,found]
        rfl
      · intro entry listed
        cases listed
    · exact former under
  | @steps other reply _ stepped =>
    rcases TerminalRegistry.under_of_claimStep stepped under with before | ⟨rfl,_,held,moved⟩
    · exact former before
    · exact looked_mono (seen_next held) (honest.looked_moves orderly held moved)

theorem Honest.next (honest : h.Honest) (orderly : h.Orderly op) : (h.next ttl op).Honest where
  rooted := TerminalRegistry.rooted_next honest.rooted ttl op
  bound := honest.bound_next orderly
  current _ _ _ _ present := .inl present
  looked := honest.looked_next orderly

theorem Honest.refersToPresent (honest : h.Honest) (orderly : h.Orderly op) : h.RefersToPresent ttl op := by
  rintro call claimant terminalId rfl answered
  have spec := h.registry.claimStep_spec ttl call
  rw [show h.registry.claimStep ttl call = ((h.registry.claimStep ttl call).1,.answered claimant (.boundElsewhere terminalId))
    from Prod.ext rfl answered] at spec
  generalize (h.registry.claimStep ttl call).1 = after at spec
  generalize bound : SessionRefClaim.boundElsewhere terminalId = claim at spec
  cases spec with
  | answers standing reached =>
    have looked := honest.looked call _ standing
    cases reached with
    | joined found =>
      cases bound
      obtain ⟨entry,listed,rfl⟩ := mem_newest found
      exact looked.2 entry listed
    | unknown absent =>
      cases bound
      exact looked
    | running runs =>
      cases bound
      exact looked
    | leased unlocked =>
      have found : h.registry.bindings.lookup claimant.key = some terminalId := by
        unfold claimLeasePhase at bound
        split at bound
        · split at bound
          · next recorded =>
            cases bound
            exact recorded
          · cases bound
        · split at bound
          · cases bound
          · split at bound <;> cases bound
      exact honest.present_of_check orderly standing (.inr rfl) found

theorem honest_new (minutes : Int) : (new minutes).Honest where
  rooted := TerminalRegistry.rooted_new minutes
  bound _ _ found := nomatch found
  current _ _ standing := nomatch standing
  looked _ _ standing := nomatch standing

end History

/-- In a run whose bindings are completed for terminals that are registered or
    about to be pruned, and checked outside the window of a kill between removal
    and prune, a claim is never referred to a terminal that was not registered
    while it looked. -/
theorem bindings_refer_to_present (ttl : UInt64) (minutes : Int) (ops : List Op)
    (orderly : Along (History.next ttl) History.Orderly (.new minutes) ops) :
    Along (History.next ttl) (History.RefersToPresent ttl) (.new minutes) ops := by
  have kept : ∀ (h : History) op, h.Honest → h.Orderly op → (h.next ttl op).Honest := fun h op honest orderly =>
    honest.next orderly
  exact invariant_along kept (fun h op honest orderly => honest.refersToPresent orderly) (History.honest_new minutes)
    orderly

theorem History.orderly_of_unkilled {h : History} {op : Op} (unkilled : h.registry.kills = ∅)
    (completes : ∀ locator request terminalId, op = .complete locator request terminalId →
      h.registry.Present terminalId) : h.Orderly op where
  completes locator request terminalId named _ := .inl (completes locator request terminalId named)
  checks _ _ _ _ _ _ _ _ leaving := by
    obtain ⟨shared,pending⟩ := leaving
    rw [unkilled] at pending
    cases pending

/-- The winner of a claim registers its terminal and binds it; the next claim
    is referred to it. -/
def boundElsewhere (locator : SessionLocator) : List Op :=
  [.claim 1 ⟨locator,"create-a",1,1000⟩,.claimStep 1,.claimStep 1,.claimStep 1,.register "t" "shell" none 0 false,
    .complete locator "create-a" "t",.claim 2 ⟨locator,"create-b",2,2000⟩,.claimStep 2,.claimStep 2,.claimStep 2,
    .claimStep 2,.claimStep 2,.claimStep 2]

theorem boundElsewhere_refers :
    Along (History.next 20000) (History.RefersToPresent 20000) (.new 15) (boundElsewhere ⟨"codex","s"⟩) := by
  apply bindings_refer_to_present
  have quiet {h : History} {op : Op} (unkilled : h.registry.kills = ∅)
      (other : ∀ locator request terminalId, op ≠ .complete locator request terminalId) : h.Orderly op :=
    History.orderly_of_unkilled unkilled fun locator request terminalId named =>
      absurd named (other locator request terminalId)
  refine ⟨quiet rfl nofun,quiet rfl nofun,quiet rfl nofun,quiet rfl nofun,quiet rfl nofun,?_,quiet rfl nofun,
    quiet rfl nofun,quiet rfl nofun,quiet rfl nofun,quiet rfl nofun,quiet rfl nofun,quiet rfl nofun,trivial⟩
  apply History.orderly_of_unkilled rfl
  intro locator request terminalId named
  cases named
  decide

/-- The winner of a claim is killed before it binds its terminal: the kill
    prunes too early, and the binding is recorded for a terminal that is gone. -/
def completeAfterKill (locator : SessionLocator) : List Op :=
  [.claim 1 ⟨locator,"create-a",1,1000⟩,.claimStep 1,.claimStep 1,.claimStep 1,.register "t" "codex" (some "s") 0 false,
    .kill "t" false,.prune 0,.finishKill 0,.complete locator "create-a" "t",.claim 2 ⟨locator,"create-b",2,2000⟩,
    .claimStep 2,.claimStep 2]

theorem completeAfterKill_strands :
    ¬ ∀ (ttl : UInt64) (minutes : Int) (ops : List Op),
      Along (History.next ttl) (History.RefersToPresent ttl) (.new minutes) ops := by
  intro refers
  have along := refers 20000 15 (completeAfterKill ⟨"codex","s"⟩ ++ [.claimStep 2])
  obtain ⟨_,last,_⟩ := (along_append _ _ _ _ _).mp along
  have seen := last 2 ⟨⟨"codex","s"⟩,"create-b",2,2000⟩ "t" rfl (by decide)
  rcases seen with present | ⟨_,present | ⟨_,present | ⟨began,_⟩⟩⟩
  · exact absurd present (by decide)
  · exact absurd present (by decide)
  · exact absurd present (by decide)
  · exact began ⟨⟨_,rfl⟩,by decide⟩

end Freshell.Registry
