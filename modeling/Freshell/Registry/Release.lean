import Freshell.Registry.Frames
import Freshell.Library.Runs

/-!
The release of a terminal by its client: the explicit-release invariant of each
row, over every run.
-/
namespace Freshell.Registry
open Freshell.Library.Runs
set_option linter.unusedSimpArgs false

namespace TerminalShared
variable {row : TerminalShared} {conn : ConnId} {now : Int}

/-- A released terminal has neither a subscriber nor a claim. -/
def Settled (row : TerminalShared) : Prop :=
  row.releasedByClient = true → row.subscribers = ∅ ∧ row.claims = ∅

theorem settled_of_wanted (wanted : row.releasedByClient = false) : row.Settled := by
  intro released
  rw [wanted] at released
  cases released

theorem Settled.left (settled : row.Settled) {after : TerminalShared}
    (flag : after.releasedByClient = row.releasedByClient) (subscribers : row.subscribers = ∅ → after.subscribers = ∅)
    (claims : row.claims = ∅ → after.claims = ∅) : after.Settled := by
  intro released
  obtain ⟨unwatched,unclaimed⟩ := settled (flag ▸ released)
  exact ⟨subscribers unwatched,claims unclaimed⟩

theorem Settled.released (unreferenced : row.Unreferenced) (now : Int) : (row.released now).Settled := by
  intro _
  exact ⟨unreferenced.1,unreferenced.2.1⟩

theorem attach_wanted (request : Option String) (paced : Bool) : (row.attach conn request paced).releasedByClient = false := by
  unfold attach
  cases row.status <;> rfl

theorem settled_detach (settled : row.Settled) : (row.detach conn now).Settled := by
  unfold detach
  split
  · next subscribed =>
    dsimp only
    split
    · next unreferenced => exact .released unreferenced now
    · refine settled.left rfl ?_ ?_
      · intro unwatched
        rw [unwatched] at subscribed
        cases subscribed
      · exact id
  · exact settled

theorem settled_withdrawClaim (settled : row.Settled) : (row.withdrawClaim conn now).Settled := by
  unfold withdrawClaim
  split
  · dsimp only
    split
    · next unreferenced => exact .released unreferenced now
    · refine settled.left rfl id ?_
      intro unclaimed
      simp [wantedBy,unclaimed]
  · exact settled

theorem settled_removeConnection (settled : row.Settled) : (row.removeConnection conn now).Settled := by
  have swept : ((row.watched (row.subscribers.erase conn)).wantedBy (row.claims.erase conn)).Settled := by
    refine settled.left rfl ?_ ?_
    · intro unwatched
      simp only [watched,wantedBy,unwatched]
      rfl
    · intro unclaimed
      simp [watched,wantedBy,unclaimed]
  unfold removeConnection
  dsimp only
  split
  · exact swept.left rfl id id
  · exact swept

theorem settled_finishExit (settled : row.Settled) (exitCode : Int) : (row.finishExit exitCode now).Settled := by
  unfold finishExit
  split
  · exact settled
  · refine settled.left rfl ?_ id
    intro unwatched
    simp only [unwatched]
    rfl

theorem settled_completePaced (settled : row.Settled) : (row.completePaced conn).Settled := by
  unfold completePaced
  split
  · exact settled
  · next subscriber subscribed =>
    have watched : row.subscribers ≠ ∅ := by
      intro unwatched
      rw [unwatched] at subscribed
      cases subscribed
    split
    · exact settled.left rfl (fun unwatched => absurd unwatched watched) id
    · exact settled.left rfl (fun unwatched => absurd unwatched watched) id

theorem settled_apply (settled : row.Settled) (op : RowOp) : (row.apply op).Settled := by
  cases op with
  | attach conn request paced => exact settled_of_wanted (attach_wanted request paced)
  | detach conn now => exact settled_detach settled
  | claimTerminal conn => exact settled_of_wanted rfl
  | withdrawClaim conn now => exact settled_withdrawClaim settled
  | removeConnection conn now => exact settled_removeConnection settled
  | input now => exact settled.left rfl id id
  | ingest now meaningful => exact settled.left rfl id id
  | finishExit exitCode now => exact settled_finishExit settled exitCode
  | completePaced conn => exact settled_completePaced settled

theorem settled_killed (settled : row.Settled) : row.killed.Settled :=
  settled.left rfl (fun _ => rfl) id

end TerminalShared

/-- The operation is the explicit release of the row by a client: the detach of
    one of its subscribers or the withdrawal of one of its claims. -/
def RowOp.Releases (row : TerminalShared) : RowOp → Prop
  | .detach conn _ => (row.subscribers.lookup conn).isSome
  | .withdrawClaim conn _ => conn ∈ row.claims
  | _ => False

/-- The operation says that a client wants the terminal. -/
def RowOp.Wants : RowOp → Prop
  | .attach _ _ _ | .claimTerminal _ => True
  | _ => False

namespace TerminalShared
variable {row : TerminalShared} {op : RowOp}

theorem releases_of_released (wanted : row.releasedByClient = false) (released : (row.apply op).releasedByClient = true) :
    op.Releases row := by
  have kept {after : TerminalShared} (same : after.releasedByClient = row.releasedByClient)
      (released : after.releasedByClient = true) : False := by
    rw [same,wanted] at released
    cases released
  cases op with
  | attach conn request paced =>
    rw [apply,attach_wanted] at released
    cases released
  | detach conn now =>
    simp only [apply,detach] at released
    split at released
    · assumption
    · exact (kept rfl released).elim
  | claimTerminal conn => cases released
  | withdrawClaim conn now =>
    simp only [apply,withdrawClaim] at released
    split at released
    · assumption
    · exact (kept rfl released).elim
  | removeConnection conn now =>
    simp only [apply,removeConnection] at released
    split at released
    · exact kept rfl released
    · exact kept rfl released
  | input now => exact kept rfl released
  | ingest now meaningful => exact kept rfl released
  | finishExit exitCode now =>
    simp only [apply,finishExit] at released
    split at released
    · exact kept rfl released
    · exact kept rfl released
  | completePaced conn =>
    simp only [apply,completePaced] at released
    split at released
    · exact kept rfl released
    · split at released
      · exact kept rfl released
      · exact kept rfl released

theorem wanted_of_wants (wants : op.Wants) : (row.apply op).releasedByClient = false := by
  cases op with
  | attach conn request paced => exact attach_wanted request paced
  | claimTerminal conn => rfl
  | _ => exact wants.elim

end TerminalShared

namespace TerminalRegistry

def Settled (s : TerminalRegistry) : Prop := ∀ row ∈ s.cells, row.Settled

theorem settled_modify {cells : List TerminalShared} {change : TerminalShared → TerminalShared}
    (settled : ∀ row ∈ cells, row.Settled) (kept : ∀ row : TerminalShared, row.Settled → (change row).Settled)
    (shared : Nat) : ∀ row ∈ cells.modify shared change, row.Settled := by
  intro row member
  obtain ⟨place,found⟩ := List.mem_iff_getElem?.mp member
  rw [List.getElem?_modify] at found
  obtain ⟨before,held,rfl⟩ := Option.map_eq_some_iff.mp found
  have was : before.Settled := settled before (List.mem_of_getElem? held)
  split
  · exact kept before was
  · exact was

theorem settled_next (s : TerminalRegistry) (ttl : UInt64) (op : Op) (settled : s.Settled) : (s.next ttl op).Settled := by
  have moved := s.cell_step ttl op
  unfold Settled
  generalize (s.next ttl op).cells = cells at moved
  cases moved with
  | frame => exact settled
  | register terminalId mode resume createdAt managed =>
    intro row member
    rcases List.mem_append.mp member with old | new
    · exact settled row old
    · obtain rfl := List.mem_singleton.mp new
      intro _
      exact ⟨rfl,rfl⟩
  | row shared op => exact settled_modify settled (fun row was => TerminalShared.settled_apply was op) shared
  | killed shared => exact settled_modify settled (fun row was => TerminalShared.settled_killed was) shared

theorem settled_run (ttl : UInt64) (minutes : Int) (ops : List Op) : (run (next ttl) (new minutes) ops).Settled := by
  have kept : ∀ (s : TerminalRegistry) op, s.Settled → True → (s.next ttl op).Settled := fun s op settled _ =>
    s.settled_next ttl op settled
  exact invariant_run kept (fun row member => nomatch member) (along_of_forall (fun _ _ => trivial) _ ops)

theorem release_step {s : TerminalRegistry} {ttl : UInt64} {op : Op} {shared : Nat} {row after : TerminalShared}
    (before : s.cells[shared]? = some row) (moved : (s.next ttl op).cells[shared]? = some after) :
    (row.releasedByClient = false → after.releasedByClient = true →
      ∃ release : RowOp, op = .row shared release ∧ release.Releases row) ∧
    ∀ want : RowOp, op = .row shared want → want.Wants → after.releasedByClient = false := by
  have stepped := s.cell_step ttl op
  have unmoved (same : after.releasedByClient = row.releasedByClient) (elsewhere : ∀ place change, op ≠ .row place change) :
      (row.releasedByClient = false → after.releasedByClient = true →
        ∃ release : RowOp, op = .row shared release ∧ release.Releases row) ∧
      ∀ want : RowOp, op = .row shared want → want.Wants → after.releasedByClient = false := by
    constructor
    · intro wanted released
      rw [same,wanted] at released
      cases released
    · intro want named
      exact absurd named (elsewhere shared want)
  generalize (s.next ttl op).cells = cells at moved stepped
  cases stepped with
  | frame _ elsewhere =>
    obtain rfl := Option.some.inj (before.symm.trans moved)
    exact unmoved rfl elsewhere
  | register terminalId mode resume createdAt managed =>
    obtain ⟨bound,_⟩ := List.getElem?_eq_some_iff.mp before
    rw [List.getElem?_append_left bound,before] at moved
    obtain rfl := Option.some.inj moved
    exact unmoved rfl nofun
  | killed place =>
    rw [List.getElem?_modify,before] at moved
    obtain rfl := Option.some.inj moved
    refine unmoved ?_ nofun
    split <;> rfl
  | row place change =>
    rw [List.getElem?_modify,before] at moved
    obtain rfl := Option.some.inj moved
    by_cases here : place = shared
    · subst here
      simp only [if_true]
      constructor
      · intro wanted released
        exact ⟨change,rfl,TerminalShared.releases_of_released wanted released⟩
      · intro want named wants
        cases named
        exact TerminalShared.wanted_of_wants wants
    · simp only [here,if_false,id]
      constructor
      · intro wanted released
        rw [wanted] at released
        cases released
      · intro want named
        cases named
        exact absurd rfl here

end TerminalRegistry

/-- Over every run, a released terminal has neither a subscriber nor a claim;
    a step sets the flag only where it is the explicit release by a client of
    what that client held; and an attach or a claim clears it. -/
theorem release_is_explicit (ttl : UInt64) (minutes : Int) (ops : List Op) :
    let s := run (TerminalRegistry.next ttl) (.new minutes) ops
    (∀ row ∈ s.cells, row.releasedByClient = true → row.subscribers = ∅ ∧ row.claims = ∅) ∧
      ∀ op shared row after, s.cells[shared]? = some row → (s.next ttl op).cells[shared]? = some after →
        (row.releasedByClient = false → after.releasedByClient = true →
          ∃ release : RowOp, op = .row shared release ∧ release.Releases row) ∧
        ∀ want : RowOp, op = .row shared want → want.Wants → after.releasedByClient = false := by
  intro s
  constructor
  · exact TerminalRegistry.settled_run ttl minutes ops
  · intro op shared row after before moved
    exact TerminalRegistry.release_step before moved

end Freshell.Registry
