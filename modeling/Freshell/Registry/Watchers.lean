import Freshell.Registry.Rows

/-!
Who watches a row after each of its operations: on a terminal that runs, those
who attached and have neither detached nor lost their connection.
-/
namespace Freshell.Registry
open Freshell.Library.Tables
set_option linter.unusedSimpArgs false

namespace TerminalShared
variable {row : TerminalShared}

def Watches (row : TerminalShared) (conn : ConnId) : Prop := (row.subscribers.lookup conn).isSome

def Staged (row : TerminalShared) : Prop :=
  row.status = .running → ∀ conn subscriber, row.subscribers.lookup conn = some subscriber →
    subscriber.pacedExitPending = none

theorem unwatched_iff : row.subscribers = ∅ ↔ ∀ conn, ¬row.Watches conn := by
  constructor
  · intro unwatched conn watching
    rw [Watches,unwatched] at watching
    cases watching
  · intro none
    apply AList.ext
    rcases listed : row.subscribers.entries with _ | ⟨⟨conn,subscriber⟩,rest⟩
    · rfl
    · have found : row.subscribers.lookup conn = some subscriber := AList.mem_lookup_iff.mpr (by simp [listed])
      exact absurd (by rw [Watches,found]; rfl) (none conn)

end TerminalShared

/-- Who is left looking after the operation, where every attach comes to stay. -/
def RowOp.looking (before : ConnId → Prop) : RowOp → ConnId → Prop
  | .attach conn _ _, other => other = conn ∨ before other
  | .detach conn _, other => other ≠ conn ∧ before other
  | .removeConnection conn _, other => other ≠ conn ∧ before other
  | _, other => before other

namespace TerminalShared
variable {row : TerminalShared} {conn : ConnId} {now : Int}

theorem detach_subscribers : (row.detach conn now).subscribers = row.subscribers.erase conn := by
  unfold detach
  split
  · dsimp only
    split <;> rfl
  · next absent =>
    have unlisted : conn ∉ row.subscribers := AList.lookup_eq_none.mp (Option.not_isSome_iff_eq_none.mp absent)
    apply AList.ext
    exact (List.kerase_of_notMem_keys unlisted).symm

theorem removeConnection_subscribers : (row.removeConnection conn now).subscribers = row.subscribers.erase conn := by
  unfold removeConnection
  dsimp only
  split <;> rfl

theorem withdrawClaim_subscribers : (row.withdrawClaim conn now).subscribers = row.subscribers := by
  unfold withdrawClaim
  split
  · dsimp only
    split <;> rfl
  · rfl

theorem looking_of_watches {op : RowOp} {other : ConnId} (watching : (row.apply op).Watches other) :
    op.looking row.Watches other := by
  unfold Watches at watching
  cases op with
  | attach conn request paced =>
    rcases row.running_or_exited with running | exited
    · rw [apply,attach_running running] at watching
      simp only [watched,wanted,lookup_insert] at watching
      split at watching
      · exact .inl ‹_›
      · exact .inr watching
    · rw [apply,attach_exited exited] at watching
      simp only [watched,wanted,lookup_erase,lookup_insert] at watching
      split at watching
      · cases watching
      · exact .inr watching
  | detach conn now =>
    rw [apply,detach_subscribers,lookup_erase] at watching
    split at watching
    · cases watching
    · exact ⟨‹_›,watching⟩
  | removeConnection conn now =>
    rw [apply,removeConnection_subscribers,lookup_erase] at watching
    split at watching
    · cases watching
    · exact ⟨‹_›,watching⟩
  | withdrawClaim conn now =>
    rw [apply,withdrawClaim_subscribers] at watching
    exact watching
  | claimTerminal conn => exact watching
  | input now => exact watching
  | ingest now meaningful => exact watching
  | finishExit exitCode now =>
    show row.Watches other
    simp only [apply,finishExit] at watching
    split at watching
    · exact watching
    · simp only [lookup_mapValues,lookup_retain,Option.isSome_map] at watching
      obtain ⟨subscriber,kept⟩ := Option.isSome_iff_exists.mp watching
      obtain ⟨found,_⟩ := Option.filter_eq_some_iff.mp kept
      rw [Watches,found]
      rfl
  | completePaced conn =>
    show row.Watches other
    simp only [apply,completePaced] at watching
    split at watching
    · exact watching
    · next subscriber found =>
      split at watching
      · simp only [watched,lookup_erase] at watching
        split at watching
        · cases watching
        · exact watching
      · simp only [watched,lookup_insert] at watching
        split at watching
        · next same =>
          rw [Watches,same,found]
          rfl
        · exact watching

theorem running_of_apply {op : RowOp} (running : (row.apply op).status = .running) : row.status = .running := by
  cases op with
  | attach conn request paced =>
    rcases row.running_or_exited with was | exited
    · exact was
    · rw [apply,attach_exited exited] at running
      exact running
  | detach conn now =>
    simp only [apply,detach] at running
    split at running
    · split at running <;> exact running
    · exact running
  | removeConnection conn now =>
    simp only [apply,removeConnection] at running
    split at running <;> exact running
  | withdrawClaim conn now =>
    simp only [apply,withdrawClaim] at running
    split at running
    · split at running <;> exact running
    · exact running
  | claimTerminal conn => exact running
  | input now => exact running
  | ingest now meaningful => exact running
  | finishExit exitCode now =>
    simp only [apply,finishExit] at running
    split at running
    · exact running
    · cases running
  | completePaced conn =>
    simp only [apply,completePaced] at running
    split at running
    · exact running
    · split at running <;> exact running

/-- On a terminal that runs, an attach stays until it is detached or its
    connection is lost. -/
theorem watches_of_looking {op : RowOp} {other : ConnId} (staged : row.Staged) (running : (row.apply op).status = .running)
    (looking : op.looking row.Watches other) : (row.apply op).Watches other := by
  have was := running_of_apply running
  unfold Watches
  cases op with
  | attach conn request paced =>
    rw [apply,attach_running was]
    simp only [watched,wanted,lookup_insert]
    rcases looking with same | before
    · simp [same]
    · split
      · rfl
      · exact before
  | detach conn now =>
    rw [apply,detach_subscribers,lookup_erase,if_neg looking.1]
    exact looking.2
  | removeConnection conn now =>
    rw [apply,removeConnection_subscribers,lookup_erase,if_neg looking.1]
    exact looking.2
  | withdrawClaim conn now =>
    rw [apply,withdrawClaim_subscribers]
    exact looking
  | claimTerminal conn => exact looking
  | input now => exact looking
  | ingest now meaningful => exact looking
  | finishExit exitCode now =>
    simp only [apply,finishExit,was] at running
    cases running
  | completePaced conn =>
    simp only [apply,completePaced]
    split
    · exact looking
    · next subscriber found =>
      rw [staged was conn subscriber found]
      simp only [watched,lookup_insert]
      split
      · rfl
      · exact looking

theorem staged_apply (staged : row.Staged) (op : RowOp) : (row.apply op).Staged := by
  intro running other subscriber found
  have was := running_of_apply running
  cases op with
  | attach conn request paced =>
    rw [apply,attach_running was] at found
    simp only [watched,wanted,lookup_insert] at found
    split at found
    · cases found
      rfl
    · exact staged was other subscriber found
  | detach conn now =>
    rw [apply,detach_subscribers,lookup_erase] at found
    split at found
    · cases found
    · exact staged was other subscriber found
  | removeConnection conn now =>
    rw [apply,removeConnection_subscribers,lookup_erase] at found
    split at found
    · cases found
    · exact staged was other subscriber found
  | withdrawClaim conn now =>
    rw [apply,withdrawClaim_subscribers] at found
    exact staged was other subscriber found
  | claimTerminal conn => exact staged was other subscriber found
  | input now => exact staged was other subscriber found
  | ingest now meaningful => exact staged was other subscriber found
  | finishExit exitCode now =>
    simp only [apply,finishExit,was] at running
    cases running
  | completePaced conn =>
    simp only [apply,completePaced] at found
    split at found
    · exact staged was other subscriber found
    · next held listed =>
      rw [staged was conn held listed] at found
      simp only [watched,lookup_insert] at found
      split at found
      · cases found
        rfl
      · exact staged was other subscriber found

end TerminalShared
end Freshell.Registry
