import Freshell.PaneLedger.FileSteps

/-!
Which calls mark a row as closed. Besides the closes themselves there are the sweep of a row
and the consult of a write, and both do so only to a bound row that its fence dominates.
-/
namespace Freshell.PaneLedger

variable {Payload : Type}

/-- The row of an identity is none that a close has retired. -/
def Ledger.Unclosed (ledger : Ledger Payload) (key : SessionKey) : Prop :=
  ∀ row, ledger.index.bindings.lookup key = some row → ¬ row.Closed

def Ledger.Clear (ledger : Ledger Payload) (key : SessionKey) : Prop :=
  ∀ row, ledger.index.bindings.lookup key = some row →
    ¬ row.Closed ∧ (row.state = .bound → ∀ entry, ledger.fence key = some entry → entry.atMs < row.updatedAt)

theorem not_closed_of_bound {row : BindingRow} (bound : row.state = .bound) : ¬ row.Closed := by
  simp [BindingRow.Closed,bound]

variable {start ledger before after : Ledger Payload} {op : LedgerOp Payload} {key : SessionKey} {row : BindingRow}

/-- Where a closed row comes from: a close, a closed row, or a bound one under a fence that
    is no older, which a sweep meets or a write that the fence stops. -/
theorem RowWrite.origin (writes : RowWrite start op ledger row) (closed : row.Closed) :
    Ledger.closes op = true ∨ ∃ old, ledger.index.bindings.lookup row.key = some old ∧ (old.Closed ∨
      old.state = .bound ∧ ∃ entry, ledger.fence row.key = some entry ∧ old.updatedAt ≤ entry.atMs ∧
        (Ledger.sweeps op row.key ∨ ∃ w, op = .recordFreshAgentBinding w ∧ ledger = start ∧ row.key = w.key ∧
          tombstoneScopeSparesNewer entry.scope w.pair = false)) := by
  cases writes with
  | recorded w => exact absurd closed (not_closed_of_bound rfl)
  | agent w => exact absurd closed (not_closed_of_bound rfl)
  | over_ old row stands change =>
    rw [change.key]
    cases change with
    | closed nowMs closes bound => exact .inl closes
    | dominated nowMs sweeps bound entry there older =>
      exact .inr ⟨old,stands,.inr ⟨bound,entry,there,older,.inl sweeps⟩⟩
    | consulted w writes own first bound entry there binds older =>
      exact .inr ⟨old,stands,.inr ⟨bound,entry,own ▸ there,older,.inr ⟨w,writes,first,own,binds⟩⟩⟩
    | reattached w writes bound => exact absurd closed (not_closed_of_bound bound)
    | stamped => exact .inr ⟨old,stands,.inl closed⟩
    | revived => exact absurd closed (not_closed_of_bound rfl)
    | seen _ _ _ _ _ _ _ bound => exact absurd closed (not_closed_of_bound bound)
    | attributed => exact .inr ⟨old,stands,.inl closed⟩
    | _ => simp [BindingRow.Closed,BindingRow.supersede,BindingRow.retire] at closed

theorem RowWrite.retired (writes : RowWrite start op ledger row) (sweeping : Ledger.sweeps op key) :
    row.state = .retired := by
  cases writes with
  | recorded w writes => cases op <;> simp [Ledger.sweeps,Ledger.recordedWrite] at sweeping writes
  | agent w writes => simp [writes,Ledger.sweeps] at sweeping
  | over_ old row stands change =>
    cases change with
    | reattached w writes => simp [writes,Ledger.sweeps] at sweeping
    | stamped _ _ _ _ _ writes => simp [writes,Ledger.sweeps] at sweeping
    | revived _ _ _ _ _ _ writes => simp [writes,Ledger.sweeps] at sweeping
    | seen _ _ _ _ _ _ writes => simp [writes,Ledger.sweeps] at sweeping
    | attributed _ _ _ _ writes => simp [writes,Ledger.sweeps] at sweeping
    | _ => rfl

namespace Ledger

theorem Clear.step (sweeping : sweeps op key) (step : FileStep start op before after) (clear : before.Clear key) :
    after.Clear key := by
  have fades : ∀ entry, after.fence key = some entry → before.fence key = some entry := by
    intro entry found
    obtain same | gone | claims | ⟨_,_,_,writes,_⟩ := step.fence key
    · exact same.symm.trans found
    · simp [gone] at found
    · cases op <;> simp [sweeps,commits] at sweeping claims
    · cases op <;> simp [sweeps,closeWrites] at sweeping writes
  intro row found
  obtain same | ⟨written,writes,rfl,there⟩ | ⟨_,gone⟩ := step.lookup key
  · obtain ⟨open_,young⟩ := clear row (same.symm.trans found)
    exact ⟨open_,fun bound entry there => young bound entry (fades entry there)⟩
  · obtain rfl := Option.some.inj (there.symm.trans found)
    refine ⟨fun closed => ?_,fun bound => by simp [writes.retired sweeping] at bound⟩
    obtain closing | ⟨old,stands,closed | ⟨bound,entry,fenced,older,_⟩⟩ := writes.origin closed
    · cases op <;> simp [sweeps,closes] at sweeping closing
    · exact (clear old stands).1 closed
    · have young := (clear old stands).2 bound entry fenced
      omega
  · simp [gone] at found

theorem Unclosed.step (quiet : closes op = false) (other : ¬ sweeps op key)
    (spared : ∀ w, op = .recordFreshAgentBinding w → w.key = key → ∀ row entry,
      start.index.bindings.lookup key = some row → row.state = .bound → start.fence key = some entry →
        row.updatedAt ≤ entry.atMs → tombstoneScopeSparesNewer entry.scope w.pair = true)
    (step : FileStep start op before after) (open_ : before.Unclosed key) : after.Unclosed key := by
  intro row found closed
  obtain same | ⟨written,writes,rfl,there⟩ | ⟨_,gone⟩ := step.lookup key
  · exact open_ row (same.symm.trans found) closed
  · obtain rfl := Option.some.inj (there.symm.trans found)
    obtain closing | ⟨old,stands,closed | ⟨bound,entry,fenced,older,swept | ⟨w,stopped,rfl,own,binds⟩⟩⟩ :=
      writes.origin closed
    · simp [closing] at quiet
    · exact open_ old stands closed
    · exact other swept
    · have spares := spared w stopped own.symm old entry stands bound fenced older
      simp [binds] at spares
  · simp [gone] at found

end Ledger
end Freshell.PaneLedger
