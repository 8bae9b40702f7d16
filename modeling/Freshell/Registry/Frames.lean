import Freshell.Registry.World

/-!
What the steps of the registry leave alone: a claim, a completion and a prune
leave every row as it is, and the steps on rows, kills and sweeps leave the
session references.
-/
namespace Freshell.Registry
set_option linter.unusedSimpArgs false

inductive CellStep (cells : List TerminalShared) : Op → List TerminalShared → Prop
  | frame (op : Op) (elsewhere : ∀ shared change, op ≠ .row shared change) : CellStep cells op cells
  | register (terminalId mode : String) (resume : Option String) (createdAt : Int) (managed : Bool) :
      CellStep cells (.register terminalId mode resume createdAt managed)
        (cells ++ [.registered terminalId mode resume createdAt managed])
  | row (shared : Nat) (op : RowOp) : CellStep cells (.row shared op) (cells.modify shared (·.apply op))
  | killed (shared : Nat) : CellStep cells (.finishKill shared) (cells.modify shared .killed)

structure SameRows (s after : TerminalRegistry) : Prop where
  cells : after.cells = s.cells
  terminals : after.terminals = s.terminals
  sweep : after.sweep = s.sweep

structure SameRegistry (s after : TerminalRegistry) : Prop extends SameRows s after where
  kills : after.kills = s.kills

/-- The leases, the bindings and the claims under way are as they were. -/
structure SameRefs (s after : TerminalRegistry) : Prop where
  leases : after.leases = s.leases
  bindings : after.bindings = s.bindings
  bindingsLock : after.bindingsLock = s.bindingsLock
  calls : after.calls = s.calls

theorem SameRows.rfl {s : TerminalRegistry} : SameRows s s := ⟨.refl _,.refl _,.refl _⟩

theorem SameRegistry.rfl {s : TerminalRegistry} : SameRegistry s s := ⟨.rfl,.refl _⟩

theorem SameRefs.rfl {s : TerminalRegistry} : SameRefs s s := ⟨.refl _,.refl _,.refl _,.refl _⟩

namespace TerminalRegistry
variable {s : TerminalRegistry} {ttl : UInt64} {terminalId : String} {call : Nat} {claimant : Claimant}

theorem prune_rows {shared : Nat} : SameRows s (s.prune shared).1 := by
  unfold prune
  split
  · exact ⟨.refl _,.refl _,.refl _⟩
  · exact .rfl

theorem claim_registry : SameRegistry s (s.claim call claimant).1 := by
  unfold claim
  split
  · exact .rfl
  · exact ⟨⟨.refl _,.refl _,.refl _⟩,.refl _⟩

theorem moveCall_registry {phase : ClaimPhase} : SameRegistry s (s.moveCall call claimant phase).1 := ⟨⟨.refl _,.refl _,.refl _⟩,.refl _⟩

theorem answer_registry {claim : SessionRefClaim} : SameRegistry s (s.answer call claimant claim).1 := ⟨⟨.refl _,.refl _,.refl _⟩,.refl _⟩

theorem dropBinding_registry : SameRegistry s (s.dropBinding call claimant).1 := ⟨⟨.refl _,.refl _,.refl _⟩,.refl _⟩

theorem claimBinding_registry : SameRegistry s (s.claimBinding call claimant).1 := by
  unfold claimBinding
  split
  · exact .rfl
  · split
    · exact moveCall_registry
    · exact ⟨⟨.refl _,.refl _,.refl _⟩,.refl _⟩

theorem claimLease_registry : SameRegistry s (s.claimLease ttl call claimant).1 := by
  unfold claimLease
  split
  · exact .rfl
  · exact ⟨⟨.refl _,.refl _,.refl _⟩,.refl _⟩

theorem claimStep_registry : SameRegistry s (s.claimStep ttl call).1 := by
  unfold claimStep
  split
  · exact .rfl
  · split
    · exact moveCall_registry
    · split <;> exact moveCall_registry
  · split
    · exact answer_registry
    · exact moveCall_registry
  · exact claimBinding_registry
  · split
    · exact moveCall_registry
    · exact ⟨⟨.refl _,.refl _,.refl _⟩,.refl _⟩
  · split
    · exact dropBinding_registry
    · exact moveCall_registry
  · split
    · exact ⟨⟨.refl _,.refl _,.refl _⟩,.refl _⟩
    · exact dropBinding_registry
  · exact claimLease_registry

theorem complete_registry {locator : SessionLocator} {request : String} :
    SameRegistry s (s.complete locator request terminalId).1 := by
  unfold complete
  split
  · split
    · exact .rfl
    · exact ⟨⟨.refl _,.refl _,.refl _⟩,.refl _⟩
  · exact .rfl

/-- The row that a kill removes was registered under its id, and only its
    registration and the kill change. -/
structure Removes (s : TerminalRegistry) (terminalId : String) (shared : Nat) (after : TerminalRegistry) : Prop where
  registered : ∃ handle, s.terminals.lookup terminalId = some handle ∧ handle.shared = shared
  cells : after.cells = s.cells
  terminals : after.terminals = s.terminals.erase terminalId
  kills : after.kills = s.kills.insert shared ⟨terminalId,false⟩
  sweep : after.sweep = s.sweep
  refs : SameRefs s after

theorem removeRow_spec {allowManaged : Bool} {shared : Nat} {after : TerminalRegistry}
    (removed : s.removeRow terminalId allowManaged = some (shared,after)) : Removes s terminalId shared after := by
  unfold removeRow at removed
  split at removed
  · cases removed
  · next handle found =>
    split at removed
    · cases removed
    · cases removed
      exact ⟨⟨handle,found,.refl _⟩,.refl _,.refl _,.refl _,.refl _,⟨.refl _,.refl _,.refl _,.refl _⟩⟩

theorem kill_refs {allowManaged : Bool} : SameRefs s (s.kill terminalId allowManaged).1 := by
  unfold kill
  split
  · next removed => exact (removeRow_spec removed).refs
  · exact ⟨.refl _,.refl _,.refl _,.refl _⟩

theorem killIdle_refs : SameRefs s s.killIdle := by
  unfold killIdle
  split
  · exact ⟨.refl _,.refl _,.refl _,.refl _⟩
  · split
    · next shared after removed =>
      have refs := (removeRow_spec removed).refs
      exact ⟨refs.leases,refs.bindings,refs.bindingsLock,refs.calls⟩
    · exact ⟨.refl _,.refl _,.refl _,.refl _⟩
  · exact ⟨.refl _,.refl _,.refl _,.refl _⟩

theorem finishKill_refs {shared : Nat} : SameRefs s (s.finishKill shared).1 := by
  unfold finishKill
  split <;> exact ⟨.refl _,.refl _,.refl _,.refl _⟩

theorem enforceIdleKills_refs {now : Int} : SameRefs s (s.enforceIdleKills now) := by
  unfold enforceIdleKills
  split
  · split <;> exact ⟨.refl _,.refl _,.refl _,.refl _⟩
  · exact ⟨.refl _,.refl _,.refl _,.refl _⟩

/-- A reading of the sweep that collects the row. -/
structure Collects (s : TerminalRegistry) (terminalId : String) (handle : TerminalHandle) (row : TerminalShared)
    (after : TerminalRegistry) : Prop where
  registered : s.terminals.lookup terminalId = some handle
  held : s.cells[handle.shared]? = some row
  unmanaged : handle.managed = false
  collecting : ∃ now threshold candidates, s.sweep = .collecting now threshold candidates ∧ terminalId ∉ candidates ∧
    row.Idle now threshold ∧ after = s.withSweep (.collecting now threshold (terminalId :: candidates))

theorem probeIdle_spec (s : TerminalRegistry) (terminalId : String) :
    s.probeIdle terminalId = s ∨ ∃ handle row, Collects s terminalId handle row (s.probeIdle terminalId) := by
  rcases found : s.terminals.lookup terminalId with _ | handle
  · left
    unfold probeIdle
    rw [found]
    split
    · next absurdity => cases absurdity
    · rfl
  · rcases sweeping : s.sweep with _ | ⟨now,threshold,candidates⟩ | ⟨killing,rest⟩
    · left
      simp only [probeIdle,sweeping]
    · rcases held : s.cells[handle.shared]? with _ | row
      · left
        simp only [probeIdle,sweeping,found,held]
      · by_cases idle : terminalId ∉ candidates ∧ handle.managed = false ∧ row.Idle now threshold
        · right
          have after : s.probeIdle terminalId = s.withSweep (.collecting now threshold (terminalId :: candidates)) := by
            simp only [probeIdle,sweeping,found,held]
            exact if_pos idle
          exact ⟨handle,row,found,held,idle.2.1,now,threshold,candidates,sweeping,idle.1,idle.2.2,after⟩
        · left
          simp only [probeIdle,sweeping,found,held]
          exact if_neg idle
    · left
      simp only [probeIdle,sweeping]

theorem probeIdle_refs : SameRefs s (s.probeIdle terminalId) := by
  rcases s.probeIdle_spec terminalId with same | ⟨handle,row,collects⟩
  · rw [same]
    exact .rfl
  · obtain ⟨now,threshold,candidates,_,_,_,after⟩ := collects.collecting
    rw [after]
    exact ⟨.refl _,.refl _,.refl _,.refl _⟩

theorem reapIdle_refs : SameRefs s s.reapIdle := by
  unfold reapIdle
  split <;> exact ⟨.refl _,.refl _,.refl _,.refl _⟩

theorem kill_cells {allowManaged : Bool} : (s.kill terminalId allowManaged).1.cells = s.cells := by
  unfold kill
  split
  · next removed => exact (removeRow_spec removed).cells
  · rfl

theorem killIdle_cells : s.killIdle.cells = s.cells := by
  unfold killIdle
  split
  · rfl
  · split
    · next shared after removed =>
      show after.cells = s.cells
      exact (removeRow_spec removed).cells
    · rfl
  · rfl

theorem enforceIdleKills_cells {now : Int} : (s.enforceIdleKills now).cells = s.cells := by
  unfold enforceIdleKills
  split
  · split <;> rfl
  · rfl

theorem probeIdle_cells : (s.probeIdle terminalId).cells = s.cells := by
  rcases s.probeIdle_spec terminalId with same | ⟨handle,row,collects⟩
  · rw [same]
  · obtain ⟨now,threshold,candidates,_,_,_,after⟩ := collects.collecting
    rw [after]
    rfl

theorem reapIdle_cells : s.reapIdle.cells = s.cells := by
  unfold reapIdle
  split <;> rfl

theorem cell_step (s : TerminalRegistry) (ttl : UInt64) (op : Op) : CellStep s.cells op (s.next ttl op).cells := by
  have framed {op : Op} {cells : List TerminalShared} (same : cells = s.cells)
      (elsewhere : ∀ shared change, op ≠ .row shared change) : CellStep s.cells op cells := by
    rw [same]
    exact .frame op elsewhere
  cases op with
  | register terminalId mode resume createdAt managed => exact .register terminalId mode resume createdAt managed
  | row shared op => exact .row shared op
  | finishKill shared =>
    show CellStep s.cells (.finishKill shared) (s.finishKill shared).1.cells
    unfold finishKill
    split
    · exact .killed shared
    · exact .frame _ nofun
  | kill terminalId allowManaged => exact framed kill_cells nofun
  | prune shared => exact framed prune_rows.cells nofun
  | enforceIdleKills now => exact framed enforceIdleKills_cells nofun
  | probeIdle terminalId => exact framed probeIdle_cells nofun
  | reapIdle => exact framed reapIdle_cells nofun
  | killIdle => exact framed killIdle_cells nofun
  | claim call claimant => exact framed claim_registry.cells nofun
  | claimStep call => exact framed claimStep_registry.cells nofun
  | complete locator request terminalId => exact framed complete_registry.cells nofun
  | _ => exact .frame _ nofun

end TerminalRegistry
end Freshell.Registry
