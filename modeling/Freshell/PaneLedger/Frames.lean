import Freshell.PaneLedger.Process

/-!
What single file operations leave of the index, and what a claim, the consult of a fence and
a feed of kills come down to.
-/
namespace Freshell.PaneLedger
open Freshell.Library.Tables

variable {Payload : Type}

def Ledger.fence (ledger : Ledger Payload) (key : SessionKey) : Option KillTombstoneEntry :=
  ledger.index.killTombstones.lookup key

/-- The fence of one identity takes in the kills of that identity, one after another. -/
theorem lookup_feedKills (fences : Table SessionKey KillTombstoneEntry) (kills : List PaneCloseKill)
    (key : SessionKey) :
    (feedKills fences kills).lookup key = (kills.filter (·.key = key)).foldl feedKill (fences.lookup key) := by
  unfold feedKills
  induction kills generalizing fences with
  | nil => rfl
  | cons kill rest ih =>
    rw [List.foldl_cons,ih,lookup_insert]
    by_cases same : kill.key = key
    · subst same
      rw [if_pos rfl,List.filter_cons_of_pos (by simp),List.foldl_cons]
      congr 1
      unfold feedKill
      split <;> simp_all
    · rw [if_neg (Ne.symm same),List.filter_cons_of_neg (by simpa using same)]

namespace Ledger

variable (ledger : Ledger Payload)

theorem writeBinding_cases (row : BindingRow) :
    ((ledger.writeBinding row).2 = false ∧ (ledger.writeBinding row).1.index = ledger.index) ∨
      ((ledger.writeBinding row).2 = true ∧
        (ledger.writeBinding row).1.index = { ledger.index with bindings := ledger.index.bindings.put row }) :=
  ledger.operate_index _ _

variable (key : SessionKey)

@[simp] theorem clearKillFence_bindings :
    (ledger.clearKillFence key).1.index.bindings = ledger.index.bindings := ledger.operate_kept (·.bindings) _ rfl

@[simp] theorem probeCloseEnvelope_index (key : String) :
    (ledger.probeCloseEnvelope key).1.index = ledger.index := ledger.operate_kept id _ rfl

theorem replaceEnvelope_bindings (key : String) (record : Option CloseEnvelopeRecord) :
    (ledger.replaceEnvelope key record).1.index.bindings = ledger.index.bindings := by
  cases record with
  | none => exact ledger.operate_kept (·.bindings) _ rfl
  | some record => exact ledger.operate_kept (·.bindings) _ rfl

@[simp] theorem answer_fst (result : Ledger Payload × Bool) : (answer result).1 = result.1 := rfl

@[simp] theorem unlinkRecord_index (key : String) (terminalId : Option String) :
    (ledger.unlinkRecord key terminalId).1.index = ledger.index := by
  have unlinked : (ledger.unlinkEnvelope key id).1.index = ledger.index := ledger.operate_kept id _ rfl
  cases terminalId with
  | none => exact unlinked
  | some terminalId =>
    have legacy : ((ledger.unlinkEnvelope key id).1.unlinkCloseRecord terminalId).1.index =
        (ledger.unlinkEnvelope key id).1.index := Ledger.operate_kept id _ _ rfl
    exact legacy.trans unlinked

variable {index : LedgerIndex Payload} {entry : KillTombstoneEntry}

theorem lookup_unfeed {kill : PaneCloseKill} {key : SessionKey}
    (found : (unfeed index kill).killTombstones.lookup key = some entry) :
    index.killTombstones.lookup key = some entry := by
  unfold unfeed at found
  split at found
  · exact found
  · split at found
    · exact found
    · simp only [lookup_erase] at found
      split at found
      · simp at found
      · exact found

theorem lookup_unfeeds {kills : List PaneCloseKill} {key : SessionKey}
    (found : (kills.foldl unfeed index).killTombstones.lookup key = some entry) :
    index.killTombstones.lookup key = some entry := by
  induction kills generalizing index with
  | nil => exact found
  | cons kill rest ih => exact lookup_unfeed (ih found)

variable (order : Order) (provider sessionId : String)

/-- All that a claim can do: leave the index, or only write the row, or consume the fence
    after that and commit. -/
theorem commitClaim_cases (expectKilledAtMs : Option Int) (aliases : List String) (nowMs : Int) :
    (ledger.commitClaimAliased order provider sessionId expectKilledAtMs aliases nowMs).1 = ledger ∨
      (ledger.commitClaimAliased order provider sessionId expectKilledAtMs aliases nowMs).1 =
        (ledger.reviveRow (provider,sessionId) nowMs).1 ∨
      ((ledger.commitClaimAliased order provider sessionId expectKilledAtMs aliases nowMs).2 = .ok .committed ∧
        (ledger.reviveRow (provider,sessionId) nowMs).2 = true ∧
        (ledger.commitClaimAliased order provider sessionId expectKilledAtMs aliases nowMs).1 =
          ((ledger.reviveRow (provider,sessionId) nowMs).1.consumeKillFence order (provider,sessionId)).1) := by
  unfold commitClaimAliased
  simp only
  split
  · exact .inl rfl
  split
  · exact .inl rfl
  split
  · split
    · next failed answered => exact .inr (.inl (by rw [answered]))
    · next after answered => exact .inr (.inr ⟨rfl,by rw [answered],by rw [answered]⟩)
  · exact .inl rfl

/-- All that the consult can do: nothing, drop a fence that is dead, or retire the bound
    remnant that the fence dominates. -/
theorem consult_cases (w : FreshAgentBindingWrite) :
    (ledger.consultKillFence w).1 = ledger ∨ (ledger.consultKillFence w).1 = (ledger.clearKillFence w.key).1 ∨
      ∃ remnant entry, ledger.index.bindings.lookup w.key = some remnant ∧ remnant.state = .bound ∧
        ledger.index.killTombstones.lookup w.key = some entry ∧
        tombstoneScopeSparesNewer entry.scope w.pair = false ∧ remnant.updatedAt ≤ entry.atMs ∧
        (ledger.consultKillFence w).2.isSome ∧ (ledger.consultKillFence w).1 = (ledger.writeBinding (remnant.retire .closed w.nowMs)).1 := by
  -- A bound row makes the verdict a comparison of stamps alone.
  have dominated : ∀ {remnant : BindingRow} {stamp : Int} {verdict : KillTombstoneVerdict}, remnant.state = .bound →
      verdict ≠ .claimResidue → classifyKillTombstone stamp (some remnant.view) w.nowMs = verdict →
      remnant.updatedAt ≤ stamp := by
    intro remnant stamp verdict bound other reads
    by_contra later
    simp only [BindingRow.view,bound,classifyKillTombstone,ge_iff_le,if_neg later] at reads
    exact other reads.symm
  unfold consultKillFence
  split
  · exact .inl rfl
  · next entry there =>
    split
    · exact .inl rfl
    next binds =>
    have binds := Bool.not_eq_true _ |>.mp binds
    simp only
    split
    · next verdict =>
      split
      · exact .inl rfl
      · next remnant found =>
        split
        · next bound =>
          rw [found] at verdict
          exact .inr (.inr ⟨remnant,entry,found,bound,there,binds,dominated bound (by decide) verdict,rfl,rfl⟩)
        · exact .inl rfl
    · next verdict =>
      split
      · exact .inl rfl
      · next remnant found =>
        split
        · next bound =>
          rw [found] at verdict
          exact .inr (.inr ⟨remnant,entry,found,bound,there,binds,dominated bound (by decide) verdict,rfl,rfl⟩)
        · exact .inl rfl
    · exact .inr (.inl rfl)
    · exact .inr (.inl rfl)

end Ledger
end Freshell.PaneLedger
