import Freshell.PaneLedger.FileSteps

/-!
The ownership pair of a binding row fences delayed writes, and is to grow only. Each half of
a fresh agent's stamp falls back to the row's; a terminal's write puts its own in place, also
where it has none, and with the pair goes the fence.
-/
namespace Freshell.PaneLedger
open Freshell.Library.Drives Freshell.Library.Runs

variable {Payload : Type}

/-- A pair that is there stays, or a larger one takes its place. -/
def Carries (old new : Option OwnerPair) : Prop := ∀ pair, old = some pair → ∃ later, new = some later ∧ pair ≤ later

theorem Carries.refl (pair : Option OwnerPair) : Carries pair pair := fun held found => ⟨held,found,le_refl _⟩

theorem Carries.trans {first second third : Option OwnerPair} (one : Carries first second) (two : Carries second third) :
    Carries first third := by
  intro pair found
  obtain ⟨later,at_,le⟩ := one pair found
  obtain ⟨last,there,further⟩ := two later at_
  exact ⟨last,there,le_trans le further⟩

/-- The larger of two pairs, where one may be missing. -/
def larger (first second : Option OwnerPair) : Option OwnerPair :=
  match first, second with
  | some first, some second => some (max first second)
  | some first, none => some first
  | none, second => second

theorem larger_of_carries {old new : Option OwnerPair} (carried : Carries old new) : larger old new = new := by
  cases old with
  | none => rfl
  | some pair =>
    obtain ⟨later,rfl,le⟩ := carried pair rfl
    simp [larger,max_eq_right le]

def KeepsPairs (before after : Ledger Payload) : Prop :=
  ∀ key old row, before.index.bindings.lookup key = some old → after.index.bindings.lookup key = some row →
    Carries old.pair row.pair

namespace Ledger

/-- A terminal's write takes no pair away: where the row has one, it brings its own. -/
def BringsPair (ledger : Ledger Payload) (w : BindingWrite) : Prop := (ledger.rowPair w.key).isSome → w.pair.isSome

/-- A fresh agent's write brings both halves of a pair or none, or a half that is not below the row's. -/
def RaisesPair (ledger : Ledger Payload) (w : FreshAgentBindingWrite) : Prop :=
  w.pair = none → ∀ row, ledger.index.bindings.lookup w.key = some row → Carries row.pair (w.row row none).pair

instance (ledger : Ledger Payload) (w : BindingWrite) : Decidable (BringsPair ledger w) :=
  inferInstanceAs (Decidable (_ → _))

variable {observed held : OwnerPair}

theorem not_predates (fresh : predates (some observed) (some held) = false) : held ≤ observed := by
  simpa [predates] using fresh

variable {w : FreshAgentBindingWrite}

theorem freshRow_pair_of_pair {pair : OwnerPair} (carries : w.pair = some pair)
    (existing inherited : Option BindingRow) : (w.row existing inherited).pair = some pair := by
  obtain ⟨epoch,generation⟩ := zipPair_eq_some.mp carries
  exact zipPair_eq_some.mpr ⟨by simp [FreshAgentBindingWrite.row,epoch],by simp [FreshAgentBindingWrite.row,generation]⟩

end Ledger

section
variable {start before after ledger : Ledger Payload} {op : LedgerOp Payload} {old row : BindingRow}

theorem RowChange.carries (change : RowChange start op ledger old row) : Carries old.pair row.pair := by
  cases change with
  | stamped _ _ epoch generation _ _ newer => exact fun pair held => ⟨_,rfl,le_of_lt (newer pair held)⟩
  | _ => exact Carries.refl _

theorem RowWrite.carries (brings : ∀ w, start.recordedWrite op = some w → start.BringsPair w)
    (raises : ∀ w, op = .recordFreshAgentBinding w → start.RaisesPair w) (writes : RowWrite start op ledger row)
    (keeps : KeepsPairs start ledger) (found : start.index.bindings.lookup row.key = some old) :
    Carries old.pair row.pair := by
  have standing : ∀ {held}, old.pair = some held → start.rowPair row.key = some held := by
    intro held own
    rw [Ledger.rowPair,found]
    exact own
  cases writes with
  | recorded w writes first fresh =>
    intro held own
    have carried : start.rowPair w.key = some held := standing own
    obtain ⟨observed,brought⟩ := Option.isSome_iff_exists.mp (brings w writes (by rw [carried]; rfl))
    rw [brought,carried] at fresh
    exact ⟨observed,brought,Ledger.not_predates fresh⟩
  | agent w writes first fresh =>
    replace found : start.index.bindings.lookup w.key = some old := found
    rw [found]
    cases brought : w.pair with
    | none => exact raises w writes brought old found
    | some observed =>
      intro held own
      have carried : start.rowPair w.key = some held := standing own
      rw [brought,carried] at fresh
      exact ⟨observed,Ledger.freshRow_pair_of_pair brought _ _,Ledger.not_predates fresh⟩
  | over_ standing row stands change =>
    exact (keeps _ old standing (change.key ▸ found) stands).trans change.carries

theorem KeepsPairs.step (brings : ∀ w, start.recordedWrite op = some w → start.BringsPair w)
    (raises : ∀ w, op = .recordFreshAgentBinding w → start.RaisesPair w) (step : FileStep start op before after)
    (keeps : KeepsPairs start before) : KeepsPairs start after := by
  intro key old row held found
  obtain same | ⟨written,writes,rfl,there⟩ | ⟨_,gone⟩ := step.lookup key
  · exact keeps key old row held (same.symm.trans found)
  · rw [there] at found
    exact Option.some.inj found ▸ writes.carries brings raises keeps held
  · rw [gone] at found
    simp at found

end

namespace Ledger

variable (marker : Option PendingMarker) (order : Order) {given : BindingWrite}

theorem effectiveWrite_key (w : BindingWrite) :
    (effectiveWrite marker w).key = w.key ∧ (effectiveWrite marker w).terminalId = w.terminalId := by
  unfold effectiveWrite
  simp only
  split
  · split <;> exact ⟨rfl,rfl⟩
  · split <;> exact ⟨rfl,rfl⟩

theorem effectiveWrite_pair (w : BindingWrite) :
    (effectiveWrite marker w).pair = none ∨ (effectiveWrite marker w).pair = w.pair := by
  unfold effectiveWrite
  simp only
  split
  · split <;> exact .inl rfl
  · split
    · exact .inl rfl
    · exact .inr rfl

theorem recordBinding_refused {ledger : Ledger Payload} {w : BindingWrite} (carries : w.pair = some observed)
    (row : ledger.rowPair w.key = some held) (older : observed < held) :
    ledger.recordBinding order w = (ledger,.error staleTerminalWrite) := by
  unfold recordBinding
  simp only
  rw [if_pos (by simp [carries,row,predates,older])]

theorem resolvePending_refused {ledger : Ledger Payload}
    (brings : BringsPair ledger (effectiveWrite (ledger.index.pending.lookup given.terminalId) given))
    (unclosed : ledger.index.closeEnvelopes.lookup (paneEnvelopeKey given.terminalId) = none)
    (carries : given.pair = some observed) (row : ledger.rowPair given.key = some held) (older : observed < held) :
    ledger.resolvePending order given = (ledger,.error staleTerminalWrite) := by
  obtain ⟨sameKey,sameTerminal⟩ := effectiveWrite_key (ledger.index.pending.lookup given.terminalId) given
  have kept : (effectiveWrite (ledger.index.pending.lookup given.terminalId) given).pair = some observed := by
    obtain dropped | kept := effectiveWrite_pair (ledger.index.pending.lookup given.terminalId) given
    · simp [BringsPair,sameKey,row,dropped] at brings
    · exact kept.trans carries
  unfold resolvePending
  simp only
  rw [sameTerminal,unclosed,recordBinding_refused order kept (sameKey ▸ row) older]

theorem recordFreshAgentBinding_refused {ledger : Ledger Payload}
    (unfenced : (ledger.consultKillFence w) = (ledger,none)) (carries : w.pair = some observed)
    (row : ledger.rowPair w.key = some held) (older : observed < held) :
    ledger.recordFreshAgentBinding w = (ledger,.error staleFreshAgentWrite) := by
  unfold recordFreshAgentBinding
  rw [unfenced]
  simp only
  rw [if_pos]
  show predates w.pair (ledger.rowPair w.key) = true
  simp [carries,row,predates,older]

/-- No fence of the identity answers for the write. -/
def Unfenced (ledger : Ledger Payload) (w : FreshAgentBindingWrite) : Prop :=
  ∀ tombstone, ledger.index.killTombstones.lookup w.key = some tombstone →
    tombstoneScopeSparesNewer tombstone.scope w.pair = true

theorem Unfenced.consult {ledger : Ledger Payload} (unfenced : ledger.Unfenced w) :
    ledger.consultKillFence w = (ledger,none) := by
  unfold consultKillFence
  split
  · rfl
  · next tombstone found => rw [if_pos (unfenced tombstone found)]

end Ledger

/-- A process with, for each row that is there, the largest pair that it has carried. -/
structure Watched (Payload : Type) where
  ledger : Ledger Payload
  largest : SessionKey → Option OwnerPair

namespace Watched

def start (ledger : Ledger Payload) : Watched Payload := { ledger, largest := ledger.rowPair }

def next (watched : Watched Payload) (call : LedgerOp Payload × List Fault) : Watched Payload :=
  let ledger := watched.ledger.next call
  { ledger
    largest := fun key =>
      if (ledger.index.bindings.lookup key).isNone then none else larger (watched.largest key) (ledger.rowPair key) }

/-- Every row still carries the largest pair that it ever carried. -/
def Monotone (watched : Watched Payload) : Prop := ∀ key, watched.ledger.rowPair key = watched.largest key

/-- A write under a smaller pair than the row ever carried fails, and changes nothing. -/
def Refuses (watched : Watched Payload) (call : LedgerOp Payload × List Fault) : Prop :=
  let ledger := watched.ledger.under call.2
  match call.1 with
  | .recordBinding order w => ∀ observed held, w.pair = some observed → watched.largest w.key = some held →
      observed < held → ∃ error, ledger.recordBinding order w = (ledger,.error error)
  | .resolvePending order w => ∀ observed held, w.pair = some observed → watched.largest w.key = some held →
      observed < held → ∃ error, ledger.resolvePending order w = (ledger,.error error)
  | .recordFreshAgentBinding w => ∀ observed held, w.pair = some observed → watched.largest w.key = some held →
      observed < held → ∃ error, ledger.recordFreshAgentBinding w = (ledger,.error error)
  | _ => True

/-- The calls behind which a row keeps its pair, and no close answers for a stale write. -/
def Fenced (watched : Watched Payload) (call : LedgerOp Payload × List Fault) : Prop :=
  let ledger := watched.ledger
  match call.1 with
  | .recordBinding _ w => ledger.BringsPair w
  | .resolvePending _ given =>
    ledger.BringsPair (Ledger.effectiveWrite (ledger.index.pending.lookup given.terminalId) given) ∧
      (predates given.pair (ledger.rowPair given.key) = true →
        ledger.index.closeEnvelopes.lookup (paneEnvelopeKey given.terminalId) = none)
  | .recordFreshAgentBinding w =>
    ledger.RaisesPair w ∧ (predates w.pair (ledger.rowPair w.key) = true → ledger.Unfenced w)
  | _ => True

variable {watched : Watched Payload} {call : LedgerOp Payload × List Fault}

theorem keepsPairs_next (fenced : watched.Fenced call) : KeepsPairs watched.ledger (watched.ledger.next call) := by
  have same : KeepsPairs watched.ledger watched.ledger := by
    intro key old row held found
    rw [held] at found
    exact Option.some.inj found ▸ Carries.refl _
  unfold Ledger.next
  split
  · exact same
  obtain ⟨op,faults⟩ := call
  have brings : ∀ w, (watched.ledger.under faults).recordedWrite op = some w → watched.ledger.BringsPair w := by
    intro w writes
    cases op with
    | recordBinding order own => exact Option.some.inj writes ▸ fenced
    | resolvePending order given => exact Option.some.inj writes ▸ fenced.1
    | _ => simp [Ledger.recordedWrite] at writes
  have raises : ∀ w, op = .recordFreshAgentBinding w → watched.ledger.RaisesPair w := by
    rintro w rfl
    exact fenced.1
  exact FilePath.invariant (KeepsPairs (watched.ledger.under faults)) (fun _ _ step keeps => keeps.step brings raises step)
    ((watched.ledger.under faults).path_perform op) same

theorem Monotone.next (monotone : watched.Monotone) (fenced : watched.Fenced call) : (watched.next call).Monotone := by
  have keeps := keepsPairs_next fenced
  intro key
  show (watched.ledger.next call).rowPair key = if _ then _ else _
  cases found : (watched.ledger.next call).index.bindings.lookup key with
  | none => simp [Ledger.rowPair,found]
  | some row =>
    rw [if_neg (by simp),← monotone key]
    refine (larger_of_carries ?_).symm
    intro pair held
    obtain ⟨old,there,carried⟩ := Option.bind_eq_some_iff.mp held
    obtain ⟨later,now,le⟩ := keeps key old row there found pair carried
    exact ⟨later,by simp [Ledger.rowPair,found,now],le⟩

theorem Monotone.refuses (monotone : watched.Monotone) (fenced : watched.Fenced call) : watched.Refuses call := by
  obtain ⟨op,faults⟩ := call
  unfold Refuses
  simp only
  cases op with
  | recordBinding order w =>
    intro observed held carries largest older
    exact ⟨_,Ledger.recordBinding_refused order carries ((monotone w.key).trans largest) older⟩
  | resolvePending order w =>
    intro observed held carries largest older
    have row := (monotone w.key).trans largest
    refine ⟨_,Ledger.resolvePending_refused order fenced.1 (fenced.2 ?_) carries row older⟩
    rw [row,carries]
    simp [predates,older]
  | recordFreshAgentBinding w =>
    intro observed held carries largest older
    have row := (monotone w.key).trans largest
    have unfenced : watched.ledger.Unfenced w := by
      refine fenced.2 ?_
      rw [row,carries]
      simp [predates,older]
    exact ⟨_,Ledger.recordFreshAgentBinding_refused (Ledger.Unfenced.consult unfenced) carries row older⟩
  | _ => trivial

/-- The binding that a handoff to a fresh agent writes, under the fifth generation. -/
def handoffWrite : FreshAgentBindingWrite :=
  { provider := "claude", sessionId := "s", mode := "claude", cwd := none, createRequestId := none, model := none,
    sandbox := none, permissionMode := none, effort := none, supersedes := none, provenance := .inherit,
    observedEpoch := some 1, observedGeneration := some 5, authoritative := true, nowMs := 10 }

def terminalWrite (epoch generation : Option Nat) (nowMs : Int) : BindingWrite :=
  { provider := "claude", sessionId := "s", terminalId := "t", mode := "claude", cwd := none, createRequestId := none,
    originCreateRequestId := none, provenance := .inherit, observedEpoch := epoch, observedGeneration := generation,
    nowMs }

end Watched
end Freshell.PaneLedger
