import Freshell.PaneLedger.ClosedRows

/-!
How much a close fence takes. One that a repair scopes to a pair is to spare every row and
every write of a later pair, and one without a scope is to spare nothing. The sweep of the
rows does not look at the scope, nor does the retirement of a remnant look at the remnant's
pair, and a repair after an ordinary close puts its scope on the fence that stands.
-/
namespace Freshell.PaneLedger
open Freshell.Library.Tables Freshell.Library.Drives Freshell.Library.Runs

variable {Payload : Type}

/-- The identities whose fence dominates a bound row. The time is only asked for where
    nothing is bound, and then the answer is no. -/
def Ledger.dominantKillTombstoneKeys (ledger : Ledger Payload) : List SessionKey :=
  (ledger.index.killTombstones.entries.filter fun entry =>
    let row := ledger.index.bindings.lookup entry.1
    if tombstoneScopeSparesNewer entry.2.scope (row.bind (·.pair)) then false
    else classifyKillTombstone entry.2.atMs (row.map (·.view)) 9223372036854775807 = .dominant).map Sigma.fst

def BindingRow.dominate (dominant : List SessionKey) (row : BindingRow) : BindingRow :=
  if row.state = .bound ∧ row.key ∈ dominant then { row with state := .retired, retiredReason := some .closed } else row

def applyKillTombstoneDominance (bindings : List BindingRow) (dominant : List SessionKey) : List BindingRow :=
  bindings.map (·.dominate dominant)

def Ledger.Outlives (ledger : Ledger Payload) (key : SessionKey) (row : BindingRow) : Prop :=
  ledger.index.bindings.lookup key = some row ∧
    ∃ entry, ledger.fence key = some entry ∧ tombstoneScopeSparesNewer entry.scope row.pair = true

/-- Such a row is bound, and the fence is no older than the row. -/
def Ledger.Endangered (ledger : Ledger Payload) (key : SessionKey) : Prop :=
  ∃ row entry, ledger.index.bindings.lookup key = some row ∧ row.state = .bound ∧ ledger.fence key = some entry ∧
    tombstoneScopeSparesNewer entry.scope row.pair = true ∧ row.updatedAt ≤ entry.atMs

namespace Ledger

theorem Outlives.clear {ledger : Ledger Payload} {key : SessionKey} {row : BindingRow} (outlives : ledger.Outlives key row)
    (safe : ¬ ledger.Endangered key) (open_ : ¬ row.Closed) : ledger.Clear key := by
  obtain ⟨found,entry,there,spared⟩ := outlives
  intro held same
  rw [found] at same
  cases same
  refine ⟨open_,fun bound other fenced => ?_⟩
  rw [there] at fenced
  cases fenced
  by_contra old
  exact safe ⟨row,entry,found,bound,there,spared,by omega⟩

theorem consult_spared (ledger : Ledger Payload) {w : FreshAgentBindingWrite} {entry : KillTombstoneEntry}
    (there : ledger.fence w.key = some entry) (spared : tombstoneScopeSparesNewer entry.scope w.pair = true) :
    ledger.consultKillFence w = (ledger,none) := by
  unfold fence at there
  unfold consultKillFence
  rw [there]
  simp [spared]

end Ledger

/-- A fence without a scope has none afterwards, where it is still there. -/
def Steady (before after : Ledger Payload) (key : SessionKey) : Prop :=
  ∀ entry later, before.fence key = some entry → entry.scope = none → after.fence key = some later → later.scope = none

theorem Steady.refl (ledger : Ledger Payload) (key : SessionKey) : Steady ledger ledger key := by
  intro entry later there unscoped found
  rw [there] at found
  exact Option.some.inj found ▸ unscoped

variable {before after : Ledger Payload}

/-- No kill of the record with a scope is newer than a fence of its identity without one. -/
def FeedsNoScope (ledger : Ledger Payload) (record : CloseEnvelopeRecord) : Prop :=
  ∀ kill ∈ record.kills, ∀ entry, ledger.fence kill.key = some entry → entry.scope = none → kill.scope.isSome →
    kill.atMs ≤ entry.atMs

theorem unscoped_feed (kills : List PaneCloseKill) {entry : KillTombstoneEntry} {stamp : Int}
    (unscoped : entry.scope = none) (reached : stamp ≤ entry.atMs)
    (older : ∀ kill ∈ kills, kill.scope.isSome → kill.atMs ≤ stamp) :
    ∃ later, kills.foldl feedKill (some entry) = some later ∧ later.scope = none := by
  induction kills generalizing entry with
  | nil => exact ⟨entry,rfl,unscoped⟩
  | cons kill rest ih =>
    have own := older kill (by simp)
    have others := fun kill' at_ => older kill' (List.mem_cons_of_mem _ at_)
    rw [List.foldl_cons]
    by_cases newer : entry.atMs < kill.atMs
    · have bare : kill.scope = none := by
        by_contra scope
        have := own (Option.isSome_iff_ne_none.mpr scope)
        omega
      simp only [feedKill,KillTombstoneEntry.fold,if_pos newer]
      exact ih bare (by simp only; omega) others
    · simp only [feedKill,KillTombstoneEntry.fold,if_neg newer]
      split
      · split
        · exact ih rfl (by simp only; omega) others
        · exact ih unscoped reached others
      · exact ih unscoped reached others

variable {record : CloseEnvelopeRecord}

theorem Steady.of_feed (feeds : FeedsNoScope before record)
    (fed : after.index.killTombstones = feedKills before.index.killTombstones record.kills) (key : SessionKey) :
    Steady before after key := by
  intro entry later there unscoped after
  obtain ⟨last,folded,bare⟩ := unscoped_feed (record.kills.filter (·.key = key)) unscoped (le_refl entry.atMs)
    fun kill listed scope => by
      obtain ⟨listed,own⟩ := List.mem_filter.mp listed
      have own : kill.key = key := by simpa using own
      exact feeds kill listed entry (own ▸ there) unscoped scope
  unfold Ledger.fence at after there
  rw [fed,lookup_feedKills,there,folded] at after
  exact Option.some.inj after ▸ bare

namespace Ledger

variable (ledger : Ledger Payload) {key : SessionKey}

/-- The record of a close brings no scope over a fence without one; no sweep meets a bound
    row of a later owner under a fence that is no older, and no write that such a fence
    stops meets one. -/
def Respects (ledger : Ledger Payload) (op : LedgerOp Payload) : Prop :=
  (∀ key record, ledger.closeWrites op = some (key,record) →
    ∀ brought, ledger.Brings key record brought → FeedsNoScope ledger brought) ∧
  match op with
  | .gcRow key _ _ => ¬ ledger.Endangered key
  | .bootScan .. => ∀ key, ¬ ledger.Endangered key
  | .recordFreshAgentBinding w => ledger.Endangered w.key →
      ∃ entry, ledger.fence w.key = some entry ∧ tombstoneScopeSparesNewer entry.scope w.pair = true
  | _ => True

variable {op : LedgerOp Payload}

theorem steady_perform (respects : ledger.Respects op) (unclaimed : ledger.commits op key = false) :
    Steady ledger (ledger.perform op) key := by
  refine FilePath.invariant (Steady ledger · key) (fun before after step steady => ?_) (ledger.path_perform op) ?_
  · obtain same | gone | claims | ⟨at_,record,brought,writes,brings,_,fed⟩ := step.fence key
    · intro entry later there unscoped found
      exact steady entry later there unscoped (same.symm.trans found)
    · intro entry later there unscoped found
      simp [gone] at found
    · simp [claims] at unclaimed
    · exact .of_feed (respects.1 at_ record writes brought brings) fed key
  · exact .refl _ _

variable {row : BindingRow}

theorem unclosed_perform (respects : ledger.Respects op) (other : closes op = false)
    (outlives : ledger.Outlives key row) (unclosed : ¬ row.Closed) : (ledger.perform op).Unclosed key := by
  have safe := respects.2
  by_cases sweeping : sweeps op key
  · have endangered : ¬ ledger.Endangered key := by
      cases op with
      | gcRow swept nowMs absent =>
        obtain rfl : swept = key := sweeping
        exact safe
      | bootScan order nowMs absent refs => exact safe key
      | _ => simp [sweeps] at sweeping
    have clear : (ledger.perform op).Clear key :=
      FilePath.invariant (Clear · key) (fun _ _ step clear => clear.step sweeping step) (ledger.path_perform op)
        (outlives.clear endangered unclosed)
    exact fun held found => (clear held found).1
  · refine FilePath.invariant (Unclosed · key) (fun _ _ step open_ => open_.step other sweeping ?_ step)
      (ledger.path_perform op) fun held found => ?_
    · rintro w rfl rfl held entry stands bound there older
      obtain ⟨found,standing,fenced,spared⟩ := outlives
      rw [there] at fenced
      rw [stands] at found
      obtain ⟨rfl,rfl⟩ := And.intro (Option.some.inj fenced) (Option.some.inj found)
      obtain ⟨own,same,spares⟩ := safe ⟨held,entry,stands,bound,there,spared,older⟩
      rw [there] at same
      exact Option.some.inj same ▸ spares
    · rw [outlives.1] at found
      exact Option.some.inj found ▸ unclosed

theorem not_dominant_of_spared {ledger : Ledger Payload} (outlives : ledger.Outlives key row) :
    key ∉ ledger.dominantKillTombstoneKeys := by
  obtain ⟨found,entry,there,spared⟩ := outlives
  intro listed
  obtain ⟨⟨held,fenced⟩,kept,rfl⟩ := List.mem_map.mp listed
  obtain ⟨member,verdict⟩ := List.mem_filter.mp kept
  have same : ledger.fence held = some fenced := AList.mem_lookup_iff.mpr member
  rw [there] at same
  cases same
  simp [found,spared] at verdict

theorem dominate_spared {ledger : Ledger Payload} (outlives : ledger.Outlives key row) :
    row.dominate ledger.dominantKillTombstoneKeys = row := by
  have own := KeyedTable.key_of_lookup outlives.1
  refine if_neg fun dominated => ?_
  rw [own] at dominated
  exact not_dominant_of_spared outlives dominated.2

/-- The rows that a repair may retire carry its own pair, so none that is newer is touched. -/
theorem repair_spares {provider sessionId : String} {epoch generation : Nat} {pair : OwnerPair} (nowMs : Int)
    (found : ledger.index.bindings.lookup (provider,sessionId) = some row) (carries : row.pair = some pair)
    (newer : toLex (epoch,generation) < pair) :
    (ledger.repairFailedTransitionBinding provider sessionId epoch generation nowMs).1.index.bindings.lookup
      (provider,sessionId) = some row := by
  have path := ledger.path_perform (.repairFailedTransition provider sessionId epoch generation nowMs)
  refine FilePath.invariant (fun ledger => ledger.index.bindings.lookup (provider,sessionId) = some row)
    (fun before after step found => ?_) path found
  obtain same | ⟨written,writes,own,_⟩ | ⟨drops_,_⟩ := step.lookup (provider,sessionId)
  · exact same.trans found
  · cases writes with
    | recorded w writes => simp [recordedWrite] at writes
    | agent w writes => cases writes
    | over_ old _ stands change =>
      rw [change.key] at own
      rw [own,found] at stands
      obtain rfl := Option.some.inj stands
      cases change with
      | superseded _ _ linking => simp [links] at linking
      | closed _ closing => simp [closes] at closing
      | dominated _ sweeping => exact sweeping.elim
      | expired _ sweeping => exact sweeping.elim
      | failed _ _ _ _ _ _ writes _ pair =>
        cases writes
        rw [carries] at pair
        exact absurd (Option.some.inj pair).symm (ne_of_lt newer)
      | consulted _ writes => cases writes
      | missing _ _ _ writes => cases writes
      | reattached _ writes => cases writes
      | stamped _ _ _ _ _ writes => cases writes
      | revived _ _ _ _ _ _ writes => cases writes
      | seen _ _ _ _ _ _ writes => cases writes
      | attributed _ _ _ _ writes => cases writes
  · simp [drops] at drops_

/-- A fence without a scope lets a write through only where it is dead by its stamp. -/
theorem consult_unscoped {w : FreshAgentBindingWrite} {entry : KillTombstoneEntry}
    (there : ledger.fence w.key = some entry) (unscoped : entry.scope = none)
    (through : (ledger.consultKillFence w).2 = none) :
    classifyKillTombstone entry.atMs ((ledger.index.bindings.lookup w.key).map (·.view)) w.nowMs = .expired ∨
      classifyKillTombstone entry.atMs ((ledger.index.bindings.lookup w.key).map (·.view)) w.nowMs = .claimResidue := by
  unfold fence at there
  unfold consultKillFence at through
  rw [there] at through
  simp only [unscoped,tombstoneScopeSparesNewer,Bool.false_eq_true,if_false] at through
  split at through
  · split at through
    · simp at through
    · split at through <;> simp at through
  · split at through
    · simp at through
    · split at through <;> simp at through
  · next verdict => exact .inl verdict
  · next verdict => exact .inr verdict

end Ledger

/-- A ledger, with the identities that an ordinary close has fenced, with no claim and no
    end of the fence since. -/
structure FenceWatch (Payload : Type) where
  ledger : Ledger Payload
  unscoped : SessionKey → Bool

namespace FenceWatch

def start (ledger : Ledger Payload) : FenceWatch Payload :=
  { ledger, unscoped := fun key => (ledger.fence key).any (·.scope = none) }

def next (watch : FenceWatch Payload) (call : LedgerOp Payload × List Fault) : FenceWatch Payload :=
  let ledger := watch.ledger.next call
  { ledger
    unscoped := fun key => match ledger.fence key with
      | none => false
      | some entry =>
        (watch.unscoped key && !(watch.ledger.under call.2).commits call.1 key) || entry.scope = none }

/-- No scope has come over the fence of an ordinary close, and a write of the identity goes
    through only where the fence is dead by its stamp. -/
def Unweakened (watch : FenceWatch Payload) : Prop :=
  ∀ key, watch.unscoped key = true → ∃ entry, watch.ledger.fence key = some entry ∧ entry.scope = none ∧
    ∀ (w : FreshAgentBindingWrite) (faults : List Fault), w.key = key →
      ((watch.ledger.under faults).consultKillFence w).2 = none →
        classifyKillTombstone entry.atMs ((watch.ledger.index.bindings.lookup key).map (·.view)) w.nowMs = .expired ∨
          classifyKillTombstone entry.atMs ((watch.ledger.index.bindings.lookup key).map (·.view)) w.nowMs =
            .claimResidue

/-- What is newer than a scope is spared at every reader: the write that carries the pair is
    not even seen, no call but a close marks the row closed, the inventory shows it as it is,
    and the repair that makes the fence leaves it alone. -/
structure Spares (watch : FenceWatch Payload) (call : LedgerOp Payload × List Fault) : Prop where
  write : ∀ w entry, call.1 = .recordFreshAgentBinding w → watch.ledger.fence w.key = some entry →
    tombstoneScopeSparesNewer entry.scope w.pair = true →
      (watch.ledger.under call.2).consultKillFence w = (watch.ledger.under call.2,none)
  row : ∀ key row, Ledger.closes call.1 = false → watch.ledger.Outlives key row → ¬ row.Closed →
    (watch.ledger.next call).Unclosed key
  inventory : ∀ key row, watch.ledger.Outlives key row → row.dominate watch.ledger.dominantKillTombstoneKeys = row
  repair : ∀ provider sessionId epoch generation nowMs row pair,
    call.1 = .repairFailedTransition provider sessionId epoch generation nowMs →
    watch.ledger.index.bindings.lookup (provider,sessionId) = some row → row.pair = some pair →
    toLex (epoch,generation) < pair →
      (watch.ledger.next call).index.bindings.lookup (provider,sessionId) = some row

def Respects (watch : FenceWatch Payload) (call : LedgerOp Payload × List Fault) : Prop :=
  watch.ledger.Respects call.1

variable {watch : FenceWatch Payload}

theorem unweakened_of_unscoped
    (unscoped : ∀ key, watch.unscoped key = true → ∃ entry, watch.ledger.fence key = some entry ∧ entry.scope = none) :
    watch.Unweakened := by
  intro key watched
  obtain ⟨entry,there,bare⟩ := unscoped key watched
  refine ⟨entry,there,bare,fun w faults here through => ?_⟩
  subst here
  exact (watch.ledger.under faults).consult_unscoped there bare through

theorem Unweakened.start (ledger : Ledger Payload) : (start ledger).Unweakened := by
  refine unweakened_of_unscoped fun key watched => ?_
  obtain ⟨entry,there,bare⟩ := Option.any_eq_true .. |>.mp watched
  exact ⟨entry,there,by simpa using bare⟩

theorem Unweakened.next {watch : FenceWatch Payload} {call : LedgerOp Payload × List Fault} (strong : watch.Unweakened)
    (respects : watch.Respects call) : (watch.next call).Unweakened := by
  refine unweakened_of_unscoped fun key watched => ?_
  have steady : (watch.ledger.under call.2).commits call.1 key = false →
      Steady watch.ledger (watch.ledger.next call) key := by
    intro unclaimed
    unfold Ledger.next
    split
    · exact .refl _ _
    · exact (watch.ledger.under call.2).steady_perform respects unclaimed
  simp only [FenceWatch.next] at watched ⊢
  split at watched
  · simp at watched
  · next entry there =>
    refine ⟨entry,there,?_⟩
    by_contra limited
    simp only [limited,decide_false,Bool.or_false,Bool.and_eq_true,Bool.not_eq_true'] at watched
    obtain ⟨before,standing,bare,_⟩ := strong key watched.1
    exact limited (steady watched.2 before entry standing bare there)

theorem Respects.spares {call : LedgerOp Payload × List Fault} (respects : watch.Respects call) :
    watch.Spares call where
  write w entry _ there spared := (watch.ledger.under call.2).consult_spared there spared
  row key row other outlives unclosed := by
    unfold Ledger.next
    split
    · intro held found
      rw [outlives.1] at found
      exact Option.some.inj found ▸ unclosed
    · exact (watch.ledger.under call.2).unclosed_perform respects other outlives unclosed
  inventory key row outlives := Ledger.dominate_spared outlives
  repair provider sessionId epoch generation nowMs row pair repairs found carries newer := by
    unfold Ledger.next
    split
    · exact found
    · rw [repairs]
      exact (watch.ledger.under call.2).repair_spares nowMs found carries newer

/-- In a run whose closes bring no scope over a fence without one, and whose sweeps and
    stopped writes meet no bound row of a later owner under a fence that is no older, every
    reader spares what is newer than a scope, and no fence of an ordinary close is weakened. -/
theorem fenceStrength_run (ledger : Ledger Payload) (calls : List (LedgerOp Payload × List Fault))
    (respects : Along next Respects (start ledger) calls) :
    (run next (start ledger) calls).Unweakened ∧ Along next Spares (start ledger) calls := by
  have preserved : ∀ (watch : FenceWatch Payload) call, watch.Unweakened → watch.Respects call →
      (watch.next call).Unweakened := fun watch call strong respects => strong.next respects
  exact ⟨invariant_run preserved (Unweakened.start ledger) respects,
    along_mono (fun watch call respects => Respects.spares respects) respects⟩

/-- The binding of a later owner, under the second generation. -/
def laterOwner (nowMs : Int) : FreshAgentBindingWrite :=
  { provider := "claude", sessionId := "s", mode := "claude", cwd := none, createRequestId := none, model := none,
    sandbox := none, permissionMode := none, effort := none, supersedes := none, provenance := .inherit,
    observedEpoch := some 1, observedGeneration := some 2, authoritative := true, nowMs }

/-- The repair of the transition of the first generation. -/
def lateRepair (nowMs : Int) : LedgerOp Unit × List Fault := (.repairFailedTransition "claude" "s" 1 1 nowMs,[])

theorem fenceStrength_repaired :
    (run next (start { index := {}, drive := { files := {} } })
        [lateRepair 20,(.recordFreshAgentBinding (laterOwner 30),[])]).Unweakened ∧
      Along next Spares (start { index := {}, drive := { files := {} } })
        [lateRepair 20,(.recordFreshAgentBinding (laterOwner 30),[])] := by
  refine fenceStrength_run _ _ ⟨⟨?_,trivial⟩,⟨?_,?_⟩,trivial⟩
  · intro key record _ brought _ kill _ entry there
    simp [start,Ledger.fence] at there
  · intro key record writes
    simp [Ledger.closeWrites] at writes
  · rintro ⟨row,entry,found,_⟩
    have absent : (next (start { index := {}, drive := { files := {} } }) (lateRepair 20)).ledger.index.bindings.lookup
        (laterOwner 30).key = none := by decide
    rw [absent] at found
    simp at found

/-- The sweep closes the row of the later owner, and a repair after an ordinary close lets
    the later owner's write through. -/
theorem lateRepair_overreaches :
    (¬ ∀ (ledger : Ledger Unit) calls, Along next Spares (start ledger) calls) ∧
      ¬ ∀ (ledger : Ledger Unit) calls, (run next (start ledger) calls).Unweakened := by
  constructor
  · intro claim
    obtain ⟨_,_,spares,_⟩ := claim { index := {}, drive := { files := {} } }
      [(.recordFreshAgentBinding (laterOwner 10),[]),lateRepair 20,(.gcRow ("claude","s") 30 fun _ => false,[])]
    let repaired : FenceWatch Unit :=
      run next (start { index := {}, drive := { files := {} } })
        [(.recordFreshAgentBinding (laterOwner 10),[]),lateRepair 20]
    let swept := repaired.ledger.gcRow ("claude","s") 30 fun _ => false
    have found : ∃ row, repaired.ledger.index.bindings.lookup ("claude","s") = some row ∧ row.state = .bound ∧
        row.pair = some (toLex (1,2)) := ⟨_,rfl,rfl,rfl⟩
    have fenced : repaired.ledger.fence ("claude","s") = some { atMs := 20, scope := some (toLex (1,1)) } := by decide
    have closed : ∃ row, swept.index.bindings.lookup ("claude","s") = some row ∧ row.Closed := ⟨_,rfl,by decide⟩
    obtain ⟨row,there,bound,pair⟩ := found
    obtain ⟨after,standing,retired⟩ := closed
    exact spares.row ("claude","s") row rfl ⟨there,_,fenced,by rw [pair]; decide⟩ (not_closed_of_bound bound) after
      standing retired
  · intro claim
    let repaired : FenceWatch Unit :=
      run next (start { index := {}, drive := { files := {} } })
        [(.closeIdentities "claude" ["s"] [] 5,[]),lateRepair 6]
    obtain ⟨entry,there,_,dead⟩ := claim { index := {}, drive := { files := {} } }
      [(.closeIdentities "claude" ["s"] [] 5,[]),lateRepair 6] ("claude","s") (by decide)
    have fenced : repaired.ledger.fence ("claude","s") = some { atMs := 6, scope := some (toLex (1,1)) } := by decide
    have through : ((repaired.ledger.under []).consultKillFence (laterOwner 30)).2 = none := rfl
    rw [show _ = _ from fenced] at there
    cases there
    -- The fence is neither expired nor outranked by a row.
    have fresh := dead (laterOwner 30) [] rfl through
    revert fresh
    decide

end FenceWatch
end Freshell.PaneLedger
