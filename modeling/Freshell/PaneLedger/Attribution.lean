import Freshell.PaneLedger.FileSteps

/-!
Whom a row is attributed to. The stamps and their time are one fact that the newest assertion
replaces, a clear empties and keeps the time of, and a fresh agent's row takes over from the
row that it supersedes. An assertion without a time leaves stamps without a time.
-/
namespace Freshell.PaneLedger
open Freshell.Library.Tables Freshell.Library.Drives Freshell.Library.Runs

variable {Payload : Type}

namespace Attribution

def empty : Attribution := { clientInstanceId := none, deviceId := none, tabKey := none, lastAttributedAt := none }

def Hollow (attribution : Attribution) : Prop :=
  attribution.clientInstanceId = none ∧ attribution.deviceId = none ∧ attribution.tabKey = none

instance (attribution : Attribution) : Decidable attribution.Hollow := inferInstanceAs (Decidable (_ ∧ _))

/-- The attribution clock; a time that is missing or not positive counts as none. -/
def clock (attribution : Attribution) : Int := max 0 (attribution.lastAttributedAt.getD 0)

/-- The stamps are those of the assertion, and the clock has its time. -/
def Of (attribution : Attribution) (stamps : ProvenanceStamps) : Prop :=
  attribution.clientInstanceId = stamps.clientInstanceId ∧ attribution.deviceId = stamps.deviceId ∧
    attribution.tabKey = stamps.tabKey ∧ attribution.clock = max 0 stamps.assertedAt

/-- The stamps are those of one of the assertions, or there are none. -/
def Traced (attribution : Attribution) (assertions : List ProvenanceStamps) : Prop :=
  attribution.Hollow ∨ ∃ stamps ∈ assertions, attribution.Of stamps

theorem Traced.mono {attribution : Attribution} {some_ all : List ProvenanceStamps} (traced : attribution.Traced some_)
    (listed : ∀ stamps ∈ some_, stamps ∈ all) : attribution.Traced all :=
  traced.imp_right fun ⟨stamps,member,of⟩ => ⟨stamps,listed stamps member,of⟩

end Attribution

def BindingRow.stamps (row : BindingRow) : ProvenanceStamps :=
  { clientInstanceId := row.clientInstanceId, deviceId := row.deviceId, tabKey := row.tabKey,
    assertedAt := row.lastAttributedAt.getD 0 }

def priorAttribution (existing : Option BindingRow) : Attribution :=
  (existing.map BindingRow.attribution).getD .empty

def FreshAgentBindingWrite.mergeProvenance (w : FreshAgentBindingWrite) (inherit : Option BindingRow) : Attribution :=
  let priorAttribution := inherit.bind (·.lastAttributedAt)
  let apply :=
    match w.provenance with
    | .replace stamps =>
      match priorAttribution with
      | none => attachesAttribution w.provenance
      | some time => advancesAttribution w.provenance && stamps.assertedAt ≥ time
    | _ => false
  let inherited : Attribution :=
    { clientInstanceId := inherit.bind (·.clientInstanceId), deviceId := inherit.bind (·.deviceId),
      tabKey := inherit.bind (·.tabKey), lastAttributedAt := inherit.bind (·.lastAttributedAt) }
  match w.provenance with
  | .inherit => inherited
  | .replace stamps =>
    if apply then
      { clientInstanceId := stamps.clientInstanceId, deviceId := stamps.deviceId, tabKey := stamps.tabKey,
        lastAttributedAt := appliedAttributionTime stamps.assertedAt }
    else inherited
  | .clear =>
    { clientInstanceId := none, deviceId := none, tabKey := none,
      lastAttributedAt := some (match priorAttribution with | none => w.nowMs | some time => max time w.nowMs) }

theorem mergeProvenance_eq (w : FreshAgentBindingWrite) (inherit : Option BindingRow) :
    w.mergeProvenance inherit = resolveProvenanceMerge inherit w.provenance w.nowMs := by
  unfold FreshAgentBindingWrite.mergeProvenance resolveProvenanceMerge
  cases w.provenance <;> rfl

/-- All that a merge can do: keep what stands, put the stamps of an assertion in its place
    that is not older than the clock, or empty it. -/
theorem merge_cases (existing : Option BindingRow) (provenance : ProvenancePolicy) (nowMs : Int) :
    (resolveProvenanceMerge existing provenance nowMs = priorAttribution existing ∧ provenance ≠ .clear) ∨
      (∃ stamps, provenance = .replace stamps ∧ (resolveProvenanceMerge existing provenance nowMs).Of stamps ∧
        (priorAttribution existing).clock ≤ max 0 stamps.assertedAt) ∨
      (provenance = .clear ∧ (resolveProvenanceMerge existing provenance nowMs).Hollow ∧
        (resolveProvenanceMerge existing provenance nowMs).clock = max (priorAttribution existing).clock nowMs) := by
  have inherited : (priorAttribution existing).lastAttributedAt = existing.bind (·.lastAttributedAt) := by
    cases existing <;> rfl
  cases provenance with
  | inherit => exact .inl ⟨by cases existing <;> rfl,by simp⟩
  | replace stamps =>
    have applied : Attribution.Of
        { clientInstanceId := stamps.clientInstanceId, deviceId := stamps.deviceId, tabKey := stamps.tabKey,
          lastAttributedAt := appliedAttributionTime stamps.assertedAt } stamps := by
      refine ⟨rfl,rfl,rfl,?_⟩
      unfold Attribution.clock appliedAttributionTime
      by_cases positive : stamps.assertedAt > 0
      · simp [positive]
      · simp only [if_neg positive,Option.getD_none]
        omega
    have merged : resolveProvenanceMerge existing (.replace stamps) nowMs = priorAttribution existing ∨
        (resolveProvenanceMerge existing (.replace stamps) nowMs).Of stamps ∧
          ∀ time, existing.bind (·.lastAttributedAt) = some time → time ≤ stamps.assertedAt := by
      unfold resolveProvenanceMerge
      cases prior : existing.bind (·.lastAttributedAt) with
      | none =>
        simp only
        split
        · exact .inr ⟨applied,by simp⟩
        · exact .inl (by rw [← prior]; cases existing <;> rfl)
      | some time =>
        simp only
        split
        · next applies =>
          have fresh : time ≤ stamps.assertedAt := by simpa using (Bool.and_eq_true _ _ |>.mp applies).2
          exact .inr ⟨applied,fun held same => Option.some.inj same ▸ fresh⟩
        · exact .inl (by rw [← prior]; cases existing <;> rfl)
    obtain kept | ⟨of,fresh⟩ := merged
    · exact .inl ⟨kept,by simp⟩
    · refine .inr (.inl ⟨stamps,rfl,of,?_⟩)
      unfold Attribution.clock
      rw [inherited]
      cases prior : existing.bind (·.lastAttributedAt) with
      | none => simp
      | some time =>
        have reached := fresh time prior
        simp only [Option.getD_some]
        omega
  | clear =>
    refine .inr (.inr ⟨rfl,⟨rfl,rfl,rfl⟩,?_⟩)
    unfold Attribution.clock
    rw [inherited]
    unfold resolveProvenanceMerge
    cases existing.bind (·.lastAttributedAt) with
    | none => simp
    | some time =>
      simp only [Option.getD_some]
      omega

namespace Ledger

/-- What a call says of the owner of an identity's row, and when. -/
def told (ledger : Ledger Payload) (op : LedgerOp Payload) (key : SessionKey) : Option (ProvenancePolicy × Int) :=
  match op with
  | .notePaneReattach w => if (w.provider,w.sessionId) = key then some (w.provenance,w.nowMs) else none
  | .recordFreshAgentBinding w => if w.key = key then some (w.provenance,w.nowMs) else none
  | .notePaneOpened _ createRequestId provenance nowMs =>
    if (ledger.index.bindings.lookup key).any fun row => row.state = .bound &&
        (row.createRequestId = some createRequestId || row.originCreateRequestId = some createRequestId) then
      some (provenance,nowMs)
    else none
  | _ => (ledger.recordedWrite op).bind fun w => if w.key = key then some (w.provenance,w.nowMs) else none

/-- The row that the row of an identity comes from in a call: the one that stands, or the
    one that a fresh agent's write supersedes. -/
def originRow (ledger : Ledger Payload) (op : LedgerOp Payload) (key : SessionKey) : Option BindingRow :=
  match ledger.index.bindings.lookup key, op with
  | some row, _ => some row
  | none, .recordFreshAgentBinding w => if w.key = key then ledger.supersededRow w else none
  | none, _ => none

end Ledger

/-- An attribution that a call can leave at an identity: as it stood, or as its one merge says. -/
def Attributes (start : Ledger Payload) (op : LedgerOp Payload) (key : SessionKey) (attribution : Attribution) : Prop :=
  (∃ row, start.index.bindings.lookup key = some row ∧ attribution = row.attribution) ∨
    ∃ provenance nowMs, start.told op key = some (provenance,nowMs) ∧
      attribution = resolveProvenanceMerge (start.originRow op key) provenance nowMs

section
variable {start ledger : Ledger Payload} {op : LedgerOp Payload} {key : SessionKey} {old row : BindingRow}

theorem originRow_of_found (found : start.index.bindings.lookup key = some old) :
    start.originRow op key = some old := by
  unfold Ledger.originRow
  rw [found]

theorem RowWrite.attributes (writes : RowWrite start op ledger row)
    (kept : ∀ key row, ledger.index.bindings.lookup key = some row → Attributes start op key row.attribution) :
    Attributes start op row.key row.attribution := by
  cases writes with
  | recorded w writes =>
    have told : start.told op w.key = some (w.provenance,w.nowMs) := by
      cases op <;> simp [Ledger.recordedWrite] at writes <;> simp [Ledger.told,Ledger.recordedWrite,writes]
    have origin : start.originRow op w.key = start.index.bindings.lookup w.key := by
      unfold Ledger.originRow
      cases start.index.bindings.lookup w.key with
      | none => cases op <;> simp [Ledger.recordedWrite] at writes <;> rfl
      | some old => rfl
    exact .inr ⟨w.provenance,w.nowMs,told,(congrArg (resolveProvenanceMerge · w.provenance w.nowMs) origin).symm⟩
  | agent w writes =>
    subst writes
    have told : start.told (.recordFreshAgentBinding w) w.key = some (w.provenance,w.nowMs) := by simp [Ledger.told]
    have origin : start.originRow (.recordFreshAgentBinding w) w.key =
        (start.index.bindings.lookup w.key).or (start.supersededRow w) := by
      unfold Ledger.originRow
      cases start.index.bindings.lookup w.key <;> simp
    exact .inr ⟨w.provenance,w.nowMs,told,(congrArg (resolveProvenanceMerge · w.provenance w.nowMs) origin).symm⟩
  | over_ old row stands change =>
    rw [change.key]
    have standing := kept _ _ stands
    cases change with
    | reattached w writes bound own first =>
      have told : start.told op old.key = some (w.provenance,w.nowMs) := by simp [writes,Ledger.told,own]
      exact .inr ⟨w.provenance,w.nowMs,told,by rw [originRow_of_found first]; rfl⟩
    | attributed order createRequestId provenance nowMs writes bound first keyed =>
      have told : start.told op old.key = some (provenance,nowMs) := by simp [writes,Ledger.told,first,bound,keyed]
      exact .inr ⟨provenance,nowMs,told,by rw [originRow_of_found first]; rfl⟩
    | _ => exact standing

/-- After a call a row is attributed as before it, or as the one merge of the call says. -/
theorem attributes_perform (start : Ledger Payload) (op : LedgerOp Payload)
    (found : (start.perform op).index.bindings.lookup key = some row) : Attributes start op key row.attribution := by
  refine FilePath.invariant (fun ledger => ∀ key row, ledger.index.bindings.lookup key = some row →
    Attributes start op key row.attribution) (fun before after step kept key row found => ?_) (start.path_perform op)
    (fun key row found => .inl ⟨row,found,rfl⟩) key row found
  obtain same | ⟨written,writes,rfl,there⟩ | ⟨_,gone⟩ := step.lookup key
  · exact kept key row (same.symm.trans found)
  · obtain rfl := Option.some.inj (there.symm.trans found)
    exact writes.attributes kept
  · simp [gone] at found

end

/-- A ledger; for each identity the assertions that were made of its row or of the one that
    it was made from; and the newest clear that its row shows. -/
structure AttributionWatch (Payload : Type) where
  ledger : Ledger Payload
  assertions : SessionKey → List ProvenanceStamps
  cleared : SessionKey → Int

namespace AttributionWatch

/-- What stands at the start counts as asserted. -/
def start (ledger : Ledger Payload) : AttributionWatch Payload :=
  { ledger
    assertions := fun key => ((ledger.index.bindings.lookup key).map BindingRow.stamps).toList
    cleared := fun _ => 0 }

/-- The identity whose row a row comes from; its own, where it comes from none. -/
def origin (watch : AttributionWatch Payload) (op : LedgerOp Payload) (key : SessionKey) : SessionKey :=
  ((watch.ledger.originRow op key).map BindingRow.key).getD key

def next (watch : AttributionWatch Payload) (call : LedgerOp Payload × List Fault) : AttributionWatch Payload :=
  let ledger := watch.ledger.next call
  { ledger
    assertions := fun key =>
      match watch.ledger.told call.1 key with
      | some (.replace stamps,_) => stamps :: watch.assertions (watch.origin call.1 key)
      | _ => watch.assertions (watch.origin call.1 key)
    cleared := fun key =>
      match ledger.index.bindings.lookup key, watch.ledger.originRow call.1 key with
      | some row, some old =>
        match watch.ledger.told call.1 key with
        | some (.clear,clearedAt) =>
          if row.attribution.Hollow ∧ clearedAt ≤ row.attribution.clock then max clearedAt (watch.cleared old.key)
          else watch.cleared old.key
        | _ => watch.cleared old.key
      | _, _ => 0 }

/-- Every row has no stamps, or just those of one assertion with its time; and its clock is
    not behind the newest clear. -/
def Whole (watch : AttributionWatch Payload) : Prop :=
  ∀ key row, watch.ledger.index.bindings.lookup key = some row →
    row.attribution.Traced (watch.assertions key) ∧ watch.cleared key ≤ row.attribution.clock

/-- From the row that it comes from, a row's clock does not go back; an assertion that is
    older than a clear changes nothing, nor does a call that says nothing; a clear that
    changes something empties the row and leaves its time; and a fresh agent's write makes a
    row from the one that it supersedes. -/
structure Orderly (watch : AttributionWatch Payload) (call : LedgerOp Payload × List Fault) : Prop where
  monotone : ∀ key old row, watch.ledger.originRow call.1 key = some old →
    (watch.ledger.next call).index.bindings.lookup key = some row → old.attribution.clock ≤ row.attribution.clock
  stale : ∀ key old row stamps nowMs, watch.ledger.originRow call.1 key = some old →
    (watch.ledger.next call).index.bindings.lookup key = some row →
    watch.ledger.told call.1 key = some (.replace stamps,nowMs) → 0 < watch.cleared old.key →
    stamps.assertedAt < watch.cleared old.key → row.attribution = old.attribution
  silent : ∀ key old row, watch.ledger.index.bindings.lookup key = some old →
    (watch.ledger.next call).index.bindings.lookup key = some row → watch.ledger.told call.1 key = none →
    row.attribution = old.attribution
  clear : ∀ key old row clearedAt, watch.ledger.originRow call.1 key = some old →
    (watch.ledger.next call).index.bindings.lookup key = some row →
    watch.ledger.told call.1 key = some (.clear,clearedAt) →
    row.attribution = old.attribution ∨ row.attribution.Hollow ∧ clearedAt ≤ row.attribution.clock
  child : ∀ w row, call.1 = .recordFreshAgentBinding w → watch.ledger.index.bindings.lookup w.key = none →
    (watch.ledger.next call).index.bindings.lookup w.key = some row →
    row.attribution = w.mergeProvenance (watch.ledger.supersededRow w)

variable {watch : AttributionWatch Payload} {call : LedgerOp Payload × List Fault} {op : LedgerOp Payload}
  {key : SessionKey} {old row : BindingRow}

theorem whole_start (ledger : Ledger Payload) : (start ledger).Whole := by
  intro key row found
  replace found : ledger.index.bindings.lookup key = some row := found
  exact ⟨.inr ⟨row.stamps,by simp [start,found],rfl,rfl,rfl,rfl⟩,le_max_left 0 _⟩

theorem attributes_next (found : (watch.ledger.next call).index.bindings.lookup key = some row) :
    Attributes watch.ledger call.1 key row.attribution := by
  unfold Ledger.next at found
  split at found
  · exact .inl ⟨row,found,rfl⟩
  · exact attributes_perform (watch.ledger.under call.2) call.1 found

theorem origin_found (origin : watch.ledger.originRow op key = some old) :
    watch.ledger.index.bindings.lookup old.key = some old := by
  unfold Ledger.originRow at origin
  split at origin
  · next found =>
    cases origin
    exact KeyedTable.lookup_own found
  · split at origin
    · obtain ⟨id,_,found⟩ := Option.bind_eq_some_iff.mp origin
      exact KeyedTable.lookup_own found
    · simp at origin
  · simp at origin

theorem attribution_cases (found : (watch.ledger.next call).index.bindings.lookup key = some row) :
    row.attribution = priorAttribution (watch.ledger.originRow call.1 key) ∨
      (∃ stamps nowMs, watch.ledger.told call.1 key = some (.replace stamps,nowMs) ∧ row.attribution.Of stamps ∧
        (priorAttribution (watch.ledger.originRow call.1 key)).clock ≤ max 0 stamps.assertedAt) ∨
      ∃ nowMs, watch.ledger.told call.1 key = some (.clear,nowMs) ∧ row.attribution.Hollow ∧
        row.attribution.clock = max (priorAttribution (watch.ledger.originRow call.1 key)).clock nowMs := by
  obtain ⟨old,stood,same⟩ | ⟨provenance,nowMs,told,merged⟩ := attributes_next found
  · rw [originRow_of_found stood,same]
    exact .inl rfl
  · rw [merged]
    obtain ⟨kept,_⟩ | ⟨stamps,rfl,of,fresh⟩ | ⟨rfl,hollow,clock⟩ :=
      merge_cases (watch.ledger.originRow call.1 key) provenance nowMs
    · exact .inl kept
    · exact .inr (.inl ⟨stamps,nowMs,told,of,fresh⟩)
    · exact .inr (.inr ⟨nowMs,told,hollow,clock⟩)

theorem clock_le (found : (watch.ledger.next call).index.bindings.lookup key = some row) :
    (priorAttribution (watch.ledger.originRow call.1 key)).clock ≤ row.attribution.clock := by
  obtain kept | ⟨stamps,nowMs,_,of,fresh⟩ | ⟨nowMs,_,_,clock⟩ := attribution_cases found
  · rw [kept]
  · rw [of.2.2.2]
    exact fresh
  · rw [clock]
    exact le_max_left _ _

theorem Whole.next (whole : watch.Whole) : (watch.next call).Whole := by
  intro key row found
  replace found : (watch.ledger.next call).index.bindings.lookup key = some row := found
  have behind := clock_le found
  have traced : (priorAttribution (watch.ledger.originRow call.1 key)).Traced
      (watch.assertions (watch.origin call.1 key)) := by
    unfold origin
    cases origin : watch.ledger.originRow call.1 key with
    | none => exact .inl ⟨rfl,rfl,rfl⟩
    | some old => exact (whole old.key old (origin_found origin)).1
  constructor
  · show row.attribution.Traced (match watch.ledger.told call.1 key with
      | some (.replace stamps,_) => stamps :: watch.assertions (watch.origin call.1 key)
      | _ => watch.assertions (watch.origin call.1 key))
    obtain kept | ⟨stamps,nowMs,told,of,_⟩ | ⟨_,_,hollow,_⟩ := attribution_cases found
    · rw [kept]
      split
      · exact traced.mono fun _ listed => List.mem_cons_of_mem _ listed
      · exact traced
    · rw [told]
      exact .inr ⟨stamps,List.mem_cons_self,of⟩
    · exact .inl hollow
  · cases origin : watch.ledger.originRow call.1 key with
    | none =>
      simp only [AttributionWatch.next,found,origin]
      exact le_max_left 0 _
    | some old =>
      simp only [AttributionWatch.next,found,origin]
      rw [origin] at behind
      have cleared : watch.cleared old.key ≤ row.attribution.clock :=
        (whole old.key old (origin_found origin)).2.trans behind
      split
      · split
        · next shows => exact max_le shows.2 cleared
        · exact cleared
      · exact cleared

theorem Whole.orderly (whole : watch.Whole) : watch.Orderly call where
  monotone key old row origin found := by
    have behind := clock_le found
    rw [origin] at behind
    exact behind
  stale key old row stamps nowMs origin found told positive older := by
    have cleared := (whole old.key old (origin_found origin)).2
    obtain kept | ⟨other,_,also,_,fresh⟩ | ⟨_,also,_⟩ := attribution_cases found
    · rw [kept,origin]
      rfl
    · rw [told] at also
      cases also
      rw [origin] at fresh
      have fresh : old.attribution.clock ≤ max 0 stamps.assertedAt := fresh
      omega
    · rw [told] at also
      cases also
  silent key old row stood found silent := by
    obtain kept | ⟨_,_,told,_⟩ | ⟨_,told,_⟩ := attribution_cases found
    · rw [kept,originRow_of_found stood]
      rfl
    · simp [silent] at told
    · simp [silent] at told
  clear key old row clearedAt origin found told := by
    obtain kept | ⟨_,_,also,_⟩ | ⟨_,also,hollow,clock⟩ := attribution_cases found
    · rw [kept,origin]
      exact .inl rfl
    · rw [told] at also
      cases also
    · rw [told] at also
      cases also
      exact .inr ⟨hollow,clock ▸ le_max_right _ _⟩
  child w row writes absent found := by
    obtain ⟨_,stood,_⟩ | ⟨provenance,nowMs,told,merged⟩ := attributes_next found
    · simp [absent] at stood
    · simp only [writes,Ledger.told,if_pos] at told
      obtain ⟨rfl,rfl⟩ := Prod.mk.inj (Option.some.inj told)
      have origin : watch.ledger.originRow call.1 w.key = watch.ledger.supersededRow w := by
        simp [Ledger.originRow,absent,writes]
      rw [merged,origin,mergeProvenance_eq]

/-- In every run of calls, whatever the file system does: a row has no stamps or just those of
    one assertion with its time, its clock does not go back, and no assertion that is older
    than a clear changes it; and a row that a fresh agent's write makes starts from the one
    that the write supersedes. -/
theorem attribution_run (ledger : Ledger Payload) (calls : List (LedgerOp Payload × List Fault)) :
    (run next (start ledger) calls).Whole ∧ Along next Orderly (start ledger) calls :=
  have preserved : ∀ (watch : AttributionWatch Payload) call, watch.Whole → True → (watch.next call).Whole :=
    fun _ _ whole _ => whole.next
  ⟨invariant_run preserved (whole_start ledger) (along_of_forall (fun _ _ => trivial) _ _),
    invariant_along preserved (fun _ _ whole _ => whole.orderly) (whole_start ledger)
      (along_of_forall (fun _ _ => trivial) _ _)⟩

def untimedWrite : BindingWrite :=
  { provider := "claude", sessionId := "s", terminalId := "t", mode := "claude", cwd := none, createRequestId := none,
    originCreateRequestId := none, provenance := .replace { clientInstanceId := some "c", deviceId := some "d" },
    observedEpoch := none, observedGeneration := none, nowMs := 10 }

/-- Stamps without a time attach. -/
theorem untimed_attaches :
    ¬ ∀ (calls : List (LedgerOp Unit × List Fault)) key row,
      (run next (start { index := {}, drive := { files := {} } }) calls).ledger.index.bindings.lookup key = some row →
      row.attribution.Hollow ∨
        ∃ stamps ∈ (run next (start { index := {}, drive := { files := {} } }) calls).assertions key,
          row.attribution.Of stamps ∧ 0 < stamps.assertedAt ∧ row.lastAttributedAt = some stamps.assertedAt := by
  intro claim
  obtain ⟨none_,_⟩ | ⟨stamps,_,_,_,time⟩ :=
    claim [(.recordBinding {} untimedWrite,[])] ("claude","s") (untimedWrite.row none) rfl
  · exact absurd none_ (by decide)
  · have untimed : (untimedWrite.row none).lastAttributedAt = none := by decide
    rw [untimed] at time
    cases time

end AttributionWatch
end Freshell.PaneLedger
