import Freshell.PaneLedger.CloseFrames

/-!
The single steps that every call is made of: one file replaced or removed with what the
index takes of it, a record read back into the index, or a change of the fences in memory.
What a step writes of a row is said here once; a property of ledgers that the steps keep,
the calls keep.
-/
namespace Freshell.PaneLedger
open Freshell.Library.Tables

variable {Payload : Type}

def BindingRow.Closed (row : BindingRow) : Prop := row.state = .retired ∧ row.retiredReason = some .closed

instance (row : BindingRow) : Decidable row.Closed := inferInstanceAs (Decidable (_ ∧ _))

namespace Ledger

/-- The write that a call records: its own, or the one that its marker makes of it. -/
def recordedWrite (ledger : Ledger Payload) (op : LedgerOp Payload) : Option BindingWrite :=
  match op with
  | .recordBinding _ w => some w
  | .resolvePending _ given => some (effectiveWrite (ledger.index.pending.lookup given.terminalId) given)
  | _ => none

def supersededRow (ledger : Ledger Payload) (w : FreshAgentBindingWrite) : Option BindingRow :=
  (w.supersedes.filter (· ≠ w.sessionId)).bind fun old => ledger.index.bindings.lookup (w.provider,old)

/-- Whether a call is a claim of the identity that goes through. -/
def commits (ledger : Ledger Payload) (op : LedgerOp Payload) (key : SessionKey) : Bool :=
  match op with
  | .commitClaim order provider sessionId expectKilledAtMs aliases nowMs =>
    (provider,sessionId) = key &&
      match (ledger.commitClaimAliased order provider sessionId expectKilledAtMs aliases nowMs).2 with
      | .ok .committed => true
      | _ => false
  | .clearKillTombstone _ provider sessionId => (provider,sessionId) = key
  | _ => false

/-- A call by which a close retires rows of its own right. -/
def closes : LedgerOp Payload → Bool
  | .closeIdentities .. => true
  | .closePane .. => true
  | .resolvePending .. => true
  | _ => false

def sweeps (op : LedgerOp Payload) (key : SessionKey) : Prop :=
  match op with
  | .gcRow swept _ _ => swept = key
  | .bootScan .. => True
  | _ => False

def links : LedgerOp Payload → Bool
  | .recordBinding .. => true
  | .resolvePending .. => true
  | .recordFreshAgentBinding .. => true
  | .bootScan .. => true
  | _ => false

def drops : LedgerOp Payload → Bool
  | .deleteBinding .. => true
  | .gcRow .. => true
  | .bootScan .. => true
  | _ => false

theorem drops_of_sweeps {op : LedgerOp Payload} {key : SessionKey} (sweeping : sweeps op key) : drops op = true := by
  cases op <;> simp_all [sweeps,drops]

end Ledger

/-- What a call writes over a row that stands; the call began at `start` and has come to `ledger`. -/
inductive RowChange (start : Ledger Payload) (op : LedgerOp Payload) (ledger : Ledger Payload) (old : BindingRow) :
    BindingRow → Prop where
  | superseded (winner : BindingRow) (nowMs : Int) (links : Ledger.links op = true)
    (wins : ledger.index.bindings.lookup winner.key = some winner) (bound : winner.state = .bound)
    (other : winner.key ≠ old.key) : RowChange start op ledger old (old.supersede winner.locator nowMs)
  | closed (nowMs : Int) (closes : Ledger.closes op = true) (bound : old.state = .bound) :
    RowChange start op ledger old (old.retire .closed nowMs)
  | dominated (nowMs : Int) (sweeps : Ledger.sweeps op old.key) (bound : old.state = .bound) (entry : KillTombstoneEntry)
    (there : ledger.fence old.key = some entry) (older : old.updatedAt ≤ entry.atMs) :
    RowChange start op ledger old (old.retire .closed nowMs)
  /-- The remnant of an identity whose fence stops a write. -/
  | consulted (w : FreshAgentBindingWrite) (writes : op = .recordFreshAgentBinding w) (own : old.key = w.key)
    (first : ledger = start) (bound : old.state = .bound) (entry : KillTombstoneEntry)
    (there : ledger.fence w.key = some entry) (binds : tombstoneScopeSparesNewer entry.scope w.pair = false)
    (older : old.updatedAt ≤ entry.atMs) : RowChange start op ledger old (old.retire .closed w.nowMs)
  | expired (nowMs : Int) (sweeps : Ledger.sweeps op old.key) (bound : old.state = .bound) :
    RowChange start op ledger old (old.retire .gcExpired nowMs)
  | missing (provider sessionId : String) (nowMs : Int) (writes : op = .retireMissing provider sessionId nowMs)
    (bound : old.state = .bound) : RowChange start op ledger old (old.retire .sessionMissing nowMs)
  /-- The row that a failed transition wrote itself. -/
  | failed (provider sessionId : String) (epoch generation : Nat) (at_ nowMs : Int)
    (writes : op = .repairFailedTransition provider sessionId epoch generation at_) (bound : old.state = .bound)
    (own : old.pair = some (toLex (epoch,generation))) :
    RowChange start op ledger old (old.retire .failedTransition nowMs)
  | reattached (w : ReattachWrite) (writes : op = .notePaneReattach w) (bound : old.state = .bound)
    (own : old.key = (w.provider,w.sessionId)) (first : start.index.bindings.lookup old.key = some old) :
    RowChange start op ledger old (w.row old)
  | stamped (provider sessionId : String) (epoch generation : Nat) (nowMs : Int)
    (writes : op = .stampOwnerPair provider sessionId epoch generation nowMs)
    (newer : ∀ pair, old.pair = some pair → pair < toLex (epoch,generation)) :
    RowChange start op ledger old
      { old with ownerEpoch := some epoch, ownerGeneration := some generation, updatedAt := nowMs }
  /-- The closed row of an identity that is claimed comes back. -/
  | revived (order : Order) (provider sessionId : String) (expectKilledAtMs : Option Int) (aliases : List String)
    (nowMs : Int) (writes : op = .commitClaim order provider sessionId expectKilledAtMs aliases nowMs)
    (closed : old.Closed) : RowChange start op ledger old
      { old with state := .bound, retiredReason := none, updatedAt := nowMs, lastObservedAt := nowMs }
  | seen (order : Order) (provider sessionId : String) (expectKilledAtMs : Option Int) (aliases : List String)
    (nowMs : Int) (writes : op = .commitClaim order provider sessionId expectKilledAtMs aliases nowMs)
    (bound : old.state = .bound) :
    RowChange start op ledger old { old with updatedAt := nowMs, lastObservedAt := nowMs }
  | attributed (order : Order) (createRequestId : String) (provenance : ProvenancePolicy) (nowMs : Int)
    (writes : op = .notePaneOpened order createRequestId provenance nowMs) (bound : old.state = .bound)
    (first : start.index.bindings.lookup old.key = some old)
    (keyed : old.createRequestId = some createRequestId ∨ old.originCreateRequestId = some createRequestId) :
    RowChange start op ledger old (old.attributed (resolveProvenanceMerge (some old) provenance nowMs))

inductive RowWrite (start : Ledger Payload) (op : LedgerOp Payload) (ledger : Ledger Payload) : BindingRow → Prop where
  | recorded (w : BindingWrite) (writes : start.recordedWrite op = some w)
    (first : ledger.index.bindings = start.index.bindings) (fresh : predates w.pair (start.rowPair w.key) = false) :
    RowWrite start op ledger (w.row (start.index.bindings.lookup w.key))
  | agent (w : FreshAgentBindingWrite) (writes : op = .recordFreshAgentBinding w)
    (first : ledger.index.bindings = start.index.bindings) (fresh : predates w.pair (start.rowPair w.key) = false) :
    RowWrite start op ledger
      (w.row (start.index.bindings.lookup w.key) ((start.index.bindings.lookup w.key).or (start.supersededRow w)))
  | over_ (old row : BindingRow) (stands : ledger.index.bindings.lookup old.key = some old)
    (change : RowChange start op ledger old row) : RowWrite start op ledger row

inductive FileStep (start : Ledger Payload) (op : LedgerOp Payload) : Ledger Payload → Ledger Payload → Prop where
  | row (ledger : Ledger Payload) (row : BindingRow) (writes : RowWrite start op ledger row) :
    FileStep start op ledger (ledger.writeBinding row).1
  | dropRow (ledger : Ledger Payload) (key : SessionKey) (drops : Ledger.drops op = true) :
    FileStep start op ledger (ledger.deleteBinding key).1
  | marker (ledger : Ledger Payload) (marker : PendingMarker) : FileStep start op ledger (ledger.writePending marker).1
  | dropMarker (ledger : Ledger Payload) (terminalId : String) :
    FileStep start op ledger (ledger.removePending terminalId).1
  | aliases (ledger : Ledger Payload) (key : SessionKey) (records : List (String × Int)) :
    FileStep start op ledger (ledger.writeAlias key records).1
  | dropAliases (ledger : Ledger Payload) (key : SessionKey) : FileStep start op ledger (ledger.removeAlias key).1
  | rollback (ledger : Ledger Payload) (change : Table SessionKey Payload → Table SessionKey Payload) :
    FileStep start op ledger (ledger.operate (fun files => { files with rollback := change files.rollback })
      fun index => { index with rollback := change index.rollback }).1
  /-- The record of a close, before anything else. -/
  | close (ledger : Ledger Payload) (key : String) (record : CloseEnvelopeRecord)
    (writes : start.closeWrites op = some (key,record)) (first : ledger = start) :
    FileStep start op ledger (ledger.putEnvelope key record fun index => feedCloseEnvelope index key record).1
  /-- The removal of a record that a failed write may have left, where there was none. -/
  | rollBack (ledger : Ledger Payload) (key : String) (absent : ledger.index.closeEnvelopes.lookup key = none) :
    FileStep start op ledger (ledger.unlinkEnvelope key id).1
  | probe (ledger : Ledger Payload) (key : String) : FileStep start op ledger (ledger.probeCloseEnvelope key).1
  | feed (ledger : Ledger Payload) (key : String) (record brought : CloseEnvelopeRecord)
    (writes : start.closeWrites op = some (key,record)) (brings : start.Brings key record brought)
    (first : ledger.index = start.index) (stands : ledger.standing key = some brought)
    (current : brought.ledgerVersion = ledgerVersion) : FileStep start op ledger (ledger.feed key brought)
  | clearFence (ledger : Ledger Payload) (key : SessionKey) : FileStep start op ledger (ledger.clearKillFence key).1
  | dropTombstone (ledger : Ledger Payload) (key : SessionKey) :
    FileStep start op ledger (ledger.unlinkTombstone key fun index =>
      { index with legacyTombstoneKeys := index.legacyTombstoneKeys.filter (· ≠ key) }).1
  | shrink (ledger : Ledger Payload) (key : String) (record : CloseEnvelopeRecord) (less : Option CloseEnvelopeRecord)
    (stands : ledger.index.closeEnvelopes.lookup key = some record)
    (fewer : ∀ kept, less = some kept → kept.ledgerVersion = record.ledgerVersion ∧ ∀ kill ∈ kept.kills, kill ∈ record.kills) :
    FileStep start op ledger (ledger.replaceEnvelope key less).1
  | unlinkRecord (ledger : Ledger Payload) (key : String) (record : CloseEnvelopeRecord)
    (stands : ledger.index.closeEnvelopes.lookup key = some record) :
    FileStep start op ledger (ledger.unlinkRecord key record.terminalId).1
  /-- The record leaves the index after its files are gone. -/
  | forget (ledger : Ledger Payload) (key : String) (gone : ledger.standing key = none) :
    FileStep start op ledger
      { ledger with index := { ledger.index with closeEnvelopes := ledger.index.closeEnvelopes.erase key } }
  | unfed (ledger : Ledger Payload) (fences : Table SessionKey KillTombstoneEntry)
    (fewer : ∀ key entry, fences.lookup key = some entry → ledger.fence key = some entry) :
    FileStep start op ledger { ledger with index := { ledger.index with killTombstones := fences } }
  /-- The fence of an identity that is claimed, worked out anew. -/
  | recomputed (ledger : Ledger Payload) (key : SessionKey) (fences : Table SessionKey KillTombstoneEntry)
    (claims : start.commits op key = true) (others : ∀ other, other ≠ key → fences.lookup other = ledger.fence other) :
    FileStep start op ledger { ledger with index := { ledger.index with killTombstones := fences } }
  | quarantine (ledger : Ledger Payload) (order : Order) : FileStep start op ledger (ledger.quarantine order)

abbrev FilePath (start : Ledger Payload) (op : LedgerOp Payload) : Ledger Payload → Ledger Payload → Prop :=
  Relation.ReflTransGen (FileStep start op)

variable {start : Ledger Payload} {op : LedgerOp Payload}

theorem FilePath.invariant (Invariant : Ledger Payload → Prop)
    (kept : ∀ before after, FileStep start op before after → Invariant before → Invariant after)
    {before after : Ledger Payload} (path : FilePath start op before after) (holds : Invariant before) :
    Invariant after := by
  induction path with
  | refl => exact holds
  | tail _ step ih => exact kept _ _ step ih

theorem FilePath.foldl {Item State : Type} (ledger : State → Ledger Payload) {step : State → Item → State}
    {items : List Item} (path : ∀ item ∈ items, ∀ state, FilePath start op (ledger state) (ledger (step state item)))
    (state : State) : FilePath start op (ledger state) (ledger (items.foldl step state)) := by
  induction items generalizing state with
  | nil => exact .refl
  | cons item rest ih =>
    exact (path item List.mem_cons_self state).trans (ih (fun later listed => path later (List.mem_cons_of_mem _ listed)) _)

namespace Ledger

/-! ### The writers of rows -/

variable (ledger : Ledger Payload) (order : Order)

theorem path_recordBinding {w : BindingWrite} (writes : start.recordedWrite op = some w)
    (first : ledger.index.bindings = start.index.bindings) (links_ : links op = true) :
    FilePath start op ledger (ledger.recordBinding order w).1 := by
  unfold recordBinding
  simp only
  split
  · exact .refl
  next fresh =>
  have wrote : FilePath start op ledger (ledger.writeBinding (w.row (ledger.index.bindings.lookup w.key))).1 := by
    unfold rowPair at fresh
    rw [first] at fresh ⊢
    exact .single (.row _ _ (.recorded w writes first (by simpa [rowPair] using fresh)))
  have cases := ledger.writeBinding_cases (w.row (ledger.index.bindings.lookup w.key))
  split
  · next written failed =>
    rw [failed] at wrote
    exact wrote
  · next written done =>
    rw [done] at wrote cases
    split
    · exact wrote
    · next old previous =>
      -- The row that is superseded is another than the one just written.
      have found : ledger.index.bindings.lookup _ = some old := mem_listed.mp (List.mem_of_find?_eq_some previous)
      have distinct := List.find?_some previous
      simp only [decide_eq_true_eq] at distinct
      obtain ⟨impossible,_⟩ | ⟨_,put⟩ := cases
      · simp at impossible
      have apart : old.key ≠ w.key := by
        intro same
        have provider : old.provider = w.provider := congrArg Prod.fst same
        have sessionId : old.sessionId = w.sessionId := congrArg Prod.snd same
        simp [provider,sessionId] at distinct
      have stands : written.index.bindings.lookup old.key = some old := by
        rw [put]
        simp only [KeyedTable.lookup_put]
        rw [if_neg (show ¬ old.key = (w.row _).key from apart)]
        exact KeyedTable.key_of_lookup found ▸ found
      have wins : written.index.bindings.lookup w.key = some (w.row (ledger.index.bindings.lookup w.key)) := by
        rw [put]
        exact KeyedTable.lookup_put_self _ (w.row _)
      exact wrote.tail (.row _ _ (.over_ old _ stands
        (.superseded (w.row (ledger.index.bindings.lookup w.key)) w.nowMs links_ wins rfl apart.symm)))

theorem path_notePaneReattach (w : ReattachWrite) :
    FilePath ledger (.notePaneReattach w) ledger (ledger.notePaneReattach w).1 := by
  unfold notePaneReattach
  split
  · exact .refl
  next existing found =>
  split
  · exact .refl
  next bound =>
  have stands := KeyedTable.lookup_own found
  have wrote : FilePath ledger (.notePaneReattach w) ledger (ledger.writeBinding (w.row existing)).1 :=
    .single (.row _ _ (.over_ existing _ stands (.reattached w rfl (not_not.mp bound) (KeyedTable.key_of_lookup found) stands)))
  split
  · exact .refl
  split
  · next written done =>
    rw [done] at wrote
    exact wrote
  · next written failed =>
    rw [failed] at wrote
    exact wrote

variable (provider sessionId : String)

theorem path_stampOwnerPair (epoch generation : Nat) (nowMs : Int) :
    FilePath start (.stampOwnerPair provider sessionId epoch generation nowMs) ledger
      (ledger.stampOwnerPair provider sessionId epoch generation nowMs).1 := by
  unfold stampOwnerPair
  split
  · exact .refl
  next row found =>
  split
  · exact .refl
  next newer =>
  refine .single (.row _ _ (.over_ row _ (KeyedTable.lookup_own found) (.stamped _ _ _ _ _ rfl fun pair held => ?_)))
  simpa [held] using newer

theorem path_recordFreshAgentBinding (w : FreshAgentBindingWrite) :
    FilePath start (.recordFreshAgentBinding w) start (start.recordFreshAgentBinding w).1 := by
  have consulted : FilePath start (.recordFreshAgentBinding w) start (start.consultKillFence w).1 ∧
      ((start.consultKillFence w).2 = none →
        (start.consultKillFence w).1.index.bindings = start.index.bindings) := by
    obtain same | cleared | ⟨remnant,entry,found,bound,there,binds,older,answers,retired⟩ := start.consult_cases w
    · rw [same]
      exact ⟨.refl,fun _ => rfl⟩
    · rw [cleared]
      exact ⟨.single (.clearFence _ _),fun _ => clearKillFence_bindings _ _⟩
    · rw [retired]
      refine ⟨.single (.row _ _ (.over_ remnant _ (KeyedTable.lookup_own found) ?_)),fun none_ => by simp [none_] at answers⟩
      exact .consulted w rfl (KeyedTable.key_of_lookup found) rfl bound entry there binds older
  unfold recordFreshAgentBinding
  split
  · next fenced result answered =>
    rw [answered] at consulted
    exact consulted.1
  next open_ answered =>
  rw [answered] at consulted
  obtain ⟨path,first⟩ := consulted
  replace first := first rfl
  simp only
  rw [first]
  split
  · exact path
  next fresh =>
  split
  · exact path
  have wrote := path.tail (.row _ _ (.agent w rfl first (by simpa [rowPair] using fresh)))
  unfold supersededRow at wrote
  have cases := open_.writeBinding_cases (w.row (start.index.bindings.lookup w.key)
    ((start.index.bindings.lookup w.key).or (start.supersededRow w)))
  unfold supersededRow at cases
  split
  · next written failed =>
    rw [failed] at wrote
    exact wrote
  · next written done =>
    rw [done] at wrote cases
    split
    · exact wrote
    · next old superseded =>
      obtain ⟨id,named,found⟩ := Option.bind_eq_some_iff.mp superseded
      have other : w.key ≠ old.key := by
        rw [KeyedTable.key_of_lookup found]
        intro same
        have own : w.sessionId = id := congrArg Prod.snd same
        simp [own] at named
      obtain ⟨impossible,_⟩ | ⟨_,put⟩ := cases
      · simp at impossible
      refine wrote.tail (.row _ _ (.over_ old _ (KeyedTable.lookup_own found)
        (.superseded (w.row (start.index.bindings.lookup w.key)
          ((start.index.bindings.lookup w.key).or (start.supersededRow w))) w.nowMs rfl ?_ rfl other)))
      rw [put]
      exact KeyedTable.lookup_put_self _ (w.row _ _)

theorem path_retireMissing (nowMs : Int) :
    FilePath start (.retireMissing provider sessionId nowMs) ledger (ledger.retireMissing provider sessionId nowMs).1 := by
  unfold retireMissing
  split
  · exact .refl
  next row found =>
  split
  · exact .refl
  next bound =>
  exact .single (.row _ _ (.over_ row _ (KeyedTable.lookup_own found) (.missing _ _ _ rfl (not_not.mp bound))))

theorem path_removeAllPending (terminalIds : List String) :
    FilePath start op ledger (ledger.removeAllPending terminalIds) :=
  FilePath.foldl id (fun terminalId _ ledger => .single (.dropMarker ledger terminalId)) _

/-! ### Closes -/

variable {key : String} {record : CloseEnvelopeRecord}

theorem path_probeOutcome (writes : start.closeWrites op = some (key,record)) (first : ledger.index = start.index)
    (brings : ∀ brought, ledger.standing key = some brought → start.Brings key record brought) :
    FilePath start op ledger (ledger.probeOutcome key record).1 ∧
      (ledger.probeOutcome key record).1.index.bindings = start.index.bindings := by
  have probed : FilePath start op ledger (ledger.probeCloseEnvelope key).1 := .single (.probe _ _)
  have same := (ledger.probeCloseEnvelope_index key).trans first
  unfold probeOutcome
  split
  · next after brought probe =>
    obtain ⟨before,stands,current⟩ := standing_of_probe probe
    rw [probe] at probed same
    have kept : after.index.bindings = start.index.bindings := congrArg (·.bindings) same
    split
    · exact ⟨probed.tail (.feed _ _ _ _ writes (brings brought before) same stands current),kept⟩
    · exact ⟨probed,kept⟩
  · next after probe =>
    rw [probe] at probed same
    exact ⟨probed,congrArg (·.bindings) same⟩

theorem path_persistCloseEnvelope (writes : start.closeWrites op = some (key,record)) (hadPrior : Bool)
    (prior : hadPrior = false → start.index.closeEnvelopes.lookup key = none) :
    FilePath start op start (start.persistCloseEnvelope key record hadPrior).1 ∧
      (start.persistCloseEnvelope key record hadPrior).1.index.bindings = start.index.bindings := by
  have put : FilePath start op start (start.putEnvelope key record fun index => feedCloseEnvelope index key record).1 :=
    .single (.close _ _ _ writes rfl)
  have index := start.operate_index (fun files => { files with closeEnvelopes := files.closeEnvelopes.insert key record })
    fun index => feedCloseEnvelope index key record
  have stood := start.putEnvelope_standing key record fun index => feedCloseEnvelope index key record
  change (_ ∧ (start.putEnvelope key record _).1.index = _) ∨ _ at index
  unfold persistCloseEnvelope
  split
  · next written wrote =>
    rw [show start.operate _ _ = (written,true) from wrote] at index
    rw [wrote] at put
    obtain ⟨failed,_⟩ | ⟨_,fed⟩ := index
    · simp at failed
    · exact ⟨put,congrArg (·.bindings) fed⟩
  next failed wrote =>
  rw [wrote] at put stood index
  have same : failed.index = start.index := by
    obtain ⟨_,same⟩ | ⟨done,_⟩ := index
    · exact same
    · exact Bool.noConfusion (done.symm.trans (congrArg Prod.snd wrote))
  have brings : ∀ brought, failed.standing key = some brought → start.Brings key record brought := by
    intro brought found
    obtain old | new := stood
    · exact .inr (old.symm.trans found)
    · exact .inl (Option.some.inj (found.symm.trans new))
  split
  · exact (path_probeOutcome failed writes same brings).imp_left put.trans
  next none_ =>
  have removed : FilePath start op start (failed.unlinkEnvelope key id).1 :=
    put.tail (.rollBack _ _ (by rw [same]; exact prior (by simpa using none_)))
  have kept : (failed.unlinkEnvelope key id).1.index = start.index := (failed.operate_kept id _ rfl).trans same
  have unlinked := failed.unlinkEnvelope_standing key id
  split
  · next rolledBack undone =>
    rw [undone] at removed kept
    exact ⟨removed,congrArg (·.bindings) kept⟩
  · next left undone =>
    rw [undone] at removed kept unlinked
    refine (path_probeOutcome left writes kept fun brought found => ?_).imp_left removed.trans
    obtain before | nothing := unlinked
    · exact brings brought (before.symm.trans found)
    · rw [nothing] at found
      simp at found

/-- The calls that retire the rows of a close: as closed, or the row of one transition. -/
def Flips (op : LedgerOp Payload) (orphanFilter : Option OwnerPair) : Prop :=
  match orphanFilter with
  | none => closes op = true
  | some pair => ∃ provider sessionId epoch generation nowMs,
    op = .repairFailedTransition provider sessionId epoch generation nowMs ∧ pair = toLex (epoch,generation)

theorem path_projectRowFlip (nowMs : Int) {orphanFilter : Option OwnerPair} (flips : Flips op orphanFilter)
    (key : SessionKey) : FilePath start op ledger (projectRowFlip nowMs orphanFilter ledger key) := by
  unfold projectRowFlip
  split
  · exact .refl
  next row found =>
  have stands := KeyedTable.lookup_own found
  split
  · exact .refl
  next bound =>
  split
  · exact .single (.row _ _ (.over_ row _ stands (.closed nowMs flips (not_not.mp bound))))
  next pair =>
  split
  · next own =>
    obtain ⟨_,_,_,_,_,repairs,rfl⟩ := flips
    exact .single (.row _ _ (.over_ row _ stands (.failed _ _ _ _ _ nowMs repairs (not_not.mp bound) own.2)))
  · exact .refl

theorem path_closeEnvelope {close : CloseSet} {nowMs : Int}
    (writes : start.closeWrites op = some (key,close.record (start.index.closeEnvelopes.lookup key) nowMs))
    (flips : ∀ named ∈ close.identities, Flips op close.orphanFilter) :
    FilePath start op start (start.closeEnvelope key close nowMs).1 := by
  have persisted := (path_persistCloseEnvelope writes (start.index.closeEnvelopes.lookup key).isSome
    fun absent => by simpa using absent).1
  unfold closeEnvelope
  simp only
  split
  · next failed clean =>
    rw [clean] at persisted
    exact persisted
  · next closed outcome _ made =>
    rw [made] at persisted
    exact persisted.trans (FilePath.foldl id (fun named listed ledger =>
      path_projectRowFlip ledger nowMs (flips named listed) named) _)

theorem path_closeIdentities (sessionIds pendingIds : List String) (nowMs : Int) :
    FilePath start (.closeIdentities provider sessionIds pendingIds nowMs) start
      (start.closeIdentities provider sessionIds pendingIds nowMs).1 := by
  cases named : closedKeys provider sessionIds with
  | nil =>
    rw [(start.closeIdentities_nobody named pendingIds nowMs).1]
    exact path_removeAllPending _ _
  | cons first rest =>
    obtain ⟨closes,written⟩ := start.closeIdentities_named named pendingIds nowMs
    have closed := path_closeEnvelope written fun _ _ => rfl
    rw [closes]
    split
    · next after done =>
      rw [done] at closed
      exact closed.trans (path_removeAllPending _ _)
    · next failed error answered =>
      rw [answered] at closed
      exact closed

theorem path_closePane (w : PaneCloseWrite) :
    FilePath start (.closePane order w) start (start.closePane order w).1 := by
  have writes : start.closeWrites (.closePane order w) = some _ := rfl
  have closed := path_closeEnvelope writes fun _ _ => rfl
  unfold closePane
  split
  · next after done =>
    rw [done] at closed
    exact closed.tail (.dropMarker _ _)
  · next failed error answered =>
    rw [answered] at closed
    exact closed

theorem path_resolvePending (given : BindingWrite) :
    FilePath start (.resolvePending order given) start (start.resolvePending order given).1 := by
  have recording : start.recordedWrite (.resolvePending order given) =
    some (effectiveWrite (start.index.pending.lookup given.terminalId) given) := rfl
  have writing : start.closeWrites (.resolvePending order given) =
    let w := effectiveWrite (start.index.pending.lookup given.terminalId) given
    (start.index.closeEnvelopes.lookup (paneEnvelopeKey w.terminalId)).map fun close =>
      (paneEnvelopeKey w.terminalId,learnKill close w) := rfl
  unfold resolvePending
  simp only at writing ⊢
  generalize effectiveWrite (start.index.pending.lookup given.terminalId) given = w at *
  split
  · have recorded := path_recordBinding start order recording rfl rfl
    split
    · next failed error answered =>
      rw [answered] at recorded
      exact recorded
    · next written answered =>
      rw [answered] at recorded
      exact recorded.tail (.dropMarker _ _)
  next close found =>
  rw [found] at writing
  have persisted := path_persistCloseEnvelope writing true fun none_ => by simp at none_
  split
  · next failed answered =>
    rw [answered] at persisted
    exact persisted.1
  next folded outcome _ answered =>
  rw [answered] at persisted
  have recorded := persisted.1.trans (path_recordBinding folded order recording persisted.2 rfl)
  split
  · next failed error answered =>
    rw [answered] at recorded
    exact recorded
  next written answered =>
  rw [answered] at recorded
  have retired : FilePath start (.resolvePending order given) start (written.retireResolved w).1 := by
    refine recorded.trans ?_
    unfold retireResolved
    split
    · exact .refl
    next row found =>
    split
    · next bound => exact .single (.row _ _ (.over_ row _ (KeyedTable.lookup_own found) (.closed w.nowMs rfl bound)))
    · exact .refl
  split
  · next failed answered =>
    rw [answered] at retired
    exact retired
  · next after answered =>
    rw [answered] at retired
    exact retired.tail (.dropMarker _ _)

/-! ### Claims and panes that open again -/

def Fewer (record : CloseEnvelopeRecord) (less : Option CloseEnvelopeRecord) : Prop :=
  ∀ kept, less = some kept → kept.ledgerVersion = record.ledgerVersion ∧ ∀ kill ∈ kept.kills, kill ∈ record.kills

variable (record)

theorem fewer_without (key : SessionKey) : Fewer record (record.without key) := by
  intro kept found
  unfold CloseEnvelopeRecord.without at found
  simp only at found
  split at found
  · simp at found
  · cases found
    exact ⟨rfl,fun kill listed => (List.mem_filter.mp listed).1⟩

variable (createRequestId : String)

theorem fewer_withoutPane : Fewer record (record.withoutPane createRequestId) := by
  intro kept found
  unfold CloseEnvelopeRecord.withoutPane at found
  simp only at found
  split at found <;> split at found
  · simp at found
  · cases found
    exact ⟨rfl,fun kill listed => listed⟩
  · simp at found
  · cases found
    exact ⟨rfl,fun kill listed => listed⟩

variable (key : SessionKey) (state : Ledger Payload × Bool)

theorem path_consumeRecord (envelopeKey : String) :
    FilePath start op state.1 (consumeRecord key state envelopeKey).1 := by
  unfold consumeRecord
  split
  · exact .refl
  · next record found => exact .single (.shrink _ _ record _ found (fewer_without record key))

theorem path_consumeLinkage (key : String) : FilePath start op state.1 (consumeLinkage createRequestId state key).1 := by
  unfold consumeLinkage
  split
  · exact .refl
  · next record found => exact .single (.shrink _ _ record _ found (fewer_withoutPane record createRequestId))

theorem consumeLinkages_bindings (keys : List String) (state : Ledger Payload × Bool) :
    (keys.foldl (consumeLinkage createRequestId) state).1.index.bindings = state.1.index.bindings := by
  induction keys generalizing state with
  | nil => rfl
  | cons key rest ih =>
    rw [List.foldl_cons,ih]
    unfold consumeLinkage
    split
    · rfl
    · exact replaceEnvelope_bindings _ _ _

theorem path_consumeKillFence (claims : start.commits op key = true) :
    FilePath start op ledger (ledger.consumeKillFence order key).1 := by
  unfold consumeKillFence
  simp only
  refine Relation.ReflTransGen.tail ?_ (.recomputed _ key _ claims fun other distinct => ?_)
  · refine Relation.ReflTransGen.trans (.single (.dropTombstone ledger key)) ?_
    exact FilePath.foldl Prod.fst (fun at_ _ state => path_consumeRecord key state at_) _
  · split
    · rw [lookup_insert,if_neg distinct]
      rfl
    · split
      · rw [lookup_erase,if_neg distinct]
        rfl
      · rfl

theorem path_commitClaimAliased (expectKilledAtMs : Option Int) (aliases : List String) (nowMs : Int) :
    FilePath start (.commitClaim order provider sessionId expectKilledAtMs aliases nowMs) start
      (start.commitClaimAliased order provider sessionId expectKilledAtMs aliases nowMs).1 := by
  have revived : FilePath start (.commitClaim order provider sessionId expectKilledAtMs aliases nowMs) start
      (start.reviveRow (provider,sessionId) nowMs).1 := by
    unfold reviveRow
    split
    · exact .refl
    next row found =>
    have stands := KeyedTable.lookup_own found
    split
    · next closed => exact .single (.row _ _ (.over_ row _ stands (.revived _ _ _ _ _ _ rfl closed)))
    · split
      · next bound => exact .single (.row _ _ (.over_ row _ stands (.seen _ _ _ _ _ _ rfl bound)))
      · exact .refl
  obtain same | onlyRow | ⟨committed,_,consumed⟩ :=
    start.commitClaim_cases order provider sessionId expectKilledAtMs aliases nowMs
  · rw [same]
  · rw [onlyRow]
    exact revived
  · rw [consumed]
    exact revived.trans (path_consumeKillFence _ order _ (by simp [commits,committed]))

theorem path_clearAliasTombstones (durable : String) :
    FilePath start op ledger (ledger.clearAliasTombstonesForDurable order provider durable).1 := by
  unfold clearAliasTombstonesForDurable
  simp only
  refine FilePath.foldl Prod.fst (fun key _ state => ?_) (ledger,true,([] : List String))
  unfold consumeAlias
  split
  · exact .refl
  · simp only
    split
    · exact .single (.dropAliases _ _)
    · exact .single (.aliases _ _ _)

def Stand (ledger : Ledger Payload) (rows : List BindingRow) : Prop :=
  ∀ row ∈ rows, ledger.index.bindings.lookup row.key = some row ∧ row.state = .bound

variable {ledger}

theorem Stand.rest {loser changed : BindingRow} {rows : List BindingRow} (stand : ledger.Stand (loser :: rows))
    (apart : loser ∉ rows) (same : changed.key = loser.key) : (ledger.writeBinding changed).1.Stand rows := by
  intro row listed
  obtain ⟨found,bound⟩ := stand row (List.mem_cons_of_mem _ listed)
  refine ⟨?_,bound⟩
  obtain ⟨_,index⟩ | ⟨_,index⟩ := ledger.writeBinding_cases changed
  · rw [index]
    exact found
  · rw [index]
    simp only [KeyedTable.lookup_put]
    rw [if_neg]
    · exact found
    · intro at_
      have losing := (stand loser List.mem_cons_self).1
      rw [at_,same,losing] at found
      exact apart (Option.some.inj found ▸ listed)

theorem nodup_rows (ledger : Ledger Payload) (order : Order) :
    ((listed order.bindings ledger.index.bindings.table).map Prod.snd).Nodup := by
  have own : ((listed order.bindings ledger.index.bindings.table).map Prod.snd).map BindingRow.key =
      (listed order.bindings ledger.index.bindings.table).map Prod.fst := by
    rw [List.map_map]
    refine List.map_congr_left fun entry member => ?_
    have found : ledger.index.bindings.lookup entry.1 = some entry.2 := mem_listed.mp member
    exact ledger.index.bindings.keyed entry.1 entry.2 found
  exact .of_map BindingRow.key (own ▸ nodup_listed _ _)

variable (ledger) (provenance : ProvenancePolicy) (nowMs : Int)

theorem path_reassertRow {row : BindingRow} {rest : List BindingRow} {state : Ledger Payload × Bool}
    (stand : state.1.Stand (row :: rest)) (apart : row ∉ rest) (first : start.index.bindings.lookup row.key = some row)
    (keyed : row.createRequestId = some createRequestId ∨ row.originCreateRequestId = some createRequestId) :
    FilePath start (.notePaneOpened order createRequestId provenance nowMs) state.1
      (reassertRow provenance nowMs state row.key).1 ∧ (reassertRow provenance nowMs state row.key).1.Stand rest := by
  obtain ⟨found,bound⟩ := stand row List.mem_cons_self
  unfold reassertRow
  rw [found]
  simp only
  split
  · exact ⟨.refl,fun later listed => stand later (List.mem_cons_of_mem _ listed)⟩
  · exact ⟨.single (.row _ _ (.over_ row _ found (.attributed _ _ _ _ rfl bound first keyed))),
      stand.rest apart (BindingRow.attributed_key row _)⟩

theorem path_reassertRows {rows : List BindingRow} (first : start.Stand rows)
    (keyed : ∀ row ∈ rows, row.createRequestId = some createRequestId ∨ row.originCreateRequestId = some createRequestId)
    (distinct : rows.Nodup) {state : Ledger Payload × Bool} (stand : state.1.Stand rows) :
    FilePath start (.notePaneOpened order createRequestId provenance nowMs) state.1
      ((rows.map BindingRow.key).foldl (reassertRow provenance nowMs) state).1 := by
  induction rows generalizing state with
  | nil => exact .refl
  | cons row rest ih =>
    obtain ⟨apart,distinct⟩ := List.nodup_cons.mp distinct
    obtain ⟨path,stands⟩ := path_reassertRow order createRequestId provenance nowMs stand apart
      (first row List.mem_cons_self).1 (keyed row List.mem_cons_self)
    exact path.trans (ih (fun later listed => first later (List.mem_cons_of_mem _ listed))
      (fun later listed => keyed later (List.mem_cons_of_mem _ listed)) distinct stands)

theorem path_notePaneOpened :
    FilePath ledger (.notePaneOpened order createRequestId provenance nowMs) ledger
      (ledger.notePaneOpened order createRequestId provenance nowMs).1 := by
  unfold notePaneOpened
  rw [answer_fst]
  generalize List.map Prod.fst (List.filter _ (listed order.envelopes _)) = keys
  have consumes : FilePath ledger (.notePaneOpened order createRequestId provenance nowMs) ledger
      (keys.foldl (consumeLinkage createRequestId) (ledger,true)).1 :=
    FilePath.foldl Prod.fst (fun key _ state => path_consumeLinkage createRequestId state key) (ledger,true)
  have same := consumeLinkages_bindings createRequestId keys (ledger,true)
  generalize keys.foldl (consumeLinkage createRequestId) (ledger,true) = consumed at *
  let entries := (listed order.bindings consumed.1.index.bindings.table).filter fun entry =>
    entry.2.state = .bound && (entry.2.createRequestId = some createRequestId ||
      entry.2.originCreateRequestId = some createRequestId)
  have touched : ∀ row ∈ entries.map Prod.snd,
      consumed.1.index.bindings.lookup row.key = some row ∧ row.state = .bound ∧
        (row.createRequestId = some createRequestId ∨ row.originCreateRequestId = some createRequestId) := by
    intro row listed_
    obtain ⟨⟨key,_⟩,member,rfl⟩ := List.mem_map.mp listed_
    obtain ⟨member,keyed⟩ := List.mem_filter.mp member
    have found : consumed.1.index.bindings.lookup key = some _ := mem_listed.mp member
    exact ⟨KeyedTable.lookup_own found,by simpa using keyed⟩
  have once : (entries.map Prod.snd).Nodup := (List.filter_sublist.map Prod.snd).nodup (consumed.1.nodup_rows order)
  have stand : consumed.1.Stand (entries.map Prod.snd) := fun row listed => ⟨(touched row listed).1,(touched row listed).2.1⟩
  have first : ledger.Stand (entries.map Prod.snd) := fun row listed => by
    rw [← show consumed.1.index.bindings = ledger.index.bindings from same]
    exact stand row listed
  have path : FilePath ledger (.notePaneOpened order createRequestId provenance nowMs) consumed.1 _ :=
    path_reassertRows order createRequestId provenance nowMs first (fun row listed => (touched row listed).2.2) once stand
  rw [List.map_map] at path
  exact consumes.trans path

/-! ### The sweeps -/

theorem path_gcMarker (terminalId : String) (nowMs : Int) (live : Option (List String)) :
    FilePath start op ledger (ledger.gcMarker terminalId nowMs live) := by
  unfold gcMarker
  split
  · exact .refl
  · simp only
    split
    · exact .single (.dropMarker _ _)
    · exact .refl

theorem path_gcRow (sweeping : sweeps op key) (nowMs : Int) (absent : SessionKey → Bool) :
    FilePath start op ledger (ledger.gcRow key nowMs absent) := by
  unfold gcRow
  split
  · exact .refl
  next row found =>
  have stands := KeyedTable.lookup_own found
  have own : row.key = key := KeyedTable.key_of_lookup found
  split
  · next bound =>
    split
    · next dominated =>
      obtain ⟨entry,there,verdict⟩ := Option.any_eq_true .. |>.mp dominated
      have older : row.updatedAt ≤ entry.atMs := by
        simpa [BindingRow.view,bound,classifyKillTombstone] using verdict
      exact .single (.row _ _ (.over_ row _ stands
        (.dominated nowMs (own ▸ sweeping) bound entry (by rw [own]; exact there) older)))
    · split
      · exact .single (.row _ _ (.over_ row _ stands (.expired nowMs (own ▸ sweeping) bound)))
      · exact .refl
  · split
    · split
      · exact .refl
      · exact .single (.dropRow _ _ (drops_of_sweeps sweeping))
    · exact .refl

theorem path_gcKillTombstone (nowMs : Int) : FilePath start op ledger (ledger.gcKillTombstone key nowMs) := by
  unfold gcKillTombstone
  split
  · exact .refl
  · split
    · exact .refl
    · split
      · exact .single (.clearFence _ _)
      · exact .single (.clearFence _ _)
      · exact .refl
      · exact .refl

theorem path_gcAliasTombstone (nowMs : Int) : FilePath start op ledger (ledger.gcAliasTombstone key nowMs) := by
  unfold gcAliasTombstone
  split
  · exact .refl
  · simp only
    split
    · exact .refl
    · split
      · exact .single (.dropAliases _ _)
      · exact .single (.aliases _ _ _)

theorem standing_of_unlinked {ledger unlinked : Ledger Payload} {key : String} {terminalId : Option String}
    (gone : ledger.unlinkRecord key terminalId = (unlinked,true)) : unlinked.standing key = none := by
  have erased : (ledger.unlinkEnvelope key id).2 = true → (ledger.unlinkEnvelope key id).1.standing key = none := by
    intro done
    refine (congrArg (fun files => files.closeEnvelopes.lookup key) (operate_done done).1).trans ?_
    simp
  unfold unlinkRecord at gone
  simp only at gone
  cases terminalId with
  | none =>
    obtain ⟨rfl,done⟩ := Prod.mk.inj gone
    exact erased done
  | some terminalId =>
    simp only [Prod.mk.injEq,Bool.and_eq_true] at gone
    obtain ⟨rfl,done,_⟩ := gone
    have kept : ((ledger.unlinkEnvelope key id).1.unlinkCloseRecord terminalId).1.standing key =
        (ledger.unlinkEnvelope key id).1.standing key := by
      obtain same | dropped := (ledger.unlinkEnvelope key id).1.operate_files
        (fun files => { files with closeRecords := files.closeRecords.drop terminalId }) id
      · exact congrArg (fun files => files.closeEnvelopes.lookup key) same
      · exact congrArg (fun files => files.closeEnvelopes.lookup key) dropped
    exact kept.trans (erased done)

theorem unfeed_envelopes (index : LedgerIndex Payload) (kill : PaneCloseKill) :
    unfeed index kill = { index with killTombstones := (unfeed index kill).killTombstones } := by
  unfold unfeed
  split
  · rfl
  · split <;> rfl

theorem unfeeds_envelopes (kills : List PaneCloseKill) (index : LedgerIndex Payload) :
    kills.foldl unfeed index = { index with killTombstones := (kills.foldl unfeed index).killTombstones } := by
  induction kills generalizing index with
  | nil => rfl
  | cons kill rest ih =>
    rw [List.foldl_cons,ih]
    rw [unfeed_envelopes index kill]

theorem path_gcPaneClose (key : String) (nowMs : Int) (refs : Option RetainedSnapshotReferences) :
    FilePath start op ledger (ledger.gcPaneClose key nowMs refs) := by
  unfold gcPaneClose
  split
  · exact .refl
  next record found =>
  have unlinked : FilePath start op ledger (ledger.unlinkRecord key record.terminalId).1 :=
    .single (.unlinkRecord _ _ record found)
  split
  · exact .refl
  split
  · exact .refl
  split
  · exact .refl
  split
  · exact .refl
  split
  · next after gone =>
    have absent := standing_of_unlinked gone
    rw [gone] at unlinked
    simp only
    rw [unfeeds_envelopes]
    exact (unlinked.tail (.forget after key absent)).tail (.unfed _ _ fun _ _ found => lookup_unfeeds found)
  · next left failed =>
    rw [failed] at unlinked
    exact unlinked

theorem path_gcLocked (sweeping : ∀ key, sweeps op key) (nowMs : Int) (absent : SessionKey → Bool)
    (refs : Option RetainedSnapshotReferences) :
    FilePath start op ledger (ledger.gcLocked order nowMs absent refs) := by
  unfold gcLocked
  refine .trans ?_ (FilePath.foldl id (fun key _ ledger => path_gcPaneClose ledger key nowMs refs) _)
  refine .trans ?_ (FilePath.foldl id (fun key _ ledger => path_gcAliasTombstone ledger key nowMs) _)
  refine .trans ?_ (FilePath.foldl id (fun key _ ledger => path_gcKillTombstone ledger key nowMs) _)
  refine .trans ?_ (FilePath.foldl id (fun key _ ledger => path_gcRow ledger key (sweeping key) nowMs absent) _)
  exact FilePath.foldl id (fun key _ ledger => path_gcMarker ledger key nowMs none) _

variable {ledger}

theorem path_repairSupersession (repairs : links op = true) (nowMs : Int) {winner : BindingRow}
    {losers later : List BindingRow} (stand : ledger.Stand (losers ++ winner :: later))
    (distinct : (losers ++ winner :: later).Nodup) :
    FilePath start op ledger (repairSupersession nowMs ledger (winner :: losers)) ∧
      (repairSupersession nowMs ledger (winner :: losers)).Stand later := by
  show FilePath start op ledger (losers.foldl _ ledger) ∧ (losers.foldl _ ledger).Stand later
  induction losers generalizing ledger with
  | nil => exact ⟨.refl,fun row listed => stand row (List.mem_cons_of_mem _ listed)⟩
  | cons loser rest ih =>
    obtain ⟨apart,distinct⟩ := List.nodup_cons.mp distinct
    have after := stand.rest apart (BindingRow.supersede_key loser winner.locator nowMs)
    obtain ⟨path,stands⟩ := ih after distinct
    obtain ⟨wins,bound⟩ := stand winner (by simp)
    have losing := stand loser List.mem_cons_self
    refine ⟨.head (.row _ _ (.over_ loser _ losing.1 (.superseded winner nowMs repairs wins bound ?_))) path,stands⟩
    intro same
    rw [same,losing.1] at wins
    exact apart (by rw [Option.some.inj wins]; simp)

theorem path_repairs (repairs : links op = true) (nowMs : Int) {groups : List (List BindingRow)}
    (stand : ledger.Stand groups.flatten) (distinct : groups.flatten.Nodup) :
    FilePath start op ledger (groups.foldl (repairSupersession nowMs) ledger) := by
  induction groups generalizing ledger with
  | nil => exact .refl
  | cons rows later ih =>
    cases rows with
    | nil => exact ih stand distinct
    | cons winner losers =>
      have same : ((winner :: losers) ++ later.flatten).Perm (losers ++ winner :: later.flatten) :=
        List.perm_middle.symm
      obtain ⟨path,stands⟩ := path_repairSupersession repairs nowMs
        (fun row listed => stand row (same.mem_iff.mpr listed)) (same.nodup_iff.mp distinct)
      exact path.trans (ih stands (List.nodup_append.mp distinct).2.1)

theorem mem_boundRows {ledger : Ledger Payload} {order : Order} {terminalId : String} {row : BindingRow} :
    row ∈ ledger.boundRows order terminalId ↔
      ledger.index.bindings.lookup row.key = some row ∧ row.state = .bound ∧ row.liveTerminalId = some terminalId := by
  simp only [boundRows,List.mem_mergeSort,List.mem_filter,List.mem_map,Prod.exists,exists_eq_right,decide_eq_true_eq]
  refine and_congr_left fun _ => ⟨?_,fun found => ⟨row.provider,row.sessionId,mem_listed.mpr found⟩⟩
  rintro ⟨provider,sessionId,entry⟩
  have found : ledger.index.bindings.lookup (provider,sessionId) = some row := mem_listed.mp entry
  exact KeyedTable.lookup_own found

theorem nodup_boundRows (ledger : Ledger Payload) (order : Order) {terminals : List String} (once : terminals.Nodup) :
    (terminals.map (ledger.boundRows order)).flatten.Nodup := by
  refine List.nodup_flatten.mpr ⟨fun group listed_ => ?_,?_⟩
  · obtain ⟨terminalId,_,rfl⟩ := List.mem_map.mp listed_
    exact (List.mergeSort_perm _ _).nodup_iff.mpr ((ledger.nodup_rows order).filter _)
  · refine List.pairwise_map.mpr (once.imp fun distinct row first second => distinct ?_)
    exact Option.some.inj ((mem_boundRows.mp first).2.2.symm.trans (mem_boundRows.mp second).2.2)

variable (ledger)

theorem path_bootScan (nowMs : Int) (absent : SessionKey → Bool) (refs : Option RetainedSnapshotReferences) :
    FilePath start (.bootScan order nowMs absent refs) ledger (ledger.bootScan order nowMs absent refs) := by
  have sweeping : ∀ key, sweeps (.bootScan order nowMs absent refs : LedgerOp Payload) key := fun _ => trivial
  unfold bootScan
  refine .trans ?_ (path_gcLocked _ order sweeping nowMs absent refs)
  refine .trans ?_ (path_repairs rfl nowMs (fun row listed_ => ?_) (nodup_boundRows _ order (List.nodup_dedup _)))
  · refine .trans (.single (.quarantine ledger order)) ?_
    refine FilePath.foldl id (fun marker _ ledger => ?_) _
    show FilePath start _ ledger (ledger.sweepStaleMarker nowMs marker)
    unfold sweepStaleMarker
    simp only
    split
    · exact .single (.dropMarker _ _)
    · exact .refl
  · obtain ⟨group,made,member⟩ := List.mem_flatten.mp listed_
    obtain ⟨terminalId,_,rfl⟩ := List.mem_map.mp made
    exact (mem_boundRows.mp member).imp_right And.left

theorem path_perform (op : LedgerOp Payload) : FilePath ledger op ledger (ledger.perform op) := by
  cases op with
  | recordBinding order w => exact path_recordBinding _ _ rfl rfl rfl
  | notePaneReattach w => exact path_notePaneReattach _ _
  | stampOwnerPair provider sessionId epoch generation nowMs => exact path_stampOwnerPair _ _ _ _ _ _
  | recordFreshAgentBinding w => exact path_recordFreshAgentBinding _
  | retireMissing provider sessionId nowMs => exact path_retireMissing _ _ _ _
  | deleteBinding provider sessionId => exact .single (.dropRow _ _ rfl)
  | recordPending terminalId mode cwd createRequestId provenance nowMs => exact .single (.marker _ _)
  | resolvePending order w => exact path_resolvePending _ _
  | deletePending terminalId => exact .single (.dropMarker _ _)
  | recordRollbackRow provider sessionId payload => exact .single (.rollback _ (·.insert (provider,sessionId) payload))
  | deleteRollbackRow provider sessionId => exact .single (.rollback _ (·.erase (provider,sessionId)))
  | recordAliasTombstone provider placeholder durable atMs => exact .single (.aliases _ _ _)
  | clearAliasTombstones order provider durable => exact path_clearAliasTombstones _ _ _ _
  | closeIdentities provider sessionIds pendingIds nowMs => exact path_closeIdentities _ _ _ _
  | repairFailedTransition provider sessionId epoch generation nowMs =>
    exact path_closeEnvelope rfl fun _ _ => ⟨_,_,_,_,_,rfl,rfl⟩
  | closePane order w => exact path_closePane _ _
  | closePaneDetached createRequestId terminalId nowMs => exact path_closeEnvelope rfl fun _ nobody => by simp at nobody
  | closePanesDetached tabId panes nowMs => exact path_closeEnvelope rfl fun _ nobody => by simp at nobody
  | commitClaim order provider sessionId expectKilledAtMs aliases nowMs => exact path_commitClaimAliased _ _ _ _ _ _
  | clearKillTombstone order provider sessionId => exact path_consumeKillFence _ _ _ (by simp [commits])
  | notePaneOpened order createRequestId provenance nowMs => exact path_notePaneOpened _ _ _ _ _
  | gcMarker terminalId nowMs live => exact path_gcMarker _ _ _ _
  | gcRow key nowMs absent =>
    have swept : sweeps (.gcRow key nowMs absent : LedgerOp Payload) key := rfl
    exact path_gcRow _ _ swept _ _
  | gcKillTombstone key nowMs => exact path_gcKillTombstone _ _ _
  | gcAliasTombstone key nowMs => exact path_gcAliasTombstone _ _ _
  | gcPaneClose key nowMs refs => exact path_gcPaneClose _ _ _ _
  | bootScan order nowMs absent refs => exact path_bootScan _ _ _ _ _

end Ledger
/-! ### What one step leaves -/

variable {before after : Ledger Payload}

theorem FileStep.bindings (step : FileStep start op before after) :
    after.index.bindings = before.index.bindings ∨
      (∃ row, RowWrite start op before row ∧ after.index.bindings = before.index.bindings.put row) ∨
      Ledger.drops op = true ∧ ∃ gone, after.index.bindings = before.index.bindings.drop gone := by
  have kept : ∀ change (mirror : LedgerIndex Payload → LedgerIndex Payload),
      (mirror before.index).bindings = before.index.bindings →
        (before.operate change mirror).1.index.bindings = before.index.bindings :=
    fun change mirror same => before.operate_kept (·.bindings) change same
  cases step with
  | row row writes =>
    obtain ⟨_,same⟩ | ⟨_,written⟩ := before.writeBinding_cases row
    · exact .inl (by rw [same])
    · exact .inr (.inl ⟨row,writes,by rw [written]⟩)
  | dropRow gone drops =>
    obtain ⟨_,same⟩ | ⟨_,dropped⟩ := before.operate_index
      (fun files => { files with bindings := files.bindings.drop gone })
      fun index => { index with bindings := index.bindings.drop gone }
    · exact .inl (congrArg (·.bindings) same)
    · exact .inr (.inr ⟨drops,gone,congrArg (·.bindings) dropped⟩)
  | shrink at_ record less =>
    cases less with
    | none => exact .inl (kept _ _ rfl)
    | some less => exact .inl (kept _ _ rfl)
  | unlinkRecord at_ record => exact .inl (by rw [Ledger.unlinkRecord_index])
  | feed | forget | unfed | recomputed | quarantine => exact .inl rfl
  | _ => exact .inl (kept _ _ rfl)

theorem FileStep.lookup (step : FileStep start op before after) (key : SessionKey) :
    after.index.bindings.lookup key = before.index.bindings.lookup key ∨
      (∃ row, RowWrite start op before row ∧ row.key = key ∧ after.index.bindings.lookup key = some row) ∨
      Ledger.drops op = true ∧ after.index.bindings.lookup key = none := by
  obtain same | ⟨row,writes,written⟩ | ⟨drops,gone,dropped⟩ := step.bindings
  · exact .inl (by rw [same])
  · rw [written,KeyedTable.lookup_put]
    split
    · next own => exact .inr (.inl ⟨row,writes,own.symm,rfl⟩)
    · exact .inl rfl
  · rw [dropped,KeyedTable.lookup_drop]
    split
    · exact .inr (.inr ⟨drops,rfl⟩)
    · exact .inl rfl

/-- A step keeps the fence of an identity or takes it away, feeds the record of a close, or
    belongs to a claim of the identity. -/
theorem FileStep.fence (step : FileStep start op before after) (key : SessionKey) :
    after.fence key = before.fence key ∨ after.fence key = none ∨ start.commits op key = true ∨
      ∃ at_ record brought, start.closeWrites op = some (at_,record) ∧ start.Brings at_ record brought ∧
        before.index = start.index ∧
        after.index.killTombstones = feedKills start.index.killTombstones brought.kills := by
  have kept : ∀ change (mirror : LedgerIndex Payload → LedgerIndex Payload),
      (mirror before.index).killTombstones = before.index.killTombstones →
        (before.operate change mirror).1.fence key = before.fence key :=
    fun change mirror same => congrArg (·.lookup key) (before.operate_kept (·.killTombstones) change same)
  cases step with
  | close at_ record writes first =>
    subst first
    obtain ⟨_,same⟩ | ⟨_,fed⟩ := before.operate_index
      (fun files => { files with closeEnvelopes := files.closeEnvelopes.insert at_ record })
      fun index => feedCloseEnvelope index at_ record
    · exact .inl (congrArg (·.killTombstones.lookup key) same)
    · exact .inr (.inr (.inr ⟨at_,record,record,writes,.inl rfl,rfl,congrArg (·.killTombstones) fed⟩))
  | feed at_ record brought writes brings first =>
    exact .inr (.inr (.inr ⟨at_,record,brought,writes,brings,first,by rw [← first]; rfl⟩))
  | clearFence cleared =>
    obtain ⟨_,same⟩ | ⟨_,erased⟩ := before.operate_index
      (fun files => { files with killTombstones := files.killTombstones.drop cleared }) fun index =>
        { index with
          killTombstones := index.killTombstones.erase cleared
          legacyTombstoneKeys := index.legacyTombstoneKeys.filter (· ≠ cleared) }
    · exact .inl (congrArg (·.killTombstones.lookup key) same)
    · unfold Ledger.fence
      rw [show (before.clearKillFence cleared).1.index = _ from erased]
      simp only [lookup_erase]
      split
      · exact .inr (.inl rfl)
      · exact .inl rfl
  | shrink at_ record less =>
    cases less with
    | none => exact .inl (kept _ _ rfl)
    | some less => exact .inl (kept _ _ rfl)
  | unlinkRecord at_ record =>
    unfold Ledger.fence
    exact .inl (by rw [Ledger.unlinkRecord_index])
  | unfed fences fewer =>
    cases found : fences.lookup key with
    | none => exact .inr (.inl found)
    | some entry => exact .inl (found.trans (fewer key entry found).symm)
  | recomputed claimed fences claims others =>
    by_cases own : key = claimed
    · exact .inr (.inr (.inl (own ▸ claims)))
    · exact .inl (others key own)
  | forget | quarantine => exact .inl rfl
  | _ => exact .inl (kept _ _ rfl)

variable {ledger : Ledger Payload} {old row : BindingRow}

theorem RowChange.key (change : RowChange start op ledger old row) : row.key = old.key := by cases change <;> rfl

end Freshell.PaneLedger
