import Freshell.PaneLedger.Carriers
import Freshell.PaneLedger.ClosedRows

/-!
A claim that commits opens an identity again: it is refused where a close came in between,
brings back no row but a closed one, and takes the identity's kills out of the files that
carry them. Of those it leaves out the legacy records of closed panes, and a fence that is
no longer in memory it takes for one that is nowhere.
-/
namespace Freshell.PaneLedger
open Freshell.Library.Tables Freshell.Library.Drives Freshell.Library.Runs

variable {Payload : Type}

/-! ### The identities that a call closes -/

theorem mem_modifyFirst {Entry : Type} {test : Entry → Bool} {change : Entry → Entry} {entries : List Entry}
    {entry : Entry} (listed : entry ∈ modifyFirst test change entries) :
    entry ∈ entries ∨ ∃ old ∈ entries, test old = true ∧ entry = change old := by
  induction entries with
  | nil => simp [modifyFirst] at listed
  | cons first rest ih =>
    unfold modifyFirst at listed
    split at listed
    · next passes =>
      obtain rfl | later := List.mem_cons.mp listed
      · exact .inr ⟨first,List.mem_cons_self,passes,rfl⟩
      · exact .inl (List.mem_cons_of_mem _ later)
    · obtain rfl | later := List.mem_cons.mp listed
      · exact .inl List.mem_cons_self
      · obtain old | ⟨old,member,changed⟩ := ih later
        · exact .inl (List.mem_cons_of_mem _ old)
        · exact .inr ⟨old,List.mem_cons_of_mem _ member,changed⟩

/-- Each kill of a merged record is of an identity of the close, or was there before. -/
theorem stampKill_keys {nowMs : Int} {scope : Option OwnerPair} {keys : List SessionKey} {kills : List PaneCloseKill}
    {kill : PaneCloseKill} (listed : kill ∈ keys.foldl (stampKill nowMs scope) kills) :
    kill.key ∈ keys ∨ ∃ older ∈ kills, older.key = kill.key := by
  induction keys generalizing kills with
  | nil => exact .inr ⟨kill,listed,rfl⟩
  | cons key rest ih =>
    obtain later | ⟨older,stamped,same⟩ := ih listed
    · exact .inl (List.mem_cons_of_mem _ later)
    · unfold stampKill at stamped
      split at stamped
      · obtain old | ⟨old,member,_,rfl⟩ := mem_modifyFirst stamped
        · exact .inr ⟨older,old,same⟩
        · exact .inr ⟨old,member,same⟩
      · obtain old | fresh := List.mem_append.mp stamped
        · exact .inr ⟨older,old,same⟩
        · obtain rfl := List.mem_singleton.mp fresh
          exact .inl (same ▸ List.mem_cons_self)

namespace Ledger

/-- The identities that a call closes; a pane that is closed already closes what resolves
    for it. -/
def closedBy (ledger : Ledger Payload) (op : LedgerOp Payload) : List SessionKey :=
  match op with
  | .closeIdentities provider sessionIds _ _ => closedKeys provider sessionIds
  | .repairFailedTransition provider sessionId .. => [(provider,sessionId)]
  | .closePane order w => ledger.paneIdentities order w
  | .resolvePending _ given =>
    let w := effectiveWrite (ledger.index.pending.lookup given.terminalId) given
    if (ledger.index.closeEnvelopes.lookup (paneEnvelopeKey w.terminalId)).isSome then [w.key] else []
  | _ => []

variable {ledger : Ledger Payload} {at_ : String} {nowMs : Int} {kill : PaneCloseKill}

theorem record_keys {close : CloseSet}
    (listed : kill ∈ (close.record (ledger.index.closeEnvelopes.lookup at_) nowMs).kills) :
    kill.key ∈ close.identities ∨
      ∃ prior, ledger.index.closeEnvelopes.lookup at_ = some prior ∧ ∃ older ∈ prior.kills, older.key = kill.key := by
  obtain named | ⟨older,standing,same⟩ := stampKill_keys listed
  · exact .inl named
  · cases found : ledger.index.closeEnvelopes.lookup at_ with
    | none => simp [found] at standing
    | some prior => exact .inr ⟨prior,rfl,older,by simpa [found] using standing,same⟩

variable {op : LedgerOp Payload}

theorem closeWrites_keys {record : CloseEnvelopeRecord} (writes : ledger.closeWrites op = some (at_,record))
    (listed : kill ∈ record.kills) : kill.key ∈ ledger.closedBy op ∨
      ∃ prior, ledger.index.closeEnvelopes.lookup at_ = some prior ∧ ∃ older ∈ prior.kills, older.key = kill.key := by
  cases op with
  | closeIdentities provider sessionIds pendingIds nowMs =>
    cases named : closedKeys provider sessionIds with
    | nil =>
      rw [(ledger.closeIdentities_nobody named pendingIds nowMs).2] at writes
      simp at writes
    | cons first rest =>
      rw [(ledger.closeIdentities_named named pendingIds nowMs).2] at writes
      obtain ⟨rfl,rfl⟩ := Prod.mk.inj (Option.some.inj writes)
      exact record_keys listed
  | repairFailedTransition provider sessionId epoch generation nowMs =>
    obtain ⟨rfl,rfl⟩ := Prod.mk.inj (Option.some.inj writes)
    exact record_keys listed
  | closePane order w =>
    obtain ⟨rfl,rfl⟩ := Prod.mk.inj (Option.some.inj writes)
    exact record_keys listed
  | closePaneDetached createRequestId terminalId nowMs =>
    obtain ⟨rfl,rfl⟩ := Prod.mk.inj (Option.some.inj writes)
    exact (record_keys listed).imp_left fun nobody => by simp at nobody
  | closePanesDetached tabId panes nowMs =>
    obtain ⟨rfl,rfl⟩ := Prod.mk.inj (Option.some.inj writes)
    exact (record_keys listed).imp_left fun nobody => by simp at nobody
  | resolvePending order given =>
    unfold closeWrites at writes
    unfold closedBy
    simp only [Option.map_eq_some_iff] at writes ⊢
    generalize effectiveWrite (ledger.index.pending.lookup given.terminalId) given = w at *
    obtain ⟨close,found,written⟩ := writes
    obtain ⟨rfl,rfl⟩ := Prod.mk.inj written
    rw [found]
    unfold learnKill at listed
    split at listed
    · exact .inr ⟨close,rfl,kill,listed,rfl⟩
    · obtain old | fresh := List.mem_append.mp listed
      · exact .inr ⟨close,rfl,kill,old,rfl⟩
      · obtain rfl := List.mem_singleton.mp fresh
        exact .inl (by simp [PaneCloseKill.key,BindingWrite.key])
  | _ => simp [closeWrites] at writes

variable {key : SessionKey}

theorem Lifted.perform (lifted : ledger.Lifted key) (other : key ∉ ledger.closedBy op) :
    (ledger.perform op).Lifted key := by
  have bare : ∀ at_ record, ledger.closeWrites op = some (at_,record) → ∀ kill ∈ record.kills, kill.key ≠ key := by
    intro at_ record writes kill listed same
    obtain closed | ⟨prior,found,older,standing,own⟩ := closeWrites_keys writes listed
    · exact other (same ▸ closed)
    · exact lifted.2 at_ prior found older standing (own.trans same)
  exact FilePath.invariant (Lifted · key) (fun before after step held => held.step bare step) (ledger.path_perform op) lifted

theorem Attentive.perform (attentive : ledger.Attentive) (op : LedgerOp Payload) : (ledger.perform op).Attentive :=
  FilePath.invariant Attentive (fun _ _ step held => held.step step) (ledger.path_perform op) attentive

/-! ### The consumption of a fence -/

theorem operate_smooth (smooth : ledger.drive.Smooth) (change : Files Payload → Files Payload)
    (mirror : LedgerIndex Payload → LedgerIndex Payload) : ledger.operate change mirror =
      ({ index := mirror ledger.index, drive := { files := change ledger.drive.files, faults := [], dead := false } },
        true) := by
  unfold operate
  rw [smooth.act change]
  rfl

/-- Records of the identity stand under some keys only. -/
def StandsAt (ledger : Ledger Payload) (key : SessionKey) (keys : List String) : Prop :=
  ∀ at_ record, ledger.index.closeEnvelopes.lookup at_ = some record → (∃ kill ∈ record.kills, kill.key = key) → at_ ∈ keys

theorem without_bare {record kept : CloseEnvelopeRecord} (less : record.without key = some kept) :
    ∀ kill ∈ kept.kills, kill.key ≠ key := by
  unfold CloseEnvelopeRecord.without at less
  simp only at less
  split at less
  · simp at less
  · cases less
    intro kill listed
    simpa using (List.mem_filter.mp listed).2

variable {state : Ledger Payload × Bool} {keys : List String}

theorem consumeRecord_smooth (smooth : state.1.drive.Smooth) (stands : state.1.StandsAt key (at_ :: keys)) :
    (consumeRecord key state at_).1.drive.Smooth ∧ (consumeRecord key state at_).1.StandsAt key keys := by
  unfold consumeRecord
  split
  · next absent =>
    refine ⟨smooth,fun held record found carries => ?_⟩
    obtain rfl | later := List.mem_cons.mp (stands held record found carries)
    · rw [absent] at found
      simp at found
    · exact later
  · next record found =>
    simp only
    cases less : record.without key with
    | none =>
      have done := operate_smooth smooth (fun files => { files with closeEnvelopes := files.closeEnvelopes.erase at_ })
        fun index => { index with closeEnvelopes := index.closeEnvelopes.erase at_ }
      rw [show state.1.replaceEnvelope at_ none = _ from done]
      refine ⟨⟨rfl,rfl⟩,fun held other lookup carries => ?_⟩
      simp only [lookup_erase] at lookup
      split at lookup
      · simp at lookup
      · next distinct => exact (List.mem_cons.mp (stands held other lookup carries)).resolve_left distinct
    | some kept =>
      have done := operate_smooth smooth
        (fun files => { files with closeEnvelopes := files.closeEnvelopes.insert at_ kept })
        fun index => { index with closeEnvelopes := index.closeEnvelopes.insert at_ kept }
      rw [show state.1.replaceEnvelope at_ (some kept) = _ from done]
      refine ⟨⟨rfl,rfl⟩,fun held other lookup carries => ?_⟩
      simp only [lookup_insert] at lookup
      split at lookup
      · cases lookup
        obtain ⟨kill,listed,own⟩ := carries
        exact absurd own (without_bare less kill listed)
      · next distinct => exact (List.mem_cons.mp (stands held other lookup carries)).resolve_left distinct

theorem consumeRecords_smooth (smooth : state.1.drive.Smooth) (stands : state.1.StandsAt key keys) :
    (keys.foldl (consumeRecord key) state).1.StandsAt key [] := by
  induction keys generalizing state with
  | nil => exact stands
  | cons at_ rest ih =>
    obtain ⟨later,fewer⟩ := consumeRecord_smooth smooth stands
    exact ih later fewer

/-- What a consumption does to the files: no row changes, the identity's kills go at most,
    and neither its legacy file nor a legacy record comes. -/
structure Consumes (key : SessionKey) (before after : Files Payload) : Prop where
  rows : after.bindings = before.bindings
  records : after.closeRecords = before.closeRecords
  tombstone : before.killTombstones.lookup key = none → after.killTombstones.lookup key = none
  kills : ∀ kill, kill.key = key → after.Carries kill → before.Carries kill

theorem Consumes.refl (key : SessionKey) (files : Files Payload) : Consumes key files files :=
  ⟨rfl,rfl,id,fun _ _ carried => carried⟩

theorem Consumes.trans {first second third : Files Payload} (one : Consumes key first second)
    (two : Consumes key second third) : Consumes key first third :=
  ⟨two.rows.trans one.rows,two.records.trans one.records,fun absent => two.tombstone (one.tombstone absent),
    fun kill own carried => one.kills kill own (two.kills kill own carried)⟩

theorem consumes_record (key : SessionKey) (state : Ledger Payload × Bool) (at_ : String) :
    Consumes key state.1.drive.files (consumeRecord key state at_).1.drive.files := by
  unfold consumeRecord
  split
  · exact .refl key _
  · next record found =>
    simp only
    cases less : record.without key with
    | none =>
      obtain same | changed := state.1.operate_files
        (fun files => { files with closeEnvelopes := files.closeEnvelopes.erase at_ })
        fun index => { index with closeEnvelopes := index.closeEnvelopes.erase at_ }
      · rw [show (state.1.replaceEnvelope at_ none).1.drive.files = _ from same]
        exact .refl key _
      · rw [show (state.1.replaceEnvelope at_ none).1.drive.files = _ from changed]
        exact ⟨rfl,rfl,id,fun _ _ carried => (sheds_envelope _ at_).carries carried⟩
    | some kept =>
      obtain same | changed := state.1.operate_files
        (fun files => { files with closeEnvelopes := files.closeEnvelopes.insert at_ kept })
        fun index => { index with closeEnvelopes := index.closeEnvelopes.insert at_ kept }
      · rw [show (state.1.replaceEnvelope at_ (some kept)).1.drive.files = _ from same]
        exact .refl key _
      · rw [show (state.1.replaceEnvelope at_ (some kept)).1.drive.files = _ from changed]
        exact ⟨rfl,rfl,id,fun kill own carried =>
          (carries_insert carried).resolve_left fun listed => without_bare less kill listed own⟩

theorem consumes_foldl (key : SessionKey) (keys : List String) (state : Ledger Payload × Bool) :
    Consumes key state.1.drive.files (keys.foldl (consumeRecord key) state).1.drive.files := by
  induction keys generalizing state with
  | nil => exact .refl key _
  | cons at_ rest ih => exact (consumes_record key state at_).trans (ih _)

theorem consumes_fence (ledger : Ledger Payload) (order : Order) (key : SessionKey) :
    Consumes key ledger.drive.files (ledger.consumeKillFence order key).1.drive.files := by
  have unlinked : Consumes key ledger.drive.files (ledger.unlinkTombstone key fun index =>
      { index with legacyTombstoneKeys := index.legacyTombstoneKeys.filter (· ≠ key) }).1.drive.files := by
    obtain same | changed := ledger.operate_files
      (fun files => { files with killTombstones := files.killTombstones.drop key }) fun index =>
        { index with legacyTombstoneKeys := index.legacyTombstoneKeys.filter (· ≠ key) }
    · rw [show (ledger.unlinkTombstone key _).1.drive.files = _ from same]
      exact .refl key _
    · rw [show (ledger.unlinkTombstone key _).1.drive.files = _ from changed]
      exact ⟨rfl,rfl,fun _ => by simp,fun _ _ carried => (sheds_tombstone _ key).carries carried⟩
  unfold consumeKillFence
  simp only
  exact unlinked.trans (consumes_foldl key _ _)

variable (order : Order)

/-- A consumption that nothing disturbs leaves the identity lifted, where no legacy record
    of a closed pane carries it. -/
theorem lifted_consume (smooth : ledger.drive.Smooth) (knows : ledger.Knows)
    (legacy : ∀ terminalId record, ledger.drive.files.closeRecords.lookup terminalId = some record →
      record.ledgerVersion = ledgerVersion → ∀ kill ∈ record.kills, kill.key ≠ key) :
    (ledger.consumeKillFence order key).1.Lifted key := by
  have path : FilePath ledger (.clearKillTombstone order key.1 key.2) ledger (ledger.consumeKillFence order key).1 :=
    ledger.path_perform (.clearKillTombstone order key.1 key.2)
  have attentive : (ledger.consumeKillFence order key).1.Attentive :=
    FilePath.invariant Attentive (fun _ _ step held => held.step step) path ⟨smooth.harmless,knows⟩
  have files := consumes_fence ledger order key
  have done := operate_smooth smooth (fun files => { files with killTombstones := files.killTombstones.drop key })
    fun index => { index with legacyTombstoneKeys := index.legacyTombstoneKeys.filter (· ≠ key) }
  have unlinked : ledger.unlinkTombstone key (fun index =>
      { index with legacyTombstoneKeys := index.legacyTombstoneKeys.filter (· ≠ key) }) = _ := done
  have tombstone : (ledger.consumeKillFence order key).1.drive.files.killTombstones.lookup key = none := by
    unfold consumeKillFence
    simp only
    refine (consumes_foldl key _ _).tombstone ?_
    rw [unlinked]
    simp
  have index : (ledger.consumeKillFence order key).1.index.Free key := by
    have consumed : (ledger.consumeKillFence order key).1.StandsAt key [] := by
      unfold consumeKillFence
      simp only
      rw [unlinked]
      refine consumeRecords_smooth ⟨rfl,rfl⟩ ?_
      rintro at_ record found ⟨kill,listed,own⟩
      refine List.mem_map.mpr ⟨(at_,record),List.mem_filter.mpr ⟨mem_listed.mpr found,?_⟩,rfl⟩
      exact List.any_eq_true.mpr ⟨kill,listed,by simpa using own⟩
    intro at_ record found kill listed own
    simpa using consumed at_ record found ⟨kill,listed,own⟩
  refine ⟨fun kill carried own => ?_,index⟩
  obtain ⟨held,found,_⟩ | ⟨terminalId,record,found,current,listed⟩ | ⟨at_,record,found,current,listed⟩ := carried
  · rw [own,tombstone] at found
    simp at found
  · rw [files.records] at found
    exact legacy terminalId record found current kill listed own
  · exact index at_ record (attentive.2 at_ record found current) kill listed own

/-! ### One claim -/

/-- A close came after the snapshot, or one of the checked placeholders is closed. -/
def Refuses (ledger : Ledger Payload) (provider sessionId : String) (expectKilledAtMs : Option Int)
    (aliases : List String) : Prop :=
  (∃ alias_ ∈ aliases, (ledger.fence (provider,alias_)).isSome) ∨
    ∃ entry, ledger.fence (provider,sessionId) = some entry ∧ ∀ seen, expectKilledAtMs = some seen → seen < entry.atMs

variable {provider sessionId : String} {expectKilledAtMs : Option Int} {aliases : List String}

theorem commitClaim_refused (ledger : Ledger Payload)
    (refuses : ledger.Refuses provider sessionId expectKilledAtMs aliases) (order : Order) (nowMs : Int) :
    ledger.commitClaimAliased order provider sessionId expectKilledAtMs aliases nowMs = (ledger,.ok .refusedStale) := by
  unfold commitClaimAliased
  simp only
  obtain ⟨alias_,listed,fenced⟩ | ⟨entry,there,newer⟩ := refuses
  · rw [if_pos (List.any_eq_true.mpr ⟨alias_,listed,fenced⟩)]
  · have advanced : deadStateAdvanced ((ledger.index.killTombstones.lookup (provider,sessionId)).map (·.atMs))
        expectKilledAtMs = true := by
      rw [show ledger.index.killTombstones.lookup (provider,sessionId) = some entry from there]
      cases expectKilledAtMs with
      | none => rfl
      | some seen => simpa [deadStateAdvanced] using newer seen rfl
    rw [advanced]
    split <;> rfl

theorem reviveRow_cases (ledger : Ledger Payload) (key : SessionKey) (nowMs : Int) :
    (ledger.reviveRow key nowMs = (ledger,true) ∧
      ∀ row, ledger.index.bindings.lookup key = some row → row.state ≠ .bound ∧ ¬ row.Closed) ∨
    ∃ old revived : BindingRow, ledger.index.bindings.lookup key = some old ∧ (old.state = .bound ∨ old.Closed) ∧
      revived.key = key ∧ revived.state = .bound ∧ revived.updatedAt = nowMs ∧
      ledger.reviveRow key nowMs = ledger.writeBinding revived := by
  unfold reviveRow
  split
  · next absent => exact .inl ⟨rfl,fun row found => by simp [absent] at found⟩
  · next old found =>
    have own := KeyedTable.key_of_lookup found
    split
    · next closed =>
      refine .inr ⟨old,_,found,.inr closed,?_,?_,?_,rfl⟩
      · exact own
      · rfl
      · rfl
    · next open_ =>
      split
      · next bound =>
        refine .inr ⟨old,_,found,.inl bound,?_,?_,?_,rfl⟩
        · exact own
        · exact bound
        · rfl
      · next unbound =>
        refine .inl ⟨rfl,fun row there => ?_⟩
        rw [found] at there
        exact Option.some.inj there ▸ ⟨unbound,open_⟩

variable {row : BindingRow}

theorem reviveRow_narrow {at_ : SessionKey}
    (found : (ledger.reviveRow key nowMs).1.index.bindings.lookup at_ = some row) (bound : row.state = .bound) :
    ∃ old, ledger.index.bindings.lookup at_ = some old ∧ (old.state = .bound ∨ old.Closed) := by
  obtain ⟨same,_⟩ | ⟨old,revived,stands,open_,own,_,_,wrote⟩ := ledger.reviveRow_cases key nowMs
  · rw [same] at found
    exact ⟨row,found,.inl bound⟩
  · rw [wrote] at found
    obtain ⟨_,index⟩ | ⟨_,index⟩ := ledger.writeBinding_cases revived
    · rw [index] at found
      exact ⟨row,found,.inl bound⟩
    · rw [index] at found
      simp only [KeyedTable.lookup_put] at found
      split at found
      · next here => exact ⟨old,by rw [here,own]; exact stands,open_⟩
      · exact ⟨row,found,.inl bound⟩

theorem consumeKillFence_bindings (ledger : Ledger Payload) (order : Order) (key : SessionKey) :
    (ledger.consumeKillFence order key).1.index.bindings = ledger.index.bindings := by
  have folded : ∀ (keys : List String) (state : Ledger Payload × Bool),
      (keys.foldl (consumeRecord key) state).1.index.bindings = state.1.index.bindings := by
    intro keys
    induction keys with
    | nil => exact fun _ => rfl
    | cons at_ rest ih =>
      intro state
      rw [List.foldl_cons,ih]
      unfold consumeRecord
      split
      · rfl
      · exact replaceEnvelope_bindings _ _ _
  unfold consumeKillFence
  simp only
  rw [folded]
  simp only [unlinkTombstone]
  refine ledger.operate_kept (·.bindings) _ ?_
  rfl

theorem commitClaim_narrow {order : Order} {at_ : SessionKey}
    (found : (ledger.commitClaimAliased order provider sessionId expectKilledAtMs aliases
      nowMs).1.index.bindings.lookup at_ = some row) (bound : row.state = .bound) :
    ∃ old, ledger.index.bindings.lookup at_ = some old ∧ (old.state = .bound ∨ old.Closed) := by
  obtain same | onlyRow | ⟨_,_,consumed⟩ :=
    ledger.commitClaim_cases order provider sessionId expectKilledAtMs aliases nowMs
  · rw [same] at found
    exact ⟨row,found,.inl bound⟩
  · rw [onlyRow] at found
    exact reviveRow_narrow found bound
  · rw [consumed,consumeKillFence_bindings] at found
    exact reviveRow_narrow found bound

/-- The row that a claim brings back: bound, and last changed by the claim. -/
def RevivedAt (files : Files Payload) (key : SessionKey) (nowMs : Int) : Prop :=
  ∃ row, files.bindings.lookup key = some row ∧ row.state = .bound ∧ row.updatedAt = nowMs

/-- Wherever a claim stops: nothing has changed on disk; or its row is none to revive, and no
    row has changed; or the row is bound, and every fence that is left is outranked by it. -/
def Atomic (before after : Ledger Payload) (key : SessionKey) (nowMs : Int) : Prop :=
  after.drive.files = before.drive.files ∨
    ((∀ row, before.index.bindings.lookup key = some row → row.state ≠ .bound ∧ ¬ row.Closed) ∧
      after.drive.files.bindings = before.drive.files.bindings) ∨
    (RevivedAt after.drive.files key nowMs ∧
      ∀ order entry, (after.reload order).fence key = some entry → ∀ view : RowState × Int, view = (.bound,nowMs) →
        ∀ laterMs, classifyKillTombstone entry.atMs (some view) laterMs = .claimResidue)

/-- Every kill of the identity that a file carries is older than the claim. -/
def Outdates (files : Files Payload) (key : SessionKey) (nowMs : Int) : Prop :=
  ∀ kill, files.Carries kill → kill.key = key → kill.atMs < nowMs

theorem residue_of_outdates {files left : Files Payload} (outdates : Outdates files key nowMs)
    (fewer : ∀ kill, kill.key = key → left.Carries kill → files.Carries kill) (order : Order)
    {entry : KillTombstoneEntry} (found : (loadIndex order left).killTombstones.lookup key = some entry)
    (laterMs : Int) : classifyKillTombstone entry.atMs (some (.bound,nowMs)) laterMs = .claimResidue := by
  obtain ⟨⟨kill,carried,own,stamp⟩,_⟩ := load_fence_some found
  have older := outdates kill (fewer kill own carried) own
  simp only [classifyKillTombstone]
  rw [if_neg (by omega)]

theorem commitClaim_atomic (expectKilledAtMs : Option Int) (aliases : List String)
    (outdates : Outdates ledger.drive.files (provider,sessionId) nowMs) :
    Atomic ledger (ledger.commitClaimAliased order provider sessionId expectKilledAtMs aliases nowMs).1
      (provider,sessionId) nowMs := by
  -- The row's file after the first operation, whether or not it reports success.
  have wrote : ∀ revived : BindingRow, revived.key = (provider,sessionId) → revived.state = .bound →
      revived.updatedAt = nowMs → (ledger.writeBinding revived).1.drive.files = ledger.drive.files ∨
        (RevivedAt (ledger.writeBinding revived).1.drive.files (provider,sessionId) nowMs ∧
          ∀ kill, (ledger.writeBinding revived).1.drive.files.Carries kill → ledger.drive.files.Carries kill) := by
    intro revived own bound stamp
    obtain same | changed := ledger.operate_files
      (fun files => { files with bindings := files.bindings.put revived })
      fun index => { index with bindings := index.bindings.put revived }
    · exact .inl same
    · rw [show (ledger.writeBinding revived).1.drive.files = _ from changed]
      refine .inr ⟨⟨revived,?_,bound,stamp⟩,fun _ carried => carried⟩
      rw [← own]
      exact KeyedTable.lookup_put_self _ revived
  have revival := ledger.reviveRow_cases (provider,sessionId) nowMs
  obtain same | onlyRow | ⟨_,revives,consumed⟩ :=
    ledger.commitClaim_cases order provider sessionId expectKilledAtMs aliases nowMs
  · rw [same]
    exact .inl rfl
  · rw [onlyRow]
    obtain ⟨idle,_⟩ | ⟨old,revived,_,_,own,bound,stamp,written⟩ := revival
    · rw [idle]
      exact .inl rfl
    · rw [written]
      obtain same | ⟨revivedAt,kept⟩ := wrote revived own bound stamp
      · exact .inl same
      · refine .inr (.inr ⟨revivedAt,fun order entry found view same laterMs => ?_⟩)
        rw [same]
        exact residue_of_outdates outdates (fun kill _ => kept kill) order found laterMs
  · rw [consumed]
    have files := consumes_fence (ledger.reviveRow (provider,sessionId) nowMs).1 order (provider,sessionId)
    obtain ⟨idle,unrevived⟩ | ⟨old,revived,_,_,own,bound,stamp,written⟩ := revival
    · rw [idle] at files ⊢
      exact .inr (.inl ⟨unrevived,files.rows⟩)
    · rw [written] at revives files ⊢
      have changed := (operate_done revives).1
      refine .inr (.inr ⟨⟨revived,?_,bound,stamp⟩,fun order entry found view same laterMs => ?_⟩)
      · rw [files.rows,show (ledger.writeBinding revived).1.drive.files = _ from changed,← own]
        exact KeyedTable.lookup_put_self _ revived
      · rw [same]
        refine residue_of_outdates outdates (fun kill named carried => ?_) order found laterMs
        have before := files.kills kill named carried
        rw [show (ledger.writeBinding revived).1.drive.files = _ from changed] at before
        exact before

theorem commitClaim_unrefused (open_ : ¬ ledger.Refuses provider sessionId expectKilledAtMs aliases) (order : Order)
    (nowMs : Int) : ledger.commitClaimAliased order provider sessionId expectKilledAtMs aliases nowMs =
      if (ledger.fence (provider,sessionId)).isSome then
        match ledger.reviveRow (provider,sessionId) nowMs with 
        | (failed,false) => (failed,.error .file)
        | (revived,true) => ((revived.consumeKillFence order (provider,sessionId)).1,.ok .committed)
      else (ledger,.ok .committed) := by
  have placeholders : ¬ (aliases.any fun alias_ =>
      (ledger.index.killTombstones.lookup (provider,alias_)).isSome) = true := by
    intro fenced
    obtain ⟨alias_,listed,there⟩ := List.any_eq_true.mp fenced
    exact open_ (.inl ⟨alias_,listed,there⟩)
  have seen : ¬ deadStateAdvanced ((ledger.index.killTombstones.lookup (provider,sessionId)).map (·.atMs))
      expectKilledAtMs = true := by
    intro advanced
    cases there : ledger.index.killTombstones.lookup (provider,sessionId) with
    | none => simp [there,deadStateAdvanced] at advanced
    | some entry =>
      refine open_ (.inr ⟨entry,there,fun stamp same => ?_⟩)
      simpa [there,same,deadStateAdvanced] using advanced
  unfold commitClaimAliased
  simp only
  rw [if_neg placeholders,if_neg seen,Option.isSome_map]
  rfl

/-- No legacy record of a closed pane carries the identity. -/
def LegacyFree (files : Files Payload) (key : SessionKey) : Prop :=
  ∀ terminalId record, files.closeRecords.lookup terminalId = some record → record.ledgerVersion = ledgerVersion →
    ∀ kill ∈ record.kills, kill.key ≠ key

theorem lifted_commitClaim (ledger : Ledger Payload) {order : Order} (smooth : ledger.drive.Smooth)
    (knows : ledger.Knows) (open_ : ¬ ledger.Refuses provider sessionId expectKilledAtMs aliases)
    (legacy : (ledger.fence (provider,sessionId)).isSome → LegacyFree ledger.drive.files (provider,sessionId))
    (unfenced : ledger.fence (provider,sessionId) = none → ledger.Lifted (provider,sessionId)) :
    (ledger.commitClaimAliased order provider sessionId expectKilledAtMs aliases nowMs).1.Lifted
      (provider,sessionId) := by
  rw [commitClaim_unrefused open_]
  split
  · next fenced =>
    have legacy := legacy fenced
    have revival : ∃ after, ledger.reviveRow (provider,sessionId) nowMs = (after,true) ∧ after.drive.Smooth ∧
        after.Knows ∧ after.drive.files.closeRecords = ledger.drive.files.closeRecords := by
      obtain ⟨idle,_⟩ | ⟨old,revived,_,_,_,_,_,written⟩ := ledger.reviveRow_cases (provider,sessionId) nowMs
      · exact ⟨ledger,idle,smooth,knows,rfl⟩
      · have done := operate_smooth smooth (fun files => { files with bindings := files.bindings.put revived })
          fun index => { index with bindings := index.bindings.put revived }
        exact ⟨_,written.trans done,⟨rfl,rfl⟩,knows,rfl⟩
    obtain ⟨after,revived,calm,aware,records⟩ := revival
    rw [revived]
    exact lifted_consume order calm aware (by rw [records]; exact legacy)
  · next absent => exact unfenced (by simpa using absent)

theorem Lifted.reload (lifted : ledger.Lifted key) (order : Order) : (ledger.reload order).Lifted key :=
  ⟨lifted.1,fun _ _ found kill listed => lifted.1 kill (carries_of_load found listed)⟩

/-- Whether a call is a claim of the identity that commits. -/
def grants (ledger : Ledger Payload) (op : LedgerOp Payload) (key : SessionKey) : Bool :=
  match op with
  | .commitClaim order provider sessionId expectKilledAtMs aliases nowMs =>
    (provider,sessionId) = key &&
      match (ledger.commitClaimAliased order provider sessionId expectKilledAtMs aliases nowMs).2 with
      | .ok .committed => true
      | _ => false
  | _ => false

end Ledger

/-! ### Runs -/

/-- What happens to a ledger: a call under what the file system does to it, or a new process. -/
inductive LedgerMove (Payload : Type) where
  | call (op : LedgerOp Payload) (faults : List Fault)
  | reload (order : Order)

/-- A ledger; whether no file operation has failed half-way since it was loaded; and the
    identities that a claim opened with no close since. -/
structure ClaimWatch (Payload : Type) where
  ledger : Ledger Payload
  intact : Bool
  lifted : SessionKey → Bool

namespace ClaimWatch

def start (files : Files Payload) (order : Order) : ClaimWatch Payload :=
  { ledger := { index := loadIndex order files, drive := { files } }, intact := true, lifted := fun _ => false }

/-- Only a claim that no file operation disturbs is promised to last. -/
def next (watch : ClaimWatch Payload) (move : LedgerMove Payload) : ClaimWatch Payload :=
  match move with
  | .call op faults =>
    { ledger := watch.ledger.next (op,faults)
      intact := watch.intact && faults.all Fault.harmless
      lifted := fun key =>
        (watch.lifted key && key ∉ watch.ledger.closedBy op) ||
          (watch.intact && faults = [] && (watch.ledger.under []).grants op key) }
  | .reload order => { ledger := watch.ledger.reload order, intact := true, lifted := watch.lifted }

/-- No process finds a fence of an identity that a claim opened. -/
def Lasts (watch : ClaimWatch Payload) : Prop :=
  ∀ key, watch.lifted key = true → ∀ order, (watch.ledger.reload order).fence key = none

/-- What a claim promises in the call: it is refused, with nothing changed, where a close
    came in between; it brings no row back but a closed one; and it is atomic. -/
def Promises (watch : ClaimWatch Payload) (move : LedgerMove Payload) : Prop :=
  match move with
  | .call (.commitClaim order provider sessionId expectKilledAtMs aliases nowMs) faults =>
    let before := watch.ledger.under faults
    let result := before.commitClaimAliased order provider sessionId expectKilledAtMs aliases nowMs
    (watch.ledger.Refuses provider sessionId expectKilledAtMs aliases → result = (before,.ok .refusedStale)) ∧
      (∀ key row, result.1.index.bindings.lookup key = some row → row.state = .bound →
        ∃ old, before.index.bindings.lookup key = some old ∧ (old.state = .bound ∨ old.Closed)) ∧
      Ledger.Atomic before result.1 (provider,sessionId) nowMs
  | _ => True

/-- A claim that is not refused meets no legacy record of its identity and no kill that is
    not older than it; and where no fence is in memory, nothing carries one. -/
def Opens (watch : ClaimWatch Payload) (move : LedgerMove Payload) : Prop :=
  match move with
  | .call (.commitClaim _ provider sessionId expectKilledAtMs aliases nowMs) _ =>
    ¬ watch.ledger.Refuses provider sessionId expectKilledAtMs aliases →
      ((watch.ledger.fence (provider,sessionId)).isSome →
        Ledger.LegacyFree watch.ledger.drive.files (provider,sessionId) ∧
          Ledger.Outdates watch.ledger.drive.files (provider,sessionId) nowMs) ∧
      (watch.ledger.fence (provider,sessionId) = none → watch.ledger.Lifted (provider,sessionId))
  | _ => True

structure Holds (watch : ClaimWatch Payload) : Prop where
  attentive : watch.intact = true → watch.ledger.drive.dead = false ∧ watch.ledger.Knows
  lifted : ∀ key, watch.lifted key = true → watch.ledger.Lifted key

variable {watch : ClaimWatch Payload}

theorem Holds.lasts (holds : watch.Holds) : watch.Lasts := by
  intro key opened order
  exact load_fence_none.mpr (holds.lifted key opened).1

theorem holds_start (files : Files Payload) (order : Order) : (start files order).Holds where
  attentive _ := ⟨rfl,fun _ _ found current => load_envelope found current⟩
  lifted key opened := by simp [start] at opened

variable {move : LedgerMove Payload}

theorem Holds.next (holds : watch.Holds) (opens : watch.Opens move) : (watch.next move).Holds := by
  cases move with
  | reload order =>
    exact ⟨fun _ => ⟨rfl,watch.ledger.knows_reload order⟩,fun key opened => (holds.lifted key opened).reload order⟩
  | call op faults =>
    constructor
    · intro steady
      obtain ⟨intact,harmless⟩ := Bool.and_eq_true _ _ |>.mp steady
      obtain ⟨up,knows⟩ := holds.attentive intact
      have attentive : (watch.ledger.under faults).Attentive :=
        ⟨⟨up,fun fault listed => List.all_eq_true.mp harmless fault listed⟩,knows⟩
      have after := attentive.perform op
      show (watch.ledger.next (op,faults)).drive.dead = false ∧ (watch.ledger.next (op,faults)).Knows
      unfold Ledger.next
      rw [if_neg (by simp [up])]
      exact ⟨after.1.1,after.2⟩
    · intro key opened
      show (watch.ledger.next (op,faults)).Lifted key
      unfold Ledger.next
      by_cases dead : watch.ledger.drive.dead = true
      · rw [if_pos dead]
        obtain kept | granted := Bool.or_eq_true _ _ |>.mp opened
        · exact holds.lifted key (Bool.and_eq_true _ _ |>.mp kept).1
        · have intact : watch.intact = true := by simp_all
          simp [(holds.attentive intact).1] at dead
      · rw [if_neg dead]
        obtain kept | granted := Bool.or_eq_true _ _ |>.mp opened
        · obtain ⟨before,other⟩ := Bool.and_eq_true _ _ |>.mp kept
          have lifted : (watch.ledger.under faults).Lifted key := holds.lifted key before
          have unclosed : key ∉ watch.ledger.closedBy op := by simpa using other
          exact lifted.perform unclosed
        · simp only [Bool.and_eq_true,decide_eq_true_eq] at granted
          obtain ⟨⟨intact,rfl⟩,commits⟩ := granted
          obtain ⟨up,knows⟩ := holds.attentive intact
          cases op with
          | commitClaim order provider sessionId expectKilledAtMs aliases nowMs =>
            obtain ⟨named,committed⟩ := Bool.and_eq_true _ _ |>.mp commits
            obtain rfl : (provider,sessionId) = key := by simpa using named
            have open_ : ¬ watch.ledger.Refuses provider sessionId expectKilledAtMs aliases := by
              intro refuses
              rw [(watch.ledger.under []).commitClaim_refused refuses] at committed
              simp at committed
            obtain ⟨fenced,unfenced⟩ := opens open_
            exact (watch.ledger.under []).lifted_commitClaim ⟨up,rfl⟩ knows open_
              (fun there => (fenced there).1) unfenced
          | _ => simp [Ledger.grants] at commits

theorem Opens.promises (opens : watch.Opens move) : watch.Promises move := by
  unfold Promises
  split
  · next order provider sessionId expectKilledAtMs aliases nowMs faults =>
    refine ⟨fun refuses => (watch.ledger.under faults).commitClaim_refused refuses order nowMs,
      fun key row => Ledger.commitClaim_narrow,?_⟩
    by_cases open_ : watch.ledger.Refuses provider sessionId expectKilledAtMs aliases
    · rw [(watch.ledger.under faults).commitClaim_refused open_]
      exact .inl rfl
    · obtain ⟨fenced,_⟩ := opens open_
      by_cases there : (watch.ledger.fence (provider,sessionId)).isSome
      · exact Ledger.commitClaim_atomic order expectKilledAtMs aliases (fenced there).2
      · have unrefused : ¬ (watch.ledger.under faults).Refuses provider sessionId expectKilledAtMs aliases := open_
        have unfenced : ¬ ((watch.ledger.under faults).fence (provider,sessionId)).isSome := there
        rw [Ledger.commitClaim_unrefused unrefused,if_neg unfenced]
        exact .inl rfl
  · trivial

/-- In every run of calls and new processes whose claims that are not refused meet no legacy
    record of their identity and no kill that is not older, and find a fence in memory
    wherever something carries one: a claim is refused where a close came in between, brings
    back no row but a closed one, leaves no bound row that a consult takes for closed, and
    until the next close of the identity no process finds a fence of it. -/
theorem claims_run (files : Files Payload) (order : Order) (moves : List (LedgerMove Payload))
    (opens : Along next Opens (start files order) moves) :
    (run next (start files order) moves).Lasts ∧ Along next Promises (start files order) moves :=
  ⟨(invariant_run (fun _ _ holds opens => Holds.next holds opens) (holds_start files order) opens).lasts,
    along_mono (fun _ _ opens => Opens.promises opens) opens⟩

/-! ### A legacy file and a legacy record -/

/-- A claim of an identity that was closed at 5. -/
def lateClaim : LedgerMove Unit := .call (.commitClaim {} "claude" "s" (some 5) [] 10) []

def tombstoneFile : Files Unit :=
  { killTombstones := (∅ : KeyedTable KillTombstone.key).put
      { ledgerVersion := ledgerVersion, provider := "claude", sessionId := "s", killedAtMs := 5 } }

def closeRecordFile : Files Unit :=
  { closeRecords := (∅ : KeyedTable PaneCloseRecord.terminalId).put
      { ledgerVersion := ledgerVersion, terminalId := "t", createRequestId := none, closedAt := 5,
        kills := [{ provider := "claude", sessionId := "s", atMs := 5, scope := none }] } }

theorem claims_tombstone :
    (run next (start tombstoneFile {}) [lateClaim]).Lasts ∧
      Along next Promises (start tombstoneFile {}) [lateClaim] := by
  refine claims_run _ _ _ ⟨fun _ => ⟨fun _ => ⟨?_,?_⟩,fun absent => ?_⟩,trivial⟩
  · intro terminalId record found
    simp [start,tombstoneFile] at found
  · rintro kill (⟨tombstone,found,_,rfl⟩ | ⟨terminalId,record,found,_⟩ | ⟨at_,record,found,_⟩) own
    · have same : tombstone = { ledgerVersion := ledgerVersion, provider := "claude", sessionId := "s", killedAtMs := 5 } := by
        simp only [start,tombstoneFile,KeyedTable.lookup_put] at found
        split at found
        · exact (Option.some.inj found).symm
        · simp at found
      subst same
      decide
    · simp [start,tombstoneFile] at found
    · simp [start,tombstoneFile] at found
  · have fenced : (start tombstoneFile {}).ledger.fence ("claude","s") = some { atMs := 5, scope := none } := by decide
    rw [fenced] at absent
    simp at absent

/-- The claim leaves the legacy record as it is, and the next process finds the fence. -/
theorem closeRecord_resurrects :
    ¬ ∀ (files : Files Unit) order moves,
      (run next (start files order) moves).Lasts ∧ Along next Promises (start files order) moves := by
  intro claim
  have lasts := (claim closeRecordFile {} [lateClaim]).1 ("claude","s") (by decide) {}
  revert lasts
  decide

end ClaimWatch
end Freshell.PaneLedger
