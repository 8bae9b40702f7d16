import Freshell.PaneLedger.FileSteps
import Freshell.PaneLedger.Reload

/-!
The files that carry the kills of an identity, from step to step. Once no file and no record
in memory carries one, none does until a close names the identity again; and where nothing
fails half-way, the index has every record that stands on disk.
-/
namespace Freshell.PaneLedger
open Freshell.Library.Tables Freshell.Library.Drives

variable {Payload : Type}

def Files.Free (files : Files Payload) (key : SessionKey) : Prop := ∀ kill, files.Carries kill → kill.key ≠ key

def LedgerIndex.Free (index : LedgerIndex Payload) (key : SessionKey) : Prop :=
  ∀ at_ record, index.closeEnvelopes.lookup at_ = some record → ∀ kill ∈ record.kills, kill.key ≠ key

structure Sheds (before after : Files Payload) : Prop where
  tombstones : ∀ key tombstone, after.killTombstones.lookup key = some tombstone →
    before.killTombstones.lookup key = some tombstone
  records : ∀ terminalId record, after.closeRecords.lookup terminalId = some record →
    before.closeRecords.lookup terminalId = some record
  envelopes : ∀ key record, after.closeEnvelopes.lookup key = some record →
    before.closeEnvelopes.lookup key = some record

variable (files : Files Payload)

theorem Sheds.refl : Sheds files files :=
  ⟨fun _ _ found => found,fun _ _ found => found,fun _ _ found => found⟩

theorem Sheds.trans {first second third : Files Payload} (one : Sheds first second) (two : Sheds second third) :
    Sheds first third :=
  ⟨fun key tombstone found => one.tombstones key tombstone (two.tombstones key tombstone found),
    fun terminalId record found => one.records terminalId record (two.records terminalId record found),
    fun key record found => one.envelopes key record (two.envelopes key record found)⟩

variable {kill : PaneCloseKill}

theorem Sheds.carries {before after : Files Payload} (sheds : Sheds before after) (carried : after.Carries kill) :
    before.Carries kill := by
  obtain ⟨tombstone,found,rest⟩ | ⟨terminalId,record,found,rest⟩ | ⟨key,record,found,rest⟩ := carried
  · exact .inl ⟨tombstone,sheds.tombstones _ _ found,rest⟩
  · exact .inr (.inl ⟨terminalId,record,sheds.records _ _ found,rest⟩)
  · exact .inr (.inr ⟨key,record,sheds.envelopes _ _ found,rest⟩)

theorem Sheds.free {before after : Files Payload} (sheds : Sheds before after) {key : SessionKey}
    (free : before.Free key) : after.Free key := fun kill carried => free kill (sheds.carries carried)

theorem sheds_tombstone (key : SessionKey) :
    Sheds files { files with killTombstones := files.killTombstones.drop key } where
  tombstones other tombstone found := by
    simp only [KeyedTable.lookup_drop] at found
    split at found
    · simp at found
    · exact found
  records _ _ found := found
  envelopes _ _ found := found

theorem sheds_record (terminalId : String) :
    Sheds files { files with closeRecords := files.closeRecords.drop terminalId } where
  tombstones _ _ found := found
  records other record found := by
    simp only [KeyedTable.lookup_drop] at found
    split at found
    · simp at found
    · exact found
  envelopes _ _ found := found

theorem sheds_envelope (key : String) :
    Sheds files { files with closeEnvelopes := files.closeEnvelopes.erase key } where
  tombstones _ _ found := found
  records _ _ found := found
  envelopes other record found := by
    simp only [lookup_erase] at found
    split at found
    · simp at found
    · exact found

theorem sheds_acts {Key : Type} {change : Key → Files Payload → Files Payload}
    (sheds : ∀ key files, Sheds files (change key files)) (drive : Drive (Files Payload)) (keys : List Key) :
    Sheds drive.files (keys.foldl (fun drive key => (drive.act (change key)).1) drive).files := by
  induction keys generalizing drive with
  | nil => exact .refl _
  | cons key rest ih =>
    refine Sheds.trans ?_ (ih _)
    obtain same | changed := drive.act_files (change key)
    · rw [same]
      exact .refl _
    · rw [changed]
      exact sheds key _

theorem sheds_quarantine (ledger : Ledger Payload) (order : Order) :
    Sheds ledger.drive.files (ledger.quarantine order).drive.files := by
  have kept : ∀ files changed : Files Payload, changed.killTombstones = files.killTombstones →
      changed.closeRecords = files.closeRecords → changed.closeEnvelopes = files.closeEnvelopes →
      Sheds files changed := by
    intro files changed tombstones records envelopes
    refine ⟨?_,?_,?_⟩
    · rw [tombstones]
      exact fun _ _ found => found
    · rw [records]
      exact fun _ _ found => found
    · rw [envelopes]
      exact fun _ _ found => found
  unfold Ledger.quarantine
  simp only
  refine Sheds.trans ?_ (sheds_acts (fun key files => sheds_envelope files key) _ _)
  refine Sheds.trans ?_ (sheds_acts (fun key files => sheds_record files key) _ _)
  refine Sheds.trans ?_ (sheds_acts ?_ _ _)
  · refine Sheds.trans ?_ (sheds_acts (fun key files => sheds_tombstone files key) _ _)
    refine Sheds.trans ?_ (sheds_acts ?_ _ _)
    · refine sheds_acts ?_ _ _
      exact fun key files => kept files _ rfl rfl rfl
    · exact fun key files => kept files _ rfl rfl rfl
  · exact fun key files => kept files _ rfl rfl rfl

theorem carries_insert {files : Files Payload} {key : String} {record : CloseEnvelopeRecord}
    (carried : { files with closeEnvelopes := files.closeEnvelopes.insert key record }.Carries kill) :
    kill ∈ record.kills ∨ files.Carries kill := by
  obtain tombstone | legacy | ⟨at_,held,found,current,listed⟩ := carried
  · exact .inr (.inl tombstone)
  · exact .inr (.inr (.inl legacy))
  · simp only [lookup_insert] at found
    split at found
    · cases found
      exact .inl listed
    · exact .inr (.inr (.inr ⟨at_,held,found,current,listed⟩))

theorem harmless_acts {Key : Type} (change : Key → Files Payload → Files Payload) {drive : Drive (Files Payload)}
    (harmless : drive.Harmless) (keys : List Key) :
    (keys.foldl (fun drive key => (drive.act (change key)).1) drive).Harmless := by
  induction keys generalizing drive with
  | nil => exact harmless
  | cons key rest ih => exact ih (harmless.act (change key)).1

theorem harmless_quarantine {ledger : Ledger Payload} (harmless : ledger.drive.Harmless) (order : Order) :
    (ledger.quarantine order).drive.Harmless := by
  unfold Ledger.quarantine
  simp only
  refine harmless_acts _ (harmless_acts _ (harmless_acts _ (harmless_acts _ (harmless_acts _ ?_ _) _) _) _) _
  exact harmless_acts _ harmless _

namespace Ledger

/-- Nothing carries a kill of the identity, on disk or in memory. -/
def Lifted (ledger : Ledger Payload) (key : SessionKey) : Prop := ledger.drive.files.Free key ∧ ledger.index.Free key

variable {ledger : Ledger Payload} {key : SessionKey} {change : Files Payload → Files Payload}
  {mirror : LedgerIndex Payload → LedgerIndex Payload}

theorem Lifted.operate (lifted : ledger.Lifted key)
    (files : ledger.drive.files.Free key → (change ledger.drive.files).Free key)
    (index : ledger.index.Free key → (mirror ledger.index).Free key) : (ledger.operate change mirror).1.Lifted key := by
  constructor
  · obtain same | changed := ledger.operate_files change mirror
    · rw [same]
      exact lifted.1
    · rw [changed]
      exact files lifted.1
  · obtain ⟨_,same⟩ | ⟨_,changed⟩ := ledger.operate_index change mirror
    · rw [same]
      exact lifted.2
    · rw [changed]
      exact index lifted.2

variable {index : LedgerIndex Payload}

theorem free_insert (free : index.Free key) (at_ : String) {record : CloseEnvelopeRecord}
    (bare : ∀ kill ∈ record.kills, kill.key ≠ key) (other : LedgerIndex Payload)
    (inserted : other.closeEnvelopes = index.closeEnvelopes.insert at_ record) : other.Free key := by
  intro held found lookup
  rw [inserted,lookup_insert] at lookup
  split at lookup
  · cases lookup
    exact bare
  · exact free held found lookup

theorem free_erase (free : index.Free key) (at_ : String) (other : LedgerIndex Payload)
    (erased : other.closeEnvelopes = index.closeEnvelopes.erase at_) : other.Free key := by
  intro held found lookup
  rw [erased,lookup_erase] at lookup
  split at lookup
  · simp at lookup
  · exact free held found lookup

theorem Lifted.step {start : Ledger Payload} {op : LedgerOp Payload} {before after : Ledger Payload} {key : SessionKey}
    (bare : ∀ at_ record, start.closeWrites op = some (at_,record) → ∀ kill ∈ record.kills, kill.key ≠ key)
    (step : FileStep start op before after) (lifted : before.Lifted key) : after.Lifted key := by
  cases step with
  | row row => exact lifted.operate id id
  | dropRow gone drops => exact lifted.operate id id
  | marker marker => exact lifted.operate id id
  | dropMarker terminalId => exact lifted.operate id id
  | aliases at_ records => exact lifted.operate id id
  | dropAliases at_ => exact lifted.operate id id
  | rollback change => exact lifted.operate id id
  | close at_ record writes first =>
    refine lifted.operate (fun free kill carried => ?_) fun free => free_insert free at_ (bare at_ record writes) _ rfl
    obtain own | standing := carries_insert carried
    · exact bare at_ record writes kill own
    · exact free kill standing
  | rollBack at_ absent => exact lifted.operate (fun free => (sheds_envelope _ at_).free free) id
  | probe at_ => exact lifted.operate id id
  | feed at_ _ record _ _ _ stands current =>
    exact ⟨lifted.1,free_insert lifted.2 at_ (fun kill listed =>
      lifted.1 kill (.inr (.inr ⟨at_,record,stands,current,listed⟩))) _ rfl⟩
  | clearFence at_ => exact lifted.operate (fun free => (sheds_tombstone _ at_).free free) id
  | dropTombstone at_ => exact lifted.operate (fun free => (sheds_tombstone _ at_).free free) id
  | shrink at_ record less stands fewer =>
    cases less with
    | none =>
      exact lifted.operate (fun free => (sheds_envelope _ at_).free free) fun free => free_erase free at_ _ rfl
    | some kept =>
      have bare : ∀ kill ∈ kept.kills, kill.key ≠ key :=
        fun kill listed => lifted.2 at_ record stands kill ((fewer kept rfl).2 kill listed)
      refine lifted.operate (fun free kill carried => ?_) fun free => free_insert free at_ bare _ rfl
      obtain own | standing := carries_insert carried
      · exact bare kill own
      · exact free kill standing
  | unlinkRecord at_ record stands =>
    have unlinked : (before.unlinkEnvelope at_ id).1.Lifted key :=
      lifted.operate (fun free => (sheds_envelope _ at_).free free) id
    unfold Ledger.unlinkRecord
    simp only
    split
    · exact unlinked
    · next terminalId _ =>
      show ((before.unlinkEnvelope at_ id).1.unlinkCloseRecord terminalId).1.Lifted key
      exact unlinked.operate (fun free => (sheds_record _ terminalId).free free) id
  | forget at_ gone => exact ⟨lifted.1,free_erase lifted.2 at_ _ rfl⟩
  | unfed fences fewer => exact lifted
  | recomputed claimed fences claims others => exact lifted
  | quarantine order => exact ⟨(sheds_quarantine before order).free lifted.1,lifted.2⟩

def Knows (ledger : Ledger Payload) : Prop :=
  ∀ key record, ledger.standing key = some record → record.ledgerVersion = ledgerVersion →
    ledger.index.closeEnvelopes.lookup key = some record

theorem knows_reload (ledger : Ledger Payload) (order : Order) : (ledger.reload order).Knows :=
  fun _ _ found current => load_envelope found current

/-- The process is up, what comes does not fail half-way, and the index has every record. -/
def Attentive (ledger : Ledger Payload) : Prop := ledger.drive.Harmless ∧ ledger.Knows

theorem Attentive.operate (attentive : ledger.Attentive)
    (done : ∀ key record, (change ledger.drive.files).closeEnvelopes.lookup key = some record →
      record.ledgerVersion = ledgerVersion → (mirror ledger.index).closeEnvelopes.lookup key = some record) :
    (ledger.operate change mirror).1.Attentive := by
  obtain ⟨harmless,knows⟩ := attentive
  obtain ⟨later,⟨acted,changed⟩ | ⟨failed,same⟩⟩ := harmless.act change
  · refine ⟨later,fun key record found current => ?_⟩
    have completed : (ledger.operate change mirror).2 = true := acted
    obtain ⟨files,index⟩ := operate_done completed
    rw [index]
    unfold standing at found
    rw [files] at found
    exact done key record found current
  · refine ⟨later,fun key record found current => ?_⟩
    obtain ⟨_,index⟩ | ⟨impossible,_⟩ := ledger.operate_index change mirror
    · rw [index]
      refine knows key record ?_ current
      unfold standing at found ⊢
      rw [← same]
      exact found
    · exact Bool.noConfusion (failed.symm.trans impossible)

theorem Attentive.step {start : Ledger Payload} {op : LedgerOp Payload} {before after : Ledger Payload}
    (step : FileStep start op before after) (attentive : before.Attentive) : after.Attentive := by
  have knows := attentive.2
  have erased : ∀ at_ key record, (before.drive.files.closeEnvelopes.erase at_).lookup key = some record →
      key ≠ at_ ∧ before.standing key = some record := by
    intro at_ key record found
    rw [lookup_erase] at found
    split at found
    · simp at found
    · next other => exact ⟨other,found⟩
  have inserted : ∀ at_ key fresh record, (before.drive.files.closeEnvelopes.insert at_ fresh).lookup key = some record →
      record.ledgerVersion = ledgerVersion → (before.index.closeEnvelopes.insert at_ fresh).lookup key = some record := by
    intro at_ key fresh record found current
    rw [lookup_insert] at found ⊢
    split at found
    · next same => rw [if_pos same,found]
    · next other =>
      rw [if_neg other]
      exact knows key record found current
  cases step with
  | row row => exact attentive.operate knows
  | dropRow gone drops => exact attentive.operate knows
  | marker marker => exact attentive.operate knows
  | dropMarker terminalId => exact attentive.operate knows
  | aliases at_ records => exact attentive.operate knows
  | dropAliases at_ => exact attentive.operate knows
  | rollback change => exact attentive.operate knows
  | close at_ record writes first => exact attentive.operate fun key found => inserted at_ key record found
  | rollBack at_ absent =>
    exact attentive.operate fun key record found current => knows key record (erased at_ key record found).2 current
  | probe at_ => exact attentive.operate knows
  | feed at_ _ record _ _ _ stands current =>
    refine ⟨attentive.1,fun key held found version => ?_⟩
    show (before.index.closeEnvelopes.insert at_ record).lookup key = some held
    rw [lookup_insert]
    split
    · next same =>
      subst same
      exact stands.symm.trans found
    · exact knows key held found version
  | clearFence at_ => exact attentive.operate knows
  | dropTombstone at_ => exact attentive.operate knows
  | shrink at_ record less stands fewer =>
    cases less with
    | none =>
      refine attentive.operate fun key held found current => ?_
      obtain ⟨other,standing⟩ := erased at_ key held found
      show (before.index.closeEnvelopes.erase at_).lookup key = some held
      rw [lookup_erase,if_neg other]
      exact knows key held standing current
    | some kept => exact attentive.operate fun key found => inserted at_ key kept found
  | unlinkRecord at_ record stands =>
    have unlinked : (before.unlinkEnvelope at_ id).1.Attentive :=
      attentive.operate fun key held found current => knows key held (erased at_ key held found).2 current
    unfold Ledger.unlinkRecord
    simp only
    split
    · exact unlinked
    · next terminalId _ =>
      show ((before.unlinkEnvelope at_ id).1.unlinkCloseRecord terminalId).1.Attentive
      exact unlinked.operate unlinked.2
  | forget at_ gone =>
    refine ⟨attentive.1,fun key record found current => ?_⟩
    show (before.index.closeEnvelopes.erase at_).lookup key = some record
    have other : key ≠ at_ := by
      rintro rfl
      rw [show before.standing key = some record from found] at gone
      simp at gone
    rw [lookup_erase,if_neg other]
    exact knows key record found current
  | unfed fences fewer => exact attentive
  | recomputed claimed fences claims others => exact attentive
  | quarantine order =>
    refine ⟨harmless_quarantine attentive.1 order,fun key record found current => ?_⟩
    exact knows key record ((sheds_quarantine before order).envelopes key record found) current

end Ledger
end Freshell.PaneLedger
