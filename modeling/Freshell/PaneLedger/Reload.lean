import Freshell.PaneLedger.Frames

/-!
What a process finds when it starts: the rows and markers that the files hold, and for each
identity the fence that the kills in all files of closes fold to.
-/
namespace Freshell.PaneLedger
open Freshell.Library.Tables

variable {Payload : Type}

/-- A kill that a file of the current version holds. -/
def Files.Carries (files : Files Payload) (kill : PaneCloseKill) : Prop :=
  (∃ tombstone, files.killTombstones.lookup kill.key = some tombstone ∧ tombstone.ledgerVersion = ledgerVersion ∧
    tombstone.kill = kill) ∨
  (∃ terminalId record, files.closeRecords.lookup terminalId = some record ∧ record.ledgerVersion = ledgerVersion ∧
    kill ∈ record.kills) ∨
  ∃ key record, files.closeEnvelopes.lookup key = some record ∧ record.ledgerVersion = ledgerVersion ∧
    kill ∈ record.kills

def loadedKills (order : Order) (files : Files Payload) : List PaneCloseKill :=
  let tombstones := (listed order.fences files.killTombstones.table).filter (·.2.ledgerVersion = ledgerVersion)
  let records := (listed order.records files.closeRecords.table).filter (·.2.ledgerVersion = ledgerVersion)
  let envelopes := (listed order.envelopes files.closeEnvelopes).filter (·.2.ledgerVersion = ledgerVersion)
  (tombstones.map fun entry => entry.2.kill) ++ (records.flatMap fun entry => entry.2.kills) ++
    envelopes.flatMap fun entry => entry.2.kills

variable {order : Order} {files : Files Payload} {kill : PaneCloseKill}

theorem mem_loadedKills : kill ∈ loadedKills order files ↔ files.Carries kill := by
  unfold loadedKills Files.Carries
  simp only [List.mem_append,List.mem_map,List.mem_flatMap,List.mem_filter,Prod.exists,decide_eq_true_eq,or_assoc]
  refine or_congr ?_ (or_congr ?_ ?_)
  · constructor
    · rintro ⟨provider,sessionId,tombstone,⟨entry,current⟩,rfl⟩
      have found : files.killTombstones.lookup (provider,sessionId) = some tombstone := mem_listed.mp entry
      have own : tombstone.key = (provider,sessionId) := KeyedTable.key_of_lookup found
      refine ⟨tombstone,?_,current,rfl⟩
      rw [show tombstone.kill.key = (provider,sessionId) from own]
      exact found
    · rintro ⟨tombstone,found,current,rfl⟩
      exact ⟨_,_,tombstone,⟨mem_listed.mpr found,current⟩,rfl⟩
  · constructor
    · rintro ⟨terminalId,record,⟨entry,current⟩,kill⟩
      exact ⟨terminalId,record,mem_listed.mp entry,current,kill⟩
    · rintro ⟨terminalId,record,found,current,kill⟩
      exact ⟨terminalId,record,⟨mem_listed.mpr found,current⟩,kill⟩
  · constructor
    · rintro ⟨key,record,⟨entry,current⟩,kill⟩
      exact ⟨key,record,mem_listed.mp entry,current,kill⟩
    · rintro ⟨key,record,found,current,kill⟩
      exact ⟨key,record,⟨mem_listed.mpr found,current⟩,kill⟩

theorem feedKills_append (fences : Table SessionKey KillTombstoneEntry) (first second : List PaneCloseKill) :
    feedKills fences (first ++ second) = feedKills (feedKills fences first) second := List.foldl_append

theorem fences_of_feeds {Item : Type} (key : Item → String) (record : Item → CloseEnvelopeRecord) (items : List Item)
    (index : LedgerIndex Payload) :
    (items.foldl (fun index item => feedCloseEnvelope index (key item) (record item)) index).killTombstones =
      feedKills index.killTombstones (items.flatMap fun item => (record item).kills) := by
  induction items generalizing index with
  | nil => rfl
  | cons item rest ih =>
    rw [List.foldl_cons,ih,List.flatMap_cons,feedKills_append]
    rfl

theorem envelopes_of_feeds {Item : Type} (key : Item → String) (record : Item → CloseEnvelopeRecord)
    (items : List Item) (index : LedgerIndex Payload) :
    (items.foldl (fun index item => feedCloseEnvelope index (key item) (record item)) index).closeEnvelopes =
      items.foldl (fun table item => table.insert (key item) (record item)) index.closeEnvelopes := by
  induction items generalizing index with
  | nil => rfl
  | cons item rest ih =>
    rw [List.foldl_cons,ih]
    rfl

theorem load_fences (order : Order) (files : Files Payload) :
    (loadIndex order files).killTombstones = feedKills ∅ (loadedKills order files) := by
  unfold loadIndex loadedKills
  simp only
  rw [fences_of_feeds,fences_of_feeds,feedKills_append,feedKills_append]
  rfl

variable {record : CloseEnvelopeRecord}

theorem load_envelope {key : String} (found : files.closeEnvelopes.lookup key = some record)
    (current : record.ledgerVersion = ledgerVersion) :
    (loadIndex order files).closeEnvelopes.lookup key = some record := by
  unfold loadIndex
  simp only
  rw [envelopes_of_feeds Prod.fst Prod.snd]
  refine lookup_enter (List.Nodup.sublist (List.filter_sublist.map _) (nodup_listed order.envelopes _)) ?_ _
  exact List.mem_filter.mpr ⟨mem_listed.mpr found,by simpa using current⟩

theorem carries_of_load {key : String} (found : (loadIndex order files).closeEnvelopes.lookup key = some record)
    (listed : kill ∈ record.kills) : files.Carries kill := by
  unfold loadIndex at found
  simp only at found
  rw [envelopes_of_feeds Prod.fst Prod.snd,
    envelopes_of_feeds (fun entry : String × PaneCloseRecord => paneEnvelopeKey entry.2.terminalId)
      fun entry => entry.2.envelope] at found
  obtain envelope | legacy := origin_of_enter found
  · obtain ⟨entry,current⟩ := List.mem_filter.mp envelope
    exact .inr (.inr ⟨key,record,mem_listed.mp entry,by simpa using current,listed⟩)
  · have mapped : ∀ (records : List (String × PaneCloseRecord)) (table : Table String CloseEnvelopeRecord),
        records.foldl (fun table entry => table.insert (paneEnvelopeKey entry.2.terminalId) entry.2.envelope) table =
          (records.map fun entry => (paneEnvelopeKey entry.2.terminalId,entry.2.envelope)).foldl
            (fun table entry => table.insert entry.1 entry.2) table := by
      intro records table
      rw [List.foldl_map]
    rw [mapped] at legacy
    obtain made | nothing := origin_of_enter legacy
    · obtain ⟨⟨terminalId,close⟩,member,same⟩ := List.mem_map.mp made
      obtain ⟨entry,current⟩ := List.mem_filter.mp member
      obtain ⟨_,rfl⟩ := Prod.mk.inj same
      exact .inr (.inl ⟨terminalId,close,mem_listed.mp entry,by simpa using current,listed⟩)
    · simp at nothing

variable {kills : List PaneCloseKill} {fence : Option KillTombstoneEntry} {entry : KillTombstoneEntry}

theorem newest_feed (folded : kills.foldl feedKill fence = some entry) :
    ((∃ kill ∈ kills, kill.atMs = entry.atMs) ∨ ∃ first, fence = some first ∧ first.atMs = entry.atMs) ∧
      (∀ kill ∈ kills, kill.atMs ≤ entry.atMs) ∧ ∀ first, fence = some first → first.atMs ≤ entry.atMs := by
  induction kills generalizing fence with
  | nil =>
    subst folded
    exact ⟨.inr ⟨entry,rfl,rfl⟩,by simp,by simp⟩
  | cons kill rest ih =>
    obtain ⟨origin,newest,first⟩ := ih folded
    have step : ∃ next, feedKill fence kill = some next ∧ kill.atMs ≤ next.atMs ∧
        (∀ held, fence = some held → held.atMs ≤ next.atMs) ∧
        (next.atMs = kill.atMs ∨ ∃ held, fence = some held ∧ held.atMs = next.atMs) := by
      cases fence with
      | none => exact ⟨_,rfl,le_refl _,by simp,.inl rfl⟩
      | some held =>
        refine ⟨held.fold kill,rfl,?_⟩
        unfold KillTombstoneEntry.fold
        split
        · next newer => exact ⟨le_refl _,fun other same => by cases same; exact newer.le,.inl rfl⟩
        · split
          · next equal =>
            split <;>
              exact ⟨equal.ge,fun other same => by cases same; exact le_refl _,.inr ⟨held,rfl,rfl⟩⟩
          · exact ⟨by omega,fun other same => by cases same; exact le_refl _,.inr ⟨held,rfl,rfl⟩⟩
    obtain ⟨next,fed,above,others,source⟩ := step
    have reached := first next fed
    refine ⟨?_,?_,fun held same => (others held same).trans reached⟩
    · obtain ⟨later,listed,same⟩ | ⟨held,same,stamp⟩ := origin
      · exact .inl ⟨later,List.mem_cons_of_mem _ listed,same⟩
      · rw [fed] at same
        cases same
        obtain own | ⟨held,there,same⟩ := source
        · exact .inl ⟨kill,List.mem_cons_self,own.symm.trans stamp⟩
        · exact .inr ⟨held,there,same.trans stamp⟩
    · intro later listed
      obtain rfl | listed := List.mem_cons.mp listed
      · exact above.trans reached
      · exact newest later listed

theorem feed_none (nothing : kills.foldl feedKill fence = none) : kills = [] ∧ fence = none := by
  induction kills generalizing fence with
  | nil => exact ⟨rfl,nothing⟩
  | cons kill rest ih =>
    obtain ⟨_,fed⟩ := ih nothing
    cases fence <;> simp [feedKill] at fed

theorem load_fence (order : Order) (files : Files Payload) (key : SessionKey) :
    (loadIndex order files).killTombstones.lookup key =
      ((loadedKills order files).filter (·.key = key)).foldl feedKill none := by
  rw [load_fences,lookup_feedKills,AList.lookup_empty]

variable {key : SessionKey}

theorem load_fence_none :
    (loadIndex order files).killTombstones.lookup key = none ↔ ∀ kill, files.Carries kill → kill.key ≠ key := by
  rw [load_fence]
  constructor
  · intro nothing kill carried same
    have listed : kill ∈ (loadedKills order files).filter (·.key = key) :=
      List.mem_filter.mpr ⟨mem_loadedKills.mpr carried,by simpa using same⟩
    rw [(feed_none nothing).1] at listed
    simp at listed
  · intro free
    rw [List.filter_eq_nil_iff.mpr]
    · rfl
    · intro kill listed
      simpa using free kill (mem_loadedKills.mp listed)

/-- The stamp of a fence that is found is the newest of the kills that the files hold. -/
theorem load_fence_some (found : (loadIndex order files).killTombstones.lookup key = some entry) :
    (∃ kill, files.Carries kill ∧ kill.key = key ∧ kill.atMs = entry.atMs) ∧
      ∀ kill, files.Carries kill → kill.key = key → kill.atMs ≤ entry.atMs := by
  rw [load_fence] at found
  obtain ⟨origin,newest,_⟩ := newest_feed found
  constructor
  · obtain ⟨kill,listed,stamp⟩ | ⟨first,impossible,_⟩ := origin
    · obtain ⟨loaded,same⟩ := List.mem_filter.mp listed
      exact ⟨kill,mem_loadedKills.mp loaded,by simpa using same,stamp⟩
    · simp at impossible
  · intro kill carried same
    exact newest kill (List.mem_filter.mpr ⟨mem_loadedKills.mpr carried,by simpa using same⟩)

end Freshell.PaneLedger
