import Freshell.Connection.DeliveryQueue

/-!
The indexes of the delivery queue describe one set of frames: what each removal
and admission does to them, and that no `expect` of the source can fail.
-/
namespace Freshell.Connection
open Freshell.Library.Tables

def idsOf (lanes : Table String Lane) (terminalId : String) : Finset Nat :=
  ((lanes.lookup terminalId).map (·.ids)).getD ∅

def gapsOf (lanes : Table String Lane) (terminalId : String) : List Range :=
  ((lanes.lookup terminalId).map (·.gaps)).getD []

section
variable {lanes : Table String Lane} {terminalId other : String} {lane : Lane}

theorem idsOf_insert (lanes : Table String Lane) (terminalId other : String) (lane : Lane) :
    idsOf (lanes.insert terminalId lane) other = if other = terminalId then lane.ids else idsOf lanes other := by
  unfold idsOf
  rw [lookup_insert]
  split <;> rfl

theorem gapsOf_insert (lanes : Table String Lane) (terminalId other : String) (lane : Lane) :
    gapsOf (lanes.insert terminalId lane) other = if other = terminalId then lane.gaps else gapsOf lanes other := by
  unfold gapsOf
  rw [lookup_insert]
  split <;> rfl

theorem idsOf_erase (lanes : Table String Lane) (terminalId other : String) :
    idsOf (lanes.erase terminalId) other = if other = terminalId then ∅ else idsOf lanes other := by
  unfold idsOf
  rw [lookup_erase]
  split <;> rfl

theorem gapsOf_erase (lanes : Table String Lane) (terminalId other : String) :
    gapsOf (lanes.erase terminalId) other = if other = terminalId then [] else gapsOf lanes other := by
  unfold gapsOf
  rw [lookup_erase]
  split <;> rfl

theorem idsOf_of_lookup (found : lanes.lookup terminalId = some lane) : idsOf lanes terminalId = lane.ids := by
  simp [idsOf,found]

theorem gapsOf_of_lookup (found : lanes.lookup terminalId = some lane) : gapsOf lanes terminalId = lane.gaps := by
  simp [gapsOf,found]

theorem lookup_of_mem_idsOf {id : Nat} (listed : id ∈ idsOf lanes terminalId) :
    ∃ lane, lanes.lookup terminalId = some lane ∧ id ∈ lane.ids := by
  unfold idsOf at listed
  cases found : lanes.lookup terminalId with
  | none => simp [found] at listed
  | some lane => exact ⟨lane,rfl,by simpa [found] using listed⟩

end

variable {ids : Finset Nat}

theorem first_some {id : Nat} (found : first ids = some id) : id ∈ ids ∧ ∀ other ∈ ids, id ≤ other := by
  unfold first at found
  split at found
  · next some_ =>
    obtain rfl := Option.some.inj found
    exact ⟨ids.min'_mem some_,fun other member => ids.min'_le other member⟩
  · cases found

theorem first_none (found : first ids = none) : ids = ∅ := by
  unfold first at found
  split at found
  · cases found
  · next empty => exact Finset.not_nonempty_iff_eq_empty.mp empty

variable (gaps : List Range) (range : Range)

theorem recordGap_cases : recordGap gaps range = gaps ++ [range] ∨
      ∃ rest last, gaps = rest ++ [last] ∧ range.continues last = true ∧ recordGap gaps range = rest ++ [last.merge range] := by
  unfold recordGap
  cases ends : gaps.getLast? with
  | none => exact .inl rfl
  | some last =>
    dsimp only
    split
    · next continues =>
      obtain ⟨rest,rfl⟩ := List.getLast?_eq_some_iff.mp ends
      exact .inr ⟨rest,last,rfl,continues,by rw [List.dropLast_concat]⟩
    · exact .inl rfl

theorem length_recordGap :
    gaps.length ≤ (recordGap gaps range).length ∧ (recordGap gaps range).length ≤ gaps.length + 1 := by
  rcases recordGap_cases gaps range with grown | ⟨rest,last,rfl,_,merged⟩
  · rw [grown]
    simp
  · rw [merged]
    simp

namespace DeliveryQueue
variable {T : Type} {queue : DeliveryQueue T}

@[simp] theorem refreshClocks_entries (queue : DeliveryQueue T) : queue.refreshClocks.entries = queue.entries := rfl
@[simp] theorem refreshClocks_lanes (queue : DeliveryQueue T) : queue.refreshClocks.lanes = queue.lanes := rfl
@[simp] theorem refreshClocks_gapCount (queue : DeliveryQueue T) : queue.refreshClocks.gapCount = queue.gapCount := rfl

@[simp] theorem reprioritize_ids (lane : Lane) (next : Priority) (laneClock : Priority → Nat) :
    (Lane.reprioritize lane next laneClock).ids = lane.ids := by
  unfold Lane.reprioritize
  split <;> rfl

@[simp] theorem reprioritize_gaps (lane : Lane) (next : Priority) (laneClock : Priority → Nat) :
    (Lane.reprioritize lane next laneClock).gaps = lane.gaps := by
  unfold Lane.reprioritize
  split <;> rfl

theorem selectLane_some {terminalId : String} (selected : queue.selectLane = some terminalId) :
    ∃ lane, queue.lanes.lookup terminalId = some lane ∧ lane.active = true := by
  obtain ⟨⟨id,lane⟩,best,rfl⟩ := Option.map_eq_some_iff.mp selected
  have member := List.argmin_mem best
  obtain ⟨listed,active⟩ := List.mem_filter.mp member
  obtain ⟨⟨key,value⟩,entry,same⟩ := List.mem_map.mp (List.mem_mergeSort.mp listed)
  obtain ⟨rfl,rfl⟩ := Prod.mk.inj same
  exact ⟨value,AList.mem_lookup_iff.mpr entry,active⟩

theorem selectLane_only {terminalId : String} {lane : Lane}
    (only : queue.lanes.entries = [⟨terminalId,lane⟩]) (active : lane.active) : queue.selectLane = some terminalId := by
  have order : queue.lanesInOrder = [⟨terminalId,lane⟩] := by simp [lanesInOrder,only]
  simp [selectLane,order,active]

/-- The byte total and the eviction index are those of the queued frames, which
    were all admitted. -/
structure Stored (queue : DeliveryQueue T) : Prop where
  bytes : queue.bytes = total Entry.bytes queue.entries
  evictable : ∀ id, id ∈ queue.evictable ↔ ∃ entry, queue.entries.lookup id = some entry ∧ entry.range.isSome
  fresh : ∀ {id entry}, queue.entries.lookup id = some entry → id < queue.nextId

/-- All the indexes describe the queued frames and gaps. -/
structure Indexed (queue : DeliveryQueue T) : Prop extends queue.Stored where
  lanes : ∀ terminalId id, id ∈ idsOf queue.lanes terminalId ↔
    ∃ entry, queue.entries.lookup id = some entry ∧ entry.terminalId = terminalId
  gaps : queue.gapCount = total (fun lane => lane.gaps.length) queue.lanes

theorem indexed_new (byteLimit metadataLimit : Nat) : (new byteLimit metadataLimit : DeliveryQueue T).Indexed where
  bytes := rfl
  evictable id := by simp [new]
  fresh found := by simp [new] at found
  lanes terminalId id := by simp [new,idsOf]
  gaps := rfl

variable {id : Nat}

theorem Indexed.lane {entry : Entry T} (indexed : queue.Indexed) (found : queue.entries.lookup id = some entry) :
    ∃ lane, queue.lanes.lookup entry.terminalId = some lane ∧ id ∈ lane.ids :=
  lookup_of_mem_idsOf ((indexed.lanes entry.terminalId id).mpr ⟨entry,found,rfl⟩)

theorem Indexed.entry {terminalId : String} {lane : Lane} (indexed : queue.Indexed)
    (found : queue.lanes.lookup terminalId = some lane) (listed : id ∈ lane.ids) :
    ∃ entry, queue.entries.lookup id = some entry ∧ entry.terminalId = terminalId :=
  (indexed.lanes terminalId id).mp (idsOf_of_lookup found ▸ listed)

theorem Stored.remove {after : DeliveryQueue T} {entry : Entry T} (stored : queue.Stored)
    (found : queue.entries.lookup id = some entry) (entries : after.entries = queue.entries.erase id)
    (evictable : after.evictable = queue.evictable.erase id) (bytes : after.bytes = queue.bytes - entry.bytes)
    (nextId : after.nextId = queue.nextId) : after.Stored where
  bytes := by
    have whole := total_erase Entry.bytes found
    rw [bytes,entries,stored.bytes]
    omega
  evictable other := by
    rw [evictable,entries,Finset.mem_erase,stored.evictable,lookup_erase]
    by_cases same : other = id
    · simp [same]
    · simp [same]
  fresh {other held} listed := by
    rw [entries,lookup_erase] at listed
    rw [nextId]
    split at listed
    · cases listed
    · exact stored.fresh listed

theorem Indexed.lanes_remove {lanes : Table String Lane} (indexed : queue.Indexed)
    (ids : ∀ terminalId, idsOf lanes terminalId = (idsOf queue.lanes terminalId).erase id) (terminalId : String)
    (other : Nat) : other ∈ idsOf lanes terminalId ↔
      ∃ held, (queue.entries.erase id).lookup other = some held ∧ held.terminalId = terminalId := by
  rw [ids,Finset.mem_erase,indexed.lanes,lookup_erase]
  by_cases same : other = id
  · simp [same]
  · simp [same]

/-- What the eviction of a queued output frame does. -/
structure Evicts (queue : DeliveryQueue T) (id : Nat) (entry : Entry T) (range : Range) (after : DeliveryQueue T) : Prop where
  entries : after.entries = queue.entries.erase id
  evictable : after.evictable = queue.evictable.erase id
  gaps : ∀ terminalId, gapsOf after.lanes terminalId =
    if terminalId = entry.terminalId then recordGap (gapsOf queue.lanes terminalId) range else gapsOf queue.lanes terminalId
  gapCount : after.gapCount ≤ queue.gapCount + 1
  nextId : after.nextId = queue.nextId
  byteLimit : after.byteLimit = queue.byteLimit
  metadataLimit : after.metadataLimit = queue.metadataLimit

variable {range : Range}

theorem moveToGap_evicts {entry : Entry T} {lane : Lane} (held : queue.lanes.lookup entry.terminalId = some lane) :
    queue.Evicts id entry range (queue.moveToGap id entry lane range) where
  entries := rfl
  evictable := rfl
  gaps terminalId := by
    show gapsOf (queue.lanes.insert _ _) terminalId = _
    rw [gapsOf_insert]
    split
    · next same => rw [same,gapsOf_of_lookup held]
    · rfl
  gapCount := by
    have grown := length_recordGap lane.gaps range
    show queue.gapCount + ((recordGap lane.gaps range).length - lane.gaps.length) ≤ queue.gapCount + 1
    omega
  nextId := rfl
  byteLimit := rfl
  metadataLimit := rfl

theorem moveToGap_indexed {id : Nat} {entry : Entry T} {lane : Lane} {range : Range} (indexed : queue.Indexed)
    (found : queue.entries.lookup id = some entry) (held : queue.lanes.lookup entry.terminalId = some lane) :
    (queue.moveToGap id entry lane range).Indexed where
  toStored := indexed.remove found rfl rfl rfl rfl
  lanes := by
    apply indexed.lanes_remove
    intro terminalId
    show idsOf (queue.lanes.insert _ _) terminalId = _
    rw [idsOf_insert]
    split
    · next same => rw [same,idsOf_of_lookup held]
    · next apart =>
      refine (Finset.erase_eq_of_notMem ?_).symm
      intro listed
      obtain ⟨other,again,own⟩ := (indexed.lanes terminalId id).mp listed
      obtain rfl := Option.some.inj (found.symm.trans again)
      exact apart own.symm
  gaps := by
    have grown := length_recordGap lane.gaps range
    have whole := total_insert_over (fun lane : Lane => lane.gaps.length) held
      { lane with ids := lane.ids.erase id, gaps := recordGap lane.gaps range }
    have before := indexed.gaps
    show queue.gapCount + ((recordGap lane.gaps range).length - lane.gaps.length) = total _ (queue.lanes.insert _ _)
    simp only at whole
    omega

theorem evict_spec (indexed : queue.Indexed) (listed : id ∈ queue.evictable) :
    ∃ entry range after, queue.entries.lookup id = some entry ∧ entry.range = some range ∧
      queue.evict id = some after ∧ queue.Evicts id entry range after ∧ after.Indexed := by
  obtain ⟨entry,found,output⟩ := (indexed.evictable id).mp listed
  obtain ⟨range,ranged⟩ := Option.isSome_iff_exists.mp output
  obtain ⟨lane,held,own⟩ := indexed.lane found
  refine ⟨entry,range,_,found,ranged,?_,moveToGap_evicts held,moveToGap_indexed indexed found held⟩
  simp [evict,found,held,ranged]

theorem admit_indexed (indexed : queue.Indexed) (priority : Priority) (entry : Entry T) :
    (queue.admitEntry priority entry).Indexed := by
  have unused : queue.entries.lookup queue.nextId = none := by
    cases held : queue.entries.lookup queue.nextId with
    | none => rfl
    | some other => exact absurd (indexed.fresh held) (Nat.lt_irrefl _)
  constructor
  · constructor
    · show queue.bytes + entry.bytes = total Entry.bytes (queue.entries.insert queue.nextId entry)
      rw [total_insert_fresh Entry.bytes unused,indexed.bytes]
      omega
    · intro id
      show id ∈ (if entry.range.isSome then _ else _) ↔ ∃ held, (queue.entries.insert queue.nextId entry).lookup id = some held ∧ _
      rw [lookup_insert]
      have before := indexed.evictable id
      by_cases same : id = queue.nextId
      · subst same
        simp only [unused,reduceCtorEq,false_and,exists_false,iff_false] at before
        cases output : entry.range.isSome <;> simp [output,before]
      · rw [if_neg same,← before]
        split <;> simp [same]
    · intro id held listed
      have inserted : (queue.entries.insert queue.nextId entry).lookup id = some held := listed
      rw [lookup_insert] at inserted
      show id < queue.nextId + 1
      split at inserted
      · omega
      · have older := indexed.fresh inserted
        omega
  · intro terminalId id
    show id ∈ idsOf (queue.lanes.insert _ _) terminalId ↔ ∃ held, (queue.entries.insert queue.nextId entry).lookup id = some held ∧ _
    have before := indexed.lanes terminalId id
    have own : (queue.laneFor entry.terminalId priority).ids = idsOf queue.lanes entry.terminalId := by
      unfold laneFor idsOf
      cases queue.lanes.lookup entry.terminalId <;> rfl
    rw [idsOf_insert,lookup_insert]
    by_cases same : id = queue.nextId
    · subst same
      simp only [unused,reduceCtorEq,false_and,exists_false,iff_false] at before
      by_cases home : terminalId = entry.terminalId
      · simp [home]
      · simp [home,before,Ne.symm home]
    · rw [if_neg same,← before]
      split
      · next home => simp [same,own,home]
      · rfl
  · simp only [admitEntry]
    rw [indexed.gaps]
    cases held : queue.lanes.lookup entry.terminalId with
    | none =>
      rw [total_insert_fresh _ held]
      simp [laneFor,held]
    | some lane =>
      have whole := total_insert_over (fun lane : Lane => lane.gaps.length) held
        { lane with ids := insert queue.nextId lane.ids }
      simp only [laneFor,held,Option.getD_some]
      simp only at whole
      omega

theorem forget_spec {ids : List Nat} (nodup : ids.Nodup) (stored : queue.Stored)
    (listed : ∀ id ∈ ids, (queue.entries.lookup id).isSome) :
    ∃ after, ids.foldlM forget queue = some after ∧ after.Stored ∧
      (∀ id, after.entries.lookup id = if id ∈ ids then none else queue.entries.lookup id) ∧
      after.entries.entries.length ≤ queue.entries.entries.length ∧
      after.lanes = queue.lanes ∧ after.gapCount = queue.gapCount ∧ after.nextId = queue.nextId ∧
      after.byteLimit = queue.byteLimit ∧ after.metadataLimit = queue.metadataLimit ∧ after.reserved = queue.reserved := by
  induction ids generalizing queue with
  | nil => exact ⟨queue,rfl,stored,by simp,Nat.le_refl _,rfl,rfl,rfl,rfl,rfl,rfl⟩
  | cons id rest ih =>
    obtain ⟨unlisted,nodup⟩ := List.nodup_cons.mp nodup
    obtain ⟨entry,found⟩ := Option.isSome_iff_exists.mp (listed id (List.mem_cons_self ..))
    let next : DeliveryQueue T := { queue with
      entries := queue.entries.erase id
      bytes := queue.bytes - entry.bytes
      evictable := queue.evictable.erase id }
    have forgot : queue.forget id = some next := by simp [forget,found,next]
    have kept : next.Stored := stored.remove found rfl rfl rfl rfl
    have left : ∀ other ∈ rest, (next.entries.lookup other).isSome := by
      intro other member
      have apart : other ≠ id := by
        rintro rfl
        exact unlisted member
      show ((queue.entries.erase id).lookup other).isSome
      rw [lookup_erase,if_neg apart]
      exact listed other (List.mem_cons_of_mem _ member)
    obtain ⟨after,ran,held,entries,shrunk,lanes,gapCount,nextId,byteLimit,metadataLimit,reserved⟩ := ih nodup kept left
    refine ⟨after,by rw [List.foldlM_cons,forgot]; exact ran,held,?_,?_,lanes,gapCount,nextId,byteLimit,metadataLimit,
      reserved⟩
    · intro other
      rw [entries]
      show (if other ∈ rest then none else (queue.entries.erase id).lookup other) = _
      rw [lookup_erase]
      by_cases same : other = id
      · simp [same]
      · simp [same]
    · refine Nat.le_trans shrunk ?_
      show (queue.entries.erase id).entries.length ≤ _
      have whole := total_erase (fun _ : Entry T => 1) found
      rw [length_eq_total,length_eq_total]
      omega

/-- What a discard of a terminal does: its frames and gaps are gone, and no others. -/
structure Discards (queue : DeliveryQueue T) (terminalId : String) (after : DeliveryQueue T) : Prop where
  entries : ∀ id, after.entries.lookup id =
    if id ∈ idsOf queue.lanes terminalId then none else queue.entries.lookup id
  gaps : ∀ other, gapsOf after.lanes other = if other = terminalId then [] else gapsOf queue.lanes other
  smaller : after.entries.entries.length + after.gapCount ≤ queue.entries.entries.length + queue.gapCount
  nextId : after.nextId = queue.nextId
  byteLimit : after.byteLimit = queue.byteLimit
  metadataLimit : after.metadataLimit = queue.metadataLimit
  reserved : after.reserved = queue.reserved

theorem discardTerminal_spec (indexed : queue.Indexed) (terminalId : String) :
    ∃ after, queue.discardTerminal terminalId = some after ∧ queue.Discards terminalId after ∧ after.Indexed := by
  unfold discardTerminal
  cases held : queue.lanes.lookup terminalId with
  | none =>
    refine ⟨_,rfl,⟨?_,?_,Nat.le_refl _,rfl,rfl,rfl,rfl⟩,⟨⟨indexed.bytes,indexed.evictable,indexed.fresh⟩,indexed.lanes,indexed.gaps⟩⟩
    · intro id
      simp [idsOf,held]
    · intro other
      rw [refreshClocks_lanes]
      split
      · next same =>
        subst same
        simp [gapsOf,held]
      · rfl
  | some lane =>
    have listed : ∀ id ∈ lane.ids.sort (· ≤ ·), (queue.entries.lookup id).isSome := by
      intro id member
      obtain ⟨entry,found,_⟩ := indexed.entry held ((Finset.mem_sort _).mp member)
      exact Option.isSome_iff_exists.mpr ⟨entry,found⟩
    have stored : Stored { queue with lanes := queue.lanes.erase terminalId, gapCount := queue.gapCount - lane.gaps.length } :=
      ⟨indexed.bytes,indexed.evictable,indexed.fresh⟩
    obtain ⟨after,ran,kept,entries,shrunk,lanes,gapCount,nextId,byteLimit,metadataLimit,reserved⟩ :=
      forget_spec (Finset.sort_nodup _ _) stored listed
    have gone (id : Nat) : after.entries.lookup id = if id ∈ idsOf queue.lanes terminalId then none else queue.entries.lookup id := by
      rw [entries,idsOf_of_lookup held]
      simp only [Finset.mem_sort]
    refine ⟨after.refreshClocks,by simp [ran],⟨gone,?_,?_,nextId,byteLimit,metadataLimit,reserved⟩,?_⟩
    · intro other
      rw [refreshClocks_lanes,lanes]
      exact gapsOf_erase ..
    · rw [refreshClocks_entries,refreshClocks_gapCount,gapCount]
      simp only at shrunk ⊢
      omega
    · refine ⟨⟨kept.bytes,kept.evictable,kept.fresh⟩,?_,?_⟩
      · intro other id
        rw [refreshClocks_lanes,refreshClocks_entries,lanes,gone]
        show id ∈ idsOf (queue.lanes.erase terminalId) other ↔ _
        rw [idsOf_erase]
        split
        · next same =>
          subst same
          simp only [Finset.notMem_empty,false_iff,not_exists,not_and]
          intro entry found own
          split at found
          · cases found
          · next absent => exact absent ((indexed.lanes other id).mpr ⟨entry,found,own⟩)
        · next apart =>
          rw [indexed.lanes]
          constructor
          · rintro ⟨entry,found,own⟩
            refine ⟨entry,?_,own⟩
            rw [if_neg,found]
            intro listed
            obtain ⟨held,again,home⟩ := (indexed.lanes terminalId id).mp listed
            obtain rfl := Option.some.inj (found.symm.trans again)
            exact apart (own.symm.trans home)
          · rintro ⟨entry,found,own⟩
            split at found
            · cases found
            · exact ⟨entry,found,own⟩
      · have whole := total_erase (fun lane : Lane => lane.gaps.length) held
        have before := indexed.gaps
        rw [refreshClocks_gapCount,refreshClocks_lanes,gapCount,lanes]
        simp only
        omega

theorem inactive_empty {lane : Lane} (idle : lane.active = false) : lane.ids = ∅ ∧ lane.gaps = [] := by
  unfold Lane.active at idle
  obtain ⟨ids,gaps⟩ := Bool.or_eq_false_iff.mp idle
  exact ⟨by simpa using ids,by simpa using gaps⟩

theorem serve_lanes (queue : DeliveryQueue T) (terminalId : String) (lane : Lane) (cost : Nat) :
    ∃ charged : Lane, charged.ids = lane.ids ∧ charged.gaps = lane.gaps ∧
      ((queue.serve terminalId lane cost).lanes = queue.lanes.insert terminalId charged ∨
        lane.ids = ∅ ∧ lane.gaps = [] ∧ (queue.serve terminalId lane cost).lanes = queue.lanes.erase terminalId) := by
  let charged : Lane :=
    { lane with served := saturatingAdd u128Max (max lane.served (queue.laneClock lane.priority)) cost }
  have served : (queue.serve terminalId lane cost).lanes =
      if charged.active then queue.lanes.insert terminalId charged else queue.lanes.erase terminalId := rfl
  refine ⟨charged,rfl,rfl,?_⟩
  rw [served]
  cases active : charged.active with
  | true => exact .inl rfl
  | false =>
    obtain ⟨ids,gaps⟩ := inactive_empty active
    exact .inr ⟨ids,gaps,rfl⟩

theorem serve_idsOf (queue : DeliveryQueue T) (terminalId other : String) (lane : Lane) (cost : Nat) :
    idsOf (queue.serve terminalId lane cost).lanes other = if other = terminalId then lane.ids else idsOf queue.lanes other := by
  obtain ⟨charged,ids,_,kept | ⟨empty,_,dropped⟩⟩ := queue.serve_lanes terminalId lane cost
  · rw [kept,idsOf_insert,ids]
  · rw [dropped,idsOf_erase,empty]

theorem serve_gapsOf (queue : DeliveryQueue T) (terminalId other : String) (lane : Lane) (cost : Nat) :
    gapsOf (queue.serve terminalId lane cost).lanes other = if other = terminalId then lane.gaps else gapsOf queue.lanes other := by
  obtain ⟨charged,_,gaps,kept | ⟨_,empty,dropped⟩⟩ := queue.serve_lanes terminalId lane cost
  · rw [kept,gapsOf_insert,gaps]
  · rw [dropped,gapsOf_erase,empty]

theorem serve_total (queue : DeliveryQueue T) {old : Lane} {terminalId : String} (found : queue.lanes.lookup terminalId = some old) (lane : Lane)
    (cost : Nat) : total (fun lane => lane.gaps.length) (queue.serve terminalId lane cost).lanes + old.gaps.length =
      lane.gaps.length + total (fun lane => lane.gaps.length) queue.lanes := by
  obtain ⟨charged,_,gaps,kept | ⟨_,empty,dropped⟩⟩ := queue.serve_lanes terminalId lane cost
  · rw [kept,total_insert_over _ found,gaps]
  · rw [dropped,total_erase _ found,empty]
    simp

/-- What a pop does: nothing, or it takes the first gap of a lane, or the oldest
    frame of a lane that has no gap. -/
inductive Pops (queue : DeliveryQueue T) : Option (Delivery T) → DeliveryQueue T → Prop where
  | idle : Pops queue none queue
  | gap {terminalId : String} {range : Range} {after : DeliveryQueue T} (first : (gapsOf queue.lanes terminalId).head? = some range)
      (entries : after.entries = queue.entries)
      (gaps : ∀ other, gapsOf after.lanes other =
        if other = terminalId then (gapsOf queue.lanes other).tail else gapsOf queue.lanes other)
      (smaller : after.gapCount ≤ queue.gapCount) (nextId : after.nextId = queue.nextId)
      (byteLimit : after.byteLimit = queue.byteLimit) (metadataLimit : after.metadataLimit = queue.metadataLimit) :
      Pops queue (some (.gap terminalId range)) after
  | frame {id : Nat} {entry : Entry T} {after : DeliveryQueue T} (found : queue.entries.lookup id = some entry)
      (clear : gapsOf queue.lanes entry.terminalId = [])
      (oldest : ∀ other ∈ idsOf queue.lanes entry.terminalId, id ≤ other) (entries : after.entries = queue.entries.erase id)
      (gaps : ∀ other, gapsOf after.lanes other = gapsOf queue.lanes other) (same : after.gapCount = queue.gapCount)
      (nextId : after.nextId = queue.nextId) (byteLimit : after.byteLimit = queue.byteLimit)
      (metadataLimit : after.metadataLimit = queue.metadataLimit) :
      Pops queue (some (.frame entry.payload entry.bytes)) after

theorem popGap_spec {terminalId : String} {lane : Lane} {rest : List Range} (indexed : queue.Indexed)
    (held : queue.lanes.lookup terminalId = some lane) (gaps : lane.gaps = range :: rest) :
    queue.Pops (some (.gap terminalId range)) (queue.popGap terminalId lane rest) ∧
      (queue.popGap terminalId lane rest).Indexed := by
  have count : queue.gapCount - 1 + lane.gaps.length = rest.length + queue.gapCount := by
    have least := measure_le_total (fun lane : Lane => lane.gaps.length) held
    rw [← indexed.gaps,gaps] at least
    simp only [List.length_cons] at least
    rw [gaps,List.length_cons]
    omega
  constructor
  · refine .gap ?_ rfl ?_ (Nat.sub_le _ _) rfl rfl rfl
    · rw [gapsOf_of_lookup held,gaps,List.head?_cons]
    · intro other
      refine (serve_gapsOf ..).trans ?_
      split
      · next same => rw [same,gapsOf_of_lookup held,gaps,List.tail_cons]
      · rfl
  · refine ⟨⟨indexed.bytes,indexed.evictable,indexed.fresh⟩,?_,?_⟩
    · intro other id
      refine Iff.trans ?_ (indexed.lanes other id)
      rw [popGap,serve_idsOf]
      split
      · next same => rw [same,idsOf_of_lookup held]
      · rfl
    · have whole := serve_total { queue with gapCount := queue.gapCount - 1 } held { lane with gaps := rest } 256
      have before := indexed.gaps
      show queue.gapCount - 1 = total (fun lane => lane.gaps.length) (queue.popGap terminalId lane rest).lanes
      simp only [popGap] at whole ⊢
      omega

theorem popFrame_spec {terminalId : String} {lane : Lane} {entry : Entry T} (indexed : queue.Indexed)
    (held : queue.lanes.lookup terminalId = some lane) (clear : lane.gaps = []) (oldest : first lane.ids = some id)
    (found : queue.entries.lookup id = some entry) (own : entry.terminalId = terminalId) :
    queue.Pops (some (.frame entry.payload entry.bytes)) (queue.popFrame id entry terminalId lane) ∧
      (queue.popFrame id entry terminalId lane).Indexed := by
  subst own
  constructor
  · refine .frame found ?_ ?_ rfl ?_ rfl rfl rfl rfl
    · rw [gapsOf_of_lookup held,clear]
    · rw [idsOf_of_lookup held]
      exact (first_some oldest).2
    · intro other
      refine (serve_gapsOf ..).trans ?_
      split
      · next same => rw [same,gapsOf_of_lookup held]
      · rfl
  · refine ⟨indexed.remove found rfl rfl rfl rfl,?_,?_⟩
    · apply indexed.lanes_remove
      intro terminalId
      rw [popFrame,serve_idsOf]
      split
      · next same => rw [same,idsOf_of_lookup held]
      · next apart =>
        refine (Finset.erase_eq_of_notMem ?_).symm
        intro listed
        obtain ⟨other,again,own⟩ := (indexed.lanes terminalId id).mp listed
        obtain rfl := Option.some.inj (found.symm.trans again)
        exact apart own.symm
    · have whole := serve_total { queue with
        entries := queue.entries.erase id
        evictable := queue.evictable.erase id
        bytes := queue.bytes - entry.bytes } held { lane with ids := lane.ids.erase id } (max entry.bytes 1)
      have before := indexed.gaps
      show queue.gapCount = total (fun lane => lane.gaps.length) (queue.popFrame id entry entry.terminalId lane).lanes
      simp only [popFrame] at whole ⊢
      omega

theorem pop_spec (indexed : queue.Indexed) :
    ∃ delivery after, queue.pop = some (delivery,after) ∧ queue.Pops delivery after ∧ after.Indexed := by
  unfold pop
  cases selected : queue.selectLane with
  | none => exact ⟨none,queue,rfl,.idle,indexed⟩
  | some terminalId =>
    obtain ⟨lane,held,active⟩ := selectLane_some selected
    cases gaps : lane.gaps with
    | cons range rest =>
      have spec := popGap_spec indexed held gaps
      exact ⟨_,_,by simp [held,gaps],spec.1,spec.2⟩
    | nil =>
      cases oldest : first lane.ids with
      | none =>
        have empty := first_none oldest
        simp [Lane.active,empty,gaps] at active
      | some id =>
        obtain ⟨entry,found,own⟩ := indexed.entry held (first_some oldest).1
        have spec := popFrame_spec indexed held gaps oldest found own
        exact ⟨_,_,by simp [held,gaps,oldest,found],spec.1,spec.2⟩

theorem updatePriorities_lanes (queue : DeliveryQueue T) (priority : String → Priority) (terminalId : String) :
    idsOf (queue.updatePriorities priority).lanes terminalId = idsOf queue.lanes terminalId ∧
      gapsOf (queue.updatePriorities priority).lanes terminalId = gapsOf queue.lanes terminalId := by
  simp only [updatePriorities,refreshClocks_lanes,idsOf,gapsOf,lookup_mapValues,Option.map_map,Function.comp_def,
    reprioritize_ids,reprioritize_gaps,and_self]

theorem updatePriorities_indexed (indexed : queue.Indexed) (priority : String → Priority) :
    (queue.updatePriorities priority).Indexed where
  bytes := indexed.bytes
  evictable := indexed.evictable
  fresh := indexed.fresh
  lanes terminalId id := by
    rw [(queue.updatePriorities_lanes priority terminalId).1]
    exact indexed.lanes terminalId id
  gaps := by
    refine indexed.gaps.trans (total_mapValues _ ?_ queue.lanes).symm
    intro terminalId lane
    rw [reprioritize_gaps]

end DeliveryQueue
end Freshell.Connection
