import Freshell.Connection.Conservation

/-!
The order in which the deliveries of one terminal come out. A queued gap is kept with
the admission ids of the frames that were evicted into it, and what was popped of a
terminal as the ids in the order in which they came out, a gap as the frames it stands
for.
-/
namespace Freshell.Connection
open Freshell.Library.Tables Freshell.Library.Runs

/-- A queued gap with the ids of the frames that it stands for. -/
abbrev MarkedGap := Range × List Nat

/-- As `recordGap`, with the id of the evicted frame. -/
def recordMarked (gaps : List MarkedGap) (range : Range) (id : Nat) : List MarkedGap :=
  match gaps.getLast? with
  | some last =>
    if range.continues last.1 then gaps.dropLast ++ [(last.1.merge range,last.2 ++ [id])] else gaps ++ [(range,[id])]
  | none => gaps ++ [(range,[id])]

def markedIds (gaps : List MarkedGap) : List Nat := (gaps.map (·.2)).flatten

variable (gaps : List MarkedGap) (range : Range)

theorem recordMarked_ranges (id : Nat) : (recordMarked gaps range id).map (·.1) = recordGap (gaps.map (·.1)) range := by
  simp only [recordMarked,recordGap,List.getLast?_map]
  cases gaps.getLast? with
  | none => simp
  | some last =>
    simp only [Option.map_some]
    split
    · simp [List.map_dropLast]
    · simp

theorem recordMarked_ids (id : Nat) : markedIds (recordMarked gaps range id) = markedIds gaps ++ [id] := by
  simp only [recordMarked]
  cases last : gaps.getLast? with
  | none => simp [markedIds]
  | some gap =>
    simp only
    split
    · have split_ : gaps = gaps.dropLast ++ [gap] := (List.dropLast_append_getLast? gap last).symm
      have ids : markedIds gaps = markedIds gaps.dropLast ++ gap.2 := by
        conv => lhs; rw [split_]
        simp [markedIds]
      rw [ids]
      simp [markedIds]
    · simp [markedIds]

section
variable {T : Type}

/-- The marked gaps of each terminal after the eviction loop. -/
def markEvicted : Nat → DeliveryQueue T → (String → List MarkedGap) → String → List MarkedGap
  | 0, _, gaps => gaps
  | fuel+1, queue, gaps =>
    if queue.byteLimit < queue.outstandingBytes then
      match first queue.evictable with
      | none => gaps
      | some id =>
        match queue.entries.lookup id,queue.evict id with
        | some entry,some after =>
          markEvicted fuel after (Function.update gaps entry.terminalId
            (match entry.range with
              | some range => recordMarked (gaps entry.terminalId) range id
              | none => gaps entry.terminalId))
        | _,_ => gaps
    else gaps

/-- Each frame that the loop evicts is the oldest one that its terminal has queued. -/
def EvictsInTurn : Nat → DeliveryQueue T → Prop
  | 0, _ => True
  | fuel+1, queue =>
    queue.byteLimit < queue.outstandingBytes → ∀ id entry after, first queue.evictable = some id →
      queue.entries.lookup id = some entry → queue.evict id = some after →
      (∀ other ∈ idsOf queue.lanes entry.terminalId, id ≤ other) ∧ EvictsInTurn fuel after

/-- The queue with its gaps marked, and the ids that came out of each terminal. -/
structure Tracker (T : Type) where
  queue : DeliveryQueue T
  gaps : String → List MarkedGap
  popped : String → List Nat

namespace Tracker

def new (byteLimit metadataLimit : Nat) : Tracker T := ⟨.new byteLimit metadataLimit,fun _ => [],fun _ => []⟩

/-- The marked gaps after a push; one that is refused leaves the id unused. -/
def pushGaps (tracker : Tracker T) (priority : Priority) (entry : Entry T) (after : DeliveryQueue T) :
    String → List MarkedGap :=
  if after.nextId = tracker.queue.nextId then tracker.gaps
  else
    let admitted := tracker.queue.admitEntry priority entry
    markEvicted admitted.evictable.card admitted tracker.gaps

/-- What `pop` takes: the selected lane's first gap, or else its oldest frame. -/
def pop (tracker : Tracker T) (after : DeliveryQueue T) : Tracker T :=
  match tracker.queue.selectLane with
  | none => { tracker with queue := after }
  | some terminalId =>
    match tracker.gaps terminalId with
    | gap :: rest =>
      { queue := after, gaps := Function.update tracker.gaps terminalId rest,
        popped := Function.update tracker.popped terminalId (tracker.popped terminalId ++ gap.2) }
    | [] =>
      { tracker with
        queue := after
        popped := Function.update tracker.popped terminalId (tracker.popped terminalId ++
          (first (idsOf tracker.queue.lanes terminalId)).toList) }

/-- One call; a panic leaves the tracker as it is. -/
def step (tracker : Tracker T) (op : Op T) : Tracker T :=
  match tracker.queue.call op with
  | none => tracker
  | some (_,after) =>
    match op with
    | .push priority entry => { tracker with queue := after, gaps := tracker.pushGaps priority entry after }
    | .pop => tracker.pop after
    | .discardTerminal terminalId => { tracker with queue := after, gaps := Function.update tracker.gaps terminalId [] }
    | _ => { tracker with queue := after }

/-- No frame is evicted past an older one of its terminal that stays, as a sequenced control does. -/
def InTurn (tracker : Tracker T) : Op T → Prop
  | .push priority entry =>
    let admitted := tracker.queue.admitEntry priority entry
    EvictsInTurn admitted.evictable.card admitted
  | _ => True

/-- The ids of a terminal that have left the queue's frames: popped, or in a gap that is next. -/
def gone (tracker : Tracker T) (terminalId : String) : List Nat :=
  tracker.popped terminalId ++ markedIds (tracker.gaps terminalId)

/-- The marked gaps are those of the queue, and each terminal's ids come out in order: popped
    ones before those of its gaps, and these before its queued frames. -/
structure InOrder (tracker : Tracker T) : Prop where
  ranges : ∀ terminalId, (tracker.gaps terminalId).map (·.1) = gapsOf tracker.queue.lanes terminalId
  ascending : ∀ terminalId, (tracker.gone terminalId).Pairwise (· < ·)
  queued : ∀ terminalId, ∀ old ∈ tracker.gone terminalId, ∀ id entry, tracker.queue.entries.lookup id = some entry →
    entry.terminalId = terminalId → old < id
  past : ∀ terminalId, ∀ old ∈ tracker.gone terminalId, old < tracker.queue.nextId

section
variable {queue after : DeliveryQueue T} {gaps : String → List MarkedGap} {popped : String → List Nat}

theorem InOrder.same (ordered : (⟨queue,gaps,popped⟩ : Tracker T).InOrder)
    (sameGaps : ∀ terminalId, gapsOf after.lanes terminalId = gapsOf queue.lanes terminalId)
    (entries : ∀ id entry, after.entries.lookup id = some entry → queue.entries.lookup id = some entry)
    (nextId : after.nextId = queue.nextId) : (⟨after,gaps,popped⟩ : Tracker T).InOrder where
  ranges terminalId := (ordered.ranges terminalId).trans (sameGaps terminalId).symm
  ascending := ordered.ascending
  queued terminalId old listed id entry found own := ordered.queued terminalId old listed id entry (entries id entry found) own
  past terminalId old listed := by
    rw [nextId]
    exact ordered.past terminalId old listed

theorem InOrder.admit (ordered : (⟨queue,gaps,popped⟩ : Tracker T).InOrder) (priority : Priority) (entry : Entry T) :
    (⟨queue.admitEntry priority entry,gaps,popped⟩ : Tracker T).InOrder where
  ranges terminalId := (ordered.ranges terminalId).trans (admit_gapsOf queue priority entry terminalId).symm
  ascending := ordered.ascending
  queued terminalId old listed id held found own := by
    simp only [admit_lookup] at found
    split at found
    · next new => rw [new]; exact ordered.past terminalId old listed
    · exact ordered.queued terminalId old listed id held found own
  past terminalId old listed := Nat.lt_succ_of_lt (ordered.past terminalId old listed)

variable {entry : Entry T}

/-- An eviction in turn puts the oldest frame of its terminal behind the terminal's gaps. -/
theorem InOrder.evict (indexed : queue.Indexed) (ordered : (⟨queue,gaps,popped⟩ : Tracker T).InOrder) {id : Nat}
    {range : Range} (found : queue.entries.lookup id = some entry) (evicts : queue.Evicts id entry range after)
    (oldest : ∀ other ∈ idsOf queue.lanes entry.terminalId, id ≤ other) :
    (⟨after,Function.update gaps entry.terminalId (recordMarked (gaps entry.terminalId) range id),popped⟩ :
      Tracker T).InOrder := by
  have gone : ∀ terminalId, (⟨after,Function.update gaps entry.terminalId
      (recordMarked (gaps entry.terminalId) range id),popped⟩ : Tracker T).gone terminalId =
      if terminalId = entry.terminalId then (⟨queue,gaps,popped⟩ : Tracker T).gone terminalId ++ [id]
      else (⟨queue,gaps,popped⟩ : Tracker T).gone terminalId := by
    intro terminalId
    simp only [Tracker.gone]
    split
    · next own => subst own; simp [recordMarked_ids]
    · next other => simp [other]
  constructor
  · intro terminalId
    rw [evicts.gaps]
    dsimp only
    split
    · next own =>
      subst own
      rw [Function.update_self,recordMarked_ranges,ordered.ranges]
    · next other =>
      rw [Function.update_of_ne other]
      exact ordered.ranges terminalId
  · intro terminalId
    rw [gone]
    split
    · next own =>
      subst own
      rw [List.pairwise_append]
      refine ⟨ordered.ascending _,List.pairwise_singleton _ _,?_⟩
      intro old listed last isLast
      rw [List.mem_singleton.mp isLast]
      exact ordered.queued _ old listed id entry found rfl
    · exact ordered.ascending terminalId
  · intro terminalId old listed other held foundAfter own
    rw [evicts.entries,lookup_erase] at foundAfter
    split at foundAfter
    · simp at foundAfter
    · next apart =>
      rw [gone] at listed
      split at listed
      · next terminal =>
        rcases List.mem_append.mp listed with before | new
        · exact ordered.queued terminalId old before other held foundAfter own
        · rw [List.mem_singleton.mp new]
          have least := oldest other ((indexed.lanes _ other).mpr ⟨held,foundAfter,own.trans terminal⟩)
          omega
      · exact ordered.queued terminalId old listed other held foundAfter own
  · intro terminalId old listed
    rw [evicts.nextId]
    rw [gone] at listed
    split at listed
    · rcases List.mem_append.mp listed with before | new
      · exact ordered.past terminalId old before
      · rw [List.mem_singleton.mp new]
        exact indexed.fresh found
    · exact ordered.past terminalId old listed

theorem InOrder.evictFrom (fuel : Nat) (indexed : queue.Indexed) (ordered : (⟨queue,gaps,popped⟩ : Tracker T).InOrder)
    (inTurn : EvictsInTurn fuel queue) :
    ∃ result after, queue.evictFrom fuel = some (result,after) ∧ after.Indexed ∧ after.nextId = queue.nextId ∧
      (⟨after,markEvicted fuel queue gaps,popped⟩ : Tracker T).InOrder := by
  induction fuel generalizing queue gaps with
  | zero => exact ⟨_,queue,rfl,indexed,rfl,ordered⟩
  | succ fuel ih =>
    simp only [DeliveryQueue.evictFrom,markEvicted]
    by_cases full : queue.byteLimit < queue.outstandingBytes
    · rw [if_pos full,if_pos full]
      cases oldest : first queue.evictable with
      | none => exact ⟨_,queue,rfl,indexed,rfl,ordered⟩
      | some id =>
        obtain ⟨entry,range,after,found,ranged,evicted,evicts,again⟩ :=
          DeliveryQueue.evict_spec indexed (first_some oldest).1
        obtain ⟨least,rest⟩ := inTurn full id entry after oldest found evicted
        have next := ordered.evict indexed found evicts least
        obtain ⟨result,last,looped,lastIndexed,lastNext,lastOrdered⟩ := ih again next rest
        simp only [found,evicted,ranged,Option.bind_some]
        exact ⟨result,last,looped,lastIndexed,lastNext.trans evicts.nextId,lastOrdered⟩
    · rw [if_neg full,if_neg full]
      exact ⟨_,queue,rfl,indexed,rfl,ordered⟩

theorem InOrder.push (indexed : queue.Indexed) (ordered : (⟨queue,gaps,popped⟩ : Tracker T).InOrder)
    {priority : Priority} (inTurn : (⟨queue,gaps,popped⟩ : Tracker T).InTurn (.push priority entry)) :
    ∃ result after, queue.push priority entry = some (result,after) ∧ after.Indexed ∧
      (⟨after,(⟨queue,gaps,popped⟩ : Tracker T).pushGaps priority entry after,popped⟩ : Tracker T).InOrder := by
  have refused : (⟨queue,(⟨queue,gaps,popped⟩ : Tracker T).pushGaps priority entry queue,popped⟩ : Tracker T).InOrder := by
    simp only [pushGaps,if_true]
    exact ordered
  simp only [DeliveryQueue.push]
  split
  · exact ⟨_,queue,rfl,indexed,refused⟩
  · split
    · exact ⟨_,queue,rfl,indexed,refused⟩
    · split
      · exact ⟨_,queue,rfl,indexed,refused⟩
      · obtain ⟨result,after,looped,again,nextId,last⟩ :=
          ( ordered.admit priority entry).evictFrom _ (DeliveryQueue.admit_indexed indexed priority entry) inTurn
        have grown : after.nextId ≠ queue.nextId := by
          rw [nextId]
          exact Nat.succ_ne_self _
        refine ⟨result,after,looped,again,?_⟩
        simp only [pushGaps,if_neg grown]
        exact last

variable {terminalId : String}

/-- A popped gap counts as its frames, which come before all that is left of the terminal. -/
theorem InOrder.popGap (indexed : queue.Indexed) (ordered : (⟨queue,gaps,popped⟩ : Tracker T).InOrder) {lane : Lane}
    {gap : MarkedGap} {rest : List MarkedGap} (held : queue.lanes.lookup terminalId = some lane)
    (marked : gaps terminalId = gap :: rest) :
    (⟨queue.popGap terminalId lane (rest.map (·.1)),Function.update gaps terminalId rest,
      Function.update popped terminalId (popped terminalId ++ gap.2)⟩ : Tracker T).InOrder := by
  have lanes : lane.gaps = gap.1 :: rest.map (·.1) := by
    have same := ordered.ranges terminalId
    simp only [marked,gapsOf_of_lookup held,List.map_cons] at same
    exact same.symm
  have gone : ∀ other, (⟨queue.popGap terminalId lane (rest.map (·.1)),Function.update gaps terminalId rest,
      Function.update popped terminalId (popped terminalId ++ gap.2)⟩ : Tracker T).gone other =
      (⟨queue,gaps,popped⟩ : Tracker T).gone other := by
    intro other
    simp only [Tracker.gone]
    by_cases own : other = terminalId
    · subst own
      simp [marked,markedIds]
    · simp [own]
  obtain ⟨pops,_⟩ := DeliveryQueue.popGap_spec indexed held lanes
  constructor
  · intro other
    dsimp only
    cases pops with
    | gap _ _ gapsAfter _ _ _ _ =>
      rw [gapsAfter]
      split
      · next own =>
        subst own
        rw [Function.update_self,gapsOf_of_lookup held,lanes,List.tail_cons]
      · next apart =>
        rw [Function.update_of_ne apart]
        exact ordered.ranges other
  · intro other
    rw [gone]
    exact ordered.ascending other
  · intro other old listed id entry found own
    rw [gone] at listed
    exact ordered.queued other old listed id entry found own
  · intro other old listed
    rw [gone] at listed
    exact ordered.past other old listed

theorem InOrder.popFrame (indexed : queue.Indexed) (ordered : (⟨queue,gaps,popped⟩ : Tracker T).InOrder) {lane : Lane}
    {id : Nat} (held : queue.lanes.lookup terminalId = some lane) (marked : gaps terminalId = [])
    (oldest : first lane.ids = some id) (found : queue.entries.lookup id = some entry)
    (own : entry.terminalId = terminalId) : (⟨queue.popFrame id entry terminalId lane,gaps,
      Function.update popped terminalId (popped terminalId ++ [id])⟩ : Tracker T).InOrder := by
  have gone : ∀ other, (⟨queue.popFrame id entry terminalId lane,gaps,
      Function.update popped terminalId (popped terminalId ++ [id])⟩ : Tracker T).gone other =
      if other = terminalId then (⟨queue,gaps,popped⟩ : Tracker T).gone other ++ [id]
      else (⟨queue,gaps,popped⟩ : Tracker T).gone other := by
    intro other
    simp only [Tracker.gone]
    split
    · next same => subst same; simp [marked,markedIds]
    · next apart => simp [apart]
  have entries : (queue.popFrame id entry terminalId lane).entries = queue.entries.erase id := rfl
  have nextId : (queue.popFrame id entry terminalId lane).nextId = queue.nextId := rfl
  constructor
  · intro other
    dsimp only
    refine (ordered.ranges other).trans ?_
    rw [DeliveryQueue.popFrame,DeliveryQueue.serve_gapsOf]
    split
    · next same => rw [same,gapsOf_of_lookup held]
    · rfl
  · intro other
    rw [gone]
    split
    · next same =>
      rw [List.pairwise_append]
      refine ⟨ordered.ascending other,List.pairwise_singleton _ _,?_⟩
      intro old listed last isLast
      rw [List.mem_singleton.mp isLast]
      exact ordered.queued other old listed id entry found (own.trans same.symm)
    · exact ordered.ascending other
  · intro other old listed next heldEntry foundAfter mine
    dsimp only at foundAfter
    rw [entries,lookup_erase] at foundAfter
    split at foundAfter
    · simp at foundAfter
    · next apart =>
      rw [gone] at listed
      split at listed
      · next same =>
        rcases List.mem_append.mp listed with before | new
        · exact ordered.queued other old before next heldEntry foundAfter mine
        · rw [List.mem_singleton.mp new]
          have among : next ∈ lane.ids := by
            rw [← idsOf_of_lookup held]
            exact (indexed.lanes _ next).mpr ⟨heldEntry,foundAfter,mine.trans same⟩
          have least := (first_some oldest).2 next among
          omega
      · exact ordered.queued other old listed next heldEntry foundAfter mine
  · intro other old listed
    dsimp only
    rw [nextId]
    rw [gone] at listed
    split at listed
    · rcases List.mem_append.mp listed with before | new
      · exact ordered.past other old before
      · rw [List.mem_singleton.mp new]
        exact indexed.fresh found
    · exact ordered.past other old listed

theorem InOrder.discard (ordered : (⟨queue,gaps,popped⟩ : Tracker T).InOrder)
    (discards : queue.Discards terminalId after) :
    (⟨after,Function.update gaps terminalId [],popped⟩ : Tracker T).InOrder := by
  have fewer : ∀ other, ((⟨after,Function.update gaps terminalId [],popped⟩ : Tracker T).gone other).Sublist
      ((⟨queue,gaps,popped⟩ : Tracker T).gone other) := by
    intro other
    simp only [Tracker.gone]
    by_cases own : other = terminalId
    · subst own
      simp [markedIds]
    · simp [own]
  constructor
  · intro other
    rw [discards.gaps]
    dsimp only
    split
    · next own => simp [own]
    · next apart =>
      rw [Function.update_of_ne apart]
      exact ordered.ranges other
  · exact fun other => (ordered.ascending other).sublist (fewer other)
  · intro other old listed id entry found own
    rw [discards.entries] at found
    split at found
    · simp at found
    · exact ordered.queued other old ((fewer other).subset listed) id entry found own
  · intro other old listed
    rw [discards.nextId]
    exact ordered.past other old ((fewer other).subset listed)
end

variable {tracker : Tracker T} {terminalId : String}

theorem step_popGap {lane : Lane} {gap : MarkedGap} {rest : List MarkedGap}
    (selected : tracker.queue.selectLane = some terminalId) (held : tracker.queue.lanes.lookup terminalId = some lane)
    (lanes : lane.gaps = gap.1 :: rest.map (·.1)) (marked : tracker.gaps terminalId = gap :: rest) : tracker.step .pop =
      ⟨tracker.queue.popGap terminalId lane (rest.map (·.1)),Function.update tracker.gaps terminalId rest,
        Function.update tracker.popped terminalId (tracker.popped terminalId ++ gap.2)⟩ := by
  simp only [Tracker.step,DeliveryQueue.call,DeliveryQueue.pop,selected,held,lanes,Option.bind_eq_bind,
    Option.bind_some,Option.pure_def,Option.map_some,Tracker.pop,marked]

theorem step_popFrame {lane : Lane} {id : Nat} {entry : Entry T}
    (selected : tracker.queue.selectLane = some terminalId) (held : tracker.queue.lanes.lookup terminalId = some lane)
    (clear : lane.gaps = []) (marked : tracker.gaps terminalId = []) (oldest : first lane.ids = some id)
    (found : tracker.queue.entries.lookup id = some entry) : tracker.step .pop =
      ⟨tracker.queue.popFrame id entry terminalId lane,tracker.gaps,
        Function.update tracker.popped terminalId (tracker.popped terminalId ++ [id])⟩ := by
  simp only [Tracker.step,DeliveryQueue.call,DeliveryQueue.pop,selected,held,clear,oldest,found,
    Option.bind_eq_bind,Option.bind_some,Option.pure_def,Option.map_some,Tracker.pop,marked,
    idsOf_of_lookup held,Option.toList_some]

theorem InOrder.step {tracker : Tracker T} (indexed : tracker.queue.Indexed) (ordered : tracker.InOrder) {op : Op T}
    (inTurn : tracker.InTurn op) : (tracker.step op).queue.Indexed ∧ (tracker.step op).InOrder := by
  obtain ⟨queue,gaps,popped⟩ := tracker
  cases op with
  | push priority entry =>
    obtain ⟨result,after,pushed,again,last⟩ := ordered.push indexed inTurn
    simp only [Tracker.step,DeliveryQueue.call,pushed,Option.map_some]
    exact ⟨again,last⟩
  | pop =>
    cases selected : queue.selectLane with
    | none =>
      simp only [Tracker.step,DeliveryQueue.call,DeliveryQueue.pop,selected,Option.map_some,Tracker.pop]
      exact ⟨indexed,ordered⟩
    | some terminalId =>
      obtain ⟨lane,held,active⟩ := DeliveryQueue.selectLane_some selected
      have ranges := ordered.ranges terminalId
      rw [gapsOf_of_lookup held] at ranges
      cases marked : gaps terminalId with
      | cons gap rest =>
        have lanes : lane.gaps = gap.1 :: rest.map (·.1) := by simpa [marked] using ranges.symm
        have spec := DeliveryQueue.popGap_spec indexed held lanes
        have last := ordered.popGap indexed held marked
        rw [step_popGap selected held lanes marked]
        exact ⟨spec.2,last⟩
      | nil =>
        have clear : lane.gaps = [] := by simpa [marked] using ranges.symm
        cases oldest : first lane.ids with
        | none => simp [Lane.active,first_none oldest,clear] at active
        | some id =>
          obtain ⟨entry,found,own⟩ := indexed.entry held (first_some oldest).1
          have spec := DeliveryQueue.popFrame_spec indexed held clear oldest found own
          have last := ordered.popFrame indexed held marked oldest found own
          rw [step_popFrame selected held clear marked oldest found]
          exact ⟨spec.2,last⟩
  | updatePriorities priority =>
    simp only [Tracker.step,DeliveryQueue.call]
    exact ⟨DeliveryQueue.updatePriorities_indexed indexed priority,
      ordered.same (fun terminalId => (queue.updatePriorities_lanes priority terminalId).2) (fun _ _ found => found) rfl⟩
  | discardTerminal terminalId =>
    obtain ⟨after,discarded,discards,again⟩ := DeliveryQueue.discardTerminal_spec indexed terminalId
    simp only [Tracker.step,DeliveryQueue.call,discarded,Option.map_some]
    exact ⟨again,ordered.discard discards⟩
  | setReservedBytes bytes =>
    simp only [Tracker.step,DeliveryQueue.call]
    exact ⟨⟨⟨indexed.bytes,indexed.evictable,indexed.fresh⟩,indexed.lanes,indexed.gaps⟩,
      ordered.same (fun _ => rfl) (fun _ _ found => found) rfl⟩
  | takeEvictions =>
    simp only [Tracker.step,DeliveryQueue.call]
    exact ⟨⟨⟨indexed.bytes,indexed.evictable,indexed.fresh⟩,indexed.lanes,indexed.gaps⟩,
      ordered.same (fun _ => rfl) (fun _ _ found => found) rfl⟩

theorem inOrder_new (byteLimit metadataLimit : Nat) : (new byteLimit metadataLimit : Tracker T).InOrder where
  ranges _ := rfl
  ascending _ := List.Pairwise.nil
  queued _ _ listed := by simp [gone,new,markedIds] at listed
  past _ _ listed := by simp [gone,new,markedIds] at listed

/-- In a run that evicts no frame past an older one of its terminal, what is popped of a
    terminal comes out in the order of admission, each gap as the frames it stands for, and
    comes before all that the terminal still has queued. -/
theorem deliveries_inOrder (byteLimit metadataLimit : Nat) (ops : List (Op T))
    (inTurn : Along step InTurn (new byteLimit metadataLimit) ops) :
    (run step (new byteLimit metadataLimit) ops).InOrder := by
  have kept : ∀ (tracker : Tracker T) (op : Op T), (tracker.queue.Indexed ∧ tracker.InOrder) → tracker.InTurn op →
      (tracker.step op).queue.Indexed ∧ (tracker.step op).InOrder := fun _ _ held allowed => held.2.step held.1 allowed
  exact (invariant_run kept ⟨DeliveryQueue.indexed_new byteLimit metadataLimit,inOrder_new byteLimit metadataLimit⟩
    inTurn).2
end Tracker
end

/-- A sequenced control, then an output beyond the byte limit. -/
def overflown : List (Op Unit) :=
  [.push .focused ⟨"t",(),0,none,0⟩,.push .focused ⟨"t",(),10,some ⟨"s",none,1,1⟩,1⟩]

def overflownLane : Lane := ⟨.focused,{0},[⟨"s",none,1,1⟩],0⟩

/-- The gap of the output comes out before the control that was admitted before it. -/
theorem overflown_outOfOrder : (run Tracker.step (.new 1 8) (overflown ++ [.pop,.pop])).popped "t" = [1,0] := by
  let pushed : Tracker Unit := run Tracker.step (.new 1 8) overflown
  have lanes : overflownLane.gaps = (⟨"s",none,1,1⟩ : Range) :: ([] : List MarkedGap).map (·.1) := rfl
  have gaps : pushed.gaps "t" = [(⟨"s",none,1,1⟩,[1])] := rfl
  have gap : pushed.step .pop = ⟨pushed.queue.popGap "t" overflownLane [],Function.update pushed.gaps "t" [],
      Function.update pushed.popped "t" [1]⟩ :=
    Tracker.step_popGap (DeliveryQueue.selectLane_only rfl (by decide)) rfl lanes gaps
  have control : first ({0} : Finset Nat) = some 0 := rfl
  have frame : ((pushed.step .pop).step .pop).popped "t" = [1,0] := by
    let lane : Lane := ⟨.focused,{0},[],256⟩
    let entry : Entry Unit := ⟨"t",(),0,none,0⟩
    rw [gap,Tracker.step_popFrame (@DeliveryQueue.selectLane_only _ _ "t" lane rfl (by decide)) rfl rfl rfl control
      (show _ = some entry from rfl)]
    rfl
  exact frame

/-- The output is the older one, and the control waits behind its gap. -/
def overflownInTurn : List (Op Unit) :=
  [.push .focused ⟨"t",(),10,some ⟨"s",none,1,1⟩,0⟩,.push .focused ⟨"t",(),0,none,1⟩]

theorem overflownInTurn_inOrder : (run Tracker.step (.new 1 8) overflownInTurn).InOrder := by
  refine Tracker.deliveries_inOrder 1 8 overflownInTurn ⟨?_,?_,trivial⟩
  · intro _ id entry after oldest found _
    obtain rfl : 0 = id := Option.some.inj oldest
    exact ⟨fun other _ => Nat.zero_le other,trivial⟩
  · exact trivial

end Freshell.Connection
