import Freshell.Connection.Conservation
import Freshell.Library.VirtualClock

/-!
What the scheduler of the delivery queue reads, and what each operation does to
it: the class and the service of every lane, the service of the classes, and the
clocks of both.
-/
namespace Freshell.Connection
open Freshell.Library.Tables Freshell.Library.VirtualClock

def Lane.standing (lane : Lane) : Priority × Nat := (lane.priority,lane.served)

def Delivery.cost {T : Type} : Delivery T → Nat
  | .frame _ bytes => max bytes 1
  | .gap _ _ => 256

namespace DeliveryQueue
variable {T : Type} {queue after : DeliveryQueue T}

def standing (queue : DeliveryQueue T) (terminalId : String) : Option (Priority × Nat) :=
  (queue.lanes.lookup terminalId).map Lane.standing

def InClass (queue : DeliveryQueue T) (class_ : Priority) (terminalId : String) : Prop :=
  ∃ served, queue.standing terminalId = some (class_,served)

def Busy (queue : DeliveryQueue T) (class_ : Priority) : Prop := ∃ terminalId, queue.InClass class_ terminalId

def laneServed (queue : DeliveryQueue T) (terminalId : String) : Nat := ((queue.standing terminalId).map (·.2)).getD 0

def AllActive (queue : DeliveryQueue T) : Prop :=
  ∀ terminalId lane, queue.lanes.lookup terminalId = some lane → lane.active = true

variable {terminalId : String} {lane : Lane}

theorem standing_of_lookup (held : queue.lanes.lookup terminalId = some lane) :
    queue.standing terminalId = some (lane.priority,lane.served) := by
  simp [standing,held,Lane.standing]

variable {class_ : Priority}

theorem laneServed_of_standing {served : Nat} (stands : queue.standing terminalId = some (class_,served)) :
    queue.laneServed terminalId = served := by
  simp [laneServed,stands]

/-! ### The clocks -/

theorem foldl_min_spec (values : List Nat) (start : Nat) :
    (∀ value ∈ values, values.foldl min start ≤ value) ∧ values.foldl min start ≤ start ∧
      (values.foldl min start = start ∨ values.foldl min start ∈ values) := by
  induction values generalizing start with
  | nil => simp
  | cons value rest ih =>
    obtain ⟨below,under,found⟩ := ih (min start value)
    simp only [List.foldl_cons]
    refine ⟨?_,by omega,?_⟩
    · intro other member
      obtain rfl | member := List.mem_cons.mp member
      · omega
      · exact below other member
    · obtain same | member := found
      · by_cases smaller : start ≤ value
        · exact .inl (by omega)
        · refine .inr (List.mem_cons.mpr (.inl (by omega)))
      · exact .inr (List.mem_cons_of_mem value member)

theorem mem_laneList {queue : DeliveryQueue T} (active : queue.AllActive) :
    lane ∈ (((queue.lanes.entries.map fun entry => entry.2).filter Lane.active).filter fun lane =>
        lane.priority = class_) ↔
      ∃ terminalId, queue.lanes.lookup terminalId = some lane ∧ lane.priority = class_ := by
  simp only [List.mem_filter,List.mem_map,decide_eq_true_eq]
  constructor
  · rintro ⟨⟨⟨entry,listed,rfl⟩,-⟩,same⟩
    exact ⟨entry.1,AList.mem_lookup_iff.mpr listed,same⟩
  · rintro ⟨terminalId,held,same⟩
    exact ⟨⟨⟨⟨terminalId,lane⟩,AList.mem_lookup_iff.mp held,rfl⟩,active terminalId lane held⟩,same⟩

theorem busy_iff (active : queue.AllActive) (class_ : Priority) :
    (((queue.lanes.entries.map fun entry => entry.2).filter Lane.active).filter fun lane =>
      lane.priority = class_).isEmpty = false ↔ queue.Busy class_ := by
  rw [List.isEmpty_eq_false_iff_exists_mem]
  constructor
  · rintro ⟨lane,listed⟩
    obtain ⟨terminalId,held,rfl⟩ := (mem_laneList active).mp listed
    exact ⟨terminalId,lane.served,standing_of_lookup held⟩
  · rintro ⟨terminalId,served,stands⟩
    obtain ⟨lane,held,same⟩ := Option.map_eq_some_iff.mp stands
    exact ⟨lane,(mem_laneList active).mpr ⟨terminalId,held,congrArg (·.1) same⟩⟩

theorem classClock_refresh (active : queue.AllActive) :
    CatchesUp queue.Busy queue.classServed queue.classClock queue.refreshClocks.classClock := by
  let busy := [Priority.focused,.visible,.background].filter fun class_ =>
    !(((queue.lanes.entries.map fun entry => entry.2).filter Lane.active).filter fun lane =>
      lane.priority = class_).isEmpty
  have listed (class_ : Priority) : class_ ∈ busy ↔ queue.Busy class_ := by
    rw [← busy_iff active class_,List.mem_filter]
    cases class_ <;> simp
  unfold refreshClocks
  dsimp only
  cases least : (busy.map queue.classServed).min? with
  | none =>
    have none_ : ∀ class_, ¬queue.Busy class_ := by
      intro class_ isBusy
      have empty := List.map_eq_nil_iff.mp (List.min?_eq_none_iff.mp least)
      have member := (listed class_).mpr isBusy
      rw [empty] at member
      cases member
    exact ⟨Nat.le_refl _,fun class_ isBusy => absurd isBusy (none_ class_),
      fun class_ isBusy => absurd isBusy (none_ class_),fun _ => rfl⟩
  | some minimum =>
    obtain ⟨found,below⟩ := List.min?_eq_some_iff.mp least
    obtain ⟨first,member,rfl⟩ := List.mem_map.mp found
    have isFirst := (listed first).mp member
    refine ⟨Nat.le_max_left _ _,fun class_ isBusy => ?_,fun _ _ => ⟨first,isFirst,Nat.le_max_right _ _⟩,
      fun idle => absurd isFirst (idle first)⟩
    have := below _ (List.mem_map_of_mem ((listed class_).mpr isBusy))
    simp only
    omega

theorem laneClock_refresh (active : queue.AllActive) (class_ : Priority)
    (small : ∀ terminalId, queue.laneServed terminalId ≤ u128Max) :
    CatchesUp (queue.InClass class_) queue.laneServed (queue.laneClock class_) (queue.refreshClocks.laneClock class_) := by
  let lanes := ((queue.lanes.entries.map fun entry => entry.2).filter Lane.active).filter fun lane =>
    lane.priority = class_
  have clock : queue.refreshClocks.laneClock class_ = if lanes.isEmpty then queue.laneClock class_
    else max (queue.laneClock class_) ((lanes.map (·.served)).foldl min u128Max) := rfl
  have member {terminalId : String} (inClass : queue.InClass class_ terminalId) :
      queue.laneServed terminalId ∈ lanes.map (·.served) := by
    obtain ⟨served,stands⟩ := inClass
    obtain ⟨lane,held,same⟩ := Option.map_eq_some_iff.mp stands
    obtain ⟨rfl,rfl⟩ := Prod.mk.inj same
    rw [laneServed_of_standing stands]
    exact List.mem_map_of_mem ((mem_laneList active).mpr ⟨terminalId,held,rfl⟩)
  obtain ⟨below,under,found⟩ := foldl_min_spec (lanes.map (·.served)) u128Max
  rw [clock]
  by_cases empty : lanes.isEmpty = true
  · rw [if_pos empty]
    have none_ : ∀ terminalId, ¬queue.InClass class_ terminalId := by
      intro terminalId inClass
      have := member inClass
      rw [List.isEmpty_iff.mp empty] at this
      cases this
    exact ⟨Nat.le_refl _,fun id inClass => absurd inClass (none_ id),fun id inClass => absurd inClass (none_ id),
      fun _ => rfl⟩
  · rw [if_neg empty]
    have someone : ∃ terminalId, queue.InClass class_ terminalId := by
      obtain ⟨lane,listed⟩ := List.isEmpty_eq_false_iff_exists_mem.mp (eq_false_of_ne_true empty)
      obtain ⟨terminalId,held,own⟩ := (mem_laneList active).mp listed
      exact ⟨terminalId,lane.served,own ▸ standing_of_lookup held⟩
    refine ⟨Nat.le_max_left _ _,fun id inClass => ?_,fun id inClass => ?_,
      fun idle => someone.elim fun id inClass => absurd inClass (idle id)⟩
    · have := below _ (member inClass)
      omega
    · obtain most | least := found
      · refine ⟨id,inClass,?_⟩
        have := small id
        omega
      · obtain ⟨lane,listed,same⟩ := List.mem_map.mp least
        obtain ⟨first,held,own⟩ := (mem_laneList active).mp listed
        have stands := standing_of_lookup held
        rw [own] at stands
        refine ⟨first,⟨_,stands⟩,?_⟩
        rw [laneServed_of_standing stands,same]
        exact Nat.le_max_right _ _

/-! ### The selection -/

theorem mem_lanesInOrder : (terminalId,lane) ∈ queue.lanesInOrder ↔ queue.lanes.lookup terminalId = some lane := by
  unfold lanesInOrder
  rw [List.mem_mergeSort,List.mem_map]
  constructor
  · rintro ⟨⟨key,value⟩,entry,same⟩
    obtain ⟨rfl,rfl⟩ := Prod.mk.inj same
    exact AList.mem_lookup_iff.mpr entry
  · intro held
    exact ⟨⟨terminalId,lane⟩,AList.mem_lookup_iff.mp held,rfl⟩

theorem selectLane_least (selected : queue.selectLane = some terminalId) :
    ∃ lane, queue.lanes.lookup terminalId = some lane ∧ lane.active = true ∧
      ∀ other lane', queue.lanes.lookup other = some lane' → lane'.active = true →
        queue.serviceKey (terminalId,lane) ≤ queue.serviceKey (other,lane') := by
  obtain ⟨⟨id,lane⟩,best,rfl⟩ := Option.map_eq_some_iff.mp selected
  obtain ⟨member,active⟩ := List.mem_filter.mp (List.argmin_mem best)
  refine ⟨lane,mem_lanesInOrder.mp member,active,fun other lane' held awake => ?_⟩
  exact List.le_of_mem_argmin (List.mem_filter.mpr ⟨mem_lanesInOrder.mpr held,awake⟩) best

theorem selectLane_none (selected : queue.selectLane = none) (active : queue.AllActive) (terminalId : String) :
    queue.lanes.lookup terminalId = none := by
  cases held : queue.lanes.lookup terminalId with
  | none => rfl
  | some lane =>
    have empty := List.argmin_eq_none.mp (Option.map_eq_none_iff.mp selected)
    have kept : (terminalId,lane) ∈ queue.lanesInOrder.filter fun entry => entry.2.active :=
      List.mem_filter.mpr ⟨mem_lanesInOrder.mpr held,active terminalId lane held⟩
    rw [empty] at kept
    cases kept

theorem selectLane_of_first (active : queue.AllActive) (held : queue.lanes.lookup terminalId = some lane)
    (first : ∀ other lane', other ≠ terminalId → queue.lanes.lookup other = some lane' →
      ¬queue.serviceKey (other,lane') ≤ queue.serviceKey (terminalId,lane)) : queue.selectLane = some terminalId := by
  cases selected : queue.selectLane with
  | none =>
    rw [selectLane_none selected active terminalId] at held
    cases held
  | some other =>
    obtain ⟨lane',held',-,least⟩ := selectLane_least selected
    by_contra apart
    exact first other lane' (fun same => apart (congrArg some same)) held' (least terminalId lane held (active terminalId lane held))

theorem serviceKey_le {first second : String × Lane} (least : queue.serviceKey first ≤ queue.serviceKey second) :
    max (queue.classServed first.2.priority) queue.classClock ≤
        max (queue.classServed second.2.priority) queue.classClock ∧
      (first.2.priority = second.2.priority →
        max first.2.served (queue.laneClock first.2.priority) ≤ max second.2.served (queue.laneClock second.2.priority)) := by
  unfold serviceKey at least
  simp only [Prod.Lex.toLex_le_toLex] at least
  constructor
  · obtain less | ⟨same,-⟩ := least
    · exact Nat.le_of_lt less
    · exact Nat.le_of_eq same
  · intro sameClass
    rw [sameClass] at least
    simp only [Nat.lt_irrefl,true_and,false_or] at least
    rw [sameClass]
    obtain less | ⟨same,-⟩ := least
    · exact Nat.le_of_lt less
    · exact Nat.le_of_eq same

/-! ### Admission and eviction -/

/-- The scheduler reads the same of both queues. -/
structure SameSchedule (queue after : DeliveryQueue T) : Prop where
  standing : ∀ terminalId, after.standing terminalId = queue.standing terminalId
  classServed : after.classServed = queue.classServed
  classClock : after.classClock = queue.classClock
  laneClock : after.laneClock = queue.laneClock
  active : queue.AllActive → after.AllActive
  entries : ∀ id entry, after.entries.lookup id = some entry → queue.entries.lookup id = some entry

theorem SameSchedule.refl (queue : DeliveryQueue T) : SameSchedule queue queue :=
  ⟨fun _ => rfl,rfl,rfl,rfl,id,fun _ _ => id⟩

theorem SameSchedule.trans {last : DeliveryQueue T} (first : SameSchedule queue after) (second : SameSchedule after last) :
    SameSchedule queue last where
  standing terminalId := (second.standing terminalId).trans (first.standing terminalId)
  classServed := second.classServed.trans first.classServed
  classClock := second.classClock.trans first.classClock
  laneClock := second.laneClock.trans first.laneClock
  active := second.active ∘ first.active
  entries id entry held := first.entries id entry (second.entries id entry held)

theorem recordGap_ne (gaps : List Range) (range : Range) : recordGap gaps range ≠ [] := by
  obtain grown | ⟨rest,last,-,-,merged⟩ := recordGap_cases gaps range
  · simp [grown]
  · simp [merged]

theorem moveToGap_same {id : Nat} {entry : Entry T} {range : Range}
    (held : queue.lanes.lookup entry.terminalId = some lane) :
    SameSchedule queue (queue.moveToGap id entry lane range) where
  standing terminalId := by
    simp only [standing,moveToGap,lookup_insert]
    split
    · next same => rw [same,held]; rfl
    · rfl
  classServed := rfl
  classClock := rfl
  laneClock := rfl
  active active terminalId other found := by
    simp only [moveToGap,lookup_insert] at found
    split at found
    · obtain rfl := Option.some.inj found
      have some_ := recordGap_ne lane.gaps range
      simp [Lane.active,some_]
    · exact active terminalId other found
  entries other held found := by
    simp only [moveToGap,lookup_erase] at found
    split at found
    · cases found
    · exact found

theorem evictFrom_same (fuel : Nat) (indexed : queue.Indexed) :
    ∃ result after, queue.evictFrom fuel = some (result,after) ∧ after.Indexed ∧ SameSchedule queue after := by
  induction fuel generalizing queue with
  | zero => exact ⟨_,queue,rfl,indexed,.refl queue⟩
  | succ fuel ih =>
    unfold evictFrom
    split
    · cases oldest : first queue.evictable with
      | none => exact ⟨_,queue,rfl,indexed,.refl queue⟩
      | some id =>
        obtain ⟨entry,found,output⟩ := (indexed.evictable id).mp (first_some oldest).1
        obtain ⟨range,ranged⟩ := Option.isSome_iff_exists.mp output
        obtain ⟨lane,held,-⟩ := indexed.lane found
        have evicted : queue.evict id = some (queue.moveToGap id entry lane range) := by
          simp [evict,found,held,ranged]
        obtain ⟨result,after,ran,kept,same⟩ := ih (@moveToGap_indexed _ queue id entry lane range indexed found held)
        exact ⟨result,after,by simp only [evicted,Option.bind_some,ran],kept,(moveToGap_same held).trans same⟩
    · exact ⟨_,queue,rfl,indexed,.refl queue⟩

/-- What an admission does to the schedule: a terminal without a lane gets one that
    starts at the clock of its class, and the class is lifted to its clock. -/
structure Admits (queue : DeliveryQueue T) (priority : Priority) (entry : Entry T) (after : DeliveryQueue T) : Prop where
  own : after.standing entry.terminalId =
    some ((queue.standing entry.terminalId).getD (priority,queue.laneClock priority))
  others : ∀ terminalId, terminalId ≠ entry.terminalId → after.standing terminalId = queue.standing terminalId
  classServed : after.classServed =
    Function.update queue.classServed priority (max (queue.classServed priority) queue.classClock)
  classClock : after.classClock = queue.classClock
  laneClock : after.laneClock = queue.laneClock
  active : queue.AllActive → after.AllActive
  entries : ∀ id held, after.entries.lookup id = some held → held = entry ∨ queue.entries.lookup id = some held

theorem admitEntry_admits (queue : DeliveryQueue T) (priority : Priority) (entry : Entry T) :
    queue.Admits priority entry (queue.admitEntry priority entry) where
  own := by
    simp only [standing,admitEntry,lookup_insert,if_true,laneFor]
    cases queue.lanes.lookup entry.terminalId <;> rfl
  others terminalId apart := by
    simp only [standing,admitEntry,lookup_insert,if_neg apart]
  classServed := rfl
  classClock := rfl
  laneClock := rfl
  active active terminalId lane found := by
    simp only [admitEntry,lookup_insert] at found
    split at found
    · obtain rfl := Option.some.inj found
      simp [Lane.active]
    · exact active terminalId lane found
  entries id held found := by
    simp only [admitEntry,lookup_insert] at found
    split at found
    · exact .inl (Option.some.inj found).symm
    · exact .inr found

theorem Admits.same {priority : Priority} {entry : Entry T} {last : DeliveryQueue T} (admits : queue.Admits priority entry after)
    (same : SameSchedule after last) : queue.Admits priority entry last where
  own := (same.standing _).trans admits.own
  others terminalId apart := (same.standing terminalId).trans (admits.others terminalId apart)
  classServed := same.classServed.trans admits.classServed
  classClock := same.classClock.trans admits.classClock
  laneClock := same.laneClock.trans admits.laneClock
  active := same.active ∘ admits.active
  entries id held found := admits.entries id held (same.entries id held found)

/-- A push is refused and changes nothing, or it admits the frame; what it evicts leaves gaps of the same lanes. -/
theorem push_schedule (indexed : queue.Indexed) (priority : Priority) (entry : Entry T) :
    ∃ result after, queue.push priority entry = some (result,after) ∧ after.Indexed ∧
      (after = queue ∨ queue.Admits priority entry after) := by
  unfold push
  split
  · exact ⟨_,queue,rfl,indexed,.inl rfl⟩
  · split
    · exact ⟨_,queue,rfl,indexed,.inl rfl⟩
    · split
      · exact ⟨_,queue,rfl,indexed,.inl rfl⟩
      · obtain ⟨result,after,ran,kept,same⟩ := evictFrom_same _ (admit_indexed indexed priority entry)
        exact ⟨result,after,ran,kept,.inr ((admitEntry_admits queue priority entry).same same)⟩

/-! ### Discards -/

theorem forget_schedule (ids : List Nat) {queue after : DeliveryQueue T} (ran : ids.foldlM forget queue = some after) :
    after.lanes = queue.lanes ∧ after.classServed = queue.classServed ∧ after.classClock = queue.classClock ∧
      after.laneClock = queue.laneClock ∧
      ∀ id entry, after.entries.lookup id = some entry → queue.entries.lookup id = some entry := by
  induction ids generalizing queue with
  | nil =>
    obtain rfl := Option.some.inj ran
    exact ⟨rfl,rfl,rfl,rfl,fun _ _ => id⟩
  | cons first rest ih =>
    rw [List.foldlM_cons] at ran
    obtain ⟨next,forgot,later⟩ := Option.bind_eq_some_iff.mp ran
    obtain ⟨entry,found,same⟩ := Option.bind_eq_some_iff.mp forgot
    obtain rfl := Option.some.inj same
    obtain ⟨lanes,classServed,classClock,laneClock,entries⟩ := ih later
    refine ⟨lanes,classServed,classClock,laneClock,fun id held listed => ?_⟩
    have kept := entries id held listed
    simp only [lookup_erase] at kept
    split at kept
    · cases kept
    · exact kept

/-- A discard takes a lane away, and the clocks catch up. -/
structure Drops (queue : DeliveryQueue T) (terminalId : String) (middle : DeliveryQueue T) : Prop where
  own : middle.standing terminalId = none
  others : ∀ other, other ≠ terminalId → middle.standing other = queue.standing other
  classServed : middle.classServed = queue.classServed
  classClock : middle.classClock = queue.classClock
  laneClock : middle.laneClock = queue.laneClock
  active : queue.AllActive → middle.AllActive
  entries : ∀ id entry, middle.entries.lookup id = some entry → queue.entries.lookup id = some entry

theorem discardTerminal_schedule (indexed : queue.Indexed) (terminalId : String) :
    ∃ middle, queue.discardTerminal terminalId = some middle.refreshClocks ∧ middle.refreshClocks.Indexed ∧
      queue.Drops terminalId middle := by
  obtain ⟨after,ran,-,kept⟩ := discardTerminal_spec indexed terminalId
  unfold discardTerminal at ran ⊢
  cases held : queue.lanes.lookup terminalId with
  | none =>
    simp only [held] at ran ⊢
    refine ⟨queue,rfl,?_,⟨by simp [standing,held],fun _ _ => rfl,rfl,rfl,rfl,id,fun _ _ => id⟩⟩
    rw [Option.some.inj ran]
    exact kept
  | some lane =>
    simp only [held] at ran ⊢
    obtain ⟨middle,forgot,rfl⟩ := Option.map_eq_some_iff.mp ran
    obtain ⟨lanes,classServed,classClock,laneClock,entries⟩ := forget_schedule _ forgot
    refine ⟨middle,ran,kept,⟨?_,fun other apart => ?_,classServed,classClock,laneClock,fun active other lane found => ?_,entries⟩⟩
    · simp [standing,lanes]
    · simp only [standing,lanes,lookup_erase,if_neg apart]
    · rw [lanes,lookup_erase] at found
      split at found
      · cases found
      · exact active other lane found

/-! ### Deliveries -/

/-- A delivery is charged to its lane and to the class of the lane; an emptied lane goes. -/
structure Serves (queue : DeliveryQueue T) (terminalId : String) (lane : Lane) (cost : Nat) (middle : DeliveryQueue T) :
    Prop where
  own : middle.standing terminalId = none ∨ middle.standing terminalId =
    some (lane.priority,saturatingAdd u128Max (max lane.served (queue.laneClock lane.priority)) cost)
  others : ∀ other, other ≠ terminalId → middle.standing other = queue.standing other
  classServed : middle.classServed = Function.update queue.classServed lane.priority
    (saturatingAdd u128Max (max (queue.classServed lane.priority) queue.classClock) (min (cost * weight lane.priority) u128Max))
  classClock : middle.classClock = queue.classClock
  laneClock : middle.laneClock = queue.laneClock
  active : queue.AllActive → middle.AllActive
  entries : ∀ id entry, middle.entries.lookup id = some entry → queue.entries.lookup id = some entry

theorem serve_schedule (queue : DeliveryQueue T) (terminalId : String) (lane : Lane) (cost : Nat) :
    ∃ middle, queue.serve terminalId lane cost = middle.refreshClocks ∧ queue.Serves terminalId lane cost middle := by
  refine ⟨_,rfl,?_,fun other apart => ?_,rfl,rfl,rfl,fun active other found held => ?_,fun _ _ => id⟩
  · simp only [standing]
    split
    · exact .inr (by rw [lookup_insert,if_pos rfl]; rfl)
    · exact .inl (by rw [lookup_erase,if_pos rfl]; rfl)
  · simp only [standing]
    split
    · rw [lookup_insert,if_neg apart]
    · rw [lookup_erase,if_neg apart]
  · simp only at held
    split at held
    · next awake =>
      rw [lookup_insert] at held
      split at held
      · obtain rfl := Option.some.inj held
        exact awake
      · exact active other found held
    · rw [lookup_erase] at held
      split at held
      · cases held
      · exact active other found held

theorem pop_schedule (indexed : queue.Indexed) (active : queue.AllActive) :
    queue.pop = some (none,queue) ∧ (∀ terminalId, queue.standing terminalId = none) ∨
      ∃ terminalId lane delivery middle, queue.selectLane = some terminalId ∧ queue.lanes.lookup terminalId = some lane ∧
        queue.pop = some (some delivery,middle.refreshClocks) ∧ middle.refreshClocks.Indexed ∧
        queue.Serves terminalId lane delivery.cost middle ∧
        (delivery.cost = 256 ∨ ∃ id entry, queue.entries.lookup id = some entry ∧ delivery.cost = max entry.bytes 1) := by
  obtain ⟨reply,after,popped,-,kept⟩ := pop_spec indexed
  unfold pop at popped ⊢
  cases selected : queue.selectLane with
  | none =>
    refine .inl ⟨rfl,fun terminalId => ?_⟩
    simp [standing,selectLane_none selected active terminalId]
  | some terminalId =>
    obtain ⟨lane,held,-⟩ := selectLane_some selected
    simp only [selected,held,Option.bind_eq_bind,Option.bind_some] at popped
    refine .inr ⟨terminalId,lane,?_⟩
    cases gaps : lane.gaps with
    | cons range rest =>
      simp only [gaps] at popped
      obtain ⟨rfl,rfl⟩ := Prod.mk.inj (Option.some.inj popped)
      obtain ⟨middle,refreshed,own,others,classServed,classClock,laneClock,awake,entries⟩ :=
        serve_schedule { queue with gapCount := queue.gapCount - 1 } terminalId { lane with gaps := rest } 256
      have ends : queue.popGap terminalId lane rest = middle.refreshClocks := refreshed
      rw [ends] at kept
      refine ⟨.gap terminalId range,middle,rfl,held,?_,kept,⟨own,others,classServed,classClock,laneClock,awake,entries⟩,.inl rfl⟩
      simp [held,gaps,ends]
    | nil =>
      simp only [gaps] at popped
      obtain ⟨id,oldest,popped⟩ := Option.bind_eq_some_iff.mp popped
      obtain ⟨entry,found,popped⟩ := Option.bind_eq_some_iff.mp popped
      obtain ⟨rfl,rfl⟩ := Prod.mk.inj (Option.some.inj popped)
      obtain ⟨middle,refreshed,own,others,classServed,classClock,laneClock,awake,entries⟩ :=
        serve_schedule { queue with
          entries := queue.entries.erase id
          evictable := queue.evictable.erase id
          bytes := queue.bytes - entry.bytes } terminalId { lane with ids := lane.ids.erase id } (max entry.bytes 1)
      have ends : queue.popFrame id entry terminalId lane = middle.refreshClocks := refreshed
      rw [ends] at kept
      refine ⟨.frame entry.payload entry.bytes,middle,rfl,held,?_,kept,
        ⟨own,others,classServed,classClock,laneClock,awake,fun other held' found' => ?_⟩,.inr ⟨id,entry,found,rfl⟩⟩
      · simp [held,gaps,oldest,found,ends]
      · have erased := entries other held' found'
        simp only [lookup_erase] at erased
        split at erased
        · cases erased
        · exact erased

/-! ### New priorities -/

/-- The class and the service of a lane under its terminal's priority. -/
def reprioritized (queue : DeliveryQueue T) (priority : String → Priority) (terminalId : String) (stands : Priority × Nat) :
    Priority × Nat :=
  if stands.1 = priority terminalId then stands else (priority terminalId,queue.laneClock (priority terminalId))

def Moves (queue : DeliveryQueue T) (priority : String → Priority) : Prop :=
  ∃ terminalId class_ served, queue.standing terminalId = some (class_,served) ∧ class_ ≠ priority terminalId

/-- Lanes that change their class start at its clock, and lift it to the class they leave. -/
structure Reprioritizes (queue : DeliveryQueue T) (priority : String → Priority) (middle : DeliveryQueue T) : Prop where
  standing : ∀ terminalId, middle.standing terminalId = (queue.standing terminalId).map (queue.reprioritized priority terminalId)
  grows : ∀ class_, queue.classServed class_ ≤ middle.classServed class_
  bounded : ∀ bound, (∀ class_, queue.classServed class_ ≤ bound) → queue.classClock ≤ bound →
    ∀ class_, middle.classServed class_ ≤ bound
  lifted : ∀ class_, middle.Busy class_ → queue.classClock ≤ middle.classServed class_
  unmoved : ¬queue.Moves priority → ∀ class_, middle.classServed class_ ≤ max (queue.classServed class_) queue.classClock
  classClock : middle.classClock = queue.classClock
  laneClock : middle.laneClock = queue.laneClock
  active : queue.AllActive → middle.AllActive
  entries : middle.entries = queue.entries

section Fold
variable (classClock : Nat) (priority : String → Priority)

variable (served : Priority → Nat) (entry : String × Lane)

theorem reprioritizeClass_grows (class_ : Priority) :
    served class_ ≤ reprioritizeClass classClock priority served entry class_ := by
  unfold reprioritizeClass
  split
  all_goals
    simp only [Function.update_apply]
    repeat' split
    all_goals simp_all

theorem reprioritizeClass_own : classClock ≤ reprioritizeClass classClock priority served entry (priority entry.1) := by
  simp [reprioritizeClass]

theorem reprioritizeClass_bounded {served : Priority → Nat} {bound : Nat} (below : ∀ class_, served class_ ≤ bound)
    (clock : classClock ≤ bound) (entry : String × Lane) (class_ : Priority) :
    reprioritizeClass classClock priority served entry class_ ≤ bound := by
  have here := below class_
  have origin := below entry.2.priority
  have next := below (priority entry.1)
  unfold reprioritizeClass
  split
  all_goals
    simp only [Function.update_apply]
    repeat' split
    all_goals omega

variable (entries : List (String × Lane))

theorem foldl_reprioritize (served : Priority → Nat) :
    (∀ class_, served class_ ≤ entries.foldl (reprioritizeClass classClock priority) served class_) ∧
      ∀ entry ∈ entries, classClock ≤ entries.foldl (reprioritizeClass classClock priority) served (priority entry.1) := by
  induction entries generalizing served with
  | nil => exact ⟨fun _ => Nat.le_refl _,nofun⟩
  | cons entry rest ih =>
    obtain ⟨grows,lifted⟩ := ih (reprioritizeClass classClock priority served entry)
    rw [List.foldl_cons]
    refine ⟨fun class_ => Nat.le_trans (reprioritizeClass_grows ..) (grows class_),fun other member => ?_⟩
    obtain rfl | member := List.mem_cons.mp member
    · exact Nat.le_trans (reprioritizeClass_own ..) (grows _)
    · exact lifted other member

theorem foldl_reprioritize_bounded {served : Priority → Nat} {bound : Nat} (below : ∀ class_, served class_ ≤ bound)
    (clock : classClock ≤ bound) (class_ : Priority) :
    entries.foldl (reprioritizeClass classClock priority) served class_ ≤ bound := by
  induction entries generalizing served with
  | nil => exact below class_
  | cons entry rest ih => exact ih (reprioritizeClass_bounded classClock priority below clock entry)

theorem foldl_reprioritize_unmoved {entries : List (String × Lane)} (stay : ∀ entry ∈ entries, entry.2.priority = priority entry.1)
    (served : Priority → Nat) (class_ : Priority) :
    entries.foldl (reprioritizeClass classClock priority) served class_ ≤ max (served class_) classClock := by
  induction entries generalizing served with
  | nil => exact Nat.le_max_left _ _
  | cons entry rest ih =>
    have later := ih (fun other member => stay other (List.mem_cons_of_mem entry member))
      (reprioritizeClass classClock priority served entry)
    have here : reprioritizeClass classClock priority served entry class_ ≤ max (served class_) classClock := by
      rw [reprioritizeClass,if_pos (stay entry List.mem_cons_self),Function.update_apply]
      split
      · next same => rw [same]
      · exact Nat.le_max_left _ _
    rw [List.foldl_cons]
    omega

end Fold

theorem updatePriorities_schedule (queue : DeliveryQueue T) (priority : String → Priority) :
    ∃ middle, queue.updatePriorities priority = middle.refreshClocks ∧ queue.Reprioritizes priority middle := by
  obtain ⟨grows,lifted⟩ := foldl_reprioritize queue.classClock priority queue.lanesInOrder queue.classServed
  have standing (terminalId : String) :
      (mapValues (fun id lane => Lane.reprioritize lane (priority id) queue.laneClock) queue.lanes).lookup terminalId =
        (queue.lanes.lookup terminalId).map fun lane => Lane.reprioritize lane (priority terminalId) queue.laneClock :=
    lookup_mapValues ..
  refine ⟨_,rfl,fun terminalId => ?_,grows,?_,fun class_ busy => ?_,fun unmoved class_ => ?_,rfl,rfl,
    fun active terminalId lane held => ?_,rfl⟩
  · simp only [DeliveryQueue.standing,standing]
    cases held : queue.lanes.lookup terminalId with
    | none => rfl
    | some lane =>
      simp only [Option.map_some,Lane.reprioritize,reprioritized,Lane.standing]
      split <;> rfl
  · exact fun bound below clock class_ => foldl_reprioritize_bounded queue.classClock priority _ below clock class_
  · obtain ⟨terminalId,served,stands⟩ := busy
    simp only [DeliveryQueue.standing,standing] at stands
    obtain ⟨lane,held,same⟩ := Option.map_eq_some_iff.mp stands
    obtain ⟨old,found,rfl⟩ := Option.map_eq_some_iff.mp held
    have class_ : class_ = priority terminalId := by
      have own := congrArg (·.1) same
      simp only [Lane.standing,Lane.reprioritize] at own
      split at own
      · next stays => exact own.symm.trans stays
      · exact own.symm
    rw [class_]
    exact lifted (terminalId,old) (mem_lanesInOrder.mpr found)
  · refine foldl_reprioritize_unmoved queue.classClock priority (fun entry member => ?_) queue.classServed class_
    by_contra moved
    exact unmoved ⟨entry.1,entry.2.priority,entry.2.served,standing_of_lookup (mem_lanesInOrder.mp member),moved⟩
  · rw [standing] at held
    obtain ⟨old,found,rfl⟩ := Option.map_eq_some_iff.mp held
    have awake := active terminalId old found
    unfold Lane.active at awake ⊢
    rw [reprioritize_ids,reprioritize_gaps]
    exact awake

end DeliveryQueue
end Freshell.Connection
