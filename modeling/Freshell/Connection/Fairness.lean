import Freshell.Connection.Schedule
import Freshell.Library.Amortized
import Mathlib.Tactic.Linarith
import Mathlib.Tactic.Qify
import Mathlib.Tactic.Ring

/-!
Fair service of the delivery queue. The counters of the classes stay within one
service of their clock, but for the deliveries that left nothing queued, which
the clock does not follow; the counters of the lanes of a class stay within one
service of theirs. So busy classes are served by their shares, and a lane waits
only while the lanes and classes ahead of it catch up.
-/
namespace Freshell.Connection
open Freshell.Library.VirtualClock Freshell.Library.Runs

/-- The queue with what was charged so far: to each class, and to deliveries that left nothing queued. -/
structure Meter (T : Type) where
  queue : DeliveryQueue T
  served : Priority → Nat
  drained : Nat

def Op.Within {T : Type} (most : Nat) : Op T → Prop
  | .push _ entry => entry.bytes ≤ most
  | _ => True

def Op.isPop {T : Type} : Op T → Bool
  | .pop => true
  | _ => false

def DeliveryQueue.servedClass {T : Type} (queue : DeliveryQueue T) : Option Priority :=
  (queue.selectLane.bind queue.lanes.lookup).map (·.priority)

namespace Meter
variable {T : Type} {meter : Meter T} {most slack spent : Nat} {queue middle : DeliveryQueue T}

def new (byteLimit metadataLimit : Nat) : Meter T := ⟨.new byteLimit metadataLimit,fun _ => 0,0⟩

def total (meter : Meter T) : Nat := meter.served .focused + meter.served .visible + meter.served .background

def charge (meter : Meter T) (after : DeliveryQueue T) (class_ : Priority) (cost : Nat) : Meter T where
  queue := after
  served := Function.update meter.served class_ (meter.served class_ + cost)
  drained := if after.hasPending then meter.drained else meter.drained + cost

def step (meter : Meter T) (op : Op T) : Meter T :=
  match meter.queue.call op with
  | none => meter
  | some (reply,after) =>
    match reply,meter.queue.servedClass with
    | .popped (some delivery),some class_ => meter.charge after class_ delivery.cost
    | _,_ => { meter with queue := after }

/-! ### What a call does -/

inductive Acts (meter : Meter T) : Op T → Meter T → Prop where
  | idle {op : Op T} {after : DeliveryQueue T} (same : meter.queue.SameSchedule after)
      (empty : op.isPop = true → ∀ terminalId, meter.queue.standing terminalId = none) :
      Acts meter op { meter with queue := after }
  | admits {priority : Priority} {entry : Entry T} {after : DeliveryQueue T}
      (admits : meter.queue.Admits priority entry after) : Acts meter (.push priority entry) { meter with queue := after }
  | drops {terminalId : String} {middle : DeliveryQueue T} (drops : meter.queue.Drops terminalId middle) :
      Acts meter (.discardTerminal terminalId) { meter with queue := middle.refreshClocks }
  | reprioritizes {priority : String → Priority} {middle : DeliveryQueue T}
      (reprioritizes : meter.queue.Reprioritizes priority middle) :
      Acts meter (.updatePriorities priority) { meter with queue := middle.refreshClocks }
  | serves {terminalId : String} {lane : Lane} {delivery : Delivery T} {middle : DeliveryQueue T}
      (selected : meter.queue.selectLane = some terminalId) (held : meter.queue.lanes.lookup terminalId = some lane)
      (serves : meter.queue.Serves terminalId lane delivery.cost middle)
      (size : delivery.cost = 256 ∨
        ∃ id entry, meter.queue.entries.lookup id = some entry ∧ delivery.cost = max entry.bytes 1) :
      Acts meter .pop (meter.charge middle.refreshClocks lane.priority delivery.cost)

theorem step_acts (indexed : meter.queue.Indexed) (active : meter.queue.AllActive) (op : Op T) :
    meter.Acts op (meter.step op) ∧ (meter.step op).queue.Indexed := by
  have quiet : ∀ after reply, meter.queue.call op = some (reply,after) → (∀ delivery, reply ≠ .popped (some delivery)) →
      meter.step op = { meter with queue := after } := by
    intro after reply called silent
    unfold step
    rw [called]
    simp only
    split
    · next delivery _ _ => exact absurd rfl (silent delivery)
    · rfl
  cases op with
  | push priority entry =>
    obtain ⟨result,after,pushed,kept,effect⟩ := DeliveryQueue.push_schedule indexed priority entry
    rw [quiet after (.pushed result) (by simp [DeliveryQueue.call,pushed]) (by simp)]
    refine ⟨?_,kept⟩
    obtain rfl | admits := effect
    · exact .idle (.refl _) (by simp [Op.isPop])
    · exact .admits admits
  | pop =>
    obtain ⟨popped,empty⟩ | ⟨terminalId,lane,delivery,middle,selected,held,popped,kept,serves,size⟩ :=
      DeliveryQueue.pop_schedule indexed active
    · rw [quiet meter.queue (.popped none) (by simp [DeliveryQueue.call,popped]) (by simp)]
      exact ⟨.idle (.refl _) fun _ => empty,indexed⟩
    · have charged : meter.step .pop = meter.charge middle.refreshClocks lane.priority delivery.cost := by
        simp [step,DeliveryQueue.call,popped,DeliveryQueue.servedClass,selected,held]
      rw [charged]
      exact ⟨.serves selected held serves size,kept⟩
  | updatePriorities priority =>
    obtain ⟨middle,updated,effect⟩ := DeliveryQueue.updatePriorities_schedule meter.queue priority
    rw [quiet _ .done rfl (by simp),updated]
    refine ⟨.reprioritizes effect,?_⟩
    rw [← updated]
    exact DeliveryQueue.updatePriorities_indexed indexed priority
  | discardTerminal terminalId =>
    obtain ⟨middle,discarded,kept,effect⟩ := DeliveryQueue.discardTerminal_schedule indexed terminalId
    rw [quiet middle.refreshClocks .done (by simp [DeliveryQueue.call,discarded]) (by simp)]
    exact ⟨.drops effect,kept⟩
  | setReservedBytes bytes =>
    rw [quiet _ .done rfl (by simp)]
    exact ⟨.idle ⟨fun _ => rfl,rfl,rfl,rfl,id,fun _ _ => id⟩ (by simp [Op.isPop]),⟨indexed.bytes,indexed.evictable,indexed.fresh⟩,
      indexed.lanes,indexed.gaps⟩
  | takeEvictions =>
    rw [quiet _ (.evicted _) rfl (by simp)]
    exact ⟨.idle ⟨fun _ => rfl,rfl,rfl,rfl,id,fun _ _ => id⟩ (by simp [Op.isPop]),⟨indexed.bytes,indexed.evictable,indexed.fresh⟩,
      indexed.lanes,indexed.gaps⟩

end Meter

/-! ### The counters and their clocks -/

/-- The counters of the busy classes and of the lanes follow their clocks, and no counter has saturated. -/
structure Synced {T : Type} (most slack spent : Nat) (queue : DeliveryQueue T) : Prop where
  active : queue.AllActive
  small : ∀ id entry, queue.entries.lookup id = some entry → entry.bytes ≤ most
  classes : Synchronous queue.Busy (fun _ => True) queue.classServed queue.classClock slack
  lanes : ∀ class_, Synchronous (queue.InClass class_) (queue.InClass class_) queue.laneServed (queue.laneClock class_) most
  classSpent : ∀ class_, queue.classServed class_ ≤ 24 * spent
  clockSpent : queue.classClock ≤ 24 * spent
  laneSpent : ∀ terminalId, queue.laneServed terminalId ≤ spent
  laneClockSpent : ∀ class_, queue.laneClock class_ ≤ spent

section
variable {T : Type} {queue after middle : DeliveryQueue T} {most slack spent : Nat}

theorem synced_new (byteLimit metadataLimit most slack spent : Nat) :
    Synced most slack spent (.new byteLimit metadataLimit : DeliveryQueue T) where
  active terminalId lane held := by simp [DeliveryQueue.new] at held
  small id entry held := by simp [DeliveryQueue.new] at held
  classes := ⟨fun _ _ => Nat.zero_le _,fun _ _ => Nat.zero_le _⟩
  lanes class_ := ⟨fun _ _ => Nat.zero_le _,fun _ ⟨_,stands⟩ => by simp [DeliveryQueue.standing,DeliveryQueue.new] at stands⟩
  classSpent _ := Nat.zero_le _
  clockSpent := Nat.zero_le _
  laneSpent terminalId := by simp [DeliveryQueue.laneServed,DeliveryQueue.standing,DeliveryQueue.new]
  laneClockSpent _ := Nat.zero_le _

theorem Synced.refresh (synced : Synced most slack spent middle) (room : spent ≤ u128Max) :
    Synced most slack spent middle.refreshClocks where
  active := synced.active
  small := synced.small
  classes := synced.classes.refresh (DeliveryQueue.classClock_refresh synced.active)
  lanes class_ := (synced.lanes class_).refresh
    (DeliveryQueue.laneClock_refresh synced.active class_ fun id => Nat.le_trans (synced.laneSpent id) room)
  classSpent := synced.classSpent
  clockSpent := (DeliveryQueue.classClock_refresh synced.active).le synced.classSpent synced.clockSpent
  laneSpent := synced.laneSpent
  laneClockSpent class_ := (DeliveryQueue.laneClock_refresh synced.active class_ fun id =>
    Nat.le_trans (synced.laneSpent id) room).le synced.laneSpent (synced.laneClockSpent class_)

theorem Synced.lanes_of (synced : Synced most slack spent queue)
    (stands : ∀ terminalId class_ served, middle.standing terminalId = some (class_,served) →
      queue.standing terminalId = some (class_,served) ∨ served = queue.laneClock class_) (class_ : Priority) :
    Synchronous (middle.InClass class_) (middle.InClass class_) middle.laneServed (queue.laneClock class_) most := by
  apply (synced.lanes class_).change
  all_goals
    rintro terminalId ⟨served,found⟩
    rw [DeliveryQueue.laneServed_of_standing found]
    obtain same | starts := stands terminalId class_ served found
    · exact .inl ⟨⟨served,same⟩,(DeliveryQueue.laneServed_of_standing same).symm⟩
    · exact .inr (by omega)

theorem Synced.laneSpent_of (synced : Synced most slack spent queue)
    (stands : ∀ terminalId class_ served, middle.standing terminalId = some (class_,served) →
      queue.standing terminalId = some (class_,served) ∨ served = queue.laneClock class_) (terminalId : String) :
    middle.laneServed terminalId ≤ spent := by
  cases found : middle.standing terminalId with
  | none => simp [DeliveryQueue.laneServed,found]
  | some stands_ =>
    obtain ⟨class_,served⟩ := stands_
    rw [DeliveryQueue.laneServed_of_standing found]
    obtain same | starts := stands terminalId class_ served found
    · rw [← DeliveryQueue.laneServed_of_standing same]
      exact synced.laneSpent terminalId
    · rw [starts]
      exact synced.laneClockSpent class_

theorem Synced.same (synced : Synced most slack spent queue) (same : queue.SameSchedule after) :
    Synced most slack spent after := by
  have standing : after.standing = queue.standing := funext same.standing
  have served : after.laneServed = queue.laneServed := by
    funext terminalId
    simp only [DeliveryQueue.laneServed,standing]
  have inClass : after.InClass = queue.InClass := by
    funext class_ terminalId
    simp only [DeliveryQueue.InClass,standing]
  have busy : after.Busy = queue.Busy := by
    funext class_
    simp only [DeliveryQueue.Busy,inClass]
  obtain ⟨active,small,classes,lanes,classSpent,clockSpent,laneSpent,laneClockSpent⟩ := synced
  refine ⟨same.active active,fun id entry held => small id entry (same.entries id entry held),?_,?_,?_,?_,?_,?_⟩
  · rw [busy,same.classServed,same.classClock]
    exact classes
  · rw [inClass,served,same.laneClock]
    exact lanes
  · rw [same.classServed]
    exact classSpent
  · rw [same.classClock]
    exact clockSpent
  · rw [served]
    exact laneSpent
  · rw [same.laneClock]
    exact laneClockSpent

theorem Synced.admits {priority : Priority} {entry : Entry T} (synced : Synced most slack spent queue)
    (admits : queue.Admits priority entry after) (size : entry.bytes ≤ most) : Synced most slack spent after := by
  have stands : ∀ terminalId class_ served, after.standing terminalId = some (class_,served) →
      queue.standing terminalId = some (class_,served) ∨ class_ = priority ∧ served = queue.laneClock class_ := by
    intro terminalId class_ served found
    by_cases own : terminalId = entry.terminalId
    · subst own
      rw [admits.own] at found
      cases held : queue.standing entry.terminalId with
      | some stands =>
        rw [held] at found
        exact .inl found
      | none =>
        rw [held] at found
        obtain ⟨rfl,rfl⟩ := Prod.mk.inj (Option.some.inj found)
        exact .inr ⟨rfl,rfl⟩
    · rw [admits.others terminalId own] at found
      exact .inl found
  have lanes := fun id class_ served found => (stands id class_ served found).imp_right And.right
  have lifted : ∀ class_, after.classServed class_ = queue.classServed class_ ∧ class_ ≠ priority ∨
      class_ = priority ∧ after.classServed class_ = max (queue.classServed class_) queue.classClock := by
    intro class_
    rw [admits.classServed]
    by_cases same : class_ = priority
    · subst same
      exact .inr ⟨rfl,by rw [Function.update_self]⟩
    · exact .inl ⟨by rw [Function.update_of_ne same],same⟩
  constructor
  case active => exact admits.active synced.active
  case small =>
    intro id held found
    obtain rfl | old := admits.entries id held found
    · exact size
    · exact synced.small id held old
  case classes =>
    rw [admits.classClock]
    refine synced.classes.change (fun class_ busy => ?_) fun class_ _ => ?_
    · obtain ⟨same,other⟩ | ⟨-,same⟩ := lifted class_
      · obtain ⟨terminalId,served,found⟩ := busy
        obtain old | ⟨rfl,-⟩ := stands terminalId class_ served found
        · exact .inl ⟨⟨terminalId,served,old⟩,same⟩
        · exact absurd rfl other
      · exact .inr (by omega)
    · obtain ⟨same,-⟩ | ⟨-,same⟩ := lifted class_
      · exact .inl ⟨trivial,same⟩
      · have := synced.classes.near class_ trivial
        exact .inr (by omega)
  case lanes =>
    intro class_
    rw [admits.laneClock]
    exact synced.lanes_of lanes class_
  case classSpent =>
    intro class_
    have := synced.classSpent class_
    have := synced.clockSpent
    obtain ⟨same,-⟩ | ⟨-,same⟩ := lifted class_ <;> omega
  case clockSpent => exact admits.classClock ▸ synced.clockSpent
  case laneSpent => exact synced.laneSpent_of lanes
  case laneClockSpent => exact admits.laneClock ▸ synced.laneClockSpent

theorem Synced.drops {terminalId : String} (synced : Synced most slack spent queue) (drops : queue.Drops terminalId middle) :
    Synced most slack spent middle := by
  have stands : ∀ other class_ served, middle.standing other = some (class_,served) →
      queue.standing other = some (class_,served) := by
    intro other class_ served found
    by_cases own : other = terminalId
    · rw [own,drops.own] at found
      cases found
    · rwa [drops.others other own] at found
  have lanes := fun id class_ served found => Or.inl (b := served = queue.laneClock class_) (stands id class_ served found)
  constructor
  case active => exact drops.active synced.active
  case small => exact fun id entry found => synced.small id entry (drops.entries id entry found)
  case classes =>
    rw [drops.classServed,drops.classClock]
    refine synced.classes.change (fun class_ ⟨other,served,found⟩ => .inl ⟨⟨other,served,?_⟩,rfl⟩) fun _ _ => .inl ⟨trivial,rfl⟩
    exact stands other class_ served found
  case lanes =>
    intro class_
    rw [drops.laneClock]
    exact synced.lanes_of lanes class_
  case classSpent => exact drops.classServed ▸ synced.classSpent
  case clockSpent => exact drops.classClock ▸ synced.clockSpent
  case laneSpent => exact synced.laneSpent_of lanes
  case laneClockSpent => exact drops.laneClock ▸ synced.laneClockSpent

theorem Synced.reprioritizes {priority : String → Priority} (synced : Synced most slack spent queue)
    (moved : queue.Reprioritizes priority middle) : Synced most slack spent middle := by
  have lanes : ∀ terminalId class_ served, middle.standing terminalId = some (class_,served) →
      queue.standing terminalId = some (class_,served) ∨ served = queue.laneClock class_ := by
    intro terminalId class_ served found
    rw [moved.standing] at found
    obtain ⟨⟨origin,old⟩,held,same⟩ := Option.map_eq_some_iff.mp found
    unfold DeliveryQueue.reprioritized at same
    split at same
    · rw [same] at held
      exact .inl held
    · obtain ⟨rfl,rfl⟩ := Prod.mk.inj same
      exact .inr rfl
  constructor
  case active => exact moved.active synced.active
  case small => exact moved.entries ▸ synced.small
  case classes =>
    rw [moved.classClock]
    refine synced.classes.change (fun class_ busy => .inr (moved.lifted class_ busy)) fun class_ _ => .inr ?_
    exact moved.bounded _ (fun class_ => synced.classes.near class_ trivial) (Nat.le_add_right _ _) class_
  case lanes =>
    intro class_
    rw [moved.laneClock]
    exact synced.lanes_of lanes class_
  case classSpent => exact moved.bounded _ synced.classSpent synced.clockSpent
  case clockSpent => exact moved.classClock ▸ synced.clockSpent
  case laneSpent => exact synced.laneSpent_of lanes
  case laneClockSpent => exact moved.laneClock ▸ synced.laneClockSpent

/-! ### The charge of a delivery -/

theorem weight_le (class_ : Priority) : 3 ≤ weight class_ ∧ weight class_ ≤ 24 := by
  cases class_ <;> decide

theorem Synced.cost_le {cost : Nat} (synced : Synced most slack spent queue) (gaps : 256 ≤ most)
    (size : cost = 256 ∨ ∃ id entry, queue.entries.lookup id = some entry ∧ cost = max entry.bytes 1) :
    0 < cost ∧ cost ≤ most := by
  obtain same | ⟨id,entry,found,same⟩ := size
  · omega
  · have := synced.small id entry found
    omega

structure Charged (queue : DeliveryQueue T) (terminalId : String) (lane : Lane) (cost : Nat) (middle : DeliveryQueue T) :
    Prop where
  leastClass : ∀ class_, queue.Busy class_ → queue.classServed lane.priority ≤ queue.classServed class_
  leastLane : ∀ other, queue.InClass lane.priority other → lane.served ≤ queue.laneServed other
  own : middle.standing terminalId = none ∨ middle.standing terminalId = some (lane.priority,lane.served + cost)
  ownClass : middle.classServed lane.priority = queue.classServed lane.priority + cost * weight lane.priority
  otherClasses : ∀ class_, class_ ≠ lane.priority → middle.classServed class_ = queue.classServed class_

theorem Synced.charged {terminalId : String} {lane : Lane} {cost : Nat} (synced : Synced most slack spent queue)
    (selected : queue.selectLane = some terminalId) (held : queue.lanes.lookup terminalId = some lane)
    (serves : queue.Serves terminalId lane cost middle) (room : 24 * (spent + cost) ≤ u128Max) :
    Charged queue terminalId lane cost middle := by
  have stands := DeliveryQueue.standing_of_lookup held
  have aheadClass := fun class_ busy => synced.classes.ahead class_ busy
  have aheadLane := fun class_ other inClass => (synced.lanes class_).ahead other inClass
  have ownBusy : queue.Busy lane.priority := ⟨terminalId,lane.served,stands⟩
  have ownServed := DeliveryQueue.laneServed_of_standing stands
  have ownAhead := aheadLane lane.priority terminalId ⟨lane.served,stands⟩
  have ownClock := aheadClass lane.priority ownBusy
  obtain ⟨least,found,-,keys⟩ := DeliveryQueue.selectLane_least selected
  obtain rfl := Option.some.inj (held.symm.trans found)
  rw [ownServed] at ownAhead
  have room' := synced.classSpent lane.priority
  have laneRoom := synced.laneSpent terminalId
  rw [ownServed] at laneRoom
  have weights := (weight_le lane.priority).2
  have weighed : cost * weight lane.priority ≤ cost * 24 := Nat.mul_le_mul_left cost weights
  constructor
  case leastClass =>
    rintro class_ ⟨other,served,there⟩
    obtain ⟨lane',held',same⟩ := Option.map_eq_some_iff.mp there
    obtain ⟨rfl,rfl⟩ := Prod.mk.inj same
    have key := (DeliveryQueue.serviceKey_le (keys other lane' held' (synced.active other lane' held'))).1
    have := aheadClass lane'.priority ⟨other,lane'.served,there⟩
    simp only at key
    omega
  case leastLane =>
    rintro other ⟨served,there⟩
    obtain ⟨lane',held',same⟩ := Option.map_eq_some_iff.mp there
    obtain ⟨sameClass,rfl⟩ := Prod.mk.inj same
    have key := (DeliveryQueue.serviceKey_le (keys other lane' held' (synced.active other lane' held'))).2 sameClass.symm
    have := aheadLane lane.priority other ⟨lane'.served,there⟩
    rw [DeliveryQueue.laneServed_of_standing there] at this ⊢
    simp only [sameClass] at key
    omega
  case own =>
    have exactly : saturatingAdd u128Max (max lane.served (queue.laneClock lane.priority)) cost = lane.served + cost := by
      unfold saturatingAdd
      omega
    rw [← exactly]
    exact serves.own
  case ownClass =>
    rw [serves.classServed,Function.update_self]
    unfold saturatingAdd
    omega
  case otherClasses =>
    intro class_ other
    rw [serves.classServed,Function.update_of_ne other]

theorem Charged.stands {terminalId : String} {lane : Lane} {cost : Nat} (charged : Charged queue terminalId lane cost middle)
    (serves : queue.Serves terminalId lane cost middle) {other : String} {class_ : Priority} {served : Nat}
    (found : middle.standing other = some (class_,served)) :
    other ≠ terminalId ∧ queue.standing other = some (class_,served) ∨
      other = terminalId ∧ class_ = lane.priority ∧ served = lane.served + cost := by
  by_cases same : other = terminalId
  · subst same
    obtain gone | stays := charged.own
    · rw [gone] at found
      cases found
    · obtain ⟨rfl,rfl⟩ := Prod.mk.inj (Option.some.inj (found.symm.trans stays))
      exact .inr ⟨rfl,rfl,rfl⟩
  · rw [serves.others other same] at found
    exact .inl ⟨same,found⟩

theorem Synced.serves {terminalId : String} {lane : Lane} {cost : Nat} (synced : Synced most slack spent queue)
    (selected : queue.selectLane = some terminalId) (held : queue.lanes.lookup terminalId = some lane)
    (serves : queue.Serves terminalId lane cost middle) (size : cost ≤ most) (wide : 24 * most ≤ slack)
    (room : 24 * (spent + cost) ≤ u128Max) (idle : Nat) (covers : (∃ class_, middle.Busy class_) ∨ 24 * cost ≤ idle) :
    Synced most (slack + idle) (spent + cost) middle.refreshClocks := by
  have charged := synced.charged selected held serves room
  have stands := DeliveryQueue.standing_of_lookup held
  have inClass : queue.InClass lane.priority terminalId := ⟨lane.served,stands⟩
  have ownServed := DeliveryQueue.laneServed_of_standing stands
  have active := serves.active synced.active
  have weighed : cost * weight lane.priority ≤ cost * 24 := Nat.mul_le_mul_left cost (weight_le lane.priority).2
  have stays : ∀ class_ other, middle.InClass class_ other → queue.InClass class_ other := by
    rintro class_ other ⟨served,found⟩
    obtain ⟨-,same⟩ | ⟨rfl,rfl,-⟩ := charged.stands serves found
    · exact ⟨served,same⟩
    · exact inClass
  have laneSpent : ∀ other, middle.laneServed other ≤ spent + cost := by
    intro other
    cases found : middle.standing other with
    | none => simp [DeliveryQueue.laneServed,found]
    | some stands_ =>
      rw [DeliveryQueue.laneServed_of_standing found]
      obtain ⟨-,same⟩ | ⟨-,-,same⟩ := charged.stands serves found
      · have := synced.laneSpent other
        rw [DeliveryQueue.laneServed_of_standing same] at this
        omega
      · have := synced.laneSpent terminalId
        omega
  have classSpent : ∀ class_, middle.classServed class_ ≤ 24 * (spent + cost) := by
    intro class_
    have := synced.classSpent class_
    by_cases own : class_ = lane.priority
    · rw [own] at this ⊢
      rw [charged.ownClass]
      omega
    · rw [charged.otherClasses class_ own]
      omega
  have classCatches := DeliveryQueue.classClock_refresh active
  have laneCatches := fun class_ => DeliveryQueue.laneClock_refresh active class_ fun id => Nat.le_trans (laneSpent id) (by omega)
  rw [serves.classClock] at classCatches
  rw [serves.laneClock] at laneCatches
  constructor
  case active => exact active
  case small => exact fun id entry found => synced.small id entry (serves.entries id entry found)
  case classes =>
    refine synced.classes.charge (cost * weight lane.priority) trivial charged.leastClass ?_ (fun _ _ => trivial)
      (fun _ _ => trivial) (fun _ => charged.ownClass) (fun class_ _ => charged.otherClasses class_) classCatches idle ?_
    · exact fun class_ busy => busy.imp fun other => stays class_ other
    · exact covers.imp (fun someone => ⟨someone,by omega⟩) fun all => by omega
  case lanes =>
    intro class_
    by_cases own : class_ = lane.priority
    · subst own
      by_cases someone : ∃ other, middle.InClass lane.priority other
      · refine (synced.lanes lane.priority).charge cost inClass ?_ (stays _) (fun _ => id) (stays _) ?_ ?_
          (laneCatches lane.priority) 0 (.inl ⟨someone,size⟩)
        · rw [ownServed]
          exact charged.leastLane
        · rintro ⟨served,found⟩
          rw [ownServed,DeliveryQueue.laneServed_of_standing found]
          obtain ⟨other,-⟩ | ⟨-,-,same⟩ := charged.stands serves found
          · exact absurd rfl other
          · exact same
        · rintro other ⟨served,found⟩ apart
          obtain ⟨-,same⟩ | ⟨same,-⟩ := charged.stands serves found
          · rw [DeliveryQueue.laneServed_of_standing found,DeliveryQueue.laneServed_of_standing same]
          · exact absurd same apart
      · exact ⟨fun other there => absurd ⟨other,there⟩ someone,fun other there => absurd ⟨other,there⟩ someone⟩
    · have unchanged : ∀ other, middle.InClass class_ other →
          queue.InClass class_ other ∧ middle.laneServed other = queue.laneServed other := by
        rintro other ⟨served,found⟩
        obtain ⟨-,same⟩ | ⟨-,there,-⟩ := charged.stands serves found
        · rw [DeliveryQueue.laneServed_of_standing found,DeliveryQueue.laneServed_of_standing same]
          exact ⟨⟨served,same⟩,rfl⟩
        · exact absurd there own
      exact ((synced.lanes class_).change (fun other there => .inl (unchanged other there))
        fun other there => .inl (unchanged other there)).refresh (laneCatches class_)
  case classSpent => exact classSpent
  case clockSpent =>
    refine classCatches.le classSpent ?_
    have := synced.clockSpent
    omega
  case laneSpent => exact laneSpent
  case laneClockSpent =>
    intro class_
    refine (laneCatches class_).le laneSpent ?_
    have := synced.laneClockSpent class_
    omega

end

/-! ### Runs -/

namespace Meter
variable {T : Type} {meter : Meter T} {most : Nat}

/-- The slack of the classes: one service, and the deliveries that the clock did not see. -/
def slack (most : Nat) (meter : Meter T) : Nat := 24 * (most + meter.drained)

structure Fair (most : Nat) (meter : Meter T) : Prop where
  indexed : meter.queue.Indexed
  synced : Synced most (meter.slack most) meter.total meter.queue

theorem fair_new (byteLimit metadataLimit most : Nat) : (new byteLimit metadataLimit : Meter T).Fair most :=
  ⟨DeliveryQueue.indexed_new byteLimit metadataLimit,synced_new ..⟩

@[simp] theorem total_charge (meter : Meter T) (after : DeliveryQueue T) (class_ : Priority) (cost : Nat) :
    (meter.charge after class_ cost).total = meter.total + cost := by
  cases class_ <;> simp [total,charge] <;> omega

theorem hasPending_iff {queue : DeliveryQueue T} (active : queue.AllActive) :
    queue.hasPending = true ↔ ∃ class_, queue.Busy class_ := by
  simp only [DeliveryQueue.hasPending,List.any_eq_true]
  constructor
  · rintro ⟨⟨terminalId,lane⟩,listed,-⟩
    exact ⟨lane.priority,terminalId,lane.served,DeliveryQueue.standing_of_lookup (AList.mem_lookup_iff.mpr listed)⟩
  · rintro ⟨class_,terminalId,served,stands⟩
    obtain ⟨lane,held,-⟩ := Option.map_eq_some_iff.mp stands
    exact ⟨⟨terminalId,lane⟩,AList.mem_lookup_iff.mp held,active terminalId lane held⟩

theorem step_grows (meter : Meter T) (op : Op T) :
    meter.total ≤ (meter.step op).total ∧ meter.drained ≤ (meter.step op).drained := by
  unfold step
  split
  · exact ⟨Nat.le_refl _,Nat.le_refl _⟩
  · split
    · rw [total_charge]
      refine ⟨Nat.le_add_right _ _,?_⟩
      simp only [charge]
      split <;> omega
    · exact ⟨Nat.le_refl _,Nat.le_refl _⟩

theorem run_grows (meter : Meter T) (ops : List (Op T)) :
    meter.total ≤ (run step meter ops).total ∧ meter.drained ≤ (run step meter ops).drained := by
  induction ops generalizing meter with
  | nil => exact ⟨Nat.le_refl _,Nat.le_refl _⟩
  | cons op rest ih =>
    have first := step_grows meter op
    have later := ih (meter.step op)
    rw [run_cons]
    omega

theorem Fair.step {op : Op T} (fair : meter.Fair most) (size : op.Within most) (gaps : 256 ≤ most)
    (room : 24 * (meter.step op).total ≤ u128Max) : (meter.step op).Fair most := by
  obtain ⟨acts,indexed⟩ := step_acts fair.indexed fair.synced.active op
  refine ⟨indexed,?_⟩
  have spent : meter.total ≤ u128Max := by
    have := (step_grows meter op).1
    omega
  generalize meter.step op = after at acts indexed room
  cases acts with
  | idle same => exact fair.synced.same same
  | admits admits => exact fair.synced.admits admits size
  | drops drops => exact (fair.synced.drops drops).refresh spent
  | reprioritizes moved => exact (fair.synced.reprioritizes moved).refresh spent
  | @serves terminalId lane delivery middle selected held serves cost =>
    rw [total_charge] at room ⊢
    have active := serves.active fair.synced.active
    have bounded := (fair.synced.cost_le gaps cost).2
    by_cases pending : middle.refreshClocks.hasPending = true
    · have drained : (meter.charge middle.refreshClocks lane.priority delivery.cost).slack most = meter.slack most + 0 := by
        simp [slack,charge,pending]
      rw [drained]
      exact fair.synced.serves selected held serves bounded (by unfold slack; omega) room 0
        (.inl ((hasPending_iff active).mp pending))
    · have drained : (meter.charge middle.refreshClocks lane.priority delivery.cost).slack most =
          meter.slack most + 24 * delivery.cost := by
        simp only [slack,charge,if_neg pending]
        omega
      rw [drained]
      exact fair.synced.serves selected held serves bounded (by unfold slack; omega) room _ (.inr (Nat.le_refl _))

theorem fair_run {ops : List (Op T)} (fair : meter.Fair most) (sizes : ∀ op ∈ ops, op.Within most) (gaps : 256 ≤ most)
    (room : 24 * (run Meter.step meter ops).total ≤ u128Max) : (run Meter.step meter ops).Fair most := by
  induction ops generalizing meter with
  | nil => exact fair
  | cons op rest ih =>
    have later := (run_grows (meter.step op) rest).1
    rw [run_cons] at room ⊢
    exact ih (fair.step (sizes op List.mem_cons_self) gaps (by omega)) (fun other mem => sizes other (List.mem_cons_of_mem op mem))
      room

theorem fair_front {ops part : List (Op T)} (fair : meter.Fair most) (sizes : ∀ op ∈ ops, op.Within most) (gaps : 256 ≤ most)
    (room : 24 * (run Meter.step meter ops).total ≤ u128Max) (front : part <+: ops) :
    (run Meter.step meter part).Fair most ∧ 24 * (run Meter.step meter part).total ≤ u128Max ∧
      (run Meter.step meter part).drained ≤ (run Meter.step meter ops).drained := by
  obtain ⟨rest,rfl⟩ := front
  have later := run_grows (run Meter.step meter part) rest
  rw [← run_append] at later
  have room' : 24 * (run Meter.step meter part).total ≤ u128Max := by omega
  exact ⟨fair_run fair (fun op mem => sizes op (List.mem_append_left rest mem)) gaps room',room',later.2⟩

/-! ### Classes -/

def Reassigns (meter : Meter T) : Op T → Prop
  | .updatePriorities priority => meter.queue.Moves priority
  | _ => False

theorem step_balance {op : Op T} {class_ : Priority} (fair : meter.Fair most) (room : 24 * (meter.step op).total ≤ u128Max)
    (busy : meter.queue.Busy class_) (still : ¬meter.Reassigns op) :
    (meter.step op).queue.classServed class_ + weight class_ * meter.served class_ =
      meter.queue.classServed class_ + weight class_ * (meter.step op).served class_ := by
  obtain ⟨acts,-⟩ := step_acts fair.indexed fair.synced.active op
  have clock := fair.synced.classes.ahead class_ busy
  generalize meter.step op = after at acts room
  cases acts with
  | idle same => rw [same.classServed]
  | admits admits =>
    simp only [admits.classServed,Function.update_apply]
    split
    · next own =>
      subst own
      rw [Nat.max_eq_left clock]
    · rfl
  | @drops terminalId middle drops =>
    show middle.classServed class_ + _ = _
    rw [drops.classServed]
  | @reprioritizes priority middle moved =>
    have grows := moved.grows class_
    have bound := moved.unmoved still class_
    show middle.classServed class_ + _ = _
    simp only
    omega
  | @serves terminalId lane delivery middle selected held serves size =>
    rw [total_charge] at room
    have charged := fair.synced.charged selected held serves room
    show middle.classServed class_ + _ = _
    by_cases own : class_ = lane.priority
    · subst own
      simp only [charge,Function.update_self,charged.ownClass,Nat.mul_add]
      rw [Nat.mul_comm delivery.cost]
      omega
    · simp only [charge,Function.update_of_ne own,charged.otherClasses class_ own]

theorem run_balance {window : List (Op T)} {class_ : Priority} (fair : meter.Fair most) (sizes : ∀ op ∈ window, op.Within most)
    (gaps : 256 ≤ most) (room : 24 * (run Meter.step meter window).total ≤ u128Max)
    (busy : ∀ part, part <+: window → (run Meter.step meter part).queue.Busy class_)
    (still : Along Meter.step (fun meter op => ¬meter.Reassigns op) meter window) :
    (run Meter.step meter window).queue.classServed class_ + weight class_ * meter.served class_ =
      meter.queue.classServed class_ + weight class_ * (run Meter.step meter window).served class_ := by
  induction window generalizing meter with
  | nil => rfl
  | cons op rest ih =>
    have later := (run_grows (meter.step op) rest).1
    rw [run_cons] at room ⊢
    have here := step_balance fair (by omega) (busy [] List.nil_prefix) still.1
    have fair' := fair.step (sizes op List.mem_cons_self) gaps (by omega)
    have rest := ih fair' (fun other mem => sizes other (List.mem_cons_of_mem op mem)) room
      (fun part front => busy (op :: part) ((List.prefix_cons_inj op).mpr front)) still.2
    omega

def share : Priority → Nat
  | .focused => 8
  | .visible => 3
  | .background => 1

/-- What the window was charged to the class, by its share. -/
def serviceByShare (start last : Meter T) (class_ : Priority) : ℚ :=
  ((last.served class_ : ℚ) - start.served class_) / share class_

theorem serviceByShare_eq (start last : Meter T) (class_ : Priority) :
    24 * serviceByShare start last class_ = (weight class_ * last.served class_ : ℚ) - weight class_ * start.served class_ := by
  cases class_
  all_goals
    simp only [serviceByShare,share,weight]
    push_cast
    ring

/-- Two classes that stay busy are served by their shares, up to one service each and what the clock did not see. -/
theorem classes_fair {window : List (Op T)} {first second : Priority} (fair : meter.Fair most)
    (sizes : ∀ op ∈ window, op.Within most) (gaps : 256 ≤ most) (room : 24 * (run Meter.step meter window).total ≤ u128Max)
    (busy : ∀ part, part <+: window → (run Meter.step meter part).queue.Busy first ∧ (run Meter.step meter part).queue.Busy second)
    (still : Along Meter.step (fun meter op => ¬meter.Reassigns op) meter window) :
    |serviceByShare meter (run Meter.step meter window) first - serviceByShare meter (run Meter.step meter window) second| ≤
      2 * (most + (run Meter.step meter window).drained : ℚ) := by
  have fair' := fair_run fair sizes gaps room
  have drained := (run_grows meter window).2
  have firstBalance := run_balance fair sizes gaps room (fun part front => (busy part front).1) still
  have secondBalance := run_balance fair sizes gaps room (fun part front => (busy part front).2) still
  have starts := busy [] List.nil_prefix
  have ends := busy window (List.prefix_refl window)
  have a := @Synchronous.apart _ _ _ _ _ _ fair.synced.classes first second starts.1 trivial
  have b := @Synchronous.apart _ _ _ _ _ _ fair.synced.classes second first starts.2 trivial
  have c := @Synchronous.apart _ _ _ _ _ _ fair'.synced.classes first second ends.1 trivial
  have d := @Synchronous.apart _ _ _ _ _ _ fair'.synced.classes second first ends.2 trivial
  generalize run Meter.step meter window = last at *
  have firstEq := serviceByShare_eq meter last first
  have secondEq := serviceByShare_eq meter last second
  unfold slack at a b c d
  qify at a b c d firstBalance secondBalance drained
  rw [abs_le]
  constructor
  · linarith
  · linarith

end Meter

end Freshell.Connection
