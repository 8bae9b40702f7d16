import Freshell.Connection.Fairness

/-!
How long a lane of the delivery queue waits. The lanes and the classes ahead of it
can take only what they are behind, so it is served after a number of deliveries
that the number of lanes and the largest frame bound, unless lanes keep coming in
or changing their class.
-/
namespace Freshell.Connection
open Freshell.Library.Tables Freshell.Library.Runs Freshell.Library.Amortized

section
variable {T : Type} {queue after middle : DeliveryQueue T} {most slack spent : Nat}

/-- What another lane of the class can take before a lane at `served` is first. -/
def lag (class_ : Priority) (served : Nat) (lane : Lane) : Nat :=
  if lane.priority = class_ then served + 1 - lane.served else 0

/-- The counter that the classes are compared by. -/
def DeliveryQueue.virtual (queue : DeliveryQueue T) (class_ : Priority) : Nat :=
  max (queue.classServed class_) queue.classClock

/-- What the classes can take before the class is first. -/
def DeliveryQueue.classLag (queue : DeliveryQueue T) (class_ : Priority) : Nat :=
  (queue.virtual class_ + 1 - queue.virtual .focused) + (queue.virtual class_ + 1 - queue.virtual .visible) +
    (queue.virtual class_ + 1 - queue.virtual .background)

/-- A bound of the deliveries before that of the lane. One delivery from its own
    class takes at least a byte from the lanes ahead of it, and costs the class one
    service against the two others. -/
def DeliveryQueue.wait (most : Nat) (queue : DeliveryQueue T) (terminalId : String) : Nat :=
  match queue.standing terminalId with
  | none => 0
  | some (class_,served) => (48 * most + 1) * total (lag class_ served) queue.lanes + queue.classLag class_

def waitBound (lanes most drained : Nat) : Nat :=
  (48 * most + 1) * (lanes * (most + 1)) + 3 * (24 * (most + drained) + 1)

theorem lag_le (class_ : Priority) (served : Nat)
    (within_ : ∀ terminalId stands, after.standing terminalId = some stands → queue.standing terminalId = some stands) :
    total (lag class_ served) after.lanes ≤ total (lag class_ served) queue.lanes := by
  refine total_le_total fun terminalId lane held => .inr ?_
  obtain ⟨old,found,same⟩ := Option.map_eq_some_iff.mp (within_ terminalId _ (DeliveryQueue.standing_of_lookup held))
  obtain ⟨priority,served⟩ := Prod.mk.inj same
  exact ⟨old,found,by simp [lag,priority,served]⟩

theorem lag_split {class_ : Priority} {served : Nat} (queue : DeliveryQueue T) (terminalId : String) :
    total (lag class_ served) queue.lanes =
      ((queue.lanes.lookup terminalId).map (lag class_ served)).getD 0 + total (lag class_ served) (queue.lanes.erase terminalId) := by
  cases held : queue.lanes.lookup terminalId with
  | none => simp [total_erase_absent (lag class_ served) held]
  | some lane =>
    have := total_erase (lag class_ served) held
    simp only [Option.map_some,Option.getD_some]
    omega

theorem Charged.lag {class_ : Priority} {mine cost : Nat} {terminalId : String} {lane : Lane}
    (charged : Charged queue terminalId lane cost middle) (serves : queue.Serves terminalId lane cost middle)
    (held : queue.lanes.lookup terminalId = some lane) (positive : 0 < cost)
    (behind : lane.priority = class_ → lane.served ≤ mine) :
    total (lag class_ mine) middle.lanes + (if lane.priority = class_ then 1 else 0) ≤ total (lag class_ mine) queue.lanes := by
  rw [lag_split middle terminalId,lag_split queue terminalId,held]
  have others : total (Connection.lag class_ mine) (middle.lanes.erase terminalId) ≤
      total (Connection.lag class_ mine) (queue.lanes.erase terminalId) := by
    refine total_le_total fun other lane' found => .inr ?_
    rw [lookup_erase] at found ⊢
    split at found
    · cases found
    · next apart =>
      rw [if_neg apart]
      have same := serves.others other apart
      rw [DeliveryQueue.standing_of_lookup found] at same
      obtain ⟨old,held',same⟩ := Option.map_eq_some_iff.mp same.symm
      obtain ⟨priority,served⟩ := Prod.mk.inj same
      exact ⟨old,held',by simp [Connection.lag,priority,served]⟩
  have own : ((middle.lanes.lookup terminalId).map (Connection.lag class_ mine)).getD 0 + (if lane.priority = class_ then 1 else 0) ≤
      Connection.lag class_ mine lane := by
    cases found : middle.lanes.lookup terminalId with
    | none =>
      simp only [Option.map_none,Option.getD_none,Connection.lag]
      split
      · next same =>
        have := behind same
        omega
      · exact Nat.le_refl _
    | some lane' =>
      have stands := charged.stands serves (DeliveryQueue.standing_of_lookup found)
      obtain ⟨apart,-⟩ | ⟨-,priority,served⟩ := stands
      · exact absurd rfl apart
      · simp only [Option.map_some,Option.getD_some,Connection.lag,priority,served]
        split
        · next same =>
          have := behind same
          omega
        · exact Nat.le_refl _
  simp only [Option.map_some,Option.getD_some] at own ⊢
  omega

theorem Synced.virtual (synced : Synced most slack spent queue) {class_ : Priority} (busy : queue.Busy class_) :
    queue.virtual class_ = queue.classServed class_ :=
  Nat.max_eq_left (synced.classes.ahead class_ busy)

theorem classLag_le {class_ : Priority} {more : Nat} (own : after.virtual class_ ≤ queue.virtual class_ + more)
    (grows : ∀ other, queue.virtual other ≤ after.virtual other) :
    after.classLag class_ ≤ queue.classLag class_ + 2 * more := by
  have focused := grows .focused
  have visible := grows .visible
  have background := grows .background
  unfold DeliveryQueue.classLag
  cases class_ <;> omega

theorem classLag_lt {class_ : Priority} (chosen : Priority) (own : after.virtual class_ = queue.virtual class_)
    (grows : ∀ other, queue.virtual other ≤ after.virtual other) (least : queue.virtual chosen ≤ queue.virtual class_)
    (served : queue.virtual chosen < after.virtual chosen) : after.classLag class_ + 1 ≤ queue.classLag class_ := by
  have focused := grows .focused
  have visible := grows .visible
  have background := grows .background
  unfold DeliveryQueue.classLag
  cases chosen <;> omega

theorem total_le_length (class_ : Priority) (served bound : Nat) (lanes : Table String Lane)
    (each : ∀ terminalId lane, lanes.lookup terminalId = some lane → lag class_ served lane ≤ bound) :
    total (lag class_ served) lanes ≤ lanes.entries.length * bound := by
  have listed : ∀ entry ∈ lanes.entries, lag class_ served entry.2 ≤ bound := fun entry member =>
    each entry.1 entry.2 (AList.mem_lookup_iff.mpr member)
  unfold total
  generalize lanes.entries = entries at listed
  induction entries with
  | nil => simp
  | cons entry rest ih =>
    have here := listed entry List.mem_cons_self
    have later := ih fun other member => listed other (List.mem_cons_of_mem entry member)
    simp only [List.map_cons,List.sum_cons,List.length_cons,Nat.add_mul,Nat.one_mul]
    omega

theorem Synced.wait_le {lanes drained : Nat} (synced : Synced most (24 * (most + drained)) spent queue)
    (few : queue.lanes.entries.length ≤ lanes) (terminalId : String) :
    queue.wait most terminalId ≤ waitBound lanes most drained := by
  unfold DeliveryQueue.wait
  cases stands : queue.standing terminalId with
  | none => exact Nat.zero_le _
  | some stands_ =>
    obtain ⟨class_,served⟩ := stands_
    have busy : queue.Busy class_ := ⟨terminalId,served,stands⟩
    have near := (synced.lanes class_).near terminalId ⟨served,stands⟩
    rw [DeliveryQueue.laneServed_of_standing stands] at near
    have each : ∀ other lane, queue.lanes.lookup other = some lane → lag class_ served lane ≤ most + 1 := by
      intro other lane held
      unfold lag
      split
      · next same =>
        subst same
        have there := DeliveryQueue.standing_of_lookup held
        have := (synced.lanes lane.priority).ahead other ⟨_,there⟩
        rw [DeliveryQueue.laneServed_of_standing there] at this
        omega
      · exact Nat.zero_le _
    have lanesLag := total_le_length class_ served (most + 1) queue.lanes each
    have classLag : queue.classLag class_ ≤ 3 * (24 * (most + drained) + 1) := by
      have own := synced.virtual busy
      have close := synced.classes.near class_ trivial
      have behind : ∀ other, queue.classClock ≤ queue.virtual other := fun other => Nat.le_max_right _ _
      have focused := behind .focused
      have visible := behind .visible
      have background := behind .background
      unfold DeliveryQueue.classLag
      omega
    have crowd : (48 * most + 1) * total (lag class_ served) queue.lanes ≤ (48 * most + 1) * (lanes * (most + 1)) :=
      Nat.mul_le_mul_left _ (Nat.le_trans lanesLag (Nat.mul_le_mul_right _ few))
    simp only [waitBound]
    omega

end
namespace Meter
variable {T : Type} {meter : Meter T} {most : Nat}

def disturbs (meter : Meter T) : Op T → Bool
  | .push _ entry => (meter.queue.lanes.lookup entry.terminalId).isNone
  | .updatePriorities priority => meter.queue.lanes.entries.any fun entry => entry.2.priority != priority entry.1
  | _ => false

theorem not_moves {priority : String → Priority} (calm : meter.disturbs (.updatePriorities priority) = false) :
    ¬meter.queue.Moves priority := by
  rintro ⟨terminalId,class_,served,stands,moved⟩
  obtain ⟨lane,held,same⟩ := Option.map_eq_some_iff.mp stands
  obtain ⟨rfl,rfl⟩ := Prod.mk.inj same
  have stays := List.any_eq_false.mp calm ⟨terminalId,lane⟩ (AList.mem_lookup_iff.mp held)
  simp only [bne_iff_ne,ne_eq,Decidable.not_not] at stays
  exact moved stays

/-- A call that does not disturb the lanes leaves those that stay as they were, and no counter goes back. -/
theorem step_calm {op : Op T} (fair : meter.Fair most) (calm : meter.disturbs op = false) (quiet : op.isPop = false) :
    (∀ terminalId stands, (meter.step op).queue.standing terminalId = some stands →
        meter.queue.standing terminalId = some stands) ∧
      (∀ class_, meter.queue.virtual class_ ≤ (meter.step op).queue.virtual class_) ∧
      ∀ class_, meter.queue.Busy class_ → (meter.step op).queue.classServed class_ = meter.queue.classServed class_ := by
  obtain ⟨acts,-⟩ := step_acts fair.indexed fair.synced.active op
  generalize meter.step op = after at acts
  cases acts with
  | idle same =>
    refine ⟨fun terminalId stands found => ?_,fun class_ => ?_,fun class_ _ => ?_⟩
    · rwa [← same.standing]
    · simp only [DeliveryQueue.virtual,same.classServed,same.classClock]
      exact Nat.le_refl _
    · rw [same.classServed]
  | @admits priority entry after admits =>
    have present : meter.queue.lanes.lookup entry.terminalId ≠ none := by
      intro absent
      rw [disturbs,absent] at calm
      cases calm
    refine ⟨fun terminalId stands found => ?_,fun class_ => ?_,fun class_ busy => ?_⟩
    · by_cases own : terminalId = entry.terminalId
      · subst own
        obtain ⟨lane,held⟩ := Option.ne_none_iff_exists'.mp present
        have known := DeliveryQueue.standing_of_lookup held
        rw [admits.own,known] at found
        rw [known]
        exact found
      · rwa [← admits.others terminalId own]
    · simp only [DeliveryQueue.virtual,admits.classServed,admits.classClock,Function.update_apply]
      split
      · next same =>
        subst same
        omega
      · exact Nat.le_refl _
    · have clock := fair.synced.classes.ahead class_ busy
      simp only [admits.classServed,Function.update_apply]
      split
      · next same =>
        subst same
        exact Nat.max_eq_left clock
      · rfl
  | @drops terminalId middle drops =>
    have forward := (DeliveryQueue.classClock_refresh (drops.active fair.synced.active)).forward
    rw [drops.classClock] at forward
    have same : middle.refreshClocks.classServed = meter.queue.classServed := drops.classServed
    refine ⟨fun other stands found => ?_,fun class_ => ?_,fun class_ _ => congrFun same class_⟩
    · have found : middle.standing other = some stands := found
      by_cases own : other = terminalId
      · rw [own,drops.own] at found
        cases found
      · rwa [← drops.others other own]
    · simp only [DeliveryQueue.virtual,same]
      omega
  | @reprioritizes priority middle moved =>
    have still := not_moves calm
    have forward := (DeliveryQueue.classClock_refresh (moved.active fair.synced.active)).forward
    rw [moved.classClock] at forward
    refine ⟨fun terminalId stands found => ?_,fun class_ => ?_,fun class_ busy => ?_⟩
    · have found : middle.standing terminalId = some stands := found
      rw [moved.standing] at found
      obtain ⟨⟨class_,served⟩,held,same⟩ := Option.map_eq_some_iff.mp found
      have stays : class_ = priority terminalId := by
        by_contra other
        exact still ⟨terminalId,class_,served,held,other⟩
      rw [DeliveryQueue.reprioritized,if_pos stays] at same
      rw [← same]
      exact held
    · have grows := moved.grows class_
      show _ ≤ max (middle.classServed class_) middle.refreshClocks.classClock
      unfold DeliveryQueue.virtual
      omega
    · have clock := fair.synced.classes.ahead class_ busy
      have grows := moved.grows class_
      have bound := moved.unmoved still class_
      show middle.classServed class_ = _
      omega
  | serves => cases quiet

theorem pop_pays {terminalId : String} (fair : meter.Fair most) (fair' : (meter.step .pop).Fair most)
    (gaps : 256 ≤ most) (room : 24 * (meter.step .pop).total ≤ u128Max) (queued : meter.queue.standing terminalId ≠ none)
    (passed : meter.queue.selectLane ≠ some terminalId) :
    1 + (meter.step .pop).queue.wait most terminalId ≤ meter.queue.wait most terminalId := by
  obtain ⟨acts,-⟩ := step_acts fair.indexed fair.synced.active .pop
  generalize meter.step .pop = after at acts fair' room
  cases acts with
  | idle same empty => exact absurd (empty rfl terminalId) queued
  | @serves chosen lane delivery middle selected held serves cost =>
    rw [total_charge] at room
    have charged := fair.synced.charged selected held serves room
    have apart : terminalId ≠ chosen := by
      rintro rfl
      exact passed selected
    obtain ⟨⟨class_,mine⟩,stands⟩ := Option.ne_none_iff_exists'.mp queued
    have stands' : middle.refreshClocks.standing terminalId = some (class_,mine) := (serves.others terminalId apart).trans stands
    have busy : meter.queue.Busy class_ := ⟨terminalId,mine,stands⟩
    have busy' : middle.refreshClocks.Busy class_ := ⟨terminalId,mine,stands'⟩
    have chosenBusy : meter.queue.Busy lane.priority := ⟨chosen,lane.served,DeliveryQueue.standing_of_lookup held⟩
    obtain ⟨positive,bounded⟩ := fair.synced.cost_le gaps cost
    have behind : lane.priority = class_ → lane.served ≤ mine := by
      rintro rfl
      have := charged.leastLane terminalId ⟨mine,stands⟩
      rwa [DeliveryQueue.laneServed_of_standing stands] at this
    have lanes := charged.lag serves held positive behind
    have forward := (DeliveryQueue.classClock_refresh (serves.active fair.synced.active)).forward
    rw [serves.classClock] at forward
    have grown : ∀ other, meter.queue.classServed other ≤ middle.classServed other := by
      intro other
      by_cases own : other = lane.priority
      · rw [own,charged.ownClass]
        omega
      · rw [charged.otherClasses other own]
    have grows : ∀ other, meter.queue.virtual other ≤ middle.refreshClocks.virtual other := by
      intro other
      have := grown other
      show max (meter.queue.classServed other) _ ≤ max (middle.classServed other) middle.refreshClocks.classClock
      omega
    have own := fair.synced.virtual busy
    have own' : middle.refreshClocks.virtual class_ = middle.classServed class_ := fair'.synced.virtual busy'
    have weights := weight_le lane.priority
    have weighed : delivery.cost * 3 ≤ delivery.cost * weight lane.priority ∧
        delivery.cost * weight lane.priority ≤ delivery.cost * 24 :=
      ⟨Nat.mul_le_mul_left _ weights.1,Nat.mul_le_mul_left _ weights.2⟩
    show 1 + middle.refreshClocks.wait most terminalId ≤ _
    unfold DeliveryQueue.wait
    rw [stands,stands']
    simp only [DeliveryQueue.refreshClocks_lanes]
    by_cases same : lane.priority = class_
    · subst same
      rw [if_pos rfl] at lanes
      have classes : middle.refreshClocks.classLag lane.priority ≤ meter.queue.classLag lane.priority + 2 * (24 * most) := by
        refine classLag_le ?_ grows
        rw [own,own',charged.ownClass]
        omega
      have less := Nat.mul_le_mul_left (48 * most + 1) lanes
      rw [Nat.mul_add] at less
      omega
    · rw [if_neg same,Nat.add_zero] at lanes
      have classes : middle.refreshClocks.classLag class_ + 1 ≤ meter.queue.classLag class_ := by
        refine classLag_lt lane.priority ?_ grows ?_ ?_
        · rw [own,own',charged.otherClasses class_ (Ne.symm same)]
        · rw [own,fair.synced.virtual chosenBusy]
          exact charged.leastClass class_ busy
        · rw [fair.synced.virtual chosenBusy]
          refine Nat.lt_of_lt_of_le ?_ (Nat.le_max_left _ _)
          show _ < middle.classServed lane.priority
          rw [charged.ownClass]
          omega
      have less := Nat.mul_le_mul_left (48 * most + 1) lanes
      omega

/-- A step pays for its delivery with the wait of a lane that stays queued and is not served; where the lanes are
    disturbed, the wait starts again. -/
theorem step_pays {op : Op T} {terminalId : String} {lanes drained : Nat} (fair : meter.Fair most)
    (fair' : (meter.step op).Fair most) (gaps : 256 ≤ most) (room : 24 * (meter.step op).total ≤ u128Max)
    (queued : meter.queue.standing terminalId ≠ none) (queued' : (meter.step op).queue.standing terminalId ≠ none)
    (passed : op.isPop = true → meter.queue.selectLane ≠ some terminalId)
    (few : (meter.step op).queue.lanes.entries.length ≤ lanes) (seen : (meter.step op).drained ≤ drained) :
    (if op.isPop then 1 else 0) + (meter.step op).queue.wait most terminalId ≤
      meter.queue.wait most terminalId + (if meter.disturbs op then 1 else 0) * waitBound lanes most drained := by
  by_cases disturbed : meter.disturbs op = true
  · have quiet : op.isPop = false := by cases op <;> first | rfl | cases disturbed
    have longest : (meter.step op).queue.wait most terminalId ≤ waitBound lanes most (meter.step op).drained :=
      fair'.synced.wait_le few terminalId
    have mono : waitBound lanes most (meter.step op).drained ≤ waitBound lanes most drained := by
      unfold waitBound
      omega
    rw [if_pos disturbed,quiet]
    simp only [Bool.false_eq_true,if_false]
    omega
  · have calm := eq_false_of_ne_true disturbed
    rw [if_neg disturbed,Nat.zero_mul,Nat.add_zero]
    cases pops : op.isPop with
    | true =>
      obtain rfl : op = .pop := by cases op <;> first | rfl | cases pops
      exact pop_pays fair fair' gaps room queued (passed rfl)
    | false =>
      obtain ⟨stay,grows,classes⟩ := step_calm fair calm pops
      obtain ⟨⟨class_,mine⟩,stands'⟩ := Option.ne_none_iff_exists'.mp queued'
      have stands := stay terminalId _ stands'
      have busy : meter.queue.Busy class_ := ⟨terminalId,mine,stands⟩
      have busy' : (meter.step op).queue.Busy class_ := ⟨terminalId,mine,stands'⟩
      have own : (meter.step op).queue.virtual class_ = meter.queue.virtual class_ := by
        rw [fair.synced.virtual busy,fair'.synced.virtual busy',classes class_ busy]
      have lanesLag := Nat.mul_le_mul_left (48 * most + 1) (lag_le class_ mine stay)
      have classLag : (meter.step op).queue.classLag class_ ≤ meter.queue.classLag class_ + 2 * 0 :=
        classLag_le (Nat.le_of_eq own) grows
      unfold DeliveryQueue.wait
      rw [stands,stands']
      simp only [Bool.false_eq_true,if_false]
      omega

structure Waiting (most lanes drained : Nat) (terminalId : String) (meter : Meter T) : Prop where
  fair : meter.Fair most
  room : 24 * meter.total ≤ u128Max
  queued : meter.queue.standing terminalId ≠ none
  few : meter.queue.lanes.entries.length ≤ lanes
  seen : meter.drained ≤ drained

/-- The deliveries of a stretch in which a lane is not served, by the disturbances in it. -/
theorem waits_bounded {window : List (Op T)} {terminalId : String} {lanes drained : Nat} (gaps : 256 ≤ most)
    (waiting : ∀ part, part <+: window → Waiting most lanes drained terminalId (run Meter.step meter part))
    (passed : Along Meter.step (fun meter op => op.isPop = true → meter.queue.selectLane ≠ some terminalId) meter window) :
    window.countP Op.isPop ≤
      (1 + tally Meter.step (fun meter op => if meter.disturbs op then 1 else 0) meter window) *
        waitBound lanes most drained := by
  have both : Along Meter.step (fun before op => Waiting most lanes drained terminalId before ∧
      Waiting most lanes drained terminalId (before.step op)) meter window :=
    along_of_prefixes (fun _ _ before after => ⟨before,after⟩) waiting
  have pays : ∀ (before : Meter T) (op : Op T), ((Waiting most lanes drained terminalId before ∧
      Waiting most lanes drained terminalId (before.step op)) ∧
      (op.isPop = true → before.queue.selectLane ≠ some terminalId)) →
      (if op.isPop then 1 else 0) + (before.step op).queue.wait most terminalId ≤
        before.queue.wait most terminalId + (if before.disturbs op then 1 else 0) * waitBound lanes most drained :=
    fun before op ⟨⟨here,there⟩,skipped⟩ => step_pays here.fair there.fair gaps there.room here.queued there.queued skipped
      there.few there.seen
  have paid := tally_le (fun meter : Meter T => meter.queue.wait most terminalId) pays (along_and both passed)
  rw [tally_countP,tally_mul] at paid
  have start := waiting [] List.nil_prefix
  have first : meter.queue.wait most terminalId ≤ waitBound lanes most meter.drained := start.fair.synced.wait_le start.few terminalId
  have mono : waitBound lanes most meter.drained ≤ waitBound lanes most drained := by
    have seen : meter.drained ≤ drained := start.seen
    unfold waitBound
    omega
  rw [Nat.add_mul,Nat.one_mul]
  omega

/-- The lane is queued, among at most so many lanes. -/
def QueuedAmong (lanes : Nat) (terminalId : String) (meter : Meter T) : Prop :=
  (∃ lane, meter.queue.lanes.lookup terminalId = some lane ∧ lane.active = true) ∧
    meter.queue.lanes.entries.length ≤ lanes

/-- What a stretch of a run gives its classes and its lanes. -/
structure ServesFairly (largest : Nat) (start : Meter T) (window : List (Op T)) : Prop where
  /-- Classes that stay busy, with lanes that keep their classes, are served by their shares. -/
  classes : ∀ first second : Priority,
    (∀ part, part <+: window → (run Meter.step start part).queue.Busy first ∧ (run Meter.step start part).queue.Busy second) →
    Along Meter.step (fun meter op => ¬meter.Reassigns op) start window →
    |serviceByShare start (run Meter.step start window) first - serviceByShare start (run Meter.step start window) second| ≤
      2 * ((max largest 256 : Nat) + (run Meter.step start window).drained : ℚ)
  /-- A lane that stays queued is passed over only for so many deliveries. -/
  lanes : ∀ (terminalId : String) (lanes : Nat),
    (∀ part, part <+: window → (run Meter.step start part).QueuedAmong lanes terminalId) →
    Along Meter.step (fun meter op => op.isPop = true → meter.queue.selectLane ≠ some terminalId) start window →
    window.countP Op.isPop ≤
      (1 + tally Meter.step (fun meter op => if meter.disturbs op then 1 else 0) start window) *
        waitBound lanes (max largest 256) (run Meter.step start window).drained

end Meter
def twoFrames : List (Op Unit) := [.push .focused ⟨"t",(),10,none,0⟩,.push .visible ⟨"t",(),10,none,1⟩]

theorem twoFrames_total : (run Meter.step (.new 100 8) (twoFrames ++ [.pop])).total = 10 := by
  let pushed : Meter Unit := run Meter.step (.new 100 8) twoFrames
  have selected : pushed.queue.selectLane = some "t" :=
    @DeliveryQueue.selectLane_only _ _ "t" ⟨.focused,{1,0},[],0⟩ rfl (by decide)
  have held : pushed.queue.lanes.lookup "t" = some ⟨.focused,{1,0},[],0⟩ := rfl
  have oldest : first ({1,0} : Finset Nat) = some 0 := rfl
  have listed : pushed.queue.entries.lookup 0 = some ⟨"t",(),10,none,0⟩ := rfl
  rw [run_append]
  show (pushed.step .pop).total = 10
  simp only [Meter.step,DeliveryQueue.call,DeliveryQueue.pop,DeliveryQueue.servedClass,selected,held,oldest,listed,
    Option.bind_eq_bind,Option.bind_some,Option.map_some]
  rfl

/-- A lane is served within so many deliveries, whatever the sizes of the frames. -/
def ServedWithin (bound : Nat → Nat) : Prop :=
  ∀ (byteLimit metadataLimit : Nat) (before window : List (Op Unit)) (terminalId : String) (lanes : Nat),
    (∀ part, part <+: window → (run Meter.step (.new byteLimit metadataLimit) (before ++ part)).QueuedAmong lanes terminalId) →
    Along Meter.step (fun meter op => op.isPop = true → meter.queue.selectLane ≠ some terminalId)
      (run Meter.step (.new byteLimit metadataLimit) before) window →
    window.countP Op.isPop ≤ bound lanes

def smallFrame : Op Unit := .push .focused ⟨"b",(),1,none,0⟩

/-- Terminal `a` was served a large frame and has another one queued; `b` was served
    `ticks` frames of one byte since and has the next one queued. -/
structure Ticking (large ticks : Nat) (queue : DeliveryQueue Unit) : Prop where
  indexed : queue.Indexed
  waits : queue.lanes.lookup "a" = some ⟨.focused,{1},[],large⟩
  next : queue.lanes.lookup "b" = some ⟨.focused,{ticks + 2},[],ticks⟩
  only : ∀ terminalId, terminalId ≠ "a" → terminalId ≠ "b" → queue.lanes.lookup terminalId = none
  entry : queue.entries.lookup (ticks + 2) = some ⟨"b",(),1,none,0⟩
  clock : queue.laneClock .focused ≤ ticks
  lanes : queue.lanes.entries.length = 2
  entries : queue.entries.entries.length = 2
  evictable : queue.evictable = ∅
  gapCount : queue.gapCount = 0
  bytes : queue.bytes = 2
  reserved : queue.reserved = 0
  nextId : queue.nextId = ticks + 3
  byteLimit : queue.byteLimit = usizeMax
  metadataLimit : queue.metadataLimit = 8

theorem Ticking.active {large ticks : Nat} {queue : DeliveryQueue Unit} (ticking : Ticking large ticks queue) :
    queue.AllActive := by
  intro terminalId lane held
  by_cases a : terminalId = "a"
  · rw [a,ticking.waits] at held
    obtain rfl := Option.some.inj held
    rfl
  · by_cases b : terminalId = "b"
    · rw [b,ticking.next] at held
      obtain rfl := Option.some.inj held
      simp [Lane.active]
    · rw [ticking.only terminalId a b] at held
      cases held

theorem push_admits {queue : DeliveryQueue Unit} {priority : Priority} {entry : Entry Unit} (evictable : queue.evictable = ∅)
    (control : entry.range = none) (few : queue.entries.entries.length + queue.gapCount < queue.metadataLimit)
    (ids : queue.nextId < u64Max) (fits : queue.bytes + entry.bytes + queue.reserved ≤ queue.byteLimit)
    (limit : queue.byteLimit ≤ usizeMax) : queue.push priority entry = some (.ok (),queue.admitEntry priority entry) := by
  have none_ : (queue.admitEntry priority entry).evictable = ∅ := by simp [DeliveryQueue.admitEntry,control,evictable]
  have room : ¬(queue.admitEntry priority entry).byteLimit < (queue.admitEntry priority entry).outstandingBytes := by
    simp only [DeliveryQueue.outstandingBytes,DeliveryQueue.admitEntry,saturatingAdd]
    omega
  have count : ¬queue.metadataLimit ≤ saturatingAdd usizeMax queue.entries.entries.length queue.gapCount := by
    unfold saturatingAdd
    omega
  unfold DeliveryQueue.push
  rw [if_neg count,if_neg (by omega),if_neg (by omega),DeliveryQueue.evictOverflow,none_,Finset.card_empty,
    DeliveryQueue.evictFrom,if_neg room]

theorem first_pair {low high : Nat} (less : low < high) : first (insert high {low}) = some low := by
  have some_ : (insert high {low} : Finset Nat).Nonempty := Finset.insert_nonempty high {low}
  rw [first,dif_pos some_]
  have member : low ∈ (insert high {low} : Finset Nat) := by simp
  have least := Finset.min'_le _ low member
  have listed := Finset.min'_mem (insert high {low} : Finset Nat) some_
  simp only [Finset.mem_insert,Finset.mem_singleton] at listed
  exact congrArg some (by omega)

theorem Ticking.round {large ticks : Nat} {queue : DeliveryQueue Unit} (ticking : Ticking large ticks queue) (less : ticks < large)
    (bounded : large < 2 ^ 62) :
    ∃ pushed popped, queue.push .focused ⟨"b",(),1,none,0⟩ = some (.ok (),pushed) ∧
      pushed.pop = some (some (.frame () 1),popped) ∧ pushed.selectLane = some "b" ∧
      (∃ lane, pushed.lanes.lookup "a" = some lane ∧ lane.active = true) ∧ pushed.lanes.entries.length = 2 ∧
      Ticking large (ticks + 1) popped := by
  let entry : Entry Unit := ⟨"b",(),1,none,0⟩
  let pushed := queue.admitEntry .focused entry
  have big : large + 10 < u64Max := by unfold u64Max; omega
  have accepted : queue.push .focused entry = some (.ok (),pushed) := by
    refine push_admits ticking.evictable rfl ?_ ?_ ?_ (Nat.le_of_eq ticking.byteLimit)
    · rw [ticking.entries,ticking.gapCount,ticking.metadataLimit]
      decide
    · rw [ticking.nextId]
      omega
    · rw [ticking.bytes,ticking.reserved,ticking.byteLimit]
      decide
  let lane : Lane := ⟨.focused,insert (ticks + 3) {ticks + 2},[],ticks⟩
  have laneFor : queue.laneFor "b" .focused = ⟨.focused,{ticks + 2},[],ticks⟩ := by
    simp [DeliveryQueue.laneFor,ticking.next]
  have lanes : pushed.lanes = queue.lanes.insert "b" lane := by
    simp only [pushed,DeliveryQueue.admitEntry,entry,laneFor,ticking.nextId]
    rfl
  have held : pushed.lanes.lookup "b" = some lane := by rw [lanes,lookup_insert,if_pos rfl]
  have waits : pushed.lanes.lookup "a" = some ⟨.focused,{1},[],large⟩ := by
    rw [lanes,lookup_insert,if_neg (by decide)]
    exact ticking.waits
  have active : pushed.AllActive := (DeliveryQueue.admitEntry_admits queue .focused entry).active ticking.active
  have indexed : pushed.Indexed := DeliveryQueue.admit_indexed ticking.indexed .focused entry
  have clock : pushed.laneClock .focused ≤ ticks := ticking.clock
  have selected : pushed.selectLane = some "b" := by
    refine DeliveryQueue.selectLane_of_first active held fun other lane' apart held' before => ?_
    by_cases a : other = "a"
    · subst a
      obtain rfl := Option.some.inj (held'.symm.trans waits)
      have key := (DeliveryQueue.serviceKey_le before).2 rfl
      simp only [lane] at key
      omega
    · rw [lanes,lookup_insert,if_neg apart,ticking.only other a apart] at held'
      cases held'
  have oldest : first lane.ids = some (ticks + 2) := first_pair (Nat.lt_succ_self _)
  have listed : pushed.entries.lookup (ticks + 2) = some entry := by
    show (queue.entries.insert queue.nextId entry).lookup (ticks + 2) = _
    rw [ticking.nextId,lookup_insert,if_neg (by omega)]
    exact ticking.entry
  have popped : pushed.pop = some (some (.frame () 1),pushed.popFrame (ticks + 2) entry "b" lane) := by
    unfold DeliveryQueue.pop
    simp only [selected,held,Option.bind_eq_bind,Option.bind_some]
    simp only [lane] at oldest ⊢
    simp only [oldest,listed,Option.bind_some]
    rfl
  have left : lane.ids.erase (ticks + 2) = {ticks + 3} := by
    ext id
    simp only [lane,Finset.mem_erase,Finset.mem_insert,Finset.mem_singleton]
    omega
  let charged : Lane := ⟨.focused,{ticks + 3},[],ticks + 1⟩
  have served : (pushed.popFrame (ticks + 2) entry "b" lane).lanes = pushed.lanes.insert "b" charged := by
    have amount : saturatingAdd u128Max (max ticks (pushed.laneClock .focused)) (max 1 1) = ticks + 1 := by
      unfold saturatingAdd u128Max
      omega
    have whole : charged.active = true := by simp [charged,Lane.active]
    show (if Lane.active _ then _ else _) = _
    simp only [left,lane,entry,amount]
    rw [if_pos whole]
  have two : pushed.lanes.entries.length = 2 := by
    have grown := total_insert_over (fun _ : Lane => 1) ticking.next lane
    rw [← length_eq_total,← length_eq_total,ticking.lanes] at grown
    rw [lanes]
    omega
  have three : pushed.entries.entries.length = 3 := by
    have absent : queue.entries.lookup queue.nextId = none := by
      cases found : queue.entries.lookup queue.nextId with
      | none => rfl
      | some other => exact absurd (ticking.indexed.fresh found) (Nat.lt_irrefl _)
    show (queue.entries.insert queue.nextId entry).entries.length = 3
    rw [length_eq_total,total_insert_fresh _ absent,← length_eq_total,ticking.entries]
  obtain ⟨middle,refreshed,serves⟩ := DeliveryQueue.serve_schedule { pushed with
    entries := pushed.entries.erase (ticks + 2)
    evictable := pushed.evictable.erase (ticks + 2)
    bytes := pushed.bytes - entry.bytes } "b" { lane with ids := lane.ids.erase (ticks + 2) } (max entry.bytes 1)
  have ends : pushed.popFrame (ticks + 2) entry "b" lane = middle.refreshClocks := refreshed
  have after : middle.lanes = pushed.lanes.insert "b" charged := by
    rw [ends] at served
    exact served
  have other {terminalId : String} (apart : terminalId ≠ "b") : middle.lanes.lookup terminalId = queue.lanes.lookup terminalId := by
    rw [after,lookup_insert,if_neg apart,lanes,lookup_insert,if_neg apart]
  have own : middle.lanes.lookup "b" = some charged := by rw [after,lookup_insert,if_pos rfl]
  have small : ∀ terminalId, middle.laneServed terminalId ≤ u128Max := by
    intro terminalId
    have wide : large + 10 < u128Max := by unfold u128Max; omega
    by_cases b : terminalId = "b"
    · subst b
      rw [DeliveryQueue.laneServed_of_standing (DeliveryQueue.standing_of_lookup own)]
      simp only [charged]
      omega
    · by_cases a : terminalId = "a"
      · subst a
        rw [DeliveryQueue.laneServed_of_standing (DeliveryQueue.standing_of_lookup ((other b).trans ticking.waits))]
        simp only
        omega
      · simp [DeliveryQueue.laneServed,DeliveryQueue.standing,other b,ticking.only terminalId a b]
  have catches := (DeliveryQueue.laneClock_refresh (serves.active active) .focused small).behind "b"
    ⟨ticks + 1,DeliveryQueue.standing_of_lookup own⟩
  rw [DeliveryQueue.laneServed_of_standing (DeliveryQueue.standing_of_lookup own),serves.laneClock] at catches
  have clock' : middle.refreshClocks.laneClock .focused ≤ ticks + 1 := Nat.le_trans catches (by simp only [charged]; omega)
  have kept := (DeliveryQueue.popFrame_spec indexed held rfl oldest listed rfl).2
  refine ⟨pushed,_,accepted,popped,selected,⟨_,waits,rfl⟩,two,⟨kept,?_,?_,?_,?_,?_,?_,?_,?_,ticking.gapCount,?_,ticking.reserved,?_,
    ticking.byteLimit,ticking.metadataLimit⟩⟩
  · rw [ends]
    exact (other (by decide)).trans ticking.waits
  · rw [ends]
    exact own
  · intro terminalId a b
    rw [ends]
    exact (other b).trans (ticking.only terminalId a b)
  · show ((queue.entries.insert queue.nextId entry).erase (ticks + 2)).lookup (ticks + 3) = _
    rw [lookup_erase,if_neg (by omega),lookup_insert,if_pos ticking.nextId.symm]
  · rw [ends]
    exact clock'
  · have grown := total_insert_over (fun _ : Lane => 1) held charged
    rw [← length_eq_total,← length_eq_total,two] at grown
    rw [served]
    omega
  · have fewer := total_erase (fun _ : Entry Unit => 1) listed
    rw [← length_eq_total,← length_eq_total,three] at fewer
    show (pushed.entries.erase (ticks + 2)).entries.length = 2
    omega
  · show pushed.evictable.erase (ticks + 2) = ∅
    have none_ : pushed.evictable = ∅ := ticking.evictable
    rw [none_,Finset.erase_empty]
  · show queue.bytes + 1 - 1 = 2
    rw [Nat.add_sub_cancel,ticking.bytes]
  · show queue.nextId + 1 = ticks + 1 + 3
    rw [ticking.nextId]

/-- The terminal waits as long as the frame was large. -/
def ticksOf : Nat → List (Op Unit)
  | 0 => []
  | ticks + 1 => smallFrame :: .pop :: ticksOf ticks

theorem ticksOf_pops (ticks : Nat) : (ticksOf ticks).countP Op.isPop = ticks := by
  induction ticks with
  | zero => rfl
  | succ ticks ih =>
    rw [ticksOf,List.countP_cons,List.countP_cons,ih]
    rfl

theorem step_pushed {meter : Meter Unit} {priority : Priority} {entry : Entry Unit} {result : Except CapacityError Unit}
    {after : DeliveryQueue Unit} (pushed : meter.queue.push priority entry = some (result,after)) :
    meter.step (.push priority entry) = { meter with queue := after } := by
  simp [Meter.step,DeliveryQueue.call,pushed]

theorem step_popped {meter : Meter Unit} {delivery : Option (Delivery Unit)} {after : DeliveryQueue Unit}
    (popped : meter.queue.pop = some (delivery,after)) : (meter.step .pop).queue = after := by
  simp only [Meter.step,DeliveryQueue.call,popped,Option.map_some]
  split <;> rfl

theorem prefixes_cons {holds : Meter Unit → Prop} {meter : Meter Unit} {op : Op Unit} {rest : List (Op Unit)} (first : holds meter)
    (later : ∀ part, part <+: rest → holds (run Meter.step (meter.step op) part)) :
    ∀ part, part <+: op :: rest → holds (run Meter.step meter part) := by
  intro part front
  cases part with
  | nil => exact first
  | cons other part =>
    obtain ⟨rfl,shorter⟩ := List.cons_prefix_cons.mp front
    exact later part shorter

theorem Ticking.waiting {large ticks more : Nat} {meter : Meter Unit} (ticking : Ticking large ticks meter.queue)
    (enough : ticks + more ≤ large) (bounded : large < 2 ^ 62) :
    (∀ part, part <+: ticksOf more → (run Meter.step meter part).QueuedAmong 2 "a") ∧
      Along Meter.step (fun meter op => op.isPop = true → meter.queue.selectLane ≠ some "a") meter (ticksOf more) := by
  induction more generalizing meter ticks with
  | zero =>
    refine ⟨fun part front => ?_,trivial⟩
    rw [List.prefix_nil.mp front]
    exact ⟨⟨_,ticking.waits,rfl⟩,Nat.le_of_eq ticking.lanes⟩
  | succ more ih =>
    obtain ⟨pushed,popped,accepted,delivered,selected,waits,two,next⟩ := ticking.round (by omega) bounded
    have first : meter.step smallFrame = { meter with queue := pushed } := step_pushed accepted
    have second : ((meter.step smallFrame).step .pop).queue = popped := by
      rw [first]
      exact @step_popped { meter with queue := pushed } _ _ delivered
    obtain ⟨later,passed⟩ := @ih _ ((meter.step smallFrame).step .pop) (second ▸ next) (by omega)
    constructor
    · refine prefixes_cons ⟨⟨_,ticking.waits,rfl⟩,Nat.le_of_eq ticking.lanes⟩ (prefixes_cons ?_ later)
      rw [first]
      exact ⟨waits,Nat.le_of_eq two⟩
    · refine ⟨nofun,fun _ => ?_,passed⟩
      rw [first,selected]
      decide

def largeFirst (large : Nat) : List (Op Unit) :=
  [.push .focused ⟨"a",(),large,none,0⟩,.push .focused ⟨"a",(),1,none,0⟩,smallFrame,.pop]

theorem ticking_start {large : Nat} (some_ : 0 < large) (bounded : large < 2 ^ 62) :
    Ticking large 0 (run Meter.step (.new usizeMax 8) (largeFirst large)).queue := by
  let empty : DeliveryQueue Unit := .new usizeMax 8
  let one := empty.admitEntry .focused ⟨"a",(),large,none,0⟩
  let two := one.admitEntry .focused ⟨"a",(),1,none,0⟩
  let three := two.admitEntry .focused ⟨"b",(),1,none,0⟩
  have limit : empty.byteLimit = usizeMax := rfl
  have fits : large + 10 ≤ usizeMax := by unfold usizeMax; omega
  have taken : empty.push .focused ⟨"a",(),large,none,0⟩ = some (.ok (),one) :=
    push_admits rfl rfl (by decide) (by decide) (by show 0 + large + 0 ≤ usizeMax; omega) (Nat.le_refl _)
  have taken' : one.push .focused ⟨"a",(),1,none,0⟩ = some (.ok (),two) :=
    push_admits rfl rfl (by show 1 + 0 < 8; decide) (by show 1 < u64Max; decide) (by show 0 + large + 1 + 0 ≤ usizeMax; omega)
      (Nat.le_refl _)
  have taken'' : two.push .focused ⟨"b",(),1,none,0⟩ = some (.ok (),three) :=
    push_admits rfl rfl (by show 2 + 0 < 8; decide) (by show 2 < u64Max; decide)
      (by show 0 + large + 1 + 1 + 0 ≤ usizeMax; omega) (Nat.le_refl _)
  have indexed : three.Indexed := DeliveryQueue.admit_indexed (DeliveryQueue.admit_indexed (DeliveryQueue.admit_indexed
    (DeliveryQueue.indexed_new _ _) _ _) _ _) _ _
  have start : empty.AllActive := by
    intro terminalId lane held
    simp [empty,DeliveryQueue.new] at held
  have active : three.AllActive := (DeliveryQueue.admitEntry_admits two _ _).active
    ((DeliveryQueue.admitEntry_admits one _ _).active ((DeliveryQueue.admitEntry_admits empty _ _).active start))
  let lane : Lane := ⟨.focused,insert 1 {0},[],0⟩
  have held : three.lanes.lookup "a" = some lane := rfl
  have small : three.lanes.lookup "b" = some ⟨.focused,{2},[],0⟩ := rfl
  have only : ∀ terminalId, terminalId ≠ "a" → terminalId ≠ "b" → three.lanes.lookup terminalId = none := by
    intro terminalId a b
    simp only [three,two,one,DeliveryQueue.admitEntry,lookup_insert,if_neg a,if_neg b]
    rfl
  have selected : three.selectLane = some "a" := by
    refine DeliveryQueue.selectLane_of_first active held fun other lane' apart held' before => ?_
    by_cases b : other = "b"
    · subst b
      obtain rfl := Option.some.inj (held'.symm.trans small)
      have tie : three.serviceKey ("b",⟨.focused,{2},[],0⟩) = toLex (0,toLex (0,toLex (0,"b"))) := rfl
      have tie' : three.serviceKey ("a",lane) = toLex (0,toLex (0,toLex (0,"a"))) := rfl
      rw [tie,tie'] at before
      simp only [Prod.Lex.toLex_le_toLex] at before
      revert before
      decide
    · rw [only other apart b] at held'
      cases held'
  have oldest : first lane.ids = some 0 := first_pair Nat.zero_lt_one
  have listed : three.entries.lookup 0 = some ⟨"a",(),large,none,0⟩ := rfl
  have popped : three.pop = some (some (.frame () large),three.popFrame 0 ⟨"a",(),large,none,0⟩ "a" lane) := by
    unfold DeliveryQueue.pop
    simp only [selected,held,Option.bind_eq_bind,Option.bind_some]
    simp only [lane] at oldest ⊢
    simp only [oldest,listed,Option.bind_some]
    rfl
  have reached : (run Meter.step (.new usizeMax 8) (largeFirst large)).queue =
      three.popFrame 0 ⟨"a",(),large,none,0⟩ "a" lane := by
    have begins : (Meter.new usizeMax 8 : Meter Unit).queue = empty := rfl
    rw [← begins] at taken
    simp only [largeFirst,smallFrame,run_cons,run_nil]
    rw [step_pushed taken,@step_pushed ⟨one,_,_⟩ _ _ _ _ taken',@step_pushed ⟨two,_,_⟩ _ _ _ _ taken'',
      @step_popped ⟨three,_,_⟩ _ _ popped]
  let charged : Lane := ⟨.focused,{1},[],large⟩
  obtain ⟨middle,refreshed,serves⟩ := DeliveryQueue.serve_schedule { three with
    entries := three.entries.erase 0
    evictable := three.evictable.erase 0
    bytes := three.bytes - large } "a" { lane with ids := lane.ids.erase 0 } (max large 1)
  have ends : three.popFrame 0 ⟨"a",(),large,none,0⟩ "a" lane = middle.refreshClocks := refreshed
  have left : lane.ids.erase 0 = {1} := rfl
  have after : middle.lanes = three.lanes.insert "a" charged := by
    have amount : saturatingAdd u128Max (max 0 (three.laneClock .focused)) (max large 1) = large := by
      have zero : three.laneClock .focused = 0 := rfl
      rw [zero]
      unfold saturatingAdd u128Max
      omega
    have whole : charged.active = true := by simp [charged,Lane.active]
    have lanes : (three.popFrame 0 ⟨"a",(),large,none,0⟩ "a" lane).lanes = three.lanes.insert "a" charged := by
      simp only [DeliveryQueue.popFrame,DeliveryQueue.serve,DeliveryQueue.refreshClocks_lanes,left]
      simp only [lane,amount]
      rw [if_pos whole]
    rw [ends] at lanes
    exact lanes
  have own : middle.lanes.lookup "a" = some charged := by rw [after,lookup_insert,if_pos rfl]
  have other {terminalId : String} (apart : terminalId ≠ "a") : middle.lanes.lookup terminalId = three.lanes.lookup terminalId := by
    rw [after,lookup_insert,if_neg apart]
  have waits : middle.standing "b" = some (.focused,0) := DeliveryQueue.standing_of_lookup ((other (by decide)).trans small)
  have unsaturated : ∀ terminalId, middle.laneServed terminalId ≤ u128Max := by
    intro terminalId
    by_cases a : terminalId = "a"
    · subst a
      rw [DeliveryQueue.laneServed_of_standing (DeliveryQueue.standing_of_lookup own)]
      simp only [charged]
      unfold u128Max
      omega
    · by_cases b : terminalId = "b"
      · rw [b,DeliveryQueue.laneServed_of_standing waits]
        exact Nat.zero_le _
      · simp [DeliveryQueue.laneServed,DeliveryQueue.standing,other a,only terminalId a b]
  have catches := (DeliveryQueue.laneClock_refresh (serves.active active) .focused unsaturated).behind "b" ⟨0,waits⟩
  rw [DeliveryQueue.laneServed_of_standing waits,serves.laneClock] at catches
  have kept := (DeliveryQueue.popFrame_spec indexed held rfl oldest listed rfl).2
  rw [reached]
  refine ⟨kept,?_,?_,?_,?_,?_,?_,?_,rfl,rfl,?_,rfl,rfl,rfl,rfl⟩
  · rw [ends]
    exact own
  · rw [ends]
    exact (other (by decide)).trans small
  · intro terminalId a b
    rw [ends]
    exact (other a).trans (only terminalId a b)
  · rfl
  · rw [ends]
    exact catches
  · rw [ends]
    show middle.lanes.entries.length = 2
    rw [after]
    rfl
  · rfl
  · show 0 + large + 1 + 1 - large = 2
    omega

end Freshell.Connection
