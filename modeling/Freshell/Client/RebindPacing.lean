import Freshell.Client.RebindQueue
import Freshell.Library.Executions

/-!
The queue keeps its slots, its keys and its pace in every run, and is pumped as long as no
job throws out of a pump that nothing else will resume. In a run that goes on, every key that
came while it held a slot starts again behind its release.
-/
namespace Freshell.Client
open Freshell.Library.Runs Freshell.Library.Executions

namespace RebindQueue
variable {Run : Type} {queue : RebindQueue Run}

/-! ### Pumping -/

/-- What waits for a free slot will be looked at. -/
def Pumping (queue : RebindQueue Run) : Prop :=
  queue.queued ≠ [] → queue.inFlight.length < queue.maxInFlight → queue.pumpTimer.isSome ∨ queue.inPump

structure Paced (queue : RebindQueue Run) : Prop where
  slots : queue.inFlight.length ≤ queue.maxInFlight
  flown : (queue.inFlight.map (·.job.key)).Nodup
  waiting : (queue.queued.map (·.key)).Nodup
  spaced : queue.starts.IsChain fun first second => first.startedAt + queue.minStartIntervalMs ≤ second.startedAt
  pumping : Pumping queue

/-- A throw now leaves the pump with a job that waits, a free slot and no timer. -/
def Stranding (queue : RebindQueue Run) : Prop :=
  queue.inPump = true ∧ queue.queued ≠ [] ∧ queue.inFlight.length < queue.maxInFlight ∧ queue.pumpTimer = none

theorem Orderly.paced (orderly : Orderly queue) (pumping : Pumping queue) : Paced queue where
  slots := by
    have bounded := orderly.bounded
    rwa [orderly.flight,List.length_map] at bounded
  flown := orderly.flight ▸ orderly.distinct
  waiting := orderly.queuedDistinct
  spaced := orderly.spaced
  pumping := pumping

theorem Orderly.flying (orderly : Orderly queue) : queue.inFlightKeys.length = queue.inFlight.length := by
  rw [orderly.flight,List.length_map]

theorem schedulePump_isSome (queue : RebindQueue Run) (delayMs now : Int) : (queue.schedulePump delayMs now).pumpTimer.isSome := by
  unfold schedulePump
  split
  · assumption
  · rfl

theorem pumping_timer (set : queue.pumpTimer.isSome) : Pumping queue := fun _ _ => .inl set

theorem pumping_turn (orderly : Orderly queue) (inside : queue.inPump = true) (now : Int) : Pumping (queue.turn now) := by
  unfold turn
  split
  · rename_i nothing
    exact fun some => absurd nothing some
  split
  · split
    · exact pumping_timer (schedulePump_isSome queue _ now)
    · exact fun _ _ => .inr inside
  · rename_i full
    rw [orderly.flying] at full
    exact fun _ free => absurd free full

theorem pumping_pump (orderly : Orderly queue) (outside : queue.inPump = false) (now : Int) : Pumping (queue.pump now) := by
  unfold pump
  rw [if_neg (by simp [outside])]
  exact pumping_turn (orderly.timer queue.pumpTimer true) rfl now

theorem pumping_release (orderly : Orderly queue) (pumping : Pumping queue) (handle : Nat) (now : Int) :
    Pumping (queue.release handle now) := by
  unfold release
  split
  · exact pumping
  rename_i flight started
  split
  · exact pumping
  · rename_i held
    have free := orderly.letGo started (by simpa using held)
    simp only
    split
    · rename_i idle
      exact pumping_pump free (by simpa using (Bool.and_eq_true_iff.mp idle).1) now
    · exact pumping_timer (schedulePump_isSome _ 0 now)

theorem pumping_setRerun (pumping : Pumping queue) (job : RebindJob Run) : Pumping (queue.setRerun job) := by
  unfold setRerun
  split <;> exact pumping

theorem pumping_next (orderly : Orderly queue) (pumping : Pumping queue) (event : RebindEvent Run)
    (steady : event = .throws → ¬Stranding queue) : Pumping (queue.next event) := by
  cases event with
  | enqueue job now =>
    simp only [next,enqueue]
    split
    · exact pumping_setRerun pumping job
    split
    · exact pumping
    · exact pumping_timer (schedulePump_isSome _ 0 now)
  | release handle now => exact pumping_release orderly pumping handle now
  | timeout handle now =>
    simp only [next]
    split
    · exact pumping
    · exact pumping_release orderly pumping handle now
  | pumpFires now =>
    simp only [next,pumpFires]
    split
    · exact pumping
    rename_i outside
    split
    · exact pumping
    · exact pumping_pump (orderly.timer none queue.inPump) (by simpa using outside) now
  | returns now =>
    simp only [next]
    split
    · exact pumping_turn orderly ‹_› now
    · exact pumping
  | throws =>
    intro some free
    obtain set | inside := pumping some free
    · exact .inl set
    · refine .inl (Option.isSome_iff_ne_none.mpr fun unset => steady rfl ⟨inside,some,free,unset⟩)

theorem stranded_throw (stranding : Stranding queue) : ¬Pumping (queue.next .throws) := by
  intro pumping
  obtain ⟨_,some,free,unset⟩ := stranding
  obtain set | inside := pumping some free
  · simp [next,unset] at set
  · simp [next] at inside

/-! ### Waking -/

/-- What waits will be looked at when the timer fires, or when a slot is given back. -/
def Wakeful (queue : RebindQueue Run) : Prop :=
  queue.queued ≠ [] → 0 < queue.maxInFlight → queue.pumpTimer.isSome ∨ queue.inFlight ≠ []

theorem wakeful_timer (set : queue.pumpTimer.isSome) : Wakeful queue := fun _ _ => .inl set

theorem wakeful_turn (orderly : Orderly queue) (now : Int) : Wakeful (queue.turn now) := by
  unfold turn
  split
  · rename_i nothing
    exact fun some => absurd nothing some
  split
  · split
    · exact wakeful_timer (schedulePump_isSome queue _ now)
    · exact fun _ _ => .inr (by simp [start,inFlight])
  · rename_i full
    rw [orderly.flying] at full
    intro _ room
    refine .inr fun empty => ?_
    change queue.inFlight = [] at empty
    rw [empty] at full
    exact full room

theorem wakeful_release (orderly : Orderly queue) (wakeful : Wakeful queue) (handle : Nat) (now : Int) :
    Wakeful (queue.release handle now) := by
  unfold release
  split
  · exact wakeful
  rename_i flight started
  split
  · exact wakeful
  · rename_i held
    have free := orderly.letGo started (by simpa using held)
    simp only
    split
    · rename_i idle
      unfold pump
      rw [if_neg (by simpa using (Bool.and_eq_true_iff.mp idle).1)]
      exact wakeful_turn (free.timer _ true) now
    · exact wakeful_timer (schedulePump_isSome _ 0 now)

theorem wakeful_next (orderly : Orderly queue) (wakeful : Wakeful queue) (event : RebindEvent Run) :
    Wakeful (queue.next event) := by
  cases event with
  | enqueue job now =>
    simp only [next,enqueue]
    split
    · unfold setRerun
      split <;> exact wakeful
    split
    · exact wakeful
    · exact wakeful_timer (schedulePump_isSome _ 0 now)
  | release handle now => exact wakeful_release orderly wakeful handle now
  | timeout handle now =>
    simp only [next]
    split
    · exact wakeful
    · exact wakeful_release orderly wakeful handle now
  | pumpFires now =>
    simp only [next,pumpFires]
    split
    · exact wakeful
    rename_i outside
    split
    · exact wakeful
    · unfold pump
      rw [if_neg outside]
      exact wakeful_turn (orderly.timer none true) now
  | returns now =>
    simp only [next]
    split
    · exact wakeful_turn orderly now
    · exact wakeful
  | throws => exact wakeful

/-! ### What a step keeps -/

/-- What was admitted stays so, in order; a start stays as it is but for its release. -/
structure Follows (old new : RebindQueue Run) : Prop where
  admitted : old.admitted <+: new.admitted
  starts : ∀ (handle : Nat) (flight : RebindStart Run), old.starts[handle]? = some flight →
    ∃ later, new.starts[handle]? = some later ∧ later.job = flight.job ∧ later.startedAt = flight.startedAt ∧
      (flight.released = true → later.released = true)
  maxInFlight : new.maxInFlight = old.maxInFlight
  interval : new.minStartIntervalMs = old.minStartIntervalMs

namespace Follows
variable {first second third : RebindQueue Run}

theorem same (lists : second.admitted = first.admitted) (starts : second.starts = first.starts)
    (maxInFlight : second.maxInFlight = first.maxInFlight) (interval : second.minStartIntervalMs = first.minStartIntervalMs) :
    Follows first second :=
  ⟨lists ▸ List.prefix_refl _,fun _ flight started => ⟨flight,starts ▸ started,rfl,rfl,id⟩,maxInFlight,interval⟩

theorem refl (queue : RebindQueue Run) : Follows queue queue := same rfl rfl rfl rfl

theorem trans (one : Follows first second) (two : Follows second third) : Follows first third where
  admitted := one.admitted.trans two.admitted
  starts handle flight started := by
    obtain ⟨middle,there,sameJob,sameTime,stays⟩ := one.starts handle flight started
    obtain ⟨last,here,lastJob,lastTime,remains⟩ := two.starts handle middle there
    exact ⟨last,here,lastJob.trans sameJob,lastTime.trans sameTime,fun done => remains (stays done)⟩
  maxInFlight := two.maxInFlight.trans one.maxInFlight
  interval := two.interval.trans one.interval

theorem length_le (follows : Follows first second) : first.starts.length ≤ second.starts.length := by
  by_contra shorter
  have inside : second.starts.length < first.starts.length := by omega
  obtain ⟨later,there,_⟩ := follows.starts second.starts.length _ (List.getElem?_eq_getElem inside)
  simp at there

theorem schedulePump (queue : RebindQueue Run) (delayMs now : Int) : Follows queue (queue.schedulePump delayMs now) := by
  unfold RebindQueue.schedulePump
  split <;> exact same rfl rfl rfl rfl

theorem letGo {handle : Nat} {flight : RebindStart Run} (started : queue.starts[handle]? = some flight) :
    Follows queue (queue.letGo handle flight) := by
  have kept : ∀ (index : Nat) (earlier : RebindStart Run), queue.starts[index]? = some earlier →
      ∃ later, (queue.starts.set handle { flight with released := true })[index]? = some later ∧ later.job = earlier.job ∧
        later.startedAt = earlier.startedAt ∧ (earlier.released = true → later.released = true) := by
    intro index earlier there
    by_cases own : handle = index
    · subst own
      obtain rfl := Option.some.inj (started.symm.trans there)
      have inside := (List.getElem?_eq_some_iff.mp started).1
      exact ⟨{ flight with released := true },by simp [inside],rfl,rfl,fun _ => rfl⟩
    · exact ⟨earlier,by rw [List.getElem?_set_ne own,there],rfl,rfl,id⟩
  have jobs := map_released started (·.job) rfl
  unfold RebindQueue.letGo
  simp only
  split
  · refine ⟨?_,kept,rfl,rfl⟩
    simp [RebindQueue.admitted,jobs]
  · rename_i rerun again
    refine ⟨?_,kept,rfl,rfl⟩
    simp only [RebindQueue.admitted,jobs]
    exact ⟨[rerun],by simp⟩

theorem turn (queue : RebindQueue Run) (now : Int) : Follows queue (queue.turn now) := by
  unfold RebindQueue.turn
  split
  · exact same rfl rfl rfl rfl
  rename_i job rest waiting
  split
  · split
    · exact (schedulePump queue _ now).trans (same rfl rfl rfl rfl)
    · refine ⟨?_,?_,rfl,rfl⟩
      · simp [RebindQueue.admitted,start,waiting]
      · intro handle flight started
        refine ⟨flight,?_,rfl,rfl,id⟩
        have inside := (List.getElem?_eq_some_iff.mp started).1
        simp only [start]
        rw [List.getElem?_append_left inside,started]
  · exact same rfl rfl rfl rfl

theorem pump (queue : RebindQueue Run) (now : Int) : Follows queue (queue.pump now) := by
  unfold RebindQueue.pump
  split
  · exact refl queue
  · have entered : Follows queue { queue with inPump := true } := same rfl rfl rfl rfl
    exact entered.trans (turn _ now)

theorem release (queue : RebindQueue Run) (handle : Nat) (now : Int) : Follows queue (queue.release handle now) := by
  unfold RebindQueue.release
  split
  · exact refl queue
  split
  · exact refl queue
  · rename_i flight started _
    simp only
    split
    · exact (letGo started).trans (pump _ now)
    · exact (letGo started).trans (schedulePump _ 0 now)

theorem next (queue : RebindQueue Run) (event : RebindEvent Run) : Follows queue (queue.next event) := by
  cases event with
  | enqueue job now =>
    simp only [RebindQueue.next,enqueue]
    split
    · unfold setRerun
      split <;> exact same rfl rfl rfl rfl
    split
    · exact refl queue
    · refine Follows.trans ?_ (schedulePump _ 0 now)
      exact ⟨⟨[job],by simp [RebindQueue.admitted]⟩,fun _ flight started => ⟨flight,started,rfl,rfl,id⟩,rfl,rfl⟩
  | release handle now => exact release queue handle now
  | timeout handle now =>
    simp only [RebindQueue.next]
    split
    · exact refl queue
    · exact release queue handle now
  | pumpFires now =>
    simp only [RebindQueue.next,pumpFires]
    split
    · exact refl queue
    split
    · exact refl queue
    · have cleared : Follows queue { queue with pumpTimer := none } := same rfl rfl rfl rfl
      exact cleared.trans (pump _ now)
  | returns now =>
    simp only [RebindQueue.next]
    split
    · exact turn queue now
    · exact refl queue
  | throws => exact same rfl rfl rfl rfl

end Follows
/-! ### Runs that go on -/

def during (options : RebindQueueOptions) (events : Nat → RebindEvent Run) : Nat → RebindQueue Run :=
  execution next (new options) events

/-- Every body ends, so a timer fires when it is due, outside of the pump; and what holds a
    slot is released, by the job or by its timeout. -/
structure GoesOn (options : RebindQueueOptions) (events : Nat → RebindEvent Run) : Prop where
  timers : ∀ time, (during options events time).pumpTimer.isSome →
    ∃ later, time ≤ later ∧ ∃ due now, (during options events later).pumpTimer = some due ∧
      (during options events later).inPump = false ∧ events later = .pumpFires now ∧ due ≤ now
  slots : ∀ time handle flight, (during options events time).starts[handle]? = some flight → flight.released = false →
    ∃ later, time ≤ later ∧ ((∃ now, events later = .release handle now) ∨
      ((during options events later).inPump = false ∧ ∃ now, events later = .timeout handle now))

structure Calm (queue : RebindQueue Run) : Prop where
  outside : queue.inPump = false
  released : queue.inFlight = []

theorem Calm.release (calm : Calm queue) (handle : Nat) (now : Int) : queue.release handle now = queue := by
  unfold RebindQueue.release
  split
  · rfl
  rename_i flight started
  split
  · rfl
  · rename_i held
    have among : flight ∈ queue.inFlight := List.mem_filter.mpr ⟨List.mem_of_getElem? started,by simpa using held⟩
    rw [calm.released] at among
    simp at among

theorem Calm.next_timer (calm : Calm queue) (orderly : Orderly queue) {due : Int} (set : queue.pumpTimer = some due)
    {event : RebindEvent Run} (other : ∀ now, event ≠ .pumpFires now) :
    (queue.next event).pumpTimer = some due ∧ Calm (queue.next event) := by
  cases event with
  | enqueue job now =>
    have unheld : job.key ∉ queue.inFlightKeys := by
      rw [orderly.flight,calm.released]
      simp
    simp only [next,enqueue,if_neg unheld]
    split
    · exact ⟨set,calm⟩
    · simp only [schedulePump,set,Option.isSome_some,if_true]
      exact ⟨trivial,calm.outside,calm.released⟩
  | release handle now =>
    simp only [next,calm.release]
    exact ⟨set,calm⟩
  | timeout handle now =>
    simp only [next,calm.release,ite_self]
    exact ⟨set,calm⟩
  | pumpFires now => exact absurd rfl (other now)
  | returns now =>
    simp only [next,calm.outside,Bool.false_eq_true,if_false]
    exact ⟨set,calm⟩
  | throws => exact ⟨set,rfl,calm.released⟩

/-- The timer fires where nothing runs: the head of the queue starts, or the timer is set for
    the time at which it may. -/
theorem Calm.fires (calm : Calm queue) (orderly : Orderly queue) (some : queue.queued ≠ []) (room : 0 < queue.maxInFlight)
    (set : queue.pumpTimer.isSome) (now : Int) :
    queue.starts.length < (queue.next (.pumpFires now)).starts.length ∨
      (Calm (queue.next (.pumpFires now)) ∧ ∃ last, queue.lastStartAt = Option.some last ∧
        now < last + queue.minStartIntervalMs ∧
        (queue.next (.pumpFires now)).pumpTimer = Option.some (last + queue.minStartIntervalMs)) := by
  obtain ⟨job,rest,waiting⟩ := List.exists_cons_of_ne_nil some
  have free : queue.inFlightKeys.length < queue.maxInFlight := by
    rw [orderly.flying,calm.released]
    exact room
  have unset : queue.pumpTimer.isNone = false := by simpa using set
  have turned : queue.next (.pumpFires now) = { queue with pumpTimer := none, inPump := true }.turn now := by
    simp [next,pumpFires,pump,calm.outside,unset]
  rw [turned]
  simp only [turn,waiting,if_pos free]
  split
  · rename_i early
    right
    cases began : queue.lastStartAt with
    | none => simp [waitAt,began] at early
    | some last =>
      simp only [waitAt,began] at early
      refine ⟨⟨rfl,calm.released⟩,last,rfl,by omega,?_⟩
      simp only [schedulePump,waitAt,Option.isSome_none,Bool.false_eq_true,if_false,Option.some.injEq]
      omega
  · left
    simp [start]

variable (options : RebindQueueOptions) (events : Nat → RebindEvent Run) (time : Nat)

theorem orderly_during : Orderly (during options events time) :=
  invariant_execution (Orderly.new options) (fun _ event orderly => orderly.next event) time

theorem wakeful_during : Wakeful (during options events time) := by
  refine (@invariant_execution _ _ next (new options) events (fun queue => Orderly queue ∧ Wakeful queue) ?_ ?_ time).2
  · exact ⟨Orderly.new options,fun some => absurd rfl some⟩
  · exact fun _ event both => ⟨both.1.next event,wakeful_next both.1 both.2 event⟩

theorem follows_during {earlier later : Nat} (ordered : earlier ≤ later) :
    Follows (during options events earlier) (during options events later) :=
  kept_execution Follows.refl (fun one two => one.trans two) (fun time => Follows.next _ (events time)) ordered

theorem Follows.lastStartAt {first second : RebindQueue Run} (follows : Follows first second) (one : Orderly first)
    (two : Orderly second) (steady : second.starts.length = first.starts.length) :
    second.lastStartAt = first.lastStartAt := by
  rw [one.last,two.last,List.getLast?_eq_getElem?,List.getLast?_eq_getElem?,steady]
  cases began : first.starts[first.starts.length - 1]? with
  | none =>
    have nothing : first.starts.length = 0 := by
      have outside := List.getElem?_eq_none_iff.mp began
      omega
    rw [List.getElem?_eq_none (by omega)]
  | some flight =>
    obtain ⟨later,there,_,sameTime,_⟩ := follows.starts _ flight began
    rw [there]
    simp [sameTime]

theorem release_frees {handle : Nat} {flight : RebindStart Run} (started : queue.starts[handle]? = some flight) (now : Int) :
    ∃ later, (queue.release handle now).starts[handle]? = some later ∧ later.released = true := by
  have inside := (List.getElem?_eq_some_iff.mp started).1
  unfold release
  simp only [started]
  split
  · exact ⟨flight,started,‹_›⟩
  · have freed : (queue.letGo handle flight).starts[handle]? = some { flight with released := true } := by
      unfold letGo
      simp only
      split <;> simp [inside]
    split
    · obtain ⟨later,there,_,_,stays⟩ := (Follows.pump (queue.letGo handle flight) now).starts handle _ freed
      exact ⟨later,there,stays rfl⟩
    · obtain ⟨later,there,_,_,stays⟩ := (Follows.schedulePump (queue.letGo handle flight) 0 now).starts handle _ freed
      exact ⟨later,there,stays rfl⟩

theorem Follows.queued_ne_nil {first second : RebindQueue Run} (follows : Follows first second)
    (steady : second.starts.length = first.starts.length) (some : first.queued ≠ []) : second.queued ≠ [] := by
  have longer := follows.admitted.length_le
  simp only [RebindQueue.admitted,List.length_append,List.length_map] at longer
  have waiting := List.length_pos_iff.mpr some
  exact List.length_pos_iff.mp (by omega)

section
variable {options : RebindQueueOptions} {events : Nat → RebindEvent Run}

theorem during_released {earlier later handle : Nat} (ordered : earlier ≤ later) {flight after : RebindStart Run}
    (started : (during options events earlier).starts[handle]? = some flight) (done : flight.released = true)
    (there : (during options events later).starts[handle]? = some after) : after.released = true := by
  obtain ⟨last,here,_,_,stays⟩ := (follows_during options events ordered).starts handle _ started
  rw [Option.some.inj (there.symm.trans here)]
  exact stays done

variable {time : Nat}

theorem GoesOn.releases (goesOn : GoesOn options events) {handle : Nat} {flight : RebindStart Run}
    (started : (during options events time).starts[handle]? = some flight) (held : flight.released = false) :
    ∃ later, time ≤ later ∧ ∃ freed, (during options events (later + 1)).starts[handle]? = some freed ∧ freed.released = true := by
  obtain ⟨later,ordered,event⟩ := goesOn.slots time handle _ started held
  obtain ⟨middle,there,_⟩ := (follows_during options events ordered).starts handle _ started
  refine ⟨later,ordered,?_⟩
  change ∃ freed, ((during options events later).next (events later)).starts[handle]? = some freed ∧ freed.released = true
  obtain ⟨now,event⟩ | ⟨outside,now,event⟩ := event
  · rw [event]
    exact release_frees there now
  · simp only [event,next,outside,Bool.false_eq_true,if_false]
    exact release_frees there now

theorem GoesOn.all_released (goesOn : GoesOn options events)
    (steady : ∀ after, time ≤ after → (during options events after).starts.length = (during options events time).starts.length) :
    ∃ later, time ≤ later ∧ ∀ after, later ≤ after → (during options events after).inFlight = [] := by
  have each : ∀ handle < (during options events time).starts.length, ∃ later, time ≤ later ∧ ∀ after, later ≤ after →
      ∀ flight, (during options events after).starts[handle]? = some flight → flight.released = true := by
    intro handle inside
    have started := List.getElem?_eq_getElem inside
    cases done : ((during options events time).starts[handle]).released with
    | true => exact ⟨time,Nat.le_refl _,fun after ordered flight => during_released ordered started done⟩
    | false =>
      obtain ⟨later,ordered,freed,there,done⟩ := goesOn.releases started done
      exact ⟨later + 1,by omega,fun after behind flight => during_released behind there done⟩
  obtain ⟨later,ordered,settled⟩ := all_settle each
  refine ⟨later,ordered,fun after behind => ?_⟩
  refine List.filter_eq_nil_iff.mpr fun flight listed => ?_
  obtain ⟨handle,there⟩ := List.getElem?_of_mem listed
  have inside := (List.getElem?_eq_some_iff.mp there).1
  rw [steady after (by omega)] at inside
  simpa using settled after behind handle inside flight there

theorem GoesOn.starts (goesOn : GoesOn options events) (room : 0 < (during options events time).maxInFlight)
    (some : (during options events time).queued ≠ []) :
    ∃ later, time ≤ later ∧ (during options events time).starts.length < (during options events later).starts.length := by
  by_contra idle
  have none : ∀ after, time ≤ after →
      (during options events after).starts.length ≤ (during options events time).starts.length := fun after ordered =>
    Nat.not_lt.mp fun grown => idle ⟨after,ordered,grown⟩
  have steady : ∀ after, time ≤ after →
      (during options events after).starts.length = (during options events time).starts.length := fun after ordered =>
    Nat.le_antisymm (none after ordered) (follows_during options events ordered).length_le
  have waiting : ∀ after, time ≤ after → (during options events after).queued ≠ [] := fun after ordered =>
    (follows_during options events ordered).queued_ne_nil (steady after ordered) some
  have slots : ∀ after, time ≤ after → 0 < (during options events after).maxInFlight := fun after ordered =>
    (follows_during options events ordered).maxInFlight ▸ room
  have fires : ∀ after, time ≤ after → Calm (during options events after) → (during options events after).pumpTimer.isSome →
      ∀ now, events after = .pumpFires now → Calm (during options events (after + 1)) ∧
        ∃ last, (during options events time).lastStartAt = Option.some last ∧
          now < last + (during options events time).minStartIntervalMs ∧
          (during options events (after + 1)).pumpTimer =
            Option.some (last + (during options events time).minStartIntervalMs) := by
    intro after ordered calm set now event
    have follows := follows_during options events ordered
    have fired := calm.fires (orderly_during options events after) (waiting after ordered) (slots after ordered) set now
    rw [←event] at fired
    obtain grown | ⟨calm',last,began,early,due⟩ := fired
    · have same := steady (after + 1) (by omega)
      have before := steady after ordered
      change ((during options events after).next (events after)).starts.length = _ at same
      omega
    · rw [follows.lastStartAt (orderly_during options events time) (orderly_during options events after) (steady after ordered)]
        at began
      rw [follows.interval] at early due
      exact ⟨calm',last,began,early,due⟩
  obtain ⟨calmFrom,ordered,released⟩ := goesOn.all_released steady
  -- The timer fires first with whatever it was set for, and then when the next start is due.
  have set : (during options events calmFrom).pumpTimer.isSome := by
    obtain set | flying := wakeful_during options events calmFrom (waiting calmFrom ordered) (slots calmFrom ordered)
    · exact set
    · exact absurd (released calmFrom (Nat.le_refl _)) flying
  obtain ⟨first,behind,due,now,armed,outside,event,_⟩ := goesOn.timers calmFrom set
  obtain ⟨calm,last,began,_,rearmed⟩ := fires first (by omega) ⟨outside,released first behind⟩ (by simp [armed]) now event
  have stays : ∀ after, first + 1 ≤ after → Calm (during options events after) ∧
      (during options events after).pumpTimer = Option.some (last + (during options events time).minStartIntervalMs) := by
    intro after later
    induction later with
    | refl => exact ⟨calm,rearmed⟩
    | @step after later ih =>
      by_cases again : ∃ now, events after = .pumpFires now
      · obtain ⟨now,event⟩ := again
        obtain ⟨calm',last',began',_,due'⟩ := fires after (Nat.le_trans (by omega) later) ih.1 (by simp [ih.2])
          now event
        obtain rfl := Option.some.inj (began.symm.trans began')
        exact ⟨calm',due'⟩
      · have kept := ih.1.next_timer (orderly_during options events after) ih.2 fun now event => again ⟨now,event⟩
        exact ⟨kept.2,kept.1⟩
  obtain ⟨second,further,due',now',armed',outside',event',late⟩ := goesOn.timers (first + 1) (by simp [rearmed])
  obtain ⟨calm',due''⟩ := stays second further
  obtain ⟨_,last',began',early,_⟩ := fires second (by omega) calm' (by simp [due'']) now' event'
  obtain rfl := Option.some.inj (began.symm.trans began')
  rw [due''] at armed'
  have same := Option.some.inj armed'
  omega

theorem GoesOn.admitted_starts (goesOn : GoesOn options events) {index : Nat} {job : RebindJob Run}
    (room : 0 < (during options events time).maxInFlight)
    (admitted : (during options events time).admitted[index]? = some job) :
    ∃ later, time ≤ later ∧ index < (during options events later).starts.length := by
  refine reaches fun now ordered short => ?_
  have follows := follows_during options events ordered
  refine goesOn.starts (follows.maxInFlight ▸ room) fun nothing => ?_
  have inside := (List.getElem?_eq_some_iff.mp admitted).1
  have longer := follows.admitted.length_le
  simp only [RebindQueue.admitted,List.length_append,List.length_map,nothing,List.length_nil] at inside longer
  omega

end

/-! ### A key that comes again -/

/-- The start with this number holds its slot, and its key has come again. -/
structure Awaits (queue : RebindQueue Run) (handle : Nat) (key : String) : Prop where
  held : ∃ flight, queue.starts[handle]? = some flight ∧ flight.released = false ∧ flight.job.key = key
  again : key ∈ queue.rerunOnRelease.map (·.key)

def Requeued (old new : RebindQueue Run) (key : String) : Prop :=
  ∃ index job, old.admitted.length ≤ index ∧ new.admitted[index]? = some job ∧ job.key = key

theorem Requeued.follows {first second third : RebindQueue Run} {key : String} (requeued : Requeued first second key)
    (follows : Follows second third) : Requeued first third key := by
  obtain ⟨index,job,new,there,same⟩ := requeued
  obtain ⟨more,longer⟩ := follows.admitted
  refine ⟨index,job,new,?_,same⟩
  rw [←longer,List.getElem?_append_left (List.getElem?_eq_some_iff.mp there).1,there]

theorem Orderly.unshared (orderly : Orderly queue) {first second : Nat} {one two : RebindStart Run}
    (here : queue.starts[first]? = some one) (there : queue.starts[second]? = some two) (held : one.released = false)
    (also : two.released = false) (same : one.job.key = two.job.key) : first = second := by
  have apart : queue.starts.Pairwise fun one two => one.released = false → two.released = false → one.job.key ≠ two.job.key := by
    have distinct := orderly.distinct
    rw [orderly.flight,List.Nodup,List.pairwise_map,inFlight,List.pairwise_filter] at distinct
    refine distinct.imp fun separate held also => ?_
    exact separate (by simp [held]) (by simp [also])
  rw [List.pairwise_iff_getElem] at apart
  obtain ⟨inside,rfl⟩ := List.getElem?_eq_some_iff.mp here
  obtain ⟨within,rfl⟩ := List.getElem?_eq_some_iff.mp there
  obtain earlier | equal | later := Nat.lt_trichotomy first second
  · exact absurd same (apart first second inside within earlier held also)
  · exact equal
  · exact absurd same.symm (apart second first within inside later also held)

namespace Awaits
variable {handle : Nat} {key : String}

theorem kept {other : RebindQueue Run} (awaits : Awaits queue handle key) (starts : queue.starts <+: other.starts)
    (reruns : ∀ key ∈ queue.rerunOnRelease.map (·.key), key ∈ other.rerunOnRelease.map (·.key)) : Awaits other handle key := by
  obtain ⟨flight,started,held,same⟩ := awaits.held
  obtain ⟨more,longer⟩ := starts
  refine ⟨⟨flight,?_,held,same⟩,reruns key awaits.again⟩
  rw [←longer,List.getElem?_append_left (List.getElem?_eq_some_iff.mp started).1,started]

theorem schedulePump (awaits : Awaits queue handle key) (delayMs now : Int) : Awaits (queue.schedulePump delayMs now) handle key := by
  unfold RebindQueue.schedulePump
  split
  · exact awaits
  · exact awaits.kept (List.prefix_refl _) fun _ => id

theorem turn (awaits : Awaits queue handle key) (now : Int) : Awaits (queue.turn now) handle key := by
  unfold RebindQueue.turn
  split
  · exact awaits.kept (List.prefix_refl _) fun _ => id
  split
  · split
    · exact (awaits.schedulePump _ now).kept (List.prefix_refl _) fun _ => id
    · exact awaits.kept (List.prefix_append _ _) fun _ => id
  · exact awaits.kept (List.prefix_refl _) fun _ => id

theorem pump (awaits : Awaits queue handle key) (now : Int) : Awaits (queue.pump now) handle key := by
  unfold RebindQueue.pump
  split
  · exact awaits
  · have entered : Awaits { queue with inPump := true } handle key := awaits.kept (List.prefix_refl _) fun _ => id
    exact entered.turn now

theorem enqueue (awaits : Awaits queue handle key) (job : RebindJob Run) (now : Int) : Awaits (queue.enqueue job now) handle key := by
  unfold RebindQueue.enqueue
  split
  · unfold setRerun
    split
    · refine awaits.kept (List.prefix_refl _) fun key listed => ?_
      obtain ⟨old,among,rfl⟩ := List.mem_map.mp listed
      refine List.mem_map.mpr ⟨_,List.mem_map.mpr ⟨old,among,rfl⟩,?_⟩
      split
      · exact Eq.symm ‹_›
      · rfl
    · refine awaits.kept (List.prefix_refl _) fun key listed => ?_
      simp only [List.map_append,List.mem_append]
      exact .inl listed
  split
  · exact awaits
  · have pushed : Awaits { queue with queued := queue.queued ++ [job] } handle key :=
      awaits.kept (List.prefix_refl _) fun _ => id
    exact pushed.schedulePump 0 now

theorem letGo (awaits : Awaits queue handle key) (orderly : Orderly queue) {other : Nat} {flight : RebindStart Run}
    (started : queue.starts[other]? = some flight) (held : flight.released = false) :
    Awaits (queue.letGo other flight) handle key ∨ Requeued queue (queue.letGo other flight) key := by
  obtain ⟨own,there,unreleased,same⟩ := awaits.held
  obtain ⟨rerun,listed,again⟩ := List.mem_map.mp awaits.again
  by_cases equal : other = handle
  · right
    subst equal
    obtain rfl := Option.some.inj (started.symm.trans there)
    unfold RebindQueue.letGo
    cases found : queue.rerunOnRelease.find? (·.key = flight.job.key) with
    | none => exact absurd (again.trans same.symm) (by simpa using List.find?_eq_none.mp found rerun listed)
    | some next =>
      have named : next.key = flight.job.key := by simpa using List.find?_some found
      refine ⟨queue.admitted.length,next,Nat.le_refl _,?_,named.trans same⟩
      simp only [RebindQueue.admitted,map_released started (·.job) rfl]
      rw [←List.append_assoc,List.getElem?_append_right (Nat.le_refl _)]
      simp
  · left
    have distinct : flight.job.key ≠ key := fun clash =>
      equal (orderly.unshared started there held unreleased (clash.trans same.symm))
    have starts : ∀ (reruns queued : List (RebindJob Run)), key ∈ reruns.map (·.key) → Awaits { queue with
        starts := queue.starts.set other { flight with released := true }
        inFlightKeys := queue.inFlightKeys.erase flight.job.key
        rerunOnRelease := reruns
        queued := queued } handle key := by
      intro reruns queued listed
      exact ⟨⟨own,by rw [List.getElem?_set_ne equal,there],unreleased,same⟩,listed⟩
    unfold RebindQueue.letGo
    simp only
    split
    · exact starts _ _ awaits.again
    · refine starts _ _ (List.mem_map.mpr ⟨rerun,List.mem_filter.mpr ⟨listed,?_⟩,again⟩)
      simpa [again] using fun clash => distinct clash.symm

theorem release (awaits : Awaits queue handle key) (orderly : Orderly queue) (other : Nat) (now : Int) :
    Awaits (queue.release other now) handle key ∨ Requeued queue (queue.release other now) key := by
  unfold RebindQueue.release
  split
  · exact .inl awaits
  rename_i flight started
  split
  · exact .inl awaits
  · rename_i held
    obtain waits | requeued := awaits.letGo orderly started (by simpa using held)
    · simp only
      split
      · exact .inl (waits.pump now)
      · exact .inl (waits.schedulePump 0 now)
    · simp only
      split
      · exact .inr (requeued.follows (Follows.pump _ now))
      · exact .inr (requeued.follows (Follows.schedulePump _ 0 now))

theorem next (awaits : Awaits queue handle key) (orderly : Orderly queue) (event : RebindEvent Run) :
    Awaits (queue.next event) handle key ∨ Requeued queue (queue.next event) key := by
  cases event with
  | enqueue job now => exact .inl (awaits.enqueue job now)
  | release other now => exact awaits.release orderly other now
  | timeout other now =>
    simp only [RebindQueue.next]
    split
    · exact .inl awaits
    · exact awaits.release orderly other now
  | pumpFires now =>
    left
    simp only [RebindQueue.next,pumpFires]
    split
    · exact awaits
    split
    · exact awaits
    · have cleared : Awaits { queue with pumpTimer := none } handle key := awaits.kept (List.prefix_refl _) fun _ => id
      exact cleared.pump now
  | returns now =>
    left
    simp only [RebindQueue.next]
    split
    · exact awaits.turn now
    · exact awaits
  | throws => exact .inl (awaits.kept (List.prefix_refl _) fun _ => id)

end Awaits

theorem enqueue_awaits (orderly : Orderly queue) {job : RebindJob Run} (held : job.key ∈ queue.inFlightKeys) (now : Int) :
    ∃ handle, Awaits (queue.enqueue job now) handle job.key := by
  rw [orderly.flight] at held
  obtain ⟨flight,flying,same⟩ := List.mem_map.mp held
  obtain ⟨listed,unreleased⟩ := List.mem_filter.mp flying
  obtain ⟨handle,there⟩ := List.getElem?_of_mem listed
  rw [←orderly.flight] at held
  refine ⟨handle,⟨flight,?_,by simpa using unreleased,same⟩,?_⟩
  · simp only [enqueue,if_pos held,setRerun]
    split <;> exact there
  · simp only [enqueue,if_pos held,setRerun]
    split
    · rename_i listed
      obtain ⟨old,among,named⟩ := List.mem_map.mp listed
      exact List.mem_map.mpr ⟨job,List.mem_map.mpr ⟨old,among,if_pos named⟩,rfl⟩
    · simp

/-- One step starts one job at most, and that one holds its slot. -/
def Grows (old new : RebindQueue Run) : Prop :=
  new.starts.length = old.starts.length ∨
    (new.starts.length = old.starts.length + 1 ∧ ∃ flight, new.starts.getLast? = some flight ∧ flight.released = false)

theorem grows_turn (queue : RebindQueue Run) (now : Int) : Grows queue (queue.turn now) := by
  have scheduled : ∀ delayMs, (queue.schedulePump delayMs now).starts = queue.starts := by
    intro delayMs
    unfold schedulePump
    split <;> rfl
  unfold turn
  split
  · exact .inl rfl
  split
  · split
    · exact .inl (congrArg List.length (scheduled _))
    · exact .inr (by simp [start])
  · exact .inl rfl

theorem grows_pump (queue : RebindQueue Run) (now : Int) : Grows queue (queue.pump now) := by
  unfold pump
  split
  · exact .inl rfl
  · exact grows_turn { queue with inPump := true } now

theorem grows_release (queue : RebindQueue Run) (handle : Nat) (now : Int) : Grows queue (queue.release handle now) := by
  unfold release
  split
  · exact .inl rfl
  rename_i flight started
  split
  · exact .inl rfl
  have same : (queue.letGo handle flight).starts.length = queue.starts.length := by
    unfold letGo
    simp only
    split <;> simp
  simp only
  split
  · obtain steady | ⟨more,last⟩ := grows_pump (queue.letGo handle flight) now
    · exact .inl (steady.trans same)
    · exact .inr ⟨same ▸ more,last⟩
  · left
    rw [←same]
    unfold schedulePump
    split <;> rfl

theorem grows_next (queue : RebindQueue Run) (event : RebindEvent Run) : Grows queue (queue.next event) := by
  cases event with
  | enqueue job now =>
    left
    simp only [next,enqueue,setRerun,schedulePump]
    split
    · split <;> rfl
    split
    · rfl
    · split <;> rfl
  | release handle now => exact grows_release queue handle now
  | timeout handle now =>
    simp only [next]
    split
    · exact .inl rfl
    · exact grows_release queue handle now
  | pumpFires now =>
    simp only [next,pumpFires]
    split
    · exact .inl rfl
    split
    · exact .inl rfl
    · exact grows_pump { queue with pumpTimer := none } now
  | returns now =>
    simp only [next]
    split
    · exact grows_turn queue now
    · exact .inl rfl
  | throws => exact .inl rfl

section
variable {options : RebindQueueOptions} {events : Nat → RebindEvent Run}

variable {job : RebindJob Run}

theorem GoesOn.newest (goesOn : GoesOn options events) {time index : Nat}
    (room : 0 < (during options events (time + 1)).maxInFlight)
    (admitted : (during options events (time + 1)).admitted[index]? = some job)
    (unstarted : (during options events time).starts.length ≤ index) :
    ∃ later flight, time < later ∧ (during options events later).starts.length = index + 1 ∧
      (during options events later).starts.getLast? = some flight ∧ flight.job = job ∧ flight.released = false := by
  obtain ⟨later,ordered,started,earliest⟩ := first_time (goesOn.admitted_starts room admitted)
  obtain ⟨before,rfl⟩ := Nat.exists_eq_add_of_lt ordered
  have short : (during options events (time + before)).starts.length ≤ index := by
    cases before with
    | zero => exact unstarted
    | succ before => exact Nat.not_lt.mp (earliest (time + (before + 1)) (by omega) (Nat.lt_succ_self _))
  have grown : Grows (during options events (time + before)) (during options events (time + before + 1)) :=
    grows_next _ (events (time + before))
  obtain steady | ⟨more,flight,last,unreleased⟩ := grown
  · omega
  · refine ⟨time + before + 1,flight,by omega,by omega,last,?_,unreleased⟩
    obtain ⟨rest,longer⟩ := (follows_during options events ordered).admitted
    rw [List.getLast?_eq_getElem?,show (during options events (time + before + 1)).starts.length - 1 = index by omega] at last
    have there : (during options events (time + before + 1)).admitted[index]? = some job := by
      rw [←longer,List.getElem?_append_left (List.getElem?_eq_some_iff.mp admitted).1,admitted]
    rw [RebindQueue.admitted,List.getElem?_append_left (by simpa using started),List.getElem?_map,last] at there
    simpa using there

/-- A key that comes while it holds a slot starts again, when the slot was given back. -/
theorem GoesOn.starts_again (goesOn : GoesOn options events) {time : Nat} {now : Int}
    (event : events time = .enqueue job now) (held : job.key ∈ (during options events time).inFlightKeys) :
    ∃ later flight, time < later ∧ (during options events time).starts.length < (during options events later).starts.length ∧
      (during options events later).starts.getLast? = some flight ∧ flight.job.key = job.key ∧
      ∀ index earlier, index + 1 < (during options events later).starts.length →
        (during options events later).starts[index]? = some earlier → earlier.job.key = job.key → earlier.released = true := by
  have room : 0 < (during options events time).maxInFlight :=
    Nat.lt_of_lt_of_le (List.length_pos_of_mem held) (orderly_during options events time).bounded
  obtain ⟨handle,awaits⟩ := enqueue_awaits (orderly_during options events time) held now
  have asked : Awaits (during options events (time + 1)) handle job.key := by
    change Awaits ((during options events time).next (events time)) handle job.key
    rw [event]
    exact awaits
  obtain ⟨flight,started,unreleased,_⟩ := asked.held
  obtain ⟨freeing,behind,freed,there,done⟩ := goesOn.releases started unreleased
  have left : ¬Awaits (during options events (freeing + 1)) handle job.key := by
    intro waits
    obtain ⟨flight,here,held,_⟩ := waits.held
    rw [Option.some.inj (here.symm.trans there)] at held
    simp [done] at held
  obtain ⟨first,ordered,ended,earliest⟩ :=
    @first_time (fun after => ¬Awaits (during options events after) handle job.key) (time + 1) ⟨freeing + 1,by omega,left⟩
  obtain ⟨before,rfl⟩ := Nat.exists_eq_add_of_lt ordered
  have waits : Awaits (during options events (time + before)) handle job.key := by
    cases before with
    | zero => exact absurd asked ended
    | succ before => exact not_not.mp (earliest (time + (before + 1)) (by omega) (Nat.lt_succ_self _))
  obtain still | ⟨index,rerun,new,admitted,named⟩ :=
    waits.next (orderly_during options events (time + before)) (events (time + before))
  · exact absurd still ended
  have longer := (follows_during options events (Nat.le_add_right time before)).length_le
  have inside : (during options events (time + before)).starts.length ≤ (during options events (time + before)).admitted.length := by
    simp [RebindQueue.admitted]
  have roomy : 0 < (during options events (time + before + 1)).maxInFlight :=
    (follows_during options events (by omega : time ≤ time + before + 1)).maxInFlight ▸ room
  obtain ⟨later,newest,behind,grown,last,own,held⟩ := goesOn.newest roomy admitted (by omega)
  refine ⟨later,newest,by omega,by omega,last,own ▸ named,fun index earlier short there same => ?_⟩
  by_contra unreleased
  rw [List.getLast?_eq_getElem?] at last
  have shared := (orderly_during options events later).unshared there last (by simpa using unreleased) held
    (same.trans (own ▸ named).symm)
  omega

end

/-- In a run, the queue keeps its slots, its keys and its pace, and is pumped, in every state
    exactly where no job throws out of a pump that nothing else will resume; and where the
    timers fire and the slots are given back, a key that comes while it holds a slot starts
    again behind the release. -/
theorem rebinds_exact (options : RebindQueueOptions) :
    (∀ events : List (RebindEvent Run), (∀ before, before <+: events → Paced (run next (new options) before)) ↔
        Along next (fun queue event => event = .throws → ¬Stranding queue) (new options) events) ∧
      ∀ events : Nat → RebindEvent Run, GoesOn options events → ∀ time job now, events time = .enqueue job now →
        job.key ∈ (during options events time).inFlightKeys →
        ∃ later flight, time < later ∧
          (during options events time).starts.length < (during options events later).starts.length ∧
          (during options events later).starts.getLast? = some flight ∧ flight.job.key = job.key ∧
          ∀ index earlier, index + 1 < (during options events later).starts.length →
            (during options events later).starts[index]? = some earlier → earlier.job.key = job.key →
            earlier.released = true := by
  refine ⟨fun events => ⟨fun paced => ?_,fun steady before isPrefix => ?_⟩,
    fun events goesOn time job now event held => goesOn.starts_again event held⟩
  · refine along_of_prefixes (fun queue event _ after thrown stranding => ?_) paced
    subst thrown
    exact stranded_throw stranding after.pumping
  · have kept := @invariant_run _ _ next (fun queue => Orderly queue ∧ Pumping queue)
      (fun queue event => event = .throws → ¬Stranding queue)
      (fun queue event both steady => ⟨both.1.next event,pumping_next both.1 both.2 event steady⟩)
      (new options) before ⟨Orderly.new options,fun some => absurd rfl some⟩ (along_before isPrefix steady)
    exact kept.1.paced kept.2

/-- Two panes rebind and the first one's job throws: the second waits with a slot free and no
    pump to come. -/
theorem thrown_job_strands : ¬∀ (options : RebindQueueOptions) (events : List (RebindEvent Unit)),
    Paced (run next (new options) events) := by
  intro claimed
  have paced := claimed ⟨none,none,none⟩
    [.enqueue ⟨"freshagent:a:attach",()⟩ 0,.enqueue ⟨"freshagent:b:attach",()⟩ 0,.pumpFires 0,.throws]
  have stranded := paced.pumping (by decide +kernel) (by decide +kernel)
  revert stranded
  decide +kernel

/-- A key that comes while its job runs, and starts again behind the timeout. -/
def flapping : Nat → RebindEvent Unit
  | 0 => .enqueue ⟨"k",()⟩ 0
  | 1 => .pumpFires 0
  | 2 => .enqueue ⟨"k",()⟩ 1
  | 3 => .returns 1
  | 4 => .timeout 0 10000
  | 5 => .returns 10000
  | 6 => .timeout 1 20000
  | _ => .throws

theorem flapping_rests : during ⟨none,none,none⟩ flapping (time + 7) = during ⟨none,none,none⟩ flapping 7 := by
  induction time with
  | zero => rfl
  | succ time ih =>
    change next (during ⟨none,none,none⟩ flapping (time + 7)) .throws = _
    rw [ih]
    decide +kernel

theorem flapping_goesOn : GoesOn ⟨none,none,none⟩ flapping where
  timers time set := by
    match time, set with
    | 0, set | 2, set | 3, set | 4, set | 5, set | 6, set => exact absurd set (by decide +kernel)
    | 1, _ => exact ⟨1,Nat.le_refl _,0,0,by decide +kernel,by decide +kernel,rfl,Int.le_refl _⟩
    | time + 7, set =>
      rw [flapping_rests time] at set
      exact absurd set (by decide +kernel)
  slots time handle flight there held := by
    have few : (during ⟨none,none,none⟩ flapping time).starts.length ≤ 2 := by
      by_cases early : time ≤ 7
      · exact Nat.le_trans (follows_during ⟨none,none,none⟩ flapping early).length_le (by decide +kernel)
      · obtain ⟨more,rfl⟩ := Nat.exists_eq_add_of_le' (by omega : 7 ≤ time)
        rw [flapping_rests more]
        decide +kernel
    have inside := (List.getElem?_eq_some_iff.mp there).1
    by_cases first : handle = 0
    · subst first
      refine ⟨4,?_,.inr ⟨by decide +kernel,10000,rfl⟩⟩
      by_contra late
      obtain ⟨freed,freedThere,done⟩ : ∃ freed, (during ⟨none,none,none⟩ flapping 5).starts[0]? = some freed ∧
          freed.released = true := ⟨⟨⟨"k",()⟩,0,10000,true⟩,by decide +kernel,rfl⟩
      have released := during_released (by omega : 5 ≤ time) freedThere done there
      simp [released] at held
    · obtain rfl : handle = 1 := by omega
      refine ⟨6,?_,.inr ⟨by decide +kernel,20000,rfl⟩⟩
      by_contra late
      obtain ⟨freed,freedThere,done⟩ : ∃ freed, (during ⟨none,none,none⟩ flapping 7).starts[1]? = some freed ∧
          freed.released = true := ⟨⟨⟨"k",()⟩,10000,20000,true⟩,by decide +kernel,rfl⟩
      have released := during_released (by omega : 7 ≤ time) freedThere done there
      simp [released] at held

theorem rebinds_exact_flapping : ∃ later flight, 2 < later ∧
    (during ⟨none,none,none⟩ flapping later).starts.getLast? = some flight ∧ flight.job.key = "k" := by
  obtain ⟨later,flight,after,_,last,same,_⟩ :=
    (rebinds_exact ⟨none,none,none⟩).2 flapping flapping_goesOn 2 ⟨"k",()⟩ 1 rfl (by decide +kernel)
  exact ⟨later,flight,after,last,same⟩

end RebindQueue
end Freshell.Client
