import Freshell.Library.Runs
import Mathlib.Data.List.Chain

/-!
The queue that paces the rebinds of hidden panes. A job that starts holds a slot until it
is released, by the job or by its timeout; a key that comes again while it holds a slot
runs once more behind its release. One timer serves the spacing of the starts and the
releases, and the body of a job runs inside the pump.
-/
namespace Freshell.Client
open Freshell.Library.Runs

structure RebindJob (Run : Type) where
  key : String
  run : Run
deriving DecidableEq, Repr

structure RebindQueueOptions where
  maxInFlight : Option Nat
  releaseTimeoutMs : Option Int
  minStartIntervalMs : Option Int

/-- A job that has started: its variables, and when it did. -/
structure RebindStart (Run : Type) where
  job : RebindJob Run
  startedAt : Int
  timeoutAt : Int
  released : Bool
deriving DecidableEq, Repr

structure RebindQueue (Run : Type) where
  maxInFlight : Nat
  releaseTimeoutMs : Int
  minStartIntervalMs : Int
  queued : List (RebindJob Run)
  inFlightKeys : List String
  rerunOnRelease : List (RebindJob Run)
  lastStartAt : Option Int
  pumpTimer : Option Int
  inPump : Bool
  starts : List (RebindStart Run)
deriving DecidableEq, Repr

namespace RebindQueue
variable {Run : Type}

def new (options : RebindQueueOptions) : RebindQueue Run where
  maxInFlight := options.maxInFlight.getD 4
  releaseTimeoutMs := options.releaseTimeoutMs.getD 10000
  minStartIntervalMs := options.minStartIntervalMs.getD 25
  queued := []
  inFlightKeys := []
  rerunOnRelease := []
  lastStartAt := none
  pumpTimer := none
  inPump := false
  starts := []

def schedulePump (queue : RebindQueue Run) (delayMs now : Int) : RebindQueue Run :=
  if queue.pumpTimer.isSome then queue else { queue with pumpTimer := some (now + delayMs) }

/-- `Map.set`. -/
def setRerun (queue : RebindQueue Run) (job : RebindJob Run) : RebindQueue Run :=
  if job.key ∈ queue.rerunOnRelease.map (·.key) then
    { queue with rerunOnRelease := queue.rerunOnRelease.map fun old => if old.key = job.key then job else old }
  else { queue with rerunOnRelease := queue.rerunOnRelease ++ [job] }

def enqueue (queue : RebindQueue Run) (job : RebindJob Run) (now : Int) : RebindQueue Run :=
  if job.key ∈ queue.inFlightKeys then queue.setRerun job
  else if job.key ∈ queue.queued.map (·.key) then queue
  else { queue with queued := queue.queued ++ [job] }.schedulePump 0 now

def start (queue : RebindQueue Run) (job : RebindJob Run) (now : Int) : RebindQueue Run :=
  { queue with
    inFlightKeys := if job.key ∈ queue.inFlightKeys then queue.inFlightKeys else queue.inFlightKeys ++ [job.key]
    starts := queue.starts ++ [⟨job,now,now + queue.releaseTimeoutMs,false⟩] }

def waitAt (queue : RebindQueue Run) (now : Int) : Int :=
  match queue.lastStartAt with
  | none => 0
  | some last => last + queue.minStartIntervalMs - now

/-- The loop, as far as the body of the next job. -/
def turn (queue : RebindQueue Run) (now : Int) : RebindQueue Run :=
  match queue.queued with
  | [] => { queue with inPump := false }
  | job :: rest =>
    if queue.inFlightKeys.length < queue.maxInFlight then
      if 0 < queue.waitAt now then { queue.schedulePump (queue.waitAt now) now with inPump := false }
      else { queue with queued := rest, lastStartAt := some now }.start job now
    else { queue with inPump := false }

def pump (queue : RebindQueue Run) (now : Int) : RebindQueue Run :=
  if queue.inPump then queue else { queue with inPump := true }.turn now

/-- The slot is free, and a job that came for its key meanwhile is queued. -/
def letGo (queue : RebindQueue Run) (handle : Nat) (flight : RebindStart Run) : RebindQueue Run :=
  let free := { queue with
    starts := queue.starts.set handle { flight with released := true }
    inFlightKeys := queue.inFlightKeys.erase flight.job.key }
  match queue.rerunOnRelease.find? (·.key = flight.job.key) with
  | none => free
  | some rerun =>
    { free with
      rerunOnRelease := queue.rerunOnRelease.filter (·.key ≠ flight.job.key)
      queued := queue.queued ++ [rerun] }

/-- The release that the start with this number was given. -/
def release (queue : RebindQueue Run) (handle : Nat) (now : Int) : RebindQueue Run :=
  match queue.starts[handle]? with
  | none => queue
  | some flight =>
    if flight.released then queue
    else
      let free := queue.letGo handle flight
      if !free.inPump && free.pumpTimer.isNone then free.pump now else free.schedulePump 0 now

def pumpFires (queue : RebindQueue Run) (now : Int) : RebindQueue Run :=
  if queue.pumpTimer.isNone then queue else { queue with pumpTimer := none }.pump now

end RebindQueue

/-- What happens to the queue, each with the clock as it reads then. No timer fires while
    the body of a job runs. -/
inductive RebindEvent (Run : Type) where
  | enqueue (job : RebindJob Run) (now : Int)
  | release (handle : Nat) (now : Int)
  | timeout (handle : Nat) (now : Int)
  | pumpFires (now : Int)
  | returns (now : Int)
  | throws
deriving DecidableEq, Repr

namespace RebindQueue
variable {Run : Type}

def next (queue : RebindQueue Run) : RebindEvent Run → RebindQueue Run
  | .enqueue job now => queue.enqueue job now
  | .release handle now => queue.release handle now
  | .timeout handle now => if queue.inPump then queue else queue.release handle now
  | .pumpFires now => if queue.inPump then queue else queue.pumpFires now
  | .returns now => if queue.inPump then queue.turn now else queue
  | .throws => { queue with inPump := false }

def inFlight (queue : RebindQueue Run) : List (RebindStart Run) := queue.starts.filter (!·.released)

/-- All that were queued, in order: those that started and those that wait. -/
def admitted (queue : RebindQueue Run) : List (RebindJob Run) := queue.starts.map (·.job) ++ queue.queued

structure Orderly (queue : RebindQueue Run) : Prop where
  flight : queue.inFlightKeys = queue.inFlight.map (·.job.key)
  distinct : queue.inFlightKeys.Nodup
  bounded : queue.inFlightKeys.length ≤ queue.maxInFlight
  queuedDistinct : (queue.queued.map (·.key)).Nodup
  apart : ∀ job ∈ queue.queued, job.key ∉ queue.inFlightKeys
  reruns : ∀ job ∈ queue.rerunOnRelease, job.key ∈ queue.inFlightKeys
  last : queue.lastStartAt = queue.starts.getLast?.map (·.startedAt)
  spaced : queue.starts.IsChain fun first second => first.startedAt + queue.minStartIntervalMs ≤ second.startedAt

namespace Orderly
variable {queue : RebindQueue Run}

theorem new (options : RebindQueueOptions) : Orderly (RebindQueue.new options : RebindQueue Run) := by
  constructor <;> simp [RebindQueue.new,inFlight]

theorem timer (orderly : Orderly queue) (due : Option Int) (inPump : Bool) :
    Orderly { queue with pumpTimer := due, inPump := inPump } :=
  ⟨orderly.flight,orderly.distinct,orderly.bounded,orderly.queuedDistinct,orderly.apart,orderly.reruns,orderly.last,
    orderly.spaced⟩

theorem schedulePump (orderly : Orderly queue) (delayMs now : Int) : Orderly (queue.schedulePump delayMs now) := by
  unfold RebindQueue.schedulePump
  split
  · exact orderly
  · exact orderly.timer _ queue.inPump

variable {job : RebindJob Run}

theorem setRerun (orderly : Orderly queue) (held : job.key ∈ queue.inFlightKeys) : Orderly (queue.setRerun job) := by
  unfold RebindQueue.setRerun
  split
  · refine { orderly with reruns := ?_ }
    intro other listed
    obtain ⟨old,among,same⟩ := List.mem_map.mp listed
    by_cases replaced : old.key = job.key
    · rw [if_pos replaced] at same
      exact same ▸ held
    · rw [if_neg replaced] at same
      exact same ▸ orderly.reruns old among
  · refine { orderly with reruns := ?_ }
    intro other listed
    obtain among | new := List.mem_append.mp listed
    · exact orderly.reruns other among
    · rw [List.mem_singleton.mp new]
      exact held

theorem push (orderly : Orderly queue) (free : job.key ∉ queue.inFlightKeys)
    (fresh : job.key ∉ queue.queued.map (·.key)) : Orderly { queue with queued := queue.queued ++ [job] } := by
  refine { orderly with queuedDistinct := ?_, apart := ?_ }
  · simp only [List.map_append,List.map_cons,List.map_nil]
    exact List.nodup_append.mpr ⟨orderly.queuedDistinct,by simp,by
      intro key listed other alone
      rw [List.mem_singleton.mp alone]
      exact fun same => fresh (same ▸ listed)⟩
  · intro other listed
    obtain among | new := List.mem_append.mp listed
    · exact orderly.apart other among
    · rw [List.mem_singleton.mp new]
      exact free

theorem enqueue (orderly : Orderly queue) (job : RebindJob Run) (now : Int) : Orderly (queue.enqueue job now) := by
  unfold RebindQueue.enqueue
  split
  · exact orderly.setRerun ‹_›
  split
  · exact orderly
  · exact (orderly.push ‹_› ‹_›).schedulePump 0 now

theorem begin {rest : List (RebindJob Run)} {now : Int} (orderly : Orderly queue)
    (waiting : queue.queued = job :: rest) (free : queue.inFlightKeys.length < queue.maxInFlight)
    (late : queue.waitAt now ≤ 0) : Orderly ({ queue with queued := rest, lastStartAt := some now }.start job now) := by
  have unheld : job.key ∉ queue.inFlightKeys := orderly.apart job (by simp [waiting])
  have distinct := orderly.queuedDistinct
  rw [waiting,List.map_cons,List.nodup_cons] at distinct
  simp only [RebindQueue.start,if_neg unheld]
  constructor
  · simp [inFlight,orderly.flight]
  · exact List.nodup_append.mpr ⟨orderly.distinct,by simp,by
      intro key listed other alone
      rw [List.mem_singleton.mp alone]
      exact fun same => unheld (same ▸ listed)⟩
  · simp only [List.length_append,List.length_singleton]
    omega
  · exact distinct.2
  · intro other listed held
    obtain earlier | own := List.mem_append.mp held
    · exact orderly.apart other (by simp [waiting,listed]) earlier
    · exact distinct.1 (List.mem_map.mpr ⟨other,listed,List.mem_singleton.mp own⟩)
  · exact fun other listed => List.mem_append.mpr (.inl (orderly.reruns other listed))
  · simp
  · refine List.isChain_append.mpr ⟨orderly.spaced,by simp,?_⟩
    intro earlier last own alone
    have began : queue.lastStartAt = some earlier.startedAt := by
      rw [orderly.last,Option.mem_def.mp last]
      rfl
    have new : own = ⟨job,now,now + queue.releaseTimeoutMs,false⟩ := by simpa using alone.symm
    simp only [RebindQueue.waitAt,began] at late
    simp only [new]
    omega

theorem turn (orderly : Orderly queue) (now : Int) : Orderly (queue.turn now) := by
  unfold RebindQueue.turn
  split
  · exact orderly.timer queue.pumpTimer false
  rename_i job rest waiting
  split
  · rename_i free
    split
    · exact (orderly.schedulePump _ now).timer _ false
    · exact orderly.begin waiting free (by omega)
  · exact orderly.timer queue.pumpTimer false

theorem pump (orderly : Orderly queue) (now : Int) : Orderly (queue.pump now) := by
  unfold RebindQueue.pump
  split
  · exact orderly
  · exact (orderly.timer queue.pumpTimer true).turn now

end Orderly

variable {starts : List (RebindStart Run)} {handle : Nat} {flight : RebindStart Run}

theorem keys_released (started : starts[handle]? = some flight) (held : flight.released = false)
    (distinct : ((starts.filter (!·.released)).map (·.job.key)).Nodup) :
    ((starts.set handle { flight with released := true }).filter (!·.released)).map (·.job.key) =
      ((starts.filter (!·.released)).map (·.job.key)).erase flight.job.key := by
  induction starts generalizing handle with
  | nil => simp at started
  | cons first rest ih =>
    cases handle with
    | zero =>
      obtain rfl : first = flight := by simpa using started
      simp [held]
    | succ later =>
      have further : rest[later]? = some flight := by simpa using started
      rw [List.set_cons_succ]
      cases done : first.released with
      | true =>
        simp only [List.filter_cons,done,Bool.not_true,Bool.false_eq_true,if_false] at distinct ⊢
        exact ih further distinct
      | false =>
        simp only [List.filter_cons,done,Bool.not_false,if_true,List.map_cons,List.nodup_cons] at distinct ⊢
        have among : flight.job.key ∈ (rest.filter (!·.released)).map (·.job.key) :=
          List.mem_map.mpr ⟨flight,List.mem_filter.mpr ⟨List.mem_of_getElem? further,by simp [held]⟩,rfl⟩
        have other : first.job.key ≠ flight.job.key := fun same => distinct.1 (same ▸ among)
        rw [ih further distinct.2,List.erase_cons_tail (by simpa using other)]

theorem map_released (started : starts[handle]? = some flight) {Value : Type} (read : RebindStart Run → Value)
    (kept : read { flight with released := true } = read flight) :
    (starts.set handle { flight with released := true }).map read = starts.map read := by
  obtain ⟨inside,rfl⟩ := List.getElem?_eq_some_iff.mp started
  rw [List.map_set,kept,←List.getElem_map read (h := by simpa using inside),List.set_getElem_self]

namespace Orderly
variable {queue : RebindQueue Run}

variable {handle : Nat} {flight : RebindStart Run}

theorem holds (orderly : Orderly queue) (started : queue.starts[handle]? = some flight)
    (held : flight.released = false) : flight.job.key ∈ queue.inFlightKeys := by
  rw [orderly.flight]
  exact List.mem_map.mpr ⟨flight,List.mem_filter.mpr ⟨List.mem_of_getElem? started,by simp [held]⟩,rfl⟩

theorem give (orderly : Orderly queue) (started : queue.starts[handle]? = some flight) (held : flight.released = false)
    {reruns : List (RebindJob Run)} (kept : ∀ job ∈ reruns, job ∈ queue.rerunOnRelease ∧ job.key ≠ flight.job.key) :
    Orderly { queue with
      starts := queue.starts.set handle { flight with released := true }
      inFlightKeys := queue.inFlightKeys.erase flight.job.key
      rerunOnRelease := reruns } where
  flight := by
    rw [orderly.flight]
    exact (keys_released started held (orderly.flight ▸ orderly.distinct)).symm
  distinct := orderly.distinct.erase _
  bounded := by
    have fewer := List.length_erase_le (a := flight.job.key) (l := queue.inFlightKeys)
    have bounded := orderly.bounded
    simp only
    omega
  queuedDistinct := orderly.queuedDistinct
  apart job listed held := orderly.apart job listed (List.mem_of_mem_erase held)
  reruns job listed := (List.mem_erase_of_ne (kept job listed).2).mpr (orderly.reruns job (kept job listed).1)
  last := by
    rw [orderly.last,←List.getLast?_map,←List.getLast?_map,map_released started _ rfl]
  spaced := by
    have times : (queue.starts.map (·.startedAt)).IsChain fun first second => first + queue.minStartIntervalMs ≤ second :=
      (List.isChain_map _).mpr orderly.spaced
    rw [←map_released started (·.startedAt) rfl] at times
    exact (List.isChain_map _).mp times

theorem letGo (orderly : Orderly queue) (started : queue.starts[handle]? = some flight)
    (held : flight.released = false) : Orderly (queue.letGo handle flight) := by
  unfold RebindQueue.letGo
  cases again : queue.rerunOnRelease.find? (·.key = flight.job.key) with
  | none =>
    refine orderly.give started held fun job listed => ⟨listed,?_⟩
    simpa using List.find?_eq_none.mp again job listed
  | some rerun =>
    have same : rerun.key = flight.job.key := by simpa using List.find?_some again
    have given := orderly.give started held
      fun job (listed : job ∈ queue.rerunOnRelease.filter (·.key ≠ flight.job.key)) =>
        by simpa using List.mem_filter.mp listed
    refine given.push ?_ ?_
    · rw [same]
      exact orderly.distinct.not_mem_erase
    · rw [same]
      intro listed
      obtain ⟨job,among,equal⟩ := List.mem_map.mp listed
      exact orderly.apart job among (equal ▸ orderly.holds started held)

theorem release (orderly : Orderly queue) (handle : Nat) (now : Int) : Orderly (queue.release handle now) := by
  unfold RebindQueue.release
  split
  · exact orderly
  rename_i flight started
  split
  · exact orderly
  · rename_i held
    have free := orderly.letGo started (by simpa using held)
    simp only
    split
    · exact free.pump now
    · exact free.schedulePump 0 now

theorem pumpFires (orderly : Orderly queue) (now : Int) : Orderly (queue.pumpFires now) := by
  unfold RebindQueue.pumpFires
  split
  · exact orderly
  · exact (orderly.timer none queue.inPump).pump now

theorem next (orderly : Orderly queue) (event : RebindEvent Run) : Orderly (queue.next event) := by
  cases event with
  | enqueue job now => exact orderly.enqueue job now
  | release handle now => exact orderly.release handle now
  | timeout handle now =>
    simp only [RebindQueue.next]
    split
    · exact orderly
    · exact orderly.release handle now
  | pumpFires now =>
    simp only [RebindQueue.next]
    split
    · exact orderly
    · exact orderly.pumpFires now
  | returns now =>
    simp only [RebindQueue.next]
    split
    · exact orderly.turn now
    · exact orderly
  | throws => exact orderly.timer queue.pumpTimer false

end Orderly
end RebindQueue
end Freshell.Client
