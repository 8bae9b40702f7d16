import Freshell.Connection.Writer

/-!
Runs of a connection's writer: the calls of its producers and drains and the steps
of its pump, in any order. Beside the queues a run keeps what was leased, which
admissions still stand behind a terminal's gaps, and the guards of the drains.
-/
namespace Freshell.Connection
open Freshell.Library.Tables

/-- The frame that `pop` would deliver, with its id. -/
def DeliveryQueue.front {T : Type} (queue : DeliveryQueue T) : Option (Nat × Entry T) := do
  let terminalId ← queue.selectLane
  let lane ← queue.lanes.lookup terminalId
  if lane.gaps.isEmpty then
    let id ← first lane.ids
    let entry ← queue.entries.lookup id
    return (id,entry)
  else none

/-- A frame that was leased: a control or an output frame with its stamp, or a gap
    with the stamps of the outputs that may stand behind it. -/
inductive Lease where
  | control (seq : Nat)
  | frame (terminalId : String) (stamp : Nat)
  | gap (terminalId : String) (behind : List Nat)
deriving DecidableEq, Repr

/-- Where the pump stands. While a gap is resolved the queues are unlocked. -/
inductive Pump where
  | idle
  | resolving (terminalId : String) (range : Range) (behind : List Nat)
  | sending (outputBytes controlBytes : Nat)
  | gone
deriving DecidableEq, Repr

/-- A drain's admission, with the bytes of the pages that were pushed under it. -/
structure Guard where
  id : Nat
  bytes : Nat
  pushed : Nat
deriving DecidableEq, Repr

structure WriterHistory (T : Type) where
  queues : Queues T
  pump : Pump
  log : List Lease
  /-- The stamp of a terminal's last admitted `attach.ready`. -/
  ready : String → Option Nat
  /-- The stamps of the outputs that were evicted into a terminal's gaps. -/
  behind : String → List Nat
  guards : List Guard
  pages : List Nat
  pageInFlight : Bool

inductive WriterOp (T : Type) where
  | control (wire : Wire T)
  | server (msg : ServerMessage) (wire : Wire T)
  | interest (snapshot : TerminalInterest)
  | attachment (terminalId : String) (background : Bool)
  | discard (terminalId : String)
  | stop
  | take
  | resolved (bounds : Option ReplayBounds)
  | finish
  | dropPump
  | reserve (guard bytes : Nat)
  | page (guard : Nat) (terminalId : String) (range : Range) (wire : Wire T)
  | release (guard : Nat)

namespace WriterHistory
variable {T : Type}

def new (shared : Shared T) : WriterHistory T :=
  ⟨.new shared.outputLimit,.idle,[],fun _ => none,fun _ => [],[],[],false⟩

def evictedStamps (before after : DeliveryQueue T) (pushed : String × Nat) (terminalId : String) : List Nat :=
  ((before.entries.entries.filter fun entry =>
      entry.2.terminalId == terminalId && (after.entries.lookup entry.1).isNone).map fun entry => entry.2.stamp) ++
    if pushed.1 == terminalId && (after.entries.lookup before.nextId).isNone then [pushed.2] else []

def pushed (history : WriterHistory T) (after : Queues T) (terminalId : String) : WriterHistory T :=
  { history with
    queues := after
    behind := fun other => history.behind other ++
      evictedStamps history.queues.output after.output (terminalId,history.queues.nextSeq) other }

/-- After a push that may supersede a terminal's output. -/
def superseded (history : WriterHistory T) (after : Queues T) (terminalId : String) : WriterHistory T :=
  { history with
    queues := after
    ready := Function.update history.ready terminalId (some history.queues.nextSeq)
    behind := Function.update history.behind terminalId [] }

def server (shared : Shared T) (history : WriterHistory T) (msg : ServerMessage) (wire : Wire T) : WriterHistory T :=
  match history.queues.pushServer shared msg wire with
  | none => history
  | some (false,after) => { history with queues := after }
  | some (true,after) =>
    match msg with
    | .attachReady terminalId => history.superseded after terminalId
    | .output terminalId _ => history.pushed after terminalId
    | .exit terminalId => history.pushed after terminalId
    | .outputGap terminalId => history.pushed after terminalId
    | .other => { history with queues := after }

def leaseGap (shared : Shared T) (history : WriterHistory T) (terminalId : String) (range : Range)
    (bounds : Option ReplayBounds) (behind : List Nat) : WriterHistory T :=
  let wire := shared.gapWire ⟨terminalId,range,bounds⟩
  { history with
    queues := history.queues.leaseOutput wire.bytes
    pump := .sending wire.bytes 0
    log := history.log ++ [.gap terminalId behind]
    pageInFlight := false }

def take (shared : Shared T) (history : WriterHistory T) : WriterHistory T :=
  match history.queues.takeNext with
  | none => history
  | some (.idle,after) => { history with queues := after }
  | some (.control control,after) =>
    { history with
      queues := after, pump := .sending 0 control.bytes, log := history.log ++ [.control control.seq] }
  | some (.frame _ bytes,after) =>
    match history.queues.output.front with
    | none => history
    | some (_,entry) =>
      { history with
        queues := after.leaseOutput bytes
        pump := .sending bytes 0
        log := history.log ++ [.frame entry.terminalId entry.stamp]
        pageInFlight := history.pages.contains entry.stamp }
  | some (.gap terminalId range,after) =>
    let popped := { history with queues := after }
    if shared.gapBounds then { popped with pump := .resolving terminalId range (history.behind terminalId) }
    else popped.leaseGap shared terminalId range none (history.behind terminalId)

/-- A page is pushed when it fits in what is left of its guard's admission. -/
def page (shared : Shared T) (history : WriterHistory T) (guard : Guard) (terminalId : String) (range : Range)
    (wire : Wire T) : WriterHistory T :=
  if wire.bytes ≤ guard.bytes - guard.pushed then
    { history.server shared (.output terminalId range) wire with
      pages := history.queues.nextSeq :: history.pages
      guards := history.guards.map fun other =>
        if other.id = guard.id then { other with pushed := other.pushed + wire.bytes } else other }
  else history

def next (shared : Shared T) (history : WriterHistory T) : WriterOp T → WriterHistory T
  | .control wire =>
    match history.queues.pushControl shared wire none with
    | none => history
    | some (_,after) => { history with queues := after }
  | .server msg wire => history.server shared msg wire
  | .interest snapshot => { history with queues := history.queues.setTerminalInterest snapshot }
  | .attachment terminalId background =>
    { history with queues := history.queues.setAttachmentPriority terminalId background }
  | .discard terminalId =>
    match history.queues.discardTerminalDelivery terminalId with
    | none => history
    | some after => { history with queues := after, behind := Function.update history.behind terminalId [] }
  | .stop => { history with queues := history.queues.stop }
  | .take =>
    match history.pump with
    | .idle => history.take shared
    | _ => history
  | .resolved bounds =>
    match history.pump with
    | .resolving terminalId range behind =>
      if history.queues.closed then { history with pump := .idle }
      else history.leaseGap shared terminalId range bounds behind
    | _ => history
  | .finish =>
    match history.pump with
    | .sending outputBytes controlBytes =>
      { history with queues := history.queues.finishFrame outputBytes controlBytes, pump := .idle, pageInFlight := false }
    | _ => history
  | .dropPump => { history with queues := history.queues.dropPump shared, pump := .gone, pageInFlight := false }
  | .reserve guard bytes =>
    if history.guards.any fun other => other.id == guard then history
    else
      match history.queues.tryReserveDrainAdmission shared bytes with
      | none => history
      | some after => { history with queues := after, guards := history.guards ++ [⟨guard,bytes,0⟩] }
  | .page guard terminalId range wire =>
    match history.guards.find? fun other => other.id == guard with
    | none => history
    | some guard => history.page shared guard terminalId range wire
  | .release guard =>
    match history.guards.find? fun other => other.id == guard with
    | none => history
    | some guard =>
      { history with
        queues := history.queues.dropAdmission guard.bytes
        guards := history.guards.filter fun other => other.id != guard.id }

end WriterHistory

namespace DeliveryQueue
variable {T : Type} {queue after : DeliveryQueue T}

/-- A queue with a part of the frames of another. -/
structure Shrinks (queue after : DeliveryQueue T) : Prop where
  indexed : after.Indexed
  entries : ∀ id entry, after.entries.lookup id = some entry → queue.entries.lookup id = some entry
  byteLimit : after.byteLimit = queue.byteLimit
  metadataLimit : after.metadataLimit = queue.metadataLimit
  reserved : after.reserved = queue.reserved

theorem Shrinks.refl (indexed : queue.Indexed) : queue.Shrinks queue := ⟨indexed,fun _ _ found => found,rfl,rfl,rfl⟩

theorem Shrinks.reprioritized (indexed : queue.Indexed) (priority : String → Priority) :
    queue.Shrinks (queue.updatePriorities priority) :=
  ⟨updatePriorities_indexed indexed priority,fun _ _ found => found,rfl,rfl,rfl⟩

theorem Indexed.setReserved (indexed : queue.Indexed) (bytes : Nat) : (queue.setReservedBytes bytes).Indexed :=
  ⟨⟨indexed.bytes,indexed.evictable,indexed.fresh⟩,indexed.lanes,indexed.gaps⟩

theorem Indexed.taken (indexed : queue.Indexed) : queue.takeEvictions.2.Indexed :=
  ⟨⟨indexed.bytes,indexed.evictable,indexed.fresh⟩,indexed.lanes,indexed.gaps⟩

theorem evict_shrinks {id : Nat} (indexed : queue.Indexed) (listed : id ∈ queue.evictable) :
    ∃ after, queue.evict id = some after ∧ queue.Shrinks after ∧ after.evictable = queue.evictable.erase id := by
  obtain ⟨entry,range,after,found,ranged,evicted,evicts,kept⟩ := evict_spec indexed listed
  refine ⟨after,evicted,⟨kept,fun other held listed => ?_,evicts.byteLimit,evicts.metadataLimit,?_⟩,evicts.evictable⟩
  · rw [evicts.entries,lookup_erase] at listed
    split at listed
    · cases listed
    · exact listed
  · obtain ⟨lane,held,-⟩ := indexed.lane found
    simp only [evict,found,held,ranged,Option.bind_eq_bind,Option.bind_some,Option.pure_def,Option.some.injEq] at evicted
    rw [← evicted]
    rfl

theorem evictFrom_shrinks (fuel : Nat) (indexed : queue.Indexed) :
    ∃ result after, queue.evictFrom fuel = some (result,after) ∧ queue.Shrinks after ∧
      (queue.outstandingBytes ≤ queue.byteLimit → result = .ok () ∧ after = queue) := by
  induction fuel generalizing queue with
  | zero =>
    refine ⟨_,queue,rfl,.refl indexed,fun fits => ⟨if_neg (Nat.not_lt.mpr fits),rfl⟩⟩
  | succ fuel ih =>
    rw [evictFrom]
    by_cases overflows : queue.byteLimit < queue.outstandingBytes
    · rw [if_pos overflows]
      cases oldest : first queue.evictable with
      | none => exact ⟨_,queue,rfl,.refl indexed,fun fits => absurd overflows (Nat.not_lt.mpr fits)⟩
      | some id =>
        obtain ⟨next,evicted,shrinks,-⟩ := evict_shrinks indexed (first_some oldest).1
        obtain ⟨result,after,ran,further,-⟩ := ih shrinks.indexed
        refine ⟨result,after,by simp only [evicted,Option.bind_some,ran],?_,
          fun fits => absurd overflows (Nat.not_lt.mpr fits)⟩
        exact ⟨further.indexed,fun id entry found => shrinks.entries id entry (further.entries id entry found),
          further.byteLimit.trans shrinks.byteLimit,further.metadataLimit.trans shrinks.metadataLimit,
          further.reserved.trans shrinks.reserved⟩
    · rw [if_neg overflows]
      exact ⟨_,queue,rfl,.refl indexed,fun _ => ⟨rfl,rfl⟩⟩

structure Room (queue : DeliveryQueue T) (bytes : Nat) : Prop where
  metadata : queue.entries.entries.length + queue.gapCount < queue.metadataLimit
  ids : queue.nextId < u64Max
  counter : queue.bytes + bytes ≤ usizeMax
  limit : saturatingAdd usizeMax (queue.bytes + bytes) queue.reserved ≤ queue.byteLimit

/-- A push adds at most its frame; with room for it, it adds the frame and takes nothing away. -/
theorem push_shape (indexed : queue.Indexed) (priority : Priority) (entry : Entry T) :
    ∃ result after, queue.push priority entry = some (result,after) ∧ after.Indexed ∧
      (∀ id held, after.entries.lookup id = some held →
        queue.entries.lookup id = some held ∨ (id = queue.nextId ∧ held = entry)) ∧
      after.byteLimit = queue.byteLimit ∧ after.metadataLimit = queue.metadataLimit ∧
      after.reserved = queue.reserved ∧
      (queue.Room entry.bytes → result = .ok () ∧ after = queue.admitEntry priority entry) := by
  have same : ∀ {error : CapacityError}, ¬queue.Room entry.bytes →
      ∃ result after, some (Except.error error,queue) = some (result,after) ∧ after.Indexed ∧
        (∀ id held, after.entries.lookup id = some held →
          queue.entries.lookup id = some held ∨ (id = queue.nextId ∧ held = entry)) ∧
        after.byteLimit = queue.byteLimit ∧ after.metadataLimit = queue.metadataLimit ∧
        after.reserved = queue.reserved ∧
        (queue.Room entry.bytes → result = Except.ok () ∧ after = queue.admitEntry priority entry) :=
    fun full => ⟨_,queue,rfl,indexed,fun _ _ found => .inl found,rfl,rfl,rfl,fun room => absurd room full⟩
  unfold push
  by_cases full : queue.metadataLimit ≤ saturatingAdd usizeMax queue.entries.entries.length queue.gapCount
  · rw [if_pos full]
    refine same fun room => ?_
    have := room.metadata
    unfold saturatingAdd at full
    omega
  by_cases spent : u64Max < queue.nextId + 1
  · rw [if_neg full,if_pos spent]
    exact same fun room => by have := room.ids; omega
  by_cases large : usizeMax < queue.bytes + entry.bytes
  · rw [if_neg full,if_neg spent,if_pos large]
    exact same fun room => by have := room.counter; omega
  rw [if_neg full,if_neg spent,if_neg large]
  have admitted := admit_indexed indexed priority entry
  obtain ⟨result,after,ran,shrinks,fits⟩ := evictFrom_shrinks (queue.admitEntry priority entry).evictable.card admitted
  refine ⟨result,after,ran,shrinks.indexed,fun id held found => ?_,shrinks.byteLimit,shrinks.metadataLimit,
    shrinks.reserved,fun room => fits room.limit⟩
  have listed := shrinks.entries id held found
  simp only [admitEntry,lookup_insert] at listed
  split at listed
  next isNew => exact .inr ⟨isNew,(Option.some.inj listed).symm⟩
  next => exact .inl listed

theorem front_lookup {id : Nat} {entry : Entry T} (found : queue.front = some (id,entry)) :
    queue.entries.lookup id = some entry := by
  unfold front at found
  cases selected : queue.selectLane with
  | none => simp [selected] at found
  | some terminalId =>
    cases held : queue.lanes.lookup terminalId with
    | none => simp [selected,held] at found
    | some lane =>
      cases gaps : lane.gaps with
      | cons range rest => simp [selected,held,gaps] at found
      | nil =>
        cases oldest : first lane.ids with
        | none => simp [selected,held,gaps,oldest] at found
        | some other =>
          cases listed : queue.entries.lookup other with
          | none => simp [selected,held,gaps,oldest,listed] at found
          | some held' =>
            simp only [selected,held,gaps,oldest,listed,Option.bind_eq_bind,Option.bind_some,List.isEmpty_nil,if_true,
              Option.pure_def,Option.some.injEq,Prod.mk.injEq] at found
            rw [← found.1,← found.2,listed]

theorem pop_front (indexed : queue.Indexed) :
    queue.frontStamp = some (queue.front.map fun found => found.2.stamp) ∧
      ∃ delivery after, queue.pop = some (delivery,after) ∧ queue.Shrinks after ∧
        match delivery with
        | none => after = queue
        | some (.gap _ _) => queue.front = none ∧ after.entries = queue.entries
        | some (.frame _ bytes) => ∃ id entry, queue.front = some (id,entry) ∧ bytes = entry.bytes ∧
            after.entries = queue.entries.erase id := by
  unfold frontStamp front pop
  cases selected : queue.selectLane with
  | none => exact ⟨rfl,none,queue,rfl,.refl indexed,rfl⟩
  | some terminalId =>
    obtain ⟨lane,held,active⟩ := selectLane_some selected
    cases gaps : lane.gaps with
    | cons range rest =>
      have spec := popGap_spec indexed held gaps
      refine ⟨by simp [held,gaps],some (.gap terminalId range),queue.popGap terminalId lane rest,
        by simp [held,gaps],⟨spec.2,fun _ _ found => found,rfl,rfl,rfl⟩,by simp [held,gaps],rfl⟩
    | nil =>
      cases oldest : first lane.ids with
      | none =>
        have empty := first_none oldest
        simp [Lane.active,empty,gaps] at active
      | some id =>
        obtain ⟨entry,found,own⟩ := indexed.entry held (first_some oldest).1
        have spec := popFrame_spec indexed held gaps oldest found own
        refine ⟨by simp [held,gaps,oldest,found],some (.frame entry.payload entry.bytes),
          queue.popFrame id entry terminalId lane,by simp [held,gaps,oldest,found],
          ⟨spec.2,fun other held listed => ?_,rfl,rfl,rfl⟩,id,entry,?_,rfl,rfl⟩
        · have erased : (queue.entries.erase id).lookup other = some held := listed
          rw [lookup_erase] at erased
          split at erased
          · cases erased
          · exact erased
        · simp [held,gaps,oldest,found]

theorem selectLane_of_least (terminalId : String) (lane : Lane) (held : queue.lanes.lookup terminalId = some lane)
    (active : lane.active = true) (least : ∀ other lane', queue.lanes.lookup other = some lane' → other ≠ terminalId →
      queue.serviceKey (terminalId,lane) < queue.serviceKey (other,lane')) : queue.selectLane = some terminalId := by
  have listed : (terminalId,lane) ∈ queue.lanesInOrder.filter fun entry => entry.2.active := by
    refine List.mem_filter.mpr ⟨List.mem_mergeSort.mpr (List.mem_map.mpr ?_),active⟩
    exact ⟨⟨terminalId,lane⟩,AList.mem_lookup_iff.mp held,rfl⟩
  cases best : (queue.lanesInOrder.filter fun entry => entry.2.active).argmin queue.serviceKey with
  | none =>
    rw [List.argmin_eq_none.mp best] at listed
    cases listed
  | some chosen =>
    have first := List.le_of_mem_argmin listed best
    have selected : queue.selectLane = some chosen.1 := by
      rw [selectLane,best]
      rfl
    obtain ⟨lane',held',-⟩ := selectLane_some selected
    by_contra other
    have different : chosen.1 ≠ terminalId := fun same => other (by rw [selected,same])
    have member := (List.mem_filter.mp (List.argmin_mem best)).1
    obtain ⟨⟨key,value⟩,stored,same⟩ := List.mem_map.mp (List.mem_mergeSort.mp member)
    obtain rfl := same
    exact absurd first (not_le.mpr (least key value (AList.mem_lookup_iff.mpr stored) different))

theorem hasPending_of_lookup {id : Nat} {entry : Entry T} (indexed : queue.Indexed)
    (found : queue.entries.lookup id = some entry) : queue.hasPending = true := by
  obtain ⟨lane,held,listed⟩ := indexed.lane found
  refine List.any_eq_true.mpr ⟨⟨entry.terminalId,lane⟩,AList.mem_lookup_iff.mp held,?_⟩
  have : lane.ids ≠ ∅ := Finset.ne_empty_of_mem listed
  simp [Lane.active,this]

theorem discard_shrinks (indexed : queue.Indexed) (terminalId : String) :
    ∃ after, queue.discardTerminal terminalId = some after ∧ queue.Shrinks after ∧
      ∀ id entry, after.entries.lookup id = some entry → entry.terminalId ≠ terminalId := by
  obtain ⟨after,ran,discards,kept⟩ := discardTerminal_spec indexed terminalId
  refine ⟨after,ran,⟨kept,fun id entry found => ?_,discards.byteLimit,discards.metadataLimit,discards.reserved⟩,
    fun id entry found same => ?_⟩
  · rw [discards.entries id] at found
    split at found
    · cases found
    · exact found
  · rw [discards.entries id] at found
    split at found
    · cases found
    next absent => exact absent ((indexed.lanes terminalId id).mpr ⟨entry,found,same⟩)

end DeliveryQueue

namespace Queues
variable {T : Type} {queues : Queues T}

/-- A control is admitted on an open connection that has room for it. -/
def ControlFits (shared : Shared T) (queues : Queues T) (wire : Wire T) : Prop :=
  queues.closed = false ∧
    (max shared.controlLimit 1 - queues.controlBytes < min (wire.bytes + 128) usizeMax → queues.controlBytes = 0)

theorem pushControl_spec (shared : Shared T) (wire : Wire T) (supersedes : Option String) (indexed : queues.output.Indexed) :
    (¬queues.ControlFits shared wire ∧
      ∃ exit after, queues.pushControl shared wire supersedes = some (.error exit,after) ∧
        (after = queues ∨ after = queues.stop)) ∨
    (queues.ControlFits shared wire ∧
      ∃ output, queues.pushControl shared wire supersedes = some (.ok (),{ queues with
          output := output
          controlBytes := queues.controlBytes + min (wire.bytes + 128) usizeMax
          nextSeq := queues.nextSeq + 1
          controls := queues.controls ++ [⟨wire.frame,min (wire.bytes + 128) usizeMax,queues.nextSeq⟩] }) ∧
        match supersedes with
        | none => output = queues.output
        | some terminalId => queues.output.discardTerminal terminalId = some output) := by
  unfold pushControl
  by_cases closed : queues.closed = true
  · exact .inl ⟨fun fits => by simp [fits.1] at closed,_,queues,if_pos closed,.inl rfl⟩
  · simp only [closed,Bool.false_eq_true,if_false]
    by_cases overflows : max shared.controlLimit 1 - queues.controlBytes < min (wire.bytes + 128) usizeMax ∧
        0 < queues.controlBytes
    · refine .inl ⟨fun fits => ?_,_,queues.stop,if_pos overflows,.inr rfl⟩
      have := fits.2 overflows.1
      omega
    · refine .inr ⟨⟨by simpa using closed,fun large => ?_⟩,?_⟩
      · have := not_and.mp overflows large
        omega
      · rw [if_neg overflows]
        cases supersedes with
        | none => exact ⟨_,rfl,rfl⟩
        | some terminalId =>
          obtain ⟨output,ran,-⟩ := DeliveryQueue.discardTerminal_spec indexed terminalId
          exact ⟨output,by simp [ran],ran⟩

theorem pushOutput_spec (terminalId : String) (wire : Wire T) (bytes : Nat) (range : Option Range)
    (indexed : queues.output.Indexed) :
    ∃ taken after, queues.output.push (queues.interest.priority terminalId)
          ⟨terminalId,wire.frame,bytes,range,queues.nextSeq⟩ = some (taken,after) ∧
      queues.pushOutput terminalId wire bytes range = some (match taken with
        | .ok () => (true,{ queues with output := after.takeEvictions.2, nextSeq := queues.nextSeq + 1 })
        | .error _ => (false,{ queues with
            output := after.takeEvictions.2, nextSeq := queues.nextSeq + 1, closed := true })) := by
  obtain ⟨result,after,ran,-⟩ := DeliveryQueue.push_shape indexed (queues.interest.priority terminalId)
    ⟨terminalId,wire.frame,bytes,range,queues.nextSeq⟩
  refine ⟨result,after,ran,?_⟩
  simp only [pushOutput,ran,Option.bind_eq_bind,Option.bind_some,Option.pure_def]
  cases result <;> rfl

/-- Output goes when no control waits, or when the streak of controls is at its
    limit and the frame next in service is older than the oldest control. -/
def OutputGoes (queues : Queues T) : Prop :=
  queues.controls = [] ∨
    CONTROL_STREAK_LIMIT ≤ queues.controlsSinceLastOutput ∧
      ∃ id entry, queues.output.front = some (id,entry) ∧ ∀ control ∈ queues.controls.head?, entry.stamp < control.seq

theorem takeNext_spec (queues : Queues T) (indexed : queues.output.Indexed) :
    ∃ taken after, queues.takeNext = some (taken,after) ∧
      match taken with
      | .idle => after = queues
      | .control control => queues.closed = false ∧ (queues.output.hasPending = true → ¬queues.OutputGoes) ∧
          ∃ rest, queues.controls = control :: rest ∧
            after = { queues with controls := rest, controlsSinceLastOutput := queues.controlsSinceLastOutput + 1 }
      | .frame _ bytes => queues.closed = false ∧ queues.OutputGoes ∧
          ∃ id entry output, queues.output.front = some (id,entry) ∧ bytes = entry.bytes ∧
            after = { queues with output := output } ∧ queues.output.Shrinks output ∧
            output.entries = queues.output.entries.erase id
      | .gap _ _ => queues.closed = false ∧ queues.controls = [] ∧
          ∃ output, after = { queues with output := output } ∧ queues.output.Shrinks output ∧
            output.entries = queues.output.entries := by
  unfold takeNext
  by_cases closed : queues.closed = true
  · exact ⟨.idle,queues,if_pos closed,rfl⟩
  rw [if_neg closed]
  have isOpen : queues.closed = false := by simpa using closed
  obtain ⟨stamp,delivery,output,popped,shrinks,shape⟩ := DeliveryQueue.pop_front indexed
  simp only [stamp,popped,Option.bind_eq_bind,Option.bind_some,Option.pure_def]
  have goes : (queues.controls.isEmpty || decide (CONTROL_STREAK_LIMIT ≤ queues.controlsSinceLastOutput) &&
      queues.outputMayLeapfrog (queues.output.front.map fun found => found.2.stamp)) = true ↔ queues.OutputGoes := by
    unfold OutputGoes outputMayLeapfrog
    cases queues.controls with
    | nil => simp
    | cons control rest =>
      cases queues.output.front with
      | none => simp
      | some found =>
        obtain ⟨id,entry⟩ := found
        simp
  by_cases takes : (queues.output.hasPending && (queues.controls.isEmpty ||
      decide (CONTROL_STREAK_LIMIT ≤ queues.controlsSinceLastOutput) &&
        queues.outputMayLeapfrog (queues.output.front.map fun found => found.2.stamp))) = true
  · rw [if_pos takes]
    have chosen := goes.mp (Bool.and_eq_true_iff.mp takes).2
    match delivery,shape with
    | none,same =>
      refine ⟨_,_,rfl,?_⟩
      simp only [same]
    | some (.gap terminalId range),⟨front,entries⟩ =>
      refine ⟨_,_,rfl,isOpen,?_,output,rfl,shrinks,entries⟩
      obtain empty | ⟨-,id,entry,found,-⟩ := chosen
      · exact empty
      · rw [front] at found
        cases found
    | some (.frame payload bytes),⟨id,entry,front,same,entries⟩ =>
      exact ⟨_,_,rfl,isOpen,chosen,id,entry,output,front,same,rfl,shrinks,entries⟩
  · rw [if_neg takes]
    cases waiting : queues.controls with
    | nil => exact ⟨_,_,rfl,rfl⟩
    | cons control rest =>
      refine ⟨_,_,rfl,isOpen,fun pending chosen => takes ?_,rest,rfl,rfl⟩
      rw [Bool.and_eq_true_iff]
      exact ⟨pending,goes.mpr chosen⟩

end Queues
end Freshell.Connection
