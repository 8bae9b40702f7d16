import Freshell.AgentHost.Journal
import Freshell.Library.Pages

/-!
What the journal loses it reports, as long as no event below its bound has stopped being
that of a pending decision when room must be made.
-/
namespace Freshell.AgentHost
open Freshell.Library.Tables Freshell.Library.Runs Freshell.Library.Pages
open Freshell.SessionHost (CommandState)

namespace ActorJournal
variable {Value : Type} {size : JournalEvent Value → Nat} {bounds : JournalBounds} {state : ActorJournal Value}

/-- All events are numbered in order, the sizes add up, and what is gone is below the bound. -/
structure Sound (size : JournalEvent Value → Nat) (state : ActorJournal Value) : Prop where
  numbered : state.recorded.map (·.sequence) = List.range' 1 state.recorded.length
  following : state.nextSequence = state.recorded.length + 1
  room : state.nextSequence ≤ maxCount
  kept : state.events.Sublist state.recorded
  bytes : state.eventBytes = (state.events.map size).sum
  bound : state.retainedFrom ≤ state.nextSequence
  reported : ∀ entry ∈ state.recorded, entry ∉ state.events → entry.sequence < state.retainedFrom

/-- Every stored event below the bound is that of a pending decision. -/
def Anchored (state : ActorJournal Value) : Prop :=
  ∀ entry ∈ state.events, entry.sequence < state.retainedFrom → state.eventIsPendingDecision entry = true

instance decidableAnchored (state : ActorJournal Value) : Decidable (Anchored state) :=
  inferInstanceAs (Decidable (∀ entry ∈ state.events, _ → _))

/-- Events may have been removed, and the bound raised. -/
structure Trims (before after : ActorJournal Value) : Prop where
  decisions : after.decisions = before.decisions
  recorded : after.recorded = before.recorded
  reader : after.reader = before.reader
  raised : before.retainedFrom ≤ after.retainedFrom
  pending : ∀ entry ∈ before.events, before.eventIsPendingDecision entry = true → entry ∈ after.events

namespace Trims
variable {first second third : ActorJournal Value}

theorem refl (state : ActorJournal Value) : Trims state state := ⟨rfl,rfl,rfl,Nat.le_refl _,fun _ listed _ => listed⟩

theorem isPending (trims : Trims first second) (entry : JournalEvent Value) :
    second.eventIsPendingDecision entry = first.eventIsPendingDecision entry := by
  unfold eventIsPendingDecision ActorJournal.isPending
  rw [trims.decisions]

theorem trans (one : Trims first second) (two : Trims second third) : Trims first third where
  decisions := two.decisions.trans one.decisions
  recorded := two.recorded.trans one.recorded
  reader := two.reader.trans one.reader
  raised := Nat.le_trans one.raised two.raised
  pending entry listed waits := two.pending entry (one.pending entry listed waits) ((one.isPending entry).trans waits)

end Trims

namespace Sound

theorem sequence_lt (sound : Sound size state) {entry : JournalEvent Value} (listed : entry ∈ state.recorded) :
    1 ≤ entry.sequence ∧ entry.sequence < state.nextSequence := by
  have among : entry.sequence ∈ state.recorded.map (·.sequence) := List.mem_map.mpr ⟨entry,listed,rfl⟩
  rw [sound.numbered,List.mem_range'_1] at among
  have following := sound.following
  omega

theorem increasing (sound : Sound size state) : state.recorded.Pairwise fun first second => first.sequence < second.sequence := by
  have ordered : (state.recorded.map (·.sequence)).Pairwise (· < ·) := by
    rw [sound.numbered]
    exact List.pairwise_lt_range'
  exact List.pairwise_map.mp ordered

end Sound

theorem Anchored.evictable (anchored : Anchored state) {index : Nat}
    (found : (state.events.findIdx? fun entry => !state.eventIsPendingDecision entry) = some index) :
    ∃ before removed after, state.events = before ++ removed :: after ∧ state.events[index]? = some removed ∧
      state.events.eraseIdx index = before ++ after ∧ state.retainedFrom ≤ removed.sequence ∧
      state.eventIsPendingDecision removed = false ∧ ∀ entry ∈ before, state.eventIsPendingDecision entry = true := by
  obtain ⟨inside,free,waiting⟩ := List.findIdx?_eq_some_iff_getElem.mp found
  have split : state.events = state.events.take index ++ state.events[index] :: state.events.drop (index + 1) := by
    rw [List.getElem_cons_drop,List.take_append_drop]
  refine ⟨_,_,_,split,List.getElem?_eq_getElem inside,List.eraseIdx_eq_take_drop_succ ..,?_,by simpa using free,?_⟩
  · by_contra below
    have pending := anchored _ (List.getElem_mem inside) (by omega)
    simp [pending] at free
  · intro entry listed
    obtain ⟨earlier,short,rfl⟩ := List.getElem_of_mem listed
    have before : earlier < index := by
      simp only [List.length_take] at short
      omega
    have waits := waiting earlier before
    rw [List.getElem_take]
    simpa using waits

theorem Sound.remove (sound : Sound size state) {before after : List (JournalEvent Value)} {removed : JournalEvent Value}
    (split : state.events = before ++ removed :: after) (above : state.retainedFrom ≤ removed.sequence)
    (free : state.eventIsPendingDecision removed = false)
    (waiting : ∀ entry ∈ before, state.eventIsPendingDecision entry = true) :
    let trimmed := { state with
      events := before ++ after
      eventBytes := state.eventBytes - size removed
      retainedFrom := saturatingAdd removed.sequence 1 }
    Sound size trimmed ∧ Anchored trimmed ∧ Trims state trimmed := by
  intro trimmed
  have listed : removed ∈ state.recorded := sound.kept.mem (by simp [split])
  have exact_ : saturatingAdd removed.sequence 1 = removed.sequence + 1 := by
    have below := (sound.sequence_lt listed).2
    have room := sound.room
    unfold saturatingAdd
    omega
  have ordered := sound.increasing.sublist sound.kept
  rw [split,List.pairwise_append,List.pairwise_cons] at ordered
  refine ⟨⟨sound.numbered,sound.following,sound.room,?_,?_,?_,?_⟩,?_,⟨rfl,rfl,rfl,?_,?_⟩⟩
  · refine List.Sublist.trans ?_ sound.kept
    rw [split]
    exact List.Sublist.append_left (List.sublist_cons_self removed after) before
  · simp only [trimmed,sound.bytes,split,List.map_append,List.map_cons,List.sum_append,List.sum_cons]
    omega
  · have below := (sound.sequence_lt listed).2
    simp only [trimmed,exact_]
    omega
  · intro entry recorded gone
    simp only [trimmed,exact_]
    by_cases own : entry = removed
    · simp [own]
    · have lost : entry ∉ state.events := by
        rw [split]
        simpa [own,trimmed] using gone
      have below := sound.reported entry recorded lost
      omega
  · intro entry stored below
    simp only [trimmed,exact_] at below
    obtain earlier | later := List.mem_append.mp stored
    · exact waiting entry earlier
    · have above := ordered.2.1.1 entry later
      omega
  · simp only [trimmed,exact_]
    omega
  · intro entry stored pending
    rw [split] at stored
    have other : entry ≠ removed := by
      rintro rfl
      simp [pending] at free
    simpa [trimmed,other] using stored

theorem evict_sound (sound : Sound size state) (anchored : Anchored state) (fuel : Nat) :
    Sound size (evict size bounds fuel state) ∧ Trims state (evict size bounds fuel state) := by
  induction fuel generalizing state with
  | zero => exact ⟨sound,Trims.refl state⟩
  | succ fuel ih =>
    unfold evict
    split
    · exact ⟨sound,Trims.refl state⟩
    cases found : state.events.findIdx? fun entry => !state.eventIsPendingDecision entry with
    | none => exact ⟨sound,Trims.refl state⟩
    | some index =>
      obtain ⟨before,removed,after,split,there,erased,above,free,waiting⟩ := anchored.evictable found
      obtain ⟨sounder,steady,trims⟩ := sound.remove split above free waiting
      obtain ⟨last,more⟩ := ih sounder steady
      simp only [there,erased]
      exact ⟨last,trims.trans more⟩

theorem evict_fits (fit : state.fits bounds = true) (fuel : Nat) : evict size bounds fuel state = state := by
  cases fuel with
  | zero => rfl
  | succ fuel => simp [evict,fit]

/-- What may be pushed: the counters do not run over, and no room must be made, or only that
    of events at the bound or above it. -/
structure Pushable (size : JournalEvent Value → Nat) (bounds : JournalBounds) (state : ActorJournal Value)
    (event : AgentEvent Value) : Prop where
  sequence : state.nextSequence < maxCount
  bytes : state.eventBytes + size ⟨state.nextSequence,event⟩ ≤ maxCount
  anchored : (state.events.length + 1 ≤ bounds.eventCountCap ∧
    state.eventBytes + size ⟨state.nextSequence,event⟩ ≤ bounds.eventByteCap) ∨ Anchored state

instance decidablePushable (state : ActorJournal Value) (event : AgentEvent Value) : Decidable (Pushable size bounds state event) :=
  decidable_of_iff (state.nextSequence < maxCount ∧ state.eventBytes + size ⟨state.nextSequence,event⟩ ≤ maxCount ∧
      ((state.events.length + 1 ≤ bounds.eventCountCap ∧
        state.eventBytes + size ⟨state.nextSequence,event⟩ ≤ bounds.eventByteCap) ∨ Anchored state))
    ⟨fun ⟨sequence,bytes,anchored⟩ => ⟨sequence,bytes,anchored⟩,fun pushable => ⟨pushable.1,pushable.2,pushable.3⟩⟩

theorem append_sound (sound : Sound size state) {event : AgentEvent Value} (pushable : Pushable size bounds state event) :
    Sound size (state.append size event) := by
  have sequence := pushable.sequence
  have bytes := pushable.bytes
  have following := sound.following
  have increment : saturatingAdd state.nextSequence 1 = state.nextSequence + 1 := by
    unfold saturatingAdd
    omega
  refine ⟨?_,?_,?_,?_,?_,?_,?_⟩
  · rw [append,List.map_append,sound.numbered,List.length_append,List.length_singleton,List.range'_1_concat]
    simp [following,Nat.add_comm]
  · simp only [append,increment,List.length_append,List.length_singleton]
    omega
  · simp only [append,increment]
    omega
  · exact sound.kept.append (List.Sublist.refl _)
  · simp only [append,saturatingAdd,List.map_append,List.map_cons,List.map_nil,List.sum_append,List.sum_cons,List.sum_nil,
      ←sound.bytes]
    omega
  · have bound := sound.bound
    simp only [append,increment]
    omega
  · intro entry recorded gone
    obtain earlier | new := List.mem_append.mp recorded
    · exact sound.reported entry earlier fun stored => gone (List.mem_append_left _ stored)
    · exact absurd (List.mem_append_right _ new) gone

theorem append_anchored (sound : Sound size state) (anchored : Anchored state) (event : AgentEvent Value) :
    Anchored (state.append size event) := by
  intro entry stored below
  obtain earlier | new := List.mem_append.mp stored
  · exact anchored entry earlier below
  · have bound := sound.bound
    rw [List.mem_singleton.mp new] at below
    simp only [append] at below
    omega

/-- A push records the event, raises the bound, and leaves the events of pending decisions. -/
structure Pushes (before after : ActorJournal Value) (event : AgentEvent Value) : Prop where
  recorded : after.recorded = before.recorded ++ [⟨before.nextSequence,event⟩]
  decisions : after.decisions = before.decisions
  reader : after.reader = before.reader
  raised : before.retainedFrom ≤ after.retainedFrom
  pending : ∀ entry, entry ∈ before.events ∨ entry = ⟨before.nextSequence,event⟩ →
    after.eventIsPendingDecision entry = true → entry ∈ after.events

theorem push_sound (sound : Sound size state) {event : AgentEvent Value} (pushable : Pushable size bounds state event) :
    Sound size (state.pushEventBounded size bounds event) ∧ Pushes state (state.pushEventBounded size bounds event) event := by
  have appended := append_sound sound pushable
  have trimmed : Sound size (state.pushEventBounded size bounds event) ∧
      Trims (state.append size event) (state.pushEventBounded size bounds event) := by
    unfold pushEventBounded
    obtain ⟨count,bytes⟩ | anchored := pushable.anchored
    · have fit : (state.append size event).fits bounds = true := by
        simp only [fits,append,saturatingAdd,List.length_append,List.length_singleton,Bool.and_eq_true,decide_eq_true_eq]
        exact ⟨count,decide_eq_true (Nat.le_trans (Nat.min_le_left _ _) bytes)⟩
      rw [evict_fits fit]
      exact ⟨appended,Trims.refl _⟩
    · exact evict_sound appended (append_anchored sound anchored event) _
  obtain ⟨last,trims⟩ := trimmed
  refine ⟨last,trims.recorded,trims.decisions,trims.reader,trims.raised,fun entry stored waits => ?_⟩
  refine trims.pending entry ?_ ((trims.isPending entry).symm.trans waits)
  obtain earlier | new := stored
  · exact List.mem_append_left _ earlier
  · exact List.mem_append_right _ (List.mem_singleton.mpr new)

/-- The bound is not lowered, and no event of a decision that is pending is removed. -/
structure Advances (before after : ActorJournal Value) : Prop where
  raised : before.retainedFrom ≤ after.retainedFrom
  pending : ∀ entry ∈ after.recorded, entry ∈ before.events ∨ entry ∉ before.recorded →
    after.eventIsPendingDecision entry = true → entry ∈ after.events

theorem Pushes.advances {before after : ActorJournal Value} {event : AgentEvent Value} (pushes : Pushes before after event) :
    Advances before after where
  raised := pushes.raised
  pending entry recorded new waits := by
    rw [pushes.recorded] at recorded
    obtain earlier | own := List.mem_append.mp recorded
    · exact pushes.pending entry (.inl (new.resolve_right fun absent => absent earlier)) waits
    · exact pushes.pending entry (.inr (List.mem_singleton.mp own)) waits

theorem Advances.still {before after : ActorJournal Value} (events : after.events = before.events)
    (recorded : after.recorded = before.recorded) (bound : after.retainedFrom = before.retainedFrom) : Advances before after where
  raised := Nat.le_of_eq bound.symm
  pending entry listed new _ := by
    rw [events]
    exact new.resolve_right fun absent => absent (recorded ▸ listed)

structure Reads (state : ActorJournal Value) : Prop where
  cursor : state.reader.start ≤ state.reader.cursor
  seen : state.reader.cursor = state.reader.start ∨ state.reader.cursor ≤ state.recorded.length
  received : state.reader.told = false →
    state.reader.received = between (·.sequence) state.reader.start state.reader.cursor state.recorded

theorem Reads.push (reads : Reads state) {after : ActorJournal Value} {event : AgentEvent Value} (pushes : Pushes state after event)
    (following : state.nextSequence = state.recorded.length + 1) : Reads after := by
  have later : between JournalEvent.sequence state.reader.start state.reader.cursor [⟨state.nextSequence,event⟩] = [] := by
    refine List.filter_eq_nil_iff.mpr fun entry listed => ?_
    obtain rfl := List.mem_singleton.mp listed
    have seen := reads.seen
    simp only [decide_eq_true_eq]
    omega
  refine ⟨?_,?_,fun told => ?_⟩
  · rw [pushes.reader]
    exact reads.cursor
  · rw [pushes.reader,pushes.recorded,List.length_append,List.length_singleton]
    exact reads.seen.imp_right fun inside => by omega
  · rw [pushes.reader] at told ⊢
    rw [reads.received told,pushes.recorded]
    unfold between at later ⊢
    rw [List.filter_append,later,List.append_nil]

theorem Sound.page (sound : Sound size state) {after maxEvents : Nat}
    (told : (state.readEvents bounds after maxEvents).resetRequired = false) :
    (state.readEvents bounds after maxEvents).events =
      (state.recorded.filter fun event => after < event.sequence).take (max 1 (min maxEvents bounds.eventCountCap)) := by
  have unbounded : ¬saturatingAdd after 1 < state.retainedFrom := of_decide_eq_false told
  unfold saturatingAdd at unbounded
  simp only [readEvents]
  rw [filter_kept sound.kept (sound.increasing.imp fun less same => by simp [same] at less)]
  intro entry recorded beyond
  by_contra gone
  have below := sound.reported entry recorded gone
  have inside := sound.sequence_lt recorded
  have room := sound.room
  simp only [decide_eq_true_eq] at beyond
  omega

theorem Reads.page (reads : Reads state) (sound : Sound size state) (maxEvents : Nat) : Reads (state.page bounds maxEvents) := by
  have ahead := @le_lastKey _ JournalEvent.sequence state.reader.cursor
    (state.readEvents bounds state.reader.cursor maxEvents).events
  refine ⟨Nat.le_trans reads.cursor ahead,?_,fun told => ?_⟩
  · change lastKey JournalEvent.sequence _ _ = _ ∨ lastKey JournalEvent.sequence _ _ ≤ _
    obtain stays | ⟨entry,listed,same⟩ := @lastKey_mem _ JournalEvent.sequence state.reader.cursor
      (state.readEvents bounds state.reader.cursor maxEvents).events
    · rw [stays]
      exact reads.seen
    · right
      have stored := (List.mem_filter.mp (List.mem_of_mem_take listed)).1
      have inside := (sound.sequence_lt (sound.kept.mem stored)).2
      have following := sound.following
      rw [same]
      change entry.sequence ≤ state.recorded.length
      omega
  · obtain ⟨before,now⟩ := Bool.or_eq_false_iff.mp told
    have whole := sound.page now
    change state.reader.received ++ _ = between JournalEvent.sequence state.reader.start
      (lastKey JournalEvent.sequence state.reader.cursor _) state.recorded
    rw [reads.received before,whole]
    refine (congrArg _ (page_eq sound.increasing state.reader.cursor _)).trans ?_
    exact between_append sound.increasing reads.cursor (le_lastKey state.reader.cursor _)

/-- The condition that each push of a call is made under. -/
def Steady (size : JournalEvent Value → Nat) (bounds : JournalBounds) (state : ActorJournal Value) : JournalCall Value → Prop
  | .recordEvent event => Pushable size bounds state event
  | .recordPermission decisionId payload =>
    state.decisions.lookup decisionId = none → state.hasCapacity size bounds decisionId payload = true →
      Pushable size bounds (state.askDecision decisionId payload) (.permissionRequested decisionId payload)
  | .permissionReturned decisionId (.ok ()) =>
    Pushable size bounds (state.setState decisionId .resolved) (.decisionResolved decisionId)
  | .commandOutcome none requestId outcome => Pushable size bounds state (.commandOutcome requestId outcome)
  | .commandOutcome (some nativeSessionId) requestId outcome =>
    Pushable size bounds state (.started nativeSessionId) ∧
      Pushable size bounds (state.pushEventBounded size bounds (.started nativeSessionId)) (.commandOutcome requestId outcome)
  | _ => True

instance decidableSteady (state : ActorJournal Value) : (call : JournalCall Value) → Decidable (Steady size bounds state call)
  | .recordEvent event => inferInstanceAs (Decidable (Pushable size bounds state event))
  | .recordPermission decisionId _ =>
    inferInstanceAs (Decidable (state.decisions.lookup decisionId = none → _ = true → Pushable size bounds _ _))
  | .permissionReturned _ (.ok ()) => inferInstanceAs (Decidable (Pushable size bounds _ _))
  | .permissionReturned _ (.error _) => .isTrue trivial
  | .commandOutcome none _ _ => inferInstanceAs (Decidable (Pushable size bounds _ _))
  | .commandOutcome (some _) _ _ => inferInstanceAs (Decidable (Pushable size bounds _ _ ∧ Pushable size bounds _ _))
  | .resolvePermission _ _ => .isTrue trivial
  | .page _ => .isTrue trivial

structure Tells (size : JournalEvent Value → Nat) (cursor : Nat) (state : ActorJournal Value) : Prop where
  sound : Sound size state
  reads : Reads state
  start : state.reader.start = cursor

section
variable {cursor : Nat}

theorem Tells.decide (tells : Tells size cursor state) (decisions : Table String (PersistedDecision Value)) :
    Tells size cursor { state with decisions := decisions } :=
  ⟨⟨tells.sound.numbered,tells.sound.following,tells.sound.room,tells.sound.kept,tells.sound.bytes,tells.sound.bound,
    tells.sound.reported⟩,⟨tells.reads.cursor,tells.reads.seen,tells.reads.received⟩,tells.start⟩

theorem Tells.push (tells : Tells size cursor state) {event : AgentEvent Value} (pushable : Pushable size bounds state event) :
    Tells size cursor (state.pushEventBounded size bounds event) ∧ Pushes state (state.pushEventBounded size bounds event) event := by
  obtain ⟨sound,pushes⟩ := push_sound tells.sound pushable
  exact ⟨⟨sound,tells.reads.push pushes tells.sound.following,pushes.reader ▸ tells.start⟩,pushes⟩

theorem Tells.redecide (tells : Tells size cursor state) (decisions : Table String (PersistedDecision Value)) :
    Tells size cursor { state with decisions := decisions } ∧ Advances state { state with decisions := decisions } :=
  ⟨tells.decide decisions,Advances.still rfl rfl rfl⟩

theorem Tells.decidePush (tells : Tells size cursor state) (decisions : Table String (PersistedDecision Value))
    {event : AgentEvent Value} (pushable : Pushable size bounds { state with decisions := decisions } event) :
    Tells size cursor ({ state with decisions := decisions }.pushEventBounded size bounds event) ∧
      Advances state ({ state with decisions := decisions }.pushEventBounded size bounds event) := by
  obtain ⟨told,pushes⟩ := (tells.decide decisions).push pushable
  have advances := pushes.advances
  exact ⟨told,advances.raised,advances.pending⟩

theorem tells_new (cursor : Nat) : Tells size cursor (new cursor : ActorJournal Value) where
  sound := by
    refine ⟨rfl,rfl,by simp [new,maxCount],List.Sublist.refl _,rfl,Nat.le_refl _,?_⟩
    intro entry recorded
    simp [new] at recorded
  reads := ⟨Nat.le_refl _,.inl rfl,fun _ => rfl⟩
  start := rfl

section
variable [DecidableEq Value]

theorem Tells.next (tells : Tells size cursor state) {call : JournalCall Value} (steady : Steady size bounds state call) :
    Tells size cursor (state.next size bounds call) ∧ Advances state (state.next size bounds call) := by
  have same : Tells size cursor state ∧ Advances state state := ⟨tells,Advances.still rfl rfl rfl⟩
  cases call with
  | recordEvent event =>
    obtain ⟨told,pushes⟩ := tells.push steady
    exact ⟨told,pushes.advances⟩
  | recordPermission decisionId payload =>
    simp only [ActorJournal.next,recordPermission]
    cases known : state.decisions.lookup decisionId with
    | some existing =>
      simp only
      split
      · exact same
      · split <;> exact same
    | none =>
      simp only
      split
      · exact same
      · rename_i room
        exact tells.decidePush _ (steady known (by simpa using room))
  | resolvePermission decisionId responseDigest =>
    simp only [ActorJournal.next,resolvePermission]
    split
    · exact same
    split
    · exact tells.redecide _
    · split <;> exact same
    · exact same
    · exact same
  | permissionReturned decisionId result =>
    simp only [ActorJournal.next,permissionReturned]
    split
    · cases result with
      | ok => exact tells.decidePush _ steady
      | error failure => exact tells.redecide _
    · exact same
  | commandOutcome nativeSessionId requestId outcome =>
    cases nativeSessionId with
    | none =>
      obtain ⟨told,pushes⟩ := tells.push steady
      exact ⟨told,pushes.advances⟩
    | some nativeSessionId =>
      obtain ⟨between_,first⟩ := tells.push steady.1
      obtain ⟨told,second⟩ := between_.push steady.2
      refine ⟨told,Nat.le_trans first.raised second.raised,fun entry recorded new waits => ?_⟩
      have waited : (state.pushEventBounded size bounds (.started nativeSessionId)).eventIsPendingDecision entry = true := by
        rw [←waits]
        unfold eventIsPendingDecision ActorJournal.isPending
        simp only [ActorJournal.next,commandOutcome,second.decisions]
      refine second.advances.pending entry recorded ?_ waits
      by_cases earlier : entry ∈ (state.pushEventBounded size bounds (.started nativeSessionId)).recorded
      · exact .inl (first.advances.pending entry earlier new waited)
      · exact .inr earlier
  | page maxEvents =>
    exact ⟨⟨⟨tells.sound.numbered,tells.sound.following,tells.sound.room,tells.sound.kept,tells.sound.bytes,
      tells.sound.bound,tells.sound.reported⟩,tells.reads.page tells.sound maxEvents,tells.start⟩,Advances.still rfl rfl rfl⟩

/-- No loss is silent: not in the journal, not in a page, and not in what a reader that goes
    on from its cursor has been given. -/
structure LossesTold (size : JournalEvent Value → Nat) (bounds : JournalBounds) (cursor : Nat)
    (calls : List (JournalCall Value)) : Prop where
  increasing : (run (next size bounds) (new cursor) calls).events.Pairwise fun first second => first.sequence < second.sequence
  bytes : (run (next size bounds) (new cursor) calls).eventBytes =
    ((run (next size bounds) (new cursor) calls).events.map size).sum
  steps : Along (next size bounds) (fun state call => Advances state (state.next size bounds call)) (new cursor) calls
  pages : ∀ after maxEvents, let state := run (next size bounds) (new cursor) calls
    let batch := state.readEvents bounds after maxEvents
    batch.resetRequired = false → batch.head = state.recorded.length ∧ batch.events =
      (state.recorded.filter fun event => after < event.sequence).take (max 1 (min maxEvents bounds.eventCountCap))
  reader : let state := run (next size bounds) (new cursor) calls
    state.reader.told = false → state.reader.received = state.recorded.filter fun event =>
      cursor < event.sequence ∧ event.sequence ≤ state.reader.cursor

/-- In a run whose pushes never make room of an event below the bound, no loss is silent. -/
theorem losses_told {calls : List (JournalCall Value)} (steady : Along (next size bounds) (Steady size bounds) (new cursor) calls) :
    LossesTold size bounds cursor calls := by
  have tells : Tells size cursor (run (next size bounds) (new cursor) calls) :=
    invariant_run (fun _ _ tells steady => (tells.next steady).1) (tells_new cursor) steady
  refine ⟨?_,tells.sound.bytes,?_,?_,?_⟩
  · exact tells.sound.increasing.sublist tells.sound.kept
  · exact invariant_along (fun _ _ tells steady => (tells.next steady).1) (fun _ _ tells steady => (tells.next steady).2)
      (tells_new cursor) steady
  · intro after maxEvents state batch told
    refine ⟨?_,tells.sound.page told⟩
    have following : state.nextSequence = state.recorded.length + 1 := tells.sound.following
    change state.nextSequence - 1 = state.recorded.length
    omega
  · intro state told
    rw [tells.reads.received told,tells.start]
    rfl

end
end

def threeEvents : JournalBounds := ⟨450,3,by decide,by decide⟩

theorem losses_told_pending : LossesTold (fun _ : JournalEvent String => 60) threeEvents 0
    [.recordPermission "d" "shell",.recordEvent .interrupted,.page 1,.recordEvent .interrupted,.recordEvent .interrupted,.page 1] :=
  losses_told (by decide +kernel)

/-- The event of a decision is kept while later ones go; when the decision is resolved it goes
    too, and the bound falls back behind the later ones. -/
theorem resolved_decision_hides : ¬∀ (size : JournalEvent String → Nat) (bounds : JournalBounds) (cursor : Nat)
    (calls : List (JournalCall String)), LossesTold size bounds cursor calls := by
  intro claimed
  have told := claimed (fun _ => 60) threeEvents 1
    [.recordPermission "d" "shell",.recordEvent .interrupted,.recordEvent .interrupted,.recordEvent .interrupted,
      .recordEvent .interrupted,.resolvePermission "d" "yes",.permissionReturned "d" (.ok ())]
  have page := (told.pages 1 10 (by decide +kernel)).2
  revert page
  decide +kernel

end ActorJournal
end Freshell.AgentHost
