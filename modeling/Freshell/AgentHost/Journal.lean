import Freshell.AgentHost.State
import Freshell.Library.Runs

/-!
The event journal of an agent host. It keeps the newest events within a number and a size,
and the events of pending decisions as long as they are pending; a reader is told that
events are gone by a bound below which none is promised.
-/
namespace Freshell.AgentHost
open Freshell.Library.Tables
open Freshell.SessionHost (CommandState)

inductive AgentEvent (Value : Type) where
  | started (nativeSessionId : String)
  | provider (payload : Value)
  | permissionRequested (decisionId : String) (payload : Value)
  | decisionResolved (decisionId : String)
  | commandOutcome (requestId : String) (state : CommandState)
  | interrupted
  | exited (reason : String)
deriving DecidableEq, Repr

structure JournalEvent (Value : Type) where
  sequence : Nat
  event : AgentEvent Value
deriving DecidableEq, Repr

structure EventBatch (Value : Type) where
  retainedFrom : Nat
  head : Nat
  resetRequired : Bool
  events : List (JournalEvent Value)
deriving DecidableEq, Repr

/-- The bounds that an actor can be opened with. -/
structure JournalBounds where
  eventByteCap : Nat
  eventCountCap : Nat
  bytes : 0 < eventByteCap
  count : 0 < eventCountCap

/-- A reader that takes up each page from the last sequence number it has seen. -/
structure JournalReader (Value : Type) where
  start : Nat
  cursor : Nat
  received : List (JournalEvent Value)
  told : Bool
deriving DecidableEq, Repr

structure ActorJournal (Value : Type) where
  decisions : Table String (PersistedDecision Value)
  events : List (JournalEvent Value)
  eventBytes : Nat
  nextSequence : Nat
  retainedFrom : Nat
  /-- All that was recorded; the actor does not keep it. -/
  recorded : List (JournalEvent Value)
  reader : JournalReader Value

def maxCount : Nat := 2 ^ 64 - 1

def saturatingAdd (first second : Nat) : Nat := min (first + second) maxCount

namespace ActorJournal
variable {Value : Type}

/-- An empty journal, and a reader with this cursor. -/
def new (cursor : Nat) : ActorJournal Value where
  decisions := ∅
  events := []
  eventBytes := 0
  nextSequence := 1
  retainedFrom := 1
  recorded := []
  reader := ⟨cursor,cursor,[],false⟩

def isPending (state : ActorJournal Value) (decisionId : String) : Bool :=
  (state.decisions.lookup decisionId).any fun decision => decision.state = .pending

def pendingDecisions (state : ActorJournal Value) : Nat :=
  (state.decisions.entries.filter fun entry => entry.2.state = .pending).length

def eventIsPendingDecision (state : ActorJournal Value) (entry : JournalEvent Value) : Bool :=
  match entry.event with
  | .permissionRequested decisionId _ => state.isPending decisionId
  | _ => false

section
variable (size : JournalEvent Value → Nat) (bounds : JournalBounds)

def fits (state : ActorJournal Value) : Bool :=
  state.events.length ≤ bounds.eventCountCap && state.eventBytes ≤ bounds.eventByteCap

/-- The loop of `push_event_bounded`; each turn removes an event. -/
def evict : Nat → ActorJournal Value → ActorJournal Value
  | 0, state => state
  | fuel + 1, state =>
    if state.fits bounds then state
    else
      match state.events.findIdx? fun entry => !state.eventIsPendingDecision entry with
      | none => state
      | some index =>
        match state.events[index]? with
        | none => state
        | some removed =>
          evict fuel { state with
            events := state.events.eraseIdx index
            eventBytes := state.eventBytes - size removed
            retainedFrom := saturatingAdd removed.sequence 1 }

/-- The entry is appended, before anything is removed. -/
def append (state : ActorJournal Value) (event : AgentEvent Value) : ActorJournal Value :=
  let entry : JournalEvent Value := ⟨state.nextSequence,event⟩
  { state with
    nextSequence := saturatingAdd state.nextSequence 1
    eventBytes := saturatingAdd state.eventBytes (size entry)
    events := state.events ++ [entry]
    recorded := state.recorded ++ [entry] }

def pushEventBounded (state : ActorJournal Value) (event : AgentEvent Value) : ActorJournal Value :=
  evict size bounds (state.events.length + 1) (state.append size event)

def setDecision (state : ActorJournal Value) (decisionId : String)
    (change : PersistedDecision Value → PersistedDecision Value) : ActorJournal Value :=
  { state with decisions := mapValues (fun key decision => if key = decisionId then change decision else decision) state.decisions }

def recordEvent (state : ActorJournal Value) (event : AgentEvent Value) : ActorJournal Value × Except ActorError Nat :=
  (state.pushEventBounded size bounds event,.ok state.nextSequence)

/-- The decision as it is asked for, before its event is pushed. -/
def askDecision (state : ActorJournal Value) (decisionId : String) (payload : Value) : ActorJournal Value :=
  { state with decisions := state.decisions.insert decisionId { payload, state := .pending } }

/-- The event of the decision, and those of the decisions that are pending, fit together. -/
def hasCapacity (state : ActorJournal Value) (decisionId : String) (payload : Value) : Bool :=
  let protectedBytes := ((state.events.filter state.eventIsPendingDecision).map size).sum
  let prospective : JournalEvent Value := ⟨state.nextSequence,.permissionRequested decisionId payload⟩
  state.pendingDecisions < bounds.eventCountCap && saturatingAdd protectedBytes (size prospective) ≤ bounds.eventByteCap

def recordPermission [DecidableEq Value] (state : ActorJournal Value) (decisionId : String) (payload : Value) :
    ActorJournal Value × Except ActorError Nat :=
  match state.decisions.lookup decisionId with
  | some existing =>
    if existing.payload ≠ payload then (state,.error .requestConflict)
    else
      let asked := state.events.reverse.find? fun entry =>
        match entry.event with
        | .permissionRequested existingId _ => existingId = decisionId
        | _ => false
      match asked with
      | some entry => (state,.ok entry.sequence)
      | none => (state,.error (.persistence "decision event is missing"))
  | none =>
    if !state.hasCapacity size bounds decisionId payload then
      (state,.error (.persistence "pending decision journal capacity exceeded"))
    else
      ((state.askDecision decisionId payload).pushEventBounded size bounds (.permissionRequested decisionId payload),
        .ok state.nextSequence)

/-- As far as the provider, with the digest of the answer. -/
def resolvePermission (state : ActorJournal Value) (decisionId responseDigest : String) :
    ActorJournal Value × Except ActorError Unit :=
  match state.decisions.lookup decisionId with
  | none => (state,.error .unknownDecision)
  | some pending =>
    match pending.state with
    | .pending =>
      (state.setDecision decisionId fun pending =>
        { pending with state := .dispatching, responseDigest := some responseDigest },.ok ())
    | .resolved =>
      if pending.responseDigest = some responseDigest then (state,.ok ()) else (state,.error .decisionAlreadyResolved)
    | .dispatching => (state,.error .ambiguousDispatch)
    | .ambiguous => (state,.error .ambiguousDispatch)

def setState (state : ActorJournal Value) (decisionId : String) (decision : DecisionState) : ActorJournal Value :=
  state.setDecision decisionId fun pending => { pending with state := decision }

/-- The provider has answered for a decision that is being dispatched. -/
def permissionReturned (state : ActorJournal Value) (decisionId : String) (result : Except DispatchFailure Unit) :
    ActorJournal Value :=
  if (state.decisions.lookup decisionId).any fun decision => decision.state = .dispatching then
    match result with
    | .ok () => (state.setState decisionId .resolved).pushEventBounded size bounds (.decisionResolved decisionId)
    | .error failure => state.setState decisionId (if failure.acceptanceAmbiguous then .ambiguous else .pending)
  else state

def commandOutcome (state : ActorJournal Value) (nativeSessionId : Option String) (requestId : String)
    (outcome : CommandState) : ActorJournal Value :=
  let state :=
    match nativeSessionId with
    | none => state
    | some nativeSessionId => state.pushEventBounded size bounds (.started nativeSessionId)
  state.pushEventBounded size bounds (.commandOutcome requestId outcome)

def readEvents (state : ActorJournal Value) (after maxEvents : Nat) : EventBatch Value where
  retainedFrom := state.retainedFrom
  head := state.nextSequence - 1
  resetRequired := saturatingAdd after 1 < state.retainedFrom
  events := (state.events.filter fun event => after < event.sequence).take (max 1 (min maxEvents bounds.eventCountCap))

def page (state : ActorJournal Value) (maxEvents : Nat) : ActorJournal Value :=
  let batch := state.readEvents bounds state.reader.cursor maxEvents
  { state with
    reader := { state.reader with
      cursor := batch.events.foldl (fun cursor event => max cursor event.sequence) state.reader.cursor
      received := state.reader.received ++ batch.events
      told := state.reader.told || batch.resetRequired } }

end
end ActorJournal

inductive JournalCall (Value : Type) where
  | recordEvent (event : AgentEvent Value)
  | recordPermission (decisionId : String) (payload : Value)
  | resolvePermission (decisionId responseDigest : String)
  | permissionReturned (decisionId : String) (result : Except DispatchFailure Unit)
  | commandOutcome (nativeSessionId : Option String) (requestId : String) (outcome : CommandState)
  | page (maxEvents : Nat)

namespace ActorJournal
variable {Value : Type} [DecidableEq Value] (size : JournalEvent Value → Nat) (bounds : JournalBounds)

def next (state : ActorJournal Value) : JournalCall Value → ActorJournal Value
  | .recordEvent event => (state.recordEvent size bounds event).1
  | .recordPermission decisionId payload => (state.recordPermission size bounds decisionId payload).1
  | .resolvePermission decisionId responseDigest => (state.resolvePermission decisionId responseDigest).1
  | .permissionReturned decisionId result => state.permissionReturned size bounds decisionId result
  | .commandOutcome nativeSessionId requestId outcome => state.commandOutcome size bounds nativeSessionId requestId outcome
  | .page maxEvents => state.page bounds maxEvents

end ActorJournal
end Freshell.AgentHost
