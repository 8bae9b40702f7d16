import Mathlib.Data.Finset.Sort
import Mathlib.Data.List.MinMax
import Mathlib.Data.Prod.Lex
import Mathlib.Data.String.Basic
import Freshell.Library.Tables
import Mathlib.Algebra.Ring.Int.Defs

/-!
The byte-fair delivery queue of one connection: frames by admission id, the
index of the evictable ones, and a lane for each terminal. An operation answers
`none` where an `expect` of the source would panic.
-/
namespace Freshell.Connection
open Freshell.Library.Tables

inductive Priority where
  | focused | visible | background
deriving DecidableEq, Repr

def Priority.index : Priority → Nat
  | .focused => 0
  | .visible => 1
  | .background => 2

structure Range where
  streamId : String
  attachRequestId : Option String
  fromSeq : Int
  toSeq : Int
deriving DecidableEq, Repr

inductive Delivery (T : Type) where
  | frame (payload : T) (bytes : Nat)
  | gap (terminalId : String) (range : Range)
deriving DecidableEq, Repr

/-- The record of one eviction, for the spill log. -/
structure EvictedOutput where
  terminalId : String
  range : Range
deriving DecidableEq, Repr

inductive CapacityError where
  | metadataLimit | unrecoverableOverflow | sequenceExhausted
deriving DecidableEq, Repr

/-- A queued frame; one with no range is a sequenced control. -/
structure Entry (T : Type) where
  terminalId : String
  payload : T
  bytes : Nat
  range : Option Range
  stamp : Nat
deriving DecidableEq, Repr

/-- Byte-service multipliers, for about 8:3:1 bytes between busy classes. -/
def weight : Priority → Nat
  | .focused => 3
  | .visible => 8
  | .background => 24

structure Lane where
  priority : Priority
  ids : Finset Nat
  gaps : List Range
  served : Nat
deriving DecidableEq

def Lane.active (lane : Lane) : Bool := decide (lane.ids ≠ ∅) || !lane.gaps.isEmpty

def u64Max : Nat := 2 ^ 64 - 1
def u128Max : Nat := 2 ^ 128 - 1
def i64Max : Int := 2 ^ 63 - 1

/-- The capacity of the counters; `usize` is 64 bits wide. -/
def usizeMax : Nat := 2 ^ 64 - 1

/-- Addition that saturates at the largest value of the type. -/
def saturatingAdd (largest first second : Nat) : Nat := min (first + second) largest

def first (ids : Finset Nat) : Option Nat := if some_ : ids.Nonempty then some (ids.min' some_) else none

structure DeliveryQueue (T : Type) where
  entries : Table Nat (Entry T)
  evictable : Finset Nat
  lanes : Table String Lane
  nextId : Nat
  bytes : Nat
  reserved : Nat
  byteLimit : Nat
  metadataLimit : Nat
  gapCount : Nat
  evictions : List EvictedOutput
  classServed : Priority → Nat
  classClock : Nat
  laneClock : Priority → Nat

/-- Whether an evicted range continues the lane's last gap. -/
def Range.continues (range last : Range) : Bool :=
  last.streamId == range.streamId && last.attachRequestId == range.attachRequestId &&
    decide (range.fromSeq ≤ min (last.toSeq + 1) i64Max)

def Range.merge (last range : Range) : Range :=
  { last with fromSeq := min last.fromSeq range.fromSeq, toSeq := max last.toSeq range.toSeq }

def recordGap (gaps : List Range) (range : Range) : List Range :=
  match gaps.getLast? with
  | some last => if range.continues last then gaps.dropLast ++ [last.merge range] else gaps ++ [range]
  | none => gaps ++ [range]

namespace DeliveryQueue
variable {T : Type}

def new (byteLimit metadataLimit : Nat) : DeliveryQueue T where
  entries := ∅
  evictable := ∅
  lanes := ∅
  nextId := 0
  bytes := 0
  reserved := 0
  byteLimit := max byteLimit 1
  metadataLimit := max metadataLimit 1
  gapCount := 0
  evictions := []
  classServed _ := 0
  classClock := 0
  laneClock _ := 0

def pendingBytes (queue : DeliveryQueue T) : Nat := queue.bytes

def outstandingBytes (queue : DeliveryQueue T) : Nat := saturatingAdd usizeMax queue.bytes queue.reserved

def setReservedBytes (queue : DeliveryQueue T) (bytes : Nat) : DeliveryQueue T := { queue with reserved := bytes }

/-- The lane that admission finds or makes. An existing lane keeps its priority. -/
def laneFor (queue : DeliveryQueue T) (terminalId : String) (priority : Priority) : Lane :=
  (queue.lanes.lookup terminalId).getD ⟨priority,∅,[],queue.laneClock priority⟩

/-- A frame under the next id, before any eviction. -/
def admitEntry (queue : DeliveryQueue T) (priority : Priority) (entry : Entry T) : DeliveryQueue T :=
  let lane := queue.laneFor entry.terminalId priority
  { queue with
    nextId := queue.nextId + 1
    classServed := Function.update queue.classServed priority (max (queue.classServed priority) queue.classClock)
    lanes := queue.lanes.insert entry.terminalId { lane with ids := insert queue.nextId lane.ids }
    evictable := if entry.range.isSome then insert queue.nextId queue.evictable else queue.evictable
    bytes := queue.bytes + entry.bytes
    entries := queue.entries.insert queue.nextId entry }

def moveToGap (queue : DeliveryQueue T) (id : Nat) (entry : Entry T) (lane : Lane) (range : Range) : DeliveryQueue T :=
  let gaps := recordGap lane.gaps range
  { queue with
    entries := queue.entries.erase id
    evictable := queue.evictable.erase id
    bytes := queue.bytes - entry.bytes
    lanes := queue.lanes.insert entry.terminalId { lane with ids := lane.ids.erase id, gaps }
    evictions := queue.evictions ++ [⟨entry.terminalId,range⟩]
    gapCount := queue.gapCount + (gaps.length - lane.gaps.length) }

/-- One turn of the eviction loop, on the oldest evictable frame. -/
def evict (queue : DeliveryQueue T) (id : Nat) : Option (DeliveryQueue T) := do
  let entry ← queue.entries.lookup id
  let lane ← queue.lanes.lookup entry.terminalId
  let range ← entry.range
  return queue.moveToGap id entry lane range

/-- The eviction loop; each turn takes one evictable frame, so it takes at most
    as many turns as there are. -/
def evictFrom : Nat → DeliveryQueue T → Option (Except CapacityError Unit × DeliveryQueue T)
  | 0, queue =>
    some (if queue.byteLimit < queue.outstandingBytes then .error .unrecoverableOverflow else .ok (),queue)
  | fuel+1, queue =>
    if queue.byteLimit < queue.outstandingBytes then
      match first queue.evictable with
      | none => some (.error .unrecoverableOverflow,queue)
      | some id => (queue.evict id).bind (evictFrom fuel)
    else some (.ok (),queue)

def evictOverflow (queue : DeliveryQueue T) : Option (Except CapacityError Unit × DeliveryQueue T) :=
  evictFrom queue.evictable.card queue

def push (queue : DeliveryQueue T) (priority : Priority) (entry : Entry T) :
    Option (Except CapacityError Unit × DeliveryQueue T) :=
  if queue.metadataLimit ≤ saturatingAdd usizeMax queue.entries.entries.length queue.gapCount then
    some (.error .metadataLimit,queue)
  else if u64Max < queue.nextId + 1 then some (.error .sequenceExhausted,queue)
  else if usizeMax < queue.bytes + entry.bytes then some (.error .unrecoverableOverflow,queue)
  else (queue.admitEntry priority entry).evictOverflow

def takeEvictions (queue : DeliveryQueue T) : List EvictedOutput × DeliveryQueue T :=
  (queue.evictions,{ queue with evictions := [] })

def refreshClocks (queue : DeliveryQueue T) : DeliveryQueue T :=
  let lanes := (queue.lanes.entries.map fun entry => entry.2).filter Lane.active
  let inClass := fun class_ : Priority => lanes.filter fun lane => lane.priority = class_
  let busy := [Priority.focused,.visible,.background].filter fun class_ => !(inClass class_).isEmpty
  { queue with
    classClock := match (busy.map queue.classServed).min? with
      | some minimum => max queue.classClock minimum
      | none => queue.classClock
    laneClock := fun class_ =>
      if (inClass class_).isEmpty then queue.laneClock class_
      else max (queue.laneClock class_) (((inClass class_).map (·.served)).foldl min u128Max) }

def lanesInOrder (queue : DeliveryQueue T) : List (String × Lane) :=
  (queue.lanes.entries.map fun entry => (entry.1,entry.2)).mergeSort fun first second => decide (first.1 ≤ second.1)

/-- A lane under its terminal's priority; a moved one starts at the clock of its
    new class. -/
def Lane.reprioritize (lane : Lane) (next : Priority) (laneClock : Priority → Nat) : Lane :=
  if lane.priority = next then lane else { lane with priority := next, served := laneClock next }

def reprioritizeClass (classClock : Nat) (priority : String → Priority) (served : Priority → Nat)
    (entry : String × Lane) : Priority → Nat :=
  let next := priority entry.1
  let lifted :=
    if entry.2.priority = next then served
    else Function.update served next (max (served next) (served entry.2.priority))
  Function.update lifted next (max (lifted next) classClock)

def updatePriorities (queue : DeliveryQueue T) (priority : String → Priority) : DeliveryQueue T :=
  refreshClocks { queue with
    lanes := mapValues (fun id lane => Lane.reprioritize lane (priority id) queue.laneClock) queue.lanes
    classServed := queue.lanesInOrder.foldl (reprioritizeClass queue.classClock priority) queue.classServed }

def forget (queue : DeliveryQueue T) (id : Nat) : Option (DeliveryQueue T) := do
  let entry ← queue.entries.lookup id
  return { queue with
    entries := queue.entries.erase id
    bytes := queue.bytes - entry.bytes
    evictable := queue.evictable.erase id }

def discardTerminal (queue : DeliveryQueue T) (terminalId : String) : Option (DeliveryQueue T) :=
  match queue.lanes.lookup terminalId with
  | none => some queue.refreshClocks
  | some lane =>
    ((lane.ids.sort (· ≤ ·)).foldlM forget
      { queue with lanes := queue.lanes.erase terminalId, gapCount := queue.gapCount - lane.gaps.length }).map
        refreshClocks

/-- The order in which the lanes are served: by class service, class, lane
    service and terminal. -/
def serviceKey (queue : DeliveryQueue T) (entry : String × Lane) : ℕ ×ₗ ℕ ×ₗ ℕ ×ₗ String :=
  let class_ := entry.2.priority
  toLex (max (queue.classServed class_) queue.classClock,
    toLex (class_.index,toLex (max entry.2.served (queue.laneClock class_),entry.1)))

def selectLane (queue : DeliveryQueue T) : Option String :=
  ((queue.lanesInOrder.filter fun entry => entry.2.active).argmin queue.serviceKey).map (·.1)

def hasPending (queue : DeliveryQueue T) : Bool := queue.lanes.entries.any fun entry => entry.2.active

/-- The admission stamp of the frame that `pop` would deliver; a gap has none. -/
def frontStamp (queue : DeliveryQueue T) : Option (Option Nat) :=
  match queue.selectLane with
  | none => some none
  | some terminalId => do
    let lane ← queue.lanes.lookup terminalId
    if lane.gaps.isEmpty then
      let id ← first lane.ids
      let entry ← queue.entries.lookup id
      return some entry.stamp
    else return none

/-- The charge for a delivery, and the lane where it is not yet empty. -/
def serve (queue : DeliveryQueue T) (terminalId : String) (lane : Lane) (cost : Nat) : DeliveryQueue T :=
  let class_ := lane.priority
  let charged := { lane with served := saturatingAdd u128Max (max lane.served (queue.laneClock class_)) cost }
  refreshClocks { queue with
    classServed := Function.update queue.classServed class_
      (saturatingAdd u128Max (max (queue.classServed class_) queue.classClock) (min (cost * weight class_) u128Max))
    lanes := if charged.active then queue.lanes.insert terminalId charged else queue.lanes.erase terminalId }

def popGap (queue : DeliveryQueue T) (terminalId : String) (lane : Lane) (rest : List Range) : DeliveryQueue T :=
  serve { queue with gapCount := queue.gapCount - 1 } terminalId { lane with gaps := rest } 256

def popFrame (queue : DeliveryQueue T) (id : Nat) (entry : Entry T) (terminalId : String) (lane : Lane) : DeliveryQueue T :=
  serve { queue with
    entries := queue.entries.erase id
    evictable := queue.evictable.erase id
    bytes := queue.bytes - entry.bytes } terminalId { lane with ids := lane.ids.erase id } (max entry.bytes 1)

/-- The next delivery: the selected lane's first gap, or else its oldest frame. -/
def pop (queue : DeliveryQueue T) : Option (Option (Delivery T) × DeliveryQueue T) :=
  match queue.selectLane with
  | none => some (none,queue)
  | some terminalId => do
    let lane ← queue.lanes.lookup terminalId
    match lane.gaps with
    | range :: rest => return (some (.gap terminalId range),queue.popGap terminalId lane rest)
    | [] =>
      let id ← first lane.ids
      let entry ← queue.entries.lookup id
      return (some (.frame entry.payload entry.bytes),queue.popFrame id entry terminalId lane)

end DeliveryQueue
end Freshell.Connection
