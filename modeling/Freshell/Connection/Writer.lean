import Freshell.Connection.DeliveryIndex
import Freshell.Library.Runs

/-!
The writer of one connection: a lane of control frames beside the delivery queue,
admission stamps over both, and a pump that leases one frame at a time. A gap is
resolved with the queues unlocked, so other calls can come between its leaving the
queue and its lease.
-/
namespace Freshell.Connection
open Freshell.Library.Tables

def MAX_INTEREST_TERMINALS : Nat := 1024
def MAX_SAFE_REVISION : Nat := 9007199254740991

structure TerminalInterest where
  revision : Nat
  focusedTerminalId : Option String
  visibleTerminalIds : List String

structure InterestState where
  enabled : Bool
  revision : Option Nat
  focused : Option String
  visible : List String
  attachments : Table String Priority

namespace InterestState

def empty : InterestState := ⟨false,none,none,[],∅⟩

def priority (state : InterestState) (terminalId : String) : Priority :=
  if state.revision.isSome then
    if state.focused = some terminalId then .focused
    else if terminalId ∈ state.visible then .visible else .background
  else (state.attachments.lookup terminalId).getD .visible

def attach (state : InterestState) (terminalId : String) (background : Bool) : InterestState :=
  if state.revision.isSome then state
  else if (state.attachments.lookup terminalId).isNone && decide (MAX_INTEREST_TERMINALS ≤ state.attachments.entries.length)
    then state
  else { state with attachments := state.attachments.insert terminalId (if background then .background else .visible) }

def detach (state : InterestState) (terminalId : String) : InterestState :=
  { state with attachments := state.attachments.erase terminalId }

def validId (id : String) : Bool := id != "" && decide ((id.toList.map fun c => if c.toNat ≤ 0xFFFF then 1 else 2).sum ≤ 512)

/-- Whether the snapshot was newer than the accepted one, with the state after it. -/
def apply (state : InterestState) (snapshot : TerminalInterest) : Except String (Bool × InterestState) :=
  if !state.enabled then .error "terminalInterestV1 was not negotiated"
  else if snapshot.revision = 0 ∨ MAX_SAFE_REVISION < snapshot.revision then
    .error "Invalid terminal interest revision"
  else if MAX_INTEREST_TERMINALS < snapshot.visibleTerminalIds.length then
    .error "Too many visible terminal identifiers"
  else if !snapshot.visibleTerminalIds.all validId || !snapshot.focusedTerminalId.all validId then
    .error "Invalid terminal interest identifier"
  else if !snapshot.focusedTerminalId.all (snapshot.visibleTerminalIds.contains ·) then
    .error "Focused terminal must be visible"
  else if state.revision.any fun revision => decide (snapshot.revision ≤ revision) then .ok (false,state)
  else
    .ok (true,{ state with
      revision := some snapshot.revision
      focused := snapshot.focusedTerminalId
      visible := snapshot.visibleTerminalIds })

end InterestState

inductive WriterExit where
  | stopped | sendFailed | sendTimedOut | controlOverflow | serializationFailed | outputCapacityExceeded
deriving DecidableEq, Repr

/-- A message as it goes to the socket, with the bytes of its text. -/
structure Wire (T : Type) where
  frame : T
  bytes : Nat
deriving DecidableEq, Repr

structure Control (T : Type) where
  frame : T
  bytes : Nat
  seq : Nat
deriving DecidableEq, Repr

def CONTROL_STREAK_LIMIT : Nat := 8

inductive ServerMessage where
  | attachReady (terminalId : String)
  | output (terminalId : String) (range : Range)
  | exit (terminalId : String)
  | outputGap (terminalId : String)
  | other
deriving DecidableEq, Repr

structure ReplayBounds where
  headSeq : Int
  oldestRetainedSeq : Int
deriving DecidableEq, Repr

/-- The message that tells of a gap of the queue. -/
structure TerminalOutputGap where
  terminalId : String
  range : Range
  bounds : Option ReplayBounds
deriving DecidableEq, Repr

/-- What a connection is set up with: its budgets, whether gaps are to carry the
    terminal's bounds, and the text of a gap message. -/
structure Shared (T : Type) where
  outputLimit : Nat
  controlLimit : Nat
  gapBounds : Bool
  gapWire : TerminalOutputGap → Wire T

structure Queues (T : Type) where
  output : DeliveryQueue T
  interest : InterestState
  controls : List (Control T)
  controlBytes : Nat
  inFlightOutputBytes : Nat
  controlsSinceLastOutput : Nat
  nextSeq : Nat
  closed : Bool
  completedSends : Nat
  drainReserved : Nat

def metadataLimit (outputLimit : Nat) : Nat := min (max (outputLimit / 64) 64) 262144

namespace Queues
variable {T : Type}

def new (outputLimit : Nat) : Queues T where
  output := .new outputLimit (metadataLimit outputLimit)
  interest := .empty
  controls := []
  controlBytes := 0
  inFlightOutputBytes := 0
  controlsSinceLastOutput := 0
  nextSeq := 0
  closed := false
  completedSends := 0
  drainReserved := 0

def backlog (queues : Queues T) : Nat := saturatingAdd usizeMax queues.output.pendingBytes queues.inFlightOutputBytes

def stop (queues : Queues T) : Queues T := { queues with closed := true }

/-- A control frame, with the terminal whose queued output it supersedes. -/
def pushControl (shared : Shared T) (queues : Queues T) (wire : Wire T) (supersedesTerminal : Option String) :
    Option (Except WriterExit Unit × Queues T) :=
  let bytes := min (wire.bytes + 128) usizeMax
  if queues.closed then some (.error .stopped,queues)
  else if max shared.controlLimit 1 - queues.controlBytes < bytes ∧ 0 < queues.controlBytes then
    some (.error .controlOverflow,queues.stop)
  else do
    let output ← match supersedesTerminal with
      | some terminalId => queues.output.discardTerminal terminalId
      | none => some queues.output
    return (.ok (),{ queues with
      output := output
      controlBytes := queues.controlBytes + bytes
      nextSeq := queues.nextSeq + 1
      controls := queues.controls ++ [⟨wire.frame,bytes,queues.nextSeq⟩] })

/-- A frame into the delivery queue, under the next stamp. A frame that is not
    taken ends the connection. -/
def pushOutput (queues : Queues T) (terminalId : String) (wire : Wire T) (bytes : Nat) (range : Option Range) :
    Option (Bool × Queues T) := do
  let (result,output) ← queues.output.push (queues.interest.priority terminalId)
    ⟨terminalId,wire.frame,bytes,range,queues.nextSeq⟩
  let queues := { queues with output := output.takeEvictions.2, nextSeq := queues.nextSeq + 1 }
  return match result with
    | .ok () => (true,queues)
    | .error _ => (false,queues.stop)

def pushServer (shared : Shared T) (queues : Queues T) (msg : ServerMessage) (wire : Wire T) :
    Option (Bool × Queues T) :=
  match msg with
  | .attachReady terminalId =>
    (queues.pushControl shared wire (some terminalId)).map fun (result,after) => (result matches .ok (),after)
  | .other => (queues.pushControl shared wire none).map fun (result,after) => (result matches .ok (),after)
  | .output terminalId range =>
    if queues.closed then some (false,queues) else queues.pushOutput terminalId wire wire.bytes (some range)
  | .exit terminalId =>
    if queues.closed then some (false,queues)
    else
      (queues.pushOutput terminalId wire 0 none).map fun (taken,after) =>
        (taken,if taken then { after with interest := after.interest.detach terminalId } else after)
  | .outputGap terminalId =>
    if queues.closed then some (false,queues) else queues.pushOutput terminalId wire 0 none

def setTerminalInterest (queues : Queues T) (snapshot : TerminalInterest) : Queues T :=
  if queues.closed then queues
  else
    match queues.interest.apply snapshot with
    | .ok (true,interest) =>
      { queues with interest := interest, output := queues.output.updatePriorities interest.priority }
    | _ => queues

def setAttachmentPriority (queues : Queues T) (terminalId : String) (background : Bool) : Queues T :=
  if queues.closed then queues
  else
    let interest := queues.interest.attach terminalId background
    { queues with interest := interest, output := queues.output.updatePriorities interest.priority }

def discardTerminalDelivery (queues : Queues T) (terminalId : String) : Option (Queues T) := do
  let output ← queues.output.discardTerminal terminalId
  return { queues with output := output, interest := queues.interest.detach terminalId }

def backlogWatermark (shared : Shared T) : Nat := max (max shared.outputLimit 1 / 2) 1

/-- Room for a drain's page of `bytes`, beside the backlog and what other drains hold. -/
def tryReserveDrainAdmission (shared : Shared T) (queues : Queues T) (bytes : Nat) : Option (Queues T) :=
  if queues.closed then none
  else
    let limit := max (backlogWatermark shared) bytes
    if limit < saturatingAdd usizeMax (saturatingAdd usizeMax queues.backlog queues.drainReserved) bytes then none
    else some { queues with drainReserved := saturatingAdd usizeMax queues.drainReserved bytes }

def dropAdmission (queues : Queues T) (bytes : Nat) : Queues T :=
  { queues with drainReserved := queues.drainReserved - bytes }

/-- What the pump takes from the queues, before it is a frame for the socket. -/
inductive Taken (T : Type) where
  | idle
  | control (control : Control T)
  | frame (payload : T) (bytes : Nat)
  | gap (terminalId : String) (range : Range)

/-- Output may go ahead of the controls when the frame next in service is older than all of them. -/
def outputMayLeapfrog (queues : Queues T) (stamp : Option Nat) : Bool :=
  match stamp,queues.controls.head? with
  | some stamp,some control => decide (stamp < control.seq)
  | some _,none => true
  | none,_ => false

/-- The choice of the next frame, under one lock. -/
def takeNext (queues : Queues T) : Option (Taken T × Queues T) :=
  if queues.closed then some (.idle,queues)
  else do
    let stamp ← queues.output.frontStamp
    let takeOutput := queues.output.hasPending && (queues.controls.isEmpty ||
      (decide (CONTROL_STREAK_LIMIT ≤ queues.controlsSinceLastOutput) && queues.outputMayLeapfrog stamp))
    if takeOutput then
      let (delivery,output) ← queues.output.pop
      return match delivery with
        | none => (.idle,{ queues with output := output })
        | some (.frame payload bytes) => (.frame payload bytes,{ queues with output := output })
        | some (.gap terminalId range) => (.gap terminalId range,{ queues with output := output })
    else
      return match queues.controls with
        | [] => (.idle,queues)
        | control :: rest =>
          (.control control,{ queues with
            controls := rest, controlsSinceLastOutput := queues.controlsSinceLastOutput + 1 })

/-- A leased output frame stays charged until it is written. -/
def leaseOutput (queues : Queues T) (bytes : Nat) : Queues T :=
  { queues with
    inFlightOutputBytes := bytes
    output := queues.output.setReservedBytes bytes
    controlsSinceLastOutput := 0 }

def finishFrame (queues : Queues T) (outputBytes controlBytes : Nat) : Queues T :=
  let inFlight := queues.inFlightOutputBytes - outputBytes
  { queues with
    controlBytes := queues.controlBytes - controlBytes
    inFlightOutputBytes := inFlight
    output := queues.output.setReservedBytes inFlight
    completedSends := queues.completedSends + 1 }

def dropPump (shared : Shared T) (queues : Queues T) : Queues T :=
  { queues with
    closed := true
    controls := []
    controlBytes := 0
    inFlightOutputBytes := 0
    controlsSinceLastOutput := 0
    drainReserved := 0
    output := .new (max shared.outputLimit 1) (metadataLimit (max shared.outputLimit 1))
    interest := .empty }

end Queues
end Freshell.Connection
