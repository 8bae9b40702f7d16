import Freshell.Library.Runs
import Freshell.Paced.Session

/-!
The system of one terminal: its output reader, the connections with their
dispatchers, and the drains that run beside them. A label is one hold of the
terminal's lock or one message sunk, so that a run is any interleaving of
output, eviction, attaches, credits, pages, holds of the drains and an exit.
-/
namespace Freshell.Paced
open Freshell.Terminal Freshell.Library.Runs
set_option linter.unusedSimpArgs false

/-- What the dispatcher does next when nothing is left to sink. -/
inductive Task where
  /-- `start_session`: the arm of a staged exit, after the first page. -/
  | start
  /-- A page read of `drive_session`, for a credit or a start, or for the wedge guard. -/
  | drive (guard : Bool)
  /-- `settle_exit_transition` on the outcome of the drive. -/
  | settle (outcome : DriveOutcome)
  | dispose (disposition : TransitionDisposition)
deriving DecidableEq, Repr

/-- A session under the dispatcher, and the messages built and not yet sunk. -/
structure Dispatch where
  sink : FrameSink
  session : PacedSession
  task : Task
  outbox : List ServerMessage

structure Drain where
  sink : FrameSink
  session : PacedSession
  drainTarget : Option Nat
  handingOff : Bool
  outbox : List ServerMessage

/-- A message on a connection's queue, and the attach that it was sunk for. -/
structure Sent where
  attach : Nat
  message : ServerMessage
deriving DecidableEq, Repr

structure Connection where
  closed : Bool
  attaches : Nat
  wire : List Sent
  session : Option (FrameSink × PacedSession)
  busy : Option Dispatch
  /-- The drain that the session of an attach has moved into. -/
  drains : Nat → Option Drain

structure World where
  shared : TerminalShared
  /-- The sequence number that the framer gives the next frame. -/
  nextSeq : Nat
  connections : ConnId → Connection

/-- What the scanners make of a chunk of output. -/
structure Scan where
  barrier : Bool
  barrierReason : Option BarrierReason
  stateBefore : ScannerMode
  stateAfter : ScannerMode
  modes : String
deriving DecidableEq, Repr

inductive Label where
  | output (data : String) (scan : Scan)
  | exit (exitCode : Int)
  | attach (conn : ConnId) (req : AttachRequest)
  | credit (conn : ConnId) (credit : TerminalReplayCredit)
  | exitNotify (conn : ConnId)
  | detach (conn : ConnId)
  | disconnect (conn : ConnId)
  | dispatch (conn : ConnId)
  | drain (conn : ConnId) (attach : Nat)
  | cancelDrain (conn : ConnId) (attach : Nat)
deriving DecidableEq, Repr

def Connection.fresh : Connection where
  closed := false
  attaches := 0
  wire := []
  session := none
  busy := none
  drains := fun _ => none

def World.start (terminalId streamId : String) (maxReplayChars : Nat) : World where
  shared := {
    terminalId, streamId, replay := [], replayChars := 0, maxReplayChars, modes := "", headSeq := 0
    status := .running, exitCode := none, subscribers := fun _ => none }
  nextSeq := 1
  connections := fun _ => .fresh

def Connection.sunk (c : Connection) (sink : FrameSink) (messages : List ServerMessage) : Connection :=
  { c with wire := c.wire ++ messages.map (Sent.mk sink.attach) }

def Connection.sentFor (c : Connection) (attach : Nat) : List ServerMessage :=
  (c.wire.filter (·.attach == attach)).map Sent.message

def Connection.setDrain (c : Connection) (attach : Nat) (drain : Option Drain) : Connection :=
  { c with drains := Function.update c.drains attach drain }

def Connection.setBusy (c : Connection) (busy : Option Dispatch) : Connection := { c with busy }

def Connection.setSession (c : Connection) (session : Option (FrameSink × PacedSession)) : Connection := { c with session }

def World.setConnection (w : World) (conn : ConnId) (c : Connection) : World :=
  { w with connections := Function.update w.connections conn c }

@[simp] theorem setConnection_same (w : World) (conn : ConnId) (c : Connection) :
    (w.setConnection conn c).connections conn = c := Function.update_self ..

theorem setConnection_other (w : World) {conn other : ConnId} (c : Connection) (apart : other ≠ conn) :
    (w.setConnection conn c).connections other = w.connections other := Function.update_of_ne apart ..

/-- The frame that the framer makes of a chunk; its source is live. -/
def readerFrame (w : World) (data : String) (scan : Scan) : RetainedFrame where
  output := {
    terminalId := w.shared.terminalId, streamId := w.shared.streamId, seqStart := w.nextSeq, seqEnd := w.nextSeq
    data, attachRequestId := none, source := some .live }
  barrier := scan.barrier
  barrierReason := scan.barrierReason
  stateBefore := scan.stateBefore
  stateAfter := scan.stateAfter

def fanOut (s : TerminalShared) (messages : Subscriber → List ServerMessage) (connections : ConnId → Connection) :
    ConnId → Connection := fun conn =>
  match s.subscribers conn with
  | none => connections conn
  | some sub => (connections conn).sunk sub.sink (messages sub)

/-- The reader frames and ingests while its child runs; the exit hook is the
    last thing that it does. -/
def output (config : Config) (w : World) (data : String) (scan : Scan) : World :=
  match w.shared.status with
  | .exited => w
  | .running =>
    let retained := readerFrame w data scan
    { shared := ingest w.shared retained scan.modes
      nextSeq := w.nextSeq + 1
      connections := fanOut w.shared (fun sub => liveMessages config w.shared.terminalId sub retained) w.connections }

def exit (w : World) (exitCode : Int) : World :=
  { w with
    shared := finishPtyExit w.shared exitCode
    connections := fanOut w.shared (exitFanOut w.shared exitCode) w.connections }

def afterDrive (session : PacedSession) (guard : Bool) (outcome : DriveOutcome) : Task :=
  if guard then .dispose (guardDisposition session outcome) else .settle outcome

/-- `drive_session`: its loop, or its outcome when the target is covered. -/
def enterDrive (session : PacedSession) (guard : Bool) : Task :=
  if session.pageEnd < session.phaseTarget then .drive guard else afterDrive session guard .drainReady

def driveTurn (config : Config) (s : TerminalShared) (conn : ConnId) (d : Dispatch) (guard : Bool) : Dispatch :=
  match nextReplayPage config s conn d.session.pageEnd d.session.phaseTarget d.session.pageBudget with
  | .frames messages endSeq =>
    let session := d.session.paged endSeq
    let outcome := if session.pageEnd < session.phaseTarget then .active else .drainReady
    { d with session, outbox := messages, task := afterDrive session guard outcome }
  | .done => { d with task := afterDrive d.session guard .drainReady }
  | .expired lostFrom lostTo resumeFrom headSeq oldestRetainedSeq =>
    { d with
      session := d.session.resumed resumeFrom
      outbox := [retentionGap d.session lostFrom lostTo headSeq oldestRetainedSeq] }
  | .gone => { d with task := afterDrive d.session guard .gone }

def settleTurn (s : TerminalShared) (conn : ConnId) (d : Dispatch) (outcome : DriveOutcome) : Dispatch :=
  match pacedExitTransition s conn with
  | none => { d with task := .dispose (unarmedDisposition outcome) }
  | some exitHead =>
    let session := d.session.armStagedExit exitHead
    { d with
      session
      task :=
        if outcome = .gone then .dispose .gone
        else if session.credited < session.pageEnd then .dispose .stay
        else if session.pageEnd < exitHead then enterDrive session true
        else .dispose .transfer }

/-- `start_session` after the first page: the arm, then the wait for a credit or a drive. -/
def startTurn (s : TerminalShared) (conn : ConnId) (d : Dispatch) : Dispatch :=
  let session := armStagedExitFromRegistry s conn d.session
  { d with
    session
    task :=
      if session.pageEnd < session.phaseTarget ∧ session.credited < session.pageEnd then .dispose .stay
      else enterDrive session false }

def disposeTurn (c : Connection) (d : Dispatch) : TransitionDisposition → Connection
  | .stay => (c.setBusy none).setSession (some (d.sink,d.session))
  | .transfer => (c.setBusy none).setDrain d.sink.attach (some ⟨d.sink,d.session,none,false,[]⟩)
  | .gone => c.setBusy none

def dispatchTurn (config : Config) (s : TerminalShared) (conn : ConnId) (c : Connection) : Connection :=
  match c.busy with
  | none => c
  | some d =>
    match d.outbox with
    | message :: rest => (c.sunk d.sink [message]).setBusy (some { d with outbox := rest })
    | [] =>
      match d.task with
      | .start => c.setBusy (some (startTurn s conn d))
      | .drive guard => c.setBusy (some (driveTurn config s conn d guard))
      | .settle outcome => c.setBusy (some (settleTurn s conn d outcome))
      | .dispose disposition => disposeTurn c d disposition

/-- A credit takes the session out of the table's hands for a drive. -/
def creditTurn (s : TerminalShared) (conn : ConnId) (c : Connection) (credit : TerminalReplayCredit) : Connection :=
  match c.session with
  | none => c
  | some (sink,session) =>
    let (validated,verdict) := validateCredit session credit
    if verdict = .accepted then
      let armed := armStagedExitFromRegistry s conn validated
      (c.setSession none).setBusy (some ⟨sink,armed,enterDrive armed false,[]⟩)
    else c

/-- The notify arm touches the table's session alone. -/
def exitNotifyTurn (s : TerminalShared) (conn : ConnId) (c : Connection) : Connection :=
  c.setSession (c.session.map fun held => (held.1,armStagedExitFromRegistry s conn held.2))

/-- The connection after an attach: what the registry sent, no session of
    before, and a paced start under the dispatcher. -/
def Connection.attached (c : Connection) (sent : List ServerMessage) (started : Option Dispatch) : Connection :=
  { c with
    attaches := c.attaches + 1
    wire := c.wire ++ sent.map (Sent.mk c.attaches)
    session := none
    busy := started }

def attach (config : Config) (w : World) (conn : ConnId) (req : AttachRequest) : World :=
  let c := w.connections conn
  let sink : FrameSink := ⟨c.attaches⟩
  let made := attachToShared config w.shared conn sink req
  let started := made.2.2.map fun start => ⟨sink,.fromDesc start.session,.start,start.firstPage⟩
  { w.setConnection conn (c.attached made.2.1 started) with shared := made.1 }

/-- The dispatcher takes the next message of its connection when it is idle. -/
def Connection.idle (c : Connection) : Bool := !c.closed && c.busy.isNone

/-- The hold of the terminal's lock for the next page: toward the target, then
    the handoff. -/
def drainHold (config : Config) (s : TerminalShared) (conn : ConnId) (d : Drain) (drainTarget : Nat) : TailHold :=
  if d.handingOff then
    handoffPacedTail config s conn d.session.attachRequestId d.session.pageEnd d.session.pageBudget
  else completePacedTail config s conn d.session.attachRequestId d.session.pageEnd drainTarget d.session.pageBudget

def Drain.captured (d : Drain) (headSeq : Nat) : Drain := { d with drainTarget := some headSeq }

/-- What the verdict makes of the drain; a completing one and a gone one end it. -/
def drainNext (d : Drain) : PacedTailCompletion → Option Drain
  | .handoff endSeq => some { d with session := d.session.paged endSeq }
  | .targetCovered endSeq => some { d with session := d.session.paged endSeq, handingOff := true }
  | .expired lostFrom lostTo resumeFrom headSeq oldestRetainedSeq =>
    some { d with
      session := d.session.resumed resumeFrom
      outbox := [retentionGap d.session lostFrom lostTo headSeq oldestRetainedSeq] }
  | .caughtUp | .completed _ | .gapCompleted .. | .gone => none

/-- What a hold sends goes through the sink of the subscriber. -/
def delivered (c : Connection) (sub : Option Subscriber) (sent : List ServerMessage) : Connection :=
  match sub with
  | none => c
  | some sub => c.sunk sub.sink sent

/-- One turn of a drain: a message to sink, the capture of its target, or a
    hold of the lock for its next page. -/
def drainTurn (config : Config) (w : World) (conn : ConnId) (attach : Nat) (d : Drain) : World :=
  let c := w.connections conn
  match d.outbox with
  | message :: rest => w.setConnection conn ((c.sunk d.sink [message]).setDrain attach (some { d with outbox := rest }))
  | [] =>
    match d.drainTarget with
    | none => w.setConnection conn (c.setDrain attach (some (d.captured w.shared.headSeq)))
    | some drainTarget =>
      let hold := drainHold config w.shared conn d drainTarget
      { w.setConnection conn
          ((delivered c (w.shared.subscribers conn) hold.sent).setDrain attach (drainNext d hold.verdict)) with
        shared := hold.shared }

def step (config : Config) (w : World) : Label → World
  | .output data scan => output config w data scan
  | .exit exitCode => exit w exitCode
  | .attach conn req => if (w.connections conn).idle then attach config w conn req else w
  | .credit conn credit =>
    if (w.connections conn).idle then w.setConnection conn (creditTurn w.shared conn (w.connections conn) credit) else w
  | .exitNotify conn =>
    if (w.connections conn).idle then w.setConnection conn (exitNotifyTurn w.shared conn (w.connections conn)) else w
  | .detach conn =>
    if (w.connections conn).idle then
      { w.setConnection conn ((w.connections conn).setSession none) with shared := detach w.shared conn }
    else w
  | .disconnect conn =>
    if (w.connections conn).idle then
      { w.setConnection conn { (w.connections conn).setSession none with closed := true } with
        shared := detach w.shared conn }
    else w
  | .dispatch conn => w.setConnection conn (dispatchTurn config w.shared conn (w.connections conn))
  | .drain conn attach =>
    match (w.connections conn).drains attach with
    | none => w
    | some d => drainTurn config w conn attach d
  | .cancelDrain conn attach =>
    -- the task looks at its cancellation between two turns only
    match (w.connections conn).drains attach with
    | none => w
    | some d =>
      if (w.connections conn).closed ∧ d.outbox = [] then
        w.setConnection conn ((w.connections conn).setDrain attach none)
      else w

/-- The worlds that the labels lead to from a terminal that was just created. -/
def World.after (config : Config) (terminalId streamId : String) (maxReplayChars : Nat) (labels : List Label) : World :=
  run (step config) (World.start terminalId streamId maxReplayChars) labels

end Freshell.Paced
