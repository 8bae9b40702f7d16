import Freshell.Terminal.Ring
import Freshell.SessionHost.Paging

/-!
The output of a terminal whose host is another process. A refresh claims the terminal,
asks the host for what it spooled behind the head, and merges the answer into the
terminal's own ring; an answer from another stream, or from behind the host's retention,
starts the ring again. The announcements to the subscribers are left out.
-/
namespace Freshell.Terminal
open Freshell.SessionHost (OutputJournal RuntimeOutputBatch RuntimeOutputFrame JournalHistory Spool SpoolOutcome withLimits)

structure ManagedOutputChunk where
  seqStart : Nat
  seqEnd : Nat
  data : String
deriving DecidableEq, Repr

structure ManagedOutputRead where
  streamEpoch : Option String
  incarnationId : Option String
  resetRequired : Bool
  truncated : Bool
  retainedFromSeq : Nat
  headSeq : Nat
  exitCode : Option Int
  nativeSessionId : Option String
  chunks : List ManagedOutputChunk
deriving DecidableEq, Repr

def outputReadPosition (currentStreamEpoch : String) (expectedStreamEpoch : Option String) (afterSeq : Nat) : Nat × Bool :=
  let sourceChanged := expectedStreamEpoch.any fun epoch => epoch != currentStreamEpoch
  (if sourceChanged then 0 else afterSeq,sourceChanged)

/-- What the process behind the terminal has come to. -/
structure ProcessFacts where
  exited : Bool
  exitCode : Int
  nativeSessionId : Option String
deriving DecidableEq, Repr

def hostReadOutput (journal : OutputJournal) (facts : ProcessFacts) (afterSeq maxBytes : Nat)
    (expectedStreamEpoch : Option String) : RuntimeOutputBatch :=
  let (effectiveAfter,sourceChanged) := outputReadPosition journal.streamEpoch expectedStreamEpoch afterSeq
  let batch := journal.read effectiveAfter maxBytes
  { batch with
    resetRequired := batch.resetRequired || sourceChanged
    truncated := batch.truncated || sourceChanged
    exited := facts.exited
    exitCode := if facts.exited then some facts.exitCode else none
    nativeSessionId := facts.nativeSessionId }

def i64Max : Nat := 2 ^ 63 - 1

/-- The frames of a batch are its own, within its bounds, and in order behind `previous`. -/
def framesInOrder (output : RuntimeOutputBatch) (terminalId : String) : Option Nat → List RuntimeOutputFrame → Except String Unit
  | _, [] => .ok ()
  | previous, frame :: rest =>
    if frame.terminalId ≠ terminalId ∨ frame.streamEpoch ≠ output.streamEpoch then
      .error "managed output frame source identity mismatch"
    else if frame.seqStart < output.retainedFromSeq ∨ frame.seqEnd < frame.seqStart ∨ output.headSeq < frame.seqEnd ∨
        previous.any fun seq => frame.seqStart ≤ seq then
      .error "managed output frame sequence is invalid or out of order"
    else framesInOrder output terminalId (some frame.seqEnd) rest

def validate (output : RuntimeOutputBatch) (terminalId : String) : Except String Unit :=
  if output.terminalId ≠ terminalId ∨ output.streamEpoch = "" then .error "managed output source identity mismatch"
  else if i64Max < output.headSeq ∨ output.retainedFromSeq = 0 ∨ output.headSeq + 1 < output.retainedFromSeq then
    .error "managed output has invalid retained sequence bounds"
  else framesInOrder output terminalId none output.frames

/-- What comes of asking the host: a recovery is in flight, the request fails, or the host
    answers. -/
inductive HostAnswer where
  | recovering
  | failed (error : String)
  | answered (facts : ProcessFacts)
deriving DecidableEq, Repr

def toChunk (frame : RuntimeOutputFrame) : ManagedOutputChunk where
  seqStart := min frame.seqStart i64Max
  seqEnd := min frame.seqEnd i64Max
  data := String.ofList frame.data

def controllerReadOutput (journal : OutputJournal) (answer : HostAnswer) (terminalId streamId : String)
    (resumeSessionId : Option String) (afterSeq maxBytes : Nat) : Except String ManagedOutputRead :=
  match answer with
  | .failed error => .error error
  | .recovering => .ok {
      streamEpoch := none, incarnationId := none, resetRequired := false, truncated := false
      retainedFromSeq := afterSeq, headSeq := afterSeq, exitCode := none
      nativeSessionId := resumeSessionId, chunks := [] }
  | .answered facts =>
    let output := hostReadOutput journal facts afterSeq maxBytes (some streamId)
    match validate output terminalId with
    | .error error => .error error
    | .ok () => .ok {
        streamEpoch := some output.streamEpoch
        incarnationId := some output.incarnationId
        resetRequired := output.resetRequired || output.streamEpoch != streamId
        truncated := output.truncated
        retainedFromSeq := min output.retainedFromSeq i64Max
        headSeq := min output.headSeq i64Max
        exitCode := if output.exited then none else output.exitCode
        nativeSessionId := output.nativeSessionId
        chunks := output.frames.map toChunk }

/-- How far a refresh has come that holds the claim. -/
inductive ReadInFlight where
  | asking (afterSeq maxBytes : Nat)
  | answered (read : Except String ManagedOutputRead)
  | ingesting (chunks : List ManagedOutputChunk)

/-- What the barrier scanner and the mode tracker make of a frame. -/
structure Scan where
  barrier : Bool
  barrierReason : Option BarrierReason
  stateBefore : ScannerMode
  stateAfter : ScannerMode
  modes : String
deriving DecidableEq, Repr

/-- A managed terminal: what its descriptor says, what it shares, and the refresh that
    holds the claim. -/
structure ManagedTerminal where
  incarnationId : String
  streamId : String
  resumeSessionId : Option String
  shared : TerminalShared
  managedReadInFlight : Option ReadInFlight

/-- The ring starts again ahead of the retained output. -/
def TerminalShared.reset (s : TerminalShared) (retainedFromSeq : Nat) : TerminalShared :=
  { s with replay := [], replayChars := 0, headSeq := retainedFromSeq - 1, modes := "" }

def resumedMarker : String :=
  "\r\n[Terminal output resumed in a new retained window; earlier output may be truncated.]\r\n"

def markFirst : List ManagedOutputChunk → List ManagedOutputChunk
  | [] => []
  | first :: rest => { first with data := resumedMarker ++ first.data } :: rest

/-- Whether a read is of another stream than the terminal's. A read without a source says nothing. -/
def sourceChanged (terminal : ManagedTerminal) (read : ManagedOutputRead) : Except String Bool :=
  match read.streamEpoch,read.incarnationId with
  | some epoch,some incarnation =>
    if epoch ≠ "" ∧ incarnation ≠ "" then .ok (terminal.streamId != epoch)
    else .error "managed output has incomplete source identity"
  | none,none =>
    if read.chunks = [] ∧ read.resetRequired = false then .ok false
    else .error "managed output has incomplete source identity"
  | _,_ => .error "managed output has incomplete source identity"

/-- The part of a refresh under the lock: the terminal goes over to the source of the read. -/
def adoptSource (terminal : ManagedTerminal) (read : ManagedOutputRead) : Except String (ManagedTerminal × Bool) :=
  if terminal.resumeSessionId.any fun expected => read.nativeSessionId.any fun observed => expected != observed then
    .error "managed output native identity mismatch"
  else
    match sourceChanged terminal read with
    | .error error => .error error
    | .ok epochChanged =>
      let reset := epochChanged || read.resetRequired
      let shared := if reset then terminal.shared.reset read.retainedFromSeq else terminal.shared
      let adopted :=
        if epochChanged then
          { terminal with
            streamId := read.streamEpoch.getD terminal.streamId
            incarnationId := read.incarnationId.getD terminal.incarnationId
            shared := { shared with streamId := read.streamEpoch.getD terminal.streamId } }
        else { terminal with shared }
      .ok ({ adopted with resumeSessionId := read.nativeSessionId.or terminal.resumeSessionId },reset)

def managedOutput (terminal : ManagedTerminal) (chunk : ManagedOutputChunk) : TerminalOutput where
  terminalId := terminal.shared.terminalId
  streamId := terminal.streamId
  seqStart := chunk.seqStart
  seqEnd := chunk.seqEnd
  data := chunk.data
  attachRequestId := none
  source := none

def retained (output : TerminalOutput) (scan : Scan) : RetainedFrame :=
  ⟨output,scan.barrier,scan.barrierReason,scan.stateBefore,scan.stateAfter⟩

/-- A terminal and its host, with what the hosts before put out, and the history of the
    terminal's output: what came before the latest reset, and what has come since. -/
structure Managed where
  host : JournalHistory
  past : List RuntimeOutputFrame
  /-- The streams that a new host does not take over. -/
  epochs : List String
  terminal : ManagedTerminal
  earlier : List TerminalOutput
  window : List TerminalOutput
  windowFrom : Nat
  wasReset : Bool

def ingestManagedOutput (m : Managed) (chunk : ManagedOutputChunk) (scan : Scan) : Managed :=
  if chunk.seqEnd ≤ m.terminal.shared.headSeq then m
  else
    let output := managedOutput m.terminal chunk
    { m with
      terminal := { m.terminal with shared := ingest m.terminal.shared (retained output scan) scan.modes }
      window := m.window ++ [output] }

inductive ManagedOp where
  | append (disk : Nat → SpoolOutcome) (data : List Char)
  /-- A new host with a stream of its own, over the files it finds. -/
  | replaceHost (spool : Spool) (incarnationId streamEpoch : String) (ringLimit spoolLimit : Nat)
  | refreshManagedOutput (maxBytes : Nat)
  | answer (answer : HostAnswer)
  | adopt
  | ingest (scan : Scan)
  | cancel

namespace Managed

def inFlight (m : Managed) (phase : Option ReadInFlight) : Managed :=
  { m with terminal := { m.terminal with managedReadInFlight := phase } }

/-- The answer is taken over, and a reset begins a new window. -/
def adopt (m : Managed) (read : ManagedOutputRead) : Managed :=
  match adoptSource m.terminal read with
  | .error _ => m.inFlight none
  | .ok (terminal,true) =>
    { m with
      terminal := { terminal with managedReadInFlight := some (.ingesting (markFirst read.chunks)) }
      earlier := m.earlier ++ m.window
      window := []
      windowFrom := terminal.shared.headSeq + 1
      wasReset := true }
  | .ok (terminal,false) =>
    { m with terminal := { terminal with managedReadInFlight := some (.ingesting read.chunks) } }

def next (lineLen : RuntimeOutputFrame → Nat) (m : Managed) (op : ManagedOp) : Managed :=
  match op,m.terminal.managedReadInFlight with
  | .append disk data,_ => { m with host := m.host.next lineLen (.append disk data) }
  | .replaceHost spool incarnationId streamEpoch ringLimit spoolLimit,_ =>
    if streamEpoch ∉ m.epochs ∧ spool.ofEpoch streamEpoch = [] then
      { m with
        host :=
          ⟨withLimits spool incarnationId m.host.journal.terminalId streamEpoch ringLimit spoolLimit,[]⟩
        past := m.past ++ m.host.appended
        epochs := m.epochs ++ [streamEpoch] }
    else m
  -- A refresh that finds the claim taken returns at once.
  | .refreshManagedOutput maxBytes,none => m.inFlight (some (.asking m.terminal.shared.headSeq maxBytes))
  | .answer answer,some (.asking afterSeq maxBytes) =>
    m.inFlight (some (.answered (controllerReadOutput m.host.journal answer m.terminal.shared.terminalId
      m.terminal.streamId m.terminal.resumeSessionId afterSeq maxBytes)))
  | .adopt,some (.answered (.error _)) => m.inFlight none
  | .adopt,some (.answered (.ok read)) => m.adopt read
  | .ingest _,some (.ingesting []) => m.inFlight none
  | .ingest scan,some (.ingesting (chunk :: rest)) => ingestManagedOutput (m.inFlight (some (.ingesting rest))) chunk scan
  | .cancel,some (.asking ..) => m.inFlight none
  | .cancel,some (.answered _) => m.inFlight none
  | _,_ => m

end Managed
end Freshell.Terminal
