import Freshell.Library.Spans

/-!
The messages that a terminal sends to its subscribers, as far as its output is
concerned, and the sequence numbers that each of them accounts for: an output
or a batch carries its numbers, a gap declares them missed.
-/
namespace Freshell.Terminal
open Freshell.Library.Spans
set_option linter.unusedSimpArgs false

inductive OutputSource where
  | live | replay
deriving DecidableEq, Repr

inductive ScannerMode where
  | ground | esc | csi | osc | dcs | apc
deriving DecidableEq, Repr

inductive BarrierReason where
  | control | osc52 | requestMode | turnComplete | startupProbe
deriving DecidableEq, Repr

structure TerminalOutput where
  terminalId : String
  streamId : String
  seqStart : Nat
  seqEnd : Nat
  data : String
  attachRequestId : Option String
  source : Option OutputSource
deriving DecidableEq, Repr

structure OutputSegment where
  seqStart : Nat
  seqEnd : Nat
  endOffset : Nat
  rawFrameCount : Nat
  barrier : Option BarrierReason
deriving DecidableEq, Repr

structure TerminalOutputBatch where
  terminalId : String
  streamId : String
  attachRequestId : String
  source : OutputSource
  seqStart : Nat
  seqEnd : Nat
  data : String
  serializedBytes : Nat
  segments : List OutputSegment
deriving DecidableEq, Repr

inductive TerminalOutputGapReason where
  | queueOverflow | replayWindowExceeded | replayBudgetExceeded | handoffBoundaryReached
deriving DecidableEq, Repr

structure TerminalOutputGap where
  terminalId : String
  streamId : String
  attachRequestId : Option String
  fromSeq : Nat
  toSeq : Nat
  reason : TerminalOutputGapReason
  headSeq : Option Nat
  oldestRetainedSeq : Option Nat
deriving DecidableEq, Repr

inductive TerminalReplayResetReason where
  | retentionLost
deriving DecidableEq, Repr

structure TerminalAttachReady where
  terminalId : String
  streamId : String
  attachRequestId : Option String
  headSeq : Nat
  replayFromSeq : Nat
  replayToSeq : Nat
  effectiveSinceSeq : Option Nat
  requestedSinceSeq : Option Int
  oldestRetainedSeq : Option Nat
  replayResetReason : Option TerminalReplayResetReason
deriving DecidableEq, Repr

structure TerminalModesSync where
  terminalId : String
  streamId : String
  attachRequestId : String
  data : String
deriving DecidableEq, Repr

structure TerminalExit where
  terminalId : String
  exitCode : Int
deriving DecidableEq, Repr

inductive ServerMessage where
  | terminalAttachReady (ready : TerminalAttachReady)
  | terminalModesSync (sync : TerminalModesSync)
  | terminalOutput (output : TerminalOutput)
  | terminalOutputBatch (batch : TerminalOutputBatch)
  | terminalOutputGap (gap : TerminalOutputGap)
  | terminalExit (exit : TerminalExit)
deriving DecidableEq, Repr

/-- The length in bytes that the JSON serializer gives a message, and a string
    with its quotes. -/
structure JsonLen where
  message : ServerMessage → Nat
  string : String → Nat

def TerminalOutput.span (output : TerminalOutput) : Span := ⟨output.seqStart,output.seqEnd⟩

/-- The numbers whose output the message carries. -/
def ServerMessage.outputSpan : ServerMessage → Option Span
  | .terminalOutput output => some output.span
  | .terminalOutputBatch batch => some ⟨batch.seqStart,batch.seqEnd⟩
  | _ => none

/-- The numbers that the message declares missed. -/
def ServerMessage.gapSpan : ServerMessage → Option Span
  | .terminalOutputGap gap => some ⟨gap.fromSeq,gap.toSeq⟩
  | _ => none

def ServerMessage.span (message : ServerMessage) : Option Span := message.outputSpan <|> message.gapSpan

def ServerMessage.isExit : ServerMessage → Bool
  | .terminalExit _ => true
  | _ => false

/-- The attach request that an `attach.ready` answers. -/
def ServerMessage.readyRequest : ServerMessage → Option String
  | .terminalAttachReady ready => ready.attachRequestId
  | _ => none

def outputSpans (messages : List ServerMessage) : List Span := messages.filterMap ServerMessage.outputSpan
def gapSpans (messages : List ServerMessage) : List Span := messages.filterMap ServerMessage.gapSpan

/-- The numbers that the messages account for, in the order they were sent. -/
def spans (messages : List ServerMessage) : List Span := messages.filterMap ServerMessage.span

@[simp] theorem spans_nil : spans [] = [] := rfl

@[simp] theorem spans_append (first second : List ServerMessage) : spans (first ++ second) = spans first ++ spans second :=
  List.filterMap_append

@[simp] theorem spans_output (output : TerminalOutput) (rest : List ServerMessage) :
    spans (.terminalOutput output :: rest) = output.span :: spans rest := rfl

@[simp] theorem spans_batch (batch : TerminalOutputBatch) (rest : List ServerMessage) :
    spans (.terminalOutputBatch batch :: rest) = ⟨batch.seqStart,batch.seqEnd⟩ :: spans rest := rfl

@[simp] theorem spans_ready (ready : TerminalAttachReady) (rest : List ServerMessage) :
    spans (.terminalAttachReady ready :: rest) = spans rest := rfl

@[simp] theorem spans_exit (exit : TerminalExit) (rest : List ServerMessage) :
    spans (.terminalExit exit :: rest) = spans rest := rfl

theorem countP_spans (messages : List ServerMessage) (n : Nat) :
    (spans messages).countP (·.holds n) =
      (outputSpans messages).countP (·.holds n) + (gapSpans messages).countP (·.holds n) := by
  induction messages with
  | nil => rfl
  | cons message rest ih =>
    unfold spans outputSpans gapSpans at ih ⊢
    cases message
    all_goals
      simp only [List.filterMap_cons,ServerMessage.span,ServerMessage.outputSpan,ServerMessage.gapSpan,Option.orElse,
        Option.orElse_eq_orElse,HOrElse.hOrElse,OrElse.orElse,List.countP_cons,ih]
      try omega

end Freshell.Terminal
