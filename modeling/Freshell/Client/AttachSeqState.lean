import Freshell.Library.SpanMerges

/-!
The sequence state that a client keeps of an attach: how far output was observed
and applied, the replay window that is still to come and the ranges that are known
to be lost. A range of numbers is a span, its `first` and `last` the `fromSeq` and
`toSeq` of the source.
-/
namespace Freshell.Client
open Freshell.Library.Spans

abbrev SeqRange := Span

structure AttachSeqState where
  lastSeq : Nat
  highestObservedSeq : Nat
  parserAppliedSeq : Nat
  awaitingFreshSequence : Bool
  pendingReplay : Option SeqRange
  knownLostRanges : List SeqRange
  surfaceSafeForDeltaReplay : Bool
  requiresSurfaceQuarantine : Bool
deriving DecidableEq, Repr

/-- What a state is built from. A field may be missing. -/
structure PartialSeqState where
  lastSeq : Option Int
  highestObservedSeq : Option Int
  parserAppliedSeq : Option Int
  awaitingFreshSequence : Bool
  pendingReplay : Option SeqRange
  knownLostRanges : Option (List SeqRange)
  surfaceSafeForDeltaReplay : Option Bool
  requiresSurfaceQuarantine : Option Bool

/-- A number of the wire as a sequence number; what is not a number counts as zero. -/
def normalizeSeq (seq : Option Int) : Nat := (seq.getD 0).toNat

def mergeLostRanges (ranges : List SeqRange) : List SeqRange := mergeSpans ranges

def normalizeLostRanges (ranges : List SeqRange) : List SeqRange :=
  mergeLostRanges ((ranges.map fun range => { range with last := max range.first range.last }).filter
    fun range => decide (0 < range.last))

def buildState (input : PartialSeqState) : AttachSeqState :=
  let knownLostRanges := normalizeLostRanges (input.knownLostRanges.getD [])
  let parserAppliedSeq := normalizeSeq input.parserAppliedSeq
  let highestObservedSeq := max (normalizeSeq (input.highestObservedSeq <|> input.lastSeq)) parserAppliedSeq
  let surfaceSafeForDeltaReplay := input.surfaceSafeForDeltaReplay.getD knownLostRanges.isEmpty
  let requiresSurfaceQuarantine := input.requiresSurfaceQuarantine.getD !surfaceSafeForDeltaReplay
  { lastSeq := highestObservedSeq, highestObservedSeq, parserAppliedSeq
    awaitingFreshSequence := input.awaitingFreshSequence, pendingReplay := input.pendingReplay
    knownLostRanges, surfaceSafeForDeltaReplay, requiresSurfaceQuarantine }

def AttachSeqState.toPartial (state : AttachSeqState) : PartialSeqState where
  lastSeq := some state.lastSeq
  highestObservedSeq := some state.highestObservedSeq
  parserAppliedSeq := some state.parserAppliedSeq
  awaitingFreshSequence := state.awaitingFreshSequence
  pendingReplay := state.pendingReplay
  knownLostRanges := some state.knownLostRanges
  surfaceSafeForDeltaReplay := some state.surfaceSafeForDeltaReplay
  requiresSurfaceQuarantine := some state.requiresSurfaceQuarantine

def createAttachSeqState (input : PartialSeqState) : AttachSeqState := buildState input

def beginAttach (state : AttachSeqState) : AttachSeqState :=
  { createAttachSeqState state.toPartial with awaitingFreshSequence := true }

structure AttachReady where
  headSeq : Int
  replayFromSeq : Int
  replayToSeq : Int

structure WireRange where
  fromSeq : Int
  toSeq : Int

structure WireFrame where
  seqStart : Int
  seqEnd : Int

/-- A range of the wire, which never ends before it starts. -/
def WireRange.normalized (range : WireRange) : SeqRange :=
  let fromSeq := normalizeSeq (some range.fromSeq)
  ⟨fromSeq,max fromSeq (normalizeSeq (some range.toSeq))⟩

def AttachReady.hasReplayWindow (ready : AttachReady) : Bool :=
  decide (0 < ready.replayFromSeq) && decide (ready.replayFromSeq ≤ ready.replayToSeq)

/-- Where the replay continues: before the window when a fresh attach stands past its start. -/
def replayBaseline (current : AttachSeqState) (ready : AttachReady) : Nat :=
  let shouldRewindCursorForReplay := ready.hasReplayWindow && current.awaitingFreshSequence &&
    decide (ready.replayFromSeq ≤ current.highestObservedSeq)
  if shouldRewindCursorForReplay then ready.replayFromSeq.toNat - 1 else current.highestObservedSeq

def onAttachReady (state : AttachSeqState) (ready : AttachReady) : AttachSeqState :=
  let current := createAttachSeqState state.toPartial
  let baseline := replayBaseline current ready
  let replayAlreadyCovered := ready.hasReplayWindow && decide (ready.replayToSeq ≤ baseline)
  if ready.hasReplayWindow && !replayAlreadyCovered then
    buildState { current.toPartial with
      lastSeq := some baseline
      highestObservedSeq := some baseline
      parserAppliedSeq := some (min current.parserAppliedSeq baseline : Nat)
      pendingReplay := some ⟨ready.replayFromSeq.toNat,ready.replayToSeq.toNat⟩ }
  else
    let head : Int := max (baseline : Int) ready.headSeq
    buildState { current.toPartial with
      lastSeq := some head, highestObservedSeq := some head, awaitingFreshSequence := false, pendingReplay := none }

structure OutputGapDecision where
  state : AttachSeqState
  surfaceSafeForDeltaReplay : Bool
  requiresSurfaceQuarantine : Bool

def toGapDecision (state : AttachSeqState) : OutputGapDecision :=
  ⟨state,state.surfaceSafeForDeltaReplay,state.requiresSurfaceQuarantine⟩

def onOutputGap (state : AttachSeqState) (gap : WireRange) : OutputGapDecision :=
  let current := createAttachSeqState state.toPartial
  let range := gap.normalized
  let hasLostRange := decide (0 < range.last)
  let nextHighestObservedSeq := max current.highestObservedSeq range.last
  let shouldClearReplay := current.pendingReplay.any fun pending => decide (pending.last ≤ range.last)
  let knownLostRanges :=
    if hasLostRange then mergeLostRanges (current.knownLostRanges ++ [range]) else current.knownLostRanges
  toGapDecision (buildState { current.toPartial with
    lastSeq := some nextHighestObservedSeq
    highestObservedSeq := some nextHighestObservedSeq
    awaitingFreshSequence := false
    pendingReplay := if shouldClearReplay then none else current.pendingReplay
    knownLostRanges := some knownLostRanges
    surfaceSafeForDeltaReplay := some (if hasLostRange then false else current.surfaceSafeForDeltaReplay)
    requiresSurfaceQuarantine := some (hasLostRange || current.requiresSurfaceQuarantine) })

inductive OutputFrameDecision where
  | accept (freshReset : Bool) (state : AttachSeqState) (implicitGap : Option SeqRange)
  | overlap

def shouldFreshReset (current : AttachSeqState) (seqStart : Nat) : Bool :=
  current.awaitingFreshSequence && decide (seqStart = 1) && decide (0 < current.highestObservedSeq)

def effectiveState (current : AttachSeqState) (seqStart : Nat) : AttachSeqState :=
  if shouldFreshReset current seqStart then
    buildState { current.toPartial with
      lastSeq := some 0, highestObservedSeq := some 0, parserAppliedSeq := some 0, pendingReplay := none
      knownLostRanges := some [], surfaceSafeForDeltaReplay := some true, requiresSurfaceQuarantine := some false }
  else current

/-- The frame is the first of the replay window that `attach.ready` declared. -/
def startsReplayWindow (state : AttachSeqState) (seqStart : Nat) : Bool :=
  state.pendingReplay.any fun pending => decide (pending.first = seqStart)

/-- The frame is the first one after a window of which none was consumed. -/
def resumesAfterCoveredReplayWindow (state : AttachSeqState) (seqStart : Nat) : Bool :=
  state.pendingReplay.any fun pending =>
    decide (seqStart = pending.last + 1) && decide (state.highestObservedSeq + 1 = pending.first)

def jumpedRange (state : AttachSeqState) (seqStart : Nat) : Option SeqRange :=
  if state.highestObservedSeq + 1 < seqStart then some ⟨state.highestObservedSeq + 1,seqStart - 1⟩ else none

def isExempt (state : AttachSeqState) (seqStart : Nat) : Bool :=
  startsReplayWindow state seqStart || resumesAfterCoveredReplayWindow state seqStart

def implicitGap (state : AttachSeqState) (seqStart : Nat) : Option SeqRange :=
  if isExempt state seqStart then none else jumpedRange state seqStart

def gapFoldedState (state : AttachSeqState) (seqStart : Nat) : AttachSeqState :=
  match implicitGap state seqStart with
  | some gap => (onOutputGap state ⟨gap.first,gap.last⟩).state
  | none => state

def onOutputFrame (state : AttachSeqState) (frame : WireFrame) : OutputFrameDecision :=
  let current := createAttachSeqState state.toPartial
  let seqStart := normalizeSeq (some frame.seqStart)
  let seqEnd := max seqStart (normalizeSeq (some frame.seqEnd))
  let effective := effectiveState current seqStart
  let folded := gapFoldedState effective seqStart
  let overlapsExisting := decide (seqStart ≤ folded.highestObservedSeq)
  let offersNewData := decide (folded.highestObservedSeq < seqEnd)
  let inPendingReplay := folded.pendingReplay.any fun pending =>
    decide (pending.first ≤ seqEnd) && decide (seqStart ≤ pending.last)
  let allowsReplayAdvance := inPendingReplay && offersNewData
  if overlapsExisting && !allowsReplayAdvance then .overlap
  else
    let nextHighestObservedSeq := max folded.highestObservedSeq seqEnd
    let pendingReplay :=
      if folded.pendingReplay.any fun pending => decide (pending.last ≤ seqEnd) then none else folded.pendingReplay
    .accept (shouldFreshReset current seqStart)
      (buildState { folded.toPartial with
        lastSeq := some nextHighestObservedSeq, highestObservedSeq := some nextHighestObservedSeq, pendingReplay
        awaitingFreshSequence := false })
      (implicitGap effective seqStart)

structure OutputBatchAcceptedSegment where
  seqStart : Nat
  seqEnd : Nat
  freshReset : Bool
  parserAppliedSeq : Nat
  previousState : AttachSeqState
  state : AttachSeqState
  implicitGap : Option SeqRange

inductive OutputBatchDecision where
  | accept (freshReset : Bool) (state : AttachSeqState) (segments : List OutputBatchAcceptedSegment)
      (implicitGaps : List SeqRange)
  | overlap (rejectedSegment : WireFrame) (state : AttachSeqState)

/-- The segments in order, from the state that those before them led to. -/
def batchLoop (initialState : AttachSeqState) (current : AttachSeqState) (freshReset : Bool)
    (accepted : List OutputBatchAcceptedSegment) (implicitGaps : List SeqRange) : List WireFrame → OutputBatchDecision
  | [] => .accept freshReset current accepted implicitGaps
  | segment :: rest =>
    match onOutputFrame current segment with
    | .overlap =>
      let seqStart := normalizeSeq (some segment.seqStart)
      .overlap ⟨seqStart,(max seqStart (normalizeSeq (some segment.seqEnd)) : Nat)⟩ initialState
    | .accept reset state gap =>
      let seqStart := normalizeSeq (some segment.seqStart)
      let segment : OutputBatchAcceptedSegment :=
        ⟨seqStart,max seqStart (normalizeSeq (some segment.seqEnd)),reset,state.highestObservedSeq,current,state,gap⟩
      batchLoop initialState state (freshReset || reset) (accepted ++ [segment]) (implicitGaps ++ gap.toList) rest

def onOutputBatchSegments (state : AttachSeqState) (segments : List WireFrame) : OutputBatchDecision :=
  let initialState := createAttachSeqState state.toPartial
  batchLoop initialState initialState false [] [] segments

/-- How far an acknowledgement reaches before a lost range stops it. -/
def clampAcknowledged (parserAppliedSeq : Nat) : Nat → List SeqRange → Nat
  | acknowledgedSeq, [] => acknowledgedSeq
  | acknowledgedSeq, range :: rest =>
    if range.last ≤ parserAppliedSeq ∨ acknowledgedSeq < range.first then
      clampAcknowledged parserAppliedSeq acknowledgedSeq rest
    else if range.first ≤ parserAppliedSeq then parserAppliedSeq
    else range.first - 1

def markParserAppliedSeq (state : AttachSeqState) (seq : Int) : AttachSeqState :=
  let current := createAttachSeqState state.toPartial
  let acknowledgedSeq := clampAcknowledged current.parserAppliedSeq
    (min (normalizeSeq (some seq)) current.highestObservedSeq) current.knownLostRanges
  if acknowledgedSeq ≤ current.parserAppliedSeq then current
  else buildState { current.toPartial with parserAppliedSeq := some acknowledgedSeq }

def markOutputRangeUnapplied (state : AttachSeqState) (range : WireRange) : AttachSeqState :=
  let current := createAttachSeqState state.toPartial
  let range := range.normalized
  if range.last = 0 then current
  else
    buildState { current.toPartial with
      knownLostRanges := some (mergeLostRanges (current.knownLostRanges ++ [range]))
      surfaceSafeForDeltaReplay := some false
      requiresSurfaceQuarantine := some true }

end Freshell.Client
