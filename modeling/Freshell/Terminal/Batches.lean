import Freshell.Terminal.Wire

/-!
Batches of output: adjacent transparent frames merge up to a size, and each
batch is projected to wire payloads, cut again where its own envelope is too
large. Sizes are those of the serialized messages; whatever they are, the
payloads account for the numbers of the frames, in their order.
-/
namespace Freshell.Terminal
open Freshell.Library.Spans
set_option linter.unusedSimpArgs false

/-- A frame of the replay ring: the unstamped output and how the barrier
    scanner classified it. -/
structure RetainedFrame where
  output : TerminalOutput
  barrier : Bool
  barrierReason : Option BarrierReason
  stateBefore : ScannerMode
  stateAfter : ScannerMode
deriving DecidableEq, Repr

def RetainedFrame.span (f : RetainedFrame) : Span := f.output.span

/-- A segment of a batch; the offsets count UTF-16 code units. -/
structure BatchSegment where
  seqStart : Nat
  seqEnd : Nat
  offset : Nat
  endOffset : Nat
  barrier : Bool
  barrierReason : Option BarrierReason
deriving DecidableEq, Repr

def BatchSegment.span (seg : BatchSegment) : Span := ⟨seg.seqStart,seg.seqEnd⟩

structure OutputBatch where
  seqStart : Nat
  seqEnd : Nat
  data : String
  streamId : String
  stateBefore : ScannerMode
  stateAfter : ScannerMode
  segments : List BatchSegment
deriving DecidableEq, Repr

structure BatchBuildInput where
  maxSerializedBytes : Nat
  terminalId : String
  attachRequestId : String
  source : OutputSource

def utf16Width (c : Char) : Nat := if c.toNat < 0x10000 then 1 else 2

def utf16Len (s : String) : Nat := (s.toList.map utf16Width).sum

def sliceChars (start stop : Nat) : Nat → List Char → List Char
  | _, [] => []
  | pos, c :: rest =>
    let next := pos + utf16Width c
    let kept := if start ≤ pos ∧ next ≤ stop then [c] else []
    if stop ≤ next then kept else kept ++ sliceChars start stop next rest

/-- The code units from `start` up to `stop`. -/
def sliceUtf16 (s : String) (start stop : Nat) : String :=
  String.ofList (sliceChars start (max stop start) 0 s.toList)

def measureLegacyOutputBytes (jsonLen : JsonLen) (terminalId streamId : String) (seqStart seqEnd : Nat) (data : String)
    (attachRequestId : Option String) (source : Option OutputSource) : Nat :=
  jsonLen.message (.terminalOutput { terminalId, streamId, seqStart, seqEnd, data, attachRequestId, source })

def isTransparentGround (f : RetainedFrame) : Bool :=
  !f.barrier && f.stateBefore == .ground && f.stateAfter == .ground

def segmentForFrame (f : RetainedFrame) (offset : Nat) : BatchSegment where
  seqStart := f.output.seqStart
  seqEnd := f.output.seqEnd
  offset := offset
  endOffset := offset + utf16Len f.output.data
  barrier := f.barrier
  barrierReason := if f.barrier then f.barrierReason else none

/-- The batch of one frame: the start of a merge, or a frame that is not merged. -/
def buildSingleBatch (f : RetainedFrame) : OutputBatch where
  seqStart := f.output.seqStart
  seqEnd := f.output.seqEnd
  data := f.output.data
  streamId := f.output.streamId
  stateBefore := f.stateBefore
  stateAfter := f.stateAfter
  segments := [segmentForFrame f 0]

/-- The attach request and the source are the input's for every frame. -/
def canMerge (current : OutputBatch) (next : RetainedFrame) : Bool :=
  isTransparentGround next && current.stateBefore == .ground && current.stateAfter == .ground &&
    next.output.seqStart == current.seqEnd + 1 && next.output.streamId == current.streamId

def measureMerged (jsonLen : JsonLen) (input : BatchBuildInput) (current : OutputBatch) (next : RetainedFrame) : Nat :=
  measureLegacyOutputBytes jsonLen input.terminalId current.streamId current.seqStart next.output.seqEnd
    (current.data ++ next.output.data) (some input.attachRequestId) (some input.source)

def appendMutable (current : OutputBatch) (next : RetainedFrame) : OutputBatch :=
  { current with
    seqEnd := next.output.seqEnd
    data := current.data ++ next.output.data
    stateAfter := next.stateAfter
    segments := current.segments ++ [segmentForFrame next (utf16Len current.data)] }

/-- One frame of the merge: the finished batches and the one under construction. -/
def mergeFrame (jsonLen : JsonLen) (input : BatchBuildInput) (state : List OutputBatch × Option OutputBatch)
    (f : RetainedFrame) : List OutputBatch × Option OutputBatch :=
  if !isTransparentGround f then (state.1 ++ state.2.toList ++ [buildSingleBatch f],none)
  else
    match state.2 with
    | none => (state.1,some (buildSingleBatch f))
    | some current =>
      if canMerge current f && decide (measureMerged jsonLen input current f ≤ input.maxSerializedBytes) then
        (state.1,some (appendMutable current f))
      else (state.1 ++ [current],some (buildSingleBatch f))

def buildTerminalOutputBatches (jsonLen : JsonLen) (input : BatchBuildInput) (frames : List RetainedFrame) :
    List OutputBatch :=
  if input.maxSerializedBytes = 0 then []
  else
    let state := frames.foldl (mergeFrame jsonLen input) ([],none)
    state.1 ++ state.2.toList

def wireSegments (baseOffset : Nat) : Nat → List BatchSegment → List OutputSegment
  | _, [] => []
  | previousEndOffset, seg :: rest =>
    let relative := max previousEndOffset (seg.endOffset - baseOffset)
    { seqStart := seg.seqStart, seqEnd := seg.seqEnd, endOffset := relative
      rawFrameCount := max (seg.seqEnd + 1 - seg.seqStart) 1
      barrier := if seg.barrier then seg.barrierReason else none } :: wireSegments baseOffset relative rest

/-- The four passes that let a payload carry its own size. -/
def fixSerializedBytes (jsonLen : JsonLen) (base : TerminalOutputBatch) : Nat → Nat → Nat
  | 0, serializedBytes => serializedBytes
  | passes + 1, serializedBytes =>
    let measured := jsonLen.message (.terminalOutputBatch { base with serializedBytes })
    if measured = serializedBytes then serializedBytes else fixSerializedBytes jsonLen base passes measured

/-- One payload over the segments `first :: rest`; `startOffset` is where the
    segment before them ended. -/
def buildBatchPayload (jsonLen : JsonLen) (input : BatchBuildInput) (batch : OutputBatch) (startOffset : Nat)
    (first : BatchSegment) (rest : List BatchSegment) : TerminalOutputBatch :=
  let last := (first :: rest).getLast (List.cons_ne_nil first rest)
  let base : TerminalOutputBatch :=
    { terminalId := input.terminalId, streamId := batch.streamId, attachRequestId := input.attachRequestId
      source := input.source, seqStart := first.seqStart, seqEnd := last.seqEnd
      data := sliceUtf16 batch.data startOffset last.endOffset, serializedBytes := 0
      segments := wireSegments startOffset 0 (first :: rest) }
  { base with serializedBytes := fixSerializedBytes jsonLen base 4 0 }

def singleSegmentFallback (input : BatchBuildInput) (batch : OutputBatch) (startOffset : Nat) (seg : BatchSegment) :
    TerminalOutput where
  terminalId := input.terminalId
  streamId := batch.streamId
  seqStart := seg.seqStart
  seqEnd := seg.seqEnd
  data := sliceUtf16 batch.data startOffset (max startOffset seg.endOffset)
  attachRequestId := some input.attachRequestId
  source := some input.source

/-- The longest run of segments after `first :: taken` whose payload still
    fits, as the segments taken and those left. -/
def bestWindow (jsonLen : JsonLen) (input : BatchBuildInput) (batch : OutputBatch) (startOffset : Nat)
    (first : BatchSegment) : List BatchSegment → List BatchSegment → List BatchSegment × List BatchSegment
  | taken, [] => (taken,[])
  | taken, seg :: rest =>
    if input.maxSerializedBytes <
        (buildBatchPayload jsonLen input batch startOffset first (taken ++ [seg])).serializedBytes then
      (taken,seg :: rest)
    else bestWindow jsonLen input batch startOffset first (taken ++ [seg]) rest

/-- Greedy payloads over the segments left; each round takes at least one, so
    the fuel is their number. -/
def repack (jsonLen : JsonLen) (input : BatchBuildInput) (batch : OutputBatch) :
    Nat → Nat → List BatchSegment → List ServerMessage
  | 0, _, _ => []
  | _ + 1, _, [] => []
  | fuel + 1, startOffset, first :: rest =>
    if input.maxSerializedBytes < (buildBatchPayload jsonLen input batch startOffset first []).serializedBytes then
      .terminalOutput (singleSegmentFallback input batch startOffset first) ::
        repack jsonLen input batch fuel first.endOffset rest
    else
      let window := bestWindow jsonLen input batch startOffset first [] rest
      .terminalOutputBatch (buildBatchPayload jsonLen input batch startOffset first window.1) ::
        repack jsonLen input batch fuel ((first :: window.1).getLast (List.cons_ne_nil _ _)).endOffset window.2

def buildBatchWirePayloads (jsonLen : JsonLen) (input : BatchBuildInput) (batch : OutputBatch) : List ServerMessage :=
  match batch.segments with
  | [] => []
  | first :: rest =>
    let full := buildBatchPayload jsonLen input batch 0 first rest
    if full.serializedBytes ≤ input.maxSerializedBytes then [.terminalOutputBatch full]
    else if rest = [] then [.terminalOutput (singleSegmentFallback input batch 0 first)]
    else repack jsonLen input batch batch.segments.length 0 batch.segments

def buildBatchMessages (jsonLen : JsonLen) (input : BatchBuildInput) (frames : List RetainedFrame) :
    List ServerMessage :=
  (buildTerminalOutputBatches jsonLen input frames).flatMap (buildBatchWirePayloads jsonLen input)

theorem segmentForFrame_span (f : RetainedFrame) (offset : Nat) : (segmentForFrame f offset).span = f.span := rfl

/-- The segments that the batches hold, in order. -/
def segmentSpans (batches : List OutputBatch) : List Span := batches.flatMap fun batch => batch.segments.map BatchSegment.span

variable (jsonLen : JsonLen) (input : BatchBuildInput)

theorem mergeFrame_spans (state : List OutputBatch × Option OutputBatch) (f : RetainedFrame) :
    segmentSpans ((mergeFrame jsonLen input state f).1 ++ (mergeFrame jsonLen input state f).2.toList) =
      segmentSpans (state.1 ++ state.2.toList) ++ [f.span] := by
  obtain ⟨finished,current⟩ := state
  unfold mergeFrame segmentSpans
  split
  · simp [buildSingleBatch,segmentForFrame_span]
  · cases current with
    | none => simp [buildSingleBatch,segmentForFrame_span]
    | some current =>
      simp only
      split
      · simp [appendMutable,segmentForFrame_span]
      · simp [buildSingleBatch,segmentForFrame_span]

variable (frames : List RetainedFrame)

theorem foldl_mergeFrame_spans (state : List OutputBatch × Option OutputBatch) :
    segmentSpans ((frames.foldl (mergeFrame jsonLen input) state).1 ++
        (frames.foldl (mergeFrame jsonLen input) state).2.toList) =
      segmentSpans (state.1 ++ state.2.toList) ++ frames.map RetainedFrame.span := by
  induction frames generalizing state with
  | nil => simp
  | cons f rest ih =>
    rw [List.foldl_cons,ih,mergeFrame_spans,List.append_assoc,List.map_cons,List.singleton_append]

theorem buildTerminalOutputBatches_spans {input : BatchBuildInput} (room : input.maxSerializedBytes ≠ 0) :
    segmentSpans (buildTerminalOutputBatches jsonLen input frames) = frames.map RetainedFrame.span := by
  unfold buildTerminalOutputBatches
  rw [if_neg room]
  have merged := foldl_mergeFrame_spans jsonLen input frames ([],none)
  simpa [segmentSpans] using merged

variable (batch : OutputBatch) (startOffset : Nat)

theorem bestWindow_split (first : BatchSegment) (taken rest : List BatchSegment) :
    (bestWindow jsonLen input batch startOffset first taken rest).1 ++
        (bestWindow jsonLen input batch startOffset first taken rest).2 = taken ++ rest ∧
      (bestWindow jsonLen input batch startOffset first taken rest).2.length ≤ rest.length := by
  induction rest generalizing taken with
  | nil => simp [bestWindow]
  | cons seg rest ih =>
    unfold bestWindow
    split
    · exact ⟨rfl,Nat.le_refl _⟩
    · obtain ⟨split,shorter⟩ := ih (taken ++ [seg])
      refine ⟨by rw [split]; simp,?_⟩
      rw [List.length_cons]
      omega

variable {base top : Nat}

theorem tiles_payload {first : BatchSegment} {rest : List BatchSegment}
    (tiles : Tiles base ((first :: rest).map BatchSegment.span) top) :
    Tiles base (spans [.terminalOutputBatch (buildBatchPayload jsonLen input batch startOffset first rest)]) top := by
  have ends : ((first :: rest).map BatchSegment.span).getLast? =
      some ((first :: rest).getLast (List.cons_ne_nil first rest)).span := by
    rw [List.getLast?_map,List.getLast?_eq_some_getLast (List.cons_ne_nil first rest)]
    rfl
  exact tiles_merge tiles rfl ends

theorem tiles_repack {fuel startOffset : Nat} {segments : List BatchSegment} (enough : segments.length ≤ fuel)
    (tiles : Tiles base (segments.map BatchSegment.span) top) :
    Tiles base (spans (repack jsonLen input batch fuel startOffset segments)) top := by
  induction fuel generalizing startOffset base segments with
  | zero =>
    obtain rfl : segments = [] := List.length_eq_zero_iff.mp (by omega)
    exact tiles
  | succ fuel ih =>
    cases segments with
    | nil => exact tiles
    | cons first rest =>
      unfold repack
      rw [List.length_cons] at enough
      split
      · obtain ⟨starts,proper,tail⟩ := tiles
        exact ⟨starts,proper,ih (by omega) tail⟩
      · obtain ⟨whole,shorter⟩ := bestWindow_split jsonLen input batch startOffset first [] rest
        rw [List.nil_append] at whole
        have cut : Tiles base ((first :: (bestWindow jsonLen input batch startOffset first [] rest).1).map
            BatchSegment.span ++ (bestWindow jsonLen input batch startOffset first [] rest).2.map BatchSegment.span) top := by
          rw [← List.map_append,List.cons_append,whole]
          exact tiles
        obtain ⟨middle,window,tail⟩ := tiles_append.mp cut
        exact tiles_concat (tiles_payload jsonLen input batch startOffset window) (ih (by omega) tail)

theorem tiles_wirePayloads (tiles : Tiles base (batch.segments.map BatchSegment.span) top) :
    Tiles base (spans (buildBatchWirePayloads jsonLen input batch)) top := by
  unfold buildBatchWirePayloads
  cases segments : batch.segments with
  | nil =>
    rw [segments] at tiles
    exact tiles
  | cons first rest =>
    rw [segments] at tiles
    simp only
    split
    · exact tiles_payload jsonLen input batch 0 tiles
    · split
      · rename_i single
        subst single
        exact tiles
      · exact tiles_repack jsonLen input batch (Nat.le_refl _) tiles

theorem tiles_batches {batches : List OutputBatch} (tiles : Tiles base (segmentSpans batches) top) :
    Tiles base (spans (batches.flatMap (buildBatchWirePayloads jsonLen input))) top := by
  induction batches generalizing base with
  | nil => exact tiles
  | cons batch rest ih =>
    obtain ⟨middle,first,tail⟩ := tiles_append.mp tiles
    rw [List.flatMap_cons,spans_append]
    exact tiles_concat (tiles_wirePayloads jsonLen input batch first) (ih tail)

/-- Whatever the sizes, the batch messages of adjacent frames account for
    exactly the frames' numbers, in order. -/
theorem tiles_batchMessages {input : BatchBuildInput} {frames : List RetainedFrame}
    (room : input.maxSerializedBytes ≠ 0) (tiles : Tiles base (frames.map RetainedFrame.span) top) :
    Tiles base (spans (buildBatchMessages jsonLen input frames)) top := by
  apply tiles_batches
  rw [buildTerminalOutputBatches_spans jsonLen frames room]
  exact tiles

theorem repack_output (fuel startOffset : Nat) (segments : List BatchSegment) :
    ∀ message ∈ repack jsonLen input batch fuel startOffset segments, message.outputSpan.isSome := by
  induction fuel generalizing startOffset segments with
  | zero => simp [repack]
  | succ fuel ih =>
    cases segments with
    | nil => simp [repack]
    | cons first rest =>
      unfold repack
      intro message member
      split at member
      · obtain rfl | member := List.mem_cons.mp member
        · rfl
        · exact ih _ _ message member
      · obtain rfl | member := List.mem_cons.mp member
        · rfl
        · exact ih _ _ message member

theorem batchMessages_output : ∀ message ∈ buildBatchMessages jsonLen input frames, message.outputSpan.isSome := by
  intro message member
  obtain ⟨batch,-,member⟩ := List.mem_flatMap.mp member
  unfold buildBatchWirePayloads at member
  split at member
  · cases member
  · simp only at member
    split at member
    · obtain rfl := List.mem_singleton.mp member
      rfl
    · split at member
      · obtain rfl := List.mem_singleton.mp member
        rfl
      · exact repack_output jsonLen input batch _ _ _ message member

end Freshell.Terminal
