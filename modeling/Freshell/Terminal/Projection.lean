import Freshell.Terminal.JsonSize
import Mathlib.Data.List.Chain

/-!
The wire projection loses nothing. The payloads of a list of frames carry it in
groups, in order: a batch carries adjacent frames of one stream, alone or all of
them transparent, and gives their texts back when it is cut at its offsets; a
frame whose own batch is too large goes out alone as a plain output.
-/
namespace Freshell.Terminal
open Freshell.Library.Spans

def framesToWirePayloads (jsonLen : JsonLen) (frames : List RetainedFrame) (terminalId attachRequestId : String)
    (source : OutputSource) (batchMaxBytes : Nat) : List ServerMessage :=
  buildBatchMessages jsonLen { maxSerializedBytes := batchMaxBytes, terminalId, attachRequestId, source } frames

/-- The frame follows the other without a gap, in the same stream. -/
def Adjacent (earlier later : RetainedFrame) : Prop :=
  later.output.seqStart = earlier.output.seqEnd + 1 ∧ later.output.streamId = earlier.output.streamId

/-- The pieces of a text between one offset and the next. -/
def cutAt (data : String) : Nat → List Nat → List String
  | _, [] => []
  | start, stop :: rest => sliceUtf16 data start stop :: cutAt data stop rest

def singlePayload (jsonLen : JsonLen) (input : BatchBuildInput) (f : RetainedFrame) : TerminalOutputBatch :=
  buildBatchPayload jsonLen input (buildSingleBatch f) 0 (segmentForFrame f 0) []

structure Together (streamId : String) (group : List RetainedFrame) : Prop where
  stream : ∀ f ∈ group, f.output.streamId = streamId
  adjacent : group.IsChain Adjacent
  alone : group.length ≤ 1 ∨ ∀ f ∈ group, isTransparentGround f = true

structure CarriesBatch (jsonLen : JsonLen) (input : BatchBuildInput) (batch : TerminalOutputBatch)
    (group : List RetainedFrame) : Prop where
  together : Together batch.streamId group
  seqStart : group.head?.map (fun f => f.output.seqStart) = some batch.seqStart
  seqEnd : group.getLast?.map (fun f => f.output.seqEnd) = some batch.seqEnd
  segments : batch.segments.map (fun seg => Span.mk seg.seqStart seg.seqEnd) = group.map RetainedFrame.span
  cuts : cutAt batch.data 0 (batch.segments.map OutputSegment.endOffset) = group.map fun f => f.output.data
  data : batch.data.toList = group.flatMap fun f => f.output.data.toList
  size : jsonLen.message (.terminalOutputBatch batch) ≤ input.maxSerializedBytes

structure CarriesAlone (jsonLen : JsonLen) (input : BatchBuildInput) (output : TerminalOutput) (f : RetainedFrame) :
    Prop where
  seqStart : output.seqStart = f.output.seqStart
  seqEnd : output.seqEnd = f.output.seqEnd
  streamId : output.streamId = f.output.streamId
  data : output.data = f.output.data
  tooLarge : input.maxSerializedBytes < jsonLen.message (.terminalOutputBatch (singlePayload jsonLen input f))

def Carries (jsonLen : JsonLen) (input : BatchBuildInput) : ServerMessage → List RetainedFrame → Prop
  | .terminalOutputBatch batch, group => CarriesBatch jsonLen input batch group
  | .terminalOutput output, [f] => CarriesAlone jsonLen input output f
  | _, _ => False

theorem Together.part {streamId : String} {group part : List RetainedFrame} (together : Together streamId group)
    (inside : part <:+: group) : Together streamId part where
  stream f mem := together.stream f (inside.subset mem)
  adjacent := together.adjacent.infix inside
  alone := together.alone.imp inside.length_le.trans fun all f mem => all f (inside.subset mem)

def unitsOf (text : List Char) : Nat := (text.map utf16Width).sum

def textOf (group : List RetainedFrame) : List Char := group.flatMap fun f => f.output.data.toList

@[simp] theorem unitsOf_append (first second : List Char) : unitsOf (first ++ second) = unitsOf first + unitsOf second := by
  simp [unitsOf]

theorem utf16Len_eq (s : String) : utf16Len s = unitsOf s.toList := rfl

theorem utf16Width_pos (c : Char) : 0 < utf16Width c := by
  unfold utf16Width
  split <;> decide

theorem unitsOf_eq_zero {text : List Char} (none : unitsOf text = 0) : text = [] := by
  cases text with
  | nil => rfl
  | cons c rest =>
    have := utf16Width_pos c
    simp only [unitsOf,List.map_cons,List.sum_cons] at none
    omega

theorem sliceChars_kept {kept after : List Char} {pos start stop : Nat} (low : start ≤ pos)
    (stops : pos + unitsOf kept = stop) : sliceChars start stop pos (kept ++ after) = kept := by
  induction kept generalizing pos with
  | nil =>
    cases after with
    | nil => rfl
    | cons c rest =>
      have wide := utf16Width_pos c
      simp only [unitsOf,List.map_nil,List.sum_nil,Nat.add_zero] at stops
      simp only [List.nil_append,sliceChars]
      rw [if_pos (by omega),if_neg (by omega)]
  | cons c rest ih =>
    simp only [unitsOf,List.map_cons,List.sum_cons] at stops
    simp only [List.cons_append,sliceChars]
    by_cases ends : stop ≤ pos + utf16Width c
    · have none : rest = [] := unitsOf_eq_zero (by simp only [unitsOf]; omega)
      rw [if_pos ends,if_pos (by omega),none]
    · have later : pos + utf16Width c + unitsOf rest = stop := by
        simp only [unitsOf]
        omega
      rw [if_neg ends,if_pos (by omega),ih (by omega) later]
      rfl

theorem sliceChars_spec {before kept after : List Char} {pos start stop : Nat} (starts : pos + unitsOf before = start)
    (stops : start + unitsOf kept = stop) : sliceChars start stop pos (before ++ (kept ++ after)) = kept := by
  induction before generalizing pos with
  | nil =>
    simp only [unitsOf,List.map_nil,List.sum_nil,Nat.add_zero] at starts
    exact sliceChars_kept (Nat.le_of_eq starts.symm) (starts ▸ stops)
  | cons c rest ih =>
    have wide := utf16Width_pos c
    simp only [unitsOf,List.map_cons,List.sum_cons] at starts
    simp only [List.cons_append,sliceChars]
    by_cases ends : stop ≤ pos + utf16Width c
    · have none : kept = [] := unitsOf_eq_zero (by omega)
      rw [if_pos ends,if_neg (by omega),none]
    · rw [if_neg ends,if_neg (by omega),List.nil_append]
      refine ih ?_
      simp only [unitsOf]
      omega

theorem sliceUtf16_spec {data : String} {before kept after : List Char} (parts : data.toList = before ++ (kept ++ after)) :
    sliceUtf16 data (unitsOf before) (unitsOf before + unitsOf kept) = String.ofList kept := by
  rw [sliceUtf16,Nat.max_eq_left (Nat.le_add_right _ _),parts,sliceChars_spec (Nat.zero_add _) rfl]

def segmentsFrom (offset : Nat) : List RetainedFrame → List BatchSegment
  | [] => []
  | f :: rest => segmentForFrame f offset :: segmentsFrom (offset + utf16Len f.output.data) rest

theorem segmentsFrom_append (offset : Nat) (first second : List RetainedFrame) :
    segmentsFrom offset (first ++ second) = segmentsFrom offset first ++ segmentsFrom (offset + unitsOf (textOf first)) second := by
  induction first generalizing offset with
  | nil => simp [segmentsFrom,textOf,unitsOf]
  | cons f rest ih =>
    simp only [List.cons_append,segmentsFrom,ih,textOf,List.flatMap_cons,unitsOf_append,utf16Len_eq,Nat.add_assoc]

@[simp] theorem length_segmentsFrom (offset : Nat) (group : List RetainedFrame) :
    (segmentsFrom offset group).length = group.length := by
  induction group generalizing offset with
  | nil => rfl
  | cons f rest ih => simp [segmentsFrom,ih]

theorem segmentsFrom_split {offset : Nat} {group : List RetainedFrame} {first second : List BatchSegment}
    (split : segmentsFrom offset group = first ++ second) :
    ∃ early late, group = early ++ late ∧ first = segmentsFrom offset early ∧
      second = segmentsFrom (offset + unitsOf (textOf early)) late := by
  induction first generalizing offset group with
  | nil => exact ⟨[],group,rfl,rfl,by simpa [textOf,unitsOf] using split.symm⟩
  | cons seg rest ih =>
    cases group with
    | nil => simp [segmentsFrom] at split
    | cons f others =>
      simp only [segmentsFrom,List.cons_append,List.cons.injEq] at split
      obtain ⟨early,late,rfl,rfl,rfl⟩ := ih split.2
      refine ⟨f :: early,late,rfl,?_,?_⟩
      · rw [segmentsFrom,split.1]
      · simp only [textOf,List.flatMap_cons,unitsOf_append,utf16Len_eq,Nat.add_assoc]

theorem segmentsFrom_last {offset : Nat} {group : List RetainedFrame} {first : BatchSegment} {rest : List BatchSegment}
    (segments : segmentsFrom offset group = first :: rest) :
    group.getLast?.map (fun f => f.output.seqEnd) = some ((first :: rest).getLast (List.cons_ne_nil _ _)).seqEnd ∧
      ((first :: rest).getLast (List.cons_ne_nil _ _)).endOffset = offset + unitsOf (textOf group) := by
  induction group using List.reverseRecOn with
  | nil => cases segments
  | append_singleton earlier f _ =>
    rw [segmentsFrom_append] at segments
    simp only [segmentsFrom] at segments
    simp only [← segments]
    simp [segmentForFrame,textOf,utf16Len_eq,Nat.add_assoc]

theorem wireSegments_cuts {data : String} {before : List Char} (group : List RetainedFrame) (base : Nat) {previous : Nat}
    {after : List Char} (here : unitsOf before = previous) (parts : data.toList = before ++ (textOf group ++ after)) :
    cutAt data previous ((wireSegments base previous (segmentsFrom (base + previous) group)).map OutputSegment.endOffset) =
        group.map (fun f => f.output.data) ∧
      (wireSegments base previous (segmentsFrom (base + previous) group)).map (fun seg => Span.mk seg.seqStart seg.seqEnd) =
        group.map RetainedFrame.span := by
  induction group generalizing before previous with
  | nil => exact ⟨rfl,rfl⟩
  | cons f rest ih =>
    have stop : max previous (base + previous + utf16Len f.output.data - base) = previous + utf16Len f.output.data := by
      omega
    have parts' : data.toList = (before ++ f.output.data.toList) ++ (textOf rest ++ after) := by
      rw [parts]
      simp [textOf]
    have there : unitsOf (before ++ f.output.data.toList) = previous + utf16Len f.output.data := by
      simp [here,utf16Len_eq]
    obtain ⟨cuts,spans⟩ := ih there parts'
    have piece : sliceUtf16 data previous (previous + utf16Len f.output.data) = f.output.data := by
      rw [← here,utf16Len_eq,sliceUtf16_spec (by simpa using parts'),String.ofList_toList]
    simp only [segmentsFrom,wireSegments,segmentForFrame,List.map_cons,cutAt,stop,piece]
    rw [Nat.add_assoc,cuts,spans]
    exact ⟨rfl,rfl⟩

end Freshell.Terminal
