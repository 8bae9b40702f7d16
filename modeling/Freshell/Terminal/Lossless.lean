import Freshell.Terminal.Projection

/-!
Every frame reaches the wire once and whole: the merge puts the frames into
batches in order, and the cuts of a batch that is too large fall between frames.
-/
namespace Freshell.Terminal
open Freshell.Library.Spans

variable {jsonLen : JsonLen} {input : BatchBuildInput} {batch : OutputBatch} {startOffset : Nat}
  {group : List RetainedFrame} {first : BatchSegment} {before after : List Char}

theorem carries_payload {rest : List BatchSegment} (counts : jsonLen.CountsDigits)
    (segments : segmentsFrom startOffset group = first :: rest)
    (parts : batch.data.toList = before ++ (textOf group ++ after)) (here : unitsOf before = startOffset)
    (together : Together batch.streamId group)
    (fits : (buildBatchPayload jsonLen input batch startOffset first rest).serializedBytes ≤ input.maxSerializedBytes) :
    CarriesBatch jsonLen input (buildBatchPayload jsonLen input batch startOffset first rest) group := by
  obtain ⟨ends,stop⟩ := segmentsFrom_last segments
  have data : sliceUtf16 batch.data startOffset ((first :: rest).getLast (List.cons_ne_nil _ _)).endOffset =
      String.ofList (textOf group) := by
    rw [stop,← here,sliceUtf16_spec parts]
  have whole : (String.ofList (textOf group)).toList = [] ++ (textOf group ++ []) := by simp
  have empty : unitsOf [] = 0 := rfl
  obtain ⟨cuts,spans⟩ := wireSegments_cuts group startOffset empty whole
  rw [Nat.add_zero,segments] at cuts spans
  constructor
  case together => exact together
  case seqStart =>
    cases group with
    | nil => cases segments
    | cons f others =>
      simp only [segmentsFrom,List.cons.injEq] at segments
      simp [buildBatchPayload,← segments.1,segmentForFrame]
  case seqEnd => exact ends
  case segments => exact spans
  case cuts =>
    show cutAt (sliceUtf16 _ _ _) 0 _ = _
    rw [data]
    exact cuts
  case data =>
    show (sliceUtf16 _ _ _).toList = _
    rw [data,String.toList_ofList]
    rfl
  case size =>
    refine Nat.le_trans (Nat.le_of_eq ?_) fits
    exact serializedBytes_exact counts _

variable {f : RetainedFrame}

theorem payload_single (jsonLen : JsonLen) (input : BatchBuildInput)
    (parts : batch.data.toList = before ++ (f.output.data.toList ++ after)) (here : unitsOf before = startOffset)
    (stream : f.output.streamId = batch.streamId) :
    buildBatchPayload jsonLen input batch startOffset (segmentForFrame f startOffset) [] =
      singlePayload jsonLen input f := by
  have data : sliceUtf16 batch.data startOffset (startOffset + utf16Len f.output.data) = f.output.data := by
    rw [← here,utf16Len_eq,sliceUtf16_spec parts,String.ofList_toList]
  have alone : sliceUtf16 f.output.data 0 (0 + utf16Len f.output.data) = f.output.data := by
    rw [utf16Len_eq]
    have whole : f.output.data.toList = [] ++ (f.output.data.toList ++ []) := by simp
    exact (sliceUtf16_spec whole).trans String.ofList_toList
  have offset : max 0 (startOffset + utf16Len f.output.data - startOffset) = max 0 (0 + utf16Len f.output.data - 0) := by
    omega
  simp only [singlePayload,buildBatchPayload,buildSingleBatch,segmentForFrame,wireSegments,List.getLast_singleton]
  rw [data,alone,stream,offset]
  rfl

theorem carries_alone (counts : jsonLen.CountsDigits)
    (parts : batch.data.toList = before ++ (f.output.data.toList ++ after)) (here : unitsOf before = startOffset)
    (stream : f.output.streamId = batch.streamId) (tooLarge : input.maxSerializedBytes <
      (buildBatchPayload jsonLen input batch startOffset (segmentForFrame f startOffset) []).serializedBytes) :
    CarriesAlone jsonLen input (singleSegmentFallback input batch startOffset (segmentForFrame f startOffset)) f := by
  rw [payload_single jsonLen input parts here stream] at tooLarge
  constructor
  case seqStart => rfl
  case seqEnd => rfl
  case streamId => exact stream.symm
  case data =>
    simp only [singleSegmentFallback,segmentForFrame]
    rw [Nat.max_eq_right (Nat.le_add_right _ _),← here,utf16Len_eq,sliceUtf16_spec parts,String.ofList_toList]
  case tooLarge =>
    refine Nat.lt_of_lt_of_eq tooLarge ?_
    exact (serializedBytes_exact counts _).symm

/-- How a payload is made: of the segments of adjacent frames, within the budget,
    or of one segment whose own payload is too large. -/
inductive Sent (jsonLen : JsonLen) (input : BatchBuildInput) : ServerMessage → List RetainedFrame → Prop
  | payload {batch : OutputBatch} {startOffset : Nat} {group : List RetainedFrame} {first : BatchSegment}
      {rest : List BatchSegment} {before after : List Char} (segments : segmentsFrom startOffset group = first :: rest)
      (parts : batch.data.toList = before ++ (textOf group ++ after)) (here : unitsOf before = startOffset)
      (together : Together batch.streamId group)
      (fits : (buildBatchPayload jsonLen input batch startOffset first rest).serializedBytes ≤ input.maxSerializedBytes) :
      Sent jsonLen input (.terminalOutputBatch (buildBatchPayload jsonLen input batch startOffset first rest)) group
  | alone {batch : OutputBatch} {startOffset : Nat} {f : RetainedFrame} {before after : List Char}
      (parts : batch.data.toList = before ++ (f.output.data.toList ++ after)) (here : unitsOf before = startOffset)
      (stream : f.output.streamId = batch.streamId)
      (tooLarge : input.maxSerializedBytes <
        (buildBatchPayload jsonLen input batch startOffset (segmentForFrame f startOffset) []).serializedBytes) :
      Sent jsonLen input (.terminalOutput (singleSegmentFallback input batch startOffset (segmentForFrame f startOffset)))
        [f]

variable {message : ServerMessage}

theorem Sent.carries (counts : jsonLen.CountsDigits) (sent : Sent jsonLen input message group) :
    Carries jsonLen input message group := by
  cases sent with
  | payload segments parts here together fits => exact carries_payload counts segments parts here together fits
  | alone parts here stream tooLarge => exact carries_alone counts parts here stream tooLarge

theorem bestWindow_fits {taken : List BatchSegment} (rest : List BatchSegment)
    (fits : (buildBatchPayload jsonLen input batch startOffset first taken).serializedBytes ≤ input.maxSerializedBytes) :
    (buildBatchPayload jsonLen input batch startOffset first
      (bestWindow jsonLen input batch startOffset first taken rest).1).serializedBytes ≤ input.maxSerializedBytes := by
  induction rest generalizing taken with
  | nil => exact fits
  | cons seg rest ih =>
    unfold bestWindow
    split
    · exact fits
    · exact ih (by omega)

theorem repack_room {fuel : Nat} {rest taken left : List BatchSegment}
    (room : ¬input.maxSerializedBytes < (buildBatchPayload jsonLen input batch startOffset first []).serializedBytes)
    (window : bestWindow jsonLen input batch startOffset first [] rest = (taken,left)) :
    repack jsonLen input batch (fuel + 1) startOffset (first :: rest) =
      .terminalOutputBatch (buildBatchPayload jsonLen input batch startOffset first taken) ::
        repack jsonLen input batch fuel ((first :: taken).getLast (List.cons_ne_nil _ _)).endOffset left := by
  simp only [repack,if_neg room,window]

theorem sent_repack {fuel : Nat} (enough : group.length ≤ fuel) (parts : batch.data.toList = before ++ textOf group)
    (here : unitsOf before = startOffset) (together : Together batch.streamId group) :
    ∃ groups, groups.flatten = group ∧
      List.Forall₂ (Sent jsonLen input) (repack jsonLen input batch fuel startOffset (segmentsFrom startOffset group))
        groups := by
  induction fuel generalizing startOffset group before with
  | zero =>
    obtain rfl : group = [] := List.length_eq_zero_iff.mp (by omega)
    exact ⟨[],rfl,.nil⟩
  | succ fuel ih =>
    cases group with
    | nil => exact ⟨[],rfl,.nil⟩
    | cons f others =>
      rw [List.length_cons] at enough
      by_cases tooLarge : input.maxSerializedBytes <
          (buildBatchPayload jsonLen input batch startOffset (segmentForFrame f startOffset) []).serializedBytes
      · have parts' : batch.data.toList = before ++ (f.output.data.toList ++ textOf others) := by
          simpa [textOf] using parts
        have next : batch.data.toList = (before ++ f.output.data.toList) ++ textOf others := by simp [parts']
        have there : unitsOf (before ++ f.output.data.toList) = startOffset + utf16Len f.output.data := by
          simp [here,utf16Len_eq]
        have alone := Sent.alone parts' here (together.stream f List.mem_cons_self) tooLarge
        obtain ⟨groups,rfl,others⟩ := ih (by omega) next there (together.part (List.suffix_cons f _).isInfix)
        refine ⟨[f] :: groups,rfl,?_⟩
        simp only [segmentsFrom,repack,if_pos tooLarge]
        exact .cons alone others
      · generalize window : bestWindow jsonLen input batch startOffset (segmentForFrame f startOffset) []
          (segmentsFrom (startOffset + utf16Len f.output.data) others) = result
        obtain ⟨taken,left⟩ := result
        have fits := bestWindow_fits (segmentsFrom (startOffset + utf16Len f.output.data) others)
          (Nat.le_of_not_lt tooLarge)
        obtain ⟨whole,-⟩ := bestWindow_split jsonLen input batch startOffset (segmentForFrame f startOffset) []
          (segmentsFrom (startOffset + utf16Len f.output.data) others)
        rw [window] at fits whole
        obtain ⟨early,late,rfl,rfl,rfl⟩ := segmentsFrom_split whole.symm
        have segments : segmentsFrom startOffset (f :: early) = segmentForFrame f startOffset ::
            segmentsFrom (startOffset + utf16Len f.output.data) early := rfl
        have parts' : batch.data.toList = before ++ (textOf (f :: early) ++ textOf late) := by
          simpa [textOf] using parts
        have next : batch.data.toList = (before ++ textOf (f :: early)) ++ textOf late := by simp [parts']
        have there : unitsOf (before ++ textOf (f :: early)) =
            startOffset + utf16Len f.output.data + unitsOf (textOf early) := by
          simp [here,textOf,utf16Len_eq,Nat.add_assoc]
        have sent := Sent.payload segments parts' here
          (together.part ((List.prefix_append (f :: early) late).isInfix)) fits
        obtain ⟨-,stop⟩ := segmentsFrom_last segments
        obtain ⟨groups,flat,others⟩ := ih (by simp at enough; omega) next there
          (together.part (List.suffix_append (f :: early) late).isInfix)
        refine ⟨(f :: early) :: groups,by simp [flat],?_⟩
        rw [segmentsFrom,repack_room tooLarge window,stop]
        refine .cons sent ?_
        simpa [textOf,utf16Len_eq,Nat.add_assoc] using others

theorem sent_wirePayloads (segments : batch.segments = segmentsFrom 0 group) (data : batch.data.toList = textOf group)
    (together : Together batch.streamId group) : ∃ groups, groups.flatten = group ∧
      List.Forall₂ (Sent jsonLen input) (buildBatchWirePayloads jsonLen input batch) groups := by
  have parts : batch.data.toList = [] ++ (textOf group ++ []) := by simp [data]
  cases group with
  | nil =>
    refine ⟨[],rfl,?_⟩
    rw [buildBatchWirePayloads,segments]
    exact .nil
  | cons f others =>
    have named : segmentsFrom 0 (f :: others) = segmentForFrame f 0 :: segmentsFrom (0 + utf16Len f.output.data) others := rfl
    simp only [buildBatchWirePayloads,segments,named]
    split
    next fits =>
      refine ⟨[f :: others],by simp,.cons ?_ .nil⟩
      exact Sent.payload named parts rfl together fits
    next tooLarge =>
      split
      next none =>
        have single : others = [] := by
          cases others with
          | nil => rfl
          | cons => cases none
        subst single
        refine ⟨[[f]],rfl,.cons ?_ .nil⟩
        have whole : batch.data.toList = [] ++ (f.output.data.toList ++ []) := by simpa [textOf] using parts
        refine Sent.alone whole rfl (together.stream f List.mem_cons_self) ?_
        simpa [segmentsFrom] using tooLarge
      next =>
        rw [← named]
        have whole : batch.data.toList = [] ++ textOf (f :: others) := data
        exact sent_repack (Nat.le_of_eq (length_segmentsFrom _ _).symm) whole rfl together

structure Assembled (batch : OutputBatch) (group : List RetainedFrame) : Prop where
  together : Together batch.streamId group
  seqEnd : ∀ f ∈ group.getLast?, f.output.seqEnd = batch.seqEnd
  data : batch.data.toList = textOf group
  segments : batch.segments = segmentsFrom 0 group

theorem assembled_single (f : RetainedFrame) : Assembled (buildSingleBatch f) [f] where
  together := ⟨by simp [buildSingleBatch],List.isChain_singleton f,.inl (Nat.le_refl 1)⟩
  seqEnd := by simp [buildSingleBatch]
  data := by simp [buildSingleBatch,textOf]
  segments := rfl

/-- The finished batches hold the frames seen, but for those that the batch under
    construction holds, and these are all transparent. -/
structure Merged (state : List OutputBatch × Option OutputBatch) (groups : List (List RetainedFrame))
    (building : List RetainedFrame) : Prop where
  finished : List.Forall₂ Assembled state.1 groups
  none : state.2 = none → building = []
  some : ∀ current, state.2 = some current →
    Assembled current building ∧ ∀ f ∈ building, isTransparentGround f = true

variable {state : List OutputBatch × Option OutputBatch} {groups : List (List RetainedFrame)}
  {building : List RetainedFrame}

theorem merged_flush (merged : Merged state groups building) : ∃ groups', groups'.flatten = groups.flatten ++ building ∧
      List.Forall₂ Assembled (state.1 ++ state.2.toList) groups' := by
  obtain ⟨finished,current⟩ := state
  cases current with
  | none =>
    refine ⟨groups,by simp [merged.none rfl],?_⟩
    simpa using merged.finished
  | some current =>
    refine ⟨groups ++ [building],by simp,?_⟩
    exact List.rel_append merged.finished (.cons (merged.some current rfl).1 .nil)

theorem assembled_append {current : OutputBatch} (assembled : Assembled current building)
    (transparent : ∀ f ∈ building, isTransparentGround f = true) (merges : canMerge current f = true) :
    Assembled (appendMutable current f) (building ++ [f]) := by
  simp only [canMerge,Bool.and_eq_true,beq_iff_eq] at merges
  obtain ⟨⟨⟨⟨clear,-⟩,-⟩,follows⟩,stream⟩ := merges
  obtain ⟨together,seqEnd,data,segments⟩ := assembled
  refine ⟨⟨?_,?_,?_⟩,?_,?_,?_⟩
  · intro g mem
    rcases List.mem_append.mp mem with mem | mem
    · exact together.stream g mem
    · rw [List.mem_singleton.mp mem]
      exact stream
  · refine together.adjacent.append (List.isChain_singleton f) fun last isLast g isNext => ?_
    obtain rfl : f = g := by simpa using isNext
    rw [Adjacent,follows,stream,together.stream last (List.mem_of_getLast? isLast),seqEnd last isLast]
    exact ⟨rfl,rfl⟩
  · refine .inr fun g mem => ?_
    rcases List.mem_append.mp mem with mem | mem
    · exact transparent g mem
    · rw [List.mem_singleton.mp mem]
      exact clear
  · simp [appendMutable]
  · simp [appendMutable,data,textOf]
  · simp [appendMutable,segments,segmentsFrom_append,segmentsFrom,utf16Len_eq,data]

theorem merged_step (jsonLen : JsonLen) (input : BatchBuildInput) (merged : Merged state groups building)
    (f : RetainedFrame) : ∃ groups' building', groups'.flatten ++ building' = groups.flatten ++ building ++ [f] ∧
      Merged (mergeFrame jsonLen input state f) groups' building' := by
  obtain ⟨groups',flat,flushed⟩ := merged_flush merged
  unfold mergeFrame
  by_cases clear : isTransparentGround f = true
  · simp only [clear,Bool.not_true,Bool.false_eq_true,if_false]
    have alone : ∀ current, some (buildSingleBatch f) = some current →
        Assembled current [f] ∧ ∀ g ∈ [f], isTransparentGround g = true := by
      rintro current ⟨⟩
      exact ⟨assembled_single f,by simpa using clear⟩
    obtain ⟨finished,current⟩ := state
    cases current with
    | none =>
      refine ⟨groups,[f],by simp [merged.none rfl],merged.finished,nofun,alone⟩
    | some current =>
      obtain ⟨assembled,transparent⟩ := merged.some current rfl
      simp only
      split
      next merges =>
        simp only [Bool.and_eq_true] at merges
        refine ⟨groups,building ++ [f],by simp,merged.finished,nofun,?_⟩
        rintro after ⟨⟩
        refine ⟨assembled_append assembled transparent merges.1,fun g mem => ?_⟩
        rcases List.mem_append.mp mem with mem | mem
        · exact transparent g mem
        · rw [List.mem_singleton.mp mem]
          exact clear
      next => exact ⟨groups',[f],by rw [flat],flushed,nofun,alone⟩
  · simp only [clear,Bool.not_false,if_true]
    refine ⟨groups' ++ [[f]],[],by simp [flat],?_,fun _ => rfl,nofun⟩
    exact List.rel_append flushed (.cons (assembled_single f) .nil)

theorem merged_run (jsonLen : JsonLen) (input : BatchBuildInput) (frames : List RetainedFrame)
    (merged : Merged state groups building) :
    ∃ groups' building', groups'.flatten ++ building' = groups.flatten ++ building ++ frames ∧
      Merged (frames.foldl (mergeFrame jsonLen input) state) groups' building' := by
  induction frames generalizing state groups building with
  | nil => exact ⟨groups,building,by simp,merged⟩
  | cons f rest ih =>
    obtain ⟨groups',building',flat,stepped⟩ := merged_step jsonLen input merged f
    obtain ⟨groups'',building'',flat',reached⟩ := ih stepped
    exact ⟨groups'',building'',by simp [flat',flat],reached⟩

theorem assembled_batches (jsonLen : JsonLen) (frames : List RetainedFrame) (room : 0 < input.maxSerializedBytes) :
    ∃ groups, groups.flatten = frames ∧
      List.Forall₂ Assembled (buildTerminalOutputBatches jsonLen input frames) groups := by
  have start : Merged ([],none) [] [] := ⟨.nil,fun _ => rfl,nofun⟩
  obtain ⟨groups,building,flat,merged⟩ := merged_run jsonLen input frames start
  obtain ⟨groups',flat',flushed⟩ := merged_flush merged
  refine ⟨groups',by simpa [flat] using flat',?_⟩
  rw [buildTerminalOutputBatches,if_neg (Nat.ne_of_gt room)]
  exact flushed

theorem sent_batches {batches : List OutputBatch} (assembled : List.Forall₂ Assembled batches groups) :
    ∃ groups', groups'.flatten = groups.flatten ∧
      List.Forall₂ (Sent jsonLen input) (batches.flatMap (buildBatchWirePayloads jsonLen input)) groups' := by
  induction assembled with
  | nil => exact ⟨[],rfl,.nil⟩
  | cons first _ ih =>
    obtain ⟨one,flat,sent⟩ := sent_wirePayloads first.segments first.data first.together
    obtain ⟨others,flat',rest⟩ := ih
    exact ⟨one ++ others,by simp [flat,flat'],List.rel_append sent rest⟩

theorem sent_messages (jsonLen : JsonLen) {input : BatchBuildInput} (frames : List RetainedFrame)
    (room : 0 < input.maxSerializedBytes) :
    ∃ groups, groups.flatten = frames ∧
      List.Forall₂ (Sent jsonLen input) (buildBatchMessages jsonLen input frames) groups := by
  obtain ⟨batches,whole,assembled⟩ := assembled_batches jsonLen frames room
  obtain ⟨groups,flat,sent⟩ := sent_batches assembled
  exact ⟨groups,flat.trans whole,sent⟩

theorem carries_countP (carries : Carries jsonLen input message group)
    (proper : ∀ f ∈ group, f.output.seqStart ≤ f.output.seqEnd) (n : Nat) :
    (spans [message]).countP (·.holds n) = (group.map RetainedFrame.span).countP (·.holds n) := by
  cases message with
  | terminalOutputBatch batch =>
    have linked : (group.map RetainedFrame.span).IsChain fun earlier later => later.first = earlier.last + 1 :=
      (List.isChain_map _).mpr (carries.together.adjacent.imp fun _ _ adjacent => adjacent.1)
    have starts : (group.map RetainedFrame.span).head?.map Span.first = some batch.seqStart := by
      rw [← carries.seqStart,List.head?_map,Option.map_map]
      rfl
    have ends : (group.map RetainedFrame.span).getLast?.map Span.last = some batch.seqEnd := by
      rw [← carries.seqEnd,List.getLast?_map,Option.map_map]
      rfl
    have spanned : ∀ span ∈ group.map RetainedFrame.span, span.first ≤ span.last := by
      simpa [RetainedFrame.span,TerminalOutput.span] using proper
    rw [spans_batch,spans_nil]
    exact (linked_countP linked spanned starts ends n).2.symm
  | terminalOutput output =>
    cases group with
    | nil => exact carries.elim
    | cons f rest =>
      cases rest with
      | nil =>
        have alone : CarriesAlone jsonLen input output f := carries
        simp [spans_output,TerminalOutput.span,RetainedFrame.span,alone.seqStart,alone.seqEnd]
      | cons => exact carries.elim
  | _ => exact carries.elim

theorem carries_countPs {messages : List ServerMessage}
    (carried : List.Forall₂ (Carries jsonLen input) messages groups)
    (proper : ∀ f ∈ groups.flatten, f.output.seqStart ≤ f.output.seqEnd) (n : Nat) :
    (spans messages).countP (·.holds n) = (groups.flatten.map RetainedFrame.span).countP (·.holds n) := by
  induction carried with
  | nil => rfl
  | @cons message group rest groups carries _ ih =>
    simp only [List.flatten_cons,List.mem_append] at proper
    have first := carries_countP carries (fun f mem => proper f (.inl mem)) n
    have others := ih fun f mem => proper f (.inr mem)
    rw [← List.singleton_append,spans_append,List.countP_append,first,others,List.flatten_cons,List.map_append,
      List.countP_append]

/-- The payloads of any frames, whatever the budget: they carry the frames in
    groups, in order, so each number goes out as often as the frames hold it. -/
theorem wirePayloads_lossless {jsonLen : JsonLen} (counts : jsonLen.CountsDigits) (frames : List RetainedFrame)
    (terminalId attachRequestId : String) (source : OutputSource) {batchMaxBytes : Nat} (room : 0 < batchMaxBytes) :
    ∃ groups, groups.flatten = frames ∧
      List.Forall₂ (Carries jsonLen { maxSerializedBytes := batchMaxBytes, terminalId, attachRequestId, source })
        (framesToWirePayloads jsonLen frames terminalId attachRequestId source batchMaxBytes) groups ∧
      ((∀ f ∈ frames, f.output.seqStart ≤ f.output.seqEnd) → ∀ n,
        (spans (framesToWirePayloads jsonLen frames terminalId attachRequestId source batchMaxBytes)).countP (·.holds n) =
          (frames.map RetainedFrame.span).countP (·.holds n)) := by
  obtain ⟨groups,same,sent⟩ := sent_messages jsonLen
    frames (show 0 < BatchBuildInput.maxSerializedBytes ⟨batchMaxBytes,terminalId,attachRequestId,source⟩ from room)
  have carried := sent.imp fun _ _ sent => sent.carries counts
  refine ⟨groups,same,carried,fun proper n => ?_⟩
  have counted := carries_countPs carried (same.symm ▸ proper) n
  rw [same] at counted
  exact counted

/-- Two transparent frames, the first with a character of two code units. -/
def clefFrames : List RetainedFrame :=
  [⟨⟨"t","s",1,1,"a𝄞",none,none⟩,false,none,.ground,.ground⟩,⟨⟨"t","s",2,2,"b",none,none⟩,false,none,.ground,.ground⟩]

theorem wirePayloads_lossless_clef :
    ∃ groups, groups.flatten = clefFrames ∧
      List.Forall₂ (Carries serdeJson ⟨400,"t","request",.replay⟩)
        (framesToWirePayloads serdeJson clefFrames "t" "request" .replay 400) groups ∧
      ((∀ f ∈ clefFrames, f.output.seqStart ≤ f.output.seqEnd) → ∀ n,
        (spans (framesToWirePayloads serdeJson clefFrames "t" "request" .replay 400)).countP (·.holds n) =
          (clefFrames.map RetainedFrame.span).countP (·.holds n)) :=
  wirePayloads_lossless serdeJson_countsDigits clefFrames "t" "request" .replay (by decide)

end Freshell.Terminal
