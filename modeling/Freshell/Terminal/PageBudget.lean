import Freshell.Terminal.Lossless

/-!
A replay page against its budget. The walk of the ring charges each frame an
estimate before anything is serialized: its own envelope, and for a subscriber
that takes batches a fixed share for its segment and for the envelope of its
batch. The estimate of a segment leaves out the barrier that a segment names, so
only frames whose barrier and numbers are short enough stay within it.
-/
namespace Freshell.Terminal

/-- The configuration with the sizes that the serializer gives. -/
def serdeConfig (batchMaxFromEnv : Option Nat) (pacedPageMaxBytes : Nat) : Config where
  jsonLen := serdeJson
  batchMaxFromEnv := batchMaxFromEnv
  pacedPageMaxBytes := pacedPageMaxBytes

/-- The bytes that the messages take on the wire. -/
def serializedBytes (messages : List ServerMessage) : Nat := (messages.map serdeJson.message).sum

def TerminalShared.window (s : TerminalShared) (fromSeq toSeq : Nat) : List RetainedFrame :=
  s.replay.filter fun f => decide (fromSeq < f.output.seqStart ∧ f.output.seqStart ≤ toSeq)

/-- The ring ascends, and its frames are of the terminal's stream. -/
structure TerminalShared.Retains (s : TerminalShared) : Prop where
  terminal : ∀ f ∈ s.replay, f.output.terminalId = s.terminalId
  stream : ∀ f ∈ s.replay, f.output.streamId = s.streamId
  proper : ∀ f ∈ s.replay, f.output.seqStart ≤ f.output.seqEnd
  ascends : s.replay.Pairwise fun f g => f.output.seqEnd < g.output.seqStart

/-- Without a page the window is empty. A page is a front of the window, and
    within the budget unless it is a single frame. -/
def PageWithin (config : Config) (s : TerminalShared) (sub : Subscriber) (fromSeq toSeq budget : Nat)
    (source : OutputSource) : Prop :=
  match pacedPageBuild config s sub fromSeq toSeq budget source with
  | none => s.window fromSeq toSeq = []
  | some build =>
    let frames := s.window fromSeq build.endSeq
    frames ≠ [] ∧ frames <+: s.window fromSeq toSeq ∧
      build.messages = pageMessages config s.terminalId sub source frames ∧
      (frames.length = 1 ∨ serializedBytes build.messages ≤ budget)

/-- The barrier that the segment of the frame names. -/
def RetainedFrame.wireBarrier (f : RetainedFrame) : Option BarrierReason := if f.barrier then f.barrierReason else none

def RetainedFrame.rawFrameCount (f : RetainedFrame) : Nat := max (f.output.seqEnd + 1 - f.output.seqStart) 1

/-- What the numbers and the barrier of a frame's segment take. The estimate of 96
    bytes and two that the envelope's charge has to spare leave 32 for them,
    after the keys of a segment with a barrier. -/
def RetainedFrame.Reckoned (f : RetainedFrame) : Prop :=
  ∀ reason ∈ f.wireBarrier,
    digitCount f.output.seqStart + digitCount f.output.seqEnd + digitCount (utf16Len f.output.data) +
      digitCount f.rawFrameCount + reason.asStr.length ≤ 32

/-! ### Digits -/

theorem digitCount_pos (n : Nat) : 0 < digitCount n := Nat.length_toDigits_pos

theorem digitCount_le {n k : Nat} (positive : 0 < k) (below : n < 10 ^ k) : digitCount n ≤ k :=
  (Nat.length_toDigits_le_iff (by decide) positive).mpr below

theorem digitCount_mono {m n : Nat} (le : m ≤ n) : digitCount m ≤ digitCount n := by
  have below : n < 10 ^ digitCount n := (Nat.length_toDigits_le_iff (by decide) (digitCount_pos n)).mp (Nat.le_refl _)
  exact digitCount_le (digitCount_pos n) (Nat.lt_of_le_of_lt le below)

/-- A size that holds its own digits stays within a budget that has room for the
    rest and the budget's digits. -/
theorem selfSized_le {n rest budget : Nat} (sized : n = rest + digitCount n) (room : rest + digitCount budget < budget) :
    n ≤ rest + digitCount budget := by
  by_cases fits : n ≤ budget
  · have := digitCount_mono fits
    omega
  · exfalso
    -- From the budget on, each further byte brings one further digit at most.
    have grows : ∀ more, digitCount (budget + more) ≤ digitCount budget + more := by
      intro more
      induction more with
      | zero => exact Nat.le_refl _
      | succ more ih =>
        have next : digitCount (budget + more + 1) ≤ digitCount (budget + more) + 1 := by
          have below : budget + more < 10 ^ digitCount (budget + more) :=
            (Nat.length_toDigits_le_iff (by decide) (digitCount_pos _)).mp (Nat.le_refl _)
          apply digitCount_le (Nat.succ_pos _)
          rw [Nat.pow_succ]
          have : 0 < 10 ^ digitCount (budget + more) := Nat.pow_pos (by decide)
          omega
        rw [← Nat.add_assoc]
        omega
    obtain ⟨more,rfl⟩ := Nat.exists_eq_add_of_le (Nat.le_of_not_le fits)
    have := grows more
    omega

/-! ### Texts -/

def escapesOf (text : List Char) : Nat := (text.map escapedLen).sum

@[simp] theorem escapesOf_append (first second : List Char) :
    escapesOf (first ++ second) = escapesOf first + escapesOf second := by
  simp [escapesOf]

theorem jsonStringLen_eq (s : String) : jsonStringLen s = escapesOf s.toList + 2 := rfl

theorem utf16Width_le (c : Char) : utf16Width c ≤ escapedLen c := by
  have wide : utf16Width c ≤ 2 := by
    unfold utf16Width
    split <;> decide
  unfold escapedLen
  split
  · exact wide
  · split
    · omega
    · unfold utf16Width
      split
      · exact Char.utf8Size_pos c
      · rename_i high
        have value : c.toNat = c.val.toNat := rfl
        have beyond : ∀ bound : UInt32, bound.toNat < 0x10000 → ¬c.val ≤ bound := by
          intro bound low le
          have := UInt32.le_iff_toNat_le.mp le
          omega
        unfold Char.utf8Size
        rw [if_neg (beyond _ (by decide)),if_neg (beyond _ (by decide)),if_neg (beyond _ (by decide))]
        decide

theorem unitsOf_le (text : List Char) : unitsOf text ≤ escapesOf text := by
  induction text with
  | nil => exact Nat.le_refl _
  | cons c rest ih =>
    have := utf16Width_le c
    simp only [unitsOf,escapesOf,List.map_cons,List.sum_cons] at ih ⊢
    omega

/-! ### Messages -/

/-- The part of a frame's own envelope that does not depend on the frame. -/
def scaffoldLen (terminalId streamId : String) (attachRequestId : Option String) (source : OutputSource) : Nat :=
  outputJsonLen ⟨terminalId,streamId,0,0,"",attachRequestId,some source⟩ - 4

/-- The envelope of an output: the scaffold, the digits of its numbers and its text. -/
theorem outputJsonLen_eq (terminalId streamId : String) (seqStart seqEnd : Nat) (data : String)
    (attachRequestId : Option String) (source : OutputSource) :
    outputJsonLen ⟨terminalId,streamId,seqStart,seqEnd,data,attachRequestId,some source⟩ =
      scaffoldLen terminalId streamId attachRequestId source + digitCount seqStart + digitCount seqEnd +
        jsonStringLen data := by
  have zero : digitCount 0 = 1 := rfl
  have empty : jsonStringLen "" = 2 := rfl
  cases attachRequestId
  all_goals
    simp only [scaffoldLen,outputJsonLen,jsonObjectLen,Option.toList,List.map_cons,List.map_nil,List.cons_append,
      List.nil_append,List.append_nil,List.sum_cons,List.sum_nil]
    omega

/-- The envelope of a batch: 39 bytes more than that of an output, its own size and its segments. -/
theorem batchJsonLen_eq (batch : TerminalOutputBatch) :
    batchJsonLen batch =
      scaffoldLen batch.terminalId batch.streamId (some batch.attachRequestId) batch.source + 39 +
        digitCount batch.seqStart + digitCount batch.seqEnd + jsonStringLen batch.data +
        (batch.segments.map segmentJsonLen).sum + (batch.segments.length - 1) + digitCount batch.serializedBytes := by
  have zero : digitCount 0 = 1 := rfl
  have empty : jsonStringLen "" = 2 := rfl
  have plain : jsonStringLen "terminal.output" = 17 := rfl
  have batched : jsonStringLen "terminal.output.batch" = 23 := rfl
  simp only [scaffoldLen,outputJsonLen,batchJsonLen,jsonObjectLen,jsonArrayLen,Option.toList,List.map_cons,List.map_nil,
    List.cons_append,List.nil_append,List.sum_cons,List.sum_nil,List.length_map,plain,batched]
  have k1 : "type".length = 4 := rfl
  have k2 : "serializedBytes".length = 15 := rfl
  have k3 : "segments".length = 8 := rfl
  omega

def RetainedFrame.wireSegment (f : RetainedFrame) (endOffset : Nat) : OutputSegment where
  seqStart := f.output.seqStart
  seqEnd := f.output.seqEnd
  endOffset := endOffset
  rawFrameCount := f.rawFrameCount
  barrier := f.wireBarrier

theorem segmentJsonLen_eq (f : RetainedFrame) (endOffset : Nat) :
    segmentJsonLen (f.wireSegment endOffset) =
      53 + digitCount f.output.seqStart + digitCount f.output.seqEnd + digitCount endOffset +
        digitCount f.rawFrameCount + (f.wireBarrier.toList.map fun reason => 13 + reason.asStr.length).sum := by
  have named : ∀ reason : BarrierReason, jsonStringLen reason.asStr = reason.asStr.length + 2 := by
    intro reason
    cases reason <;> rfl
  have k1 : "seqStart".length = 8 := rfl
  have k2 : "seqEnd".length = 6 := rfl
  have k3 : "endOffset".length = 9 := rfl
  have k4 : "rawFrameCount".length = 13 := rfl
  have k5 : "barrier".length = 7 := rfl
  unfold segmentJsonLen RetainedFrame.wireSegment
  cases f.wireBarrier with
  | none =>
    simp only [jsonObjectLen,Option.toList,List.map_cons,List.map_nil,List.append_nil,List.sum_cons,List.sum_nil]
    omega
  | some reason =>
    simp only [jsonObjectLen,Option.toList,List.map_cons,List.map_nil,List.cons_append,List.nil_append,List.sum_cons,
      List.sum_nil,named]
    omega

/-- The segments of adjacent frames are no larger than if each ended where the last one does. -/
theorem wireSegments_len (group : List RetainedFrame) (base : Nat) {previous limit : Nat}
    (within : previous + unitsOf (textOf group) ≤ limit) :
    ((wireSegments base previous (segmentsFrom (base + previous) group)).map segmentJsonLen).sum ≤
        (group.map fun f => segmentJsonLen (f.wireSegment limit)).sum ∧
      (wireSegments base previous (segmentsFrom (base + previous) group)).length = group.length := by
  induction group generalizing previous with
  | nil => exact ⟨Nat.le_refl _,rfl⟩
  | cons f rest ih =>
    have units : unitsOf (textOf (f :: rest)) = utf16Len f.output.data + unitsOf (textOf rest) := by
      simp [textOf,utf16Len_eq]
    rw [units] at within
    have stop : max previous (base + previous + utf16Len f.output.data - base) = previous + utf16Len f.output.data := by
      omega
    have later : previous + utf16Len f.output.data + unitsOf (textOf rest) ≤ limit := by omega
    obtain ⟨size,length⟩ := ih later
    have head : segmentJsonLen (f.wireSegment (previous + utf16Len f.output.data)) ≤ segmentJsonLen (f.wireSegment limit) := by
      have shorter : previous + utf16Len f.output.data ≤ limit := by omega
      have := digitCount_mono shorter
      rw [segmentJsonLen_eq,segmentJsonLen_eq]
      omega
    have written : wireSegments base previous (segmentsFrom (base + previous) (f :: rest)) =
        f.wireSegment (previous + utf16Len f.output.data) ::
          wireSegments base (previous + utf16Len f.output.data)
            (segmentsFrom (base + (previous + utf16Len f.output.data)) rest) := by
      simp only [segmentsFrom,wireSegments,segmentForFrame,stop,Nat.add_assoc]
      cases barrier : f.barrier <;> simp [RetainedFrame.wireSegment,RetainedFrame.wireBarrier,RetainedFrame.rawFrameCount,barrier]
    rw [written]
    simp only [List.map_cons,List.sum_cons,List.length_cons,length]
    exact ⟨by omega,trivial⟩

/-! ### The charges of a payload's frames -/

structure RetainedFrame.Numbered (f : RetainedFrame) : Prop where
  proper : f.output.seqStart ≤ f.output.seqEnd
  below : f.output.seqEnd < 10 ^ 11

variable {f : RetainedFrame}

theorem RetainedFrame.Numbered.digits (numbered : f.Numbered) :
    digitCount f.output.seqStart ≤ 11 ∧ digitCount f.output.seqEnd ≤ 11 ∧ digitCount f.rawFrameCount ≤ 12 := by
  have proper := numbered.proper
  have below := numbered.below
  refine ⟨digitCount_le (by decide) (by omega),digitCount_le (by decide) below,digitCount_le (by decide) ?_⟩
  unfold RetainedFrame.rawFrameCount
  omega

theorem ownSegment_le (numbered : f.Numbered) (reckoned : f.Reckoned) (short : utf16Len f.output.data < 10 ^ 5) :
    segmentJsonLen (f.wireSegment (utf16Len f.output.data)) ≤ 98 := by
  obtain ⟨starts,ends,count⟩ := numbered.digits
  have units : digitCount (utf16Len f.output.data) ≤ 5 := digitCount_le (by decide) short
  rw [segmentJsonLen_eq]
  cases named : f.wireBarrier with
  | none =>
    simp only [Option.toList,List.map_nil,List.sum_nil]
    omega
  | some reason =>
    have := reckoned reason named
    simp only [Option.toList,List.map_cons,List.map_nil,List.sum_cons,List.sum_nil]
    omega

theorem payload_exact {jsonLen : JsonLen} (counts : jsonLen.CountsDigits) (input : BatchBuildInput) (batch : OutputBatch)
    (startOffset : Nat) (first : BatchSegment) (rest : List BatchSegment) :
    jsonLen.message (.terminalOutputBatch (buildBatchPayload jsonLen input batch startOffset first rest)) =
      (buildBatchPayload jsonLen input batch startOffset first rest).serializedBytes :=
  serializedBytes_exact counts _

theorem payload_fields (jsonLen : JsonLen) (input : BatchBuildInput) (batch : OutputBatch) (startOffset : Nat)
    (first : BatchSegment) (rest : List BatchSegment) :
    (buildBatchPayload jsonLen input batch startOffset first rest).terminalId = input.terminalId ∧
      (buildBatchPayload jsonLen input batch startOffset first rest).attachRequestId = input.attachRequestId ∧
      (buildBatchPayload jsonLen input batch startOffset first rest).source = input.source ∧
      (buildBatchPayload jsonLen input batch startOffset first rest).streamId = batch.streamId ∧
      (buildBatchPayload jsonLen input batch startOffset first rest).segments =
        wireSegments startOffset 0 (first :: rest) :=
  ⟨rfl,rfl,rfl,rfl,rfl⟩

section Charges
variable {batchMax : Option Nat} {pageMax : Nat} {sub : Subscriber} {terminalId streamId arid : String}
  {source : OutputSource} {budget : Nat}

variable (scaffold : Nat) (f : RetainedFrame)

theorem frameCost_batch (takes : sub.batchMode = true) :
    frameCost (serdeConfig batchMax pageMax) sub scaffold budget f =
      scaffold + digitCount f.output.seqStart + digitCount f.output.seqEnd + escapesOf f.output.data.toList + 139 +
        digitCount budget := by
  simp only [frameCost,takes,if_true,segmentWireOverheadEstimate,batchEnvelopeFixedBytes,serdeConfig,serdeJson,
    jsonStringLen_eq]
  omega

theorem frameCost_plain (plain : sub.batchMode = false) :
    frameCost (serdeConfig batchMax pageMax) sub scaffold budget f =
      scaffold + digitCount f.output.seqStart + digitCount f.output.seqEnd + jsonStringLen f.output.data := by
  simp only [frameCost,plain,serdeConfig,serdeJson]
  simp
  omega

def digitsOf (group : List RetainedFrame) : Nat :=
  (group.map fun f => digitCount f.output.seqStart + digitCount f.output.seqEnd).sum

/-- The charge of a group covers one envelope and, for each of its frames, the numbers, the text and 139 bytes. -/
theorem charges_ge (scaffold : Nat) {group : List RetainedFrame} (takes : sub.batchMode = true) (some_ : group ≠ []) :
    scaffold + digitCount budget + 139 * group.length + digitsOf group + escapesOf (textOf group) ≤
      (group.map (frameCost (serdeConfig batchMax pageMax) sub scaffold budget)).sum := by
  have each : ∀ rest : List RetainedFrame,
      139 * rest.length + digitsOf rest + escapesOf (textOf rest) ≤
        (rest.map (frameCost (serdeConfig batchMax pageMax) sub scaffold budget)).sum := by
    intro rest
    induction rest with
    | nil => exact Nat.le_refl _
    | cons f rest ih =>
      have text : escapesOf (textOf (f :: rest)) = escapesOf f.output.data.toList + escapesOf (textOf rest) := by
        simp [textOf]
      simp only [digitsOf,List.map_cons,List.sum_cons,List.length_cons,frameCost_batch scaffold f takes,text] at ih ⊢
      omega
  obtain ⟨f,rest,rfl⟩ := List.exists_cons_of_ne_nil some_
  have := each rest
  have text : escapesOf (textOf (f :: rest)) = escapesOf f.output.data.toList + escapesOf (textOf rest) := by
    simp [textOf]
  simp only [digitsOf,List.map_cons,List.sum_cons,List.length_cons,frameCost_batch scaffold f takes,text] at this ⊢
  omega

variable {group : List RetainedFrame}

theorem plainSegments_le {limit : Nat} (numbered : ∀ f ∈ group, f.Numbered)
    (transparent : ∀ f ∈ group, isTransparentGround f = true) (short : limit < 10 ^ 5) :
    (group.map fun f => segmentJsonLen (f.wireSegment limit)).sum ≤ 70 * group.length + digitsOf group := by
  have units : digitCount limit ≤ 5 := digitCount_le (by decide) short
  induction group with
  | nil => exact Nat.le_refl _
  | cons f rest ih =>
    have others := ih (fun g mem => numbered g (List.mem_cons_of_mem f mem))
      fun g mem => transparent g (List.mem_cons_of_mem f mem)
    obtain ⟨-,-,count⟩ := (numbered f List.mem_cons_self).digits
    have clear : f.wireBarrier = none := by
      have ground := transparent f List.mem_cons_self
      simp only [isTransparentGround,Bool.and_eq_true,Bool.not_eq_true'] at ground
      simp [RetainedFrame.wireBarrier,ground.1.1]
    have here : segmentJsonLen (f.wireSegment limit) ≤ 70 + digitCount f.output.seqStart + digitCount f.output.seqEnd := by
      rw [segmentJsonLen_eq,clear]
      simp only [Option.toList,List.map_nil,List.sum_nil]
      omega
    simp only [digitsOf,List.map_cons,List.sum_cons,List.length_cons] at others ⊢
    omega

theorem payloadRest_le {batch : TerminalOutputBatch} {group : List RetainedFrame} {rest : Nat}
    (takes : sub.batchMode = true)
    (carried : CarriesBatch serdeJson (batchInput (serdeConfig batchMax pageMax) terminalId arid source) batch group)
    (numbered : ∀ f ∈ group, f.Numbered) (reckoned : ∀ f ∈ group, f.Reckoned)
    (short : unitsOf (textOf group) < 10 ^ 5)
    (segments : (batch.segments.map segmentJsonLen).sum ≤
      (group.map fun f => segmentJsonLen (f.wireSegment (unitsOf (textOf group)))).sum)
    (length : batch.segments.length = group.length)
    (size : rest = scaffoldLen terminalId streamId (some arid) source + 39 + digitCount batch.seqStart +
      digitCount batch.seqEnd + (escapesOf (textOf group) + 2) + (batch.segments.map segmentJsonLen).sum +
      (batch.segments.length - 1)) :
    rest + digitCount budget + (group.length - 1) ≤ (group.map (frameCost (serdeConfig batchMax pageMax) sub
      (scaffoldLen terminalId streamId (some arid) source) budget)).sum := by
  generalize scaffoldLen terminalId streamId (some arid) source = scaffold at size ⊢
  match group with
  | [] => cases carried.seqStart
  | [f] =>
    have starts : batch.seqStart = f.output.seqStart := by simpa using carried.seqStart.symm
    have ends : batch.seqEnd = f.output.seqEnd := by simpa using carried.seqEnd.symm
    have text : textOf [f] = f.output.data.toList := by simp [textOf]
    rw [text] at size short segments
    have own := ownSegment_le (numbered f List.mem_cons_self) (reckoned f List.mem_cons_self) short
    simp only [List.map_cons,List.map_nil,List.sum_cons,List.sum_nil,List.length_singleton,Nat.add_zero] at segments length ⊢
    rw [frameCost_batch _ f takes]
    rw [starts,ends] at size
    rw [← utf16Len_eq] at segments
    omega
  | f :: g :: others =>
    have transparent := carried.together.alone.resolve_left (by simp)
    have segs := plainSegments_le numbered transparent short
    have charged := @charges_ge batchMax pageMax sub budget scaffold _ takes
      (List.cons_ne_nil f (g :: others))
    have starts : batch.seqStart = f.output.seqStart := by simpa using carried.seqStart.symm
    obtain ⟨last,isLast,ends⟩ := Option.map_eq_some_iff.mp carried.seqEnd
    have first := (numbered f List.mem_cons_self).digits.1
    have final := (numbered last (List.mem_of_getLast? isLast)).digits.2.1
    rw [starts,← ends,length] at size
    rw [List.length_cons] at charged segs size ⊢
    omega

/-- A batch stays within the charges of its frames, if these leave some of the budget or it has a second frame. -/
theorem payload_le {batch : TerminalOutputBatch} (takes : sub.batchMode = true)
    (carried : CarriesBatch serdeJson (batchInput (serdeConfig batchMax pageMax) terminalId arid source) batch group)
    (exactly : batchJsonLen batch = batch.serializedBytes)
    (within : batch.serializedBytes ≤ terminalStreamBatchMaxBytes (serdeConfig batchMax pageMax))
    (terminal : batch.terminalId = terminalId) (stream : batch.streamId = streamId)
    (request : batch.attachRequestId = arid) (origin : batch.source = source)
    (segments : (batch.segments.map segmentJsonLen).sum ≤
      (group.map fun f => segmentJsonLen (f.wireSegment (unitsOf (textOf group)))).sum)
    (length : batch.segments.length = group.length) (numbered : ∀ f ∈ group, f.Numbered)
    (reckoned : ∀ f ∈ group, f.Reckoned) (fits : (group.map (frameCost (serdeConfig batchMax pageMax) sub
      (scaffoldLen terminalId streamId (some arid) source) budget)).sum ≤ budget)
    (spare : group.length = 1 → (group.map (frameCost (serdeConfig batchMax pageMax) sub
      (scaffoldLen terminalId streamId (some arid) source) budget)).sum < budget) :
    batchJsonLen batch ≤ (group.map (frameCost (serdeConfig batchMax pageMax) sub
      (scaffoldLen terminalId streamId (some arid) source) budget)).sum := by
  have text : jsonStringLen batch.data = escapesOf (textOf group) + 2 := by
    rw [jsonStringLen_eq,carried.data]
    rfl
  have size := batchJsonLen_eq batch
  rw [exactly,terminal,stream,request,origin,text] at size
  obtain ⟨rest,named⟩ : ∃ rest, rest = scaffoldLen terminalId streamId (some arid) source + 39 +
      digitCount batch.seqStart + digitCount batch.seqEnd + (escapesOf (textOf group) + 2) +
      (batch.segments.map segmentJsonLen).sum + (batch.segments.length - 1) := ⟨_,rfl⟩
  rw [← named] at size
  have limit : terminalStreamBatchMaxBytes (serdeConfig batchMax pageMax) ≤ 32768 := by
    simp only [terminalStreamBatchMaxBytes,pacedPageBudgetFloorBytes]
    omega
  have units := unitsOf_le (textOf group)
  have room := @payloadRest_le _ _ _ _ _ _ _ budget _ _ _ takes carried numbered reckoned (by omega) segments length named
  have many : group.length ≠ 0 := by
    intro none
    rw [List.length_eq_zero_iff.mp none] at carried
    cases carried.seqStart
  have sized := @selfSized_le _ _ budget size (by omega)
  omega

/-- A payload of a page stays within the charges of its frames, if these leave some of the budget or it has a second
    frame. -/
theorem sent_le {message : ServerMessage} (takes : sub.batchMode = true)
    (sent : Sent serdeJson (batchInput (serdeConfig batchMax pageMax) terminalId arid source) message group)
    (stream : ∀ f ∈ group, f.output.streamId = streamId) (numbered : ∀ f ∈ group, f.Numbered)
    (reckoned : ∀ f ∈ group, f.Reckoned) (fits : (group.map (frameCost (serdeConfig batchMax pageMax) sub
      (scaffoldLen terminalId streamId (some arid) source) budget)).sum ≤ budget)
    (spare : group.length = 1 → (group.map (frameCost (serdeConfig batchMax pageMax) sub
      (scaffoldLen terminalId streamId (some arid) source) budget)).sum < budget) :
    serdeJson.message message ≤ (group.map (frameCost (serdeConfig batchMax pageMax) sub
      (scaffoldLen terminalId streamId (some arid) source) budget)).sum := by
  have carried := sent.carries serdeJson_countsDigits
  cases sent with
  | @alone batch startOffset f before after parts here named tooLarge =>
    have alone : CarriesAlone _ _ _ f := carried
    have own : outputJsonLen (singleSegmentFallback (batchInput (serdeConfig batchMax pageMax) terminalId arid source)
        batch startOffset (segmentForFrame f startOffset)) =
        outputJsonLen ⟨terminalId,streamId,f.output.seqStart,f.output.seqEnd,f.output.data,some arid,some source⟩ := by
      have data := alone.data
      rw [← alone.data,← stream f List.mem_cons_self,named]
      rfl
    show outputJsonLen _ ≤ _
    rw [own,outputJsonLen_eq,List.map_singleton,List.sum_singleton,frameCost_batch _ f takes,jsonStringLen_eq]
    omega
  | @payload batch startOffset group first rest before after segments parts here together within =>
    have some_ : group ≠ [] := by
      rintro rfl
      cases segments
    obtain ⟨f,member⟩ := List.exists_mem_of_ne_nil group some_
    obtain ⟨segs,length⟩ := wireSegments_len group startOffset (Nat.le_of_eq (Nat.zero_add (unitsOf (textOf group))))
    rw [Nat.add_zero,segments] at segs length
    have exactly := payload_exact serdeJson_countsDigits
      (batchInput (serdeConfig batchMax pageMax) terminalId arid source) batch startOffset first rest
    obtain ⟨named,terminal,request,origin,written⟩ : batch.streamId = streamId ∧ _ ∧ _ ∧ _ ∧ _ :=
      ⟨(together.stream f member).symm.trans (stream f member),
        payload_fields serdeJson (batchInput (serdeConfig batchMax pageMax) terminalId arid source) batch startOffset first rest⟩
    rw [← written.2] at segs length
    generalize buildBatchPayload serdeJson (batchInput (serdeConfig batchMax pageMax) terminalId arid source) batch
      startOffset first rest = payload at *
    exact payload_le takes carried exactly within terminal (written.1.trans named) request origin segs length numbered
      reckoned fits spare

variable {frames : List RetainedFrame}

/-- The payloads of a page of at least two frames stay within the charges of all of them. -/
theorem sentPage_le {messages : List ServerMessage} {groups : List (List RetainedFrame)} (takes : sub.batchMode = true)
    (flat : groups.flatten = frames)
    (sent : List.Forall₂ (Sent serdeJson (batchInput (serdeConfig batchMax pageMax) terminalId arid source)) messages groups)
    (stream : ∀ f ∈ frames, f.output.streamId = streamId) (numbered : ∀ f ∈ frames, f.Numbered)
    (reckoned : ∀ f ∈ frames, f.Reckoned) (many : 2 ≤ frames.length)
    (fits : (frames.map (frameCost (serdeConfig batchMax pageMax) sub
      (scaffoldLen terminalId streamId (some arid) source) budget)).sum ≤ budget) :
    serializedBytes messages ≤ budget := by
  let cost := frameCost (serdeConfig batchMax pageMax) sub (scaffoldLen terminalId streamId (some arid) source) budget
  have charged : ∀ part : List RetainedFrame, part.length ≤ (part.map cost).sum := by
    intro part
    induction part with
    | nil => exact Nat.le_refl _
    | cons f rest ih =>
      have one : cost f = _ := frameCost_batch _ f takes
      simp only [List.length_cons,List.map_cons,List.sum_cons,one]
      omega
  have each : ∀ group ∈ groups, (∀ f ∈ group, f ∈ frames) ∧ (group.map cost).sum ≤ budget ∧
      (group.length = 1 → (group.map cost).sum < budget) := by
    intro group member
    obtain ⟨before,after,rfl⟩ := List.append_of_mem member
    have parts : frames = before.flatten ++ (group ++ after.flatten) := by simp [← flat]
    have all : (frames.map cost).sum ≤ budget := fits
    have earlier := charged before.flatten
    have later := charged after.flatten
    rw [parts] at all many
    simp only [List.map_append,List.sum_append,List.length_append] at all many
    refine ⟨fun f inside => ?_,by omega,fun single => by omega⟩
    rw [parts]
    exact List.mem_append_right _ (List.mem_append_left _ inside)
  have total : serializedBytes messages ≤ ((groups.flatten).map cost).sum := by
    clear flat
    induction sent with
    | nil => exact Nat.le_refl _
    | @cons message group _ _ first _ ih =>
      have others := ih fun other member => each other (List.mem_cons_of_mem _ member)
      obtain ⟨inside,room,spare⟩ := each group List.mem_cons_self
      have here := sent_le takes first (fun f mem => stream f (inside f mem)) (fun f mem => numbered f (inside f mem))
        (fun f mem => reckoned f (inside f mem)) room spare
      have here : serdeJson.message message ≤ (group.map cost).sum := here
      simp only [serializedBytes,List.map_cons,List.sum_cons,List.flatten_cons,List.map_append,List.sum_append] at others ⊢
      omega
  rw [flat] at total
  exact Nat.le_trans total fits

theorem stamped_bytes (attachRequestId : Option String) (plain : sub.batchMode = false)
    (terminal : ∀ f ∈ frames, f.output.terminalId = terminalId) (stream : ∀ f ∈ frames, f.output.streamId = streamId) :
    serializedBytes (frames.map fun f => .terminalOutput (f.stamped attachRequestId source)) =
      (frames.map (frameCost (serdeConfig batchMax pageMax) sub
        (scaffoldLen terminalId streamId attachRequestId source) budget)).sum := by
  induction frames with
  | nil => rfl
  | cons f rest ih =>
    have others := ih (fun g mem => terminal g (List.mem_cons_of_mem f mem)) fun g mem => stream g (List.mem_cons_of_mem f mem)
    have own : f.stamped attachRequestId source =
        ⟨terminalId,streamId,f.output.seqStart,f.output.seqEnd,f.output.data,attachRequestId,some source⟩ := by
      simp [RetainedFrame.stamped,← terminal f List.mem_cons_self,← stream f List.mem_cons_self]
    simp only [serializedBytes,List.map_cons,List.sum_cons] at others ⊢
    rw [others,own,frameCost_plain _ f plain]
    show outputJsonLen _ + _ = _
    rw [outputJsonLen_eq]

/-- Frames charged within the budget stay within it on the wire, but for a single frame. -/
theorem pageMessages_le (terminal : ∀ f ∈ frames, f.output.terminalId = terminalId)
    (stream : ∀ f ∈ frames, f.output.streamId = streamId) (numbered : ∀ f ∈ frames, f.Numbered)
    (reckoned : sub.batchMode = true → ∀ f ∈ frames, f.Reckoned) (many : 2 ≤ frames.length)
    (fits : (frames.map (frameCost (serdeConfig batchMax pageMax) sub
      (scaffoldLen terminalId streamId sub.attachRequestId source) budget)).sum ≤ budget) :
    serializedBytes (pageMessages (serdeConfig batchMax pageMax) terminalId sub source frames) ≤ budget := by
  unfold pageMessages
  cases takes : sub.batchMode with
  | false =>
    simp only [Bool.false_eq_true,if_false]
    exact Nat.le_trans (Nat.le_of_eq (stamped_bytes sub.attachRequestId takes terminal stream)) fits
  | true =>
    obtain ⟨arid,request⟩ : ∃ arid, sub.attachRequestId = some arid := by
      simp only [Subscriber.batchMode,Bool.and_eq_true,Option.isSome_iff_exists] at takes
      exact takes.2
    obtain ⟨groups,flat,sent⟩ := @sent_messages serdeJson
      (batchInput (serdeConfig batchMax pageMax) terminalId arid source) frames
      (Nat.pos_of_ne_zero (terminalStreamBatchMaxBytes_ne (serdeConfig batchMax pageMax)))
    rw [request] at fits
    simp only [if_true,request,Option.getD_some]
    exact sentPage_le takes flat sent stream numbered (reckoned takes) many fits

end Charges

/-! ### The frames of a page -/

variable (cost : RetainedFrame → Nat)

theorem selectFrames_le (budget toSeq : Nat) {pageBytes : Nat} (frames : List RetainedFrame)
    (fits : pageBytes ≤ budget) :
    pageBytes + ((selectFrames cost budget toSeq pageBytes frames).map cost).sum ≤ budget := by
  induction frames generalizing pageBytes with
  | nil => simpa [selectFrames] using fits
  | cons f rest ih =>
    unfold selectFrames
    split
    · simpa using fits
    · split
      · simpa using fits
      · have := @ih (pageBytes + cost f) (by omega)
        simp only [List.map_cons,List.sum_cons]
        omega

theorem selectPage_le (budget toSeq : Nat) (first : RetainedFrame) (rest : List RetainedFrame) :
    (selectPage cost budget toSeq first rest).length = 1 ∨
      ((selectPage cost budget toSeq first rest).map cost).sum ≤ budget := by
  unfold selectPage
  by_cases large : budget < cost first
  · rw [if_pos large]
    exact .inl rfl
  · rw [if_neg large]
    exact .inr (selectFrames_le cost budget toSeq rest (Nat.le_of_not_lt large))

variable {s : TerminalShared}

theorem window_eq (retains : s.Retains) (fromSeq toSeq : Nat) : s.window fromSeq toSeq =
        (s.replay.dropWhile fun f => f.output.seqStart ≤ fromSeq).filter (fun f => f.output.seqStart ≤ toSeq) ∧
      ∀ f ∈ s.replay.dropWhile (fun f => f.output.seqStart ≤ fromSeq), fromSeq < f.output.seqStart := by
  have proper := retains.proper
  have ascends := retains.ascends
  unfold TerminalShared.window
  generalize s.replay = frames at *
  induction frames with
  | nil => exact ⟨rfl,by simp⟩
  | cons f rest ih =>
    have ahead := (List.pairwise_cons.mp ascends).1
    by_cases passed : f.output.seqStart ≤ fromSeq
    · rw [List.dropWhile_cons_of_pos (by simpa using passed),List.filter_cons_of_neg (by simp; omega)]
      exact ih (fun g mem => proper g (List.mem_cons_of_mem f mem)) (List.pairwise_cons.mp ascends).2
    · rw [List.dropWhile_cons_of_neg (by simpa using passed)]
      have above : ∀ g ∈ f :: rest, fromSeq < g.output.seqStart := by
        intro g member
        obtain rfl | member := List.mem_cons.mp member
        · omega
        · have := ahead g member
          have := proper f List.mem_cons_self
          omega
      refine ⟨List.filter_congr fun g member => ?_,above⟩
      have := above g member
      simp only [decide_eq_decide]
      exact ⟨And.right,fun below => ⟨this,below⟩⟩

theorem window_page (retains : s.Retains) {fromSeq toSeq : Nat} {selected tail : List RetainedFrame}
    (ring : (s.replay.dropWhile fun f => f.output.seqStart ≤ fromSeq) = selected ++ tail)
    (wanted : ∀ f ∈ selected, f.output.seqStart ≤ toSeq) (some_ : selected ≠ []) :
    s.window fromSeq (selected.getLast some_).output.seqEnd = selected ∧ selected <+: s.window fromSeq toSeq := by
  have within := (List.dropWhile_sublist (l := s.replay) fun f => decide (f.output.seqStart ≤ fromSeq))
  rw [ring] at within
  have ascends := retains.ascends.sublist within
  obtain ⟨front,-,apart⟩ := List.pairwise_append.mp ascends
  have final := List.getLast_mem some_
  constructor
  · rw [(window_eq retains fromSeq _).1,ring,List.filter_append]
    have kept : selected.filter (fun f => decide (f.output.seqStart ≤ (selected.getLast some_).output.seqEnd)) = selected := by
      refine List.filter_eq_self.mpr fun f member => decide_eq_true ?_
      have proper := retains.proper f (within.subset (List.mem_append_left tail member))
      rw [← List.dropLast_concat_getLast some_] at member front
      obtain earlier | last := List.mem_append.mp member
      · have before := (List.pairwise_append.mp front).2.2 f earlier _ List.mem_cons_self
        have := retains.proper _ (within.subset (List.mem_append_left tail final))
        omega
      · obtain rfl := List.mem_singleton.mp last
        exact proper
    have rest : tail.filter (fun f => decide (f.output.seqStart ≤ (selected.getLast some_).output.seqEnd)) = [] := by
      refine List.filter_eq_nil_iff.mpr fun f member => ?_
      have := apart _ final f member
      simp only [decide_eq_true_eq]
      omega
    rw [kept,rest,List.append_nil]
  · rw [(window_eq retains fromSeq toSeq).1,ring,List.filter_append,
      List.filter_eq_self.mpr fun f member => decide_eq_true (wanted f member)]
    exact List.prefix_append selected _

/-! ### The budget -/

/-- Two bells, each the end of a turn, so each a barrier and a batch of its own. -/
def bells (seq : Nat) : TerminalShared where
  terminalId := "t"
  streamId := "s"
  replay := [seq,seq + 1].map fun n => ⟨⟨"t","s",n,n,"\x07",none,none⟩,true,some .turnComplete,.ground,.ground⟩
  replayChars := 2
  maxReplayChars := 100
  modes := ""
  headSeq := seq + 1
  status := .running
  exitCode := none
  subscribers _ := none

def batchSubscriber : Subscriber where
  sink := ⟨0⟩
  attachRequestId := some "r"
  terminalOutputBatchV1 := true
  pacedTerminalReplayV1 := true
  pacedDeferred := false
  pacedHandoffBoundary := none
  pacedExitPending := none

theorem retains_bells (seq : Nat) : (bells seq).Retains where
  terminal := by simp [bells]
  stream := by simp [bells]
  proper := by simp [bells]
  ascends := by simp [bells]

end Freshell.Terminal
