import Freshell.Client.AttachSeqState
import Freshell.Library.Runs

/-!
What each event does to the sequence state. Every reducer builds its state anew,
which leaves a state in normal form as it is; so each is described by what it does
to the highest number, to the applied number and to the lost ranges.
-/
namespace Freshell.Client
open Freshell.Library.Spans

/-- The form that `buildState` gives a state. -/
structure Normal (state : AttachSeqState) : Prop where
  mirrored : state.lastSeq = state.highestObservedSeq
  applied : state.parserAppliedSeq ≤ state.highestObservedSeq
  separate : Separate state.knownLostRanges
  positive : ∀ range ∈ state.knownLostRanges, 0 < range.last

@[simp] theorem normalizeSeq_nat (n : Nat) : normalizeSeq (some (n : Int)) = n := rfl

@[simp] theorem normalizeSeq_max (m n : Nat) : normalizeSeq (some (max (m : Int) n)) = max m n := by
  simp only [normalizeSeq,Option.getD_some]
  omega

@[simp] theorem normalizeSeq_min (m n : Nat) : normalizeSeq (some (min (m : Int) n)) = min m n := by
  simp only [normalizeSeq,Option.getD_some]
  omega

/-- Ranges as the normalization takes them: none ends before it starts, none is of zero alone. -/
theorem normalizeLostRanges_spec (ranges : List SeqRange) :
    Separate (normalizeLostRanges ranges) ∧ ∀ range ∈ normalizeLostRanges ranges, 0 < range.last := by
  have proper : ∀ range ∈ (ranges.map fun range => { range with last := max range.first range.last }).filter
      (fun range => decide (0 < range.last)), range.first ≤ range.last ∧ 0 < range.last := by
    intro range mem
    obtain ⟨mem,positive⟩ := List.mem_filter.mp mem
    obtain ⟨source,-,rfl⟩ := List.mem_map.mp mem
    exact ⟨Nat.le_max_left _ _,of_decide_eq_true positive⟩
  refine ⟨mergeSpans_separate fun range mem => (proper range mem).1,fun range mem => ?_⟩
  obtain ⟨source,mem,ends⟩ := mergeSpans_last range mem
  exact ends ▸ (proper source mem).2

variable {ranges : List SeqRange}

theorem normalizeLostRanges_eq (separate : Separate ranges) (positive : ∀ range ∈ ranges, 0 < range.last) :
    normalizeLostRanges ranges = ranges := by
  have proper : (ranges.map fun range => { range with last := max range.first range.last }) = ranges := by
    refine List.map_congr_left (fun range mem => ?_) |>.trans (List.map_id _)
    rw [Nat.max_eq_right (separate.proper range mem)]
    rfl
  have kept : ranges.filter (fun range => decide (0 < range.last)) = ranges := by
    simpa [List.filter_eq_self] using positive
  rw [normalizeLostRanges,proper,kept]
  exact mergeSpans_eq separate

theorem buildState_normal (input : PartialSeqState) : Normal (buildState input) where
  mirrored := rfl
  applied := Nat.le_max_right _ _
  separate := (normalizeLostRanges_spec _).1
  positive := (normalizeLostRanges_spec _).2

variable {state : AttachSeqState}

theorem createAttachSeqState_eq (normal : Normal state) : createAttachSeqState state.toPartial = state := by
  obtain ⟨lastSeq,highest,parser,awaiting,pending,lost,safe,quarantine⟩ := state
  obtain ⟨mirrored,applied,separate,positive⟩ := normal
  simp only at mirrored applied separate positive
  subst mirrored
  simp [createAttachSeqState,buildState,AttachSeqState.toPartial,normalizeLostRanges_eq separate positive,
    Nat.max_eq_left applied]

theorem normalized_proper (range : WireRange) : range.normalized.first ≤ range.normalized.last := Nat.le_max_left _ _

theorem normalized_nat (a b : Nat) : WireRange.normalized ⟨a,b⟩ = ⟨a,max a b⟩ := rfl

theorem mergeLostRanges_append {range : SeqRange} (separate : Separate ranges)
    (positive : ∀ range ∈ ranges, 0 < range.last) (proper : range.first ≤ range.last) (some : 0 < range.last) :
    normalizeLostRanges (mergeLostRanges (ranges ++ [range])) = mergeLostRanges (ranges ++ [range]) ∧
      ∀ n, Covered n (mergeLostRanges (ranges ++ [range])) ↔
        Covered n ranges ∨ (range.first ≤ n ∧ n ≤ range.last) := by
  have each : ∀ r ∈ ranges ++ [range], r.first ≤ r.last := by
    simpa [or_imp,forall_and] using ⟨separate.proper,proper⟩
  refine ⟨normalizeLostRanges_eq (mergeSpans_separate each) fun merged mem => ?_,fun n => ?_⟩
  · obtain ⟨source,mem,ends⟩ := mergeSpans_last merged mem
    rw [← ends]
    rcases List.mem_append.mp mem with mem | mem
    · exact positive source mem
    · rw [List.mem_singleton.mp mem]
      exact some
  · rw [mergeLostRanges,mergeSpans_covers each,covered_append,covered_cons]
    simp

theorem onOutputGap_spec (normal : Normal state) (gap : WireRange) : Normal (onOutputGap state gap).state ∧
      (onOutputGap state gap).state.highestObservedSeq = max state.highestObservedSeq gap.normalized.last ∧
      (onOutputGap state gap).state.parserAppliedSeq = state.parserAppliedSeq ∧
      (onOutputGap state gap).state.awaitingFreshSequence = false ∧
      ∀ n, Covered n (onOutputGap state gap).state.knownLostRanges ↔ Covered n state.knownLostRanges ∨
        (0 < gap.normalized.last ∧ gap.normalized.first ≤ n ∧ n ≤ gap.normalized.last) := by
  have applied := normal.applied
  refine ⟨buildState_normal _,?_,?_,rfl,fun n => ?_⟩
  · simp only [onOutputGap,createAttachSeqState_eq normal,toGapDecision]
    simp [buildState,AttachSeqState.toPartial]
    omega
  · simp only [onOutputGap,createAttachSeqState_eq normal,toGapDecision]
    simp [buildState,AttachSeqState.toPartial]
  · simp only [onOutputGap,createAttachSeqState_eq normal,toGapDecision,buildState,Option.getD_some]
    by_cases some : 0 < gap.normalized.last
    · obtain ⟨same,covers⟩ := mergeLostRanges_append normal.separate normal.positive (normalized_proper gap) some
      simp [some,same,covers]
    · simp [some,normalizeLostRanges_eq normal.separate normal.positive]

theorem markOutputRangeUnapplied_spec (normal : Normal state) (range : WireRange) :
    Normal (markOutputRangeUnapplied state range) ∧
      (markOutputRangeUnapplied state range).highestObservedSeq = state.highestObservedSeq ∧
      (markOutputRangeUnapplied state range).parserAppliedSeq = state.parserAppliedSeq ∧
      (markOutputRangeUnapplied state range).awaitingFreshSequence = state.awaitingFreshSequence ∧
      ∀ n, Covered n state.knownLostRanges → Covered n (markOutputRangeUnapplied state range).knownLostRanges := by
  have applied := normal.applied
  simp only [markOutputRangeUnapplied,createAttachSeqState_eq normal]
  split
  · exact ⟨normal,rfl,rfl,rfl,fun _ covered => covered⟩
  next some =>
    obtain ⟨same,covers⟩ := mergeLostRanges_append normal.separate normal.positive (normalized_proper range)
      (Nat.pos_of_ne_zero some)
    refine ⟨buildState_normal _,?_,rfl,rfl,fun n covered => ?_⟩
    · simp [buildState,AttachSeqState.toPartial,applied]
    · simp only [buildState,Option.getD_some,same,covers]
      exact .inl covered

/-- Without a rewind the highest number stays, or moves to the head that the
    message declares. The applied number never rises. -/
theorem onAttachReady_spec (normal : Normal state) (ready : AttachReady) : Normal (onAttachReady state ready) ∧
      (onAttachReady state ready).parserAppliedSeq ≤ state.parserAppliedSeq ∧
      (onAttachReady state ready).knownLostRanges = state.knownLostRanges ∧
      (state.awaitingFreshSequence = false → (onAttachReady state ready).awaitingFreshSequence = false ∧
        state.highestObservedSeq ≤ (onAttachReady state ready).highestObservedSeq ∧
        (ready.headSeq ≤ state.highestObservedSeq ∨
            (ready.hasReplayWindow = true ∧ (state.highestObservedSeq : Int) < ready.replayToSeq) →
          (onAttachReady state ready).highestObservedSeq = state.highestObservedSeq)) := by
  have applied := normal.applied
  have lost := normalizeLostRanges_eq normal.separate normal.positive
  have baseline : state.awaitingFreshSequence = false → replayBaseline state ready = state.highestObservedSeq := by
    intro settled
    simp [replayBaseline,settled]
  simp only [onAttachReady,createAttachSeqState_eq normal]
  split
  next window =>
    refine ⟨buildState_normal _,?_,lost,fun settled => ⟨settled,?_,fun _ => ?_⟩⟩
    · simp [buildState,AttachSeqState.toPartial]
    · simp [buildState,AttachSeqState.toPartial,baseline settled]
    · simp [buildState,AttachSeqState.toPartial,baseline settled]
  next covered =>
    refine ⟨buildState_normal _,?_,lost,fun settled => ⟨rfl,?_,fun kept => ?_⟩⟩
    · simp [buildState,AttachSeqState.toPartial]
    · simp [buildState,AttachSeqState.toPartial,baseline settled,normalizeSeq]
    · rw [baseline settled] at covered ⊢
      rcases kept with low | ⟨window,ahead⟩
      · simp [buildState,AttachSeqState.toPartial,normalizeSeq]
        omega
      · simp only [window,Bool.true_and,Bool.not_eq_true',decide_eq_false_iff_not] at covered
        omega

/-- An acknowledgement that moves the applied number stops before the first lost
    range above it, and moves nothing inside one. -/
theorem clampAcknowledged_spec {applied acknowledged : Nat} (separate : Separate ranges)
    (above : applied < clampAcknowledged applied acknowledged ranges) :
    clampAcknowledged applied acknowledged ranges ≤ acknowledged ∧
      ∀ n, applied < n → n ≤ clampAcknowledged applied acknowledged ranges → ¬Covered n ranges := by
  induction ranges with
  | nil => simp [clampAcknowledged]
  | cons range rest ih =>
    have proper := separate.proper range List.mem_cons_self
    obtain ⟨after,apart⟩ := List.pairwise_cons.mp separate.apart
    have later : Separate rest := ⟨fun r mem => separate.proper r (List.mem_cons_of_mem _ mem),apart⟩
    simp only [clampAcknowledged] at above ⊢
    by_cases aside : range.last ≤ applied ∨ acknowledged < range.first
    · rw [if_pos aside] at above ⊢
      obtain ⟨low,clear⟩ := ih later above
      refine ⟨low,fun n more less => ?_⟩
      rw [covered_cons,not_or]
      exact ⟨by omega,clear n more less⟩
    · rw [if_neg aside] at above ⊢
      by_cases inside : range.first ≤ applied
      · rw [if_pos inside] at above
        omega
      · rw [if_neg inside] at above ⊢
        refine ⟨by omega,fun n more less => ?_⟩
        rintro ⟨r,mem,first,last⟩
        rcases List.mem_cons.mp mem with rfl | mem
        · omega
        · have := after r mem
          omega

/-- The applied number rises, up to the acknowledged and the observed one, over numbers that are not lost. -/
theorem markParserAppliedSeq_spec (normal : Normal state) (seq : Int) : Normal (markParserAppliedSeq state seq) ∧
      (markParserAppliedSeq state seq).highestObservedSeq = state.highestObservedSeq ∧
      (markParserAppliedSeq state seq).awaitingFreshSequence = state.awaitingFreshSequence ∧
      (markParserAppliedSeq state seq).knownLostRanges = state.knownLostRanges ∧
      ∀ n, state.parserAppliedSeq < n → n ≤ (markParserAppliedSeq state seq).parserAppliedSeq →
        ¬Covered n state.knownLostRanges := by
  have applied := normal.applied
  simp only [markParserAppliedSeq,createAttachSeqState_eq normal]
  split
  · refine ⟨normal,rfl,rfl,rfl,fun n more less => ?_⟩
    omega
  next rises =>
    obtain ⟨low,clear⟩ := clampAcknowledged_spec normal.separate (Nat.lt_of_not_le rises)
    refine ⟨buildState_normal _,?_,rfl,normalizeLostRanges_eq normal.separate normal.positive,clear⟩
    simp [buildState,AttachSeqState.toPartial]
    omega

theorem effectiveState_spec (normal : Normal state) (seqStart : Nat) : Normal (effectiveState state seqStart) ∧
      (effectiveState state seqStart).parserAppliedSeq ≤ state.parserAppliedSeq ∧
      (effectiveState state seqStart = state ∨ state.awaitingFreshSequence = true) := by
  unfold effectiveState
  split
  next fresh =>
    simp only [shouldFreshReset,Bool.and_eq_true,decide_eq_true_eq] at fresh
    refine ⟨buildState_normal _,?_,.inr fresh.1.1⟩
    simp [buildState,normalizeSeq]
  next => exact ⟨normal,Nat.le_refl _,.inl rfl⟩

theorem jumpedRange_eq_some {seqStart : Nat} {range : SeqRange} : jumpedRange state seqStart = some range ↔
      state.highestObservedSeq + 1 < seqStart ∧ range = ⟨state.highestObservedSeq + 1,seqStart - 1⟩ := by
  unfold jumpedRange
  split
  next jumps => simp [jumps,eq_comm]
  next => simp [*]

theorem jumped_of_implicitGap {seqStart : Nat} {gap : SeqRange} (found : implicitGap state seqStart = some gap) :
    state.highestObservedSeq + 1 < seqStart ∧ gap = ⟨state.highestObservedSeq + 1,seqStart - 1⟩ := by
  unfold implicitGap at found
  split at found
  · cases found
  · exact jumpedRange_eq_some.mp found

theorem gapFoldedState_spec (normal : Normal state) (seqStart : Nat) : Normal (gapFoldedState state seqStart) ∧
      (gapFoldedState state seqStart).parserAppliedSeq = state.parserAppliedSeq ∧
      (gapFoldedState state seqStart).highestObservedSeq =
        (if (implicitGap state seqStart).isSome then seqStart - 1 else state.highestObservedSeq) ∧
      ∀ n, Covered n (gapFoldedState state seqStart).knownLostRanges ↔
        Covered n state.knownLostRanges ∨ Covered n (implicitGap state seqStart).toList := by
  unfold gapFoldedState
  cases found : implicitGap state seqStart with
  | none => simp [normal]
  | some gap =>
    obtain ⟨jumps,rfl⟩ := jumped_of_implicitGap found
    obtain ⟨normal',highest,parser,-,lost⟩ := onOutputGap_spec normal
      ⟨(state.highestObservedSeq + 1 : Nat),(seqStart - 1 : Nat)⟩
    refine ⟨normal',parser,?_,fun n => ?_⟩
    · rw [highest,normalized_nat]
      simp only [Option.isSome_some,if_true]
      omega
    · rw [lost n,normalized_nat]
      simp only [Option.toList_some,covered_cons,covered_nil,or_false]
      apply or_congr Iff.rfl
      omega

def singleFrame (seq : Int) : WireFrame := ⟨seq,seq⟩

/-- An accepted frame of one number is the next one, or jumps over a range that
    is lost from then on or exempt. -/
theorem onOutputFrame_accept {after : AttachSeqState} (normal : Normal state) {seq : Int} {reset : Bool}
    {gap : Option SeqRange} (accepted : onOutputFrame state (singleFrame seq) = .accept reset after gap) :
    Normal after ∧ after.highestObservedSeq = normalizeSeq (some seq) ∧ after.awaitingFreshSequence = false ∧
      after.parserAppliedSeq = (effectiveState state (normalizeSeq (some seq))).parserAppliedSeq ∧
      (effectiveState state (normalizeSeq (some seq))).highestObservedSeq < normalizeSeq (some seq) ∧
      ∀ n, Covered n after.knownLostRanges ↔
        Covered n (effectiveState state (normalizeSeq (some seq))).knownLostRanges ∨
          Covered n (implicitGap (effectiveState state (normalizeSeq (some seq))) (normalizeSeq (some seq))).toList := by
  obtain ⟨fresh,-⟩ := effectiveState_spec normal (normalizeSeq (some seq))
  generalize named : normalizeSeq (some seq) = n at fresh ⊢
  obtain ⟨folded,parser,highest,lost⟩ := gapFoldedState_spec fresh n
  simp only [onOutputFrame,singleFrame,createAttachSeqState_eq normal,named,Nat.max_self] at accepted
  split at accepted
  · cases accepted
  next overlaps =>
    simp only [OutputFrameDecision.accept.injEq] at accepted
    obtain ⟨-,rfl,-⟩ := accepted
    have ahead : (gapFoldedState (effectiveState state n) n).highestObservedSeq < n := by
      by_contra behind
      have low : n ≤ (gapFoldedState (effectiveState state n) n).highestObservedSeq := Nat.le_of_not_lt behind
      simp [low,behind] at overlaps
    have parserLow : (effectiveState state n).parserAppliedSeq ≤ n := by
      have := folded.applied
      omega
    refine ⟨buildState_normal _,?_,rfl,?_,?_,fun m => ?_⟩
    · simp [buildState,AttachSeqState.toPartial,parser]
      omega
    · simp [buildState,AttachSeqState.toPartial,parser]
    · rw [highest] at ahead
      split at ahead
      next jumps =>
        obtain ⟨gap,found⟩ := Option.isSome_iff_exists.mp jumps
        have := (jumped_of_implicitGap found).1
        omega
      next => exact ahead
    · simp only [buildState,AttachSeqState.toPartial,Option.getD_some]
      rw [normalizeLostRanges_eq folded.separate folded.positive,lost m]

end Freshell.Client
