import Freshell.Client.AttachRuns

/-!
One attach generation: the events that reach the sequence state, the numbers
accepted for rendering and those that a declared exemption jumped over. The
numbers between two accepted ones are accounted for as long as the high-water
mark moves over frames and over gaps that start where it stands.
-/
namespace Freshell.Client
open Freshell.Library.Spans Freshell.Library.Runs

/-- An event of one generation. The server numbers frames one by one. -/
inductive AttachEvent where
  | ready (ready : AttachReady)
  | frame (seq : Int)
  | batch (seqs : List Int)
  | gap (gap : WireRange)
  | parserApplied (seq : Int)
  | unapplied (range : WireRange)

/-- The state, with the numbers accepted so far and the ranges jumped over under an exemption. -/
structure AttachView where
  state : AttachSeqState
  accepted : List Nat
  exempt : List SeqRange

/-- The range that a frame jumps over under one of the two declared exemptions. -/
def exemptedRange (state : AttachSeqState) (seqStart : Nat) : Option SeqRange :=
  let effective := effectiveState (createAttachSeqState state.toPartial) seqStart
  if isExempt effective seqStart then jumpedRange effective seqStart else none

def AttachView.next (view : AttachView) : AttachEvent → AttachView
  | .ready ready => { view with state := onAttachReady view.state ready }
  | .frame seq =>
    match onOutputFrame view.state (singleFrame seq) with
    | .overlap => view
    | .accept _ state _ =>
      ⟨state,view.accepted ++ [normalizeSeq (some seq)],
        view.exempt ++ (exemptedRange view.state (normalizeSeq (some seq))).toList⟩
  | .batch seqs =>
    match onOutputBatchSegments view.state (seqs.map singleFrame) with
    | .overlap _ state => { view with state := state }
    | .accept _ state segments _ =>
      ⟨state,view.accepted ++ segments.map OutputBatchAcceptedSegment.seqStart,
        view.exempt ++ segments.flatMap fun seg => (exemptedRange seg.previousState seg.seqStart).toList⟩
  | .gap gap => { view with state := (onOutputGap view.state gap).state }
  | .parserApplied seq => { view with state := markParserAppliedSeq view.state seq }
  | .unapplied range => { view with state := markOutputRangeUnapplied view.state range }

/-- A generation starts from any state that the client builds. -/
def AttachView.start (input : PartialSeqState) : AttachView := ⟨createAttachSeqState input,[],[]⟩

/-- The frames one by one, as long as each is accepted. -/
def applyFrames : AttachSeqState → List WireFrame → Option AttachSeqState
  | state, [] => some state
  | state, frame :: rest =>
    match onOutputFrame state frame with
    | .overlap => none
    | .accept _ state _ => applyFrames state rest

def BatchIsFrames (state : AttachSeqState) : Prop :=
  ∀ segments, match onOutputBatchSegments state segments, applyFrames state segments with
    | .accept _ after _ _, some final => after = final
    | .overlap _ after, none => after = state
    | _, _ => False

instance decidableCovered (n : Nat) (spans : List Span) : Decidable (Covered n spans) :=
  inferInstanceAs (Decidable (∃ span ∈ spans, span.first ≤ n ∧ n ≤ span.last))

/-- What the client relies on in every state of a generation. -/
structure Consistent (view : AttachView) : Prop where
  ranges : Separate view.state.knownLostRanges
  increasing : view.accepted.Pairwise (· < ·)
  explained : ∀ n, ∀ earlier ∈ view.accepted, ∀ later ∈ view.accepted, earlier < n → n < later →
    n ∈ view.accepted ∨ Covered n view.state.knownLostRanges ∨ Covered n view.exempt
  applied : view.state.parserAppliedSeq ≤ view.state.highestObservedSeq
  batches : BatchIsFrames view.state

/-- A lost number that counts as applied was applied when it became lost, or at
    the start, and counted as applied ever since. -/
def NeverCrosses (start : AttachView) (events : List AttachEvent) : Prop :=
  ∀ n ≤ (run AttachView.next start events).state.parserAppliedSeq,
    Covered n (run AttachView.next start events).state.knownLostRanges →
      ∃ before, before <+: events ∧
        (before = [] ∨ ¬Covered n (run AttachView.next start before).state.knownLostRanges) ∧
        ∀ between, before <+: between → between <+: events →
          n ≤ (run AttachView.next start between).state.parserAppliedSeq

/-- Once a frame is accepted, a gap starts at the next number at the latest, and
    an `attach.ready` moves the high-water mark by no head of its own. -/
def Continues (view : AttachView) : AttachEvent → Prop
  | .gap gap => view.accepted = [] ∨ gap.normalized.first ≤ view.state.highestObservedSeq + 1
  | .ready ready => view.accepted = [] ∨ ready.headSeq ≤ view.state.highestObservedSeq ∨
      (ready.hasReplayWindow = true ∧ (view.state.highestObservedSeq : Int) < ready.replayToSeq)
  | _ => True

theorem batchLoop_spec (initial : AttachSeqState) (segments : List WireFrame) (current : AttachSeqState)
    (freshReset : Bool) (accepted : List OutputBatchAcceptedSegment) (gaps : List SeqRange) :
    match batchLoop initial current freshReset accepted gaps segments, applyFrames current segments with
    | .accept _ after _ _, some final => after = final
    | .overlap _ after, none => after = initial
    | _, _ => False := by
  induction segments generalizing current freshReset accepted gaps with
  | nil => rfl
  | cons segment rest ih =>
    simp only [batchLoop,applyFrames]
    cases onOutputFrame current segment with
    | overlap => rfl
    | accept reset state gap => exact ih _ _ _ _

variable {state : AttachSeqState}

theorem batchIsFrames (normal : Normal state) : BatchIsFrames state := by
  intro segments
  have spec := batchLoop_spec state segments state false [] []
  simpa only [onOutputBatchSegments,createAttachSeqState_eq normal] using spec

/-- Every number from the first accepted one to the high-water mark is accounted for. -/
structure Tracks (view : AttachView) : Prop where
  normal : Normal view.state
  increasing : view.accepted.Pairwise (· < ·)
  below : ∀ n ∈ view.accepted, n ≤ view.state.highestObservedSeq
  settled : view.accepted ≠ [] → view.state.awaitingFreshSequence = false
  explained : ∀ n, ∀ earlier ∈ view.accepted, earlier < n → n ≤ view.state.highestObservedSeq →
    n ∈ view.accepted ∨ Covered n view.state.knownLostRanges ∨ Covered n view.exempt

theorem tracks_start (input : PartialSeqState) : Tracks (AttachView.start input) :=
  ⟨buildState_normal input,List.Pairwise.nil,nofun,fun none => absurd rfl none,nofun⟩

variable {view : AttachView}

theorem Tracks.consistent (tracks : Tracks view) : Consistent view where
  ranges := tracks.normal.separate
  increasing := tracks.increasing
  explained n earlier first later last low high :=
    tracks.explained n earlier first low (Nat.le_trans (Nat.le_of_lt high) (tracks.below later last))
  applied := tracks.normal.applied
  batches := batchIsFrames tracks.normal

theorem Tracks.of_state (tracks : Tracks view) (normal : Normal state)
    (same : view.accepted ≠ [] → state.highestObservedSeq = view.state.highestObservedSeq ∧
      state.awaitingFreshSequence = view.state.awaitingFreshSequence)
    (lost : ∀ n, Covered n view.state.knownLostRanges → Covered n state.knownLostRanges) :
    Tracks { view with state := state } := by
  refine ⟨normal,tracks.increasing,fun n mem => ?_,fun some => ?_,fun n earlier mem low high => ?_⟩
  · rw [(same (List.ne_nil_of_mem mem)).1]
    exact tracks.below n mem
  · rw [(same some).2]
    exact tracks.settled some
  · rw [(same (List.ne_nil_of_mem mem)).1] at high
    exact (tracks.explained n earlier mem low high).imp_right (Or.imp_left (lost n))

theorem Tracks.ready {view : AttachView} (tracks : Tracks view) {ready : AttachReady}
    (continues : Continues view (.ready ready)) : Tracks (view.next (.ready ready)) := by
  obtain ⟨normal,-,lost,settled⟩ := onAttachReady_spec tracks.normal ready
  refine tracks.of_state normal (fun some => ?_) fun n covered => lost ▸ covered
  obtain ⟨awaiting,-,kept⟩ := settled (tracks.settled some)
  exact ⟨kept (continues.resolve_left some),awaiting.trans (tracks.settled some).symm⟩

theorem Tracks.gap {view : AttachView} (tracks : Tracks view) {gap : WireRange}
    (continues : Continues view (.gap gap)) : Tracks (view.next (.gap gap)) := by
  obtain ⟨normal,highest,-,awaiting,lost⟩ := onOutputGap_spec tracks.normal gap
  refine ⟨normal,tracks.increasing,fun n mem => ?_,fun _ => awaiting,fun n earlier mem low high => ?_⟩
  · exact Nat.le_trans (tracks.below n mem) (highest ▸ Nat.le_max_left _ _)
  · have starts := continues.resolve_left (List.ne_nil_of_mem mem)
    by_cases old : n ≤ view.state.highestObservedSeq
    · exact (tracks.explained n earlier mem low old).imp_right (Or.imp_left fun covered => (lost n).mpr (.inl covered))
    · refine .inr (.inl ((lost n).mpr (.inr ?_)))
      simp only [AttachView.next,highest] at high
      omega

/-- An accepted frame is above every accepted one; what it jumps over is lost or exempt. -/
theorem Tracks.frame {state after : AttachSeqState} {accepted : List Nat} {exempt : List SeqRange}
    (tracks : Tracks ⟨state,accepted,exempt⟩) {seq : Int} {reset : Bool} {gap : Option SeqRange}
    (decision : onOutputFrame state (singleFrame seq) = .accept reset after gap) :
    Tracks ⟨after,accepted ++ [normalizeSeq (some seq)],
      exempt ++ (exemptedRange state (normalizeSeq (some seq))).toList⟩ := by
  have old : Normal state := tracks.normal
  obtain ⟨normal,highest,awaiting,-,above,lost⟩ := onOutputFrame_accept old decision
  obtain ⟨-,-,reset⟩ := effectiveState_spec old (normalizeSeq (some seq))
  rw [exemptedRange,createAttachSeqState_eq old]
  generalize normalizeSeq (some seq) = n at *
  -- a fresh reset comes before the first accepted frame
  have same : accepted ≠ [] → effectiveState state n = state := by
    intro some
    have settled : state.awaitingFreshSequence = false := tracks.settled some
    exact reset.resolve_right (by simp [settled])
  have rises : ∀ m ∈ accepted, m < n := by
    intro m mem
    rw [same (List.ne_nil_of_mem mem)] at above
    exact Nat.lt_of_le_of_lt (tracks.below m mem) above
  refine ⟨normal,?_,?_,fun _ => awaiting,fun m earlier mem low high => ?_⟩
  · simpa [List.pairwise_append] using ⟨tracks.increasing,rises⟩
  · intro m mem
    rcases List.mem_append.mp mem with mem | mem
    · exact highest.symm ▸ Nat.le_of_lt (rises m mem)
    · exact Nat.le_of_eq (by rw [highest,List.mem_singleton.mp mem])
  · simp only [highest] at high
    rcases List.mem_append.mp mem with mem | mem
    · rw [same (List.ne_nil_of_mem mem)] at lost above ⊢
      by_cases old : m ≤ state.highestObservedSeq
      · rcases tracks.explained m earlier mem low old with shown | covered | covered
        · exact .inl (List.mem_append_left _ shown)
        · exact .inr (.inl ((lost m).mpr (.inl covered)))
        · exact .inr (.inr (covered_append.mpr (.inl covered)))
      by_cases self : m = n
      · exact .inl (by simp [self])
      have jumps : jumpedRange state n = some ⟨state.highestObservedSeq + 1,n - 1⟩ :=
        jumpedRange_eq_some.mpr ⟨by omega,rfl⟩
      have inside : Covered m (some (Span.mk (state.highestObservedSeq + 1) (n - 1))).toList := by
        rw [Option.toList_some,covered_cons]
        exact .inl ⟨Nat.lt_of_not_le old,Nat.le_sub_one_of_lt (Nat.lt_of_le_of_ne high self)⟩
      by_cases exempted : isExempt state n = true
      · refine .inr (.inr (covered_append.mpr (.inr ?_)))
        rwa [if_pos exempted,jumps]
      · refine .inr (.inl ((lost m).mpr (.inr ?_)))
        rwa [implicitGap,if_neg exempted,jumps]
    · have := List.mem_singleton.mp mem
      omega

variable {initial : AttachSeqState} (seqs : List Int) {after : AttachSeqState}

theorem batchLoop_tracks {accepted : List Nat} {exempt : List SeqRange} {current : AttachSeqState}
    {freshReset reset : Bool} {before segments : List OutputBatchAcceptedSegment} {earlier gaps : List SeqRange}
    (tracks : Tracks ⟨current,accepted ++ before.map OutputBatchAcceptedSegment.seqStart,
      exempt ++ before.flatMap fun seg => (exemptedRange seg.previousState seg.seqStart).toList⟩)
    (decision : batchLoop initial current freshReset before earlier (seqs.map singleFrame) =
      .accept reset after segments gaps) : Tracks ⟨after,accepted ++ segments.map OutputBatchAcceptedSegment.seqStart,
      exempt ++ segments.flatMap fun seg => (exemptedRange seg.previousState seg.seqStart).toList⟩ := by
  induction seqs generalizing current freshReset before earlier with
  | nil =>
    simp only [List.map_nil,batchLoop,OutputBatchDecision.accept.injEq] at decision
    obtain ⟨-,rfl,rfl,-⟩ := decision
    exact tracks
  | cons seq rest ih =>
    simp only [List.map_cons,batchLoop] at decision
    cases one : onOutputFrame current (singleFrame seq) with
    | overlap => rw [one] at decision; cases decision
    | accept reset state gap =>
      rw [one] at decision
      refine ih ?_ decision
      simpa [List.append_assoc,singleFrame] using tracks.frame one

theorem onOutputBatchSegments_overlap (normal : Normal state) {segments : List WireFrame} {rejected : WireFrame}
    (decision : onOutputBatchSegments state segments = .overlap rejected after) : after = state := by
  have spec := batchIsFrames normal segments
  rw [decision] at spec
  cases applied : applyFrames state segments with
  | none => simpa only [applied] using spec
  | some final => simp only [applied] at spec

theorem Tracks.next {event : AttachEvent} (tracks : Tracks view) (continues : Continues view event) :
    Tracks (view.next event) := by
  cases event with
  | ready ready => exact tracks.ready continues
  | gap gap => exact tracks.gap continues
  | frame seq =>
    simp only [AttachView.next]
    cases decision : onOutputFrame view.state (singleFrame seq) with
    | overlap => exact tracks
    | accept reset after gap => exact tracks.frame decision
  | batch seqs =>
    simp only [AttachView.next]
    cases decision : onOutputBatchSegments view.state (seqs.map singleFrame) with
    | overlap rejected state =>
      obtain rfl := onOutputBatchSegments_overlap tracks.normal decision
      exact tracks
    | accept reset after segments gaps =>
      rw [onOutputBatchSegments,createAttachSeqState_eq tracks.normal] at decision
      refine batchLoop_tracks seqs ?_ decision
      simpa using tracks
  | parserApplied seq =>
    obtain ⟨normal,highest,awaiting,lost,-⟩ := markParserAppliedSeq_spec tracks.normal seq
    exact tracks.of_state normal (fun _ => ⟨highest,awaiting⟩) fun n covered => lost ▸ covered
  | unapplied range =>
    obtain ⟨normal,highest,-,awaiting,lost⟩ := markOutputRangeUnapplied_spec tracks.normal range
    exact tracks.of_state normal (fun _ => ⟨highest,awaiting⟩) lost

theorem onOutputFrame_low {top : Nat} {seq : Int} {reset : Bool} {gap : Option SeqRange}
    (low : Normal state ∧ state.parserAppliedSeq ≤ top)
    (decision : onOutputFrame state (singleFrame seq) = .accept reset after gap) :
    Normal after ∧ after.parserAppliedSeq ≤ top := by
  obtain ⟨normal,-,-,parser,-⟩ := onOutputFrame_accept low.1 decision
  obtain ⟨-,lowers,-⟩ := effectiveState_spec low.1 (normalizeSeq (some seq))
  refine ⟨normal,?_⟩
  have := low.2
  omega

theorem batchLoop_low {top : Nat} {current : AttachSeqState} {freshReset reset : Bool}
    {before segments : List OutputBatchAcceptedSegment} {earlier gaps : List SeqRange}
    (low : Normal current ∧ current.parserAppliedSeq ≤ top)
    (decision : batchLoop initial current freshReset before earlier (seqs.map singleFrame) =
      .accept reset after segments gaps) : Normal after ∧ after.parserAppliedSeq ≤ top := by
  induction seqs generalizing current freshReset before earlier with
  | nil =>
    simp only [List.map_nil,batchLoop,OutputBatchDecision.accept.injEq] at decision
    obtain ⟨-,rfl,-⟩ := decision
    exact low
  | cons seq rest ih =>
    simp only [List.map_cons,batchLoop] at decision
    cases one : onOutputFrame current (singleFrame seq) with
    | overlap => rw [one] at decision; cases decision
    | accept reset state gap =>
      rw [one] at decision
      exact ih (onOutputFrame_low low one) decision

theorem next_rises (normal : Normal view.state) (event : AttachEvent) :
    Normal (view.next event).state ∧ ∀ n, view.state.parserAppliedSeq < n →
      n ≤ (view.next event).state.parserAppliedSeq → ¬Covered n (view.next event).state.knownLostRanges := by
  have stays : ∀ {state : AttachSeqState}, Normal state ∧ state.parserAppliedSeq ≤ view.state.parserAppliedSeq →
      Normal state ∧ ∀ n, view.state.parserAppliedSeq < n → n ≤ state.parserAppliedSeq →
        ¬Covered n state.knownLostRanges := by
    intro state low
    refine ⟨low.1,fun n more less => ?_⟩
    have := low.2
    omega
  cases event with
  | ready ready =>
    obtain ⟨normal,lowers,-⟩ := onAttachReady_spec normal ready
    exact stays ⟨normal,lowers⟩
  | gap gap =>
    obtain ⟨normal,-,same,-⟩ := onOutputGap_spec normal gap
    exact stays ⟨normal,Nat.le_of_eq same⟩
  | frame seq =>
    simp only [AttachView.next]
    cases decision : onOutputFrame view.state (singleFrame seq) with
    | overlap => exact stays ⟨normal,Nat.le_refl _⟩
    | accept reset after gap => exact stays (onOutputFrame_low ⟨normal,Nat.le_refl _⟩ decision)
  | batch seqs =>
    simp only [AttachView.next]
    cases decision : onOutputBatchSegments view.state (seqs.map singleFrame) with
    | overlap rejected state =>
      obtain rfl := onOutputBatchSegments_overlap normal decision
      exact stays ⟨normal,Nat.le_refl _⟩
    | accept reset after segments gaps =>
      rw [onOutputBatchSegments,createAttachSeqState_eq normal] at decision
      exact stays (batchLoop_low seqs ⟨normal,Nat.le_refl _⟩ decision)
  | parserApplied seq =>
    obtain ⟨normal,-,-,lost,clear⟩ := markParserAppliedSeq_spec normal seq
    exact ⟨normal,fun n more less => lost.symm ▸ clear n more less⟩
  | unapplied range =>
    obtain ⟨normal,-,same,-⟩ := markOutputRangeUnapplied_spec normal range
    exact stays ⟨normal,Nat.le_of_eq same⟩

theorem normal_run {start : AttachView} (normal : Normal start.state) (events : List AttachEvent) :
    Normal (run AttachView.next start events).state := by
  induction events generalizing start with
  | nil => exact normal
  | cons event rest ih => exact ih (next_rises normal event).1

/-- By induction on the last event: a number lost and applied was so before it, or
    was applied before it and is lost by it. -/
theorem neverCrosses {start : AttachView} (normal : Normal start.state) (events : List AttachEvent) :
    NeverCrosses start events := by
  induction events using List.reverseRecOn with
  | nil =>
    intro n applied _
    refine ⟨[],List.prefix_rfl,.inl rfl,fun between _ within => ?_⟩
    rw [List.prefix_nil.mp within]
    exact applied
  | append_singleton events event ih =>
    intro n applied lost
    have before : n ≤ (run AttachView.next start events).state.parserAppliedSeq := by
      by_contra below
      rw [run_append] at applied lost
      exact (next_rises (normal_run normal events) event).2 n (Nat.lt_of_not_le below) applied lost
    have last : ∀ between, between <+: events ++ [event] → between <+: events ∨ between = events ++ [event] :=
      fun between within => (List.prefix_concat_iff.mp within).symm
    by_cases already : Covered n (run AttachView.next start events).state.knownLostRanges
    · obtain ⟨first,within,lostAt,since⟩ := ih n before already
      refine ⟨first,within.trans (List.prefix_append _ _),lostAt,fun between after within => ?_⟩
      rcases last between within with within | rfl
      · exact since between after within
      · exact applied
    · refine ⟨events,List.prefix_append _ _,.inr already,fun between after within => ?_⟩
      rcases last between within with within | rfl
      · rw [List.IsPrefix.eq_of_length_le within after.length_le]
        exact before
      · exact applied

/-- In a generation whose gaps and readies continue the stream, nothing is shown
    twice, nothing is skipped silently, and no acknowledgement crosses a loss. -/
theorem attachSequence_consistent (input : PartialSeqState) (events : List AttachEvent)
    (continues : Along AttachView.next Continues (AttachView.start input) events) :
    Consistent (run AttachView.next (AttachView.start input) events) ∧ NeverCrosses (AttachView.start input) events :=
  ⟨(invariant_run (fun _ _ => Tracks.next) (tracks_start input) continues).consistent,
    neverCrosses (buildState_normal input) events⟩

def freshInput : PartialSeqState := ⟨some 0,none,none,false,none,none,none,none⟩

theorem attachSequence_consistent_frames :
    Along AttachView.next Continues (AttachView.start freshInput) [.frame 1,.gap ⟨2,3⟩,.frame 4,.parserApplied 4] ∧
      Consistent (run AttachView.next (AttachView.start freshInput)
        [.frame 1,.gap ⟨2,3⟩,.frame 4,.parserApplied 4]) ∧
      NeverCrosses (AttachView.start freshInput) [.frame 1,.gap ⟨2,3⟩,.frame 4,.parserApplied 4] := by
  have continues : Along AttachView.next Continues (AttachView.start freshInput)
      [.frame 1,.gap ⟨2,3⟩,.frame 4,.parserApplied 4] := ⟨trivial,.inr (by decide),trivial,trivial,trivial⟩
  exact ⟨continues,attachSequence_consistent freshInput _ continues⟩

/-- A gap that starts above the next number moves the high-water mark over
    numbers that it does not record as lost: here over 2 and 3. -/
theorem gap_skipsSilently : ¬∀ (input : PartialSeqState) (events : List AttachEvent),
    Consistent (run AttachView.next (AttachView.start input) events) := by
  intro always
  have explained := (always freshInput [.frame 1,.gap ⟨4,5⟩,.frame 6]).explained 2 1 (by decide) 6 (by decide)
    (by decide) (by decide)
  revert explained
  decide

end Freshell.Client
