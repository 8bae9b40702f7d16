import Freshell.Terminal.Attach

/-!
The page reads of a paced session: pages of the credited replay, the drain
toward the head that it found, and the handoff of what was staged meanwhile.
A hold either advances the cursor, reports what retention took, or completes:
it declares what it does not send, clears the deferral and lets a staged exit
follow.
-/
namespace Freshell.Terminal
open Freshell.Library.Spans
set_option linter.unusedSimpArgs false

inductive PacedPage where
  | frames (messages : List ServerMessage) (endSeq : Nat)
  | done
  | expired (lostFrom lostTo resumeFrom headSeq oldestRetainedSeq : Nat)
  | gone

def nextReplayPage (config : Config) (s : TerminalShared) (conn : ConnId) (fromSeq target maxSerializedBytes : Nat) :
    PacedPage :=
  match s.subscribers conn with
  | none => .gone
  | some sub =>
    if !sub.pacedTerminalReplayV1 then .gone
    else if target ≤ fromSeq then .done
    else if fromSeq + 1 < s.oldestRetainedSeq then
      .expired (fromSeq + 1) (s.oldestRetainedSeq - 1) (s.oldestRetainedSeq - 1) s.headSeq s.oldestRetainedSeq
    else
      match pacedPageBuild config s sub fromSeq target maxSerializedBytes .replay with
      | some build => .frames build.messages build.endSeq
      | none => .done

inductive PacedGapExitReason where
  | retentionOverrun | handoffBoundaryResidual
deriving DecidableEq, Repr

inductive PacedTailCompletion where
  | caughtUp
  | completed (endSeq : Nat)
  | targetCovered (endSeq : Nat)
  | handoff (endSeq : Nat)
  | expired (lostFrom lostTo resumeFrom headSeq oldestRetainedSeq : Nat)
  | gapCompleted (lostFrom lostTo endSeq : Nat) (reason : PacedGapExitReason)
  | gone
deriving DecidableEq, Repr

def Subscriber.coveredAt (sub : Subscriber) (boundary : Nat) : Subscriber :=
  { sub with pacedHandoffBoundary := some boundary }

/-- The cleared deferral; a completing handoff drops the boundary with it. -/
def Subscriber.clearedTo (sub : Subscriber) (boundary : Option Nat) : Subscriber :=
  { sub with pacedDeferred := false, pacedHandoffBoundary := boundary }

/-- What one hold of the terminal lock leaves, sends and answers. -/
structure TailHold where
  shared : TerminalShared
  sent : List ServerMessage
  verdict : PacedTailCompletion

def completeHold (s : TerminalShared) (conn : ConnId) (cleared : Subscriber) (sent : List ServerMessage)
    (verdict : PacedTailCompletion) : TailHold :=
  let delivered := deliverStagedPacedExit (s.setSubscriber conn (some cleared)) conn
  ⟨delivered.1,sent ++ delivered.2,verdict⟩

def completePacedTail (config : Config) (s : TerminalShared) (conn : ConnId) (expectedAttachRequestId : String)
    (fromSeq toSeq maxSerializedBytes : Nat) : TailHold :=
  match s.subscribers conn with
  | none => ⟨s,[],.gone⟩
  | some sub =>
    let cleared := sub.clearedTo sub.pacedHandoffBoundary
    let covered := s.setSubscriber conn (some (sub.coveredAt s.headSeq))
    if !sub.pacedTerminalReplayV1 then ⟨s,[],.gone⟩
    else if sub.attachRequestId ≠ some expectedAttachRequestId then ⟨s,[],.gone⟩
    else if s.headSeq ≤ fromSeq then completeHold s conn cleared [] .caughtUp
    else if fromSeq + 1 < s.oldestRetainedSeq then
      ⟨s,[],.expired (fromSeq + 1) (s.oldestRetainedSeq - 1) (s.oldestRetainedSeq - 1) s.headSeq s.oldestRetainedSeq⟩
    else
      match pacedPageBuild config s sub fromSeq (min s.headSeq toSeq) maxSerializedBytes .live with
      | none =>
        if s.headSeq ≤ toSeq then completeHold s conn cleared [] (.completed fromSeq)
        else ⟨covered,[],.targetCovered fromSeq⟩
      | some build =>
        if s.headSeq ≤ build.endSeq then completeHold s conn cleared build.messages (.completed build.endSeq)
        else if toSeq ≤ build.endSeq then ⟨covered,build.messages,.targetCovered build.endSeq⟩
        else ⟨s,build.messages,.handoff build.endSeq⟩

def TerminalShared.back (s : TerminalShared) (default : Nat) : Nat × Nat :=
  (s.replay.getLast?.map fun f => (f.output.seqStart,f.output.seqEnd)).getD (default,default)

def gapFrom (s : TerminalShared) (sub : Subscriber) (fromSeq toSeq headSeq : Nat) (reason : TerminalOutputGapReason) :
    ServerMessage :=
  .terminalOutputGap {
    terminalId := s.terminalId, streamId := s.streamId, attachRequestId := sub.attachRequestId
    fromSeq, toSeq, reason, headSeq := some headSeq, oldestRetainedSeq := some s.oldestRetainedSeq }

/-- The finish at the fixed boundary: what was staged past it is declared. -/
def completeAtFixedBoundary (s : TerminalShared) (conn : ConnId) (sub : Subscriber) (boundary : Nat) (sent : List ServerMessage)
    (endSeq : Nat) : TailHold :=
  let back := s.back boundary
  let cleared := sub.clearedTo none
  if boundary < back.1 then
    completeHold s conn cleared (sent ++ [gapFrom s sub (boundary + 1) back.2 back.2 .handoffBoundaryReached])
      (.gapCompleted (boundary + 1) back.2 endSeq .handoffBoundaryResidual)
  else completeHold s conn cleared sent (.completed endSeq)

/-- The finish when retention overran the cursor: the lost interval is
    declared, then the retained one. -/
def completeAtRingFront (s : TerminalShared) (conn : ConnId) (sub : Subscriber) (fromSeq : Nat) : TailHold :=
  let backSeq := (s.back fromSeq).2
  let oldest := s.oldestRetainedSeq
  let lost := gapFrom s sub (fromSeq + 1) (oldest - 1) backSeq .replayWindowExceeded
  let kept := if oldest ≤ backSeq then [gapFrom s sub oldest backSeq backSeq .handoffBoundaryReached] else []
  completeHold s conn (sub.clearedTo none) (lost :: kept)
    (.gapCompleted (fromSeq + 1) (oldest - 1) fromSeq .retentionOverrun)

def handoffPacedTail (config : Config) (s : TerminalShared) (conn : ConnId) (expectedAttachRequestId : String)
    (fromSeq maxSerializedBytes : Nat) : TailHold :=
  match s.subscribers conn with
  | none => ⟨s,[],.gone⟩
  | some sub =>
    if !sub.pacedTerminalReplayV1 then ⟨s,[],.gone⟩
    else if !sub.pacedDeferred then ⟨s,[],.gone⟩
    else if sub.attachRequestId ≠ some expectedAttachRequestId then ⟨s,[],.gone⟩
    else
      match sub.pacedHandoffBoundary with
      | none => ⟨s,[],.gone⟩
      | some boundary =>
        if boundary ≤ fromSeq then
          if boundary < (s.back boundary).1 then completeAtFixedBoundary s conn sub boundary [] fromSeq
          else completeHold s conn (sub.clearedTo none) [] .caughtUp
        else if fromSeq + 1 < s.oldestRetainedSeq then completeAtRingFront s conn sub fromSeq
        else
          match pacedPageBuild config s sub fromSeq boundary maxSerializedBytes .live with
          | some build =>
            if boundary ≤ build.endSeq then completeAtFixedBoundary s conn sub boundary build.messages build.endSeq
            else ⟨s,build.messages,.handoff build.endSeq⟩
          | none => completeAtFixedBoundary s conn sub boundary [] fromSeq

/-- The subscriber answers to the session of the attach request. -/
def Subscriber.Serves (sub : Subscriber) (attachRequestId : String) : Prop :=
  sub.pacedTerminalReplayV1 = true ∧ sub.attachRequestId = some attachRequestId

/-- What a completing hold leaves of the subscriber. -/
def Subscriber.afterHold (cleared : Subscriber) : Option Subscriber :=
  if cleared.pacedExitPending.isSome then none else some cleared

/-- The exit that a completing hold sends last, if one is staged. -/
def stagedExit (s : TerminalShared) (cleared : Subscriber) : List ServerMessage :=
  (cleared.pacedExitPending.map (exitMessage s)).toList

theorem completeHold_eq (s : TerminalShared) (conn : ConnId) (cleared : Subscriber) (sent : List ServerMessage)
    (verdict : PacedTailCompletion) :
    completeHold s conn cleared sent verdict =
      ⟨s.setSubscriber conn cleared.afterHold,sent ++ stagedExit s cleared,verdict⟩ := by
  unfold completeHold deliverStagedPacedExit Subscriber.afterHold stagedExit
  cases pending : cleared.pacedExitPending <;> simp [pending,exitMessage,TerminalShared.setSubscriber]

/-- A hold touches the subscriber of its connection alone, and stages no exit. -/
def TailHold.Keeps (s : TerminalShared) (conn : ConnId) (hold : TailHold) : Prop :=
  ∃ sub', hold.shared = s.setSubscriber conn sub' ∧ ∀ after, sub' = some after →
    ∃ before, s.subscribers conn = some before ∧ after.pacedExitPending = before.pacedExitPending

theorem setSubscriber_self (s : TerminalShared) (conn : ConnId) : s.setSubscriber conn (s.subscribers conn) = s := by
  simp [TerminalShared.setSubscriber]

theorem keeps_same (s : TerminalShared) (conn : ConnId) (sent : List ServerMessage) (verdict : PacedTailCompletion) :
    TailHold.Keeps s conn ⟨s,sent,verdict⟩ :=
  ⟨s.subscribers conn,(setSubscriber_self s conn).symm,fun after present => ⟨after,present,rfl⟩⟩

variable {s : TerminalShared} {conn : ConnId} {sub : Subscriber}

theorem keeps_completeHold {cleared : Subscriber} (present : s.subscribers conn = some sub)
    (pending : cleared.pacedExitPending = sub.pacedExitPending) (sent : List ServerMessage)
    (verdict : PacedTailCompletion) : TailHold.Keeps s conn (completeHold s conn cleared sent verdict) := by
  rw [completeHold_eq]
  refine ⟨_,rfl,?_⟩
  intro after there
  unfold Subscriber.afterHold at there
  split at there
  · cases there
  · obtain rfl := Option.some.inj there
    exact ⟨sub,present,pending⟩

theorem completePacedTail_keeps (config : Config) (s : TerminalShared) (conn : ConnId) (arid : String)
    (fromSeq toSeq budget : Nat) : (completePacedTail config s conn arid fromSeq toSeq budget).Keeps s conn := by
  unfold completePacedTail
  split
  · exact keeps_same ..
  · rename_i sub present
    have cleared := fun sent verdict => keeps_completeHold present
      (show (sub.clearedTo sub.pacedHandoffBoundary).pacedExitPending = _ from rfl) sent verdict
    have covered : ∀ sent verdict,
        TailHold.Keeps s conn ⟨s.setSubscriber conn (some (sub.coveredAt s.headSeq)),sent,verdict⟩ :=
      fun _ _ => ⟨_,rfl,fun after there => ⟨sub,present,by rw [← Option.some.inj there]; rfl⟩⟩
    repeat' split
    all_goals first | exact keeps_same .. | exact cleared _ _ | exact covered _ _

theorem handoffPacedTail_keeps (config : Config) (s : TerminalShared) (conn : ConnId) (arid : String)
    (fromSeq budget : Nat) : (handoffPacedTail config s conn arid fromSeq budget).Keeps s conn := by
  unfold handoffPacedTail
  split
  · exact keeps_same ..
  · rename_i sub present
    have cleared := fun sent verdict => keeps_completeHold present
      (show (sub.clearedTo none).pacedExitPending = _ from rfl) sent verdict
    have boundary : ∀ b sent endSeq, (completeAtFixedBoundary s conn sub b sent endSeq).Keeps s conn := by
      intro b sent endSeq
      dsimp only [completeAtFixedBoundary]
      split
      · exact cleared _ _
      · exact cleared _ _
    have front : (completeAtRingFront s conn sub fromSeq).Keeps s conn := cleared _ _
    repeat' split
    all_goals first | exact keeps_same .. | exact front | exact cleared _ _ | exact boundary _ _ _

def PacedTailCompletion.completes : PacedTailCompletion → Bool
  | .caughtUp | .completed _ | .gapCompleted .. => true
  | _ => false

/-- What a hold of the lock does for the session that the subscriber serves,
    from its cursor: it advances the cursor to `endSeq` and keeps the deferral,
    it finds the cursor overrun and does nothing, or it accounts for everything
    up to the head and clears the deferral. In the handoff the boundary is fixed. -/
inductive TailOutcome (s : TerminalShared) (conn : ConnId) (sub : Subscriber) (fixed : Option Nat) (fromSeq : Nat) :
    TailHold → Prop
  | advanced (sent : List ServerMessage) (endSeq : Nat) (tiles : Tiles fromSeq (spans sent) endSeq)
      (progress : fromSeq < endSeq) (within : endSeq < s.headSeq) (bounded : ∀ boundary, fixed = some boundary → endSeq ≤ boundary)
      (output : ∀ message ∈ sent, message.outputSpan.isSome) :
      TailOutcome s conn sub fixed fromSeq ⟨s,sent,.handoff endSeq⟩
  | covered (sent : List ServerMessage) (endSeq : Nat) (draining : fixed = none) (tiles : Tiles fromSeq (spans sent) endSeq)
      (within : endSeq < s.headSeq) (output : ∀ message ∈ sent, message.outputSpan.isSome) :
      TailOutcome s conn sub fixed fromSeq
        ⟨s.setSubscriber conn (some (sub.coveredAt s.headSeq)),sent,.targetCovered endSeq⟩
  | overrun (draining : fixed = none) (lost : fromSeq + 1 < s.oldestRetainedSeq) (below : fromSeq < s.headSeq) :
      TailOutcome s conn sub fixed fromSeq
        ⟨s,[],.expired (fromSeq + 1) (s.oldestRetainedSeq - 1) (s.oldestRetainedSeq - 1) s.headSeq s.oldestRetainedSeq⟩
  | completed (sent : List ServerMessage) (verdict : PacedTailCompletion) (boundary : Option Nat)
      (tiles : Tiles fromSeq (spans sent) (max fromSeq s.headSeq)) (noExit : ∀ message ∈ sent, message.isExit = false)
      (completes : verdict.completes = true) :
      TailOutcome s conn sub fixed fromSeq
        ⟨s.setSubscriber conn (sub.clearedTo boundary).afterHold,sent ++ stagedExit s sub,verdict⟩

theorem isExit_of_output {message : ServerMessage} (output : message.outputSpan.isSome) : message.isExit = false := by
  cases message <;> first | rfl | cases output

variable {config : Config} {arid : String} {fromSeq budget : Nat}

theorem completePacedTail_refused {toSeq : Nat} (other : ∀ sub, s.subscribers conn = some sub → ¬ sub.Serves arid) :
    completePacedTail config s conn arid fromSeq toSeq budget = ⟨s,[],.gone⟩ := by
  unfold completePacedTail
  split
  · rfl
  · rename_i sub present
    have apart := other sub present
    split
    · rfl
    · rename_i paced
      rw [if_pos]
      intro same
      exact apart ⟨by simpa using paced,same⟩

theorem handoffPacedTail_refused (other : ∀ sub, s.subscribers conn = some sub → ¬ sub.Serves arid) :
    handoffPacedTail config s conn arid fromSeq budget = ⟨s,[],.gone⟩ := by
  unfold handoffPacedTail
  split
  · rfl
  · rename_i sub present
    have apart := other sub present
    split
    · rfl
    · rename_i paced
      split
      · rfl
      · rw [if_pos]
        intro same
        exact apart ⟨by simpa using paced,same⟩

variable {fixed : Option Nat}

theorem tailOutcome_completed {sent : List ServerMessage} {verdict : PacedTailCompletion} {boundary : Option Nat}
    (tiles : Tiles fromSeq (spans sent) (max fromSeq s.headSeq)) (noExit : ∀ message ∈ sent, message.isExit = false)
    (completes : verdict.completes = true) : TailOutcome s conn sub fixed fromSeq
      (completeHold s conn (sub.clearedTo boundary) sent verdict) := by
  rw [completeHold_eq]
  exact TailOutcome.completed sent verdict boundary tiles noExit completes

theorem completePacedTail_spec {toSeq : Nat} (sound : s.Sound) (present : s.subscribers conn = some sub)
    (serves : sub.Serves arid) :
    TailOutcome s conn sub none fromSeq (completePacedTail config s conn arid fromSeq toSeq budget) := by
  unfold completePacedTail
  simp only [present]
  rw [if_neg (by simp [serves.1]),if_neg (by simp [serves.2])]
  split
  · rename_i above
    exact tailOutcome_completed (by simp [above]) (by simp) rfl
  · rename_i below
    split
    · rename_i lost
      exact TailOutcome.overrun rfl lost (Nat.lt_of_not_le below)
    · rename_i kept
      have retained : s.oldestRetainedSeq ≤ fromSeq + 1 := by omega
      split
      · split
        · -- the window up to the target is not empty, so the read cannot miss
          rename_i missing reached
          obtain ⟨build,built⟩ := page_isSome config sub fromSeq (min s.headSeq toSeq) budget .live sound retained (Nat.lt_of_not_le below) (by omega)
          rw [built] at missing
          cases missing
        · exact TailOutcome.covered [] fromSeq rfl rfl (Nat.lt_of_not_le below) (by simp)
      · rename_i build built
        obtain ⟨tiles,progress,-,within⟩ := tiles_page sound retained (by omega) built
        have output := page_output built
        split
        · rename_i reached
          have top : max fromSeq s.headSeq = build.endSeq := by omega
          refine tailOutcome_completed ?_ (fun message member => isExit_of_output (output message member)) rfl
          rw [top]
          exact tiles
        · split
          · exact TailOutcome.covered build.messages build.endSeq rfl tiles (by omega) output
          · exact TailOutcome.advanced build.messages build.endSeq tiles progress (by omega) (by simp) output

theorem back_of_sound (sound : s.Sound) (output : s.headSeq ≠ 0) (default : Nat) :
    s.back default = (s.headSeq,s.headSeq) := by
  obtain ⟨before,f,ring⟩ : ∃ before f, s.replay = before ++ [f] := by
    obtain empty | ⟨before,f,ring⟩ := List.eq_nil_or_concat s.replay
    · exact absurd empty (sound.nonempty output)
    · exact ⟨before,f,ring.trans List.concat_eq_append⟩
  have ends : f.span.last = s.headSeq := tiles_last sound.tiles (by rw [ring]; simp)
  have one : f.output.seqEnd = f.output.seqStart := sound.single f (by rw [ring]; simp)
  have last : f.span.last = f.output.seqEnd := rfl
  have back : s.back default = (f.output.seqStart,f.output.seqEnd) := by simp [TerminalShared.back,ring]
  rw [back,← one,← last,ends]

theorem tailOutcome_fixedBoundary {boundary endSeq : Nat} {sent : List ServerMessage} (sound : s.Sound)
    (above : fromSeq ≤ boundary) (within : boundary ≤ s.headSeq) (tiles : Tiles fromSeq (spans sent) boundary)
    (noExit : ∀ message ∈ sent, message.isExit = false) :
    TailOutcome s conn sub fixed fromSeq (completeAtFixedBoundary s conn sub boundary sent endSeq) := by
  have top : max fromSeq s.headSeq = s.headSeq := by omega
  unfold completeAtFixedBoundary
  by_cases output : s.headSeq = 0
  · have low : boundary = 0 := by omega
    have first : (s.back boundary).1 ≤ boundary := by
      cases ring : s.replay.getLast? with
      | none => simp [TerminalShared.back,ring]
      | some f =>
        have member := List.mem_of_getLast? ring
        have bounds := tiles_within sound.tiles f.span (List.mem_map_of_mem member)
        omega
    simp only
    rw [if_neg (by omega)]
    refine tailOutcome_completed ?_ noExit rfl
    rw [top,show s.headSeq = boundary by omega]
    exact tiles
  · rw [back_of_sound sound output]
    simp only
    split
    · rename_i residual
      refine tailOutcome_completed ?_ ?_ rfl
      · rw [top,spans_append]
        exact tiles_concat tiles (tiles_singleton rfl rfl residual)
      · intro message member
        obtain member | member := List.mem_append.mp member
        · exact noExit message member
        · obtain rfl := List.mem_singleton.mp member
          rfl
    · rename_i reached
      refine tailOutcome_completed ?_ noExit rfl
      rw [top,show s.headSeq = boundary by omega]
      exact tiles

theorem tailOutcome_ringFront (sound : s.Sound) (below : fromSeq < s.headSeq)
    (lost : fromSeq + 1 < s.oldestRetainedSeq) :
    TailOutcome s conn sub fixed fromSeq (completeAtRingFront s conn sub fromSeq) := by
  have output : s.headSeq ≠ 0 := by omega
  have front := sound.oldest_le_head output
  unfold completeAtRingFront
  rw [back_of_sound sound output]
  simp only
  rw [if_pos front]
  refine tailOutcome_completed ?_ ?_ rfl
  · rw [show max fromSeq s.headSeq = s.headSeq by omega]
    exact ⟨rfl,by show fromSeq + 1 ≤ s.oldestRetainedSeq - 1; omega,
      by show s.oldestRetainedSeq = s.oldestRetainedSeq - 1 + 1; omega,front,rfl⟩
  · intro message member
    simp only [List.mem_cons,List.not_mem_nil,or_false] at member
    obtain rfl | rfl := member <;> rfl

theorem handoffPacedTail_spec {boundary : Nat} (sound : s.Sound) (present : s.subscribers conn = some sub)
    (serves : sub.Serves arid) (deferred : sub.pacedDeferred = true) (fixed : sub.pacedHandoffBoundary = some boundary)
    (above : fromSeq ≤ boundary) (within : boundary ≤ s.headSeq) :
    TailOutcome s conn sub (some boundary) fromSeq (handoffPacedTail config s conn arid fromSeq budget) := by
  unfold handoffPacedTail
  simp only [present]
  rw [if_neg (by simp [serves.1]),if_neg (by simp [deferred]),if_neg (by simp [serves.2]),fixed]
  simp only
  split
  · rename_i reached
    obtain rfl : fromSeq = boundary := by omega
    split
    · exact tailOutcome_fixedBoundary sound above within rfl (by simp)
    · rename_i quiet
      refine tailOutcome_completed ?_ (by simp) rfl
      by_cases output : s.headSeq = 0
      · exact show max fromSeq s.headSeq = fromSeq by omega
      · rw [back_of_sound sound output] at quiet
        exact show max fromSeq s.headSeq = fromSeq by simp only at quiet; omega
  · rename_i open_
    split
    · rename_i lost
      exact tailOutcome_ringFront sound (by omega) lost
    · split
      · rename_i build built
        obtain ⟨tiles,progress,bounded,reaches⟩ := tiles_page sound (by omega) (by omega) built
        have output := page_output built
        split
        · have ends : build.endSeq = boundary := by omega
          rw [ends] at tiles
          exact tailOutcome_fixedBoundary sound above within tiles
            fun message member => isExit_of_output (output message member)
        · refine TailOutcome.advanced build.messages build.endSeq tiles progress (by omega) ?_ output
          rintro b ⟨⟩
          exact bounded
      · rename_i missing
        obtain ⟨build,built⟩ := page_isSome config sub fromSeq boundary budget .live sound (by omega) (by omega) (by omega)
        rw [built] at missing
        cases missing

theorem nextReplayPage_spec (config : Config) (fromSeq : Nat) {target : Nat} (budget : Nat) (sound : s.Sound)
    (present : s.subscribers conn = some sub) (paced : sub.pacedTerminalReplayV1 = true)
    (reachable : target ≤ s.headSeq) : (target ≤ fromSeq ∧ nextReplayPage config s conn fromSeq target budget = .done) ∨
      (fromSeq < target ∧ fromSeq + 1 < s.oldestRetainedSeq ∧ nextReplayPage config s conn fromSeq target budget =
        .expired (fromSeq + 1) (s.oldestRetainedSeq - 1) (s.oldestRetainedSeq - 1) s.headSeq s.oldestRetainedSeq) ∨
      (∃ messages endSeq, nextReplayPage config s conn fromSeq target budget = .frames messages endSeq ∧
        Tiles fromSeq (spans messages) endSeq ∧ fromSeq < endSeq ∧ endSeq ≤ target ∧
        ∀ message ∈ messages, message.outputSpan.isSome) := by
  unfold nextReplayPage
  simp only [present]
  rw [if_neg (by simp [paced])]
  by_cases reached : target ≤ fromSeq
  · exact .inl ⟨reached,if_pos reached⟩
  · rw [if_neg reached]
    by_cases lost : fromSeq + 1 < s.oldestRetainedSeq
    · exact .inr (.inl ⟨by omega,lost,if_pos lost⟩)
    · rw [if_neg lost]
      obtain ⟨build,built⟩ := page_isSome config sub fromSeq target budget .replay sound (by omega) (by omega) (by omega)
      obtain ⟨tiles,progress,bounded,-⟩ := tiles_page sound (by omega) (by omega) built
      rw [built]
      exact .inr (.inr ⟨build.messages,build.endSeq,rfl,tiles,progress,bounded,page_output built⟩)

end Freshell.Terminal
