import Freshell.Terminal.Ring
import Mathlib.Data.List.TakeWhile

/-!
The attach of a connection to a terminal: the inline replay, and the paced
handoff that arms a deferral and selects a first page. The natural exit of the
terminal is sent at once to the subscribers that are not deferred and staged on
the others.
-/
namespace Freshell.Terminal
open Freshell.Library.Spans
set_option linter.unusedSimpArgs false

structure AttachRequest where
  attachRequestId : Option String
  sinceSeq : Int
  terminalOutputBatchV1 : Bool
  pacedTerminalReplayV1 : Bool
  surfaceReset : Option Bool
  /-- The client's `replayPageBytes`. -/
  replayPageBytes : Option Nat
deriving DecidableEq, Repr

structure PacedSessionDesc where
  terminalId : String
  streamId : String
  attachRequestId : String
  target : Nat
  effectiveSince : Nat
  pageEnd : Nat
  pageBudget : Nat
deriving DecidableEq, Repr

structure PacedAttachStart where
  session : PacedSessionDesc
  firstPage : List ServerMessage

def TerminalShared.setSubscriber (s : TerminalShared) (conn : ConnId) (sub : Option Subscriber) : TerminalShared :=
  { s with subscribers := Function.update s.subscribers conn sub }

variable (s : TerminalShared) (conn : ConnId) (sub : Option Subscriber)

@[simp] theorem setSubscriber_same :
    (s.setSubscriber conn sub).subscribers conn = sub := by simp [TerminalShared.setSubscriber]

theorem setSubscriber_other {conn other : ConnId} (apart : other ≠ conn) :
    (s.setSubscriber conn sub).subscribers other = s.subscribers other := by
  simp [TerminalShared.setSubscriber,apart]

theorem setSubscriber_sound {s : TerminalShared} (sound : s.Sound) (conn : ConnId) (sub : Option Subscriber) :
    (s.setSubscriber conn sub).Sound := sound.congr rfl rfl

/-- The emulator-mode preamble of a surface-reset attach. -/
def modesSync (s : TerminalShared) (req : AttachRequest) : List ServerMessage :=
  if req.surfaceReset = some true then
    match req.attachRequestId with
    | none => []
    | some attachRequestId =>
      if s.modes = "" then []
      else [.terminalModesSync { terminalId := s.terminalId, streamId := s.streamId, attachRequestId, data := s.modes }]
  else []

def effectivePacedPageBudget (config : Config) (req : AttachRequest) : Nat :=
  match req.replayPageBytes.filter (0 < ·) with
  | some requested => min config.pacedPageMaxBytes requested
  | none => config.pacedPageMaxBytes

def subscriberOf (sink : FrameSink) (req : AttachRequest) (deferred : Bool) : Subscriber where
  sink := sink
  attachRequestId := req.attachRequestId
  terminalOutputBatchV1 := req.terminalOutputBatchV1
  pacedTerminalReplayV1 := req.pacedTerminalReplayV1
  pacedDeferred := deferred
  pacedHandoffBoundary := none
  pacedExitPending := none

def effectiveRequested (req : AttachRequest) : Nat := req.sinceSeq.toNat

def retentionLost (s : TerminalShared) (req : AttachRequest) : Bool :=
  effectiveRequested req + 1 < s.oldestRetainedSeq

/-- Where a paced session starts: what the client has, or what retention left. -/
def baseline (s : TerminalShared) (req : AttachRequest) : Nat :=
  if retentionLost s req then s.oldestRetainedSeq - 1 else effectiveRequested req

def pacedReady (s : TerminalShared) (req : AttachRequest) : TerminalAttachReady where
  terminalId := s.terminalId
  streamId := s.streamId
  attachRequestId := req.attachRequestId
  headSeq := s.headSeq
  replayFromSeq := if s.headSeq ≤ baseline s req then s.headSeq + 1 else baseline s req + 1
  replayToSeq := s.headSeq
  effectiveSinceSeq := some (baseline s req)
  requestedSinceSeq := some req.sinceSeq
  oldestRetainedSeq := some s.oldestRetainedSeq
  replayResetReason := if retentionLost s req then some .retentionLost else none

def retentionLostGap (s : TerminalShared) (req : AttachRequest) : List ServerMessage :=
  if retentionLost s req then
    [.terminalOutputGap {
      terminalId := s.terminalId, streamId := s.streamId, attachRequestId := req.attachRequestId
      fromSeq := effectiveRequested req + 1, toSeq := s.oldestRetainedSeq - 1, reason := .replayWindowExceeded
      headSeq := some s.headSeq, oldestRetainedSeq := some s.oldestRetainedSeq }]
  else []

def pacedFirstPage (config : Config) (s : TerminalShared) (sub : Subscriber) (req : AttachRequest) : List ServerMessage :=
  if baseline s req < s.headSeq then
    ((pacedPageBuild config s sub (baseline s req) s.headSeq (effectivePacedPageBudget config req) .replay).map
      PacedPageBuild.messages).getD []
  else []

/-- The paced handoff of a running terminal: ready, modes and a declared loss
    are sent under the lock, the first page is left to the caller. -/
def pacedAttachToShared (config : Config) (s : TerminalShared) (conn : ConnId) (sink : FrameSink) (req : AttachRequest)
    (attachRequestId : String) : TerminalShared × List ServerMessage × PacedAttachStart :=
  let sub := subscriberOf sink req true
  let firstPage := pacedFirstPage config s sub req
  (s.setSubscriber conn (some sub),
    .terminalAttachReady (pacedReady s req) :: (modesSync s req ++ retentionLostGap s req),
    { firstPage
      session := {
        terminalId := s.terminalId, streamId := s.streamId, attachRequestId
        target := s.headSeq, effectiveSince := baseline s req
        pageEnd := (firstPage.getLast?.bind pageLastSeq).getD (max (baseline s req) s.headSeq)
        pageBudget := effectivePacedPageBudget config req } })

def inlineReplay (s : TerminalShared) (req : AttachRequest) : List RetainedFrame :=
  s.replay.filter fun f => effectiveRequested req < f.output.seqStart

def inlineReady (s : TerminalShared) (req : AttachRequest) : TerminalAttachReady where
  terminalId := s.terminalId
  streamId := s.streamId
  attachRequestId := req.attachRequestId
  headSeq := s.headSeq
  replayFromSeq := ((inlineReplay s req).head?.map (·.output.seqStart)).getD (s.headSeq + 1)
  replayToSeq := ((inlineReplay s req).getLast?.map (·.output.seqEnd)).getD s.headSeq
  effectiveSinceSeq := some (effectiveRequested req)
  requestedSinceSeq := some req.sinceSeq
  oldestRetainedSeq := if req.pacedTerminalReplayV1 then some s.oldestRetainedSeq else none
  replayResetReason := none

def exitMessage (s : TerminalShared) (exitCode : Int) : ServerMessage :=
  .terminalExit { terminalId := s.terminalId, exitCode }

/-- The attach that replays inline, under one hold of the lock; a terminal that
    has exited answers with its exit and keeps no subscriber. -/
def inlineAttachToShared (config : Config) (s : TerminalShared) (conn : ConnId) (sink : FrameSink) (req : AttachRequest) :
    TerminalShared × List ServerMessage :=
  let sub := subscriberOf sink req false
  let replayed := pageMessages config s.terminalId sub .replay (inlineReplay s req)
  let sent := .terminalAttachReady (inlineReady s req) :: (modesSync s req ++ replayed)
  match s.status with
  | .running => (s.setSubscriber conn (some sub),sent)
  | .exited => (s.setSubscriber conn none,sent ++ [exitMessage s (s.exitCode.getD 0)])

/-- The path of `attach_to_shared`: the request id of an attach that is paced. -/
def pacedPath (s : TerminalShared) (req : AttachRequest) : Option String :=
  if req.pacedTerminalReplayV1 ∧ s.status = .running then req.attachRequestId else none

def attachToShared (config : Config) (s : TerminalShared) (conn : ConnId) (sink : FrameSink) (req : AttachRequest) :
    TerminalShared × List ServerMessage × Option PacedAttachStart :=
  match pacedPath s req with
  | some attachRequestId =>
    let made := pacedAttachToShared config s conn sink req attachRequestId
    (made.1,made.2.1,some made.2.2)
  | none =>
    let made := inlineAttachToShared config s conn sink req
    (made.1,made.2,none)

/-- `detach`, and the sweep of a closed connection. -/
def detach (s : TerminalShared) (conn : ConnId) : TerminalShared := s.setSubscriber conn none

def Subscriber.staged (sub : Subscriber) (exitCode : Int) : Subscriber := { sub with pacedExitPending := some exitCode }

/-- A natural exit: deferred subscribers keep it staged, the others retire. -/
def finishPtyExit (s : TerminalShared) (exitCode : Int) : TerminalShared :=
  match s.status with
  | .exited => s
  | .running =>
    { s with
      status := .exited
      exitCode := some exitCode
      subscribers := fun conn =>
        (s.subscribers conn).bind fun sub =>
          if sub.pacedDeferred then some (sub.staged exitCode) else none }

/-- What the exit sends to a connection at once. -/
def exitFanOut (s : TerminalShared) (exitCode : Int) (sub : Subscriber) : List ServerMessage :=
  match s.status with
  | .exited => []
  | .running => if sub.pacedDeferred then [] else [exitMessage s exitCode]

/-- The frozen head of a staged exit, read under one hold of the lock. -/
def pacedExitTransition (s : TerminalShared) (conn : ConnId) : Option Nat :=
  ((s.subscribers conn).bind Subscriber.pacedExitPending).map fun _ => s.headSeq

def deliverStagedPacedExit (s : TerminalShared) (conn : ConnId) : TerminalShared × List ServerMessage :=
  match (s.subscribers conn).bind Subscriber.pacedExitPending with
  | none => (s,[])
  | some exitCode => (s.setSubscriber conn none,[exitMessage s exitCode])

variable (req : AttachRequest)

@[simp] theorem spans_modesSync : spans (modesSync s req) = [] := by
  unfold modesSync
  split
  · split
    · rfl
    · split <;> rfl
  · rfl

theorem baseline_ge : effectiveRequested req ≤ baseline s req := by
  unfold baseline retentionLost
  split
  · rename_i lost
    have : effectiveRequested req + 1 < s.oldestRetainedSeq := by simpa using lost
    omega
  · exact Nat.le_refl _

theorem oldest_le_baseline : s.oldestRetainedSeq ≤ baseline s req + 1 := by
  unfold baseline retentionLost
  split
  · omega
  · rename_i kept
    have : ¬ effectiveRequested req + 1 < s.oldestRetainedSeq := by simpa using kept
    omega

theorem tiles_retentionLostGap : Tiles (effectiveRequested req) (spans (retentionLostGap s req)) (baseline s req) := by
  have above := baseline_ge s req
  unfold retentionLostGap baseline retentionLost at *
  split
  · rename_i lost
    have : effectiveRequested req + 1 < s.oldestRetainedSeq := by simpa using lost
    exact tiles_singleton rfl rfl (by omega)
  · exact rfl

/-- How a paced attach stands: the first page continues the declared loss, and
    is there exactly when the head is above the baseline. -/
theorem pacedFirstPage_spec (config : Config) {s : TerminalShared} (sub : Subscriber) (req : AttachRequest)
    (sound : s.Sound) :
    let firstPage := pacedFirstPage config s sub req
    let pageEnd := (firstPage.getLast?.bind pageLastSeq).getD (max (baseline s req) s.headSeq)
    Tiles (baseline s req) (spans firstPage) pageEnd ∧ (∀ message ∈ firstPage, message.outputSpan.isSome) ∧
      (baseline s req < s.headSeq → baseline s req < pageEnd ∧ pageEnd ≤ s.headSeq) ∧
      (s.headSeq ≤ baseline s req → pageEnd = baseline s req ∧ firstPage = []) := by
  intro firstPage pageEnd
  by_cases room : baseline s req < s.headSeq
  · obtain ⟨build,built⟩ := page_isSome config sub (baseline s req) s.headSeq
      (effectivePacedPageBudget config req) .replay sound (oldest_le_baseline s req) room room
    obtain ⟨tiles,advances,-,within⟩ := tiles_page sound (oldest_le_baseline s req) (Nat.le_of_lt room) built
    have output := page_output built
    have page : firstPage = build.messages := by
      show pacedFirstPage config s sub req = _
      rw [pacedFirstPage,if_pos room,built]
      rfl
    obtain ⟨before,message,split,last⟩ := pageLastSeq_of_tiles output tiles advances
    have ends : pageEnd = build.endSeq := by
      show (firstPage.getLast?.bind pageLastSeq).getD _ = _
      rw [page,split,List.getLast?_concat,Option.bind_some,last,Option.getD_some]
    rw [ends,page]
    exact ⟨tiles,output,fun _ => ⟨advances,within⟩,fun low => absurd room (by omega)⟩
  · have page : firstPage = [] := if_neg room
    have ends : pageEnd = baseline s req := by
      show (firstPage.getLast?.bind pageLastSeq).getD _ = _
      rw [page]
      exact Nat.max_eq_left (Nat.le_of_not_lt room)
    rw [ends,page]
    exact ⟨rfl,by simp,fun low => absurd low room,fun _ => ⟨rfl,rfl⟩⟩

theorem filter_eq_dropWhile {base top fromSeq : Nat} {frames : List RetainedFrame}
    (tiles : Tiles base (frames.map RetainedFrame.span) top) :
    (frames.filter fun f => fromSeq < f.output.seqStart) = frames.dropWhile fun f => f.output.seqStart ≤ fromSeq := by
  induction frames generalizing base with
  | nil => rfl
  | cons f rest ih =>
    obtain ⟨first,proper,tail⟩ := tiles
    have starts : f.span.first = f.output.seqStart := rfl
    by_cases passed : f.output.seqStart ≤ fromSeq
    · rw [List.dropWhile_cons_of_pos (by simpa using passed),List.filter_cons_of_neg (by simpa using passed)]
      exact ih tail
    · rw [List.dropWhile_cons_of_neg (by simpa using passed),List.filter_cons_of_pos (by simpa using passed)]
      congr 1
      apply List.filter_eq_self.mpr
      intro g member
      have within := tiles_within tail g.span (List.mem_map_of_mem member)
      have : g.span.first = g.output.seqStart := rfl
      simp only [decide_eq_true_eq]
      omega

theorem tiles_inlineReplay {s : TerminalShared} (sound : s.Sound) (req : AttachRequest) :
    ∃ base, Tiles base ((inlineReplay s req).map RetainedFrame.span) s.headSeq := by
  have positive := sound.positive
  unfold inlineReplay
  rw [filter_eq_dropWhile sound.tiles]
  by_cases high : s.headSeq < effectiveRequested req
  · refine ⟨s.headSeq,?_⟩
    have nothing : (s.replay.dropWhile fun f => f.output.seqStart ≤ effectiveRequested req) = [] := by
      apply List.dropWhile_eq_nil_iff.mpr
      intro f member
      have within := tiles_within sound.tiles f.span (List.mem_map_of_mem member)
      have : f.span.first = f.output.seqStart := rfl
      simp only [decide_eq_true_eq]
      omega
    rw [nothing]
    exact rfl
  · by_cases low : effectiveRequested req < s.oldestRetainedSeq - 1
    · refine ⟨s.oldestRetainedSeq - 1,?_⟩
      have everything : (s.replay.dropWhile fun f => f.output.seqStart ≤ effectiveRequested req) = s.replay := by
        cases ring : s.replay with
        | nil => rfl
        | cons f rest =>
          have front : s.oldestRetainedSeq = f.output.seqStart := by simp [TerminalShared.oldestRetainedSeq,ring]
          rw [List.dropWhile_cons_of_neg]
          simp only [decide_eq_true_eq]
          omega
      rw [everything]
      exact sound.tiles
    · exact ⟨_,tiles_dropWhile _ sound.tiles sound.single (Nat.le_of_not_lt low) (Nat.le_of_not_lt high)⟩

end Freshell.Terminal
