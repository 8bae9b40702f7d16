import Freshell.Terminal.Tail

/-!
The session of a paced replay on its connection: what it has produced, what the
client has credited, and the target of its credited phase, which a staged exit
extends once.
-/
namespace Freshell.Paced
open Freshell.Terminal
set_option linter.unusedSimpArgs false

structure PacedSession where
  terminalId : String
  streamId : String
  attachRequestId : String
  target : Nat
  effectiveSince : Nat
  credited : Nat
  pageEnd : Nat
  pageBudget : Nat
  exitHead : Option Nat
  pages : Nat
deriving DecidableEq, Repr

def PacedSession.phaseTarget (session : PacedSession) : Nat :=
  match session.exitHead with
  | some exitHead => max session.target exitHead
  | none => session.target

def PacedSession.armStagedExit (session : PacedSession) (exitHead : Nat) : PacedSession :=
  { session with
    exitHead := some (match session.exitHead with
      | some armed => max armed exitHead
      | none => exitHead) }

def PacedSession.fromDesc (desc : PacedSessionDesc) : PacedSession where
  terminalId := desc.terminalId
  streamId := desc.streamId
  attachRequestId := desc.attachRequestId
  target := desc.target
  effectiveSince := desc.effectiveSince
  credited := desc.effectiveSince
  pageEnd := desc.pageEnd
  pageBudget := desc.pageBudget
  exitHead := none
  pages := if desc.effectiveSince < desc.pageEnd then 1 else 0

/-- The cursor after a page, and after what retention took. -/
def PacedSession.paged (session : PacedSession) (endSeq : Nat) : PacedSession :=
  { session with pageEnd := endSeq, pages := session.pages + 1 }

def PacedSession.resumed (session : PacedSession) (resumeFrom : Nat) : PacedSession :=
  { session with pageEnd := resumeFrom }

def armStagedExitFromRegistry (s : TerminalShared) (conn : ConnId) (session : PacedSession) : PacedSession :=
  if session.exitHead.isSome then session
  else
    match pacedExitTransition s conn with
    | none => session
    | some exitHead => session.armStagedExit exitHead

structure TerminalReplayCredit where
  terminalId : String
  streamId : String
  attachRequestId : String
  consumedSeq : Nat
deriving DecidableEq, Repr

inductive CreditVerdict where
  | accepted | partialConsumption | staleGeneration | streamMismatch | beyondWindow
deriving DecidableEq, Repr

def PacedSession.granted (session : PacedSession) (consumedSeq : Nat) : PacedSession :=
  { session with credited := consumedSeq }

def validateCredit (session : PacedSession) (credit : TerminalReplayCredit) : PacedSession × CreditVerdict :=
  if session.attachRequestId ≠ credit.attachRequestId then (session,.staleGeneration)
  else if session.streamId ≠ credit.streamId then (session,.streamMismatch)
  else if credit.consumedSeq ≤ session.credited ∨ session.pageEnd < credit.consumedSeq then (session,.beyondWindow)
  else if credit.consumedSeq < session.pageEnd then (session,.partialConsumption)
  else (session.granted credit.consumedSeq,.accepted)

def retentionGap (session : PacedSession) (lostFrom lostTo headSeq oldestRetainedSeq : Nat) : ServerMessage :=
  .terminalOutputGap {
    terminalId := session.terminalId, streamId := session.streamId, attachRequestId := some session.attachRequestId
    fromSeq := lostFrom, toSeq := lostTo, reason := .replayWindowExceeded
    headSeq := some headSeq, oldestRetainedSeq := some oldestRetainedSeq }

inductive DriveOutcome where
  | active | drainReady | gone
deriving DecidableEq, Repr

inductive TransitionDisposition where
  | stay | transfer | gone
deriving DecidableEq, Repr

/-- The disposition that a drive's outcome has when no exit is staged. -/
def unarmedDisposition : DriveOutcome → TransitionDisposition
  | .active => .stay
  | .drainReady => .transfer
  | .gone => .gone

def guardDisposition (session : PacedSession) : DriveOutcome → TransitionDisposition
  | .active => .stay
  | .drainReady => if session.credited < session.pageEnd then .stay else .transfer
  | .gone => .gone

variable (session : PacedSession)

@[simp] theorem resumed_pageEnd (seq : Nat) : (session.resumed seq).pageEnd = seq := rfl

variable (head : Nat)

@[simp] theorem armed_pageEnd : (session.armStagedExit head).pageEnd = session.pageEnd := rfl
@[simp] theorem armed_credited : (session.armStagedExit head).credited = session.credited := rfl
@[simp] theorem armed_since : (session.armStagedExit head).effectiveSince = session.effectiveSince := rfl
@[simp] theorem armed_arid : (session.armStagedExit head).attachRequestId = session.attachRequestId := rfl

variable (s : TerminalShared) (conn : ConnId)

theorem armStagedExitFromRegistry_cases (session : PacedSession) : armStagedExitFromRegistry s conn session = session ∧
        (session.exitHead.isSome ∨ pacedExitTransition s conn = none) ∨
      session.exitHead = none ∧ ∃ exitHead, pacedExitTransition s conn = some exitHead ∧
        armStagedExitFromRegistry s conn session = session.armStagedExit exitHead := by
  unfold armStagedExitFromRegistry
  cases armed : session.exitHead with
  | some exitHead => exact .inl ⟨by simp,.inl rfl⟩
  | none =>
    cases staged : pacedExitTransition s conn with
    | none => exact .inl ⟨by simp,.inr rfl⟩
    | some exitHead => exact .inr ⟨rfl,exitHead,rfl,by simp⟩

@[simp] theorem armFromRegistry_pageEnd (session : PacedSession) :
    (armStagedExitFromRegistry s conn session).pageEnd = session.pageEnd := by
  obtain ⟨same,-⟩ | ⟨-,head,-,armed⟩ := armStagedExitFromRegistry_cases s conn session
  · rw [same]
  · rw [armed,armed_pageEnd]

@[simp] theorem armFromRegistry_credited (session : PacedSession) :
    (armStagedExitFromRegistry s conn session).credited = session.credited := by
  obtain ⟨same,-⟩ | ⟨-,head,-,armed⟩ := armStagedExitFromRegistry_cases s conn session
  · rw [same]
  · rw [armed,armed_credited]

@[simp] theorem armFromRegistry_since (session : PacedSession) :
    (armStagedExitFromRegistry s conn session).effectiveSince = session.effectiveSince := by
  obtain ⟨same,-⟩ | ⟨-,head,-,armed⟩ := armStagedExitFromRegistry_cases s conn session
  · rw [same]
  · rw [armed,armed_since]

@[simp] theorem armFromRegistry_arid (session : PacedSession) :
    (armStagedExitFromRegistry s conn session).attachRequestId = session.attachRequestId := by
  obtain ⟨same,-⟩ | ⟨-,head,-,armed⟩ := armStagedExitFromRegistry_cases s conn session
  · rw [same]
  · rw [armed,armed_arid]

/-- The grant is strict: the credit is accepted exactly at the end of the page
    that is outstanding. -/
theorem validateCredit_accepted {session : PacedSession} {credit : TerminalReplayCredit} :
    (validateCredit session credit).2 = .accepted ↔
      credit.attachRequestId = session.attachRequestId ∧ credit.streamId = session.streamId ∧
        credit.consumedSeq = session.pageEnd ∧ session.credited < session.pageEnd := by
  unfold validateCredit
  constructor
  · intro accepted
    split at accepted
    · cases accepted
    · rename_i generation
      split at accepted
      · cases accepted
      · rename_i stream
        split at accepted
        · cases accepted
        · split at accepted
          · cases accepted
          · exact ⟨(not_not.mp generation).symm,(not_not.mp stream).symm,by omega,by omega⟩
  · rintro ⟨generation,stream,consumed,outstanding⟩
    rw [if_neg (by simp [generation]),if_neg (by simp [stream]),if_neg (by omega),if_neg (by omega)]

theorem validateCredit_session (credit : TerminalReplayCredit) :
    (validateCredit session credit).2 = .accepted ∧ (validateCredit session credit).1 = session.granted session.pageEnd ∨
      (validateCredit session credit).2 ≠ .accepted ∧ (validateCredit session credit).1 = session := by
  by_cases accepted : (validateCredit session credit).2 = .accepted
  · refine .inl ⟨accepted,?_⟩
    obtain ⟨generation,stream,consumed,outstanding⟩ := validateCredit_accepted.mp accepted
    unfold validateCredit
    rw [if_neg (by simp [generation]),if_neg (by simp [stream]),if_neg (by omega),if_neg (by omega),consumed]
  · refine .inr ⟨accepted,?_⟩
    unfold validateCredit at accepted ⊢
    split
    · rfl
    · split
      · rfl
      · split
        · rfl
        · split
          · rfl
          · rename_i generation stream window complete
            rw [if_neg generation,if_neg stream,if_neg window,if_neg complete] at accepted
            exact absurd rfl accepted

end Freshell.Paced
