import Freshell.Activity.Ledger
import Freshell.Activity.Signal
import Mathlib.Algebra.Ring.Int.Defs

/-!
The activity of Codex terminals. Three lanes report the turns of a terminal: its bells,
the proxy of the app server, and the rollout that the client writes. Whichever ends a
turn first arms the swallows for the late echoes of the others.
-/
namespace Freshell.Activity
open Freshell.Library.Tables

inductive CodexPhase where
  | unknown
  | idle
  | pending
  | busy
deriving DecidableEq, Repr

structure CodexActivityRecord where
  terminalId : String
  phase : CodexPhase
  updatedAt : Int
  sessionId : Option String
deriving DecidableEq, Repr

abbrev CodexEffect := TrackerEffect CodexActivityRecord

namespace Codex

def pendingSubmitGateMs : Int := 6000
def pendingSnapshotGraceMs : Int := 15000
def busyDeadmanMs : Int := 120000

def i64Min : Int := -2^63

structure CodexTaskEvents where
  latestTaskStartedAt : Option Int := none
  latestTaskCompletedAt : Option Int := none
  latestTurnAbortedAt : Option Int := none
  latestTurnAbortedReason : Option String := none
deriving DecidableEq, Repr

def maxTs (first second : Option Int) : Option Int :=
  match first,second with
  | some a,some b => some (max a b)
  | a,none => a
  | none,b => b

structure TerminalActivity where
  terminalId : String
  sessionId : Option String
  phase : CodexPhase := .idle
  updatedAt : Int
  lastSubmitAt : Option Int := none
  pendingSubmitAt : Option Int := none
  pendingFreshnessAt : Option Int := none
  pendingUntil : Option Int := none
  queuedSubmitAt : Option Int := none
  acceptedStartAt : Option Int := none
  lastSeenTaskStartedAt : Option Int := none
  lastClearedAt : Option Int := none
  swallowNextBel : Bool := false
  swallowNextProxyComplete : Bool := false
  swallowNextReconcileClear : Bool := false
  lastProxyStartedAt : Option Int := none
  currentProxyTurnId : Option String := none
  pendingApprovals : List String := []
  resumeBusyAfterApproval : Bool := false
  lastObservedAt : Int
  lastEmittedTurnKey : Option Int := none
  parserState : ParserState := {}
  forceReadLogged : Bool := false
  nextForceReadAt : Option Int := none
deriving DecidableEq, Repr

namespace TerminalActivity

def toRecord (state : TerminalActivity) : CodexActivityRecord :=
  ⟨state.terminalId,state.phase,state.updatedAt,state.sessionId⟩

def hasQueuedSubmit (state : TerminalActivity) : Bool :=
  match state.queuedSubmitAt with
  | some queued => (state.acceptedStartAt.map fun accepted => decide (queued > accepted)).getD true
  | none => false

def awaitingFreshSnapshot (state : TerminalActivity) (now : Int) : Bool :=
  match state.pendingFreshnessAt with
  | none => false
  | some boundary => state.pendingSubmitAt.isSome && decide (now ≤ boundary + pendingSnapshotGraceMs)

def hasPendingOutputLiveness (state : TerminalActivity) (now : Int) : Bool :=
  match state.pendingSubmitAt with
  | some submitted => decide (state.lastObservedAt > submitted) && decide (now - state.lastObservedAt ≤ busyDeadmanMs)
  | none => false

end TerminalActivity

def hasPublicChange (previous : Option CodexActivityRecord) (next : CodexActivityRecord) : Bool :=
  match previous with
  | none => true
  | some previous => previous.phase != next.phase || previous.sessionId != next.sessionId

def changed (previous : Option CodexActivityRecord) (next : CodexActivityRecord) : List CodexEffect :=
  if hasPublicChange previous next then [.changed [next] []] else []

def abortReasonIsHuman (reason : Option String) : Bool :=
  match reason with
  | none => true
  | some text => text == "interrupted" || text == "replaced"

structure Completion where
  sessionId : Option String
  completedAt : Int
  completionSeq : Nat
deriving DecidableEq, Repr

/-- A terminal with the ledger, and the completions recorded so far. -/
structure TurnPass where
  state : TerminalActivity
  ledger : TurnCompletionLedger
  completions : List Completion

/-- A turn ends where its terminal gets idle; one with a queued submit goes on. -/
def recordCompletionIfIdle (pass : TurnPass) (turnKey : Option Int) (now : Int) : TurnPass :=
  match turnKey with
  | none => pass
  | some key =>
    if pass.state.phase ≠ .idle then pass
    else if pass.state.lastEmittedTurnKey = some key then pass
    else
      let recorded := pass.ledger.recordTurnCompletion pass.state.terminalId now
      { state := { pass.state with lastEmittedTurnKey := some key }
        ledger := recorded.2
        completions := pass.completions ++ [⟨pass.state.sessionId,now,recorded.1⟩] }

/-- A turn that a human stopped is claimed without a completion. -/
def claimTurnKeyIfIdle (state : TerminalActivity) (turnKey : Option Int) : TerminalActivity :=
  match turnKey with
  | none => state
  | some key => if state.phase ≠ .idle then state else { state with lastEmittedTurnKey := some key }

def settle (pass : TurnPass) (turnKey : Option Int) (now : Int) (record : Bool) : TurnPass :=
  if record then recordCompletionIfIdle pass turnKey now
  else { pass with state := claimTurnKeyIfIdle pass.state turnKey }

/-- The terminal goes to the queued submit, or idle. -/
def TerminalActivity.clearTurn (state : TerminalActivity) (now : Int) : TerminalActivity :=
  if state.hasQueuedSubmit then
    { state with
      acceptedStartAt := none
      updatedAt := now
      lastObservedAt := now
      phase := .pending
      pendingSubmitAt := state.queuedSubmitAt
      pendingFreshnessAt := some now
      pendingUntil := some (now + pendingSubmitGateMs)
      queuedSubmitAt := none }
  else
    { state with
      acceptedStartAt := none
      updatedAt := now
      lastObservedAt := now
      phase := .idle
      pendingSubmitAt := none
      pendingFreshnessAt := none
      pendingUntil := none
      queuedSubmitAt := none }

def transitionPendingAfterTurnClear (pass : TurnPass) (now : Int) (record : Bool) : TurnPass :=
  settle { pass with state := pass.state.clearTurn now } pass.state.pendingSubmitAt now record

def transitionAfterTurnClear (pass : TurnPass) (now : Int) (record : Bool) : TurnPass :=
  settle { pass with state := pass.state.clearTurn now } pass.state.acceptedStartAt now record

def consumeTurnCompleteSignal (pass : TurnPass) (now : Int) : Option TurnPass :=
  if pass.state.phase = .pending then
    if pass.state.pendingSubmitAt.isSome then some (transitionPendingAfterTurnClear pass now true) else none
  else if pass.state.acceptedStartAt.isSome then some (transitionAfterTurnClear pass now true)
  else none

/-- The loop of `note_output` over the bells of a chunk. -/
def clearBells (pass : TurnPass) (now : Int) : Nat → TurnPass
  | 0 => pass
  | bells + 1 =>
    if pass.state.swallowNextBel then
      clearBells { pass with state := { pass.state with swallowNextBel := false } } now bells
    else
      match consumeTurnCompleteSignal pass now with
      | none => pass
      | some cleared =>
        clearBells { cleared with state := { cleared.state with swallowNextProxyComplete := true } } now bells

def CodexTaskEvents.clearIsAbort (events : CodexTaskEvents) : Bool :=
  match events.latestTaskCompletedAt,events.latestTurnAbortedAt with
  | some completed,some aborted => decide (aborted > completed)
  | none,some _ => true
  | _,_ => false

def CodexTaskEvents.observedClear (events : CodexTaskEvents) : Option Int :=
  maxTs events.latestTaskCompletedAt events.latestTurnAbortedAt

/-- Whether the clear that the events show is one to ring for. -/
def CodexTaskEvents.recorded (events : CodexTaskEvents) : Bool :=
  !events.clearIsAbort || !abortReasonIsHuman events.latestTurnAbortedReason

/-- Promotion on a new start that no clear has resolved. -/
def TerminalActivity.promote (state : TerminalActivity) (events : CodexTaskEvents) (now : Int) : TerminalActivity :=
  match events.latestTaskStartedAt with
  | none => state
  | some started =>
    let isNew := (state.lastSeenTaskStartedAt.map fun seen => decide (started > seen)).getD true
    let seen := { state with lastSeenTaskStartedAt := maxTs state.lastSeenTaskStartedAt (some started) }
    let ownsPending := (state.pendingSubmitAt.map fun submitted => decide (started ≥ submitted)).getD false
    let effectiveClear :=
      if state.phase = .pending && ownsPending then state.lastClearedAt
      else maxTs events.observedClear state.lastClearedAt
    if isNew && (state.acceptedStartAt.map fun accepted => decide (started > accepted)).getD true &&
        (effectiveClear.map fun cleared => decide (started > cleared)).getD true then
      if state.pendingApprovals.isEmpty then
        { seen with
          phase := .busy
          forceReadLogged := false
          nextForceReadAt := none
          acceptedStartAt := some started
          updatedAt := now
          lastObservedAt := now }
      else { seen with acceptedStartAt := some started, resumeBusyAfterApproval := true }
    else seen

/-- Another lane's clear leaves the echoes of the bell and the proxy to swallow. -/
def TurnPass.swallowAfterReconcile (pass : TurnPass) : TurnPass :=
  { pass with state := { pass.state with swallowNextBel := true, swallowNextProxyComplete := true } }

def foldClear (pass : TurnPass) (events : CodexTaskEvents) (now : Int) : TurnPass :=
  match events.observedClear with
  | none => pass
  | some cleared =>
    let state := pass.state
    let isNewClear := (state.lastClearedAt.map fun seen => decide (cleared > seen)).getD true
    let seen := { state with lastClearedAt := maxTs state.lastClearedAt (some cleared) }
    if isNewClear && state.swallowNextReconcileClear then
      { pass with state := { seen with swallowNextReconcileClear := false } }
    else if isNewClear then
      if state.phase = .pending ∧ (state.pendingSubmitAt.map fun submitted => decide (cleared ≥ submitted)).getD false then
        (transitionPendingAfterTurnClear { pass with state := seen } now events.recorded).swallowAfterReconcile
      else if (state.phase = .busy ∨ state.phase = .unknown) ∧
          (state.acceptedStartAt.map fun accepted => decide (cleared ≥ accepted)).getD false then
        (transitionAfterTurnClear { pass with state := seen } now events.recorded).swallowAfterReconcile
      else { pass with state := seen }
    else { pass with state := seen }

structure CodexActivityTracker where
  states : Table String TerminalActivity := ∅
  ledger : TurnCompletionLedger := {}
  busyDeadmanMs : Int := busyDeadmanMs

def effectsAfterTransition (previous : CodexActivityRecord) (next : TerminalActivity)
    (completions : List Completion) : List CodexEffect :=
  changed (some previous) next.toRecord ++
    completions.map fun done => .turnComplete next.terminalId done.sessionId done.completedAt done.completionSeq

/-- A terminal that is bound to another thread keeps nothing of the old one's turn. -/
def TerminalActivity.rebind (state : TerminalActivity) (sessionId : String) : TerminalActivity :=
  { state with
    sessionId := some sessionId
    currentProxyTurnId := none
    lastProxyStartedAt := none
    pendingApprovals := []
    resumeBusyAfterApproval := false }

def TerminalActivity.noteInput (state : TerminalActivity) (deadman now : Int) : TerminalActivity :=
  let staleBusy := state.phase = .busy ∧ now - state.lastObservedAt > deadman
  let noted :=
    { state with
      lastSubmitAt := some now
      pendingUntil := some (now + pendingSubmitGateMs)
      pendingFreshnessAt := some now
      lastObservedAt := now }
  if state.phase = .busy ∧ ¬staleBusy then
    { noted with
      queuedSubmitAt := if state.queuedSubmitAt.isNone then some now else state.queuedSubmitAt
      pendingFreshnessAt := none }
  else
    -- a fresh turn starts, so that the swallows of the one before are stale
    let fresh := state.phase = .idle ∨ state.phase = .unknown ∨ staleBusy
    { noted with
      swallowNextBel := if fresh then false else state.swallowNextBel
      swallowNextProxyComplete := if fresh then false else state.swallowNextProxyComplete
      swallowNextReconcileClear := if fresh then false else state.swallowNextReconcileClear
      pendingSubmitAt := if state.pendingSubmitAt.isNone then some now else state.pendingSubmitAt
      queuedSubmitAt :=
        if state.pendingSubmitAt.isSome && state.queuedSubmitAt.isNone then some now else state.queuedSubmitAt
      phase := .pending
      updatedAt := now }

/-- Output that ends no turn is liveness, and disarms a fired force-read. -/
def TerminalActivity.observe (state : TerminalActivity) (now : Int) : TerminalActivity :=
  if state.phase = .busy ∨ state.phase = .pending then
    { state with lastObservedAt := now, forceReadLogged := false, nextForceReadAt := none }
  else state

def clearCount (data : String) (parser : ParserState) : Nat :=
  min (extractTurnCompleteSignals data "codex" parser).2.1 (countTrackerTurnCompleteSignals data parser)

def TerminalActivity.noteProxyTurnStarted (state : TerminalActivity) (turnId : Option String) (now : Int) :
    TerminalActivity :=
  let working := state.phase = .idle ∨ state.phase = .unknown ∨ state.phase = .pending
  { state with
    swallowNextProxyComplete := false
    currentProxyTurnId := turnId
    lastProxyStartedAt := some now
    lastObservedAt := now
    phase := if working then .busy else state.phase
    updatedAt := if working then now else state.updatedAt }

/-- The completion of another turn than the one in flight is a stale echo. -/
def TerminalActivity.staleTurnId (state : TerminalActivity) (turnId : Option String) : Bool :=
  match state.currentProxyTurnId,turnId with
  | some current,some completed => current != completed
  | _,_ => false

def ringsFor (status : Option String) : Bool :=
  status == none || status == some "completed" || status == some "failed"

def TurnPass.swallowAfterProxy (pass : TurnPass) : TurnPass :=
  { pass with state := { pass.state with swallowNextBel := true, swallowNextReconcileClear := true } }

def proxyClear (pass : TurnPass) (record : Bool) (now : Int) : TurnPass :=
  let state := pass.state
  let turnKey := (state.lastProxyStartedAt.or state.pendingSubmitAt).getD now
  match state.phase with
  | .pending => (transitionPendingAfterTurnClear pass now record).swallowAfterProxy
  | .busy =>
    (settle { pass with state := { state with phase := .idle, updatedAt := now } } (some turnKey) now
      record).swallowAfterProxy
  | .unknown =>
    (settle { pass with state := { state with phase := .idle, updatedAt := now } } (some turnKey) now
      record).swallowAfterProxy
  | .idle =>
    TurnPass.swallowAfterProxy
      { pass with
        state := claimTurnKeyIfIdle { state with acceptedStartAt := none, pendingSubmitAt := none } (some turnKey) }

def TerminalActivity.noteApprovalRequested (state : TerminalActivity) (requestId : String) (now : Int) :
    TerminalActivity :=
  let working := state.phase = .busy ∨ state.phase = .pending ∨ state.phase = .unknown
  { state with
    pendingApprovals := state.pendingApprovals.insert requestId
    resumeBusyAfterApproval := if working then true else state.resumeBusyAfterApproval
    phase := if working then .idle else state.phase
    updatedAt := now }

def TerminalActivity.noteApprovalResolved (state : TerminalActivity) (requestId : String) (now : Int) :
    TerminalActivity :=
  if requestId ∉ state.pendingApprovals then state
  else
    let resolved := { state with pendingApprovals := state.pendingApprovals.erase requestId }
    if !resolved.pendingApprovals.isEmpty || !state.resumeBusyAfterApproval then resolved
    else
      { resolved with
        resumeBusyAfterApproval := false
        phase := .busy
        updatedAt := now
        lastObservedAt := now
        pendingSubmitAt := none
        pendingFreshnessAt := none
        pendingUntil := none }

def TerminalActivity.openGate (state : TerminalActivity) (now : Int) : TerminalActivity :=
  { state with
    pendingUntil := match state.pendingUntil with
      | some gate => if now > gate then none else some gate
      | none => none }

def TerminalActivity.decay (state : TerminalActivity) (deadman now : Int) : TerminalActivity × List CodexEffect :=
  if state.phase = .pending ∧ state.pendingUntil.isNone then
    if !state.awaitingFreshSnapshot now && !state.hasPendingOutputLiveness now then
      ({ state with
        phase := .idle
        updatedAt := now
        lastObservedAt := now
        pendingSubmitAt := none
        pendingFreshnessAt := none },[])
    else (state,[])
  else if state.phase = .busy then
    let idleAge := now - state.lastObservedAt
    let due := (state.nextForceReadAt.map fun next => decide (now ≥ next)).getD (decide (idleAge > deadman))
    if idleAge > deadman ∧ due then
      ({ state with forceReadLogged := true, nextForceReadAt := some (now + deadman) },[.forceRead state.terminalId now])
    else (state,[])
  else (state,[])

def TerminalActivity.expire (state : TerminalActivity) (deadman now : Int) : TerminalActivity × List CodexEffect :=
  let expired := (state.openGate now).decay deadman now
  (expired.1,expired.2 ++ changed (some state.toRecord) expired.1.toRecord)

def TerminalActivity.deadline (state : TerminalActivity) (deadman : Int) : Option Int :=
  match state.phase with
  | .pending =>
    let gate := state.pendingUntil.getD i64Min + 1
    let freshness := (state.pendingFreshnessAt.map fun boundary => boundary + pendingSnapshotGraceMs + 1).getD i64Min
    let liveness :=
      if (state.pendingSubmitAt.map fun submitted => decide (state.lastObservedAt > submitted)).getD false then
        state.lastObservedAt + Codex.busyDeadmanMs + 1
      else i64Min
    some (max (max gate freshness) liveness)
  | .busy => some (state.nextForceReadAt.getD (state.lastObservedAt + deadman + 1))
  | .idle => none
  | .unknown => none

namespace CodexActivityTracker

/-- A terminal gets another state; the hub hears of what is public in it. -/
def update (tracker : CodexActivityTracker) (terminalId : String) (next : TerminalActivity) : CodexActivityTracker :=
  { tracker with states := tracker.states.insert terminalId next }

def finish (tracker : CodexActivityTracker) (terminalId : String) (previous : TerminalActivity) (pass : TurnPass) :
    CodexActivityTracker × List CodexEffect :=
  ({ tracker with states := tracker.states.insert terminalId pass.state, ledger := pass.ledger },
    effectsAfterTransition previous.toRecord pass.state pass.completions)

def trackTerminal (tracker : CodexActivityTracker) (terminalId : String) (sessionId : Option String) (now : Int) :
    CodexActivityTracker × List CodexEffect :=
  match tracker.states.lookup terminalId with
  | some existing =>
    match sessionId with
    | none => (tracker,[])
    | some session =>
      if existing.sessionId = some session then (tracker,[])
      else
        (tracker.update terminalId (existing.rebind session),
          changed (some existing.toRecord) (existing.rebind session).toRecord)
  | none =>
    let state : TerminalActivity :=
      { terminalId := terminalId, sessionId := sessionId, updatedAt := now, lastObservedAt := now }
    (tracker.update terminalId state,changed none state.toRecord)

def bindSession (tracker : CodexActivityTracker) (terminalId sessionId : String) :
    CodexActivityTracker × List CodexEffect :=
  match tracker.states.lookup terminalId with
  | none => (tracker,[])
  | some state =>
    if state.sessionId = some sessionId then (tracker,[])
    else
      (tracker.update terminalId (state.rebind sessionId),
        changed (some state.toRecord) (state.rebind sessionId).toRecord)

def reconcileRollout (tracker : CodexActivityTracker) (terminalId : String) (events : CodexTaskEvents) (now : Int) :
    CodexActivityTracker × List CodexEffect :=
  match tracker.states.lookup terminalId with
  | none => (tracker,[])
  | some state =>
    tracker.finish terminalId state (foldClear ⟨state.promote events now,tracker.ledger,[]⟩ events now)

def noteExit (tracker : CodexActivityTracker) (terminalId : String) : CodexActivityTracker × List CodexEffect :=
  match tracker.states.lookup terminalId with
  | none => (tracker,[])
  | some _ => ({ tracker with states := tracker.states.erase terminalId },[.changed [] [terminalId]])

def noteInput (tracker : CodexActivityTracker) (terminalId data : String) (now : Int) :
    CodexActivityTracker × List CodexEffect :=
  match tracker.states.lookup terminalId with
  | none => (tracker,[])
  | some state =>
    if !isSubmitInput data then (tracker,[])
    else
      let next := state.noteInput tracker.busyDeadmanMs now
      (tracker.update terminalId next,changed (some state.toRecord) next.toRecord)

def noteOutput (tracker : CodexActivityTracker) (terminalId data : String) (now : Int) :
    CodexActivityTracker × List CodexEffect :=
  match tracker.states.lookup terminalId with
  | none => (tracker,[])
  | some state =>
    let read := { state with parserState := (extractTurnCompleteSignals data "codex" state.parserState).2.2 }
    let bells := clearCount data state.parserState
    if bells = 0 then (tracker.update terminalId (read.observe now),[])
    else tracker.finish terminalId read (clearBells ⟨read,tracker.ledger,[]⟩ now bells)

def noteProxyTurnStarted (tracker : CodexActivityTracker) (terminalId threadId : String) (turnId : Option String)
    (now : Int) : CodexActivityTracker × List CodexEffect :=
  match tracker.states.lookup terminalId with
  | none => (tracker,[])
  | some state =>
    if state.sessionId ≠ some threadId then (tracker,[])
    else
      let next := state.noteProxyTurnStarted turnId now
      (tracker.update terminalId next,effectsAfterTransition state.toRecord next [])

def noteProxyTurnCompleted (tracker : CodexActivityTracker) (terminalId threadId : String)
    (turnId status : Option String) (now : Int) : CodexActivityTracker × List CodexEffect :=
  match tracker.states.lookup terminalId with
  | none => (tracker,[])
  | some state =>
    if state.sessionId ≠ some threadId then (tracker,[])
    else if status = some "inProgress" then (tracker,[])
    else if state.staleTurnId turnId then (tracker,[])
    else if state.swallowNextProxyComplete then
      (tracker.update terminalId { state with currentProxyTurnId := none, swallowNextProxyComplete := false },[])
    else
      let accepted :=
        { state with currentProxyTurnId := none, pendingApprovals := [], resumeBusyAfterApproval := false }
      tracker.finish terminalId accepted (proxyClear ⟨accepted,tracker.ledger,[]⟩ (ringsFor status) now)

def noteApprovalRequested (tracker : CodexActivityTracker) (terminalId : String) (threadId : Option String)
    (requestId : String) (now : Int) : CodexActivityTracker × List CodexEffect :=
  match tracker.states.lookup terminalId with
  | none => (tracker,[])
  | some state =>
    -- a request without a thread is taken for the terminal's own
    let foreign := match threadId,state.sessionId with
      | some thread,some bound => thread != bound
      | _,_ => false
    if foreign then (tracker,[])
    else
      let next := state.noteApprovalRequested requestId now
      (tracker.update terminalId next,
        changed (some state.toRecord) next.toRecord ++
          if requestId ∈ state.pendingApprovals then [] else [.attentionBoundary terminalId now])

def noteApprovalResolved (tracker : CodexActivityTracker) (terminalId requestId : String) (now : Int) :
    CodexActivityTracker × List CodexEffect :=
  match tracker.states.lookup terminalId with
  | none => (tracker,[])
  | some state =>
    let next := state.noteApprovalResolved requestId now
    (tracker.update terminalId next,changed (some state.toRecord) next.toRecord)

def hasPendingApprovals (tracker : CodexActivityTracker) (terminalId : String) : Bool :=
  ((tracker.states.lookup terminalId).map fun state => !state.pendingApprovals.isEmpty).getD false

def expire (tracker : CodexActivityTracker) (now : Int) : CodexActivityTracker × List CodexEffect :=
  ({ tracker with states := mapValues (fun _ state => (state.expire tracker.busyDeadmanMs now).1) tracker.states },
    tracker.states.entries.flatMap fun entry => (entry.2.expire tracker.busyDeadmanMs now).2)

/-- The earliest instant at which `expire` could change a state. -/
def nextDeadline (tracker : CodexActivityTracker) : Option Int :=
  (tracker.states.entries.filterMap fun entry => entry.2.deadline tracker.busyDeadmanMs).min?

end CodexActivityTracker
end Codex
end Freshell.Activity
