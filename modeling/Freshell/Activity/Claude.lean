import Freshell.Activity.Ledger
import Freshell.Activity.Signal

/-!
The activity of Claude terminals. A submit that the transcript can confirm is provisional
until a probe or a bell confirms it; a confirmed turn is in flight until a bell or a
verify answer ends it.
-/
namespace Freshell.Activity
open Freshell.Library.Tables

inductive ClaudePhase where
  | idle
  | busy
deriving DecidableEq, Repr

structure ClaudeActivityRecord where
  terminalId : String
  phase : ClaudePhase
  updatedAt : Int
  sessionId : Option String
deriving DecidableEq, Repr

abbrev ClaudeEffect := TrackerEffect ClaudeActivityRecord

namespace Claude

def claudeBusyDeadmanMs : Int := 120000
def claudeSubmitGraceMs : Int := 2000

structure TerminalActivity where
  terminalId : String
  sessionId : Option String
  phase : ClaudePhase := .idle
  updatedAt : Int
  inFlight : Nat := 0
  lastObservedAt : Int
  parserState : ParserState := {}
  busyConfirmed : Bool := false
  submitGraceDeadline : Option Int := none
  submitGraceRetried : Bool := false
deriving DecidableEq, Repr

def TerminalActivity.toRecord (state : TerminalActivity) : ClaudeActivityRecord :=
  ⟨state.terminalId,state.phase,state.updatedAt,state.sessionId⟩

def hasPublicChange (previous : Option ClaudeActivityRecord) (next : ClaudeActivityRecord) : Bool :=
  match previous with
  | none => true
  | some previous => previous.phase != next.phase || previous.sessionId != next.sessionId

def commitChange (previous : Option ClaudeActivityRecord) (next : ClaudeActivityRecord) : List ClaudeEffect :=
  if hasPublicChange previous next then [.changed [next] []] else []

/-- What a call leaves behind and asks of the hub. -/
structure Reduction where
  state : TerminalActivity
  ledger : TurnCompletionLedger
  effects : List ClaudeEffect := []

/-- The bells end turns in flight as long as there are any: the turns that are left, the
    ledger and the completions. -/
def completeTurns (terminalId : String) (sessionId : Option String) (now : Int) :
    Nat → Nat → TurnCompletionLedger → Nat × TurnCompletionLedger × List ClaudeEffect
  | 0, inFlight, ledger => (inFlight,ledger,[])
  | _ + 1, 0, ledger => (0,ledger,[])
  | bells + 1, inFlight + 1, ledger =>
    let (seq,recorded) := ledger.recordTurnCompletion terminalId now
    let (left,last,later) := completeTurns terminalId sessionId now bells inFlight recorded
    (left,last,.turnComplete terminalId sessionId now seq :: later)

/-- The bells of a chunk that both scanners count. -/
def clearCount (data : String) (parser : ParserState) : Nat :=
  min (extractTurnCompleteSignals data "claude" parser).2.1 (countTrackerTurnCompleteSignals data parser)

namespace TerminalActivity

/-- The call changes the state, and the hub hears of what is public in it. -/
def commit (state next : TerminalActivity) (ledger : TurnCompletionLedger) : Reduction :=
  ⟨next,ledger,commitChange (some state.toRecord) next.toRecord⟩

def noteInput (state : TerminalActivity) (ledger : TurnCompletionLedger) (data : String) (now : Int)
    (confirmable : Bool) : Reduction :=
  if !isSubmitInput data then ⟨state,ledger,[]⟩
  else
    let state := { state with lastObservedAt := now }
    if !confirmable then
      state.commit
        { state with
          inFlight := state.inFlight + 1
          busyConfirmed := true
          phase := .busy
          updatedAt := if state.phase = .busy then state.updatedAt else now } ledger
    else if state.phase = .busy then
      if state.busyConfirmed then ⟨{ state with inFlight := state.inFlight + 1 },ledger,[]⟩
      else
        ⟨{ state with submitGraceDeadline := some (now + claudeSubmitGraceMs), submitGraceRetried := false },ledger,[]⟩
    else
      state.commit
        { state with
          phase := .busy
          updatedAt := now
          busyConfirmed := false
          submitGraceDeadline := some (now + claudeSubmitGraceMs)
          submitGraceRetried := false } ledger

def observe (state : TerminalActivity) (now : Int) : TerminalActivity :=
  if state.phase = .busy then { state with lastObservedAt := now } else state

def confirmByBell (state : TerminalActivity) : TerminalActivity :=
  if state.phase = .busy && !state.busyConfirmed then
    { state with busyConfirmed := true, submitGraceDeadline := none, inFlight := 1 }
  else state

def noteOutput (state : TerminalActivity) (ledger : TurnCompletionLedger) (terminalId data : String) (now : Int) :
    Reduction :=
  let read := { state with parserState := (extractTurnCompleteSignals data "claude" state.parserState).2.2 }
  let bells := clearCount data state.parserState
  if bells = 0 then ⟨read.observe now,ledger,[]⟩
  else
    let confirmed := read.confirmByBell
    let (left,last,completions) := completeTurns terminalId confirmed.sessionId now bells confirmed.inFlight ledger
    let next :=
      if completions = [] then { confirmed with lastObservedAt := now }
      else
        { confirmed with
          inFlight := left
          lastObservedAt := now
          phase := if 0 < left then .busy else .idle
          updatedAt := now }
    ⟨next,last,commitChange (some confirmed.toRecord) next.toRecord ++ completions⟩

def settle (state : TerminalActivity) (now : Int) : TerminalActivity :=
  { state with
    phase := .idle
    inFlight := 0
    busyConfirmed := false
    submitGraceDeadline := none
    updatedAt := now
    lastObservedAt := now }

def revert (state : TerminalActivity) (now : Int) : TerminalActivity :=
  { state with submitGraceDeadline := none, phase := .idle, updatedAt := now, lastObservedAt := now }

def noteVerifiedBusy (state : TerminalActivity) (now : Int) : TerminalActivity := state.observe now

def noteVerifiedEnded (state : TerminalActivity) (ledger : TurnCompletionLedger) (terminalId : String) (now : Int) :
    Reduction :=
  if state.phase ≠ .busy then ⟨state,ledger,[]⟩
  else
    let (seq,recorded) := ledger.recordTurnCompletion terminalId now
    ⟨state.settle now,recorded,
      commitChange (some state.toRecord) (state.settle now).toRecord ++
        [.turnComplete terminalId state.sessionId now seq]⟩

def noteVerifyFailed (state : TerminalActivity) (ledger : TurnCompletionLedger) (terminalId : String) (now : Int) :
    Reduction :=
  if state.phase ≠ .busy then ⟨state,ledger,[]⟩
  else
    ⟨state.settle now,ledger,
      commitChange (some state.toRecord) (state.settle now).toRecord ++ [.attentionBoundary terminalId now]⟩

def noteSubmitConfirmed (state : TerminalActivity) (now : Int) : TerminalActivity :=
  if state.phase = .busy && !state.busyConfirmed then
    { state with busyConfirmed := true, inFlight := 1, submitGraceDeadline := none, lastObservedAt := now }
  else state

def noteSubmitUnconfirmed (state : TerminalActivity) (ledger : TurnCompletionLedger) (now : Int) : Reduction :=
  if state.phase ≠ .busy ∨ state.busyConfirmed = true then ⟨state,ledger,[]⟩
  else state.commit (state.revert now) ledger

def noteSubmitProbeUnavailable (state : TerminalActivity) : TerminalActivity := { state with submitGraceDeadline := none }

/-- Silence past the deadman asks for a verify answer and stays busy. -/
def expireBusy (state : TerminalActivity) (deadman now : Int) : TerminalActivity × List ClaudeEffect :=
  if state.phase ≠ .busy ∨ now - state.lastObservedAt ≤ deadman then (state,[])
  else ({ state with lastObservedAt := now },[.forceRead state.terminalId now])

def expire (state : TerminalActivity) (deadman now : Int) : TerminalActivity × List ClaudeEffect :=
  match state.submitGraceDeadline with
  | none => state.expireBusy deadman now
  | some deadline =>
    if now < deadline then state.expireBusy deadman now
    else if state.phase = .busy && !state.busyConfirmed then
      -- the first lapse probes and extends, the second reverts
      if !state.submitGraceRetried then
        ({ state with submitGraceRetried := true, submitGraceDeadline := some (now + claudeSubmitGraceMs) },
          [.forceRead state.terminalId now])
      else (state.revert now,commitChange (some state.toRecord) (state.revert now).toRecord)
    else { state with submitGraceDeadline := none }.expireBusy deadman now

def rebind (state : TerminalActivity) (ledger : TurnCompletionLedger) (sessionId : String) : Reduction :=
  if state.sessionId = some sessionId then ⟨state,ledger,[]⟩
  else state.commit { state with sessionId := some sessionId } ledger

end TerminalActivity

structure ClaudeActivityTracker where
  states : Table String TerminalActivity := ∅
  ledger : TurnCompletionLedger := {}
  busyDeadmanMs : Int := claudeBusyDeadmanMs

inductive ClaudeNote where
  | bindSession (sessionId : String)
  | input (data : String) (now : Int) (confirmable : Bool)
  | output (data : String) (now : Int)
  | verifiedBusy (now : Int)
  | verifiedEnded (now : Int)
  | verifyFailed (now : Int)
  | submitConfirmed (now : Int)
  | submitUnconfirmed (now : Int)
  | submitProbeUnavailable
deriving DecidableEq, Repr

def TerminalActivity.note (state : TerminalActivity) (ledger : TurnCompletionLedger) (terminalId : String)
    (note : ClaudeNote) : Reduction :=
  match note with
  | .bindSession sessionId => state.rebind ledger sessionId
  | .input data now confirmable => state.noteInput ledger data now confirmable
  | .output data now => state.noteOutput ledger terminalId data now
  | .verifiedBusy now => ⟨state.noteVerifiedBusy now,ledger,[]⟩
  | .verifiedEnded now => state.noteVerifiedEnded ledger terminalId now
  | .verifyFailed now => state.noteVerifyFailed ledger terminalId now
  | .submitConfirmed now => ⟨state.noteSubmitConfirmed now,ledger,[]⟩
  | .submitUnconfirmed now => state.noteSubmitUnconfirmed ledger now
  | .submitProbeUnavailable => ⟨state.noteSubmitProbeUnavailable,ledger,[]⟩

inductive ClaudeOp where
  | trackTerminal (terminalId : String) (sessionId : Option String) (now : Int)
  | note (terminalId : String) (note : ClaudeNote)
  | exit (terminalId : String)
  | expire (now : Int)
deriving DecidableEq, Repr

namespace ClaudeActivityTracker

def noteOn (tracker : ClaudeActivityTracker) (terminalId : String) (note : ClaudeNote) :
    ClaudeActivityTracker × List ClaudeEffect :=
  match tracker.states.lookup terminalId with
  | none => (tracker,[])
  | some state =>
    let reduction := state.note tracker.ledger terminalId note
    ({ tracker with states := tracker.states.insert terminalId reduction.state, ledger := reduction.ledger },
      reduction.effects)

def trackTerminal (tracker : ClaudeActivityTracker) (terminalId : String) (sessionId : Option String) (now : Int) :
    ClaudeActivityTracker × List ClaudeEffect :=
  match tracker.states.lookup terminalId with
  | some _ =>
    match sessionId with
    | some session => tracker.noteOn terminalId (.bindSession session)
    | none => (tracker,[])
  | none =>
    let state : TerminalActivity :=
      { terminalId := terminalId, sessionId := sessionId, updatedAt := now, lastObservedAt := now }
    ({ tracker with states := tracker.states.insert terminalId state },commitChange none state.toRecord)

def noteExit (tracker : ClaudeActivityTracker) (terminalId : String) : ClaudeActivityTracker × List ClaudeEffect :=
  match tracker.states.lookup terminalId with
  | none => (tracker,[])
  | some _ => ({ tracker with states := tracker.states.erase terminalId },[.changed [] [terminalId]])

def expire (tracker : ClaudeActivityTracker) (now : Int) : ClaudeActivityTracker × List ClaudeEffect :=
  ({ tracker with states := mapValues (fun _ state => (state.expire tracker.busyDeadmanMs now).1) tracker.states },
    tracker.states.entries.flatMap fun entry => (entry.2.expire tracker.busyDeadmanMs now).2)

def step (tracker : ClaudeActivityTracker) (op : ClaudeOp) : ClaudeActivityTracker × List ClaudeEffect :=
  match op with
  | .trackTerminal terminalId sessionId now => tracker.trackTerminal terminalId sessionId now
  | .note terminalId note => tracker.noteOn terminalId note
  | .exit terminalId => tracker.noteExit terminalId
  | .expire now => tracker.expire now

def next (tracker : ClaudeActivityTracker) (op : ClaudeOp) : ClaudeActivityTracker := (tracker.step op).1

end ClaudeActivityTracker
end Claude
end Freshell.Activity
