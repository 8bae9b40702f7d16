import Freshell.Activity.Codex
import Freshell.Library.Runs

/-!
The turns that the Codex tracker completes. Each submit asks for a turn, the turns of a
terminal end one after the other, and each of the three lanes may report an end, late
but in order. The numbers of the turns are carried beside the tracker: it knows a turn
only by the instant of its submit.
-/
namespace Freshell.Activity.Codex
open Freshell.Library.Tables Freshell.Library.Runs

/-- What became of the turns of a terminal. The turns are numbered from one. -/
structure TurnLog where
  submits : List Int := []
  ended : Nat := 0
  /-- The newest turns that the bells, the proxy and the rollout have reported. -/
  rung : Nat := 0
  proxied : Nat := 0
  cleared : Nat := 0
  /-- The turns of which an end has been reported. -/
  reported : List Nat := []
  /-- The turns whose submits the tracker holds as pending and as queued. -/
  pending : Option Nat := none
  queued : Option Nat := none
  /-- The turns that were completed, with the numbers of the completions. -/
  completed : List (Option Nat × Nat) := []
deriving DecidableEq, Repr

def pendingOf (state : Option TerminalActivity) : Option Int := state.bind TerminalActivity.pendingSubmitAt

def queuedOf (state : Option TerminalActivity) : Option Int := state.bind TerminalActivity.queuedSubmitAt

@[simp] theorem pendingOf_some (state : TerminalActivity) : pendingOf (some state) = state.pendingSubmitAt := rfl

@[simp] theorem queuedOf_some (state : TerminalActivity) : queuedOf (some state) = state.queuedSubmitAt := rfl

/-- The numbers of the completions of a terminal among effects. -/
def completionsOf (terminalId : String) (effects : List CodexEffect) : List Nat :=
  effects.filterMap fun effect =>
    match effect with
    | .turnComplete id _ _ seq => if id = terminalId then some seq else none
    | _ => none

namespace TurnLog

/-- The turn that the tracker is to get to last. A clear that completes leaves nothing
    queued, so that it ends this one. -/
def lastHeld (log : TurnLog) : Option Nat := log.queued.or log.pending

/-- The log after the tracker went from one state of the terminal to another. -/
def settle (log : TurnLog) (before after : Option TerminalActivity) (seqs : List Nat) : TurnLog :=
  let completed := log.completed ++ seqs.map fun seq => (log.lastHeld,seq)
  if (pendingOf after).isNone then
    { log with
      completed := completed
      pending := none
      queued := if (queuedOf after).isNone then none else log.queued }
  else if (queuedOf before).isSome && (queuedOf after).isNone then
    { log with completed := completed, pending := log.queued, queued := none }
  else { log with completed := completed }

/-- A submit asks for the next turn; the tracker holds two at most. -/
def submitted (log : TurnLog) (before : Option TerminalActivity) (now : Int) : TurnLog :=
  let turn := log.submits.length + 1
  if (pendingOf before).isNone then { log with submits := log.submits ++ [now], pending := some turn }
  else if (queuedOf before).isNone then { log with submits := log.submits ++ [now], queued := some turn }
  else { log with submits := log.submits ++ [now] }

/-- Turns that a lane can report, after the newest that it has reported. -/
def inOrder (log : TurnLog) (newest : Nat) (turns : List Nat) : Bool :=
  decide ((newest :: turns).Pairwise (· < ·)) && turns.all fun turn => turn ≤ log.ended

def submitOf (log : TurnLog) (turn : Nat) : Option Int := if turn = 0 then none else log.submits[turn - 1]?

/-- What is to hold of the completions of a terminal. -/
structure Honest (log : TurnLog) : Prop where
  once : (log.completed.map Prod.fst).Nodup
  ended : ∀ entry ∈ log.completed, ∃ turn ∈ log.reported, entry.1 = some turn
  /-- The completions are numbered `1, 2, 3, …`. -/
  numbered : log.completed.map Prod.snd = List.range' 1 log.completed.length

end TurnLog

structure Lanes where
  tracker : CodexActivityTracker
  logs : String → TurnLog

inductive LaneOp where
  | track (terminalId : String) (sessionId : Option String) (now : Int)
  | bind (terminalId sessionId : String)
  | exit (terminalId : String)
  | submit (terminalId data : String) (now : Int)
  | ends (terminalId : String)
  /-- A chunk of output, with the turns whose ends its bells report. -/
  | output (terminalId data : String) (turns : List Nat) (now : Int)
  | proxyCompleted (terminalId threadId : String) (turnId status : Option String) (turn : Nat) (now : Int)
  | rollout (terminalId : String) (events : CodexTaskEvents) (turn : Nat) (now : Int)
  | expire (now : Int)

namespace Lanes

def new : Lanes := ⟨{},fun _ => {}⟩

def stateOf (lanes : Lanes) (terminalId : String) : Option TerminalActivity := lanes.tracker.states.lookup terminalId

/-- A call of the tracker, after the log of its terminal was brought up to date. -/
def took (lanes : Lanes) (terminalId : String) (note : TurnLog → TurnLog)
    (result : CodexActivityTracker × List CodexEffect) : Lanes where
  tracker := result.1
  logs id :=
    (if id = terminalId then note (lanes.logs id) else lanes.logs id).settle (lanes.stateOf id)
      (result.1.states.lookup id) (completionsOf id result.2)

def clearsTurn (log : TurnLog) (events : CodexTaskEvents) (turn : Nat) : Bool :=
  events.latestTaskStartedAt.isNone &&
    match events.observedClear,log.submitOf turn with
    | some cleared,some submitted => submitted ≤ cleared
    | _,_ => false

/-- Turns end after they were asked for, and each lane reports ends of its terminal in
    order and once. -/
def enabled (lanes : Lanes) (op : LaneOp) : Bool :=
  match op with
  | .submit id data _ => isSubmitInput data && (lanes.stateOf id).isSome
  | .ends id => (lanes.logs id).ended < (lanes.logs id).submits.length
  | .output id data turns _ =>
    match lanes.stateOf id with
    | some state =>
      turns.length == clearCount data state.parserState && (lanes.logs id).inOrder (lanes.logs id).rung turns
    | none => false
  | .proxyCompleted id threadId _ _ turn _ =>
    match lanes.stateOf id with
    | some state => state.sessionId == some threadId && (lanes.logs id).inOrder (lanes.logs id).proxied [turn]
    | none => false
  | .rollout id events turn _ =>
    (lanes.stateOf id).isSome && (lanes.logs id).inOrder (lanes.logs id).cleared [turn] &&
      clearsTurn (lanes.logs id) events turn
  | _ => true

def take (lanes : Lanes) (op : LaneOp) : Lanes :=
  match op with
  | .track id sessionId now => lanes.took id (fun log => log) (lanes.tracker.trackTerminal id sessionId now)
  | .bind id sessionId => lanes.took id (fun log => log) (lanes.tracker.bindSession id sessionId)
  | .exit id => lanes.took id (fun log => log) (lanes.tracker.noteExit id)
  | .submit id data now =>
    lanes.took id (fun log => log.submitted (lanes.stateOf id) now) (lanes.tracker.noteInput id data now)
  | .ends id => lanes.took id (fun log => { log with ended := log.ended + 1 }) (lanes.tracker,[])
  | .output id data turns now =>
    lanes.took id
      (fun log => { log with rung := turns.getLast?.getD log.rung, reported := log.reported ++ turns })
      (lanes.tracker.noteOutput id data now)
  | .proxyCompleted id threadId turnId status turn now =>
    lanes.took id (fun log => { log with proxied := turn, reported := log.reported ++ [turn] })
      (lanes.tracker.noteProxyTurnCompleted id threadId turnId status now)
  | .rollout id events turn now =>
    lanes.took id (fun log => { log with cleared := turn, reported := log.reported ++ [turn] })
      (lanes.tracker.reconcileRollout id events now)
  | .expire now => lanes.took "" (fun log => log) (lanes.tracker.expire now)

def next (lanes : Lanes) (op : LaneOp) : Lanes := if lanes.enabled op then lanes.take op else lanes

end Lanes

/-! ### The condition -/

def TerminalActivity.held (state : TerminalActivity) : Nat :=
  if state.pendingSubmitAt.isSome then if state.queuedSubmitAt.isSome then 2 else 1 else 0

/-- Clears that get through end the turn that is held last, and it is rung for. -/
def TerminalActivity.rings (state : TerminalActivity) (clears : Nat) (record : Bool) : Bool :=
  state.pendingSubmitAt.isSome && decide (state.held ≤ clears) && record &&
    state.lastEmittedTurnKey != state.queuedSubmitAt.or state.pendingSubmitAt

def TerminalActivity.passesProxy (state : TerminalActivity) (threadId : String) (turnId status : Option String) : Bool :=
  state.sessionId == some threadId && status != some "inProgress" && !state.staleTurnId turnId &&
    !state.swallowNextProxyComplete

/-- The rollout's clear is new, is not swallowed and is not before the pending submit. -/
def TerminalActivity.passesRollout (state : TerminalActivity) (events : CodexTaskEvents) : Bool :=
  match events.observedClear with
  | none => false
  | some cleared =>
    (state.lastClearedAt.map fun seen => decide (cleared > seen)).getD true && !state.swallowNextReconcileClear &&
      (state.pendingSubmitAt.map fun submitted => decide (cleared ≥ submitted)).getD false

/-- The ends that a lane reports, and how many of them get through to the turns. -/
structure Report where
  terminalId : String
  turns : List Nat
  clears : Nat
  record : Bool
deriving DecidableEq, Repr

namespace Lanes

def reportOf (lanes : Lanes) (op : LaneOp) : Option Report :=
  match op with
  | .output id data turns _ =>
    (lanes.stateOf id).map fun state =>
      ⟨id,turns,clearCount data state.parserState - (if state.swallowNextBel then 1 else 0),true⟩
  | .proxyCompleted id threadId turnId status turn _ =>
    (lanes.stateOf id).map fun state =>
      ⟨id,[turn],if state.passesProxy threadId turnId status then 1 else 0,ringsFor status⟩
  | .rollout id events turn _ =>
    (lanes.stateOf id).map fun state => ⟨id,[turn],if state.passesRollout events then 1 else 0,events.recorded⟩
  | _ => none

/-- No end of the turn held last is among those reported, this report's included. -/
def Late (log : TurnLog) (turns : List Nat) : Prop :=
  ∃ turn, log.lastHeld = some turn ∧ turn ∉ log.reported ∧ turn ∉ turns

def Timely (lanes : Lanes) (op : LaneOp) : Prop :=
  lanes.enabled op = true → ∀ report, lanes.reportOf op = some report → ∀ state,
    lanes.stateOf report.terminalId = some state → Late (lanes.logs report.terminalId) report.turns →
      state.rings report.clears report.record = false

/-- After a step, the completions of every terminal are as they are to be. -/
def Tells (lanes : Lanes) (op : LaneOp) : Prop := ∀ id, ((lanes.next op).logs id).Honest

end Lanes

/-! ### What a call does to the turns of a terminal -/

/-- No lane has reported a start, so that the terminal waits for a submitted turn or is idle. -/
structure Calm (terminalId : String) (state : TerminalActivity) : Prop where
  own : state.terminalId = terminalId
  unaccepted : state.acceptedStartAt = none
  phase : state.phase = if state.pendingSubmitAt.isSome then .pending else .idle

/-- What happens to the held turns: they stay, the queued one comes up, or they are
    given up, and then the last one may be rung for. -/
inductive Moves (before after : Option TerminalActivity) : Bool → Prop where
  | keeps (pending : pendingOf after = pendingOf before) (queued : queuedOf after = queuedOf before) :
      Moves before after false
  | rearms (pending : pendingOf after = queuedOf before) (waits : (queuedOf before).isSome)
      (queued : queuedOf after = none) : Moves before after false
  | drops (pending : pendingOf after = none) (queued : queuedOf after = none ∨ queuedOf after = queuedOf before) :
      Moves before after false
  | rings (waits : (pendingOf before).isSome) (pending : pendingOf after = none) (queued : queuedOf after = none) :
      Moves before after true

structure Passes (terminalId : String) (pass : TurnPass) (rang : Bool) (after : TurnPass) : Prop where
  calm : Calm terminalId after.state
  moves : Moves (some pass.state) (some after.state) rang
  ledger : ∀ other, after.ledger.seqOf other =
    pass.ledger.seqOf other + if rang = true ∧ other = terminalId then 1 else 0
  completions : after.completions.map Completion.completionSeq =
    pass.completions.map Completion.completionSeq ++ if rang then [pass.ledger.seqOf terminalId + 1] else []

variable {id : String} {pass : TurnPass} {state : TerminalActivity}

theorem settle_going (going : pass.state.phase ≠ .idle) (key : Option Int) (now : Int) (record : Bool) :
    settle pass key now record = pass := by
  cases key with
  | none => cases record <;> rfl
  | some key => cases record <;> simp [settle,recordCompletionIfIdle,claimTurnKeyIfIdle,going]

theorem settle_idle (idle : pass.state.phase = .idle) (key now : Int) (record : Bool) :
    settle pass (some key) now record =
      if record && pass.state.lastEmittedTurnKey != some key then
        ⟨{ pass.state with lastEmittedTurnKey := some key },
          (pass.ledger.recordTurnCompletion pass.state.terminalId now).2,
          pass.completions ++ [⟨pass.state.sessionId,now,
            (pass.ledger.recordTurnCompletion pass.state.terminalId now).1⟩]⟩
      else { pass with state := { pass.state with lastEmittedTurnKey := some key } } := by
  cases record with
  | false => simp [settle,claimTurnKeyIfIdle,idle]
  | true =>
    by_cases again : pass.state.lastEmittedTurnKey = some key
    · have same : { pass.state with lastEmittedTurnKey := some key } = pass.state := by rw [← again]
      rw [same]
      simp [settle,recordCompletionIfIdle,idle,again]
    · simp [settle,recordCompletionIfIdle,idle,again]

theorem Calm.keeps (calm : Calm id pass.state) : Passes id pass false pass :=
  ⟨calm,.keeps rfl rfl,by simp,by simp⟩

/-- The clear of the pending turn where another is queued. -/
def TerminalActivity.rearmed (state : TerminalActivity) (submitted now : Int) : TerminalActivity :=
  { state with
    acceptedStartAt := none, updatedAt := now, lastObservedAt := now, phase := .pending
    pendingSubmitAt := some submitted, pendingFreshnessAt := some now
    pendingUntil := some (now + pendingSubmitGateMs), queuedSubmitAt := none }

theorem Calm.rearms (calm : Calm id pass.state) {queued : Int} (queues : pass.state.queuedSubmitAt = some queued)
    (now : Int) (record : Bool) :
    transitionPendingAfterTurnClear pass now record = { pass with state := pass.state.rearmed queued now } := by
  have rearmed : pass.state.clearTurn now = pass.state.rearmed queued now := by
    simp [TerminalActivity.clearTurn,TerminalActivity.hasQueuedSubmit,TerminalActivity.rearmed,queues,calm.unaccepted]
  unfold transitionPendingAfterTurnClear
  rw [rearmed,settle_going (by simp [TerminalActivity.rearmed])]

theorem Calm.lasts (calm : Calm id pass.state) (waits : pass.state.pendingSubmitAt.isSome)
    (last : pass.state.queuedSubmitAt = none) (now : Int) (record : Bool) :
    let after := transitionPendingAfterTurnClear pass now record
    Passes id pass (pass.state.rings 1 record) after ∧ after.state.pendingSubmitAt = none ∧
      after.state.swallowNextBel = pass.state.swallowNextBel := by
  obtain ⟨submitted,pending⟩ := Option.isSome_iff_exists.mp waits
  have ended : pass.state.clearTurn now =
      { pass.state with
        acceptedStartAt := none, updatedAt := now, lastObservedAt := now, phase := .idle
        pendingSubmitAt := none, pendingFreshnessAt := none, pendingUntil := none, queuedSubmitAt := none } := by
    simp [TerminalActivity.clearTurn,TerminalActivity.hasQueuedSubmit,last]
  have rang : pass.state.rings 1 record = (record && pass.state.lastEmittedTurnKey != some submitted) := by
    simp [TerminalActivity.rings,TerminalActivity.held,pending,last]
  unfold transitionPendingAfterTurnClear
  rw [rang,ended,pending,settle_idle rfl]
  dsimp only
  split
  next rings =>
    rw [rings]
    refine ⟨⟨⟨calm.own,rfl,rfl⟩,.rings (by simp [pendingOf,pending]) rfl rfl,fun other => ?_,?_⟩,rfl,rfl⟩
    · simp only [TurnCompletionLedger.seqOf_record,calm.own,true_and]
      split
      next same => rw [same]
      next => rfl
    · simp [TurnCompletionLedger.recordTurnCompletion,calm.own]
  next silent =>
    rw [Bool.not_eq_true] at silent
    rw [silent]
    exact ⟨⟨⟨calm.own,rfl,rfl⟩,.drops rfl (.inl rfl),by simp,by simp⟩,rfl,rfl⟩

theorem Calm.clears (calm : Calm id pass.state) (waits : pass.state.pendingSubmitAt.isSome) (now : Int)
    (record : Bool) :
    Passes id pass (pass.state.rings 1 record) (transitionPendingAfterTurnClear pass now record) := by
  cases queued : pass.state.queuedSubmitAt with
  | some next =>
    have silent : pass.state.rings 1 record = false := by
      simp [TerminalActivity.rings,TerminalActivity.held,waits,queued]
    rw [silent,calm.rearms queued]
    exact ⟨⟨calm.own,rfl,rfl⟩,.rearms (by simp [pendingOf,queuedOf,queued,TerminalActivity.rearmed])
      (by simp [queuedOf,queued]) rfl,by simp,by simp⟩
  | none => exact (calm.lasts waits queued now record).1

theorem Calm.unheard (calm : Calm id pass.state) (idle : pass.state.pendingSubmitAt = none)
    (armed : pass.state.swallowNextBel = false) (now : Int) (bells : Nat) : clearBells pass now bells = pass := by
  cases bells with
  | zero => rfl
  | succ bells =>
    have phase : pass.state.phase = .idle := by simpa [idle] using calm.phase
    simp [clearBells,armed,consumeTurnCompleteSignal,phase,calm.unaccepted]

structure SameTurns (before after : TerminalActivity) : Prop where
  terminalId : after.terminalId = before.terminalId
  acceptedStartAt : after.acceptedStartAt = before.acceptedStartAt
  phase : after.phase = before.phase
  pendingSubmitAt : after.pendingSubmitAt = before.pendingSubmitAt
  queuedSubmitAt : after.queuedSubmitAt = before.queuedSubmitAt
  lastEmittedTurnKey : after.lastEmittedTurnKey = before.lastEmittedTurnKey

theorem Calm.congr (calm : Calm id state) {after : TerminalActivity} (same : SameTurns state after) : Calm id after where
  own := same.terminalId.trans calm.own
  unaccepted := same.acceptedStartAt.trans calm.unaccepted
  phase := by rw [same.phase,same.pendingSubmitAt,calm.phase]

theorem SameTurns.rings {after : TerminalActivity} (same : SameTurns state after) (clears : Nat) (record : Bool) :
    after.rings clears record = state.rings clears record := by
  unfold TerminalActivity.rings TerminalActivity.held
  rw [same.pendingSubmitAt,same.queuedSubmitAt,same.lastEmittedTurnKey]

variable {rang : Bool} {after : TurnPass}

theorem Passes.after_congr (passes : Passes id pass rang after) {state : TerminalActivity}
    (same : SameTurns after.state state) : Passes id pass rang { after with state := state } where
  calm := passes.calm.congr same
  moves := by
    have pending : pendingOf (some state) = pendingOf (some after.state) := same.pendingSubmitAt
    have queued : queuedOf (some state) = queuedOf (some after.state) := same.queuedSubmitAt
    cases passes.moves with
    | keeps first second => exact .keeps (pending.trans first) (queued.trans second)
    | rearms first waits second => exact .rearms (pending.trans first) waits (queued.trans second)
    | drops first second =>
      rw [← pending] at first
      rw [← queued] at second
      exact .drops first second
    | rings waits first second => exact .rings waits (pending.trans first) (queued.trans second)
  ledger := passes.ledger
  completions := passes.completions

theorem Passes.before_congr {rang : Bool} {after : TurnPass} {state : TerminalActivity}
    (passes : Passes id { pass with state := state } rang after) (same : SameTurns pass.state state) :
    Passes id pass rang after where
  calm := passes.calm
  moves := by
    have pending : pendingOf (some state) = pendingOf (some pass.state) := same.pendingSubmitAt
    have queued : queuedOf (some state) = queuedOf (some pass.state) := same.queuedSubmitAt
    cases passes.moves with
    | keeps first second => exact .keeps (first.trans pending) (second.trans queued)
    | rearms first waits second => exact .rearms (first.trans queued) (queued ▸ waits) second
    | drops first second => exact .drops first (queued ▸ second)
    | rings waits first second => exact .rings (pending ▸ waits) first second
  ledger := passes.ledger
  completions := passes.completions

@[simp] theorem TerminalActivity.rings_zero (state : TerminalActivity) (record : Bool) : state.rings 0 record = false := by
  unfold TerminalActivity.rings TerminalActivity.held
  cases pending : state.pendingSubmitAt with
  | none => rfl
  | some _ =>
    cases state.queuedSubmitAt with
    | none => rfl
    | some _ => rfl

theorem TerminalActivity.rings_idle (idle : state.pendingSubmitAt = none) (clears : Nat) (record : Bool) :
    state.rings clears record = false := by
  simp [TerminalActivity.rings,idle]

@[simp] theorem clearBells_zero (now : Int) : clearBells pass now 0 = pass := rfl

def TurnPass.swallowAfterBell (pass : TurnPass) : TurnPass :=
  { pass with state := { pass.state with swallowNextProxyComplete := true } }

theorem clearBells_succ (armed : pass.state.swallowNextBel = false) (phase : pass.state.phase = .pending)
    (waits : pass.state.pendingSubmitAt.isSome) (now : Int) (bells : Nat) :
    clearBells pass now (bells + 1) =
      clearBells (transitionPendingAfterTurnClear pass now true).swallowAfterBell now bells := by
  simp [clearBells,armed,consumeTurnCompleteSignal,phase,waits,TurnPass.swallowAfterBell]

theorem Calm.lastBells (calm : Calm id pass.state) (waits : pass.state.pendingSubmitAt.isSome)
    (last : pass.state.queuedSubmitAt = none) (armed : pass.state.swallowNextBel = false) (now : Int) (bells : Nat) :
    Passes id pass (pass.state.rings bells true) (clearBells pass now bells) := by
  cases bells with
  | zero => simpa using calm.keeps
  | succ bells =>
    have phase : pass.state.phase = .pending := by simpa [waits] using calm.phase
    obtain ⟨passes,idle,still⟩ := calm.lasts waits last now true
    have same : SameTurns (transitionPendingAfterTurnClear pass now true).state
      (transitionPendingAfterTurnClear pass now true).swallowAfterBell.state := ⟨rfl,rfl,rfl,rfl,rfl,rfl⟩
    have rings : pass.state.rings (bells + 1) true = pass.state.rings 1 true := by
      simp [TerminalActivity.rings,TerminalActivity.held,waits,last]
    rw [clearBells_succ armed phase waits,(passes.calm.congr same).unheard idle (still.trans armed),rings]
    exact passes.after_congr same

theorem Calm.unarmed (calm : Calm id pass.state) (armed : pass.state.swallowNextBel = false) (now : Int) (bells : Nat) :
    Passes id pass (pass.state.rings bells true) (clearBells pass now bells) := by
  cases pending : pass.state.pendingSubmitAt with
  | none =>
    rw [calm.unheard pending armed,TerminalActivity.rings_idle pending]
    exact calm.keeps
  | some submitted =>
    have waits : pass.state.pendingSubmitAt.isSome := by rw [pending]; rfl
    cases queued : pass.state.queuedSubmitAt with
    | none => exact calm.lastBells waits queued armed now bells
    | some next =>
      cases bells with
      | zero => simpa using calm.keeps
      | succ bells =>
        have phase : pass.state.phase = .pending := by simpa [pending] using calm.phase
        let comes : TurnPass := TurnPass.swallowAfterBell { pass with state := pass.state.rearmed next now }
        have rest := @Calm.lastBells id comes ⟨calm.own,rfl,rfl⟩ rfl rfl armed now bells
        have rings : comes.state.rings bells true = pass.state.rings (bells + 1) true := by
          simp [comes,TurnPass.swallowAfterBell,TerminalActivity.rearmed,TerminalActivity.rings,TerminalActivity.held,
            pending,queued]
        rw [clearBells_succ armed phase waits,calm.rearms queued,← rings]
        generalize comes.state.rings bells true = rang at rest
        refine ⟨rest.calm,?_,rest.ledger,rest.completions⟩
        have upcoming : pendingOf (some comes.state) = queuedOf (some pass.state) := queued.symm
        cases rest.moves with
        | keeps first second => exact .rearms (first.trans upcoming) (by simp [queuedOf,queued]) second
        | rearms _ none_ _ => cases none_
        | drops first second => exact .drops first (.inl (second.elim (fun gone => gone) fun gone => gone))
        | rings _ first second => exact .rings (by simp [pendingOf,pending]) first second

/-- The bells of a chunk: the first may be swallowed, and each of the others clears a
    turn until none is left. -/
theorem Calm.bells (calm : Calm id pass.state) (now : Int) (bells : Nat) :
    Passes id pass (pass.state.rings (bells - if pass.state.swallowNextBel then 1 else 0) true)
      (clearBells pass now bells) := by
  cases armed : pass.state.swallowNextBel with
  | true =>
    cases bells with
    | zero => simpa [TerminalActivity.rings_zero] using calm.keeps
    | succ bells =>
      have same : SameTurns pass.state { pass.state with swallowNextBel := false } := ⟨rfl,rfl,rfl,rfl,rfl,rfl⟩
      have rest := @Calm.unarmed id { pass with state := { pass.state with swallowNextBel := false } }
        (calm.congr same) rfl now bells
      rw [same.rings] at rest
      simpa [clearBells,armed] using rest.before_congr same
  | false => simpa using calm.unarmed armed now bells

/-! ### What a call does to the tracker -/

variable {tracker : CodexActivityTracker} {result : CodexActivityTracker × List CodexEffect}

/-- A call keeps the terminals calm, and completes at most one turn of each. -/
structure Calls (tracker : CodexActivityTracker) (result : CodexActivityTracker × List CodexEffect)
    (rang : String → Bool) : Prop where
  calm : ∀ id state, result.1.states.lookup id = some state → Calm id state
  moves : ∀ id, Moves (tracker.states.lookup id) (result.1.states.lookup id) (rang id)
  seq : ∀ id, result.1.ledger.seqOf id = tracker.ledger.seqOf id + if rang id then 1 else 0
  completions : ∀ id, completionsOf id result.2 = if rang id then [tracker.ledger.seqOf id + 1] else []

def only (id : String) (rang : Bool) (other : String) : Bool := rang && other == id

@[simp] theorem only_false (id : String) : only id false = fun _ => false := rfl

@[simp] theorem completionsOf_append (first second : List CodexEffect) :
    completionsOf id (first ++ second) = completionsOf id first ++ completionsOf id second := by
  simp [completionsOf]

@[simp] theorem completionsOf_changed (previous : Option CodexActivityRecord) (next : CodexActivityRecord) :
    completionsOf id (changed previous next) = [] := by
  unfold changed
  split
  · rfl
  · rfl

def AllCalm (tracker : CodexActivityTracker) : Prop := ∀ id state, tracker.states.lookup id = some state → Calm id state

theorem AllCalm.unchanged (calm : AllCalm tracker) : Calls tracker (tracker,[]) fun _ => false where
  calm := calm
  moves _ := .keeps rfl rfl
  seq _ := rfl
  completions _ := rfl

theorem AllCalm.updated (calm : AllCalm tracker) {next : TerminalActivity} (kept : Calm id next)
    (moves : Moves (tracker.states.lookup id) (some next) false) {effects : List CodexEffect}
    (silent : ∀ other, completionsOf other effects = []) :
    Calls tracker (tracker.update id next,effects) fun _ => false where
  calm other state found := by
    simp only [CodexActivityTracker.update,lookup_insert] at found
    split at found
    next same => exact same ▸ Option.some.inj found ▸ kept
    next => exact calm other state found
  moves other := by
    simp only [CodexActivityTracker.update,lookup_insert]
    split
    next same => exact same ▸ moves
    next => exact .keeps rfl rfl
  seq _ := rfl
  completions := silent

theorem AllCalm.passed (calm : AllCalm tracker) (found : tracker.states.lookup id = some state)
    (passes : Passes id ⟨state,tracker.ledger,[]⟩ rang after) (previous : TerminalActivity) :
    Calls tracker (tracker.finish id previous after) (only id rang) where
  calm other held listed := by
    simp only [CodexActivityTracker.finish,lookup_insert] at listed
    split at listed
    next same => exact same ▸ Option.some.inj listed ▸ passes.calm
    next => exact calm other held listed
  moves other := by
    simp only [CodexActivityTracker.finish,lookup_insert,only]
    split
    next same =>
      subst same
      rw [found]
      simpa using passes.moves
    next different =>
      have silent : (rang && other == id) = false := by simp [different]
      rw [silent]
      exact .keeps rfl rfl
  seq other := by
    show after.ledger.seqOf other = _
    simpa [only] using passes.ledger other
  completions other := by
    have numbers := passes.completions
    simp only [List.map_nil,List.nil_append] at numbers
    have listed : completionsOf other (after.completions.map fun done =>
        .turnComplete after.state.terminalId done.sessionId done.completedAt done.completionSeq) =
          if other = id then after.completions.map Completion.completionSeq else [] := by
      rw [passes.calm.own]
      unfold completionsOf
      induction after.completions with
      | nil => simp
      | cons done rest ih =>
        rw [List.map_cons,List.filterMap_cons,ih]
        by_cases same : other = id
        · simp [same]
        · simp [same,Ne.symm same]
    simp only [CodexActivityTracker.finish,effectsAfterTransition,completionsOf_append,completionsOf_changed,
      List.nil_append,listed,numbers,only]
    by_cases same : other = id
    · simp [same]
    · simp [same]

/-! ### The turns that the tracker holds -/

/-- The log of a terminal agrees with the tracker, and the turns held are yet to be completed. -/
structure Follows (tracker : CodexActivityTracker) (id : String) (log : TurnLog) : Prop where
  calm : ∀ state, tracker.states.lookup id = some state → Calm id state
  pending : log.pending.isSome = (pendingOf (tracker.states.lookup id)).isSome
  queued : log.queued.isSome = (queuedOf (tracker.states.lookup id)).isSome
  seq : tracker.ledger.seqOf id = log.completed.length
  numbered : log.completed.map Prod.snd = List.range' 1 log.completed.length
  once : (log.completed.map Prod.fst).Nodup
  held : ∀ turn, log.pending = some turn ∨ log.queued = some turn →
    turn ≤ log.submits.length ∧ some turn ∉ log.completed.map Prod.fst
  asked : ∀ turn, some turn ∈ log.completed.map Prod.fst → turn ≤ log.submits.length

theorem follows_new (id : String) : Follows {} id {} where
  calm _ found := by simp at found
  pending := rfl
  queued := rfl
  seq := rfl
  numbered := rfl
  once := List.nodup_nil
  held _ held := by cases held <;> contradiction
  asked _ listed := by cases listed

variable {log : TurnLog}

theorem Follows.lastHeld (follows : Follows tracker id log) (waits : (pendingOf (tracker.states.lookup id)).isSome) :
    ∃ turn, log.lastHeld = some turn ∧ (log.pending = some turn ∨ log.queued = some turn) := by
  obtain ⟨first,pending⟩ := Option.isSome_iff_exists.mp (follows.pending.trans waits)
  cases queued : log.queued with
  | none => exact ⟨first,by simp [TurnLog.lastHeld,queued,pending],.inl pending⟩
  | some second => exact ⟨second,by simp [TurnLog.lastHeld,queued],.inr rfl⟩

namespace TurnLog
variable (log : TurnLog) (before after : Option TerminalActivity) (seqs : List Nat)

@[simp] theorem settle_completed :
    (log.settle before after seqs).completed = log.completed ++ seqs.map fun seq => (log.lastHeld,seq) := by
  unfold settle
  dsimp only
  split
  · rfl
  · split <;> rfl

@[simp] theorem settle_submits : (log.settle before after seqs).submits = log.submits := by
  unfold settle
  dsimp only
  split
  · rfl
  · split <;> rfl

@[simp] theorem settle_reported : (log.settle before after seqs).reported = log.reported := by
  unfold settle
  dsimp only
  split
  · rfl
  · split <;> rfl

variable (now : Int)

theorem submitted_pending : (log.submitted before now).pending =
    if (pendingOf before).isNone then some (log.submits.length + 1) else log.pending := by
  unfold submitted
  dsimp only
  split
  · rfl
  · split <;> rfl

theorem submitted_queued : (log.submitted before now).queued =
    if (pendingOf before).isSome && (queuedOf before).isNone then some (log.submits.length + 1) else log.queued := by
  unfold submitted
  cases pendingOf before with
  | none => rfl
  | some _ => cases queuedOf before <;> rfl

@[simp] theorem submitted_completed : (log.submitted before now).completed = log.completed := by
  unfold submitted
  dsimp only
  split
  · rfl
  · split <;> rfl

@[simp] theorem submitted_submits : (log.submitted before now).submits = log.submits ++ [now] := by
  unfold submitted
  dsimp only
  split
  · rfl
  · split <;> rfl

@[simp] theorem submitted_reported : (log.submitted before now).reported = log.reported := by
  unfold submitted
  dsimp only
  split
  · rfl
  · split <;> rfl

variable {log before after seqs}

theorem held_of_settle {turn : Nat}
    (held : (log.settle before after seqs).pending = some turn ∨ (log.settle before after seqs).queued = some turn) :
    log.pending = some turn ∨ log.queued = some turn := by
  unfold settle at held
  dsimp only at held
  split at held
  · obtain none_ | queued := held
    · cases none_
    · dsimp only at queued
      split at queued
      · cases queued
      · exact .inr queued
  · split at held
    · obtain pending | none_ := held
      · exact .inr pending
      · cases none_
    · exact held

end TurnLog

theorem Follows.settle_slots (follows : Follows tracker id log) {after : Option TerminalActivity}
    (moves : Moves (tracker.states.lookup id) after rang) (seqs : List Nat) :
    (log.settle (tracker.states.lookup id) after seqs).pending.isSome = (pendingOf after).isSome ∧
      (log.settle (tracker.states.lookup id) after seqs).queued.isSome = (queuedOf after).isSome := by
  have pending := follows.pending
  have queued := follows.queued
  unfold TurnLog.settle
  dsimp only
  cases moves with
  | keeps first second =>
    rw [first,second]
    generalize pendingOf (tracker.states.lookup id) = held at pending
    generalize queuedOf (tracker.states.lookup id) = next at queued
    cases held <;> cases next <;> simp_all
  | rearms first waits second =>
    rw [first,second]
    generalize queuedOf (tracker.states.lookup id) = next at queued waits
    cases next <;> simp_all
  | drops first second =>
    obtain gone | same := second
    · simp [first,gone]
    · rw [first,same]
      generalize queuedOf (tracker.states.lookup id) = next at queued
      cases next <;> simp_all
  | rings _ first second => simp [first,second]

theorem Follows.settle (follows : Follows tracker id log) {tracker' : CodexActivityTracker}
    (calm : ∀ state, tracker'.states.lookup id = some state → Calm id state)
    (moves : Moves (tracker.states.lookup id) (tracker'.states.lookup id) rang)
    (seq : tracker'.ledger.seqOf id = tracker.ledger.seqOf id + if rang then 1 else 0) {seqs : List Nat}
    (numbers : seqs = if rang then [tracker.ledger.seqOf id + 1] else []) :
    Follows tracker' id (log.settle (tracker.states.lookup id) (tracker'.states.lookup id) seqs) := by
  obtain ⟨pending,queued⟩ := follows.settle_slots moves seqs
  cases rang with
  | false =>
    subst numbers
    refine ⟨calm,pending,queued,?_,?_,?_,fun turn held => ?_,?_⟩
    · simpa [follows.seq] using seq
    · simpa using follows.numbered
    · simpa using follows.once
    · simpa using follows.held turn (TurnLog.held_of_settle held)
    · simpa using follows.asked
  | true =>
    subst numbers
    cases moves with
    | rings waits none_ noneQueued =>
      obtain ⟨last,lastHeld,held⟩ := follows.lastHeld waits
      obtain ⟨asked,fresh⟩ := follows.held last held
      rw [none_,Option.isSome_none,Option.isSome_eq_false_iff,Option.isNone_iff_eq_none] at pending
      rw [noneQueued,Option.isSome_none,Option.isSome_eq_false_iff,Option.isNone_iff_eq_none] at queued
      refine ⟨calm,by rw [none_,pending]; rfl,by rw [noneQueued,queued]; rfl,?_,?_,?_,fun turn held => ?_,fun turn listed => ?_⟩
      · simpa [follows.seq] using seq
      · simp [follows.numbered,follows.seq,List.range'_1_concat,Nat.add_comm 1]
      · simp only [TurnLog.settle_completed,if_true,List.map_cons,List.map_nil,List.map_append,lastHeld]
        refine List.nodup_append.mpr ⟨follows.once,by simp,fun first listed second last => ?_⟩
        rw [List.mem_singleton.mp last]
        exact fun same => fresh (same ▸ listed)
      · rw [pending,queued] at held
        cases held <;> contradiction
      · simp only [TurnLog.settle_completed,TurnLog.settle_submits,if_true,List.map_cons,List.map_nil,List.map_append,
          lastHeld,List.mem_append,List.mem_singleton] at listed ⊢
        obtain earlier | now := listed
        · exact follows.asked turn earlier
        · exact Option.some.inj now ▸ asked

/-! ### The calls -/

theorem Calm.fresh (id : String) (sessionId : Option String) (now : Int) :
    Calm id { terminalId := id, sessionId := sessionId, updatedAt := now, lastObservedAt := now } :=
  ⟨rfl,rfl,rfl⟩

theorem TerminalActivity.rebind_same (state : TerminalActivity) (sessionId : String) :
    SameTurns state (state.rebind sessionId) := ⟨rfl,rfl,rfl,rfl,rfl,rfl⟩

theorem AllCalm.trackTerminal (calm : AllCalm tracker) (id : String) (sessionId : Option String) (now : Int) :
    Calls tracker (tracker.trackTerminal id sessionId now) fun _ => false := by
  unfold CodexActivityTracker.trackTerminal
  cases found : tracker.states.lookup id with
  | none =>
    refine calm.updated (.fresh id sessionId now) ?_ fun other => completionsOf_changed _ _
    rw [found]
    exact .keeps rfl rfl
  | some state =>
    cases sessionId with
    | none => exact calm.unchanged
    | some session =>
      dsimp only
      split
      · exact calm.unchanged
      · refine calm.updated ((calm id state found).congr (state.rebind_same session)) ?_
          fun other => completionsOf_changed _ _
        rw [found]
        exact .keeps rfl rfl

theorem AllCalm.bindSession (calm : AllCalm tracker) (id sessionId : String) :
    Calls tracker (tracker.bindSession id sessionId) fun _ => false := by
  unfold CodexActivityTracker.bindSession
  cases found : tracker.states.lookup id with
  | none => exact calm.unchanged
  | some state =>
    dsimp only
    split
    · exact calm.unchanged
    · refine calm.updated ((calm id state found).congr (state.rebind_same sessionId)) ?_
        fun other => completionsOf_changed _ _
      rw [found]
      exact .keeps rfl rfl

theorem AllCalm.noteExit (calm : AllCalm tracker) (id : String) :
    Calls tracker (tracker.noteExit id) fun _ => false := by
  unfold CodexActivityTracker.noteExit
  cases found : tracker.states.lookup id with
  | none => exact calm.unchanged
  | some state =>
    refine ⟨fun other held listed => ?_,fun other => ?_,fun _ => rfl,fun _ => rfl⟩
    · simp only [lookup_erase] at listed
      split at listed
      · cases listed
      · exact calm other held listed
    · simp only [lookup_erase]
      split
      · exact .drops rfl (.inl rfl)
      · exact .keeps rfl rfl

theorem Calm.decay (calm : Calm id state) (deadman now : Int) :
    Calm id (state.decay deadman now).1 ∧ Moves (some state) (some (state.decay deadman now).1) false ∧
      (state.decay deadman now).2 = [] := by
  unfold TerminalActivity.decay
  split
  · split
    · exact ⟨⟨calm.own,calm.unaccepted,rfl⟩,.drops rfl (.inr rfl),rfl⟩
    · exact ⟨calm,.keeps rfl rfl,rfl⟩
  · split
    next busy =>
      have phase := calm.phase
      rw [busy] at phase
      split at phase <;> cases phase
    · exact ⟨calm,.keeps rfl rfl,rfl⟩

theorem Calm.expire (calm : Calm id state) (deadman now : Int) :
    Calm id (state.expire deadman now).1 ∧ Moves (some state) (some (state.expire deadman now).1) false ∧
      ∀ other, completionsOf other (state.expire deadman now).2 = [] := by
  obtain ⟨kept,moves,silent⟩ :=
    (calm.congr (⟨rfl,rfl,rfl,rfl,rfl,rfl⟩ : SameTurns state (state.openGate now))).decay deadman now
  refine ⟨kept,?_,fun other => ?_⟩
  · cases moves with
    | keeps first second => exact .keeps first second
    | rearms first waits second => exact .rearms first waits second
    | drops first second => exact .drops first second
  · simp [TerminalActivity.expire,silent]

theorem AllCalm.expire (calm : AllCalm tracker) (now : Int) :
    Calls tracker (tracker.expire now) fun _ => false := by
  refine ⟨fun id state listed => ?_,fun id => ?_,fun _ => rfl,fun id => ?_⟩
  · simp only [CodexActivityTracker.expire,lookup_mapValues] at listed
    obtain ⟨held,found,rfl⟩ := Option.map_eq_some_iff.mp listed
    exact ((calm id held found).expire _ now).1
  · simp only [CodexActivityTracker.expire,lookup_mapValues]
    cases found : tracker.states.lookup id with
    | none => exact .keeps rfl rfl
    | some state => exact ((calm id state found).expire _ now).2.1
  · simp only [CodexActivityTracker.expire,completionsOf,List.filterMap_flatMap,Bool.false_eq_true,if_false]
    refine List.flatMap_eq_nil_iff.mpr fun entry listed => ?_
    have found : tracker.states.lookup entry.1 = some entry.2 := AList.mem_lookup_iff.mpr listed
    exact ((calm entry.1 entry.2 found).expire _ now).2.2 id

theorem Calm.noteInput (calm : Calm id state) (deadman now : Int) :
    Calm id (state.noteInput deadman now) ∧
      (state.noteInput deadman now).pendingSubmitAt = some (state.pendingSubmitAt.getD now) ∧
      (state.noteInput deadman now).queuedSubmitAt =
        if state.pendingSubmitAt.isNone then state.queuedSubmitAt else some (state.queuedSubmitAt.getD now) := by
  have notBusy : state.phase ≠ .busy := by
    rw [calm.phase]
    split <;> simp
  unfold TerminalActivity.noteInput
  simp only [notBusy,false_and,if_false]
  refine ⟨⟨calm.own,calm.unaccepted,?_⟩,?_,?_⟩
  · cases state.pendingSubmitAt <;> rfl
  · cases state.pendingSubmitAt <;> rfl
  · cases state.pendingSubmitAt <;> cases state.queuedSubmitAt <;> rfl

theorem AllCalm.noteOutput (calm : AllCalm tracker) (found : tracker.states.lookup id = some state) (data : String)
    (now : Int) :
    Calls tracker (tracker.noteOutput id data now)
      (only id (state.rings (clearCount data state.parserState - if state.swallowNextBel then 1 else 0) true)) := by
  have kept := calm id state found
  have read : SameTurns state
      { state with parserState := (extractTurnCompleteSignals data "codex" state.parserState).2.2 } :=
    ⟨rfl,rfl,rfl,rfl,rfl,rfl⟩
  simp only [CodexActivityTracker.noteOutput,found]
  split
  next none_ =>
    rw [none_,Nat.zero_sub,TerminalActivity.rings_zero]
    have same (read : TerminalActivity) : SameTurns read (read.observe now) := by
      unfold TerminalActivity.observe
      split
      · exact ⟨rfl,rfl,rfl,rfl,rfl,rfl⟩
      · exact ⟨rfl,rfl,rfl,rfl,rfl,rfl⟩
    refine calm.updated ((kept.congr read).congr (same _)) ?_ fun other => (rfl : completionsOf other [] = [])
    rw [found]
    exact .keeps (same _).pendingSubmitAt (same _).queuedSubmitAt
  next bells =>
    have passes := @Calm.bells id ⟨_,tracker.ledger,[]⟩ (kept.congr read) now (clearCount data state.parserState)
    rw [read.rings] at passes
    exact calm.passed found (@Passes.before_congr id ⟨state,tracker.ledger,[]⟩ _ _ _ passes read) _

theorem Calm.proxyClear (calm : Calm id pass.state) (record : Bool) (now : Int) :
    Passes id pass (pass.state.rings 1 record) (proxyClear pass record now) := by
  have phase := calm.phase
  cases pending : pass.state.pendingSubmitAt with
  | some submitted =>
    have waits : pass.state.pendingSubmitAt.isSome := by rw [pending]; rfl
    simp only [pending,Option.isSome_some,if_true] at phase
    unfold Codex.proxyClear
    dsimp only
    rw [phase]
    exact (calm.clears waits now record).after_congr ⟨rfl,rfl,rfl,rfl,rfl,rfl⟩
  | none =>
    simp only [pending,Option.isSome_none,Bool.false_eq_true,if_false] at phase
    unfold Codex.proxyClear
    dsimp only
    rw [phase,TerminalActivity.rings_idle pending]
    refine ⟨⟨calm.own,rfl,?_⟩,.keeps ?_ rfl,by simp [TurnPass.swallowAfterProxy],by simp [TurnPass.swallowAfterProxy]⟩
    · simp [TurnPass.swallowAfterProxy,claimTurnKeyIfIdle]
    · simp [TurnPass.swallowAfterProxy,claimTurnKeyIfIdle,pendingOf,pending]

theorem AllCalm.noteProxyTurnCompleted (calm : AllCalm tracker) (found : tracker.states.lookup id = some state)
    (threadId : String) (turnId status : Option String) (now : Int) :
    Calls tracker (tracker.noteProxyTurnCompleted id threadId turnId status now)
      (only id (state.rings (if state.passesProxy threadId turnId status then 1 else 0) (ringsFor status))) := by
  have kept := calm id state found
  have stopped {effects : CodexActivityTracker × List CodexEffect} (stops : state.passesProxy threadId turnId status = false)
      (calls : Calls tracker effects fun _ => false) :
      Calls tracker effects
        (only id (state.rings (if state.passesProxy threadId turnId status then 1 else 0) (ringsFor status))) := by
    rw [stops]
    simpa using calls
  simp only [CodexActivityTracker.noteProxyTurnCompleted,found]
  split
  next foreign_ => exact stopped (by simp [TerminalActivity.passesProxy,foreign_]) calm.unchanged
  next bound =>
    split
    next working => exact stopped (by simp [TerminalActivity.passesProxy,working]) calm.unchanged
    next ended =>
      split
      next stale => exact stopped (by simp [TerminalActivity.passesProxy,stale]) calm.unchanged
      next current =>
        split
        next swallows =>
          refine stopped (by simp [TerminalActivity.passesProxy,swallows]) ?_
          have swallowed : SameTurns state
              { state with currentProxyTurnId := none, swallowNextProxyComplete := false } :=
            ⟨rfl,rfl,rfl,rfl,rfl,rfl⟩
          refine calm.updated (kept.congr swallowed) ?_ fun other => (rfl : completionsOf other [] = [])
          rw [found]
          exact .keeps rfl rfl
        next unarmed =>
          have passesProxy : state.passesProxy threadId turnId status = true := by
            simp [TerminalActivity.passesProxy,not_not.mp bound,ended,current,unarmed]
          have accepted : SameTurns state
              { state with currentProxyTurnId := none, pendingApprovals := [], resumeBusyAfterApproval := false } :=
            ⟨rfl,rfl,rfl,rfl,rfl,rfl⟩
          have passes := @Calm.proxyClear id ⟨_,tracker.ledger,[]⟩ (kept.congr accepted) (ringsFor status) now
          rw [accepted.rings] at passes
          rw [passesProxy,if_pos rfl]
          exact calm.passed found (@Passes.before_congr id ⟨state,tracker.ledger,[]⟩ _ _ _ passes accepted) _

theorem TurnPass.swallowAfterReconcile_same (pass : TurnPass) : SameTurns pass.state pass.swallowAfterReconcile.state :=
  ⟨rfl,rfl,rfl,rfl,rfl,rfl⟩

variable {events : CodexTaskEvents}

theorem foldClear_pending {cleared : Int} (observed : events.observedClear = some cleared)
    (isNew : (pass.state.lastClearedAt.map fun seen => decide (cleared > seen)).getD true = true)
    (unarmed : pass.state.swallowNextReconcileClear = false) (phase : pass.state.phase = .pending)
    (anchored : (pass.state.pendingSubmitAt.map fun submitted => decide (cleared ≥ submitted)).getD false = true)
    (now : Int) : foldClear pass events now =
      (transitionPendingAfterTurnClear
        { pass with
          state := { pass.state with lastClearedAt := maxTs pass.state.lastClearedAt (some cleared) } }
        now events.recorded).swallowAfterReconcile := by
  simp [Codex.foldClear,observed,isNew,unarmed,phase,anchored]

theorem foldClear_other (calm : Calm id pass.state) (stops : pass.state.passesRollout events = false) (now : Int) :
    SameTurns pass.state (foldClear pass events now).state ∧
      foldClear pass events now = { pass with state := (foldClear pass events now).state } := by
  unfold Codex.foldClear TerminalActivity.passesRollout at *
  cases observed : events.observedClear with
  | none => exact ⟨⟨rfl,rfl,rfl,rfl,rfl,rfl⟩,rfl⟩
  | some cleared =>
    simp only [observed] at stops
    dsimp only
    split
    · exact ⟨⟨rfl,rfl,rfl,rfl,rfl,rfl⟩,rfl⟩
    next unswallowed =>
      split
      next isNew =>
        have unarmed : pass.state.swallowNextReconcileClear = false := by simpa [isNew] using unswallowed
        split
        next anchored => simp [isNew,unarmed,anchored.2] at stops
        next =>
          split
          next busy =>
            have phase := calm.phase
            split at phase <;> simp [phase] at busy
          next => exact ⟨⟨rfl,rfl,rfl,rfl,rfl,rfl⟩,rfl⟩
      next => exact ⟨⟨rfl,rfl,rfl,rfl,rfl,rfl⟩,rfl⟩

theorem Calm.foldClear (calm : Calm id pass.state) (events : CodexTaskEvents) (now : Int) :
    Passes id pass (pass.state.rings (if pass.state.passesRollout events then 1 else 0) events.recorded)
      (foldClear pass events now) := by
  cases passes : pass.state.passesRollout events with
  | false =>
    obtain ⟨same,shape⟩ := foldClear_other calm passes now
    rw [shape]
    simpa using calm.keeps.after_congr same
  | true =>
    unfold TerminalActivity.passesRollout at passes
    cases observed : events.observedClear with
    | none => simp [observed] at passes
    | some cleared =>
      simp only [observed,Bool.and_eq_true,Bool.not_eq_true'] at passes
      obtain ⟨⟨isNew,unarmed⟩,anchored⟩ := passes
      have waits : pass.state.pendingSubmitAt.isSome := by
        cases pending : pass.state.pendingSubmitAt with
        | none => simp [pending] at anchored
        | some _ => rfl
      have phase : pass.state.phase = .pending := by simpa [waits] using calm.phase
      have seen : SameTurns pass.state
          { pass.state with lastClearedAt := maxTs pass.state.lastClearedAt (some cleared) } :=
        ⟨rfl,rfl,rfl,rfl,rfl,rfl⟩
      have clears := @Calm.clears id { pass with state := _ } (calm.congr seen) waits now events.recorded
      rw [seen.rings] at clears
      rw [if_pos rfl,foldClear_pending observed isNew unarmed phase anchored]
      exact (clears.after_congr (TurnPass.swallowAfterReconcile_same _)).before_congr seen

theorem AllCalm.reconcileRollout (calm : AllCalm tracker) (found : tracker.states.lookup id = some state)
    (unstarted : events.latestTaskStartedAt = none) (now : Int) : Calls tracker (tracker.reconcileRollout id events now)
      (only id (state.rings (if state.passesRollout events then 1 else 0) events.recorded)) := by
  have promoted : state.promote events now = state := by simp [TerminalActivity.promote,unstarted]
  simp only [CodexActivityTracker.reconcileRollout,found,promoted]
  exact calm.passed found (@Calm.foldClear id ⟨state,tracker.ledger,[]⟩ (calm id state found) events now) state

/-! ### Runs -/

/-- An end of each completed turn has been reported. -/
def TurnLog.Reported (log : TurnLog) : Prop := ∀ entry ∈ log.completed, ∃ turn ∈ log.reported, entry.1 = some turn

/-- Bookkeeping that leaves the turns of the tracker, and forgets no report. -/
structure Notes (note : TurnLog → TurnLog) : Prop where
  submits : ∀ log, (note log).submits = log.submits
  pending : ∀ log, (note log).pending = log.pending
  queued : ∀ log, (note log).queued = log.queued
  completed : ∀ log, (note log).completed = log.completed
  reported : ∀ log, log.reported ⊆ (note log).reported

theorem Follows.noted (follows : Follows tracker id log) {note : TurnLog → TurnLog} (notes : Notes note) :
    Follows tracker id (note log) where
  calm := follows.calm
  pending := by rw [notes.pending,follows.pending]
  queued := by rw [notes.queued,follows.queued]
  seq := by rw [notes.completed,follows.seq]
  numbered := by rw [notes.completed,follows.numbered]
  once := by rw [notes.completed]; exact follows.once
  held turn := by
    rw [notes.pending,notes.queued,notes.submits,notes.completed]
    exact follows.held turn
  asked turn := by
    rw [notes.completed,notes.submits]
    exact follows.asked turn

theorem Follows.honest_iff (follows : Follows tracker id log) : log.Honest ↔ log.Reported :=
  ⟨fun honest => honest.ended,fun reported => ⟨follows.once,reported,follows.numbered⟩⟩

theorem TurnLog.reported_settle (reported : log.Reported) (before after : Option TerminalActivity) (rang : Bool)
    (seq : Nat) :
    (log.settle before after (if rang then [seq] else [])).Reported ↔
      (rang = true → ∃ turn ∈ log.reported, log.lastHeld = some turn) := by
  unfold TurnLog.Reported at *
  rw [settle_completed,settle_reported]
  cases rang with
  | false => simpa using reported
  | true =>
    constructor
    · intro all _
      exact all (log.lastHeld,seq) (by simp)
    · intro last entry listed
      obtain earlier | now := List.mem_append.mp listed
      · exact reported entry earlier
      · obtain rfl : entry = (log.lastHeld,seq) := by simpa using now
        exact last rfl

theorem Follows.submitted (follows : Follows tracker id log)
    (found : tracker.states.lookup id = some state) (now : Int) :
    let next := state.noteInput tracker.busyDeadmanMs now
    Follows (tracker.update id next) id ((log.submitted (some state) now).settle (some state) (some next) []) := by
  intro next
  have holds : log.pending.isSome = state.pendingSubmitAt.isSome := by
    rw [follows.pending,found]
    rfl
  have queues : log.queued.isSome = state.queuedSubmitAt.isSome := by
    rw [follows.queued,found]
    rfl
  obtain ⟨calm,pending,queued⟩ := (follows.calm state found).noteInput tracker.busyDeadmanMs now
  have kept : (tracker.update id next).states.lookup id = some next := by simp [CodexActivityTracker.update]
  have still : (log.submitted (some state) now).settle (some state) (some next) [] = log.submitted (some state) now := by
    have waits : pendingOf (some next) = some (state.pendingSubmitAt.getD now) := pending
    have comes : queuedOf (some next) = _ := queued
    have none_ : ((queuedOf (some state)).isSome && (queuedOf (some next)).isNone) = false := by
      rw [comes]
      show (state.queuedSubmitAt.isSome && _) = false
      cases state.pendingSubmitAt <;> cases state.queuedSubmitAt <;> rfl
    unfold TurnLog.settle
    simp only [waits,none_,Option.isNone_some,Bool.false_eq_true,if_false,List.map_nil,List.append_nil]
  rw [still]
  refine ⟨fun held listed => ?_,?_,?_,?_,?_,?_,fun turn held => ?_,fun turn listed => ?_⟩
  · exact Option.some.inj (kept.symm.trans listed) ▸ calm
  · rw [kept,TurnLog.submitted_pending,pendingOf_some,pendingOf_some,pending]
    cases submits : state.pendingSubmitAt with
    | none => rfl
    | some _ => simpa [submits] using holds
  · rw [kept,TurnLog.submitted_queued,pendingOf_some,queuedOf_some,queuedOf_some,queued]
    cases submits : state.pendingSubmitAt with
    | none => simpa using queues
    | some _ =>
      cases next : state.queuedSubmitAt with
      | none => rfl
      | some _ => simpa [next] using queues
  · rw [TurnLog.submitted_completed]
    exact follows.seq
  · simpa using follows.numbered
  · simpa using follows.once
  · rw [TurnLog.submitted_submits,TurnLog.submitted_completed,List.length_append,List.length_singleton]
    have isNew : some (log.submits.length + 1) ∉ log.completed.map Prod.fst := by
      intro listed
      have := follows.asked _ listed
      omega
    have old (held : log.pending = some turn ∨ log.queued = some turn) :
        turn ≤ log.submits.length + 1 ∧ some turn ∉ log.completed.map Prod.fst :=
      ⟨Nat.le_succ_of_le (follows.held turn held).1,(follows.held turn held).2⟩
    rw [TurnLog.submitted_pending,TurnLog.submitted_queued] at held
    obtain pending | queued := held
    · split at pending
      · exact Option.some.inj pending ▸ ⟨le_refl _,isNew⟩
      · exact old (.inl pending)
    · split at queued
      · exact Option.some.inj queued ▸ ⟨le_refl _,isNew⟩
      · exact old (.inr queued)
  · rw [TurnLog.submitted_completed] at listed
    rw [TurnLog.submitted_submits,List.length_append]
    exact Nat.le_add_right_of_le (follows.asked turn listed)

namespace Lanes

structure Sound (lanes : Lanes) : Prop where
  follows : ∀ id, Follows lanes.tracker id (lanes.logs id)
  reported : ∀ id, (lanes.logs id).Reported

theorem sound_new : new.Sound where
  follows := follows_new
  reported _ _ listed := by cases listed

variable {lanes : Lanes}

theorem Sound.calm (sound : lanes.Sound) : AllCalm lanes.tracker := fun id => (sound.follows id).calm

/-- A call keeps the logs in step, and they are honest if what it completes has been reported. -/
theorem Sound.took (sound : lanes.Sound) {rang : String → Bool} {note : TurnLog → TurnLog} (notes : Notes note)
    (calls : Calls lanes.tracker result rang) :
    (∀ other, Follows result.1 other ((lanes.took id note result).logs other)) ∧
      ((∀ other, ((lanes.took id note result).logs other).Honest) ↔
        ∀ other, rang other = true →
          ∃ turn ∈ (if other = id then note (lanes.logs other) else lanes.logs other).reported,
            (lanes.logs other).lastHeld = some turn) := by
  have noted (other : String) : Follows lanes.tracker other
      (if other = id then note (lanes.logs other) else lanes.logs other) := by
    split
    · exact (sound.follows other).noted notes
    · exact sound.follows other
  have lastHeld (other : String) : (if other = id then note (lanes.logs other) else lanes.logs other).lastHeld =
      (lanes.logs other).lastHeld := by
    split
    · simp [TurnLog.lastHeld,notes.queued,notes.pending]
    · rfl
  have reported (other : String) : (if other = id then note (lanes.logs other) else lanes.logs other).Reported := by
    split
    · intro entry listed
      obtain ⟨turn,told,same⟩ := sound.reported other entry (notes.completed _ ▸ listed)
      exact ⟨turn,notes.reported _ told,same⟩
    · exact sound.reported other
  have follows (other : String) : Follows result.1 other ((lanes.took id note result).logs other) :=
    (noted other).settle (calls.calm other) (calls.moves other) (calls.seq other) (calls.completions other)
  refine ⟨follows,forall_congr' fun other => ?_⟩
  rw [(follows other).honest_iff,← lastHeld other]
  show (TurnLog.settle _ _ _ (completionsOf other result.2)).Reported ↔ _
  rw [calls.completions]
  exact TurnLog.reported_settle (reported other) _ _ _ _

theorem Sound.late_iff (sound : lanes.Sound) (found : lanes.stateOf id = some state) (turns : List Nat) (clears : Nat)
    (record : Bool) :
    (Late (lanes.logs id) turns → state.rings clears record = false) ↔
      (state.rings clears record = true →
        ∃ turn ∈ (lanes.logs id).reported ++ turns, (lanes.logs id).lastHeld = some turn) := by
  constructor
  · intro timely rings
    have waits : (pendingOf (lanes.tracker.states.lookup id)).isSome := by
      show (pendingOf (lanes.stateOf id)).isSome
      rw [found]
      simp only [TerminalActivity.rings,Bool.and_eq_true] at rings
      exact rings.1.1.1
    obtain ⟨turn,lastHeld,-⟩ := (sound.follows id).lastHeld waits
    by_contra unknown
    have late : Late (lanes.logs id) turns := by
      refine ⟨turn,lastHeld,fun told => unknown ?_,fun told => unknown ?_⟩
      · exact ⟨turn,List.mem_append_left _ told,lastHeld⟩
      · exact ⟨turn,List.mem_append_right _ told,lastHeld⟩
    rw [timely late] at rings
    cases rings
  · rintro told ⟨turn,lastHeld,unreported,other⟩
    by_contra rings
    obtain ⟨last,listed,same⟩ := told (Bool.not_eq_false _ ▸ rings)
    obtain rfl := Option.some.inj (lastHeld.symm.trans same)
    exact (List.mem_append.mp listed).elim unreported other

variable {note : TurnLog → TurnLog}

/-- A call that reports ends: the logs stay in step, and are honest if it is timely. -/
theorem Sound.reports (sound : lanes.Sound) (notes : Notes note) (found : lanes.stateOf id = some state)
    {turns : List Nat} {clears : Nat} {record : Bool} (adds : ∀ log, (note log).reported = log.reported ++ turns)
    (calls : Calls lanes.tracker result (only id (state.rings clears record))) :
    (∀ other, Follows result.1 other ((lanes.took id note result).logs other)) ∧
      ((∀ other, ((lanes.took id note result).logs other).Honest) ↔
        (Late (lanes.logs id) turns → state.rings clears record = false)) := by
  obtain ⟨follows,honest⟩ := sound.took notes calls
  refine ⟨follows,honest.trans ?_⟩
  rw [sound.late_iff found]
  constructor
  · intro told rings
    have := told id (by simpa [only] using rings)
    rwa [if_pos rfl,adds] at this
  · intro told other rings
    simp only [only,Bool.and_eq_true,beq_iff_eq] at rings
    obtain ⟨rings,rfl⟩ := rings
    rw [if_pos rfl,adds]
    exact told rings

theorem Sound.quiet (sound : lanes.Sound) (notes : Notes note) (calls : Calls lanes.tracker result fun _ => false) :
    (∀ other, Follows result.1 other ((lanes.took id note result).logs other)) ∧
      ∀ other, ((lanes.took id note result).logs other).Honest := by
  obtain ⟨follows,honest⟩ := @Sound.took id result lanes sound _ _ notes calls
  exact ⟨follows,honest.mpr fun _ rings => nomatch rings⟩

theorem notes_id : Notes fun log => log := ⟨fun _ => rfl,fun _ => rfl,fun _ => rfl,fun _ => rfl,fun _ => List.Subset.refl _⟩

theorem Sound.submit (sound : lanes.Sound) (found : lanes.stateOf id = some state) {data : String}
    (submits : isSubmitInput data = true) (now : Int) :
    let after := lanes.took id (fun log => log.submitted (lanes.stateOf id) now) (lanes.tracker.noteInput id data now)
    (∀ other, Follows after.tracker other (after.logs other)) ∧ ∀ other, (after.logs other).Honest := by
  intro after
  let next := state.noteInput lanes.tracker.busyDeadmanMs now
  have noted : lanes.tracker.noteInput id data now =
      (lanes.tracker.update id next,changed (some state.toRecord) next.toRecord) := by
    have found : lanes.tracker.states.lookup id = some state := found
    simp [CodexActivityTracker.noteInput,found,submits,next]
  have logs (other : String) : after.logs other =
      (if other = id then (lanes.logs other).submitted (some state) now else lanes.logs other).settle
        (lanes.stateOf other) ((lanes.tracker.update id next).states.lookup other) [] := by
    show TurnLog.settle _ _ _ _ = _
    rw [noted,found,completionsOf_changed]
  have tracker : after.tracker = lanes.tracker.update id next := congrArg Prod.fst noted
  have follows (other : String) : Follows after.tracker other (after.logs other) := by
    rw [logs,tracker]
    by_cases same : other = id
    · subst same
      have kept : (lanes.tracker.update other next).states.lookup other = some next := by
        simp [CodexActivityTracker.update]
      rw [if_pos rfl,kept,found]
      exact (sound.follows other).submitted found now
    · have kept : (lanes.tracker.update id next).states.lookup other = lanes.tracker.states.lookup other := by
        simp [CodexActivityTracker.update,same]
      rw [if_neg same]
      exact (sound.follows other).settle (fun held listed => sound.calm other held (kept ▸ listed))
        (by rw [kept]; exact .keeps rfl rfl) rfl rfl
  refine ⟨follows,fun other => (follows other).honest_iff.mpr fun entry listed => ?_⟩
  have completed : (after.logs other).completed = (lanes.logs other).completed := by
    rw [logs,TurnLog.settle_completed,List.map_nil,List.append_nil]
    split
    · exact TurnLog.submitted_completed _ _ _
    · rfl
  have reported : (after.logs other).reported = (lanes.logs other).reported := by
    rw [logs,TurnLog.settle_reported]
    split
    · exact TurnLog.submitted_reported _ _ _
    · rfl
  rw [reported]
  exact sound.reported other entry (completed ▸ listed)

theorem Sound.step (sound : lanes.Sound) (op : LaneOp) :
    (∀ id, Follows (lanes.next op).tracker id ((lanes.next op).logs id)) ∧ (lanes.Tells op ↔ lanes.Timely op) := by
  unfold Tells Timely
  cases enabled : lanes.enabled op with
  | false =>
    have same : lanes.next op = lanes := by simp [next,enabled]
    rw [same]
    exact ⟨sound.follows,iff_of_true (fun id => (sound.follows id).honest_iff.mpr (sound.reported id)) nofun⟩
  | true =>
    have taken : lanes.next op = lanes.take op := by simp [next,enabled]
    rw [taken]
    have quiet {after : Lanes} {timely : Prop} (holds : timely)
        (keeps : (∀ id, Follows after.tracker id (after.logs id)) ∧ ∀ id, (after.logs id).Honest) :
        (∀ id, Follows after.tracker id (after.logs id)) ∧ ((∀ id, (after.logs id).Honest) ↔ timely) :=
      ⟨keeps.1,iff_of_true keeps.2 holds⟩
    cases op with
    | track id sessionId now => exact quiet nofun (sound.quiet notes_id (sound.calm.trackTerminal id sessionId now))
    | bind id sessionId => exact quiet nofun (sound.quiet notes_id (sound.calm.bindSession id sessionId))
    | exit id => exact quiet nofun (sound.quiet notes_id (sound.calm.noteExit id))
    | expire now => exact quiet nofun (sound.quiet notes_id (sound.calm.expire now))
    | ends id =>
      have notes : Notes fun log => { log with ended := log.ended + 1 } :=
        ⟨fun _ => rfl,fun _ => rfl,fun _ => rfl,fun _ => rfl,fun _ => List.Subset.refl _⟩
      exact quiet nofun (sound.quiet notes sound.calm.unchanged)
    | submit id data now =>
      simp only [Lanes.enabled,Bool.and_eq_true] at enabled
      obtain ⟨state,found⟩ := Option.isSome_iff_exists.mp enabled.2
      exact quiet nofun (sound.submit found enabled.1 now)
    | output id data turns now =>
      cases found : lanes.stateOf id with
      | none => simp [Lanes.enabled,found] at enabled
      | some state =>
        have notes : Notes fun log => { log with rung := turns.getLast?.getD log.rung, reported := log.reported ++ turns } :=
          ⟨fun _ => rfl,fun _ => rfl,fun _ => rfl,fun _ => rfl,fun _ => List.subset_append_left _ _⟩
        obtain ⟨follows,honest⟩ := sound.reports notes found (fun _ => rfl) (sound.calm.noteOutput found data now)
        exact ⟨follows,honest.trans (by simp [reportOf,found])⟩
    | proxyCompleted id threadId turnId status turn now =>
      cases found : lanes.stateOf id with
      | none => simp [Lanes.enabled,found] at enabled
      | some state =>
        have notes : Notes fun log => { log with proxied := turn, reported := log.reported ++ [turn] } :=
          ⟨fun _ => rfl,fun _ => rfl,fun _ => rfl,fun _ => rfl,fun _ => List.subset_append_left _ _⟩
        obtain ⟨follows,honest⟩ := sound.reports notes found (fun _ => rfl)
          (sound.calm.noteProxyTurnCompleted found threadId turnId status now)
        exact ⟨follows,honest.trans (by simp [reportOf,found])⟩
    | rollout id events turn now =>
      simp only [Lanes.enabled,Bool.and_eq_true] at enabled
      obtain ⟨state,found⟩ := Option.isSome_iff_exists.mp enabled.1.1
      have unstarted : events.latestTaskStartedAt = none := by
        have clears := enabled.2
        simp only [clearsTurn,Bool.and_eq_true,Option.isNone_iff_eq_none] at clears
        exact clears.1
      have notes : Notes fun log => { log with cleared := turn, reported := log.reported ++ [turn] } :=
        ⟨fun _ => rfl,fun _ => rfl,fun _ => rfl,fun _ => rfl,fun _ => List.subset_append_left _ _⟩
      obtain ⟨follows,honest⟩ := sound.reports notes found (fun _ => rfl)
        (sound.calm.reconcileRollout found unstarted now)
      exact ⟨follows,honest.trans (by simp [reportOf,found])⟩

/-- **Codex turns complete once, and not early.** Over a run of submits, ends and
    reports, no turn is completed twice or before an end of it was reported, and the
    completions of each terminal are numbered without gap or repeat, if, and only if, no
    late echo of earlier turns rings. -/
theorem tells_run (ops : List LaneOp) : Along next Tells new ops ↔ Along next Timely new ops := by
  have from_ (start : Lanes) (sound : start.Sound) : Along next Tells start ops ↔ Along next Timely start ops := by
    induction ops generalizing start with
    | nil => exact Iff.rfl
    | cons op rest ih =>
      obtain ⟨follows,honest⟩ := sound.step op
      rw [along_cons,along_cons,honest]
      refine and_congr_right fun timely => ih _ ⟨follows,fun id => (honest.mpr timely id).ended⟩
  exact from_ new sound_new

/-- The bell ends the first of two turns, and the rollout's clear of it comes late. -/
def lateClear : List LaneOp :=
  [.track "t" none 0,.submit "t" "\r" 10,.submit "t" "\r" 20,.ends "t",.output "t" "\x07" [1] 30,
    .rollout "t" { latestTaskCompletedAt := some 29 } 1 31]

/-- A bell leaves the rollout's swallow unarmed, so that the late clear completes the
    second turn while it runs. -/
theorem lateClear_completesSecond : ¬∀ ops : List LaneOp, Along next Tells new ops := by
  intro tells
  obtain ⟨-,-,-,-,-,last,-⟩ := tells lateClear
  have honest : ((run next new lateClear).logs "t").Honest := last "t"
  have facts : ((run next new lateClear).logs "t").completed = [(some 2,1)] ∧
      ((run next new lateClear).logs "t").reported = [1,1] := by decide
  generalize (run next new lateClear).logs "t" = log at honest facts
  obtain ⟨turn,told,same⟩ := honest.ended (some 2,1) (by rw [facts.1]; exact List.mem_singleton_self _)
  obtain rfl := Option.some.inj same
  rw [facts.2] at told
  exact absurd told (by decide)

end Lanes
end Freshell.Activity.Codex
