import Mathlib.Data.Finset.Basic
import Freshell.Library.Programs
import Freshell.Library.Tables

/-!
The hub that resumes crashed agent terminals: one loop that takes the crash events in turn,
decides on each, and drives the resume through its driver. What the driver answers, when the
clock is read and which cancels come in meanwhile is given by a turn for each call; a driver
that panics breaks the loop off, and the supervisor starts it again with the same channel and
the same bookkeeping.
-/
namespace Freshell.AutoResume
open Freshell.Library.Tables Freshell.Library.Programs

def autoResumeModes : List String := ["claude","codex","opencode","amplifier"]

def hubSupervisorBackoffMs : List Nat := [1000,5000,30000,60000]

def autoResumeHealthyLifetimeMs : Int := 30000

def createAnswerHoldPollMs : Nat := 10

def settleReasonCancelled : String := "auto-resume cancelled"

structure HubConfig where
  delays : List Nat
  identityGraceDelays : List Nat
  healthyLifetimeMs : Int
  maxCycles : Nat
  cycleWindowMs : Int

/-- The resumes of one create request: those in a row that failed fast, and the times of those
    that succeeded. -/
structure ResumeHistory where
  attempts : Nat := 0
  cycles : List Int := []

structure CrashEvent where
  terminalId : String
  exitCode : Int
  mode : String
  createRequestId : Option String
  lifetimeMs : Int
  observedFence : Option (Nat × Nat)
deriving DecidableEq

structure SessionRef where
  provider : String
  sessionId : String
  cwd : Option String
deriving DecidableEq

structure CrashContext where
  exitCode : Int
  mode : String
  createRequestId : Option String
  hasResumableIdentity : Bool
  lifetimeMs : Int
  priorAttempts : Nat
  capExhausted : Bool
  recentCycles : Nat
  maxCycles : Nat

inductive AutoResumeDecision where
  | resume (attempt delayMs : Nat)
  | settleExited (reason : String)
deriving DecidableEq

def CrashContext.effectivePrior (ctx : CrashContext) (healthyLifetimeMs : Int) : Nat :=
  if healthyLifetimeMs ≤ ctx.lifetimeMs then 0 else ctx.priorAttempts

def CrashContext.decide (ctx : CrashContext) (delays : List Nat) (healthyLifetimeMs : Int) : AutoResumeDecision :=
  if ctx.exitCode = 0 then .settleExited "clean_exit"
  else if ctx.mode ∉ autoResumeModes then .settleExited "not_agent_mode"
  else if ctx.createRequestId = none then .settleExited "no_create_request_id"
  else if ctx.hasResumableIdentity = false then .settleExited "no_resumable_identity"
  else if ctx.maxCycles ≤ ctx.recentCycles then .settleExited "flap_circuit_breaker"
  else if ctx.capExhausted then .settleExited "respawn_cap_exhausted"
  else
    match delays[ctx.effectivePrior healthyLifetimeMs]? with
    | some delayMs => .resume (ctx.effectivePrior healthyLifetimeMs + 1) delayMs
    | none => .settleExited "retries_exhausted"

structure RespawnSpec where
  mode : String
  provider : String
  sessionId : String
  createRequestId : String
  cwd : Option String
deriving DecidableEq

structure Claim where
  provider : String
  sessionId : String
  createRequestId : String
deriving DecidableEq

/-- What the hub has its driver do, and what it notes down itself. -/
inductive Effect where
  | cancelled (terminalId : String)
  | requeued (event : CrashEvent)
  | slept (ms : Nat)
  /-- A resume that succeeded, at the time that its cycle is recorded under. -/
  | cycled (now : Int)
  | recovering (terminalId mode : String) (exitCode : Int) (attempt maxAttempts : Nat)
  | settled (terminalId reason : String) (resumeCycles : Option Nat)
  | logSettled (terminalId reason : String)
  | retired (terminalId : String)
  | claimed (claim : Claim) (observed : Option (Nat × Nat)) (granted : Bool)
  | respawning (spec : RespawnSpec)
  | respawned (result : Except String String)
  | completed (claim : Claim) (terminalId : String) (bound : Bool)
  | failed (claim : Claim)
  | replaced (old new : String) (exitCode : Int) (attempt maxAttempts : Nat)

/-- One call of the hub: what comes in before it, whether the driver panics in it, and the
    answers to what it may ask. -/
structure Turn where
  cancels : List String
  crashes : List CrashEvent
  panics : Bool
  now : Int
  createReplyPending : Bool
  resumableSessionRef : Option SessionRef
  capExhausted : Bool
  preRespawnGuard : Option String
  claimSession : Bool
  respawn : Except String String
  completeClaim : Bool

/-- The loop's state while it works on an event. -/
structure Desk where
  calls : Nat
  clock : Int
  queue : List CrashEvent
  history : Table String ResumeHistory
  cancels : Finset String
  effects : List Effect

def Desk.note (desk : Desk) (effect : Effect) : Desk := { desk with effects := desk.effects ++ [effect] }

def Desk.turned (desk : Desk) (turn : Turn) : Desk :=
  { desk with
    calls := desk.calls + 1
    clock := turn.now
    queue := desk.queue ++ turn.crashes
    cancels := desk.cancels ∪ turn.cancels.toFinset
    effects := desk.effects ++ turn.cancels.map .cancelled }

def Desk.record (desk : Desk) (key : String) (entry : Option ResumeHistory) : Desk :=
  { desk with
    history := match entry with
      | some entry => desk.history.insert key entry
      | none => desk.history.erase key }

def Desk.held (desk : Desk) (event : CrashEvent) : Option (String × ResumeHistory) := do
  let key ← event.createRequestId
  let entry ← desk.history.lookup key
  return (key,entry)

section
variable (turns : Nat → Turn)

def ask {Answer : Type} (answer : Turn → Answer) : Program Desk Answer := fun desk =>
  let turn := turns desk.calls
  if turn.panics then (none,desk.turned turn) else (some (answer turn),desk.turned turn)

def perform (effect : Effect) : Program Desk Unit := do
  let _ ← ask turns fun _ => ()
  Program.change fun desk => desk.note effect

/-- Time passes in a sleep, and the clock is read, without the driver. -/
def wait : Program Desk Int := fun desk =>
  let turn := turns desk.calls
  (some turn.now,desk.turned turn)

def sleep (ms : Nat) : Program Desk Unit := do
  let _ ← wait turns
  Program.change fun desk => desk.note (.slept ms)

def takeCancel (terminalId : String) : Program Desk Bool := do
  let _ ← ask turns fun _ => ()
  let found ← Program.look fun desk => decide (terminalId ∈ desk.cancels)
  Program.change fun desk => { desk with cancels := desk.cancels.erase terminalId }
  return found

section
variable (cfg : HubConfig) (event : CrashEvent)

def askKeyed (answer : Turn → Bool) (without : Bool) : Program Desk Bool :=
  match event.createRequestId with
  | some _ => ask turns answer
  | none => pure without

inductive Grace where
  | cancelled
  | resolved (sref : Option SessionRef)

def graceLoop : List Nat → Program Desk Grace
  | [] => return .resolved none
  | step :: rest =>
    if step = 0 then graceLoop rest
    else do
      sleep turns step
      let cancelled ← takeCancel turns event.terminalId
      if cancelled then return .cancelled
      else do
        let sref ← ask turns (·.resumableSessionRef)
        if sref.isSome then return .resolved sref else graceLoop rest

/-- An event whose identity alone is missing waits for it. -/
def resolveIdentity : Program Desk Grace := do
  let sref ← ask turns (·.resumableSessionRef)
  if sref = none ∧ event.exitCode ≠ 0 ∧ event.mode ∈ autoResumeModes ∧ event.createRequestId.isSome ∧
      cfg.identityGraceDelays.any (0 < ·) then
    graceLoop turns event cfg.identityGraceDelays
  else return .resolved sref

def HubConfig.recent (now : Int) (entry : ResumeHistory) : ResumeHistory :=
  { entry with cycles := entry.cycles.filter fun time => now - time ≤ cfg.cycleWindowMs }

/-- The entry of the event's create request, its cycles pruned to the window. -/
def pruneCycles (now : Int) : Program Desk ResumeHistory := do
  let held ← Program.look fun desk => desk.held event
  match held with
  | some (key,entry) => do
    Program.change fun desk => desk.record key (some (cfg.recent now entry))
    return cfg.recent now entry
  | none => return {}

def contextOf (sref : Option SessionRef) (entry : ResumeHistory) (capExhausted : Bool) : CrashContext where
  exitCode := event.exitCode
  mode := event.mode
  createRequestId := event.createRequestId
  hasResumableIdentity := sref.isSome
  lifetimeMs := event.lifetimeMs
  priorAttempts := entry.attempts
  capExhausted := capExhausted
  recentCycles := entry.cycles.length
  maxCycles := cfg.maxCycles

def emitSettled (reason : String) (resumeCycles : Option Nat) : Program Desk Unit := do
  perform turns (.settled event.terminalId reason resumeCycles)
  perform turns (.logSettled event.terminalId reason)

def announceSettled (reason : String) (recentCycles : Nat) : Program Desk Unit :=
  if event.mode ≠ "shell" then
    emitSettled turns event reason (if reason = "flap_circuit_breaker" then some recentCycles else none)
  else pure ()

/-- A clean or a healthy generation gives the attempts back; an entry without cycles goes. -/
def resetAttempts (reason : String) : Program Desk Unit :=
  if reason = "clean_exit" ∨ cfg.healthyLifetimeMs ≤ event.lifetimeMs then do
    let held ← Program.look fun desk => desk.held event
    match held with
    | some (key,entry) =>
      Program.change fun desk =>
        desk.record key (if entry.cycles.isEmpty then none else some { entry with attempts := 0 })
    | none => pure ()
  else pure ()

def settleExited (reason : String) (recentCycles : Nat) : Program Desk Unit := do
  announceSettled turns event reason recentCycles
  resetAttempts cfg event reason
  perform turns (.retired event.terminalId)
  let _ ← takeCancel turns event.terminalId
  return ()

/-- What a resume goes on with after its back-off. -/
structure Plan where
  sref : SessionRef
  key : String
  attempt : Nat

/-- Where an event stands once it has been held, settled or backed off for. -/
inductive Stage where
  | held
  | settled
  | cancelled
  | backedOff (plan : Plan)

/-- The attempt is counted and announced, and its delay runs. -/
def backOff (plan : Plan) (delayMs : Nat) : Program Desk Unit := do
  Program.change fun desk =>
    desk.record plan.key (some { (desk.history.lookup plan.key).getD {} with attempts := plan.attempt })
  perform turns (.retired event.terminalId)
  perform turns (.recovering event.terminalId event.mode event.exitCode plan.attempt cfg.delays.length)
  sleep turns delayMs

def decideEvent (sref : Option SessionRef) : Program Desk Stage := do
  let now ← wait turns
  let entry ← pruneCycles cfg event now
  let capExhausted ← askKeyed turns event (·.capExhausted) true
  match (contextOf cfg event sref entry capExhausted).decide cfg.delays cfg.healthyLifetimeMs with
  | .settleExited reason => do
    settleExited turns cfg event reason entry.cycles.length
    return .settled
  | .resume attempt delayMs =>
    match sref,event.createRequestId with
    | some sref,some key => do
      backOff turns cfg event ⟨sref,key,attempt⟩ delayMs
      return .backedOff ⟨sref,key,attempt⟩
    | _,_ => Program.abort

/-- An event up to the end of its back-off, or as far as it gets without one. -/
def untilBackedOff : Program Desk Stage := do
  let pending ← askKeyed turns event (·.createReplyPending) false
  if pending then do
    let _ ← ask turns fun _ => ()
    Program.change fun desk => { desk with queue := desk.queue ++ [event] }.note (.requeued event)
    sleep turns createAnswerHoldPollMs
    return .held
  else do
    let grace ← resolveIdentity turns cfg event
    match grace with
    | .cancelled => return .cancelled
    | .resolved sref => decideEvent turns cfg event sref

/-- A tail that settles: what is left of a cancel goes, and the identity is retired. -/
def giveUp (reason : String) : Program Desk Unit := do
  emitSettled turns event reason none
  let _ ← takeCancel turns event.terminalId
  perform turns (.retired event.terminalId)

def respawn (spec : RespawnSpec) : Program Desk (Except String String) := do
  Program.change fun desk => desk.note (.respawning spec)
  let result ← ask turns (·.respawn)
  Program.change fun desk => desk.note (.respawned result)
  return result

/-- The respawn under a granted claim, which it ends by completing or failing it. -/
def respawnClaimed (plan : Plan) (claim : Claim) : Program Desk Unit := do
  let result ← respawn turns ⟨event.mode,plan.sref.provider,plan.sref.sessionId,plan.key,plan.sref.cwd⟩
  match result with
  | .ok newTerminalId => do
    let bound ← ask turns (·.completeClaim)
    Program.change fun desk => desk.note (.completed claim newTerminalId bound)
    if bound then do
      perform turns (.replaced event.terminalId newTerminalId event.exitCode plan.attempt cfg.delays.length)
      let now ← wait turns
      Program.change fun desk =>
        let entry := (desk.history.lookup plan.key).getD {}
        (desk.record plan.key (some { entry with cycles := entry.cycles ++ [now] })).note (.cycled now)
    else emitSettled turns event "lease_completion_lost" none
  | .error _ => do
    perform turns (.failed claim)
    emitSettled turns event "respawn_failed" none

def afterBackOff (plan : Plan) : Program Desk Unit := do
  let cancelled ← takeCancel turns event.terminalId
  if cancelled then do
    emitSettled turns event settleReasonCancelled none
    perform turns (.retired event.terminalId)
  else do
    let guard ← ask turns (·.preRespawnGuard)
    match guard with
    | some reason => giveUp turns event reason
    | none => do
      let claim : Claim := ⟨plan.sref.provider,plan.sref.sessionId,plan.key⟩
      let granted ← ask turns (·.claimSession)
      Program.change fun desk => desk.note (.claimed claim event.observedFence granted)
      if granted then do
        respawnClaimed turns cfg event plan claim
        let _ ← takeCancel turns event.terminalId
        perform turns (.retired event.terminalId)
      else giveUp turns event "session_lease_held"

def finish : Stage → Program Desk Unit
  | .held => return ()
  | .settled => return ()
  | .cancelled => do
    perform turns (.retired event.terminalId)
    emitSettled turns event settleReasonCancelled none
  | .backedOff plan => afterBackOff turns cfg event plan

end
end

/-- What was done on one event: until its back-off had ended, and after it. -/
structure Entry where
  event : CrashEvent
  /-- The cancels that stood before the event and those that stand after it. -/
  before : Finset String
  after : Finset String
  early : List Effect
  late : List Effect
  /-- Where the event stood after the first part; nothing where the driver panicked in it. -/
  stage : Option Stage
  finished : Bool

structure Hub where
  calls : Nat
  clock : Int
  queue : List CrashEvent
  history : Table String ResumeHistory
  cancels : Finset String
  log : List Entry
  consecutivePanics : Nat
  restarts : List Nat

namespace Hub

def new (clock : Int) : Hub := ⟨0,clock,[],∅,∅,[],0,[]⟩

def desk (hub : Hub) (queue : List CrashEvent) : Desk := ⟨hub.calls,hub.clock,queue,hub.history,hub.cancels,[]⟩

/-- The loop goes on from where an event left the desk. -/
def leave (hub : Hub) (desk : Desk) (entry : Entry) : Hub :=
  { hub with
    calls := desk.calls
    clock := desk.clock
    queue := desk.queue
    history := desk.history
    cancels := desk.cancels
    log := hub.log ++ [entry] }

def restart (hub : Hub) (ranMs : Int) : Hub :=
  let panics := if autoResumeHealthyLifetimeMs ≤ ranMs then 0 else hub.consecutivePanics
  { hub with
    consecutivePanics := panics + 1
    restarts := hub.restarts ++ [hubSupervisorBackoffMs.getD (min panics (hubSupervisorBackoffMs.length - 1)) 0] }

/-- The loop takes the first event of its channel; `ranMs` is how long it has been running. -/
def handle (turns : Nat → Turn) (cfg : HubConfig) (ranMs : Int) (hub : Hub) : Hub :=
  match hub.queue with
  | [] => hub
  | event :: rest =>
    match untilBackedOff turns cfg event (hub.desk rest) with
    | (none,desk) => (hub.leave desk ⟨event,hub.cancels,desk.cancels,desk.effects,[],none,false⟩).restart ranMs
    | (some stage,mid) =>
      match finish turns cfg event stage { mid with effects := [] } with
      | (none,desk) => (hub.leave desk ⟨event,hub.cancels,desk.cancels,mid.effects,desk.effects,some stage,false⟩).restart ranMs
      | (some _,desk) => hub.leave desk ⟨event,hub.cancels,desk.cancels,mid.effects,desk.effects,some stage,true⟩

/-- A crash is sent to the channel, or the loop takes the next one. -/
inductive Op where
  | crash (event : CrashEvent)
  | handle (ranMs : Int)

def step (turns : Nat → Turn) (cfg : HubConfig) (hub : Hub) : Op → Hub
  | .crash event => { hub with queue := hub.queue ++ [event] }
  | .handle ranMs => hub.handle turns cfg ranMs

end Hub
end Freshell.AutoResume
