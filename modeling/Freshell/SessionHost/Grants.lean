import Freshell.Library.Tables

/-!
Execution grants and stops of one boot of a session host. A grant keeps the lock on the
persisted state until it is answered; a stop has it only while it reads the maxima, and then
looks at the three worker slots one after another. Beside the state stands what happened.
-/
namespace Freshell.SessionHost.Grants
open Freshell.Library.Tables

inductive RuntimeErrorCode where
  | ownershipMismatch
  | staleExecutionGrant
  | registryFailure
  | hostUnreachable
  | recoveryWrongIdentity
  | invalidRequest
  deriving DecidableEq, Repr

structure RuntimeError where
  code : RuntimeErrorCode
  message : String
  deriving DecidableEq, Repr

/-- The kinds of workers, in the order in which a stop looks at their slots. -/
inductive Workload where
  | fixture
  | terminal
  | freshAgent
  deriving DecidableEq, Repr

structure GrantExecutionRequest where
  incarnationId : String
  hostBootId : String
  controlEpoch : Nat
  executionGeneration : Nat
  grantId : String
  fixture : Option String
  terminal : Option String
  freshAgent : Option String
  deriving DecidableEq, Repr

def GrantExecutionRequest.workload (request : GrantExecutionRequest) : Option Workload :=
  match request.fixture,request.terminal,request.freshAgent with
  | some _,none,none => some .fixture
  | none,some _,none => some .terminal
  | none,none,some _ => some .freshAgent
  | _,_,_ => none

structure StopRequest where
  incarnationId : String
  controlEpoch : Nat
  executionGeneration : Nat
  deriving DecidableEq, Repr

inductive HostCommand where
  | grantExecution (request : GrantExecutionRequest)
  | stop (request : StopRequest)
  deriving DecidableEq, Repr

structure GrantAccepted where
  workerPid : Nat
  workerLaunchCount : Nat
  fixtureEvidence : String
  nativeSessionId : Option String
  deriving DecidableEq, Repr

inductive HostResult where
  | grantAccepted (result : GrantAccepted)
  | stopped
  | error (error : RuntimeError)
  deriving DecidableEq, Repr

/-- A worker, numbered by the launches of the boot. Only a fresh agent is launched with a
    native session. -/
structure Worker where
  serial : Nat
  workload : Workload
  pid : Nat
  evidence : String
  nativeSessionId : Option String
  plain : workload ≠ .freshAgent → nativeSessionId = none
  deriving DecidableEq

inductive Task where
  | granting (request : GrantExecutionRequest)
  /-- has the lock and has written that its id is consumed -/
  | launching (request : GrantExecutionRequest)
  | filling (request : GrantExecutionRequest) (worker : Worker)
  | recording (request : GrantExecutionRequest) (worker : Worker)
  | stopping (request : StopRequest)
  | clearing (request : StopRequest) (next : Workload)
  deriving DecidableEq

inductive Event where
  | launched (request : GrantExecutionRequest) (worker : Worker)
  | answered (command : HostCommand) (result : HostResult)
  deriving DecidableEq

structure Host where
  incarnationId : String
  hostBootId : String
  maxControlEpoch : Nat := 0
  maxExecutionGeneration : Nat := 0
  grantId : Option String := none
  workerPid : Option Nat := none
  workerLaunchCount : Nat := 0
  fixtureEvidence : String := "null"
  holder : Option Nat := none
  /-- `child`, `pty` and `fresh_agent` -/
  slots : Workload → Option Worker := fun _ => none
  tasks : Table Nat Task := ∅
  alive : List Nat := []
  history : List Event := []

/-- What the surroundings decide when a command takes its next step. -/
structure Outcome where
  written : Bool
  /-- the launch: pid, evidence and native session id, or an error -/
  launch : Except RuntimeError (Nat × String × Option String)
  stops : Bool
  /-- the native session id in the profile of the fresh agent -/
  profile : Option String

inductive Label where
  | arrive (task : Nat) (command : HostCommand)
  | proceed (task : Nat) (outcome : Outcome)
  | exits (serial : Nat)

namespace Host

/-- The command is answered and gives up the lock. -/
def answer (host : Host) (task : Nat) (command : HostCommand) (result : HostResult) : Host :=
  { host with
    tasks := host.tasks.erase task
    holder := if host.holder = some task then none else host.holder
    history := host.history ++ [.answered command result] }

def stale (host : Host) (controlEpoch executionGeneration : Nat) : Bool :=
  controlEpoch < host.maxControlEpoch || executionGeneration < host.maxExecutionGeneration

def dispatch (host : Host) (task : Nat) (command : HostCommand) : Host :=
  match command with
  | .grantExecution request =>
    if request.incarnationId ≠ host.incarnationId then
      host.answer task command (.error ⟨.ownershipMismatch,"incarnation mismatch"⟩)
    else if request.hostBootId ≠ host.hostBootId then
      host.answer task command (.error ⟨.staleExecutionGrant,"execution grant belongs to another host boot"⟩)
    else { host with tasks := host.tasks.insert task (.granting request) }
  | .stop request =>
    if request.incarnationId ≠ host.incarnationId then
      host.answer task command (.error ⟨.ownershipMismatch,"incarnation mismatch"⟩)
    else { host with tasks := host.tasks.insert task (.stopping request) }

/-- The fencing of a grant, under the lock, up to the launch. -/
def grantExecution (host : Host) (task : Nat) (request : GrantExecutionRequest) (outcome : Outcome) : Host :=
  let command := HostCommand.grantExecution request
  if host.stale request.controlEpoch request.executionGeneration then
    host.answer task command (.error ⟨.staleExecutionGrant,"stale execution grant"⟩)
  else match host.grantId with
    | some existing =>
      if existing = request.grantId then
        match host.workerPid with
        | some pid =>
          let nativeSessionId := if (host.slots .freshAgent).isSome then outcome.profile else none
          host.answer task command
            (.grantAccepted ⟨pid,host.workerLaunchCount,host.fixtureEvidence,nativeSessionId⟩)
        | none => host.answer task command
            (.error ⟨.staleExecutionGrant,"grant was durably consumed but worker launch did not complete"⟩)
      else host.answer task command
        (.error ⟨.staleExecutionGrant,"host boot already consumed a different grant"⟩)
    | none =>
      let consumed := { host with
        maxControlEpoch := request.controlEpoch
        maxExecutionGeneration := request.executionGeneration
        grantId := some request.grantId
        workerPid := none }
      if outcome.written then
        { consumed with holder := some task, tasks := consumed.tasks.insert task (.launching request) }
      else consumed.answer task command (.error ⟨.registryFailure,"write host state"⟩)

def launches (host : Host) : List (GrantExecutionRequest × Worker) :=
  host.history.filterMap fun
    | .launched request worker => some (request,worker)
    | .answered _ _ => none

def launch (host : Host) (task : Nat) (request : GrantExecutionRequest) (outcome : Outcome) : Host :=
  match request.workload with
  | none => host.answer task (.grantExecution request) (.error ⟨.invalidRequest,
      "execution grant must carry exactly one fixture, terminal, or fresh-agent workload"⟩)
  | some workload =>
    match outcome.launch with
    | .error error => host.answer task (.grantExecution request) (.error error)
    | .ok (pid,evidence,native) =>
      let worker : Worker := {
        serial := host.launches.length
        workload
        pid
        evidence
        nativeSessionId := if workload = .freshAgent then native else none
        plain := fun other => if_neg other }
      { host with
        tasks := host.tasks.insert task (.filling request worker)
        alive := worker.serial :: host.alive
        history := host.history ++ [.launched request worker] }

def fillSlot (host : Host) (task : Nat) (request : GrantExecutionRequest) (worker : Worker) : Host :=
  { host with
    slots := Function.update host.slots worker.workload (some worker)
    tasks := host.tasks.insert task (.recording request worker) }

def record (host : Host) (task : Nat) (request : GrantExecutionRequest) (worker : Worker) (outcome : Outcome) : Host :=
  let recorded := { host with
    workerLaunchCount := host.workerLaunchCount + 1
    workerPid := some worker.pid
    fixtureEvidence := worker.evidence }
  recorded.answer task (.grantExecution request)
    (if outcome.written then
      .grantAccepted ⟨worker.pid,recorded.workerLaunchCount,worker.evidence,worker.nativeSessionId⟩
    else .error ⟨.registryFailure,"write host state"⟩)

def kill (host : Host) : Option Worker → Host
  | some worker => { host with alive := host.alive.filter (· ≠ worker.serial) }
  | none => host

/-- A stop looks at one slot. The child stays in its slot; the others are taken out. -/
def clear (host : Host) (task : Nat) (request : StopRequest) (outcome : Outcome) : Workload → Host
  | .fixture =>
    let killed := host.kill (host.slots .fixture)
    { killed with tasks := killed.tasks.insert task (.clearing request .terminal) }
  | .terminal =>
    let killed := host.kill (host.slots .terminal)
    { killed with
      slots := Function.update host.slots .terminal none
      tasks := killed.tasks.insert task (.clearing request .freshAgent) }
  | .freshAgent =>
    let killed := if outcome.stops then host.kill (host.slots .freshAgent) else host
    { killed with slots := Function.update host.slots .freshAgent none }.answer task (.stop request) .stopped

def proceed (host : Host) (task : Nat) (outcome : Outcome) : Host :=
  match host.tasks.lookup task with
  | none => host
  | some (.granting request) => if host.holder.isSome then host else host.grantExecution task request outcome
  | some (.launching request) => host.launch task request outcome
  | some (.filling request worker) => host.fillSlot task request worker
  | some (.recording request worker) => host.record task request worker outcome
  | some (.stopping request) =>
    if host.holder.isSome then host
    else if host.stale request.controlEpoch request.executionGeneration then
      host.answer task (.stop request) (.error ⟨.staleExecutionGrant,"stale stop generation"⟩)
    else { host with tasks := host.tasks.insert task (.clearing request .fixture) }
  | some (.clearing request next) => host.clear task request outcome next

def step (host : Host) : Label → Host
  | .arrive task command => if (host.tasks.lookup task).isSome then host else host.dispatch task command
  | .proceed task outcome => host.proceed task outcome
  | .exits serial => { host with alive := host.alive.filter (· ≠ serial) }

end Host
end Freshell.SessionHost.Grants
