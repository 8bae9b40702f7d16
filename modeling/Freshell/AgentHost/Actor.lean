import Freshell.AgentHost.State

/-!
The actor of a hosted fresh agent. A call takes the lane, is entered in memory and on disk
ahead of the provider call, and is settled behind it; the answers to permissions go beside
the lane. A replacement of the file may fail, and the host may go down with it.
-/
namespace Freshell.AgentHost
open Freshell.Library.Tables
open Freshell.SessionHost (CommandState Persist)

/-- How the writes ahead of a provider call go: the protected payload, and the state once
    or twice. -/
structure Faults where
  payload : Persist := .done
  queued : Persist := .done
  dispatching : Persist := .done
deriving DecidableEq, Repr

namespace Host
variable {Value : Type}

def crash (host : Host Value) : Host Value := { host with actor := none, lane := none, resolving := [] }

/-- Memory is changed, and the file is replaced or not. -/
def save (host : Host Value) (state : PersistedActorState Value) (write : Persist) : Host Value :=
  { host with actor := some state, disk := write.disk host.disk state }

/-- What comes of a call behind a write: it goes on, or ends with an error or the host. -/
def after (host : Host Value) (write : Persist) (next : Host Value → Host Value × Reply) : Host Value × Reply :=
  match write with
  | .done => next host
  | .failed _ error => (host,.error (.persistence error))
  | .crashed _ => (host.crash,.lost)

def saveAnd (host : Host Value) (state : PersistedActorState Value) (write : Persist)
    (next : Host Value → Host Value × Reply) : Host Value × Reply :=
  (host.save state write).after write next

def answer (host : Host Value) (requestId : String) (reply : Reply) : Host Value × Reply :=
  ({ host with
    ambiguous := if reply = .error .ambiguousDispatch then host.ambiguous ++ [requestId] else host.ambiguous },reply)

def answerDecision (host : Host Value) (decisionId : String) (reply : Reply) : Host Value × Reply :=
  ({ host with
    ambiguousDecisions :=
      if reply = .error .ambiguousDispatch then host.ambiguousDecisions ++ [decisionId]
      else host.ambiguousDecisions },reply)

def send (host : Host Value) (requestId : String) (inFlight : InFlight) (call : ProviderCall Value) :
    Host Value × Reply :=
  ({ host with lane := some inFlight, calls := host.calls ++ [(requestId,call)] },.waiting)

/-- A new command, in memory, with its protected payload on disk. -/
def enter (host : Host Value) (state : PersistedActorState Value) (requestId : String) (request : Request Value)
    (command : PersistedCommand) (payload : Persist)
    (next : PersistedActorState Value → Host Value → Host Value × Reply) : Host Value × Reply :=
  let entered := { state with commands := state.commands.insert requestId command }
  Host.after { host with actor := some entered, used := host.used.insert requestId request } payload (next entered)

/-- A command goes through the queue to the provider. -/
def queueAndSend (host : Host Value) (state : PersistedActorState Value) (requestId payloadDigest : String)
    (request : Request Value) (inFlight : InFlight) (call : ProviderCall Value) (faults : Faults) :
    Host Value × Reply :=
  host.enter state requestId request { payloadDigest, state := .queued } faults.payload fun queued host =>
    host.saveAnd queued faults.queued fun host =>
      host.saveAnd (queued.setCommand requestId fun command => { command with state := .dispatching })
        faults.dispatching fun host => host.send requestId inFlight call

section
variable (encoding : Encoding Value)

def material (request : Request Value) : Material Value :=
  match request with
  | .dispatch text settings => .pair text (settings.elim encoding.null encoding.ofSettings)
  | .fork _ input => .pair "provider_native_fork" (input.getD encoding.null)
  | .semanticOperation operation => .operation operation

def payloadDigest (request : Request Value) : String := encoding.digest (material encoding request)

def dispatch (host : Host Value) (requestId text : String) (settings : Option FreshAgentTurnSettings)
    (faults : Faults) : Host Value × Reply :=
  match host.actor with
  | none => (host,.lost)
  | some state =>
    let digest := payloadDigest encoding (.dispatch text settings)
    match state.commands.lookup requestId with
    | some existing => host.answer requestId (existing.dispatchedBefore digest)
    | none =>
      -- The settings are in memory before they are validated.
      let merged := { state with profile := settings.elim state.profile state.profile.applyTurnSettings }
      match settings.elim (.ok ()) fun _ => merged.profile.validate with
      | .error error => ({ host with actor := some merged },.error error)
      | .ok () =>
        host.queueAndSend merged requestId digest (.dispatch text settings) (.dispatching requestId)
          (.dispatch text merged.profile) faults

def dispatched (host : Host Value) (result : Except DispatchFailure (Option String)) (write : Persist) :
    Host Value × Reply :=
  match host.actor,host.lane with
  | some state,some (.dispatching requestId) =>
    let host := { host with lane := none }
    match result with
    | .ok ack =>
      host.saveAnd
        (state.setCommand requestId fun command => { command with providerAckId := ack, state := .providerAcked })
        write fun host => (host,.state .providerAcked)
    | .error failure =>
      host.saveAnd
        (state.setCommand requestId fun command => { command with state := failedState failure.acceptanceAmbiguous })
        write fun host => host.answer requestId (.error failure.error)
  | _,_ => (host,.lost)

def fork (host : Host Value) (requestId parentSessionId : String) (input : Option Value) (faults : Faults) :
    Host Value × Reply :=
  match host.actor with
  | none => (host,.lost)
  | some state =>
    let digest := payloadDigest encoding (.fork parentSessionId input)
    match state.commands.lookup requestId with
    | some existing => host.answer requestId (existing.forkedBefore digest (state.completedForks.lookup requestId))
    | none =>
      if state.profile.nativeSessionId ≠ some parentSessionId then (host,.error .nativeIdentityMismatch)
      else
        host.enter state requestId (.fork parentSessionId input) { payloadDigest := digest, state := .dispatching }
          faults.payload fun entered host =>
            host.saveAnd entered faults.dispatching fun host =>
              host.send requestId (.forking requestId parentSessionId) (.fork parentSessionId input)

def acceptable (parentSessionId : String) (transition : ForkTransition) : Bool :=
  transition.parentSessionId == parentSessionId && transition.childSessionId != "" &&
    transition.childSessionId != parentSessionId &&
    !transition.childSessionId.toList.any FreshAgentProfile.isControl && transition.parentRetiredByRuntime

def forkReturned (host : Host Value) (result : Except DispatchFailure ForkTransition) (write : Persist) :
    Host Value × Reply :=
  match host.actor,host.lane with
  | some state,some (.forking requestId parentSessionId) =>
    let host := { host with lane := none }
    match result with
    | .ok transition =>
      if acceptable parentSessionId transition then
        let forked := state.setCommand requestId fun command =>
          { command with providerAckId := some transition.childSessionId, state := .completed }
        host.saveAnd
          { forked with
            profile := { state.profile with nativeSessionId := some transition.childSessionId }
            completedForks := state.completedForks.insert requestId transition }
          write fun host => (host,.forked transition)
      else
        host.saveAnd (state.setCommand requestId fun command => { command with state := .ambiguous }) write fun host =>
          host.answer requestId (.error .ambiguousDispatch)
    | .error failure =>
      host.saveAnd
        (state.setCommand requestId fun command => { command with state := failedState failure.acceptanceAmbiguous })
        write fun host => host.answer requestId (.error failure.error)
  | _,_ => (host,.lost)

/-- An operation that is new waits for the capability check. -/
def semanticOperation (host : Host Value) (requestId : String) (operation : FreshAgentOperation) :
    Host Value × Reply :=
  match host.actor with
  | none => (host,.lost)
  | some state =>
    match state.commands.lookup requestId with
    | some existing =>
      host.answer requestId (existing.operatedBefore (payloadDigest encoding (.semanticOperation operation)))
    | none => ({ host with lane := some (.checking requestId operation) },.waiting)

/-- The provider has said whether it supports an operation. -/
def capabilityChecked (host : Host Value) (supports : Except String Bool) (faults : Faults) : Host Value × Reply :=
  match host.actor,host.lane with
  | some state,some (.checking requestId operation) =>
    let host := { host with lane := none }
    match supports with
    | .error _ => (host,.error (.transport "provider capability check failed"))
    | .ok false => (host,.error .unsupportedOperation)
    | .ok true =>
      host.queueAndSend state requestId (payloadDigest encoding (.semanticOperation operation))
        (.semanticOperation operation) (.operating requestId) (.operation operation) faults
  | _,_ => (host,.lost)

def operationReturned (host : Host Value) (result : Except OperationFailure OperationAck) (write : Persist) :
    Host Value × Reply :=
  match host.actor,host.lane with
  | some state,some (.operating requestId) =>
    let host := { host with lane := none }
    match result with
    | .ok ack =>
      let acked := state.setCommand requestId fun command =>
        { command with providerAckId := ack.providerAckId, state := .providerAcked }
      host.saveAnd
        { acked with
          profile := { state.profile with nativeSessionId := ack.nativeSessionId.or state.profile.nativeSessionId } }
        write fun host => (host,.state .providerAcked)
    | .error failure =>
      host.saveAnd
        (state.setCommand requestId fun command =>
          { command with
            state := failedState failure.acceptanceAmbiguous
            operationFailure := some failure.kind })
        write fun host => host.answer requestId (.error failure.error)
  | _,_ => (host,.lost)

/-- The caller that holds the lane goes away while it waits for the provider. -/
def cancel (host : Host Value) : Host Value := { host with lane := none }

def resolvePermission (host : Host Value) (decisionId : String) (decision : Value) (write : Persist) :
    Host Value × Reply :=
  match host.actor with
  | none => (host,.lost)
  | some state =>
    let responseDigest := encoding.digest (.value decision)
    match state.decisions.lookup decisionId with
    | none => (host,.error .unknownDecision)
    | some pending =>
      match pending.state with
      | .pending =>
        host.saveAnd
          (state.setDecision decisionId fun pending =>
            { pending with state := .dispatching, responseDigest := some responseDigest })
          write fun host =>
            ({ host with
              resolving := decisionId :: host.resolving
              asked := host.asked ++ [decisionId]
              standing := decisionId :: host.standing },.waiting)
      | .resolved =>
        if pending.responseDigest = some responseDigest then (host,.done)
        else (host,.error .decisionAlreadyResolved)
      | .dispatching => host.answerDecision decisionId (.error .ambiguousDispatch)
      | .ambiguous => host.answerDecision decisionId (.error .ambiguousDispatch)

/-- The provider has taken the answer to a permission, or has failed to. -/
def permissionReturned (host : Host Value) (decisionId : String) (result : Except DispatchFailure Unit)
    (write : Persist) : Host Value × Reply :=
  match host.actor with
  | none => (host,.lost)
  | some state =>
    if decisionId ∉ host.resolving then (host,.lost)
    else
      let host := { host with resolving := host.resolving.erase decisionId }
      match result with
      | .ok () =>
        host.saveAnd (state.setDecision decisionId fun pending => { pending with state := .resolved }) write
          fun host => (host,.done)
      | .error failure =>
        if failure.acceptanceAmbiguous then
          host.saveAnd (state.setDecision decisionId fun pending => { pending with state := .ambiguous }) write
            fun host => host.answerDecision decisionId (.error .ambiguousDispatch)
        else
          Host.saveAnd { host with standing := host.standing.erase decisionId }
            (state.setDecision decisionId fun pending => { pending with state := .pending }) write
            fun host => (host,.error (.transport failure.message))

/-- The caller of `resolvePermission` goes away while it waits for the provider. -/
def cancelResolve (host : Host Value) (decisionId : String) : Host Value :=
  { host with resolving := host.resolving.erase decisionId }

def recordEvent (host : Host Value) (write : Persist) : Host Value × Reply :=
  match host.actor with
  | none => (host,.lost)
  | some state => host.saveAnd state write fun host => (host,.done)

/-- A permission is asked for; `fits` says that its event fits beside the pending ones. -/
def recordPermission (host : Host Value) (decisionId : String) (payload : Value) (fits : Bool) (write : Persist)
    [DecidableEq Value] : Host Value × Reply :=
  match host.actor with
  | none => (host,.lost)
  | some state =>
    match state.decisions.lookup decisionId with
    | some existing => if existing.payload ≠ payload then (host,.error .requestConflict) else (host,.done)
    | none =>
      if fits then
        host.saveAnd { state with decisions := state.decisions.insert decisionId { payload, state := .pending } } write
          fun host => (host,.done)
      else (host,.error (.persistence "pending decision journal capacity exceeded"))

def observeNativeIdentity (host : Host Value) (nativeSessionId : String) (write : Persist) : Host Value × Reply :=
  match host.actor with
  | none => (host,.lost)
  | some state =>
    if nativeSessionId = "" then (host,.error .nativeIdentityMismatch)
    else
      match state.profile.nativeSessionId with
      | some existing => if existing ≠ nativeSessionId then (host,.error .nativeIdentityMismatch) else (host,.done)
      | none =>
        host.saveAnd { state with profile := { state.profile with nativeSessionId := some nativeSessionId } } write
          fun host => (host,.done)

def load (disk : Option (PersistedActorState Value)) (profile : FreshAgentProfile) :
    Except ActorError (PersistedActorState Value) :=
  match disk with
  | none => .ok { profile }
  | some loaded =>
    if loaded.profile ≠ { profile with
        nativeSessionId := profile.nativeSessionId.or loaded.profile.nativeSessionId } then
      .error .nativeIdentityMismatch
    else .ok loaded.interrupted

/-- The provider has started with an identity, which is checked or taken over. -/
def started (state : PersistedActorState Value) (nativeSessionId : Option String) :
    Except ActorError (PersistedActorState Value) :=
  match state.profile.nativeSessionId with
  | some expected => if nativeSessionId ≠ some expected then .error .nativeIdentityMismatch else .ok state
  | none => .ok { state with profile := { state.profile with nativeSessionId } }

theorem ready_iff {state : PersistedActorState Value} {disk : Option (PersistedActorState Value)} {profile : FreshAgentProfile}
    {start : Except String (Option String)} :
    (do
      profile.validate
      let state ← load disk profile
      let native ← start.mapError .transport
      started state native : Except ActorError (PersistedActorState Value)) = .ok state ↔
    profile.validate = .ok () ∧ ∃ loaded native, load disk profile = .ok loaded ∧ start = .ok native ∧
      started loaded native = .ok state := by
  cases profile.validate with
  | error error => simp [bind,Except.bind]
  | ok valid =>
    cases load disk profile with
    | error error => simp [bind,Except.bind]
    | ok loaded =>
      cases start with
      | error error => simp [bind,Except.bind,Except.mapError]
      | ok native => simp [bind,Except.bind,Except.mapError]

/-- An actor is opened on what is on disk; `start` is the answer of the provider. -/
def openActor (host : Host Value) (profile : FreshAgentProfile) (start : Except String (Option String))
    (write : Persist) : Host Value × Reply :=
  match (do
    profile.validate
    let state ← load host.disk profile
    let native ← start.mapError .transport
    started state native : Except ActorError (PersistedActorState Value)) with
  | .error error => (host,.error error)
  | .ok state =>
    match write with
    | .done => (host.save state write,.done)
    | .failed _ error => ({ host with disk := write.disk host.disk state },.error (.persistence error))
    | .crashed _ => ({ host with disk := write.disk host.disk state },.lost)

inductive HostOp (Value : Type) where
  | openActor (profile : FreshAgentProfile) (start : Except String (Option String)) (write : Persist)
  | request (requestId : String) (request : Request Value) (faults : Faults)
  | capabilityChecked (supports : Except String Bool) (faults : Faults)
  | dispatched (result : Except DispatchFailure (Option String)) (write : Persist)
  | forkReturned (result : Except DispatchFailure ForkTransition) (write : Persist)
  | operationReturned (result : Except OperationFailure OperationAck) (write : Persist)
  | cancel
  | resolvePermission (decisionId : String) (decision : Value) (write : Persist)
  | permissionReturned (decisionId : String) (result : Except DispatchFailure Unit) (write : Persist)
  | cancelResolve (decisionId : String)
  | recordEvent (write : Persist)
  | recordPermission (decisionId : String) (payload : Value) (fits : Bool) (write : Persist)
  | observeNativeIdentity (nativeSessionId : String) (write : Persist)
  | crash

/-- A call under a request id, once it has the lane. -/
def submit (host : Host Value) (requestId : String) (request : Request Value) (faults : Faults) : Host Value × Reply :=
  match request with
  | .dispatch text settings => host.dispatch encoding requestId text settings faults
  | .fork parentSessionId input => host.fork encoding requestId parentSessionId input faults
  | .semanticOperation operation => host.semanticOperation encoding requestId operation

variable [DecidableEq Value]

/-- A call waits until the lane is free, and an actor is opened only while none is up. -/
def next (host : Host Value) (op : HostOp Value) : Host Value :=
  match op with
  | .openActor profile start write => if host.actor.isSome then host else (host.openActor profile start write).1
  | .request requestId request faults =>
    if host.lane.isSome then host else (host.submit encoding requestId request faults).1
  | .capabilityChecked supports faults => (host.capabilityChecked encoding supports faults).1
  | .dispatched result write => (host.dispatched result write).1
  | .forkReturned result write => (host.forkReturned result write).1
  | .operationReturned result write => (host.operationReturned result write).1
  | .cancel => host.cancel
  | .resolvePermission decisionId decision write => (host.resolvePermission encoding decisionId decision write).1
  | .permissionReturned decisionId result write => (host.permissionReturned decisionId result write).1
  | .cancelResolve decisionId => host.cancelResolve decisionId
  | .recordEvent write => (host.recordEvent write).1
  | .recordPermission decisionId payload fits write => (host.recordPermission decisionId payload fits write).1
  | .observeNativeIdentity nativeSessionId write => (host.observeNativeIdentity nativeSessionId write).1
  | .crash => host.crash

end
/-- JSON for concrete runs, whose values are texts. -/
def plainJson : Encoding String where
  null := "null"
  ofSettings settings := settings.cwd.getD "null"
  digest
    | .pair first second => first ++ "," ++ second
    | .operation _ => "operation"
    | .value value => value

def plainProfile : FreshAgentProfile :=
  { provider := .claude, runtimeVariant := "sdk", cwd := "/srv", providerStoreId := "store" }

end Host
end Freshell.AgentHost
