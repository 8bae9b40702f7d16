import Freshell.SessionHost.CommandJournal

/-!
What the host of a fresh agent keeps of one provider conversation: its profile, its
commands and its decisions, in memory and in a file.
-/
namespace Freshell.AgentHost
open Freshell.Library.Tables
open Freshell.SessionHost (CommandState Persist)

inductive FreshProvider where
  | claude
  | kilroy
  | codex
  | opencode
deriving DecidableEq, Repr

structure FreshAgentProfile where
  provider : FreshProvider
  runtimeVariant : String
  cwd : String
  model : Option String := none
  effort : Option String := none
  permissionMode : Option String := none
  sandbox : Option String := none
  providerStoreId : String
  nativeSessionId : Option String := none
deriving DecidableEq, Repr

structure FreshAgentTurnSettings where
  cwd : Option String := none
  model : Option String := none
  effort : Option String := none
  permissionMode : Option String := none
  sandbox : Option String := none
deriving DecidableEq, Repr

inductive RollbackDirection where
  | undo
  | redo
deriving DecidableEq, Repr

inductive RollbackMode where
  | step
  | toTurn
deriving DecidableEq, Repr

inductive FreshAgentOperation where
  | compact (instructions cwd : Option String)
  | rollback (direction : RollbackDirection) (mode : RollbackMode) (turnId cwd : Option String)
deriving DecidableEq, Repr

inductive OperationFailureKind where
  | unsupported
  | rejected
deriving DecidableEq, Repr

structure DispatchFailure where
  message : String
  acceptanceAmbiguous : Bool
deriving DecidableEq, Repr

structure OperationFailure where
  kind : OperationFailureKind
  message : String
  acceptanceAmbiguous : Bool
deriving DecidableEq, Repr

structure OperationAck where
  providerAckId : Option String
  nativeSessionId : Option String
deriving DecidableEq, Repr

structure ForkTransition where
  parentSessionId : String
  childSessionId : String
  parentRetiredByRuntime : Bool
deriving DecidableEq, Repr

inductive ActorError where
  | invalidProfile
  | nativeIdentityMismatch
  | requestConflict
  | ambiguousDispatch
  | unsupportedOperation
  | unknownDecision
  | decisionAlreadyResolved
  | transport (message : String)
  | persistence (message : String)
deriving DecidableEq, Repr

structure PersistedCommand where
  payloadDigest : String
  state : CommandState
  providerAckId : Option String := none
  operationFailure : Option OperationFailureKind := none
deriving DecidableEq, Repr

inductive DecisionState where
  | pending
  | dispatching
  | resolved
  | ambiguous
deriving DecidableEq, Repr

structure PersistedDecision (Value : Type) where
  payload : Value
  state : DecisionState
  responseDigest : Option String := none
deriving DecidableEq, Repr

structure PersistedActorState (Value : Type) where
  profile : FreshAgentProfile
  commands : Table String PersistedCommand := ∅
  completedForks : Table String ForkTransition := ∅
  decisions : Table String (PersistedDecision Value) := ∅

inductive Request (Value : Type) where
  | dispatch (text : String) (settings : Option FreshAgentTurnSettings)
  | fork (parentSessionId : String) (input : Option Value)
  | semanticOperation (operation : FreshAgentOperation)
deriving DecidableEq, Repr

/-- What is digested: a pair in JSON, an operation, or the answer to a permission. -/
inductive Material (Value : Type) where
  | pair (first : String) (second : Value)
  | operation (operation : FreshAgentOperation)
  | value (value : Value)
deriving DecidableEq, Repr

structure Encoding (Value : Type) where
  null : Value
  ofSettings : FreshAgentTurnSettings → Value
  digest : Material Value → String

inductive ProviderCall (Value : Type) where
  | dispatch (text : String) (profile : FreshAgentProfile)
  | fork (parentSessionId : String) (input : Option Value)
  | operation (operation : FreshAgentOperation)
deriving DecidableEq, Repr

/-- The call that holds the lane while it waits for the provider. -/
inductive InFlight where
  | dispatching (requestId : String)
  | forking (requestId parentSessionId : String)
  | checking (requestId : String) (operation : FreshAgentOperation)
  | operating (requestId : String)
deriving DecidableEq, Repr

/-- What a caller hears: an answer, nothing yet, or nothing at all. -/
inductive Reply where
  | state (state : CommandState)
  | forked (transition : ForkTransition)
  | done
  | error (error : ActorError)
  | waiting
  | lost
deriving DecidableEq, Repr

/-- A host with its actor, which is in memory only while the host is up, and the history
    of what was called. -/
structure Host (Value : Type) where
  disk : Option (PersistedActorState Value) := none
  actor : Option (PersistedActorState Value) := none
  lane : Option InFlight := none
  resolving : List String := []
  used : Table String (Request Value) := ∅
  calls : List (String × ProviderCall Value) := []
  /-- The requests whose callers heard that the outcome is ambiguous. -/
  ambiguous : List String := []
  /-- The decisions that the provider was asked to take. -/
  asked : List String := []
  /-- One entry for each answer that was accepted, or may have been. -/
  standing : List String := []
  ambiguousDecisions : List String := []

namespace FreshAgentProfile

def isControl (char : Char) : Bool := char.toNat < 0x20 || (0x7f ≤ char.toNat && char.toNat ≤ 0x9f)

def validate (profile : FreshAgentProfile) : Except ActorError Unit :=
  if profile.runtimeVariant = "" ∨ profile.cwd = "" ∨ profile.providerStoreId = "" ∨
      profile.nativeSessionId = some "" then .error .invalidProfile
  else if [profile.model,profile.effort,profile.permissionMode,profile.sandbox].any fun value =>
      value.any fun value => 256 < value.utf8ByteSize || value.toList.any isControl then .error .invalidProfile
  else .ok ()

def applyTurnSettings (profile : FreshAgentProfile) (settings : FreshAgentTurnSettings) : FreshAgentProfile :=
  { profile with
    cwd := settings.cwd.getD profile.cwd
    model := settings.model.or profile.model
    effort := settings.effort.or profile.effort
    permissionMode := settings.permissionMode.or profile.permissionMode
    sandbox := settings.sandbox.or profile.sandbox }

end FreshAgentProfile

def DispatchFailure.error (failure : DispatchFailure) : ActorError :=
  if failure.acceptanceAmbiguous then .ambiguousDispatch else .transport failure.message

def OperationFailure.error (failure : OperationFailure) : ActorError :=
  if failure.acceptanceAmbiguous then .ambiguousDispatch
  else if failure.kind = .unsupported then .unsupportedOperation
  else .transport failure.message

def failedState (acceptanceAmbiguous : Bool) : CommandState := if acceptanceAmbiguous then .ambiguous else .cancelled

namespace PersistedCommand

def dispatchedBefore (command : PersistedCommand) (payloadDigest : String) : Reply :=
  if command.payloadDigest ≠ payloadDigest then .error .requestConflict
  else
    match command.state with
    | .ambiguous => .error .ambiguousDispatch
    | .dispatching => .error .ambiguousDispatch
    | .queued => .error .ambiguousDispatch
    | other => .state other

def forkedBefore (command : PersistedCommand) (payloadDigest : String) (completed : Option ForkTransition) : Reply :=
  if command.payloadDigest ≠ payloadDigest then .error .requestConflict
  else
    match command.state with
    | .completed => completed.elim (.error (.persistence "completed fork is missing its durable transition")) .forked
    | .providerAcked => completed.elim (.error (.persistence "completed fork is missing its durable transition")) .forked
    | .ambiguous => .error .ambiguousDispatch
    | .dispatching => .error .ambiguousDispatch
    | .queued => .error .ambiguousDispatch
    | .cancelled => .error (.transport "provider-native fork was previously rejected")

def operatedBefore (command : PersistedCommand) (payloadDigest : String) : Reply :=
  if command.payloadDigest ≠ payloadDigest then .error .requestConflict
  else
    match command.state,command.operationFailure with
    | .cancelled,some .unsupported => .error .unsupportedOperation
    | .cancelled,some .rejected => .error (.transport "provider previously rejected operation")
    | .ambiguous,_ => .error .ambiguousDispatch
    | .dispatching,_ => .error .ambiguousDispatch
    | .queued,_ => .error .ambiguousDispatch
    | other,_ => .state other

end PersistedCommand

namespace PersistedActorState
variable {Value : Type}

def setCommand (state : PersistedActorState Value) (requestId : String) (change : PersistedCommand → PersistedCommand) :
    PersistedActorState Value :=
  match state.commands.lookup requestId with
  | none => state
  | some command => { state with commands := state.commands.insert requestId (change command) }

def setDecision (state : PersistedActorState Value) (decisionId : String)
    (change : PersistedDecision Value → PersistedDecision Value) : PersistedActorState Value :=
  match state.decisions.lookup decisionId with
  | none => state
  | some decision => { state with decisions := state.decisions.insert decisionId (change decision) }

/-- What was under way when the actor went down may have been accepted. -/
def interrupted (state : PersistedActorState Value) : PersistedActorState Value :=
  { state with
    commands := mapValues (fun _ command =>
      if command.state = .dispatching then { command with state := .ambiguous } else command) state.commands
    decisions := mapValues (fun _ decision =>
      if decision.state = .dispatching then { decision with state := .ambiguous } else decision) state.decisions }

end PersistedActorState
end Freshell.AgentHost
