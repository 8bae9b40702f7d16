import Freshell.Supervisor.Launches

/-!
The journal of a soul's input, and the native session that its writer reports.
-/
namespace Freshell.Supervisor
open Freshell.Library.Transactions

inductive InputJournalDisposition where
  | dispatch
  | completed
  | ambiguous
  deriving DecidableEq, Repr

structure QueuedInput where
  requestId : String
  data : String
  deriving DecidableEq, Repr

def Registry.liveIncarnation (registry : Registry) (soulId : String) : Option Incarnation :=
  latest (·.createdAt) <| (registry.incarnationsOf soulId).filter fun row =>
    row.launchState == .running &&
      registry.souls.any fun soul => soul.soulId == row.soulId && soul.desiredState == .running && soul.recoveryState == .live

def InputCommand.isFor (row : InputCommand) (soulId requestId : String) : Bool :=
  row.soulId == soulId && row.requestId == requestId

/-- The row is queued for the live incarnation, whether it is new or waits already. -/
def queueInput (soulId requestId payloadDigest data : String) (now : Nat) :
    Transaction (InputJournalDisposition × String) := fun registry => do
  let incarnation ← found (registry.liveIncarnation soulId) (.unknownSoul soulId)
  let queued := fun row : InputCommand => row.isFor soulId requestId && row.state == .queued
  let registry :=
    if registry.inputCommands.any queued then
      { registry with
        inputCommands := updateWhere queued (fun row => { row with incarnationId := incarnation.incarnationId })
          registry.inputCommands }
    else
      { registry with
        inputCommands := registry.inputCommands ++
          [{ soulId, requestId, payloadDigest, protectedPayload := data, incarnationId := incarnation.incarnationId,
             state := .queued, createdAt := now }] }
  return ((.dispatch,incarnation.incarnationId),registry)

/-- `payloadDigest` is the hash of the data and of what else the request is told apart by. -/
def beginInput (soulId requestId payloadDigest data : String) (now : Nat) :
    Transaction (InputJournalDisposition × String) := fun registry =>
  match registry.input soulId requestId with
  | some row => do
    ensure (row.payloadDigest = payloadDigest ∧ row.protectedPayload = data) .inputConflict
    match row.state with
    | .completed => return ((.completed,row.incarnationId),registry)
    | .dispatching | .ambiguous => return ((.ambiguous,row.incarnationId),registry)
    | .queued => queueInput soulId requestId payloadDigest data now registry
    | .cancelled => throw (.integrity "unknown input command state cancelled")
  | none => queueInput soulId requestId payloadDigest data now registry

def setInputState (soulId requestId : String) (state : InputState) : Transaction PUnit := fun registry => do
  ensure ((registry.input soulId requestId).isSome = true) (.invalidState s!"input command {requestId} is not journaled")
  return (⟨⟩,{ registry with
    inputCommands := updateWhere (·.isFor soulId requestId) (fun row => { row with state }) registry.inputCommands })

def markInputDispatching (soulId requestId : String) : Transaction PUnit := setInputState soulId requestId .dispatching

def markInputCompleted (soulId requestId : String) : Transaction PUnit := setInputState soulId requestId .completed

def markInputAmbiguous (soulId requestId : String) : Transaction PUnit := setInputState soulId requestId .ambiguous

/-- The input that was accepted first, by the clock. -/
def InputCommand.before (first second : InputCommand) : Prop :=
  first.createdAt < second.createdAt ∨ (first.createdAt = second.createdAt ∧ first.requestId ≤ second.requestId)

instance (first second : InputCommand) : Decidable (first.before second) := inferInstanceAs (Decidable (_ ∨ _))

def Registry.nextQueued (registry : Registry) (soulId : String) : Option InputCommand :=
  ((registry.inputCommands.filter fun row => row.soulId == soulId && row.state == .queued).insertionSort
    InputCommand.before).head?

def Registry.runsFor (registry : Registry) (soulId incarnationId : String) : Prop :=
  ∃ row ∈ registry.incarnations, row.incarnationId = incarnationId ∧ row.soulId = soulId ∧ row.launchState = .running ∧
    registry.desiredRunning soulId = true

instance (registry : Registry) (soulId incarnationId : String) : Decidable (registry.runsFor soulId incarnationId) :=
  inferInstanceAs (Decidable (∃ row ∈ registry.incarnations, _))

/-- One command that was never sent moves to the replacement; what may have been sent stays. -/
def claimNextQueuedInput (soulId incarnationId : String) : Transaction (Option QueuedInput) := fun registry => do
  ensure (registry.runsFor soulId incarnationId)
    (.invalidState s!"replacement incarnation {incarnationId} is not running for {soulId}")
  match registry.nextQueued soulId with
  | none => return (none,registry)
  | some queued =>
    return (some ⟨queued.requestId,queued.protectedPayload⟩,{ registry with
      inputCommands := updateWhere (fun row => row.isFor soulId queued.requestId && row.state == .queued)
        (fun row => { row with incarnationId, state := .dispatching }) registry.inputCommands })

def isControl (c : Char) : Bool := c.toNat ≤ 0x1f || (0x7f ≤ c.toNat && c.toNat ≤ 0x9f)

/-- A fresh agent's spec names the session that it was first reported to have. -/
def rememberSession (nativeSessionId : String) (row : Incarnation) : Incarnation :=
  { row with
    freshAgent := row.freshAgent.map fun spec =>
      { spec with nativeSessionId := spec.nativeSessionId <|> some nativeSessionId } }

def recordNativeSession (soulId incarnationId nativeSessionId : String) : Transaction PUnit := fun registry => do
  ensure (nativeSessionId ≠ "" ∧ nativeSessionId.toList.any isControl = false) .nativeIdentityConflict
  let soul ← found (registry.soul soulId) (.unknownSoul soulId)
  let incarnation ← found (registry.incarnation incarnationId) (.unknownIncarnation incarnationId)
  ensure (incarnation.soulId = soulId ∧ ∀ known ∈ soul.nativeSessionId, known = nativeSessionId) .nativeIdentityConflict
  ensure (∀ spec ∈ incarnation.freshAgent, ∀ known ∈ spec.nativeSessionId, known = nativeSessionId)
    .nativeIdentityConflict
  let registry := registry.updateIncarnation incarnationId (rememberSession nativeSessionId)
  let registry := registry.updateSoul soulId fun row => { row with nativeSessionId := some nativeSessionId }
  let session : ProviderSession := ⟨soul.provider,soul.providerStoreId,nativeSessionId⟩
  match registry.claimOf session with
  | some claim => do
    ensure (claim.incarnationId = incarnationId) .nativeIdentityConflict
    return (⟨⟩,registry)
  | none => do
    let registry ←
      insertWriterClaim { session, soulId, incarnationId, intentRevision := soul.intentRevision } registry
    return (⟨⟩,registry)

/-- A fork of the provider's session inside one soul: the writer's claim goes over to the child. -/
def transitionNativeSession (soulId incarnationId expectedParent childSessionId : String) :
    Transaction PUnit := fun registry => do
  ensure (expectedParent ≠ "" ∧ childSessionId ≠ "" ∧ expectedParent ≠ childSessionId ∧
    expectedParent.toList.any isControl = false ∧ childSessionId.toList.any isControl = false) .nativeIdentityConflict
  let soul ← found (registry.soul soulId) (.unknownSoul soulId)
  let incarnation ← found (registry.incarnation incarnationId) (.unknownIncarnation incarnationId)
  ensure (incarnation.soulId = soulId) .nativeIdentityConflict
  let parent : ProviderSession := ⟨soul.provider,soul.providerStoreId,expectedParent⟩
  let child : ProviderSession := ⟨soul.provider,soul.providerStoreId,childSessionId⟩
  if soul.nativeSessionId = some childSessionId then do
    ensure ((registry.claimOf child).map (·.incarnationId) = some incarnationId) .nativeIdentityConflict
    return (⟨⟩,registry)
  else do
    ensure (soul.nativeSessionId = some expectedParent) .nativeIdentityConflict
    let spec ← found incarnation.freshAgent (.sql "fresh_agent_spec")
    ensure (spec.nativeSessionId = some expectedParent) .nativeIdentityConflict
    ensure (registry.claimOf child = none) .nativeIdentityConflict
    let owned := fun claim : WriterClaim =>
      claim.session == parent && claim.soulId == soulId && claim.incarnationId == incarnationId
    ensure (registry.writerClaims.countP owned = 1) .nativeIdentityConflict
    let registry := { registry with writerClaims := registry.writerClaims.filter fun claim => !owned claim }
    let registry ← insertWriterClaim
      { session := child, soulId, incarnationId, intentRevision := soul.intentRevision } registry
    let registry := registry.updateIncarnation incarnationId fun row =>
      { row with freshAgent := some ⟨childSessionId,some childSessionId⟩ }
    return (⟨⟩,registry.updateSoul soulId fun row => { row with nativeSessionId := some childSessionId })
end Freshell.Supervisor
