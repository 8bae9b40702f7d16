import Freshell.Activity.Signal
import Freshell.Supervisor.Rows

/-!
View intents: the wish that a soul stays in sight in some pane, and the outbox that
carries each change of one to the browser. What a transaction of another table does
to the views of its soul is done by the functions here.
-/
namespace Freshell.Supervisor
open Freshell.Library.Transactions

def RECOVERED_AGENTS_GROUP : String := "Recovered agents"

/-- What an installation is known by, and the hash that ids are derived with, in hexadecimal. -/
structure Installation where
  installationId : String
  sha256Hex : String → String

def Installation.stableHex (installation : Installation) (key domain : String) : String :=
  .ofList ((installation.sha256Hex ("freshell-managed-view-v1\x00" ++ domain ++ "\x00" ++ key)).toList.take 32)

structure ViewIntentRequest where
  ownerId : String
  workspaceId : String
  kind : ViewIntentKind
  preferredTabId : Option String
  preferredPaneId : Option String
  title : Option String
  placementGroup : Option String
  visibility : ViewVisibilityIntent
  deriving DecidableEq, Repr

structure AutomaticPlacement where
  viewId : String
  tabId : String
  paneId : String
  deriving DecidableEq, Repr

def trim (value : String) : String :=
  .ofList ((value.toList.dropWhile Activity.isWhitespace).reverse.dropWhile Activity.isWhitespace).reverse

def nonempty (value : Option String) : Option String := (value.map trim).filter (· ≠ "")

def providerLabel (provider : String) : String :=
  if provider = "claude" then "Claude"
  else if provider = "codex" then "Codex"
  else if provider = "opencode" then "OpenCode"
  else if provider = "amplifier" then "Amplifier"
  else provider

def projectionEventId (viewId : String) (revision : Nat) : String := "projection-" ++ viewId ++ "-" ++ revision.repr

section
variable (installation : Installation)

def automaticPlacementForOwner (ownerId workspaceId soulId : String) : AutomaticPlacement :=
  let key := ownerId ++ "\x00" ++ workspaceId ++ "\x00" ++ soulId
  { viewId := "view-auto-" ++ installation.stableHex key "view"
    tabId := "managed-tab-" ++ installation.stableHex key "tab"
    paneId := "managed-pane-" ++ installation.stableHex key "pane" }

def automaticPrimaryIntentFromRequest (soulId fallbackWorkspaceId provider : String) (request : Option ViewIntentRequest)
    (soulIntentRevision now : Nat) : ViewIntent :=
  let ownerId := (nonempty (request.map (·.ownerId))).getD installation.installationId
  let workspaceId := (nonempty (request.map (·.workspaceId))).getD fallbackWorkspaceId
  let placement := automaticPlacementForOwner installation ownerId workspaceId soulId
  { viewId := placement.viewId
    soulId
    ownerId
    workspaceId
    kind := .automaticPrimary
    preferredTabId := (nonempty (request.bind (·.preferredTabId))).getD placement.tabId
    preferredPaneId := (nonempty (request.bind (·.preferredPaneId))).getD placement.paneId
    title := (nonempty (request.bind (·.title))).getD ("Recovered " ++ providerLabel provider ++ " agent")
    placementGroup := (nonempty (request.bind (·.placementGroup))).getD RECOVERED_AGENTS_GROUP
    visibility := .visible
    revision := 1
    soulIntentRevision
    createdAt := now
    updatedAt := now }
end

def Registry.loadViewIntent (registry : Registry) (viewId : String) : Option ViewIntent :=
  registry.viewIntents.find? (·.viewId == viewId)

def ViewIntent.automaticPrimaryOf (view : ViewIntent) (soulId : String) : Bool :=
  view.soulId == soulId && view.kind == .automaticPrimary

def Registry.loadAutomaticPrimary (registry : Registry) (soulId : String) : Option ViewIntent :=
  registry.viewIntents.find? (·.automaticPrimaryOf soulId)

/-- An event that is in the outbox already is not written again. -/
def enqueueProjection (intent : ViewIntent) (registry : Registry) : Registry :=
  let eventId := projectionEventId intent.viewId intent.revision
  if registry.outbox.any (·.eventId == eventId) then registry
  else
    { registry with
      outbox := registry.outbox ++ [{ eventId, viewIntent := intent, createdAt := intent.updatedAt, deliveredAt := none }] }

def ViewIntent.samePlace (view other : ViewIntent) : Bool :=
  view.kind == .automaticPrimary && other.kind == .automaticPrimary && view.ownerId == other.ownerId &&
    view.workspaceId == other.workspaceId && view.soulId == other.soulId

def insertView (intent : ViewIntent) : Statement := fun registry => do
  ensure (registry.loadViewIntent intent.viewId = none) (.sql "view_intents.view_id")
  ensure (∀ other ∈ registry.viewIntents, other.samePlace intent = false) (.sql "one_automatic_primary_view_per_soul")
  return { registry with viewIntents := registry.viewIntents ++ [intent] }

def ensureAutomaticPrimaryInTx (installation : Installation) (soulId workspaceId provider : String)
    (soulIntentRevision : Nat) (request : Option ViewIntentRequest) (now : Nat) : Statement := fun registry =>
  match registry.loadAutomaticPrimary soulId with
  | some _ => return registry
  | none => do
    let intent := automaticPrimaryIntentFromRequest installation soulId workspaceId provider request soulIntentRevision now
    let registry ← insertView intent registry
    return enqueueProjection intent registry

/-- The next revision of a view that was just read, in the same transaction, and its event. -/
def reviseView (overflow : String) (current : ViewIntent) (change : ViewIntent → ViewIntent) (now : Nat) :
    Statement := fun registry => do
  ensure (current.revision + 1 < 2 ^ 64) (.integrity overflow)
  let registry :=
    { registry with
      viewIntents := updateWhere (fun row => row.viewId == current.viewId && row.revision == current.revision)
        (fun row => { change row with revision := current.revision + 1, updatedAt := now }) registry.viewIntents }
  let updated ← found (registry.loadViewIntent current.viewId) (.integrity "updated view intent disappeared")
  return enqueueProjection updated registry

def setAutomaticPrimaryInTx (visibility : ViewVisibilityIntent) (soulId : String) (soulIntentRevision now : Nat) :
    Statement := fun registry =>
  match registry.loadAutomaticPrimary soulId with
  | none => return registry
  | some current =>
    if current.visibility = visibility ∧ current.soulIntentRevision = soulIntentRevision then return registry
    else reviseView "view intent revision overflow" current (fun row => { row with visibility, soulIntentRevision }) now
      registry

def hideAutomaticPrimaryInTx : String → Nat → Nat → Statement := setAutomaticPrimaryInTx .hidden

def makeAutomaticPrimaryVisibleInTx : String → Nat → Nat → Statement := setAutomaticPrimaryInTx .visible

/-- A new revision of the soul's intent reaches each of its views, in the order of their ids. -/
def advanceViewsInTx (soulId : String) (soulIntentRevision now : Nat) : Statement := fun registry =>
  let viewIds := ((registry.viewIntents.filter (·.soulId == soulId)).map (·.viewId)).insertionSort (· ≤ ·)
  viewIds.foldlM (fun registry viewId => do
    let current ← found (registry.loadViewIntent viewId) (.integrity "view disappeared")
    reviseView "view revision overflow" current (fun row => { row with soulIntentRevision }) now registry) registry

/-- At the opening of the registry every soul that ever had a terminal gets its view. -/
def backfillAutomaticViewIntents (installation : Installation) (now : Nat) : Transaction PUnit := fun registry => do
  let terminals := registry.souls.filter fun soul => (registry.incarnationsOf soul.soulId).any (·.terminal.isSome)
  let values := terminals.insertionSort fun first second =>
    first.createdAt < second.createdAt ∨ (first.createdAt = second.createdAt ∧ first.soulId ≤ second.soulId)
  let registry ← values.foldlM (fun registry soul => do
    let registry ←
      ensureAutomaticPrimaryInTx installation soul.soulId soul.projectKey soul.provider soul.intentRevision none now registry
    if soul.desiredState = .stopped then hideAutomaticPrimaryInTx soul.soulId soul.intentRevision now registry
    else return registry) registry
  return (⟨⟩,registry)

def makeDesiredRunningViewsVisible (now : Nat) : Transaction PUnit := fun registry => do
  let values := (registry.souls.filter (·.desiredState == .running)).insertionSort fun first second =>
    first.soulId ≤ second.soulId
  let registry ← values.foldlM (fun registry soul =>
    makeAutomaticPrimaryVisibleInTx soul.soulId soul.intentRevision now registry) registry
  return (⟨⟩,registry)

/-- A view that is read for a page of the outbox comes before another one. -/
def ViewProjectionEvent.before (first second : ViewProjectionEvent) : Prop :=
  first.createdAt < second.createdAt ∨ (first.createdAt = second.createdAt ∧ first.eventId ≤ second.eventId)

instance (first second : ViewProjectionEvent) : Decidable (first.before second) :=
  inferInstanceAs (Decidable (_ ∨ _))

def pendingViewProjections (limit : Nat) (registry : Registry) : List ViewProjectionEvent :=
  ((registry.outbox.filter (·.deliveredAt.isNone)).insertionSort ViewProjectionEvent.before).take (max 1 (min limit 500))

def acknowledgeViewProjection (eventId : String) (now : Nat) : Transaction PUnit := fun registry => do
  ensure (registry.outbox.any (·.eventId == eventId) = true) (.invalidState s!"unknown view projection event {eventId}")
  return (⟨⟩,{ registry with
    outbox := updateWhere (·.eventId == eventId) (fun event => { event with deliveredAt := event.deliveredAt <|> some now })
      registry.outbox })

def updateViewVisibility (viewId : String) (visibility : ViewVisibilityIntent)
    (expectedRevision expectedSoulIntentRevision now : Nat) : Transaction ViewIntent := fun registry => do
  let current ← found (registry.loadViewIntent viewId) (.invalidState s!"unknown view intent {viewId}")
  let soul ← found (registry.soul current.soulId) (.sql "no row")
  ensure (current.revision = expectedRevision) (.staleIntentRevision expectedRevision current.revision)
  ensure (soul.intentRevision = expectedSoulIntentRevision)
    (.staleIntentRevision expectedSoulIntentRevision soul.intentRevision)
  ensure (¬(soul.desiredState = .running ∧ visibility = .hidden))
    (.invalidState "hide cannot stop a running soul; use the stop operation")
  let registry ← reviseView "view revision overflow" current (fun row => { row with visibility }) now registry
  let updated ← found (registry.loadViewIntent viewId) (.integrity "view intent disappeared")
  return (updated,registry)

structure UpsertViewIntentRequest where
  soulId : String
  viewId : Option String
  intent : ViewIntentRequest
  expectedRevision : Option Nat
  expectedSoulIntentRevision : Nat
  deriving DecidableEq, Repr

/-- The revision that a view is written at, where the client has seen the last one. -/
def upsertRevision (current : Option ViewIntent) (expectedRevision : Option Nat) : Except RegistryError Nat :=
  match current,expectedRevision with
  | none,none => return 1
  | none,some expected => if expected = 0 then return 1 else throw (.staleIntentRevision expected 0)
  | some current,some expected => do
    ensure (current.revision = expected) (.staleIntentRevision expected current.revision)
    ensure (current.revision + 1 < 2 ^ 64) (.integrity "view revision overflow")
    return current.revision + 1
  | some current,none => throw (.staleIntentRevision 0 current.revision)

/-- The intent that a request asks for. A row that exists keeps its soul and its birth. -/
def UpsertViewIntentRequest.write (request : UpsertViewIntentRequest) (installation : Installation) (soul : Soul)
    (viewId : String) (current : Option ViewIntent) (revision now : Nat) : ViewIntent :=
  let ownerId := (nonempty (some request.intent.ownerId)).getD installation.installationId
  let workspaceId := (nonempty (some request.intent.workspaceId)).getD soul.projectKey
  let fallback := automaticPlacementForOwner installation ownerId workspaceId request.soulId
  { viewId
    soulId := (current.map (·.soulId)).getD request.soulId
    ownerId
    workspaceId
    kind := request.intent.kind
    preferredTabId := (nonempty request.intent.preferredTabId).getD fallback.tabId
    preferredPaneId := (nonempty request.intent.preferredPaneId).getD fallback.paneId
    title := (nonempty request.intent.title).getD ("Recovered " ++ providerLabel soul.provider ++ " agent")
    placementGroup := (nonempty request.intent.placementGroup).getD RECOVERED_AGENTS_GROUP
    visibility := request.intent.visibility
    revision
    soulIntentRevision := soul.intentRevision
    createdAt := (current.map (·.createdAt)).getD now
    updatedAt := now }

def UpsertViewIntentRequest.target (request : UpsertViewIntentRequest) (installation : Installation) (soul : Soul) : String :=
  let ownerId := (nonempty (some request.intent.ownerId)).getD installation.installationId
  let workspaceId := (nonempty (some request.intent.workspaceId)).getD soul.projectKey
  request.viewId.getD <|
    match request.intent.kind with
    | .automaticPrimary => (automaticPlacementForOwner installation ownerId workspaceId request.soulId).viewId
    | .explicit =>
      let key := ownerId ++ "\x00" ++ workspaceId ++ "\x00" ++ request.soulId ++ "\x00" ++
        request.intent.preferredTabId.getD "" ++ "\x00" ++ request.intent.preferredPaneId.getD ""
      "view-explicit-" ++ installation.stableHex key "explicit"

/-- The update of a row is held to the index on automatic primary views. -/
def writeView (intent : ViewIntent) : Statement := fun registry => do
  ensure (∀ other ∈ registry.viewIntents, other.viewId ≠ intent.viewId → other.samePlace intent = false)
    (.sql "one_automatic_primary_view_per_soul")
  return { registry with viewIntents := updateWhere (·.viewId == intent.viewId) (fun _ => intent) registry.viewIntents }

def upsertViewIntent (installation : Installation) (request : UpsertViewIntentRequest) (now : Nat) :
    Transaction ViewIntent := fun registry => do
  let soul ← found (registry.soul request.soulId) (.unknownSoul request.soulId)
  ensure (soul.intentRevision = request.expectedSoulIntentRevision)
    (.staleIntentRevision request.expectedSoulIntentRevision soul.intentRevision)
  let viewId := request.target installation soul
  let current := registry.loadViewIntent viewId
  let revision ← upsertRevision current request.expectedRevision
  let intent := request.write installation soul viewId current revision now
  let registry ← (if current.isSome then writeView intent else insertView intent) registry
  let intent ← found (registry.loadViewIntent viewId) (.integrity "view intent disappeared")
  return (intent,enqueueProjection intent registry)

def updateConfiguredLimits (soulId : String) (limits : RuntimeLimits) (expectedIntentRevision now : Nat) :
    Transaction PUnit := fun registry => do
  let soul ← found (registry.soul soulId) (.unknownSoul soulId)
  ensure (soul.intentRevision = expectedIntentRevision) (.staleIntentRevision expectedIntentRevision soul.intentRevision)
  if soul.configuredLimits = some limits then return (⟨⟩,registry)
  else do
    ensure (soul.intentRevision + 1 < 2 ^ 64) (.integrity "intent revision overflow")
    let registry := registry.updateSoul soulId fun row =>
      { row with configuredLimits := some limits, resourceProfile := "custom", intentRevision := soul.intentRevision + 1 }
    let registry ← advanceViewsInTx soulId (soul.intentRevision + 1) now registry
    return (⟨⟩,registry)
end Freshell.Supervisor
