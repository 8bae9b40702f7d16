import Freshell.PaneLedger.Index
import Freshell.Registry.World

/-!
The verdicts with which the server answers the panes that a client presents after a
reconnect: read off the terminal registry, the identity registry, the pane ledger, the
session index and what the request knows of managed runtimes, none of which they change.
-/
namespace Freshell.Reconcile
open Freshell.Library.Tables
open Freshell.PaneLedger (SessionLocator LedgerIndex BindingRow RowState)
open Freshell.Registry (TerminalRunStatus Newer newest)

structure RegistryRow where
  terminalId : String
  mode : String
  status : TerminalRunStatus
  createdAt : Int
  resumeSessionId : Option String
  createRequestId : Option String

structure ManagedTerminalDescriptor where
  terminalId : String
  mode : String
  resumeSessionId : Option String

/-- A registered terminal; a managed facade is entered under its descriptor's id. -/
structure TerminalHandle where
  row : RegistryRow
  managed : Option ManagedTerminalDescriptor
  owned : ∀ descriptor ∈ managed, descriptor.terminalId = row.terminalId

def TerminalHandle.terminalId (handle : TerminalHandle) : String := handle.row.terminalId

structure RegistryView where
  terminals : KeyedTable TerminalHandle.terminalId
  respawnGenerations : Table String Nat
  respawnGenerationCap : Int

structure TerminalIdentity where
  terminalId : String
  provider : Option String
  sessionId : Option String
  retired : Bool

inductive SessionExistence where
  | present | absent | unknown | providerUnavailable
deriving DecidableEq, Repr

structure SessionExistenceProbe where
  exists_ : String → String → SessionExistence
  everObserved : String → String → Bool
  everObservedOnDisk : String → String → Bool

inductive FreshAgentPresence where
  | live | onDisk | goneObserved | neverObserved | unknown
deriving DecidableEq, Repr

structure FreshAgentPaneFacts where
  presence : FreshAgentPresence
  duplicateOf : Option String
  respawnExhausted : Bool
  resolvedSessionId : Option String

structure ReconcileDeps (Payload : Type) where
  registry : RegistryView
  identity : KeyedTable TerminalIdentity.terminalId
  existence : SessionExistenceProbe
  paneLedger : Option (LedgerIndex Payload)
  freshAgent : Option (Table String FreshAgentPaneFacts)
  /-- The panes whose managed lookup failed, on a connection that negotiated managed runtimes. -/
  managed : Option (Finset String)

structure ReconcilePane where
  paneKey : String
  kind : Option String
  mode : Option String
  createRequestId : Option String
  terminalId : Option String
  sessionRef : Option SessionLocator
  resumeSessionId : Option String

inductive ReconcileVerdict where
  | attach | respawn | fresh | deadSession | invalid | error
deriving DecidableEq, Repr

structure PaneVerdict where
  paneKey : String
  verdict : ReconcileVerdict
  terminalId : Option String := none
  sessionRef : Option SessionLocator := none
  corrected : Option Bool := none
  reason : Option String := none
  duplicate : Option String := none
deriving DecidableEq

def nonEmpty (text : Option String) : Option String := text.filter fun text => text ≠ ""

namespace RegistryView

def rows (view : RegistryView) : List RegistryRow := view.terminals.values.map (·.row)

def probe (view : RegistryView) (terminalId : String) : Option RegistryRow :=
  (view.terminals.lookup terminalId).map (·.row)

def isLive (view : RegistryView) (terminalId : String) : Bool :=
  match view.probe terminalId with
  | some row => row.status = .running
  | none => false

/-- The terminals of a creation key, the newest generation first. -/
def terminalsByCreateRequestId (view : RegistryView) (key : String) : List RegistryRow :=
  (view.rows.filter fun row => row.createRequestId = some key).insertionSort
    fun a b => Newer (a.createdAt,a.terminalId) (b.createdAt,b.terminalId)

def newestLiveByCreateRequestId (view : RegistryView) (key : String) : Option String :=
  ((view.terminalsByCreateRequestId key).find? fun row => row.status = .running).map (·.terminalId)

def newestByCreateRequestId (view : RegistryView) (key : String) : Option String :=
  (view.terminalsByCreateRequestId key).head?.map (·.terminalId)

end RegistryView

def RegistryRow.Carries (row : RegistryRow) (sref : SessionLocator) : Prop :=
  row.status = .running ∧ row.mode = sref.provider ∧ row.resumeSessionId = some sref.sessionId

instance (row : RegistryRow) (sref : SessionLocator) : Decidable (row.Carries sref) :=
  inferInstanceAs (Decidable (_ ∧ _ ∧ _))

namespace RegistryView

def liveTerminalForSessionRef (view : RegistryView) (sref : SessionLocator) : Option String :=
  newest ((view.rows.filter fun row => row.Carries sref).map fun row => (row.createdAt,row.terminalId))

def liveManagedOwnerForSession (view : RegistryView) (sref : SessionLocator) : Option ManagedTerminalDescriptor :=
  view.terminals.values.findSome? fun handle =>
    handle.managed.filter fun descriptor =>
      descriptor.mode = sref.provider ∧ descriptor.resumeSessionId = some sref.sessionId ∧ handle.row.status = .running

/-- The cap is at least one, and kept in 32 bits. -/
def respawnExhausted (view : RegistryView) (key : String) : Bool :=
  let cap := (max view.respawnGenerationCap 1).toNat % 2 ^ 32
  (view.respawnGenerations.lookup key).any fun count => cap ≤ count

end RegistryView

def TerminalIdentity.Names (entry : TerminalIdentity) (sref : SessionLocator) : Prop :=
  entry.provider = some sref.provider ∧ entry.sessionId = some sref.sessionId

instance (entry : TerminalIdentity) (sref : SessionLocator) : Decidable (entry.Names sref) :=
  inferInstanceAs (Decidable (_ ∧ _))

structure Resolution where
  row : BindingRow
  corrected : Bool

/-- The walk along `supersededBy` from a row, with the hops that are left to it. -/
def followChain {Payload : Type} (index : LedgerIndex Payload) : Nat → BindingRow → Bool → Option Resolution
  | hops,row,corrected =>
    if row.state = .retired then
      match row.supersededBy with
      | none => some ⟨row,corrected⟩
      | some next =>
        match hops with
        | 0 => none
        | hops+1 =>
          match index.bindings.lookup (next.provider,next.sessionId) with
          | none => some ⟨row,corrected⟩
          | some nextRow => followChain index hops nextRow true
    else some ⟨row,corrected⟩

namespace ReconcileDeps
variable {Payload : Type}

def sessionRefFor (deps : ReconcileDeps Payload) (terminalId : String) : Option SessionLocator := do
  let entry ← deps.identity.lookup terminalId
  let provider ← entry.provider
  let sessionId ← entry.sessionId
  return ⟨provider,sessionId⟩

def list (deps : ReconcileDeps Payload) : List TerminalIdentity :=
  deps.identity.values.filter fun entry => !entry.retired

def findBySession (deps : ReconcileDeps Payload) (sref : SessionLocator) : Option TerminalIdentity :=
  deps.list.find? fun entry => entry.Names sref

def lookupBySession (deps : ReconcileDeps Payload) (sref : SessionLocator) : Option Resolution := do
  let index ← deps.paneLedger
  let row ← index.bindings.lookup (sref.provider,sref.sessionId)
  followChain index 32 row false

def everBound (deps : ReconcileDeps Payload) (sref : SessionLocator) : Bool :=
  match deps.paneLedger with
  | none => false
  | some index => (index.bindings.lookup (sref.provider,sref.sessionId)).isSome

/-- A marker counts until some binding row names its terminal. -/
def pendingForTerminal (deps : ReconcileDeps Payload) (terminalId : String) : Bool :=
  match deps.paneLedger with
  | none => false
  | some index =>
    (index.pending.lookup terminalId).isSome && !index.bindings.values.any fun row => row.liveTerminalId = some terminalId

def isIndeterminate (deps : ReconcileDeps Payload) (paneKey : String) : Bool :=
  deps.managed.any fun failed => paneKey ∈ failed

end ReconcileDeps

def base (pane : ReconcilePane) (verdict : ReconcileVerdict) : PaneVerdict :=
  { paneKey := pane.paneKey, verdict := verdict }

def invalid (pane : ReconcilePane) (reason : String) : PaneVerdict :=
  { base pane .invalid with reason := some reason }

def correctedFlag (claim server : Option SessionLocator) : Option Bool :=
  match claim,server with
  | some claim,some server => if claim ≠ server then some true else none
  | _,_ => none

/-- A mode with a `resumeSessionId` claims that session. -/
def promotedLegacyClaim (pane : ReconcilePane) : Option SessionLocator := do
  let mode ← (nonEmpty pane.mode).filter fun mode => mode ≠ "shell"
  let resumeSessionId ← nonEmpty pane.resumeSessionId
  return ⟨mode,resumeSessionId⟩

/-- The session that a pane claims, by reference or in the legacy form. -/
def effectiveClaim (pane : ReconcilePane) : Option SessionLocator :=
  pane.sessionRef.or (promotedLegacyClaim pane)

section
variable {Payload : Type} (deps : ReconcileDeps Payload) (pane : ReconcilePane)

def rememberedRef (key : String) : Option SessionLocator :=
  (pane.terminalId.bind deps.sessionRefFor).or
    ((deps.registry.newestByCreateRequestId key).bind fun newest =>
      (deps.sessionRefFor newest).or
        ((deps.registry.probe newest).bind fun row =>
          if row.mode ≠ "shell" then (nonEmpty row.resumeSessionId).map fun sessionId => ⟨row.mode,sessionId⟩ else none))

/-- The end of the ledger's chain from the claimed session, where it has one. -/
def correctedRef : Option SessionLocator :=
  pane.sessionRef.bind fun claim =>
    ((deps.lookupBySession claim).filter fun resolved => resolved.corrected).map fun resolved =>
      ⟨claim.provider,resolved.row.sessionId⟩

def resolveAuthoritativeRef (key : String) : Option SessionLocator :=
  (rememberedRef deps pane key).or ((correctedRef deps pane).or (effectiveClaim pane))

def attach (terminalId : String) (duplicate : Option String) : PaneVerdict :=
  let serverRef := deps.sessionRefFor terminalId
  { base pane .attach with
    terminalId := some terminalId
    sessionRef := serverRef
    corrected := correctedFlag pane.sessionRef serverRef
    duplicate := duplicate }

/-- The live terminal of a claimed session: the identity registry's first entry for it if its
    terminal still runs, or else the registry row that resumes it. -/
def liveTerminalForClaimedRef (claim : SessionLocator) : Option String :=
  (((deps.findBySession claim).map (·.terminalId)).filter deps.registry.isLive).or
    (deps.registry.liveTerminalForSessionRef claim)

def claimedVerdict : Option PaneVerdict := do
  let claim ← effectiveClaim pane
  let terminalId ← liveTerminalForClaimedRef deps claim
  let serverRef := (deps.sessionRefFor terminalId).or (some claim)
  return { base pane .attach with
    terminalId := some terminalId
    sessionRef := serverRef
    corrected := correctedFlag (some claim) serverRef }

def liveVerdict (key : String) : Option PaneVerdict :=
  match deps.registry.newestLiveByCreateRequestId key,pane.terminalId.filter deps.registry.isLive with
  | some newest,some held => some (if newest ≠ held then attach deps pane held (some newest) else attach deps pane newest none)
  | some newest,none => some (attach deps pane newest none)
  | none,some held => some (attach deps pane held none)
  | none,none => none

def freshVerdict : PaneVerdict :=
  if pane.mode = some "shell" then base pane .fresh
  else if pane.terminalId.any deps.pendingForTerminal then
    { base pane .fresh with reason := some "fresh_by_race" }
  else { base pane .fresh with reason := some "no_recoverable_identity" }

/-- A respawn, until the key's generations are used up. -/
def respawnVerdict (key : String) (sref : SessionLocator) : PaneVerdict :=
  if deps.registry.respawnExhausted key then
    { base pane .deadSession with sessionRef := some sref, reason := some "respawn_exhausted" }
  else
    { base pane .respawn with sessionRef := some sref, corrected := correctedFlag pane.sessionRef (some sref) }

/-- A claude session that was bound at its creation and has not been seen on disk since. -/
def neverConversed (sref : SessionLocator) : Bool :=
  sref.provider = "claude" && deps.everBound sref && !deps.existence.everObservedOnDisk sref.provider sref.sessionId

def existenceVerdict (key : String) (sref : SessionLocator) : PaneVerdict :=
  match deps.existence.exists_ sref.provider sref.sessionId with
  | .present => respawnVerdict deps pane key sref
  | .absent =>
    if sref.provider = "amplifier" then respawnVerdict deps pane key sref
    else if neverConversed deps sref then respawnVerdict deps pane key sref
    else if deps.existence.everObserved sref.provider sref.sessionId then
      { base pane .deadSession with sessionRef := some sref, reason := some "session_not_on_disk" }
    else { base pane .fresh with reason := some "identity_never_observed" }
  | .unknown => { base pane .error with reason := some "index_warming" }
  | .providerUnavailable => { base pane .error with reason := some "provider_unavailable" }

/-- A managed owner answers for its session, and one that could not be asked holds the answer back. -/
def identifiedVerdict (key : String) (sref : SessionLocator) : PaneVerdict :=
  match deps.registry.liveManagedOwnerForSession sref with
  | some descriptor =>
    { base pane .attach with
      terminalId := some descriptor.terminalId
      sessionRef := some sref
      corrected := correctedFlag pane.sessionRef (some sref) }
  | none =>
    if deps.isIndeterminate pane.paneKey then
      { base pane .error with sessionRef := some sref, reason := some "managed_runtime_unavailable" }
    else existenceVerdict deps pane key sref

def terminalVerdict (key : String) : PaneVerdict :=
  match (claimedVerdict deps pane).or (liveVerdict deps pane key) with
  | some attached => attached
  | none =>
    match resolveAuthoritativeRef deps pane key with
    | none => freshVerdict deps pane
    | some sref => identifiedVerdict deps pane key sref

/-- The end of the ledger's chain for a fresh agent's claim, as the request's facts have it. -/
def FreshAgentPaneFacts.resolve (facts : FreshAgentPaneFacts) (sref : SessionLocator) : SessionLocator × Option Bool :=
  match facts.resolvedSessionId with
  | some terminus => if terminus ≠ sref.sessionId then (⟨sref.provider,terminus⟩,some true) else (sref,none)
  | none => (sref,none)

def freshAgentVerdict (snapshot : Option (Table String FreshAgentPaneFacts)) : PaneVerdict :=
  match snapshot with
  | none => invalid pane "unsupported_kind"
  | some facts =>
    match pane.sessionRef,facts.lookup pane.paneKey with
    | some claim,some facts =>
      match facts.duplicateOf with
      | some winner =>
        { base pane .fresh with reason := some "duplicate_session_claim", duplicate := some winner }
      | none =>
        let (sref,corrected) := facts.resolve claim
        match facts.presence with
        | .live => { base pane .attach with sessionRef := some sref, corrected := corrected }
        | .onDisk | .unknown =>
          if facts.respawnExhausted then
            { base pane .deadSession with
              sessionRef := some sref, corrected := corrected, reason := some "respawn_exhausted" }
          else { base pane .respawn with sessionRef := some sref, corrected := corrected }
        | .goneObserved =>
          { base pane .deadSession with
            sessionRef := some sref, corrected := corrected, reason := some "session_not_on_disk" }
        | .neverObserved => { base pane .fresh with reason := some "identity_never_observed" }
    | _,_ => { base pane .fresh with reason := some "no_recoverable_identity" }

def verdictForPane : PaneVerdict :=
  if pane.paneKey = "" then invalid pane "missing_pane_key"
  else
    match pane.kind with
    | none => invalid pane "missing_kind"
    | some kind =>
      if kind = "terminal" then
        match nonEmpty pane.createRequestId with
        | none => invalid pane "missing_create_request_id"
        | some key => terminalVerdict deps pane key
      else if kind = "fresh-agent" then freshAgentVerdict pane deps.freshAgent
      else invalid pane "unsupported_kind"

end

def deriveFrom {Payload : Type} (deps : ReconcileDeps Payload) : List String → List ReconcilePane → List PaneVerdict
  | _, [] => []
  | seenKeys, pane :: rest =>
    match nonEmpty pane.createRequestId with
    | none => verdictForPane deps pane :: deriveFrom deps seenKeys rest
    | some key =>
      if key ∈ seenKeys then invalid pane "duplicate_create_request_id" :: deriveFrom deps seenKeys rest
      else verdictForPane deps pane :: deriveFrom deps (key :: seenKeys) rest

def deriveVerdicts {Payload : Type} (deps : ReconcileDeps Payload) (panes : List ReconcilePane) : List PaneVerdict :=
  deriveFrom deps [] panes

end Freshell.Reconcile
