import Mathlib.Data.Prod.Lex
import Freshell.Library.KeyedTables

/-!
What the pane ledger holds: binding rows, pending markers, alias records, close records and
the close fences that they feed, with the rules that read one of them at a time.
-/
namespace Freshell.PaneLedger
open Freshell.Library.Tables

/-- `(provider, session_id)`. -/
abbrev SessionKey := String × String

instance : LawfulBEq SessionKey := inferInstance

/-- `(epoch, generation)`, in the order of pairs. -/
abbrev OwnerPair := Nat ×ₗ Nat

def ledgerVersion : Nat := 1
def boundGcTtlMs : Int := 30 * 24 * 60 * 60 * 1000
def tombstoneGcTtlMs : Int := 90 * 24 * 60 * 60 * 1000
def pendingMarkerTtlMs : Int := 30 * 24 * 60 * 60 * 1000
def pendingMarkerOrphanTtlMs : Int := 7 * 24 * 60 * 60 * 1000
def killTombstoneTtlMs : Int := 6 * 60 * 60 * 1000
def aliasTombstoneTtlMs : Int := 6 * 60 * 60 * 1000

structure SessionLocator where
  provider : String
  sessionId : String
deriving DecidableEq

def modifyFirst {Entry : Type} (test : Entry → Bool) (change : Entry → Entry) : List Entry → List Entry
  | [] => []
  | entry :: rest => if test entry then change entry :: rest else entry :: modifyFirst test change rest

structure KillTombstone where
  ledgerVersion : Nat
  provider : String
  sessionId : String
  killedAtMs : Int
deriving DecidableEq

structure AliasTombstoneEntry where
  durable : String
  atMs : Int
deriving DecidableEq

structure AliasTombstoneRecord where
  ledgerVersion : Nat
  provider : String
  placeholder : String
  records : List AliasTombstoneEntry
deriving DecidableEq

structure PaneCloseKill where
  provider : String
  sessionId : String
  atMs : Int
  /-- Only of the repair of a failed transition: the pair up to which it fences. -/
  scope : Option OwnerPair
deriving DecidableEq

structure PaneCloseLinkage where
  createRequestId : String
  terminalId : Option String
deriving DecidableEq

structure CloseEnvelopeRecord where
  ledgerVersion : Nat
  terminalId : Option String
  createRequestId : Option String
  closedAt : Int
  kills : List PaneCloseKill
  panes : List PaneCloseLinkage
deriving DecidableEq

/-- The legacy shape of a pane's close, under its terminal. -/
structure PaneCloseRecord where
  ledgerVersion : Nat
  terminalId : String
  createRequestId : Option String
  closedAt : Int
  kills : List PaneCloseKill
deriving DecidableEq

def KillTombstone.key (tombstone : KillTombstone) : SessionKey := (tombstone.provider,tombstone.sessionId)
def AliasTombstoneRecord.key (record : AliasTombstoneRecord) : SessionKey := (record.provider,record.placeholder)
def PaneCloseKill.key (kill : PaneCloseKill) : SessionKey := (kill.provider,kill.sessionId)

def tombstoneScopeSparesNewer (scope candidatePair : Option OwnerPair) : Bool :=
  match scope, candidatePair with
  | some scope, some pair => scope < pair
  | _, _ => false

/-- The panes that a record carries, each pane once. -/
def detachLinkages (record : CloseEnvelopeRecord) : List PaneCloseLinkage :=
  let top :=
    match record.createRequestId with
    | some crid => if crid = "" then [] else [{ createRequestId := crid, terminalId := record.terminalId }]
    | none => []
  record.panes.foldl (fun seen linkage =>
    if linkage.createRequestId = "" ∨ seen.any (·.createRequestId = linkage.createRequestId) then seen
    else seen ++ [linkage]) top

/-- What the index keeps of the fences of an identity. -/
structure KillTombstoneEntry where
  atMs : Int
  scope : Option OwnerPair
deriving DecidableEq

instance : Inhabited KillTombstoneEntry := ⟨{ atMs := 0, scope := none }⟩

/-- The newest stamp wins; of equal stamps an unscoped one. -/
def KillTombstoneEntry.fold (entry : KillTombstoneEntry) (kill : PaneCloseKill) : KillTombstoneEntry :=
  if entry.atMs < kill.atMs then { atMs := kill.atMs, scope := kill.scope }
  else if entry.atMs = kill.atMs then
    if kill.scope = none then { entry with scope := none } else entry
  else entry

/-- One kill fed into the fence of its identity. -/
def feedKill (fence : Option KillTombstoneEntry) (kill : PaneCloseKill) : Option KillTombstoneEntry :=
  match fence with
  | some entry => some (entry.fold kill)
  | none => some { atMs := kill.atMs, scope := kill.scope }

inductive RowState where
  | bound
  | retired
deriving DecidableEq

inductive RetiredReason where
  | superseded
  | closed
  | gcExpired
  | sessionMissing
  | failedTransition
deriving DecidableEq

structure BindingRow where
  ledgerVersion : Nat
  provider : String
  sessionId : String
  mode : String
  cwd : Option String
  liveTerminalId : Option String
  createRequestId : Option String
  originCreateRequestId : Option String
  createdAt : Int
  updatedAt : Int
  lastObservedAt : Int
  state : RowState
  retiredReason : Option RetiredReason
  supersededBy : Option SessionLocator
  paneKind : Option String
  ownerEpoch : Option Nat
  ownerGeneration : Option Nat
  model : Option String
  sandbox : Option String
  permissionMode : Option String
  effort : Option String
  clientInstanceId : Option String
  deviceId : Option String
  tabKey : Option String
  lastAttributedAt : Option Int
deriving DecidableEq

structure PendingMarker where
  ledgerVersion : Nat
  terminalId : String
  mode : String
  cwd : Option String
  spawnedAt : Int
  assertedAt : Int
  clientInstanceId : Option String
  deviceId : Option String
  tabKey : Option String
  createRequestId : Option String
deriving DecidableEq

/-- A pair only where both halves are there (`Option::zip`). -/
def zipPair (epoch generation : Option Nat) : Option OwnerPair :=
  match epoch, generation with
  | some epoch, some generation => some (toLex (epoch,generation))
  | _, _ => none

namespace BindingRow

def key (row : BindingRow) : SessionKey := (row.provider,row.sessionId)

def locator (row : BindingRow) : SessionLocator := { provider := row.provider, sessionId := row.sessionId }

/-- The ownership pair that the row was last written under. -/
def pair (row : BindingRow) : Option OwnerPair := zipPair row.ownerEpoch row.ownerGeneration

/-- The part of a row that fences are compared with. -/
def view (row : BindingRow) : RowState × Int := (row.state,row.updatedAt)

def retire (row : BindingRow) (reason : RetiredReason) (nowMs : Int) : BindingRow :=
  { row with state := .retired, retiredReason := some reason, updatedAt := nowMs }

def supersede (row : BindingRow) (supersededBy : SessionLocator) (nowMs : Int) : BindingRow :=
  { row.retire .superseded nowMs with supersededBy := some supersededBy }

end BindingRow

inductive KillTombstoneVerdict where
  | dominant
  | claimResidue
  | fresh
  | expired
deriving DecidableEq

def killTombstoneIsFresh (killedAtMs nowMs : Int) : Bool := nowMs - killedAtMs < killTombstoneTtlMs

def classifyKillTombstone (killedAtMs : Int) (rowView : Option (RowState × Int)) (nowMs : Int) : KillTombstoneVerdict :=
  match rowView with
  | some (.bound,updatedAt) => if killedAtMs ≥ updatedAt then .dominant else .claimResidue
  | some (.retired,_) => if killTombstoneIsFresh killedAtMs nowMs then .fresh else .expired
  | none => if killTombstoneIsFresh killedAtMs nowMs then .fresh else .expired

/-- Whether a close record covers a row: by the keys of the row's pane where it has any,
    by its terminal only where it has none. -/
def closeRecordCoversRow (row : BindingRow) (cridCovered detachTerminalCovered : String → Bool) : Bool :=
  let advisory := row.createRequestId.filter (· ≠ "")
  let origin := row.originCreateRequestId.filter (· ≠ "")
  if advisory.any cridCovered || origin.any cridCovered then true
  else if advisory.isSome || origin.isSome then false
  else (row.liveTerminalId.filter (· ≠ "")).any detachTerminalCovered

structure ProvenanceStamps where
  clientInstanceId : Option String := none
  deviceId : Option String := none
  tabKey : Option String := none
  assertedAt : Int := 0
deriving DecidableEq

inductive ProvenancePolicy where
  | inherit
  | replace (stamps : ProvenanceStamps)
  | clear
deriving DecidableEq

structure Attribution where
  clientInstanceId : Option String
  deviceId : Option String
  tabKey : Option String
  lastAttributedAt : Option Int
deriving DecidableEq

def attachesAttribution (provenance : ProvenancePolicy) : Bool :=
  match provenance with
  | .replace stamps => stamps.clientInstanceId.isSome && stamps.deviceId.isSome
  | _ => false

def advancesAttribution (provenance : ProvenancePolicy) : Bool :=
  match provenance with
  | .replace stamps => stamps.clientInstanceId.isSome && stamps.deviceId.isSome && stamps.tabKey.isSome
  | _ => false

def appliedAttributionTime (assertedAt : Int) : Option Int := if assertedAt > 0 then some assertedAt else none

def BindingRow.attribution (row : BindingRow) : Attribution :=
  { clientInstanceId := row.clientInstanceId, deviceId := row.deviceId, tabKey := row.tabKey,
    lastAttributedAt := row.lastAttributedAt }

/-- The one merge of what a row is attributed to with what a write asserts. -/
def resolveProvenanceMerge (existing : Option BindingRow) (provenance : ProvenancePolicy) (nowMs : Int) : Attribution :=
  let priorAttribution := existing.bind (·.lastAttributedAt)
  let inherited : Attribution :=
    { clientInstanceId := existing.bind (·.clientInstanceId), deviceId := existing.bind (·.deviceId),
      tabKey := existing.bind (·.tabKey), lastAttributedAt := priorAttribution }
  match provenance with
  | .inherit => inherited
  | .replace stamps =>
    let apply :=
      match priorAttribution with
      | none => attachesAttribution provenance
      | some time => advancesAttribution provenance && stamps.assertedAt ≥ time
    if apply then
      { clientInstanceId := stamps.clientInstanceId, deviceId := stamps.deviceId, tabKey := stamps.tabKey,
        lastAttributedAt := appliedAttributionTime stamps.assertedAt }
    else inherited
  | .clear =>
    { clientInstanceId := none, deviceId := none, tabKey := none,
      lastAttributedAt := some (match priorAttribution with | none => nowMs | some time => max time nowMs) }

def BindingRow.attributed (row : BindingRow) (attribution : Attribution) : BindingRow :=
  { row with
    clientInstanceId := attribution.clientInstanceId, deviceId := attribution.deviceId,
    tabKey := attribution.tabKey, lastAttributedAt := attribution.lastAttributedAt }

structure BindingWrite where
  provider : String
  sessionId : String
  terminalId : String
  mode : String
  cwd : Option String
  createRequestId : Option String
  originCreateRequestId : Option String
  provenance : ProvenancePolicy
  observedEpoch : Option Nat
  observedGeneration : Option Nat
  nowMs : Int
deriving DecidableEq

structure ReattachWrite where
  provider : String
  sessionId : String
  terminalId : String
  createRequestId : String
  provenance : ProvenancePolicy
  nowMs : Int
deriving DecidableEq

structure FreshAgentBindingWrite where
  provider : String
  sessionId : String
  mode : String
  cwd : Option String
  createRequestId : Option String
  model : Option String
  sandbox : Option String
  permissionMode : Option String
  effort : Option String
  supersedes : Option String
  provenance : ProvenancePolicy
  observedEpoch : Option Nat
  observedGeneration : Option Nat
  authoritative : Bool
  nowMs : Int
deriving DecidableEq

structure PaneCloseWrite where
  terminalId : String
  createRequestId : Option String
  resolved : List SessionLocator
  nowMs : Int
deriving DecidableEq

def BindingWrite.key (w : BindingWrite) : SessionKey := (w.provider,w.sessionId)
def BindingWrite.pair (w : BindingWrite) : Option OwnerPair := zipPair w.observedEpoch w.observedGeneration
def FreshAgentBindingWrite.key (w : FreshAgentBindingWrite) : SessionKey := (w.provider,w.sessionId)
def FreshAgentBindingWrite.pair (w : FreshAgentBindingWrite) : Option OwnerPair :=
  zipPair w.observedEpoch w.observedGeneration

inductive LedgerError where
  | file
  | other (message : String)
deriving DecidableEq

/-- A close that failed: with nothing of it durable, or although it is durable. -/
inductive CloseEnvelopeError where
  | clean
  | persisted
deriving DecidableEq

inductive ClaimCommitOutcome where
  | committed
  | refusedStale
deriving DecidableEq

variable (row : BindingRow) (reason : RetiredReason)

variable (supersededBy : SessionLocator)

@[simp] theorem BindingRow.supersede_key (nowMs : Int) : (row.supersede supersededBy nowMs).key = row.key := rfl

@[simp] theorem BindingRow.attributed_key (attribution : Attribution) :
    (row.attributed attribution).key = row.key := rfl

theorem zipPair_eq_some {epoch generation : Option Nat} {pair : OwnerPair} :
    zipPair epoch generation = some pair ↔
      epoch = some (ofLex pair).1 ∧ generation = some (ofLex pair).2 := by
  cases epoch <;> cases generation <;> simp [zipPair]
  constructor
  · rintro rfl
    exact ⟨rfl,rfl⟩
  · rintro ⟨rfl,rfl⟩
    rfl

end Freshell.PaneLedger
