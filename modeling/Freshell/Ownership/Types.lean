import Mathlib.Data.List.AList

/-!
The data model of the runtime-ownership registry: one record for each session
key, its state, and the outcomes that the operations answer. Generations and
epochs are the `u64` counters of the source, which no run exhausts; the abort
handle, the settle future and the settlement flags of a record are opaque
tokens, and whether a flag has fired is an argument of the sweeps that load it.
-/
namespace Freshell.Ownership
set_option linter.unusedSimpArgs false

inductive RuntimeOwnerKind where
  | terminal | freshAgent
deriving DecidableEq, Repr

structure SessionKey where
  provider : String
  sessionId : String
deriving DecidableEq, Repr

structure OwnerIdentity where
  kind : RuntimeOwnerKind
  terminalId : Option String
  liveSessionKey : Option String
  pid : Option Nat
  ownershipId : Option String
deriving DecidableEq, Repr

/-- Why a key sits in `OwnershipState.fenced`. -/
inductive FenceReason where
  | watcherFailed | platformLimited | clearedUnverified | staleStart | staleStop
deriving DecidableEq, Repr

def FenceReason.wireStr : FenceReason → String
  | .watcherFailed => "watcher-failed"
  | .platformLimited => "platform-limited"
  | .clearedUnverified => "cleared-unverified"
  | .staleStop => "stale-stop"
  | .staleStart => "stale-start"

def kindWire : RuntimeOwnerKind → String
  | .terminal => "terminal"
  | .freshAgent => "fresh-agent"

inductive OwnershipState where
  | vacant
  | starting (kind : RuntimeOwnerKind) (operationId : String) (generation : Nat) (initiator : String) (sinceMs : Nat)
  | live (owner : OwnerIdentity) (generation : Nat) (sinceMs : Nat)
  | handoff (prior : Option (OwnerIdentity × Nat)) (toKind : RuntimeOwnerKind) (operationId : String)
      (generation : Nat) (initiator : String) (sinceMs : Nat)
  | stopping (owner : Option OwnerIdentity) (priorGeneration : Option Nat) (operationId : String)
      (generation : Nat) (initiator : String) (sinceMs : Nat)
  | fenced (prior : Option (OwnerIdentity × Nat)) (reason : FenceReason) (operationId : String)
      (generation : Nat) (initiator : String) (sinceMs : Nat)
  | aliased (toId : String) (generation : Nat)
deriving DecidableEq, Repr

namespace OwnershipState

/-- The recorded initiator of the in-flight operation. -/
def initiator : OwnershipState → Option String
  | .starting _ _ _ initiator _ | .handoff _ _ _ _ initiator _ | .stopping _ _ _ _ initiator _
  | .fenced _ _ _ _ initiator _ => some initiator
  | _ => none

/-- The kind this state is, or is transitioning to. -/
def kind : OwnershipState → Option RuntimeOwnerKind
  | .vacant | .aliased _ _ => none
  | .starting kind _ _ _ _ => some kind
  | .live owner _ _ => some owner.kind
  | .handoff _ toKind _ _ _ _ => some toKind
  | .stopping owner _ _ _ _ _ => owner.map (·.kind)
  | .fenced prior _ _ _ _ _ => prior.map (·.1.kind)

/-- The operation id of the in-flight transition this state represents. -/
def operationId : OwnershipState → Option String
  | .vacant | .live _ _ _ | .aliased _ _ => none
  | .starting _ operationId _ _ _ | .handoff _ _ operationId _ _ _ | .stopping _ _ operationId _ _ _
  | .fenced _ _ operationId _ _ _ => some operationId

/-- The prior owner that a handoff captured, with the generation it held. -/
def priorOwner : OwnershipState → Option (OwnerIdentity × Nat)
  | .handoff prior _ _ _ _ _ => prior
  | _ => none

def generation : OwnershipState → Option Nat
  | .vacant => none
  | .starting _ _ generation _ _ | .live _ generation _ | .handoff _ _ _ generation _ _
  | .stopping _ _ _ generation _ _ | .fenced _ _ _ generation _ _ | .aliased _ generation => some generation

end OwnershipState

/-- The `(epoch, generation)` pair a lifecycle request observed. -/
structure ObservedFence where
  epoch : Nat
  generation : Nat
deriving DecidableEq, Repr

inductive BeginOutcome where
  | granted (generation : Nat)
  | adoptLive (owner : OwnerIdentity) (generation : Nat)
  | ownedByOtherKind (owner : OwnerIdentity) (generation : Nat)
  | blocked (state : OwnershipState) (retryAfterMs : Nat)
  | staleGeneration (currentEpoch currentGeneration : Nat)
deriving DecidableEq, Repr

inductive CommitOutcome where
  | committed
  | staleGeneration (currentGeneration : Nat)
  | foreignOperation
deriving DecidableEq, Repr

inductive AbortStopOutcome where
  | aborted
  | staleGeneration (currentGeneration : Nat)
  | foreignOperation
deriving DecidableEq, Repr

inductive FailVacantReason where
  | noPrior | priorNotLive
deriving DecidableEq, Repr

inductive FailOutcome where
  | released
  | restoredPriorOwner
  | vacant (reason : FailVacantReason)
  | foreignOperation
deriving DecidableEq, Repr

inductive FenceOutcome where
  | fenced | foreignOperation
deriving DecidableEq, Repr

inductive AcknowledgedStartOutcome where
  | granted (generation : Nat)
  | staleObservation (currentEpoch currentGeneration : Nat)
  | lostRace (state : OwnershipState)
deriving DecidableEq, Repr

inductive ForceReleaseOutcome where
  | released
  | notPlatformLimited (state : OwnershipState)
  | staleObservation (currentEpoch currentGeneration : Nat)
deriving DecidableEq, Repr

inductive StopOutcome where
  | granted (generation : Nat)
  | notLive (state : OwnershipState)
  | blockedHandoff (state : OwnershipState) (retryAfterMs : Nat)
  | staleClaim (currentEpoch currentGeneration : Nat) (state : OwnershipState)
deriving DecidableEq, Repr

structure OwnershipSnapshot where
  epoch : Nat
  generation : Nat
  state : OwnershipState
deriving DecidableEq, Repr

/-- The fencing claim every watcher or TTL release carries; `runtime` is `none`
    only for the recovery of a zombie `starting` ticket. -/
structure ReleaseClaim where
  operationId : String
  generation : Nat
  runtime : Option OwnerIdentity
deriving DecidableEq, Repr

structure StopClaim where
  expectedKind : RuntimeOwnerKind
  expectedRuntime : Option OwnerIdentity
  observed : ObservedFence
deriving DecidableEq, Repr

abbrev Handle := Nat

/-- A registered settlement flag; a sweep reads whether it has fired. -/
abbrev Flag := Nat

structure SessionRecord where
  generation : Nat
  state : OwnershipState
  cancellation : Option Handle
  settle : Option Handle
  settleFired : Option Flag
  stopSettled : Option Flag
  partialRuntime : Option OwnerIdentity
  inFlightAttaches : Nat
  armedAttachOps : List String
deriving DecidableEq, Repr

def SessionRecord.default : SessionRecord :=
  ⟨0,.vacant,none,none,none,none,none,0,[]⟩

instance : Inhabited SessionRecord := ⟨.default⟩

/-- The generation a snapshot or replay consumer fences against: the live
    state's own for a live key, else the record's. -/
def snapshotGeneration (record : SessionRecord) : Nat :=
  match record.state with
  | .live _ generation _ => generation
  | _ => record.generation

/-- A watchdog-recovered over-aged `starting` ticket. -/
structure RecoveredStart where
  key : SessionKey
  operationId : String
  generation : Nat
  kind : RuntimeOwnerKind
  initiator : String
  sinceMs : Nat
  cancellation : Option Handle
  settle : Option Handle
  partialRuntime : Option OwnerIdentity
deriving DecidableEq, Repr

/-- An over-aged `stopping` record that the watchdog fenced. -/
structure StaleStopping where
  key : SessionKey
  operationId : String
  generation : Nat
  prior : Option (OwnerIdentity × Nat)
  initiator : String
  sinceMs : Nat
deriving DecidableEq, Repr

def ownershipRetryAfterMs : Nat := 1000

structure Registry where
  epoch : Nat
  inner : AList (fun _ : SessionKey => SessionRecord)

namespace Registry

def withEpoch (epoch : Nat) : Registry := ⟨epoch,∅⟩

def get (registry : Registry) (key : SessionKey) : Option SessionRecord := registry.inner.lookup key

def set (registry : Registry) (key : SessionKey) (record : SessionRecord) : Registry :=
  { registry with inner := registry.inner.insert key record }

/-- The record of a key, a fresh one where the registry has none. -/
def record (registry : Registry) (key : SessionKey) : SessionRecord := (registry.get key).getD .default

/-- Every record changed in place, as the sweeps do. -/
def mapRecords (registry : Registry) (change : SessionKey → SessionRecord → SessionRecord) : Registry :=
  { registry with
    inner := ⟨registry.inner.entries.map fun entry => ⟨entry.1,change entry.1 entry.2⟩,by
      simpa [List.NodupKeys,List.keys,Function.comp_def] using registry.inner.nodupKeys⟩ }

@[simp] theorem get_withEpoch (epoch : Nat) (key : SessionKey) : (withEpoch epoch).get key = none := rfl

variable (registry : Registry)

@[simp] theorem get_set_self (key : SessionKey) (record : SessionRecord) :
    (registry.set key record).get key = some record := by
  simp [get,set]

variable {key : SessionKey}

@[simp] theorem get_set_of_ne {other : SessionKey} (record : SessionRecord) (distinct : other ≠ key) :
    (registry.set key record).get other = registry.get other := by
  simp [get,set,AList.lookup_insert_ne distinct]

variable (change : SessionKey → SessionRecord → SessionRecord)

@[simp] theorem get_mapRecords (key : SessionKey) :
    (registry.mapRecords change).get key = (registry.get key).map (change key) := by
  simp only [get,mapRecords,AList.lookup]
  exact List.dlookup_map₂ key

theorem record_of_get {registry : Registry} {record : SessionRecord} (found : registry.get key = some record) :
    registry.record key = record := by
  simp [Registry.record,found]

theorem state_of_get {registry : Registry} {record : SessionRecord} {state : OwnershipState}
    (found : registry.get key = some record) (held : record.state = state) : (registry.record key).state = state := by
  rw [record_of_get found,held]

theorem record_of_none {registry : Registry} (absent : registry.get key = none) : registry.record key = .default := by
  simp [Registry.record,absent]

@[simp] theorem record_set_self (key : SessionKey) (record : SessionRecord) :
    (registry.set key record).record key = record := by
  simp [Registry.record]

@[simp] theorem record_set_of_ne {other : SessionKey} (record : SessionRecord) (distinct : other ≠ key) :
    (registry.set key record).record other = registry.record other := by
  simp [Registry.record,distinct]

theorem get_of_not_vacant {registry : Registry} (held : (registry.record key).state ≠ .vacant) :
    registry.get key = some (registry.record key) := by
  cases found : registry.get key with
  | none => rw [record_of_none found] at held; exact absurd rfl held
  | some record => rw [record_of_get found]

end Registry
end Freshell.Ownership
