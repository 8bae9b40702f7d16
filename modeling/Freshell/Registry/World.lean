import Freshell.Registry.Leases
import Mathlib.Data.List.Sort

/-!
The terminal registry under every interleaving of its lock holds: rows behind
shared cells that outlive their registration, kills in three phases, the idle
reaper's sweep, and the claim of a session reference, which drops its locks
between the row join, the recorded binding and the lease.
-/
namespace Freshell.Registry
open Freshell.Library.Tables

structure TerminalHandle where
  shared : Nat
  managed : Bool
deriving DecidableEq, Repr

/-- A kill that has removed its row: whether it has pruned the bindings yet. -/
structure Kill where
  terminalId : String
  pruned : Bool
deriving DecidableEq, Repr

/-- Where a call of `claim_session_ref` stands. `probing`, `peeking` and
    `reading` hold the bindings lock. -/
inductive ClaimPhase where
  | joining (rest : List Nat) (live : List (Int × String))
  | binding
  | probing (terminalId : String)
  | peeking (terminalId : String)
  | reading (terminalId : String) (shared : Nat)
  | leasing
deriving DecidableEq, Repr

structure ClaimCall where
  claimant : Claimant
  phase : ClaimPhase
deriving DecidableEq, Repr

/-- Where `enforce_idle_kills` stands. -/
inductive Sweep where
  | resting
  | collecting (now threshold : Int) (candidates : List String)
  | reaping (killing : Option Nat) (rest : List String)
deriving DecidableEq, Repr

structure TerminalRegistry where
  cells : List TerminalShared
  terminals : Table String TerminalHandle
  kills : Table Nat Kill
  sweep : Sweep
  autoKillIdleMinutes : Int
  leases : Leases
  bindings : Bindings
  bindingsLock : Option Nat
  calls : Table Nat ClaimCall

inductive Op where
  | register (terminalId mode : String) (resumeSessionId : Option String) (createdAt : Int) (managed : Bool)
  | row (shared : Nat) (op : RowOp)
  | kill (terminalId : String) (allowManaged : Bool)
  | prune (shared : Nat)
  | finishKill (shared : Nat)
  | setAutoKillIdleMinutes (minutes : Int)
  | enforceIdleKills (now : Int)
  | probeIdle (terminalId : String)
  | reapIdle
  | killIdle
  | claim (call : Nat) (claimant : Claimant)
  | claimStep (call : Nat)
  | setLeasePid (locator : SessionLocator) (request : String) (pid : UInt32)
  | complete (locator : SessionLocator) (request terminalId : String)
  | fail (locator : SessionLocator) (request : String)
  | releaseForConn (conn : ConnId)
  | forceRelease (locator : SessionLocator)
deriving DecidableEq, Repr

inductive Reply where
  | done
  | blocked
  | killed (found : Bool)
  | answered (claimant : Claimant) (claim : SessionRefClaim)
  | completed (bound : Bool)
  | released (leases : List (SessionLocator × Option UInt32))
deriving DecidableEq, Repr

def saturating (n : Int) : Int := max (-9223372036854775808) (min 9223372036854775807 n)

def isAgentMode (mode : String) : Bool := mode ∈ ["claude","codex","opencode","amplifier","gemini","kimi"]

def idleHardCapMs : Int := 24 * 60 * 60 * 1000

/-- The reaper's test of a row, against the clock and the threshold that its
    sweep began with. -/
def TerminalShared.Idle (row : TerminalShared) (now threshold : Int) : Prop :=
  row.status = .running ∧ row.subscribers = ∅ ∧
    ¬((isAgentMode row.mode ∨ row.releasedByClient = false) ∧
      saturating (now - row.lastMeaningfulActivityAt) < idleHardCapMs) ∧
    ¬saturating (now - row.lastMeaningfulActivityAt) < threshold

instance (row : TerminalShared) (now threshold : Int) : Decidable (row.Idle now threshold) :=
  inferInstanceAs (Decidable (_ ∧ _ ∧ _ ∧ _))

/-- The row carries the session reference and runs. -/
def TerminalShared.Carries (row : TerminalShared) (locator : SessionLocator) : Prop :=
  row.status = .running ∧ row.mode = locator.provider ∧ row.resumeSessionId = some locator.sessionId

instance (row : TerminalShared) (locator : SessionLocator) : Decidable (row.Carries locator) :=
  inferInstanceAs (Decidable (_ ∧ _ ∧ _))

/-- Newest first, the greater id first among equals. -/
def Newer (a b : Int × String) : Prop := b.1 < a.1 ∨ b.1 = a.1 ∧ b.2 ≤ a.2

instance (a b : Int × String) : Decidable (Newer a b) := inferInstanceAs (Decidable (_ ∨ _ ∧ _))

def newest (live : List (Int × String)) : Option String := (live.insertionSort Newer).head?.map Prod.snd

/-- The sweep goes on once the kill that it waits for has ended. -/
def Sweep.after (sweep : Sweep) (shared : Nat) : Sweep :=
  match sweep with
  | .reaping (some killing) rest => if killing = shared then .reaping none rest else sweep
  | _ => sweep

namespace TerminalRegistry

def new (autoKillIdleMinutes : Int) : TerminalRegistry where
  cells := []
  terminals := ∅
  kills := ∅
  sweep := .resting
  autoKillIdleMinutes := autoKillIdleMinutes
  leases := ∅
  bindings := ∅
  bindingsLock := none
  calls := ∅

def withCells (s : TerminalRegistry) (cells : List TerminalShared) : TerminalRegistry := { s with cells := cells }

def withSweep (s : TerminalRegistry) (sweep : Sweep) : TerminalRegistry := { s with sweep := sweep }

def withLeases (s : TerminalRegistry) (leases : Leases) : TerminalRegistry := { s with leases := leases }

def withBindings (s : TerminalRegistry) (bindings : Bindings) : TerminalRegistry := { s with bindings := bindings }

def withKills (s : TerminalRegistry) (kills : Table Nat Kill) : TerminalRegistry := { s with kills := kills }

def withTerminals (s : TerminalRegistry) (terminals : Table String TerminalHandle) : TerminalRegistry :=
  { s with terminals := terminals }

/-- A spawned, headless or managed row, over whatever the id named before. -/
def register (s : TerminalRegistry) (terminalId mode : String) (resumeSessionId : Option String) (createdAt : Int)
    (managed : Bool) : TerminalRegistry :=
  (s.withCells (s.cells ++ [.registered terminalId mode resumeSessionId createdAt managed])).withTerminals
    (s.terminals.insert terminalId ⟨s.cells.length,managed⟩)

/-- `kill_internal` up to the removal of the row: the row that it removed. -/
def removeRow (s : TerminalRegistry) (terminalId : String) (allowManaged : Bool) : Option (Nat × TerminalRegistry) :=
  match s.terminals.lookup terminalId with
  | none => none
  | some handle =>
    if handle.managed ∧ ¬allowManaged then none
    else some (handle.shared,(s.withTerminals (s.terminals.erase terminalId)).withKills
      (s.kills.insert handle.shared ⟨terminalId,false⟩))

def prune (s : TerminalRegistry) (shared : Nat) : TerminalRegistry × Reply :=
  match s.kills.lookup shared, s.bindingsLock with
  | some kill, none =>
    ((s.withBindings (retain (fun _ bound => bound ≠ kill.terminalId) s.bindings)).withKills
      (s.kills.insert shared { kill with pruned := true }),.done)
  | _, _ => (s,.blocked)

/-- The kill marks its row exited and drops the subscribers. -/
def finishKill (s : TerminalRegistry) (shared : Nat) : TerminalRegistry × Reply :=
  match s.kills.lookup shared with
  | some ⟨_,true⟩ =>
    (((s.withCells (s.cells.modify shared .killed)).withKills (s.kills.erase shared)).withSweep
      (s.sweep.after shared),.killed true)
  | _ => (s,.blocked)

def enforceIdleKills (s : TerminalRegistry) (now : Int) : TerminalRegistry :=
  match s.sweep with
  | .resting =>
    if s.autoKillIdleMinutes ≤ 0 then s
    else s.withSweep (.collecting now (saturating (s.autoKillIdleMinutes * 60000)) [])
  | _ => s

/-- The sweep reads one row under its lock, once a row. -/
def probeIdle (s : TerminalRegistry) (terminalId : String) : TerminalRegistry :=
  match s.sweep, s.terminals.lookup terminalId with
  | .collecting now threshold candidates, some handle =>
    match s.cells[handle.shared]? with
    | some row =>
      if terminalId ∉ candidates ∧ handle.managed = false ∧ row.Idle now threshold then
        s.withSweep (.collecting now threshold (terminalId :: candidates))
      else s
    | none => s
  | _, _ => s

def reapIdle (s : TerminalRegistry) : TerminalRegistry :=
  match s.sweep with
  | .collecting _ _ candidates => s.withSweep (.reaping none (candidates.insertionSort (· ≤ ·)))
  | _ => s

/-- The sweep kills its next candidate, as it finds it. -/
def killIdle (s : TerminalRegistry) : TerminalRegistry :=
  match s.sweep with
  | .reaping none [] => s.withSweep .resting
  | .reaping none (terminalId :: rest) =>
    match s.removeRow terminalId false with
    | some (shared,after) => after.withSweep (.reaping (some shared) rest)
    | none => s.withSweep (.reaping none rest)
  | _ => s

def withCalls (s : TerminalRegistry) (calls : Table Nat ClaimCall) : TerminalRegistry := { s with calls := calls }

def withBindingsLock (s : TerminalRegistry) (holder : Option Nat) : TerminalRegistry := { s with bindingsLock := holder }

/-- The call begins with the shared cells of every registered row. -/
def claim (s : TerminalRegistry) (call : Nat) (claimant : Claimant) : TerminalRegistry × Reply :=
  match s.calls.lookup call with
  | some _ => (s,.blocked)
  | none => (s.withCalls (s.calls.insert call ⟨claimant,.joining (s.terminals.entries.map (·.2.shared)) []⟩),.done)

def moveCall (s : TerminalRegistry) (call : Nat) (claimant : Claimant) (phase : ClaimPhase) : TerminalRegistry × Reply :=
  (s.withCalls (s.calls.insert call ⟨claimant,phase⟩),.done)

def answer (s : TerminalRegistry) (call : Nat) (claimant : Claimant) (claim : SessionRefClaim) :
    TerminalRegistry × Reply :=
  (s.withCalls (s.calls.erase call),.answered claimant claim)

/-- The recorded binding of a terminal that is known dead goes, and the call
    turns to the lease. -/
def dropBinding (s : TerminalRegistry) (call : Nat) (claimant : Claimant) : TerminalRegistry × Reply :=
  ((s.withBindings (s.bindings.erase claimant.key)).withBindingsLock none).moveCall call claimant .leasing

def claimBinding (s : TerminalRegistry) (call : Nat) (claimant : Claimant) : TerminalRegistry × Reply :=
  match s.bindingsLock with
  | some _ => (s,.blocked)
  | none =>
    match s.bindings.lookup claimant.key with
    | none => s.moveCall call claimant .leasing
    | some terminalId => (s.withBindingsLock (some call)).moveCall call claimant (.probing terminalId)

def claimLease (s : TerminalRegistry) (ttl : UInt64) (call : Nat) (claimant : Claimant) : TerminalRegistry × Reply :=
  match s.leases.lookup claimant.key, s.bindingsLock with
  | none, some _ => (s,.blocked)
  | _, _ =>
    let (claim,leases) := claimLeasePhase ttl s.leases s.bindings claimant
    (s.withLeases leases).answer call claimant claim

/-- The next lock hold of a call of `claim_session_ref`. -/
def claimStep (s : TerminalRegistry) (ttl : UInt64) (call : Nat) : TerminalRegistry × Reply :=
  match s.calls.lookup call with
  | none => (s,.blocked)
  | some ⟨claimant,.joining (shared :: rest) live⟩ =>
    match s.cells[shared]? with
    | none => s.moveCall call claimant (.joining rest live)
    | some row =>
      if row.Carries claimant.locator then
        s.moveCall call claimant (.joining rest (live ++ [(row.createdAt,row.terminalId)]))
      else s.moveCall call claimant (.joining rest live)
  | some ⟨claimant,.joining [] live⟩ =>
    match newest live with
    | some terminalId => s.answer call claimant (.boundElsewhere terminalId)
    | none => s.moveCall call claimant .binding
  | some ⟨claimant,.binding⟩ => s.claimBinding call claimant
  | some ⟨claimant,.probing terminalId⟩ =>
    -- an id that the registry does not know is honoured, not pruned
    if (s.terminals.lookup terminalId).isSome then s.moveCall call claimant (.peeking terminalId)
    else (s.withBindingsLock none).answer call claimant (.boundElsewhere terminalId)
  | some ⟨claimant,.peeking terminalId⟩ =>
    match s.terminals.lookup terminalId with
    | none => s.dropBinding call claimant
    | some handle => s.moveCall call claimant (.reading terminalId handle.shared)
  | some ⟨claimant,.reading terminalId shared⟩ =>
    if (s.cells[shared]?.map (·.status)) = some .running then
      (s.withBindingsLock none).answer call claimant (.boundElsewhere terminalId)
    else s.dropBinding call claimant
  | some ⟨claimant,.leasing⟩ => s.claimLease ttl call claimant

/-- `complete_session_ref_claim`: the lease goes and the binding comes in one
    hold of the leases lock. -/
def complete (s : TerminalRegistry) (locator : SessionLocator) (request terminalId : String) :
    TerminalRegistry × Reply :=
  if mayComplete s.leases locator request then
    match s.bindingsLock with
    | some _ => (s,.blocked)
    | none =>
      ((s.withLeases (s.leases.erase (sessionRefKey locator))).withBindings
        (s.bindings.insert (sessionRefKey locator) terminalId),.completed true)
  else (s,.completed false)

def kill (s : TerminalRegistry) (terminalId : String) (allowManaged : Bool) : TerminalRegistry × Reply :=
  match s.removeRow terminalId allowManaged with
  | some (_,after) => (after,.done)
  | none => (s,.killed false)

def step (ttl : UInt64) (s : TerminalRegistry) : Op → TerminalRegistry × Reply
  | .register terminalId mode resume createdAt managed => (s.register terminalId mode resume createdAt managed,.done)
  | .row shared op => (s.withCells (s.cells.modify shared (·.apply op)),.done)
  | .kill terminalId allowManaged => s.kill terminalId allowManaged
  | .prune shared => s.prune shared
  | .finishKill shared => s.finishKill shared
  | .setAutoKillIdleMinutes minutes => ({ s with autoKillIdleMinutes := minutes },.done)
  | .enforceIdleKills now => (s.enforceIdleKills now,.done)
  | .probeIdle terminalId => (s.probeIdle terminalId,.done)
  | .reapIdle => (s.reapIdle,.done)
  | .killIdle => (s.killIdle,.done)
  | .claim call claimant => s.claim call claimant
  | .claimStep call => s.claimStep ttl call
  | .setLeasePid locator request pid => (s.withLeases (Registry.setLeasePid s.leases locator request pid),.done)
  | .complete locator request terminalId => s.complete locator request terminalId
  | .fail locator request => (s.withLeases (failClaim s.leases locator request),.done)
  | .releaseForConn conn => (s.withLeases (Registry.releaseForConn s.leases conn),.released (leasesOfConn s.leases conn))
  | .forceRelease locator => (s.withLeases (s.leases.erase (sessionRefKey locator)),.done)

def next (ttl : UInt64) (s : TerminalRegistry) (op : Op) : TerminalRegistry := (s.step ttl op).1

end TerminalRegistry
end Freshell.Registry
