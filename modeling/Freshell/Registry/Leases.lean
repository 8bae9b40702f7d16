import Freshell.Registry.Rows

/-!
The lease of a session reference: one in-flight create a reference, taken in the
lease phase of a claim, and ended by its completion, its failure, the death of
its connection or a confirmed kill of its child.
-/
namespace Freshell.Registry
open Freshell.Library.Tables

structure SessionLocator where
  provider : String
  sessionId : String
deriving DecidableEq, Repr

def sessionRefKey (locator : SessionLocator) : String := locator.provider ++ "\x00" ++ locator.sessionId

def sessionReservedRetryAfterMs : Nat := 1000

structure SessionRefLease where
  locator : SessionLocator
  holderCreateRequestId : String
  holderConn : ConnId
  acquiredAtMs : UInt64
  pid : Option UInt32
  revoked : Bool
deriving DecidableEq, Repr

inductive SessionRefClaim where
  | acquired
  | held (retryAfterMs : Nat)
  | expiredNeedsKill (pid : UInt32)
  | boundElsewhere (terminalId : String)
deriving DecidableEq, Repr

abbrev Leases := Table String SessionRefLease
abbrev Bindings := Table String String

structure Claimant where
  locator : SessionLocator
  createRequestId : String
  conn : ConnId
  nowMs : UInt64
deriving DecidableEq, Repr

namespace Claimant

abbrev key (claimant : Claimant) : String := sessionRefKey claimant.locator

def lease (claimant : Claimant) : SessionRefLease where
  locator := claimant.locator
  holderCreateRequestId := claimant.createRequestId
  holderConn := claimant.conn
  acquiredAtMs := claimant.nowMs
  pid := none
  revoked := false

end Claimant

/-- `claim_session_ref_lease_phase`, under the leases lock. `ttl` is the lease's
    lifetime in milliseconds, which the environment may set. -/
def claimLeasePhase (ttl : UInt64) (leases : Leases) (bindings : Bindings) (claimant : Claimant) :
    SessionRefClaim × Leases :=
  match leases.lookup claimant.key with
  | none =>
    match bindings.lookup claimant.key with
    | some terminalId => (.boundElsewhere terminalId,leases)
    | none => (.acquired,leases.insert claimant.key claimant.lease)
  | some lease =>
    if claimant.nowMs ≤ lease.acquiredAtMs + ttl then (.held sessionReservedRetryAfterMs,leases)
    else
      match lease.pid with
      | some pid => (.expiredNeedsKill pid,leases)
      -- nothing to kill: the lease is held closed, and its completion refused
      | none => (.held sessionReservedRetryAfterMs,leases.insert claimant.key { lease with revoked := true })

def setLeasePid (leases : Leases) (locator : SessionLocator) (request : String) (pid : UInt32) : Leases :=
  match leases.lookup (sessionRefKey locator) with
  | some lease =>
    if lease.holderCreateRequestId = request then leases.insert (sessionRefKey locator) { lease with pid := some pid }
    else leases
  | none => leases

/-- The holder of an unrevoked lease may bind its reference. -/
def mayComplete (leases : Leases) (locator : SessionLocator) (request : String) : Bool :=
  match leases.lookup (sessionRefKey locator) with
  | some lease => lease.holderCreateRequestId = request && !lease.revoked
  | none => false

def failClaim (leases : Leases) (locator : SessionLocator) (request : String) : Leases :=
  match leases.lookup (sessionRefKey locator) with
  | some lease => if lease.holderCreateRequestId = request then leases.erase (sessionRefKey locator) else leases
  | none => leases

/-- The leases that the death of the connection leaves: its own stay only while
    a child has yet to be killed. -/
def releaseForConn (leases : Leases) (conn : ConnId) : Leases :=
  retain (fun _ lease => lease.holderConn ≠ conn ∨ lease.pid.isSome) leases

/-- What the death of the connection reports of its leases. -/
def leasesOfConn (leases : Leases) (conn : ConnId) : List (SessionLocator × Option UInt32) :=
  (leases.entries.filter fun entry => entry.2.holderConn = conn).map fun entry => (entry.2.locator,entry.2.pid)

end Freshell.Registry
