import Freshell.Library.Tables
import Mathlib.Data.Finset.Basic

/-!
A row of the terminal registry behind its lock: who watches it, who claims its
lifetime, whether its client has released it, the clocks the idle reaper reads,
and what each operation of the registry does to it.
-/
namespace Freshell.Registry
open Freshell.Library.Tables

abbrev ConnId := Nat

inductive TerminalRunStatus where
  | running | exited
deriving DecidableEq, Repr

structure Subscriber where
  attachRequestId : Option String
  pacedDeferred : Bool
  pacedExitPending : Option Int
deriving DecidableEq, Repr

/-- The shared state of a terminal, without its replay ring, its scanners, its
    geometry and its directory texts. -/
structure TerminalShared where
  terminalId : String
  mode : String
  resumeSessionId : Option String
  createdAt : Int
  status : TerminalRunStatus
  exitCode : Option Int
  lastActivityAt : Int
  lastMeaningfulActivityAt : Int
  subscribers : Table ConnId Subscriber
  claims : Finset ConnId
  releasedByClient : Bool

namespace TerminalShared

/-- A row as it is registered. A managed facade starts wanted, every other row
    released: nobody has attached to it. -/
def registered (terminalId mode : String) (resumeSessionId : Option String) (createdAt : Int) (managed : Bool) :
    TerminalShared where
  terminalId := terminalId
  mode := mode
  resumeSessionId := resumeSessionId
  createdAt := createdAt
  status := .running
  exitCode := none
  lastActivityAt := createdAt
  lastMeaningfulActivityAt := createdAt
  subscribers := ∅
  claims := ∅
  releasedByClient := !managed

def watched (row : TerminalShared) (subscribers : Table ConnId Subscriber) : TerminalShared :=
  { row with subscribers := subscribers }

def wantedBy (row : TerminalShared) (claims : Finset ConnId) : TerminalShared := { row with claims := claims }

def wanted (row : TerminalShared) : TerminalShared := { row with releasedByClient := false }

/-- The idle grace that a terminal gets when its last reference goes. -/
def graced (row : TerminalShared) (now : Int) : TerminalShared :=
  { row with lastMeaningfulActivityAt := max row.lastMeaningfulActivityAt now }

def released (row : TerminalShared) (now : Int) : TerminalShared := { row.graced now with releasedByClient := true }

/-- A running terminal that no connection watches or claims. -/
def Unreferenced (row : TerminalShared) : Prop :=
  row.subscribers = ∅ ∧ row.claims = ∅ ∧ row.status = .running

instance (row : TerminalShared) : Decidable row.Unreferenced := inferInstanceAs (Decidable (_ ∧ _ ∧ _))

/-- `attach_to_shared`, on the paced and on the inline path. An exited terminal
    is replayed inline, answered with its exit and not watched. -/
def attach (row : TerminalShared) (conn : ConnId) (attachRequestId : Option String) (pacedTerminalReplayV1 : Bool) :
    TerminalShared :=
  let paced := pacedTerminalReplayV1 && attachRequestId.isSome && row.status = .running
  let subscriber : Subscriber := ⟨attachRequestId,paced,none⟩
  let attached := (row.watched (row.subscribers.insert conn subscriber)).wanted
  match row.status with
  | .running => attached
  | .exited => attached.watched (attached.subscribers.erase conn)

def detach (row : TerminalShared) (conn : ConnId) (now : Int) : TerminalShared :=
  if (row.subscribers.lookup conn).isSome then
    let left := row.watched (row.subscribers.erase conn)
    if left.Unreferenced then left.released now else left
  else row

def claimTerminal (row : TerminalShared) (conn : ConnId) : TerminalShared :=
  (row.wantedBy (insert conn row.claims)).wanted

def withdrawClaim (row : TerminalShared) (conn : ConnId) (now : Int) : TerminalShared :=
  if conn ∈ row.claims then
    let left := row.wantedBy (row.claims.erase conn)
    if left.Unreferenced then left.released now else left
  else row

/-- What `remove_connection` does to each row that it sweeps. -/
def removeConnection (row : TerminalShared) (conn : ConnId) (now : Int) : TerminalShared :=
  let swept := (row.watched (row.subscribers.erase conn)).wantedBy (row.claims.erase conn)
  if ((row.subscribers.lookup conn).isSome ∨ conn ∈ row.claims) ∧ swept.Unreferenced then swept.graced now else swept

def input (row : TerminalShared) (now : Int) : TerminalShared :=
  { row with lastActivityAt := now, lastMeaningfulActivityAt := now }

/-- The clocks that `ingest` stamps; the noise scanner says whether the output
    carries new content. -/
def ingest (row : TerminalShared) (now : Int) (meaningful : Bool) : TerminalShared :=
  { row with
    lastActivityAt := now
    lastMeaningfulActivityAt := if meaningful then now else row.lastMeaningfulActivityAt }

/-- `finish_pty_exit` and `finish_managed_exit`: the exit is staged on the
    subscribers whose paced replay is under way, and retires the others. -/
def finishExit (row : TerminalShared) (exitCode now : Int) : TerminalShared :=
  match row.status with
  | .exited => row
  | .running =>
    { row with
      status := .exited
      exitCode := some exitCode
      lastActivityAt := now
      lastMeaningfulActivityAt := now
      subscribers := mapValues (fun _ s => { s with pacedExitPending := some exitCode })
        (retain (fun _ s => s.pacedDeferred) row.subscribers) }

/-- The verdict that completes a paced replay: the deferral ends, and a staged
    exit is delivered and retires the subscriber. -/
def completePaced (row : TerminalShared) (conn : ConnId) : TerminalShared :=
  match row.subscribers.lookup conn with
  | none => row
  | some subscriber =>
    match subscriber.pacedExitPending with
    | some _ => row.watched (row.subscribers.erase conn)
    | none => row.watched (row.subscribers.insert conn { subscriber with pacedDeferred := false })

/-- What a kill does to the row that it has removed: every subscriber is told
    the exit and dropped. -/
def killed (row : TerminalShared) : TerminalShared :=
  { row with status := .exited, exitCode := some 0, subscribers := ∅ }

end TerminalShared

/-- An operation on a row, under the row's lock. -/
inductive RowOp where
  | attach (conn : ConnId) (attachRequestId : Option String) (pacedTerminalReplayV1 : Bool)
  | detach (conn : ConnId) (now : Int)
  | claimTerminal (conn : ConnId)
  | withdrawClaim (conn : ConnId) (now : Int)
  | removeConnection (conn : ConnId) (now : Int)
  | input (now : Int)
  | ingest (now : Int) (meaningful : Bool)
  | finishExit (exitCode now : Int)
  | completePaced (conn : ConnId)
deriving DecidableEq, Repr

def TerminalShared.apply (row : TerminalShared) : RowOp → TerminalShared
  | .attach conn request paced => row.attach conn request paced
  | .detach conn now => row.detach conn now
  | .claimTerminal conn => row.claimTerminal conn
  | .withdrawClaim conn now => row.withdrawClaim conn now
  | .removeConnection conn now => row.removeConnection conn now
  | .input now => row.input now
  | .ingest now meaningful => row.ingest now meaningful
  | .finishExit exitCode now => row.finishExit exitCode now
  | .completePaced conn => row.completePaced conn

namespace TerminalShared
variable {row : TerminalShared} {conn : ConnId}

theorem running_or_exited (row : TerminalShared) : row.status = .running ∨ row.status = .exited := by
  cases row.status with
  | running => exact .inl rfl
  | exited => exact .inr rfl

theorem attach_running (running : row.status = .running) (request : Option String) (paced : Bool) :
    row.attach conn request paced =
      (row.watched (row.subscribers.insert conn ⟨request,paced && request.isSome,none⟩)).wanted := by
  simp [attach,running]

theorem attach_exited (exited : row.status = .exited) (request : Option String) (paced : Bool) :
    row.attach conn request paced =
      (row.watched ((row.subscribers.insert conn ⟨request,false,none⟩).erase conn)).wanted := by
  simp [attach,exited,watched,wanted]

@[simp] theorem apply_terminalId (op : RowOp) : (row.apply op).terminalId = row.terminalId := by
  cases op with
  | attach conn request paced =>
    rcases row.running_or_exited with running | exited
    · rw [apply,attach_running running]
      rfl
    · rw [apply,attach_exited exited]
      rfl
  | detach conn now =>
    simp only [apply,detach]
    split
    · split <;> rfl
    · rfl
  | removeConnection conn now =>
    simp only [apply,removeConnection]
    split <;> rfl
  | withdrawClaim conn now =>
    simp only [apply,withdrawClaim]
    split
    · split <;> rfl
    · rfl
  | finishExit exitCode now =>
    simp only [apply,finishExit]
    split <;> rfl
  | completePaced conn =>
    simp only [apply,completePaced]
    split
    · rfl
    · split <;> rfl
  | _ => rfl

end TerminalShared
end Freshell.Registry
