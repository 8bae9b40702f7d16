import Freshell.Library.Tables

/-!
The journal of the inputs of a hosted terminal: what is known of each request, in memory
and in a file that each change replaces as a whole. A replacement that fails may have
happened or not, and the host may go down with it.
-/
namespace Freshell.SessionHost
open Freshell.Library.Tables

inductive CommandState where
  | queued
  | dispatching
  | providerAcked
  | completed
  | ambiguous
  | cancelled
deriving DecidableEq, Repr

structure CommandRecord where
  payloadDigest : String
  state : CommandState
deriving DecidableEq, Repr

abbrev JournalFile := Table String CommandRecord

inductive BeginDisposition where
  | dispatch
  | completed
  | ambiguous
deriving DecidableEq, Repr

inductive RuntimeErrorCode where
  | requestIdConflict
  | commandAmbiguous
  | hostUnreachable
  | registryFailure
  | invalidRequest
deriving DecidableEq, Repr

structure RuntimeError where
  code : RuntimeErrorCode
  message : String
deriving DecidableEq, Repr

inductive Persist where
  | done
  | failed (replaced : Bool) (error : String)
  | crashed (replaced : Bool)
deriving DecidableEq, Repr

inductive HandOver where
  | done
  | failed (error : String)
  | crashed
deriving DecidableEq, Repr

/-- What a caller hears; nothing, if the host goes down first. -/
inductive Reply where
  | state (state : CommandState)
  | error (error : RuntimeError)
  | lost
deriving DecidableEq, Repr

/-- A terminal with its journal, which is in memory only while the host is up, and the
    history of the inputs that were handed to it. -/
structure HostedTerminal where
  disk : Option JournalFile := none
  commands : Option JournalFile := none
  handed : List (String × String) := []
  taken : List String := []

namespace JournalFile

/-- An input that was under way when the host went down may have been written. -/
def interrupted (record : CommandRecord) : CommandRecord :=
  if record.state = .dispatching ∨ record.state = .providerAcked then { record with state := .ambiguous } else record

def recover (file : JournalFile) : JournalFile := mapValues (fun _ record => interrupted record) file

def disposition (state : CommandState) : BeginDisposition :=
  match state with
  | .completed => .completed
  | .cancelled => .completed
  | .ambiguous => .ambiguous
  | .dispatching => .ambiguous
  | .providerAcked => .ambiguous
  | .queued => .dispatch

def setState (file : JournalFile) (requestId : String) (state : CommandState) : JournalFile :=
  match file.lookup requestId with
  | none => file
  | some record => file.insert requestId { record with state := state }

end JournalFile

def Persist.disk {File : Type} (outcome : Persist) (old : Option File) (file : File) : Option File :=
  match outcome with
  | .done => some file
  | .failed replaced _ => if replaced then some file else old
  | .crashed replaced => if replaced then some file else old

theorem Persist.disk_cases {File : Type} (outcome : Persist) (old : Option File) (file : File) :
    outcome.disk old file = some file ∨ outcome.disk old file = old := by
  cases outcome with
  | done => exact .inl rfl
  | failed replaced error => cases replaced <;> simp [Persist.disk]
  | crashed replaced => cases replaced <;> simp [Persist.disk]

namespace HostedTerminal

def crash (host : HostedTerminal) : HostedTerminal := { host with commands := none }

/-- A change of the journal, with how its replacement goes. -/
def persist (host : HostedTerminal) (file : JournalFile) (outcome : Persist) : HostedTerminal :=
  { host with
    disk := outcome.disk host.disk file
    commands := match outcome with
      | .crashed _ => none
      | _ => some file }

/-- What comes of a call after a replacement: it goes on, or ends with an error or the host. -/
def afterPersist (host : HostedTerminal) (file : JournalFile) (outcome : Persist)
    (next : HostedTerminal → HostedTerminal × Reply) : HostedTerminal × Reply :=
  match outcome with
  | .done => next (host.persist file outcome)
  | .failed _ error => (host.persist file outcome,.error ⟨.registryFailure,error⟩)
  | .crashed _ => (host.persist file outcome,.lost)

def openJournal (host : HostedTerminal) (outcome : Persist) : HostedTerminal :=
  let file := host.disk.getD ∅
  if file.recover = file then { host with commands := some file }
  else
    match outcome with
    | .done => host.persist file.recover outcome
    | .failed .. => { host with disk := outcome.disk host.disk file.recover }
    | .crashed _ => host.persist file.recover outcome

structure Faults where
  begun : Persist := .done
  dispatching : Persist := .done
  handOver : HandOver := .done
  completed : Persist := .done
deriving DecidableEq, Repr

/-- The bytes reach the terminal once the journal says so. -/
def handOver (host : HostedTerminal) (file : JournalFile) (requestId data : String) (faults : Faults) :
    HostedTerminal × Reply :=
  let handed := { host with handed := host.handed ++ [(requestId,data)] }
  match faults.handOver with
  | .failed error => (handed,.error ⟨.hostUnreachable,error⟩)
  | .crashed => (handed.crash,.lost)
  | .done =>
    HostedTerminal.afterPersist { handed with taken := host.taken ++ [requestId] } (file.setState requestId .completed)
      faults.completed fun host => (host,.state .completed)

def dispatch (host : HostedTerminal) (file : JournalFile) (requestId data : String) (faults : Faults) :
    HostedTerminal × Reply :=
  let dispatching := file.setState requestId .dispatching
  host.afterPersist dispatching faults.dispatching fun host => host.handOver dispatching requestId data faults

def conflict : RuntimeError := ⟨.requestIdConflict,"input request id reused with different payload"⟩

def ambiguous : RuntimeError :=
  ⟨.commandAmbiguous,"input may already have reached the PTY; refusing automatic redispatch"⟩

section
variable (digest : String → String)

def writeInput (host : HostedTerminal) (requestId data : String) (faults : Faults) : HostedTerminal × Reply :=
  match host.commands with
  | none => (host,.lost)
  | some file =>
    match file.lookup requestId with
    | some record =>
      if record.payloadDigest ≠ digest data then (host,.error conflict)
      else
        match JournalFile.disposition record.state with
        | .completed => (host,.state .completed)
        | .ambiguous => (host,.error ambiguous)
        | .dispatch => host.dispatch file requestId data faults
    | none =>
      let begun := file.insert requestId ⟨digest data,.queued⟩
      host.afterPersist begun faults.begun fun host => host.dispatch begun requestId data faults

inductive HostOp where
  | write (requestId data : String) (faults : Faults)
  | crash
  | openJournal (outcome : Persist)
deriving DecidableEq, Repr

def next (host : HostedTerminal) (op : HostOp) : HostedTerminal :=
  match op with
  | .write requestId data faults => (host.writeInput digest requestId data faults).1
  | .crash => host.crash
  | .openJournal outcome => if host.commands.isNone then host.openJournal outcome else host

end
end HostedTerminal
end Freshell.SessionHost
