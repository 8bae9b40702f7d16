import Freshell.Library.Runs
import Freshell.Library.Tables

/-!
The server-wide guard on `terminal.create`: a request id is in flight, or settled on
the terminal that it made. The liveness of a settled terminal is probed with the
lock released, so a call is up to three critical sections, and the calls of other
connections can come between them.
-/
namespace Freshell.Creates
open Freshell.Library.Tables

abbrev Sink := Nat

/-- A connection that sent a create in flight again and is owed the reply. -/
structure Waiter where
  connId : Nat
  sink : Sink
deriving DecidableEq, Repr

inductive DedupeEntry (Frame : Type) where
  /-- `started` is the identity of the sentinel's allocation. -/
  | inFlight (origin : Sink) (waiters : List Waiter) (started : Nat)
  | settled (terminalId : String) (created : Frame) (restore : Bool)
deriving DecidableEq, Repr

inductive DedupeDecision (Frame : Type) where
  | proceed
  | duplicateInFlight
  | duplicateSettled (created : Frame)
deriving DecidableEq, Repr

structure ErrorMsg where
  code : String
  message : String
  requestId : Option String
deriving DecidableEq, Repr

/-- An omitted flag and an explicit `false` are the same request. -/
def canonicalRestore (restore : Option Bool) : Bool := restore == some true

def waiterError (requestId : String) : ErrorMsg :=
  ⟨"PTY_SPAWN_FAILED","terminal.create did not complete; retry",some requestId⟩

def noteDuplicateInFlight (sink origin : Sink) (waiters : List Waiter) (connId : Nat) : List Waiter :=
  if origin == sink || waiters.any (fun waiter => waiter.sink == sink) then waiters
  else waiters ++ [⟨connId,sink⟩]

abbrev Entries (Frame : Type) := Table String (DedupeEntry Frame)

/-- What the first critical section of `begin` leaves: a decision, or the settled
    terminal and flag to probe. -/
inductive Classified (Frame : Type) where
  | decided (decision : DedupeDecision Frame)
  | probe (terminalId : String) (restore : Bool)
deriving DecidableEq, Repr

namespace Entries
variable {Frame : Type}

def freshSentinel (sink : Sink) (started : Nat) : DedupeEntry Frame := .inFlight sink [] started

/-- Phase 1 of `begin`. -/
def classify (entries : Entries Frame) (requestId : String) (sink : Sink) (connId started : Nat) :
    Classified Frame × Entries Frame :=
  match entries.lookup requestId with
  | some (.inFlight origin waiters generation) =>
    (.decided .duplicateInFlight,
      entries.insert requestId (.inFlight origin (noteDuplicateInFlight sink origin waiters connId) generation))
  | some (.settled terminalId _ restore) => (.probe terminalId restore,entries)
  | none => (.decided .proceed,entries.insert requestId (freshSentinel sink started))

/-- Phase 3 of `begin`: the entry may have changed since `settledTid` was probed. -/
def revalidate (entries : Entries Frame) (requestId : String) (sink : Sink) (connId started : Nat)
    (restore : Option Bool) (settledTid : String) (settledRestore running : Bool) :
    DedupeDecision Frame × Entries Frame :=
  match entries.lookup requestId with
  | some (.inFlight origin waiters generation) =>
    (.duplicateInFlight,
      entries.insert requestId (.inFlight origin (noteDuplicateInFlight sink origin waiters connId) generation))
  | some (.settled terminalId created nowRestore) =>
    let unchanged := terminalId == settledTid && nowRestore == settledRestore
    let replays :=
      if unchanged then running && settledRestore == canonicalRestore restore
      else nowRestore == canonicalRestore restore
    if replays then (.duplicateSettled created,entries)
    else (.proceed,entries.insert requestId (freshSentinel sink started))
  | none => (.proceed,entries.insert requestId (freshSentinel sink started))

/-- Phase 1 of `settle`: the waiters, and the other settled entries to probe. -/
def settle (entries : Entries Frame) (requestId terminalId : String) (created : Frame) (restore : Option Bool) :
    List Waiter × List (String × String) × Entries Frame :=
  let after := entries.insert requestId (.settled terminalId created (canonicalRestore restore))
  let candidates := after.entries.filterMap fun entry =>
    match entry.2 with
    | .settled terminalId _ _ => if entry.1 = requestId then none else some (entry.1,terminalId)
    | .inFlight .. => none
  let waiters := match entries.lookup requestId with
    | some (.inFlight _ waiters _) => waiters
    | _ => []
  (waiters,candidates,after)

/-- Phase 3 of `settle`, on one dead candidate. -/
def pruneOne (entries : Entries Frame) (dead : String × String) : Entries Frame :=
  match entries.lookup dead.1 with
  | some (.settled terminalId _ _) => if terminalId = dead.2 then entries.erase dead.1 else entries
  | _ => entries

def prune (entries : Entries Frame) (dead : List (String × String)) : Entries Frame := dead.foldl pruneOne entries

def inFlightGeneration (entries : Entries Frame) (requestId : String) : Option Nat :=
  match entries.lookup requestId with
  | some (.inFlight _ _ started) => some started
  | _ => none

/-- The sentinel that was removed, with the entries left. -/
def clearInFlightGeneration (entries : Entries Frame) (requestId : String) (generation : Option Nat) :
    Option (Nat × List Waiter) × Entries Frame :=
  match entries.lookup requestId with
  | some (.inFlight _ waiters started) =>
    if generation.all (· == started) then (some (started,waiters),entries.erase requestId) else (none,entries)
  | _ => (none,entries)

def clearIfInFlight (entries : Entries Frame) (requestId : String) : Option (Nat × List Waiter) × Entries Frame :=
  entries.clearInFlightGeneration requestId none

def clearMatchingGeneration (entries : Entries Frame) (requestId : String) (generation : Nat) :
    Option (Nat × List Waiter) × Entries Frame :=
  entries.clearInFlightGeneration requestId (some generation)

end Entries

/-- A `begin` between its critical sections, with the answer of its probe. -/
structure PendingBegin where
  requestId : String
  sink : Sink
  connId : Nat
  restore : Option Bool
  settledTid : String
  settledRestore : Bool
  running : Option Bool
deriving DecidableEq, Repr

inductive Stage (Frame : Type) where
  | working
  | pruning (created : Frame) (waiters : List Waiter) (candidates dead : List (String × String))
  | answering (created : Frame) (waiters : List Waiter)
  | settled
  | failing (generation : Nat) (waiters : List Waiter)
  | finished
deriving DecidableEq, Repr

/-- A create that `begin` let proceed. An interactive one captures its sentinel's
    generation when its job is made. -/
structure Attempt (Frame : Type) where
  requestId : String
  sink : Sink
  restore : Option Bool
  captured : Option (Option Nat)
  stage : Stage Frame
  created : Option Frame
deriving DecidableEq, Repr

/-- Cleanup of a finished worker: a restore create clears whatever is in flight
    under its id, an interactive one the generation that it captured. -/
inductive Cleanup where
  | notYet
  | skip
  | unscoped
  | matching (generation : Nat)
deriving DecidableEq, Repr

def Attempt.cleanup {Frame : Type} (attempt : Attempt Frame) : Cleanup :=
  if canonicalRestore attempt.restore then .unscoped
  else match attempt.captured with
    | none => .notYet
    | some none => .skip
    | some (some generation) => .matching generation

inductive Reply (Frame : Type) where
  | created (frame : Frame)
  | error (message : ErrorMsg)
deriving DecidableEq, Repr

/-- The guard with its calls in progress. Each attempt stands under the generation
    of the sentinel that it began with. -/
structure CreateDedupe (Frame : Type) where
  entries : Entries Frame
  nextStarted : Nat
  exited : List String
  calls : Table Nat PendingBegin
  attempts : Table Nat (Attempt Frame)
  /-- The waiters that were registered on an attempt. -/
  registered : List (Nat × Sink)
  sent : List (Nat × Sink × Reply Frame)

inductive WorkerOp (Frame : Type) where
  | capture
  | settle (terminalId : String) (created : Frame)
  | probeCandidate
  | prune
  | answer
  | cleanup
  | fail

inductive DedupeOp (Frame : Type) where
  | classify (call : Nat) (requestId : String) (sink : Sink) (connId : Nat) (restore : Option Bool)
  | probe (call : Nat)
  | revalidate (call : Nat)
  | work (attempt : Nat) (op : WorkerOp Frame)
  | exit (terminalId : String)

namespace CreateDedupe
variable {Frame : Type}

def new : CreateDedupe Frame := ⟨∅,0,[],∅,∅,[],[]⟩

def isRunning (dedupe : CreateDedupe Frame) (terminalId : String) : Bool := !dedupe.exited.contains terminalId

/-- The generation that a sink begins to wait on, where it is in flight and does not know the sink. -/
def registration (entries : Entries Frame) (requestId : String) (sink : Sink) : List (Nat × Sink) :=
  match entries.lookup requestId with
  | some (.inFlight origin waiters started) =>
    if origin == sink || waiters.any (fun waiter => waiter.sink == sink) then [] else [(started,sink)]
  | _ => []

/-- The end of a `begin`. -/
def begun (dedupe : CreateDedupe Frame) (requestId : String) (sink : Sink) (restore : Option Bool)
    (decision : DedupeDecision Frame) (entries : Entries Frame) : CreateDedupe Frame :=
  match decision with
  | .proceed =>
    { dedupe with
      entries := entries
      nextStarted := dedupe.nextStarted + 1
      attempts := dedupe.attempts.insert dedupe.nextStarted ⟨requestId,sink,restore,none,.working,none⟩ }
  | .duplicateInFlight =>
    { dedupe with entries := entries, registered := dedupe.registered ++ registration dedupe.entries requestId sink }
  | .duplicateSettled _ => { dedupe with entries := entries }

def setAttempt (dedupe : CreateDedupe Frame) (id : Nat) (attempt : Attempt Frame) : CreateDedupe Frame :=
  { dedupe with attempts := dedupe.attempts.insert id attempt }

/-- The removal of a sentinel, if the cleanup finds one. -/
def cleared (dedupe : CreateDedupe Frame) (id : Nat) (attempt : Attempt Frame)
    (result : Option (Nat × List Waiter) × Entries Frame) : CreateDedupe Frame :=
  { dedupe with entries := result.2 }.setAttempt id { attempt with
    stage := match result.1 with
      | some (generation,waiters) => .failing generation waiters
      | none => .finished }

def runCleanup (dedupe : CreateDedupe Frame) (id : Nat) (attempt : Attempt Frame) : CreateDedupe Frame :=
  match attempt.cleanup with
  | .notYet => dedupe
  | .skip => dedupe.setAttempt id { attempt with stage := .finished }
  | .unscoped => dedupe.cleared id attempt (dedupe.entries.clearIfInFlight attempt.requestId)
  | .matching generation => dedupe.cleared id attempt (dedupe.entries.clearMatchingGeneration attempt.requestId generation)

def work (dedupe : CreateDedupe Frame) (id : Nat) (attempt : Attempt Frame) : WorkerOp Frame → CreateDedupe Frame
  | .capture =>
    match attempt.captured,attempt.stage with
    | none,.working =>
      dedupe.setAttempt id { attempt with captured := some (dedupe.entries.inFlightGeneration attempt.requestId) }
    | _,_ => dedupe
  | .settle terminalId created =>
    match attempt.cleanup,attempt.stage with
    | .notYet,_ => dedupe
    | _,.working =>
      let (waiters,candidates,entries) := dedupe.entries.settle attempt.requestId terminalId created attempt.restore
      { dedupe with entries := entries }.setAttempt id { attempt with
        stage := .pruning created waiters candidates [], created := some created }
    | _,_ => dedupe
  | .probeCandidate =>
    match attempt.stage with
    | .pruning created waiters (candidate :: rest) dead =>
      dedupe.setAttempt id { attempt with
        stage := .pruning created waiters rest (if dedupe.isRunning candidate.2 then dead else dead ++ [candidate]) }
    | _ => dedupe
  | .prune =>
    match attempt.stage with
    | .pruning created waiters [] dead =>
      { dedupe with entries := dedupe.entries.prune dead }.setAttempt id { attempt with stage := .answering created waiters }
    | _ => dedupe
  | .answer =>
    match attempt.stage with
    | .answering created (waiter :: rest) =>
      { dedupe with sent := dedupe.sent ++ [(id,waiter.sink,Reply.created created)] }.setAttempt id { attempt with
        stage := .answering created rest }
    | .answering _ [] => dedupe.setAttempt id { attempt with stage := .settled }
    | _ => dedupe
  | .cleanup =>
    match attempt.stage with
    | .working => dedupe.runCleanup id attempt
    | .settled => dedupe.runCleanup id attempt
    | _ => dedupe
  | .fail =>
    match attempt.stage with
    | .failing generation (waiter :: rest) =>
      { dedupe with
        sent := dedupe.sent ++ [(generation,waiter.sink,Reply.error (waiterError attempt.requestId))] }.setAttempt id
          { attempt with stage := .failing generation rest }
    | .failing _ [] => dedupe.setAttempt id { attempt with stage := .finished }
    | _ => dedupe

def next (dedupe : CreateDedupe Frame) (op : DedupeOp Frame) : CreateDedupe Frame :=
  match op with
  | .classify call requestId sink connId restore =>
    match dedupe.calls.lookup call with
    | some _ => dedupe
    | none =>
      match dedupe.entries.classify requestId sink connId dedupe.nextStarted with
      | (.decided decision,entries) => dedupe.begun requestId sink restore decision entries
      | (.probe terminalId settledRestore,_) =>
        { dedupe with
          calls := dedupe.calls.insert call ⟨requestId,sink,connId,restore,terminalId,settledRestore,none⟩ }
  | .probe call =>
    match dedupe.calls.lookup call with
    | none => dedupe
    | some pending =>
      { dedupe with
        calls := dedupe.calls.insert call { pending with
          running := some (pending.running.getD (dedupe.isRunning pending.settledTid)) } }
  | .revalidate call =>
    match dedupe.calls.lookup call with
    | none => dedupe
    | some pending =>
      match pending.running with
      | none => dedupe
      | some running =>
        let (decision,entries) := dedupe.entries.revalidate pending.requestId pending.sink pending.connId
          dedupe.nextStarted pending.restore pending.settledTid pending.settledRestore running
        { dedupe with calls := dedupe.calls.erase call }.begun pending.requestId pending.sink pending.restore decision
          entries
  | .work id op =>
    match dedupe.attempts.lookup id with
    | none => dedupe
    | some attempt => dedupe.work id attempt op
  | .exit terminalId => { dedupe with exited := terminalId :: dedupe.exited }

end CreateDedupe
end Freshell.Creates
