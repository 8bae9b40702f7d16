import Freshell.Activity.Ledger
import Mathlib.Data.List.Sort

/-!
The activity of OpenCode terminals, read off the events and the status snapshots of a
pane's own server. Ownership says whose turn runs on the pane and whether its session is
confirmed; a bell rings at the end of a turn, unless a human aborted it or a permission
that it asks for rang already.
-/
namespace Freshell.Activity
open Freshell.Library.Tables

inductive OpencodePhase where
  | busy
deriving DecidableEq, Repr

structure OpencodeActivityRecord where
  terminalId : String
  phase : OpencodePhase
  updatedAt : Int
  sessionId : Option String
deriving DecidableEq, Repr

abbrev OpencodeEffect := TrackerEffect OpencodeActivityRecord

namespace Opencode

def opencodeBusyDeadmanMs : Int := 120000

inductive OpencodeStatus where
  | busy
  | retry
  | idle
deriving DecidableEq, Repr

inductive Ownership where
  /-- No turn runs; the confirmed session, if there is one. -/
  | quiet (knownSessionId : Option String)
  | candidate (sessionId : String) (previousKnown : Option String) (cycle stream : Nat) (turnAborted : Bool)
  | knownBusy (sessionId : String) (cycle stream : Nat) (turnAborted : Bool)
  /-- The turn of a candidate ended; its completion waits for the proof of identity. -/
  | awaitingAssociation (sessionId : String) (previousKnown : Option String) (completedAt : Int) (aborted : Bool)
  | ambiguous (knownSessionId : Option String) (blocked : List String)
deriving DecidableEq, Repr

structure TerminalOpencode where
  terminalId : String
  ownership : Ownership
  sessionRoots : Table String String := ∅
  pendingPermissions : List String := []
  record : Option OpencodeActivityRecord := none
  lastObservedAt : Int

/-- What a call leaves behind and asks of the hub. -/
structure Reduction where
  state : TerminalOpencode
  ledger : TurnCompletionLedger
  effects : List OpencodeEffect := []

/-- The hub hears of the record when its session changes. -/
def setBusyRecord (state : TerminalOpencode) (sessionId : Option String) (now : Int) :
    TerminalOpencode × List OpencodeEffect :=
  let next : OpencodeActivityRecord := ⟨state.terminalId,.busy,now,sessionId⟩
  let changed := (state.record.map fun previous => previous.sessionId != next.sessionId).getD true
  ({ state with record := some next },if changed then [.changed [next] []] else [])

def clearRecord (state : TerminalOpencode) (force : Bool) : TerminalOpencode × List OpencodeEffect :=
  ({ state with record := none },
    if state.record.isNone && !force then [] else [.changed [] [state.terminalId]])

/-- `fuel` is one more than the roots: each step but the last reads another of them. -/
def walkRoots (roots : Table String String) (sessionId : String) : Nat → List String → String → String
  | 0, _, _ => sessionId
  | fuel + 1, seen, current =>
    if current ∈ seen then sessionId
    else
      match roots.lookup current with
      | some next => if next = current then current else walkRoots roots sessionId fuel (current :: seen) next
      | none => current

/-- An unknown session is its own root, and so is one whose parents go round. -/
def resolveRoot (state : TerminalOpencode) (sessionId : String) : String :=
  walkRoots state.sessionRoots sessionId (state.sessionRoots.entries.length + 1) [] sessionId

def uniqueSorted (values : List String) : List String := (values.insertionSort (· ≤ ·)).destutter (· ≠ ·)

/-- The busy roots of a snapshot, a busy child before an idle root. -/
def collapseBusyRoots (state : TerminalOpencode) (statuses : List (String × OpencodeStatus)) : List String :=
  let collapsed : Table String OpencodeStatus := statuses.foldl (fun collapsed entry =>
    let root := resolveRoot state entry.1
    match collapsed.lookup root with
    | some existing =>
      if existing ≠ .idle ∧ entry.2 = .idle then collapsed else collapsed.insert root entry.2
    | none => collapsed.insert root entry.2) ∅
  ((collapsed.entries.filter fun entry => entry.2 != .idle).map fun entry => entry.1).insertionSort (· ≤ ·)

namespace TerminalOpencode

def busyAs (state : TerminalOpencode) (ledger : TurnCompletionLedger) (ownership : Ownership)
    (sessionId : Option String) (now : Int) : Reduction :=
  let (next,effects) := setBusyRecord { state with ownership := ownership } sessionId now
  ⟨next,ledger,effects⟩

def clearedAs (state : TerminalOpencode) (ledger : TurnCompletionLedger) (ownership : Ownership)
    (force : Bool) : Reduction :=
  let (next,effects) := clearRecord { state with ownership := ownership } force
  ⟨next,ledger,effects⟩

/-- The turn of the confirmed session ends. The bell of a pause was the turn's own, so
    that a turn that ends in one has no other. -/
def endKnown (state : TerminalOpencode) (ledger : TurnCompletionLedger) (own : String) (aborted : Bool) (now : Int) :
    Reduction :=
  if state.pendingPermissions ≠ [] then
    let retired := { state with pendingPermissions := [] }
    if aborted then retired.clearedAs ledger (.quiet (some own)) true
    else ⟨{ retired with ownership := .quiet (some own) },ledger,[]⟩
  else
    let cleared := state.clearedAs ledger (.quiet (some own)) false
    if aborted then cleared
    else
      let (seq,recorded) := ledger.recordTurnCompletion state.terminalId now
      ⟨cleared.state,recorded,cleared.effects ++ [.turnComplete state.terminalId (some own) now seq]⟩

/-- The turn of a candidate ends, and a pause outlives it unless it was aborted. -/
def endCandidate (state : TerminalOpencode) (ledger : TurnCompletionLedger) (own : String)
    (previousKnown : Option String) (aborted : Bool) (now : Int) : Reduction :=
  if aborted && state.pendingPermissions != [] then
    { state with pendingPermissions := [] }.clearedAs ledger (.awaitingAssociation own previousKnown now aborted) true
  else state.clearedAs ledger (.awaitingAssociation own previousKnown now aborted) false

def reduceIdleEdge (state : TerminalOpencode) (ledger : TurnCompletionLedger) (sessionId : String)
    (cycle stream : Nat) (now : Int) : Reduction :=
  match state.ownership with
  | .knownBusy own c st aborted =>
    if own = sessionId ∧ c = cycle ∧ st = stream then state.endKnown ledger own aborted now
    else ⟨state,ledger,[]⟩
  | .candidate own previousKnown c st aborted =>
    if own = sessionId ∧ c = cycle ∧ st = stream then state.endCandidate ledger own previousKnown aborted now
    else ⟨state,ledger,[]⟩
  | .ambiguous known blocked =>
    if sessionId ∈ blocked then
      let left := blocked.filter fun other => other != sessionId
      if left = [] then { state with pendingPermissions := [] }.clearedAs ledger (.quiet known) false
      else state.busyAs ledger (.ambiguous known left) none now
    else ⟨state,ledger,[]⟩
  | .quiet _ => ⟨state,ledger,[]⟩
  | .awaitingAssociation .. => ⟨state,ledger,[]⟩

def reduceBusyEdge (state : TerminalOpencode) (ledger : TurnCompletionLedger) (sessionId : String)
    (cycle stream : Nat) (now : Int) : Reduction :=
  match state.ownership with
  -- the edges come from the pane's own server, so that the busy root is the pane's session
  | .quiet _ => state.busyAs ledger (.knownBusy sessionId cycle stream false) (some sessionId) now
  | .candidate own previousKnown _ _ _ =>
    if own = sessionId then
      { state with pendingPermissions := [] }.busyAs ledger (.candidate own previousKnown cycle stream false) (some own) now
    else state.busyAs ledger (.ambiguous previousKnown (uniqueSorted [own,sessionId])) none now
  | .knownBusy own _ _ _ =>
    if own = sessionId then
      { state with pendingPermissions := [] }.busyAs ledger (.knownBusy own cycle stream false) (some own) now
    else state.busyAs ledger (.ambiguous (some own) (uniqueSorted [own,sessionId])) none now
  | .ambiguous known blocked =>
    let blocked := if sessionId ∈ blocked then blocked else uniqueSorted (blocked ++ [sessionId])
    state.busyAs ledger (.ambiguous known blocked) none now
  | .awaitingAssociation .. => ⟨state,ledger,[]⟩

def reduceSnapshot (state : TerminalOpencode) (ledger : TurnCompletionLedger) (busyRoots : List String)
    (cycle stream : Nat) (now : Int) : Reduction :=
  match state.ownership with
  | .ambiguous known _ =>
    match busyRoots with
    | [] => { state with pendingPermissions := [] }.clearedAs ledger (.quiet known) false
    | [root] => state.busyAs ledger (.knownBusy root cycle stream false) (some root) now
    | roots => state.busyAs ledger (.ambiguous known (uniqueSorted roots)) none now
  | .knownBusy own _ _ aborted =>
    if busyRoots = [] then state.endKnown ledger own aborted now
    else if busyRoots = [own] then
      -- a snapshot is no resume: a pause stays, and the record stays away
      if state.pendingPermissions = [] then state.busyAs ledger (.knownBusy own cycle stream false) (some own) now
      else ⟨{ state with ownership := .knownBusy own cycle stream false },ledger,[]⟩
    else state.busyAs ledger (.ambiguous (some own) (uniqueSorted (busyRoots ++ [own]))) none now
  | .candidate own previousKnown _ _ aborted =>
    if busyRoots = [] then state.endCandidate ledger own previousKnown aborted now
    else if busyRoots = [own] then
      { state with pendingPermissions := [] }.busyAs ledger (.candidate own previousKnown cycle stream false) (some own) now
    else state.busyAs ledger (.ambiguous previousKnown (uniqueSorted (busyRoots ++ [own]))) none now
  | .awaitingAssociation .. => ⟨state,ledger,[]⟩
  | .quiet known =>
    match busyRoots,known with
    | [],_ => state.clearedAs ledger (.quiet known) false
    | [root],some _ => state.busyAs ledger (.knownBusy root cycle stream false) (some root) now
    | [root],none => state.busyAs ledger (.candidate root none cycle stream false) (some root) now
    | roots,_ => state.busyAs ledger (.ambiguous known roots) none now

def bindSession (state : TerminalOpencode) (ledger : TurnCompletionLedger) (sessionId : String) (now : Int) : Reduction :=
  let state := { state with sessionRoots := state.sessionRoots.insert sessionId sessionId }
  match state.ownership with
  | .awaitingAssociation own previousKnown completedAt aborted =>
    if own = sessionId then
      let bound := { state with ownership := .quiet (some own) }
      if aborted then ⟨bound,ledger,[]⟩
      else if state.pendingPermissions ≠ [] then ⟨{ bound with pendingPermissions := [] },ledger,[]⟩
      else
        -- stamped with the end of the turn, not with the bind
        let (seq,recorded) := ledger.recordTurnCompletion state.terminalId completedAt
        ⟨bound,recorded,[.turnComplete state.terminalId (some own) completedAt seq]⟩
    else ⟨{ state with pendingPermissions := [], ownership := .quiet previousKnown },ledger,[]⟩
  | .ambiguous _ blocked => ⟨{ state with ownership := .ambiguous (some sessionId) blocked },ledger,[]⟩
  | .quiet _ => ⟨{ state with ownership := .quiet (some sessionId) },ledger,[]⟩
  | .candidate own _ cycle stream aborted =>
    if own = sessionId then state.busyAs ledger (.knownBusy own cycle stream aborted) (some own) now
    else ⟨{ state with ownership := .candidate own (some sessionId) cycle stream aborted },ledger,[]⟩
  | .knownBusy .. => ⟨state,ledger,[]⟩

def noteSessionCreated (state : TerminalOpencode) (sessionId : String) (parentId : Option String) (now : Int) :
    TerminalOpencode :=
  let state := { state with lastObservedAt := now }
  match parentId with
  | some parent =>
    let root := resolveRoot state parent
    { state with
      sessionRoots := (state.sessionRoots.insert parent root).insert sessionId root
      ownership := match state.ownership with
        | .ambiguous none blocked => .ambiguous (some root) blocked
        | ownership => ownership }
  | none => { state with sessionRoots := state.sessionRoots.insert sessionId sessionId }

def noteStatus (state : TerminalOpencode) (ledger : TurnCompletionLedger) (sessionId : String)
    (status : OpencodeStatus) (cycle stream : Nat) (now : Int) : Reduction :=
  let state := { state with lastObservedAt := now }
  let root := resolveRoot state sessionId
  match status with
  -- only the root's own idle ends its turn
  | .idle => if root ≠ sessionId then ⟨state,ledger,[]⟩ else state.reduceIdleEdge ledger root cycle stream now
  | .busy => state.reduceBusyEdge ledger root cycle stream now
  | .retry => state.reduceBusyEdge ledger root cycle stream now

def noteSessionIdle (state : TerminalOpencode) (ledger : TurnCompletionLedger) (sessionId : String)
    (cycle stream : Nat) (now : Int) : Reduction :=
  state.noteStatus ledger sessionId .idle cycle stream now

def noteSnapshot (state : TerminalOpencode) (ledger : TurnCompletionLedger)
    (statuses : List (String × OpencodeStatus)) (cycle stream : Nat) (now : Int) : Reduction :=
  let state := { state with lastObservedAt := now }
  state.reduceSnapshot ledger (collapseBusyRoots state statuses) cycle stream now

/-- The abort of the running turn is remembered in its ownership. -/
def noteError (state : TerminalOpencode) (sessionId errorName : String) (cycle stream : Nat) (now : Int) :
    TerminalOpencode :=
  let state := { state with lastObservedAt := now }
  if errorName ≠ "MessageAbortedError" then state
  else if resolveRoot state sessionId ≠ sessionId then state
  else
    match state.ownership with
    | .knownBusy own c st aborted =>
      { state with
        ownership := .knownBusy own c st (if own = sessionId ∧ c = cycle ∧ st = stream then true else aborted) }
    | .candidate own previousKnown c st aborted =>
      { state with
        ownership :=
          .candidate own previousKnown c st (if own = sessionId ∧ c = cycle ∧ st = stream then true else aborted) }
    | _ => state

def owned (state : TerminalOpencode) : Option String :=
  match state.ownership with
  | .knownBusy own .. => some own
  | .candidate own .. => some own
  | _ => none

def notePermissionAsked (state : TerminalOpencode) (ledger : TurnCompletionLedger) (sessionId permissionId : String)
    (now : Int) : Reduction :=
  let state := { state with lastObservedAt := now }
  if state.owned ≠ some (resolveRoot state sessionId) ∨ permissionId ∈ state.pendingPermissions then ⟨state,ledger,[]⟩
  else
    let paused := { state with pendingPermissions := permissionId :: state.pendingPermissions }
    let (next,effects) := clearRecord paused false
    ⟨next,ledger,effects ++ [.attentionBoundary state.terminalId now]⟩

def notePermissionReplied (state : TerminalOpencode) (ledger : TurnCompletionLedger) (permissionId : String)
    (now : Int) : Reduction :=
  let state := { state with lastObservedAt := now }
  if permissionId ∉ state.pendingPermissions then ⟨state,ledger,[]⟩
  else
    let replied := { state with pendingPermissions := state.pendingPermissions.erase permissionId }
    match replied.pendingPermissions,replied.owned with
    | [],some own =>
      let (next,effects) := setBusyRecord replied (some own) now
      ⟨next,ledger,effects⟩
    | _,_ => ⟨replied,ledger,[]⟩

/-- The permissions that are not listed any more were answered without events. -/
def notePermissionsSynced (state : TerminalOpencode) (ledger : TurnCompletionLedger) (pendingIds : List String)
    (now : Int) : Reduction :=
  let stale := state.pendingPermissions.filter fun id => id ∉ pendingIds
  stale.foldl (fun reduction id =>
    let replied := reduction.state.notePermissionReplied reduction.ledger id now
    { replied with effects := reduction.effects ++ replied.effects }) ⟨state,ledger,[]⟩

def noteVerifyFailed (state : TerminalOpencode) (ledger : TurnCompletionLedger) (now : Int) : Reduction :=
  if state.record = none ∧ state.pendingPermissions = [] then ⟨state,ledger,[]⟩
  else
    let known := match state.ownership with
      | .quiet known => known
      | .knownBusy own .. => some own
      | .candidate _ previousKnown .. => previousKnown
      | .awaitingAssociation _ previousKnown .. => previousKnown
      | .ambiguous known _ => known
    let cleared := { state with pendingPermissions := [] }.clearedAs ledger (.quiet known) true
    { cleared with effects := cleared.effects ++ [.attentionBoundary state.terminalId now] }

def expire (state : TerminalOpencode) (deadman now : Int) : TerminalOpencode × List OpencodeEffect :=
  if state.record.isSome && decide (now - state.lastObservedAt > deadman) then
    ({ state with lastObservedAt := now },[.forceRead state.terminalId now])
  else (state,[])

end TerminalOpencode

structure OpencodeActivityTracker where
  states : Table String TerminalOpencode := ∅
  ledger : TurnCompletionLedger := {}
  busyDeadmanMs : Int := opencodeBusyDeadmanMs

inductive OpencodeNote where
  | bindSession (sessionId : String) (now : Int)
  | sessionCreated (sessionId : String) (parentId : Option String) (now : Int)
  | status (sessionId : String) (status : OpencodeStatus) (cycle stream : Nat) (now : Int)
  | sessionIdle (sessionId : String) (cycle stream : Nat) (now : Int)
  | snapshot (statuses : List (String × OpencodeStatus)) (cycle stream : Nat) (now : Int)
  | error (sessionId errorName : String) (cycle stream : Nat) (now : Int)
  | permissionAsked (sessionId permissionId : String) (now : Int)
  | permissionReplied (permissionId : String) (now : Int)
  | permissionsSynced (pendingIds : List String) (now : Int)
  | verifyFailed (now : Int)
deriving DecidableEq, Repr

def TerminalOpencode.note (state : TerminalOpencode) (ledger : TurnCompletionLedger) (note : OpencodeNote) : Reduction :=
  match note with
  | .bindSession sessionId now => state.bindSession ledger sessionId now
  | .sessionCreated sessionId parentId now => ⟨state.noteSessionCreated sessionId parentId now,ledger,[]⟩
  | .status sessionId status cycle stream now => state.noteStatus ledger sessionId status cycle stream now
  | .sessionIdle sessionId cycle stream now => state.noteSessionIdle ledger sessionId cycle stream now
  | .snapshot statuses cycle stream now => state.noteSnapshot ledger statuses cycle stream now
  | .error sessionId errorName cycle stream now => ⟨state.noteError sessionId errorName cycle stream now,ledger,[]⟩
  | .permissionAsked sessionId permissionId now => state.notePermissionAsked ledger sessionId permissionId now
  | .permissionReplied permissionId now => state.notePermissionReplied ledger permissionId now
  | .permissionsSynced pendingIds now => state.notePermissionsSynced ledger pendingIds now
  | .verifyFailed now => state.noteVerifyFailed ledger now

inductive OpencodeOp where
  | trackTerminal (terminalId : String) (sessionId : Option String) (now : Int)
  | note (terminalId : String) (note : OpencodeNote)
  | exit (terminalId : String)
  | expire (now : Int)
deriving DecidableEq, Repr

namespace OpencodeActivityTracker

def trackTerminal (tracker : OpencodeActivityTracker) (terminalId : String) (sessionId : Option String) (now : Int) :
    OpencodeActivityTracker × List OpencodeEffect :=
  match tracker.states.lookup terminalId with
  | some state =>
    let (next,effects) := clearRecord
      { state with
        ownership := .quiet sessionId
        sessionRoots := ∅
        pendingPermissions := []
        lastObservedAt := now } false
    ({ tracker with states := tracker.states.insert terminalId next },effects)
  | none =>
    let state : TerminalOpencode := { terminalId := terminalId, ownership := .quiet sessionId, lastObservedAt := now }
    ({ tracker with states := tracker.states.insert terminalId state },[])

def noteOn (tracker : OpencodeActivityTracker) (terminalId : String) (note : OpencodeNote) :
    OpencodeActivityTracker × List OpencodeEffect :=
  match tracker.states.lookup terminalId with
  | none => (tracker,[])
  | some state =>
    let reduction := state.note tracker.ledger note
    ({ tracker with states := tracker.states.insert terminalId reduction.state, ledger := reduction.ledger },
      reduction.effects)

def noteExit (tracker : OpencodeActivityTracker) (terminalId : String) : OpencodeActivityTracker × List OpencodeEffect :=
  match tracker.states.lookup terminalId with
  | none => (tracker,[])
  | some state =>
    ({ tracker with states := tracker.states.erase terminalId },
      if state.record.isSome then [.changed [] [terminalId]] else [])

def expire (tracker : OpencodeActivityTracker) (now : Int) : OpencodeActivityTracker × List OpencodeEffect :=
  ({ tracker with states := mapValues (fun _ state => (state.expire tracker.busyDeadmanMs now).1) tracker.states },
    tracker.states.entries.flatMap fun entry => (entry.2.expire tracker.busyDeadmanMs now).2)

def step (tracker : OpencodeActivityTracker) (op : OpencodeOp) : OpencodeActivityTracker × List OpencodeEffect :=
  match op with
  | .trackTerminal terminalId sessionId now => tracker.trackTerminal terminalId sessionId now
  | .note terminalId note => tracker.noteOn terminalId note
  | .exit terminalId => tracker.noteExit terminalId
  | .expire now => tracker.expire now

def next (tracker : OpencodeActivityTracker) (op : OpencodeOp) : OpencodeActivityTracker := (tracker.step op).1

end OpencodeActivityTracker
end Opencode
end Freshell.Activity
