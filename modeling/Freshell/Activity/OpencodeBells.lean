import Freshell.Activity.Opencode
import Freshell.Library.Emissions
import Freshell.Library.Runs

/-!
When an OpenCode terminal rings. A turn is opened by a busy edge or a busy snapshot; while
none is open, a terminal owes at most the completion of a turn that ended unconfirmed.
-/
namespace Freshell.Activity.Opencode
open Freshell.Library.Emissions Freshell.Library.Runs Freshell.Library.Tables

def Ownership.rested : Ownership → Bool
  | .candidate _ _ _ _ aborted => aborted
  | .knownBusy _ _ _ aborted => aborted
  | _ => true

/-- The session and the end of the turn whose completion waits for its bind. -/
def Ownership.owes : Ownership → Option (String × Int)
  | .awaitingAssociation own _ completedAt aborted => if aborted then none else some (own,completedAt)
  | _ => none

def Ownership.running : Ownership → Bool
  | .quiet _ => false
  | .awaitingAssociation .. => false
  | _ => true

namespace TerminalOpencode

/-- The root is taken for a turn that begins: none runs, or the running turn is its own. -/
def opensOn (state : TerminalOpencode) (root : String) : Bool :=
  match state.ownership with
  | .quiet _ => true
  | .candidate own _ _ _ _ => own == root
  | .knownBusy own _ _ _ => own == root
  | _ => false

/-- A busy edge, or a snapshot with one busy root, that is taken for a turn that begins.
    One busy root settles an ambiguity. -/
def opens (state : TerminalOpencode) (note : OpencodeNote) : Bool :=
  match note with
  | .status sessionId status _ _ _ => status != .idle && state.opensOn (resolveRoot state sessionId)
  | .snapshot statuses _ _ _ =>
    match collapseBusyRoots state statuses with
    | [root] =>
      match state.ownership with
      | .ambiguous _ _ => true
      | _ => state.opensOn root
    | _ => false
  | _ => false

/-- An idle edge of the session on the stream, or an empty snapshot. -/
def endsOn (state : TerminalOpencode) (note : OpencodeNote) (own : String) (c st : Nat) : Bool :=
  match note with
  | .status sessionId .idle cycle stream _ =>
    sessionId == own && resolveRoot state own == own && c == cycle && st == stream
  | .sessionIdle sessionId cycle stream _ =>
    sessionId == own && resolveRoot state own == own && c == cycle && st == stream
  | .snapshot statuses _ _ _ => collapseBusyRoots state statuses == []
  | _ => false

def endsTurn (state : TerminalOpencode) (note : OpencodeNote) : Option String :=
  match state.ownership with
  | .knownBusy own c st _ => if state.endsOn note own c st then some own else none
  | _ => none

def aborted (state : TerminalOpencode) : Bool :=
  match state.ownership with
  | .knownBusy _ _ _ aborted => aborted
  | _ => false

/-- A turn of a confirmed session ends in a pause, un-aborted, beside a busy record. -/
def strands (state : TerminalOpencode) (note : OpencodeNote) : Bool :=
  (state.endsTurn note).isSome && !state.aborted && !state.pendingPermissions.isEmpty && state.record.isSome

def Clean (state : TerminalOpencode) : Prop :=
  ∀ known, state.ownership = .quiet known → state.pendingPermissions = [] ∧ state.record = none

/-- Nor does a record outlive a turn that waits for its bind, or a pause an aborted one. -/
structure Settled (state : TerminalOpencode) : Prop where
  clean : state.Clean
  awaits : ∀ own previous ended aborted, state.ownership = .awaitingAssociation own previous ended aborted →
    state.record = none ∧ (aborted = true → state.pendingPermissions = [])

end TerminalOpencode

namespace OpencodeActivityTracker

/-- An operation on the terminal alone that the test picks. -/
def picks (tracker : OpencodeActivityTracker) (test : TerminalOpencode → OpencodeNote → Bool) (terminalId : String)
    (op : OpencodeOp) : Bool :=
  match op with
  | .note other note => other == terminalId && ((tracker.states.lookup terminalId).map (test · note)).getD false
  | _ => false

def opens (tracker : OpencodeActivityTracker) (terminalId : String) (op : OpencodeOp) : Bool :=
  tracker.picks TerminalOpencode.opens terminalId op

def Closed (terminalId : String) (tracker : OpencodeActivityTracker) (op : OpencodeOp) : Prop :=
  tracker.opens terminalId op = false

def Strands (tracker : OpencodeActivityTracker) (op : OpencodeOp) : Prop :=
  ∃ id, tracker.picks TerminalOpencode.strands id op = true

/-- Every state is that of the terminal it is listed under. -/
def Named (tracker : OpencodeActivityTracker) : Prop :=
  ∀ id state, tracker.states.lookup id = some state → state.terminalId = id

def rings (tracker : OpencodeActivityTracker) (terminalId : String) (ops : List OpencodeOp) : List OpencodeEffect :=
  turnCompletesOf terminalId (emitted step tracker ops)

end OpencodeActivityTracker

/-! ### What the calls do to a terminal -/

section
variable {state : TerminalOpencode} {ledger : TurnCompletionLedger} {ownership : Ownership}

@[simp] theorem resolveRoot_observed (now : Int) (sessionId : String) :
    resolveRoot { state with lastObservedAt := now } sessionId = resolveRoot state sessionId := rfl

@[simp] theorem collapseBusyRoots_observed (now : Int) (statuses : List (String × OpencodeStatus)) :
    collapseBusyRoots { state with lastObservedAt := now } statuses = collapseBusyRoots state statuses := rfl

variable (id : String)

@[simp] theorem turnCompletesOf_changed (upsert : List OpencodeActivityRecord) (remove : List String) :
    turnCompletesOf id [.changed upsert remove] = [] := rfl

theorem turnCompletesOf_setBusy (sessionId : Option String) (now : Int) :
    turnCompletesOf id (setBusyRecord state sessionId now).2 = [] := by
  simp only [setBusyRecord]
  split
  · rfl
  · rfl

variable (force : Bool)

theorem turnCompletesOf_clear : turnCompletesOf id (clearRecord state force).2 = [] := by
  simp only [clearRecord]
  split
  · rfl
  · rfl

@[simp] theorem busyAs_completes (sessionId : Option String) (now : Int) :
    turnCompletesOf id (state.busyAs ledger ownership sessionId now).effects = [] := turnCompletesOf_setBusy _ _ _

@[simp] theorem clearedAs_completes :
    turnCompletesOf id (state.clearedAs ledger ownership force).effects = [] := turnCompletesOf_clear _ _

@[simp] theorem busyAs_ownership (sessionId : Option String) (now : Int) :
    (state.busyAs ledger ownership sessionId now).state.ownership = ownership := rfl

@[simp] theorem clearedAs_ownership : (state.clearedAs ledger ownership force).state.ownership = ownership := rfl

@[simp] theorem clearedAs_pending :
    (state.clearedAs ledger ownership force).state.pendingPermissions = state.pendingPermissions := rfl


/-- What an edge or a snapshot does: nothing, the end of a turn, an ambiguity that grows or is gone, or a turn that
    is opened. -/
inductive Reduced (state : TerminalOpencode) (ledger : TurnCompletionLedger) (opened ended : Prop) : Reduction → Prop
  | kept : Reduced state ledger opened ended ⟨state,ledger,[]⟩
  | ends {own c st aborted} (now : Int) (owned : state.ownership = .knownBusy own c st aborted) (ending : ended) :
      Reduced state ledger opened ended (state.endKnown ledger own aborted now)
  | endsCandidate {own previous c st aborted} (now : Int) (owned : state.ownership = .candidate own previous c st aborted) :
      Reduced state ledger opened ended (state.endCandidate ledger own previous aborted now)
  | clears {known} (pending : List String)
      (gone : pending = [] ∨ pending = state.pendingPermissions ∧ state.ownership = .quiet known) :
      Reduced state ledger opened ended ({ state with pendingPermissions := pending }.clearedAs ledger (.quiet known) false)
  | blocks (known : Option String) (blocked : List String) (now : Int) :
      Reduced state ledger opened ended (state.busyAs ledger (.ambiguous known blocked) none now)
  | opens {ownership : Ownership} (pending : List String) (session : Option String) (now : Int) (running : ownership.running = true)
      (opening : opened) :
      Reduced state ledger opened ended ({ state with pendingPermissions := pending }.busyAs ledger ownership session now)
  | resumes (own : String) (cycle stream : Nat) (opening : opened) :
      Reduced state ledger opened ended ⟨{ state with ownership := .knownBusy own cycle stream false },ledger,[]⟩

variable {opened ended : Prop}

theorem idle_reduced (sessionId : String) (cycle stream : Nat) (now : Int)
    (ending : ∀ aborted, state.ownership = .knownBusy sessionId cycle stream aborted → ended) :
    Reduced state ledger opened ended (state.reduceIdleEdge ledger sessionId cycle stream now) := by
  simp only [TerminalOpencode.reduceIdleEdge]
  cases owned : state.ownership with
  | knownBusy own c st aborted =>
    dsimp only
    split
    · next matching =>
      obtain ⟨rfl,rfl,rfl⟩ := matching
      exact .ends now owned (ending aborted owned)
    · exact .kept
  | candidate own previous c st aborted =>
    dsimp only
    split
    · exact .endsCandidate now owned
    · exact .kept
  | ambiguous known blocked =>
    dsimp only
    split
    · split
      · exact .clears [] (.inl rfl)
      · exact .blocks _ _ now
    · exact .kept
  | quiet known => exact .kept
  | awaitingAssociation own previous ended aborted => exact .kept

theorem busy_reduced (sessionId : String) (cycle stream : Nat) (now : Int)
    (opening : state.opensOn sessionId = true → opened) :
    Reduced state ledger opened ended (state.reduceBusyEdge ledger sessionId cycle stream now) := by
  simp only [TerminalOpencode.reduceBusyEdge,TerminalOpencode.opensOn] at opening ⊢
  cases owned : state.ownership with
  | quiet known => exact .opens state.pendingPermissions _ now rfl (opening (by simp [owned]))
  | candidate own previous c st aborted =>
    dsimp only
    split
    · next same => exact .opens [] _ now rfl (opening (by simp [owned,same]))
    · exact .blocks _ _ now
  | knownBusy own c st aborted =>
    dsimp only
    split
    · next same => exact .opens [] _ now rfl (opening (by simp [owned,same]))
    · exact .blocks _ _ now
  | ambiguous known blocked => exact .blocks _ _ now
  | awaitingAssociation own previous ended aborted => exact .kept

theorem snapshot_reduced (busyRoots : List String) (cycle stream : Nat) (now : Int) (ending : busyRoots = [] → ended)
    (opening : ∀ root, busyRoots = [root] →
      state.opensOn root = true ∨ (∃ known blocked, state.ownership = .ambiguous known blocked) → opened) :
    Reduced state ledger opened ended (state.reduceSnapshot ledger busyRoots cycle stream now) := by
  simp only [TerminalOpencode.reduceSnapshot,TerminalOpencode.opensOn] at opening ⊢
  cases owned : state.ownership with
  | ambiguous known blocked =>
    match busyRoots with
    | [] => exact .clears [] (.inl rfl)
    | [root] => exact .opens state.pendingPermissions _ now rfl (opening root rfl (.inr ⟨known,blocked,owned⟩))
    | _ :: _ :: _ => exact .blocks _ _ now
  | knownBusy own c st aborted =>
    dsimp only
    split
    · next empty => exact .ends now owned (ending empty)
    · split
      · next same =>
        have opening := opening own same (.inl (by simp [owned]))
        split
        · exact .opens state.pendingPermissions _ now rfl opening
        · exact .resumes own cycle stream opening
      · exact .blocks _ _ now
  | candidate own previous c st aborted =>
    dsimp only
    split
    · exact .endsCandidate now owned
    · split
      · next same => exact .opens [] _ now rfl (opening own same (.inl (by simp [owned])))
      · exact .blocks _ _ now
  | awaitingAssociation own previous ended aborted => exact .kept
  | quiet known =>
    match busyRoots,known with
    | [],_ => exact .clears state.pendingPermissions (.inr ⟨rfl,owned⟩)
    | [root],some _ => exact .opens state.pendingPermissions _ now rfl (opening root rfl (.inl (by simp [owned])))
    | [root],none => exact .opens state.pendingPermissions _ now rfl (opening root rfl (.inl (by simp [owned])))
    | _ :: _ :: _,_ => exact .blocks _ _ now

theorem status_reduced (sessionId : String) (status : OpencodeStatus) (cycle stream : Nat) (now : Int) :
    Reduced { state with lastObservedAt := now } ledger
      (state.opens (.status sessionId status cycle stream now) = true)
      (∃ own, state.endsTurn (.status sessionId status cycle stream now) = some own)
      (state.noteStatus ledger sessionId status cycle stream now) := by
  cases status with
  | idle =>
    simp only [TerminalOpencode.noteStatus]
    split
    · exact .kept
    · next root =>
      simp only [resolveRoot_observed,ne_eq,not_not] at root ⊢
      rw [root]
      refine idle_reduced _ cycle stream now fun aborted owned => ⟨sessionId,?_⟩
      replace owned : state.ownership = .knownBusy sessionId cycle stream aborted := owned
      simp [TerminalOpencode.endsTurn,TerminalOpencode.endsOn,owned,root]
  | busy => exact busy_reduced _ cycle stream now id
  | retry => exact busy_reduced _ cycle stream now id

theorem noteSnapshot_reduced (statuses : List (String × OpencodeStatus)) (cycle stream : Nat) (now : Int) :
    Reduced { state with lastObservedAt := now } ledger (state.opens (.snapshot statuses cycle stream now) = true)
      (collapseBusyRoots state statuses = []) (state.noteSnapshot ledger statuses cycle stream now) := by
  refine snapshot_reduced _ cycle stream now id fun root one opening => ?_
  simp only [collapseBusyRoots_observed] at one
  simp only [TerminalOpencode.opens,one]
  cases owned : state.ownership with
  | ambiguous => rfl
  | quiet => simp [TerminalOpencode.opensOn,owned]
  | awaitingAssociation => simp [TerminalOpencode.opensOn,owned] at opening
  | candidate => simpa [TerminalOpencode.opensOn,owned] using opening
  | knownBusy => simpa [TerminalOpencode.opensOn,owned] using opening

/-- What is owed stays owed, is given up, or is paid with the one completion. -/
def Pays (id : String) (before after : Option (String × Int)) (completes : List OpencodeEffect) : Prop :=
  completes = [] ∧ (after = before ∨ after = none) ∨
    ∃ own ended seq, before = some (own,ended) ∧ after = none ∧ completes = [.turnComplete id (some own) ended seq]

/-- A terminal at rest stays so, and pays what it owes at most. -/
def Rests (state : TerminalOpencode) (reduction : Reduction) : Prop :=
  reduction.state.ownership.rested = true ∧
    Pays state.terminalId state.ownership.owes reduction.state.ownership.owes
      (turnCompletesOf state.terminalId reduction.effects)

attribute [local simp] Ownership.rested Ownership.owes Ownership.running

theorem rests_bindSession (rested : state.ownership.rested = true) (sessionId : String) (now : Int) :
    Rests state (state.bindSession ledger sessionId now) := by
  simp only [Rests,Pays,TerminalOpencode.bindSession]
  cases owned : state.ownership with
  | awaitingAssociation own previous ended aborted =>
    by_cases same : own = sessionId
    · cases aborted with
      | true => simp [same]
      | false =>
        by_cases paused : state.pendingPermissions = []
        · simp [same,paused,turnCompletesOf]
        · simp [same,paused]
    · simp [same]
  | candidate own previous cycle stream aborted =>
    rw [owned] at rested
    by_cases same : own = sessionId
    · simpa [same] using rested
    · simpa [same] using rested
  | knownBusy own cycle stream aborted =>
    rw [owned] at rested
    simpa [owned] using rested
  | ambiguous known blocked => simp
  | quiet known => simp

theorem Reduced.rests {reduction : Reduction} (reduced : Reduced state ledger opened ended reduction)
    (rested : state.ownership.rested = true) (closed : ¬opened) : Rests state reduction := by
  simp only [Rests,Pays]
  cases reduced with
  | kept => exact ⟨rested,.inl ⟨rfl,.inl rfl⟩⟩
  | ends now owned _ =>
    rw [owned] at rested
    obtain rfl := rested
    by_cases paused : state.pendingPermissions = []
    · simp [paused,TerminalOpencode.endKnown]
    · simp [paused,TerminalOpencode.endKnown]
  | endsCandidate now owned =>
    rw [owned] at rested
    obtain rfl := rested
    by_cases paused : state.pendingPermissions = []
    · simp [paused,TerminalOpencode.endCandidate]
    · simp [paused,TerminalOpencode.endCandidate]
  | clears pending _ => simp
  | blocks known blocked now => simp
  | opens pending session now _ opening => exact absurd opening closed
  | resumes own cycle stream opening => exact absurd opening closed

theorem notePermissionReplied_spec (state : TerminalOpencode) (ledger : TurnCompletionLedger) (permissionId : String)
    (now : Int) :
    let reduction := state.notePermissionReplied ledger permissionId now
    reduction.state.ownership = state.ownership ∧ reduction.state.terminalId = state.terminalId ∧
      reduction.ledger = ledger ∧ ∀ id, turnCompletesOf id reduction.effects = [] := by
  simp only [TerminalOpencode.notePermissionReplied]
  by_cases asked : permissionId ∈ state.pendingPermissions
  · simp only [asked,not_true,if_false]
    split
    · exact ⟨rfl,rfl,rfl,fun id => turnCompletesOf_setBusy id _ _⟩
    · exact ⟨rfl,rfl,rfl,fun _ => rfl⟩
  · simp [asked]

theorem notePermissionsSynced_spec (state : TerminalOpencode) (ledger : TurnCompletionLedger) (pendingIds : List String)
    (now : Int) :
    let reduction := state.notePermissionsSynced ledger pendingIds now
    reduction.state.ownership = state.ownership ∧ reduction.state.terminalId = state.terminalId ∧
      reduction.ledger = ledger ∧ ∀ id, turnCompletesOf id reduction.effects = [] := by
  simp only [TerminalOpencode.notePermissionsSynced]
  refine List.foldlRecOn _ _ (motive := fun reduction : Reduction =>
    reduction.state.ownership = state.ownership ∧ reduction.state.terminalId = state.terminalId ∧
      reduction.ledger = ledger ∧ ∀ id, turnCompletesOf id reduction.effects = []) ⟨rfl,rfl,rfl,fun _ => rfl⟩ ?_
  rintro reduction ⟨ownership,own,recorded,silent⟩ id _
  obtain ⟨ownership',own',recorded',silent'⟩ := notePermissionReplied_spec reduction.state reduction.ledger id now
  exact ⟨ownership'.trans ownership,own'.trans own,recorded'.trans recorded,fun other => by simp [silent,silent']⟩

theorem notePermissionAsked_spec (state : TerminalOpencode) (ledger : TurnCompletionLedger)
    (sessionId permissionId : String) (now : Int) :
    let reduction := state.notePermissionAsked ledger sessionId permissionId now
    reduction.state.ownership = state.ownership ∧ reduction.state.terminalId = state.terminalId ∧
      reduction.ledger = ledger ∧ ∀ id, turnCompletesOf id reduction.effects = [] := by
  simp only [TerminalOpencode.notePermissionAsked]
  split
  · exact ⟨rfl,rfl,rfl,fun _ => rfl⟩
  · exact ⟨rfl,rfl,rfl,fun id => by rw [turnCompletesOf_append,turnCompletesOf_clear]; rfl⟩

theorem noteSessionCreated_rested (rested : state.ownership.rested = true) (sessionId : String)
    (parentId : Option String) (now : Int) :
    let after := state.noteSessionCreated sessionId parentId now
    after.ownership.rested = true ∧ after.ownership.owes = state.ownership.owes := by
  cases parentId with
  | none => exact ⟨rested,rfl⟩
  | some parent =>
    simp only [TerminalOpencode.noteSessionCreated]
    split
    · next owned => simp [owned]
    · exact ⟨rested,rfl⟩

theorem noteError_rested (rested : state.ownership.rested = true) (sessionId errorName : String) (cycle stream : Nat)
    (now : Int) :
    let after := state.noteError sessionId errorName cycle stream now
    after.ownership.rested = true ∧ after.ownership.owes = state.ownership.owes := by
  simp only [TerminalOpencode.noteError]
  split
  · exact ⟨rested,rfl⟩
  · split
    · exact ⟨rested,rfl⟩
    · cases owned : state.ownership with
      | knownBusy own c st aborted =>
        obtain rfl : aborted = true := by rwa [owned] at rested
        simp
      | candidate own previous c st aborted =>
        obtain rfl : aborted = true := by rwa [owned] at rested
        simp
      | quiet known => simp
      | ambiguous known blocked => simp
      | awaitingAssociation own previous ended aborted => simp

theorem noteVerifyFailed_rests (rested : state.ownership.rested = true) (now : Int) :
    Rests state (state.noteVerifyFailed ledger now) := by
  simp only [Rests,Pays,TerminalOpencode.noteVerifyFailed]
  by_cases idle : state.record = none ∧ state.pendingPermissions = []
  · simp only [idle,and_self,if_true,turnCompletesOf_nil,true_or,and_true]
    exact rested
  · simp only [idle,if_false,clearedAs_ownership,turnCompletesOf_append,clearedAs_completes]
    simp [turnCompletesOf]

theorem rests_note (rested : state.ownership.rested = true) (note : OpencodeNote)
    (closed : state.opens note = false) : Rests state (state.note ledger note) := by
  cases note with
  | bindSession sessionId now => exact rests_bindSession rested sessionId now
  | sessionCreated sessionId parentId now =>
    obtain ⟨still,owes⟩ := noteSessionCreated_rested rested sessionId parentId now
    exact ⟨still,.inl ⟨rfl,.inl owes⟩⟩
  | status sessionId status cycle stream now =>
    exact (status_reduced sessionId status cycle stream now).rests rested (by simp [closed])
  | sessionIdle sessionId cycle stream now =>
    exact (status_reduced sessionId .idle cycle stream now).rests rested nofun
  | snapshot statuses cycle stream now =>
    exact (noteSnapshot_reduced statuses cycle stream now).rests rested (by simp [closed])
  | error sessionId errorName cycle stream now =>
    obtain ⟨still,owes⟩ := noteError_rested rested sessionId errorName cycle stream now
    exact ⟨still,.inl ⟨rfl,.inl owes⟩⟩
  | permissionAsked sessionId permissionId now =>
    obtain ⟨same,_,_,silent⟩ := notePermissionAsked_spec state ledger sessionId permissionId now
    exact ⟨(congrArg Ownership.rested same).trans rested,.inl ⟨silent _,.inl (congrArg Ownership.owes same)⟩⟩
  | permissionReplied permissionId now =>
    obtain ⟨same,_,_,silent⟩ := notePermissionReplied_spec state ledger permissionId now
    exact ⟨(congrArg Ownership.rested same).trans rested,.inl ⟨silent _,.inl (congrArg Ownership.owes same)⟩⟩
  | permissionsSynced pendingIds now =>
    obtain ⟨same,_,_,silent⟩ := notePermissionsSynced_spec state ledger pendingIds now
    exact ⟨(congrArg Ownership.rested same).trans rested,.inl ⟨silent _,.inl (congrArg Ownership.owes same)⟩⟩
  | verifyFailed now => exact noteVerifyFailed_rests rested now

/-! ### Each call keeps to its terminal -/

/-- The state stays that of its terminal, and rings for no other. -/
def Own (state : TerminalOpencode) (reduction : Reduction) : Prop :=
  reduction.state.terminalId = state.terminalId ∧
    ∀ id, id ≠ state.terminalId → turnCompletesOf id reduction.effects = []

theorem Own.silent {reduction : Reduction} (same : reduction.state.terminalId = state.terminalId)
    (silent : ∀ id, turnCompletesOf id reduction.effects = []) : Own state reduction := ⟨same,fun id _ => silent id⟩

theorem own_busyAs (ownership : Ownership) (sessionId : Option String) (now : Int) :
    Own state (state.busyAs ledger ownership sessionId now) := .silent rfl fun _ => busyAs_completes _ _ _

theorem own_clearedAs (ownership : Ownership) (force : Bool) : Own state (state.clearedAs ledger ownership force) :=
  .silent rfl fun _ => clearedAs_completes _ _

variable (own : String)

theorem own_endKnown (aborted : Bool) (now : Int) : Own state (state.endKnown ledger own aborted now) := by
  simp only [TerminalOpencode.endKnown]
  split
  · split
    · exact @own_clearedAs { state with pendingPermissions := [] } ledger _ _
    · exact ⟨rfl,fun _ _ => rfl⟩
  · split
    · exact own_clearedAs _ _
    · refine ⟨rfl,fun id other => ?_⟩
      simp only [turnCompletesOf_append,clearedAs_completes]
      simp [turnCompletesOf,Ne.symm other]

theorem own_endCandidate (previousKnown : Option String) (aborted : Bool) (now : Int) :
    Own state (state.endCandidate ledger own previousKnown aborted now) := by
  simp only [TerminalOpencode.endCandidate]
  split
  · exact @own_clearedAs { state with pendingPermissions := [] } ledger _ _
  · exact own_clearedAs _ _

theorem Reduced.stays {reduction : Reduction} (reduced : Reduced state ledger opened ended reduction) :
    Own state reduction := by
  cases reduced with
  | kept => exact ⟨rfl,fun _ _ => rfl⟩
  | ends now _ _ => exact own_endKnown _ _ now
  | endsCandidate now _ => exact own_endCandidate _ _ _ now
  | clears pending _ => exact .silent rfl fun _ => clearedAs_completes _ _
  | blocks known blocked now => exact own_busyAs _ _ _
  | opens pending session now _ _ => exact .silent rfl fun _ => busyAs_completes _ _ _
  | resumes own cycle stream _ => exact ⟨rfl,fun _ _ => rfl⟩

variable (sessionId : String)

theorem own_bindSession (now : Int) : Own state (state.bindSession ledger sessionId now) := by
  simp only [TerminalOpencode.bindSession]
  cases state.ownership with
  | awaitingAssociation own previous ended aborted =>
    dsimp only
    split
    · split
      · exact ⟨rfl,fun _ _ => rfl⟩
      · split
        · exact ⟨rfl,fun _ _ => rfl⟩
        · exact ⟨rfl,fun id other => by simp [turnCompletesOf,Ne.symm other]⟩
    · exact ⟨rfl,fun _ _ => rfl⟩
  | candidate own previous c st aborted =>
    dsimp only
    split
    · exact .silent rfl fun _ => busyAs_completes _ _ _
    · exact ⟨rfl,fun _ _ => rfl⟩
  | _ => exact ⟨rfl,fun _ _ => rfl⟩

theorem own_note (note : OpencodeNote) : Own state (state.note ledger note) := by
  cases note with
  | bindSession sessionId now => exact own_bindSession sessionId now
  | sessionCreated sessionId parentId now => cases parentId <;> exact ⟨rfl,fun _ _ => rfl⟩
  | status sessionId status cycle stream now => exact (status_reduced sessionId status cycle stream now).stays
  | sessionIdle sessionId cycle stream now => exact (status_reduced sessionId .idle cycle stream now).stays
  | snapshot statuses cycle stream now => exact (noteSnapshot_reduced statuses cycle stream now).stays
  | error sessionId errorName cycle stream now =>
    refine ⟨?_,fun _ _ => rfl⟩
    simp only [TerminalOpencode.note,TerminalOpencode.noteError]
    repeat' split
    all_goals rfl
  | permissionAsked sessionId permissionId now =>
    obtain ⟨_,own,_,silent⟩ := notePermissionAsked_spec state ledger sessionId permissionId now
    exact .silent own silent
  | permissionReplied permissionId now =>
    obtain ⟨_,own,_,silent⟩ := notePermissionReplied_spec state ledger permissionId now
    exact .silent own silent
  | permissionsSynced pendingIds now =>
    obtain ⟨_,own,_,silent⟩ := notePermissionsSynced_spec state ledger pendingIds now
    exact .silent own silent
  | verifyFailed now =>
    simp only [TerminalOpencode.note,TerminalOpencode.noteVerifyFailed]
    split
    · exact ⟨rfl,fun _ _ => rfl⟩
    · exact .silent rfl fun id => by rw [turnCompletesOf_append,clearedAs_completes]; rfl

/-! ### Pauses and records -/

theorem settled_of_running (running : state.ownership.running = true) : state.Settled where
  clean known quiet := by simp [quiet] at running
  awaits own previous ended aborted waits := by simp [waits] at running

theorem settled_quiet {known : Option String} (quiet : state.ownership = .quiet known)
    (pending : state.pendingPermissions = []) (record : state.record = none) : state.Settled where
  clean _ _ := ⟨pending,record⟩
  awaits own previous ended aborted waits := by rw [quiet] at waits; cases waits

theorem settled_awaits {own : String} {previous : Option String} {ended : Int} {aborted : Bool}
    (waits : state.ownership = .awaitingAssociation own previous ended aborted) (record : state.record = none)
    (pending : aborted = true → state.pendingPermissions = []) : state.Settled where
  clean _ quiet := by rw [waits] at quiet; cases quiet
  awaits _ _ _ _ same := by
    rw [waits] at same
    cases same
    exact ⟨record,pending⟩

theorem TerminalOpencode.Settled.congr {after : TerminalOpencode} (settled : state.Settled)
    (same : after.ownership = state.ownership) (pending : after.pendingPermissions = state.pendingPermissions)
    (record : after.record = state.record) : after.Settled where
  clean known quiet := by
    rw [pending,record]
    exact settled.clean known (same ▸ quiet)
  awaits own previous ended aborted waits := by
    rw [pending,record]
    exact settled.awaits own previous ended aborted (same ▸ waits)

theorem settled_endKnown (aborted : Bool) (now : Int)
    (kept : aborted = true ∨ state.pendingPermissions = [] ∨ state.record = none) :
    (state.endKnown ledger own aborted now).state.Settled := by
  simp only [TerminalOpencode.endKnown]
  by_cases paused : state.pendingPermissions = []
  · rw [if_neg (by simp [paused])]
    split
    · exact settled_quiet rfl paused rfl
    · exact settled_quiet rfl paused rfl
  · rw [if_pos paused]
    by_cases silenced : aborted = true
    · rw [if_pos silenced]
      exact settled_quiet rfl rfl rfl
    · rw [if_neg silenced]
      exact settled_quiet rfl rfl ((kept.resolve_left silenced).resolve_left paused)

theorem settled_endCandidate (previous : Option String) (aborted : Bool) (now : Int) :
    (state.endCandidate ledger own previous aborted now).state.Settled := by
  simp only [TerminalOpencode.endCandidate]
  split
  · exact settled_awaits rfl rfl fun _ => rfl
  · next unpaused =>
    refine settled_awaits rfl rfl fun silenced => ?_
    simpa [silenced] using unpaused

theorem settled_bindSession (settled : state.Settled) (sessionId : String) (now : Int) :
    (state.bindSession ledger sessionId now).state.Settled := by
  simp only [TerminalOpencode.bindSession]
  cases owned : state.ownership with
  | awaitingAssociation own previous ended aborted =>
    obtain ⟨record,pending⟩ := settled.awaits own previous ended aborted owned
    dsimp only
    split
    · split
      · next silenced => exact settled_quiet rfl (pending silenced) record
      · split
        · exact settled_quiet rfl rfl record
        · next unpaused => exact settled_quiet rfl (not_ne_iff.mp unpaused) record
    · exact settled_quiet rfl rfl record
  | quiet known => exact settled_quiet rfl (settled.clean known owned).1 (settled.clean known owned).2
  | candidate own previous c st aborted =>
    dsimp only
    split
    · exact settled_of_running rfl
    · exact settled_of_running rfl
  | knownBusy own c st aborted => exact settled_of_running rfl
  | ambiguous known blocked => exact settled_of_running rfl

theorem Reduced.settled {reduction : Reduction} (reduced : Reduced state ledger opened ended reduction)
    (settled : state.Settled) (kept : ended → ∀ own c st aborted, state.ownership = .knownBusy own c st aborted →
      aborted = true ∨ state.pendingPermissions = [] ∨ state.record = none) : reduction.state.Settled := by
  cases reduced with
  | kept => exact settled
  | ends now owned ending => exact settled_endKnown _ _ now (kept ending _ _ _ _ owned)
  | endsCandidate now _ => exact settled_endCandidate _ _ _ now
  | clears pending gone =>
    refine settled_quiet rfl ?_ rfl
    rcases gone with rfl | ⟨rfl,quiet⟩
    · rfl
    · exact (settled.clean _ quiet).1
  | blocks known blocked now => exact settled_of_running rfl
  | opens pending session now running _ => exact settled_of_running running
  | resumes own cycle stream _ => exact settled_of_running rfl

theorem settled_notePermissionAsked (settled : state.Settled) (sessionId permissionId : String) (now : Int) :
    (state.notePermissionAsked ledger sessionId permissionId now).state.Settled := by
  simp only [TerminalOpencode.notePermissionAsked]
  split
  · exact settled.congr rfl rfl rfl
  · next asked =>
    obtain ⟨asker,_⟩ := not_or.mp asked
    apply settled_of_running
    show state.ownership.running = true
    cases owned : state.ownership with
    | quiet known => simp [TerminalOpencode.owned,owned] at asker
    | awaitingAssociation own previous ended aborted => simp [TerminalOpencode.owned,owned] at asker
    | _ => rfl

theorem settled_notePermissionReplied (settled : state.Settled) (permissionId : String) (now : Int) :
    (state.notePermissionReplied ledger permissionId now).state.Settled := by
  simp only [TerminalOpencode.notePermissionReplied]
  by_cases asked : permissionId ∈ state.pendingPermissions
  · simp only [asked,not_true,if_false]
    cases owned : state.ownership with
    | quiet known =>
      rw [(settled.clean known owned).1] at asked
      simp at asked
    | awaitingAssociation own previous ended aborted =>
      obtain ⟨record,pending⟩ := settled.awaits own previous ended aborted owned
      simp only [TerminalOpencode.owned]
      split
      · next none_ => cases none_
      · refine settled_awaits rfl record fun silenced => ?_
        rw [pending silenced] at asked
        simp at asked
    | _ =>
      apply settled_of_running
      split
      · rfl
      · rfl
  · simp only [asked,not_false_iff,if_true]
    exact settled.congr rfl rfl rfl

variable {note : OpencodeNote}

theorem kept_of_strands (kept : state.strands note = false) {own ends : String} {c st : Nat} {aborted : Bool}
    (owned : state.ownership = .knownBusy own c st aborted) (ending : state.endsTurn note = some ends) :
    aborted = true ∨ state.pendingPermissions = [] ∨ state.record = none := by
  by_contra lost
  obtain ⟨rings,paused,busy⟩ : aborted = false ∧ state.pendingPermissions ≠ [] ∧ state.record ≠ none := by
    simpa [not_or] using lost
  simp [TerminalOpencode.strands,ending,TerminalOpencode.aborted,owned,rings,paused,Option.isSome_iff_ne_none.mpr busy] at kept

/-- A call leaves no pause and no record behind the turns, unless a turn ends in a
    pause beside a record. -/
theorem settled_note (settled : state.Settled) (note : OpencodeNote) (kept : state.strands note = false) :
    (state.note ledger note).state.Settled := by
  cases note with
  | bindSession sessionId now => exact settled_bindSession settled sessionId now
  | sessionCreated sessionId parentId now =>
    cases parentId with
    | none => exact settled.congr rfl rfl rfl
    | some parent =>
      simp only [TerminalOpencode.note,TerminalOpencode.noteSessionCreated]
      split
      · exact settled_of_running rfl
      · exact settled.congr rfl rfl rfl
  | status sessionId status cycle stream now =>
    refine (status_reduced sessionId status cycle stream now).settled (settled.congr rfl rfl rfl) ?_
    rintro ⟨_,ends⟩ own c st aborted owned
    exact kept_of_strands kept owned ends
  | sessionIdle sessionId cycle stream now =>
    refine (status_reduced sessionId .idle cycle stream now).settled (settled.congr rfl rfl rfl) ?_
    rintro ⟨_,ends⟩ own c st aborted owned
    exact kept_of_strands kept owned ends
  | snapshot statuses cycle stream now =>
    refine (noteSnapshot_reduced statuses cycle stream now).settled (settled.congr rfl rfl rfl) ?_
    intro empty own c st aborted owned
    replace owned : state.ownership = .knownBusy own c st aborted := owned
    have ends : state.endsTurn (.snapshot statuses cycle stream now) = some own := by
      simp [TerminalOpencode.endsTurn,TerminalOpencode.endsOn,owned,empty]
    exact kept_of_strands kept owned ends
  | error sessionId errorName cycle stream now =>
    have still : { state with lastObservedAt := now }.Settled := settled.congr rfl rfl rfl
    simp only [TerminalOpencode.note,TerminalOpencode.noteError]
    split
    · exact still
    · split
      · exact still
      · split
        · exact settled_of_running rfl
        · exact settled_of_running rfl
        · exact still
  | permissionAsked sessionId permissionId now => exact settled_notePermissionAsked settled sessionId permissionId now
  | permissionReplied permissionId now => exact settled_notePermissionReplied settled permissionId now
  | permissionsSynced pendingIds now =>
    simp only [TerminalOpencode.note,TerminalOpencode.notePermissionsSynced]
    refine List.foldlRecOn _ _ (motive := fun reduction : Reduction => reduction.state.Settled) settled ?_
    intro reduction kept id _
    exact settled_notePermissionReplied kept id now
  | verifyFailed now =>
    simp only [TerminalOpencode.note,TerminalOpencode.noteVerifyFailed]
    split
    · exact settled
    · exact settled_quiet rfl rfl rfl

/-! ### The end of a turn -/

theorem note_of_ends {note : OpencodeNote} {own : String} (ends : state.endsTurn note = some own) :
    ∃ now, state.note ledger note = { state with lastObservedAt := now }.endKnown ledger own state.aborted now := by
  cases owned : state.ownership with
  | knownBusy known c st aborted =>
    have ending : state.endsOn note known c st = true ∧ known = own := by
      simpa [TerminalOpencode.endsTurn,owned] using ends
    obtain ⟨ending,rfl⟩ := ending
    cases note with
    | snapshot statuses cycle stream now =>
      have empty : collapseBusyRoots state statuses = [] := by simpa [TerminalOpencode.endsOn] using ending
      refine ⟨now,?_⟩
      simp only [TerminalOpencode.note,TerminalOpencode.noteSnapshot,collapseBusyRoots_observed,empty]
      simp [TerminalOpencode.reduceSnapshot,owned,TerminalOpencode.aborted]
    | status sessionId status cycle stream now =>
      cases status with
      | idle =>
        simp only [TerminalOpencode.endsOn,Bool.and_eq_true,beq_iff_eq] at ending
        obtain ⟨⟨⟨rfl,root⟩,rfl⟩,rfl⟩ := ending
        refine ⟨now,?_⟩
        simp only [TerminalOpencode.note,TerminalOpencode.noteStatus,resolveRoot_observed,root,ne_eq,not_true,if_false]
        simp [TerminalOpencode.reduceIdleEdge,owned,TerminalOpencode.aborted]
      | busy => simp [TerminalOpencode.endsOn] at ending
      | retry => simp [TerminalOpencode.endsOn] at ending
    | sessionIdle sessionId cycle stream now =>
      simp only [TerminalOpencode.endsOn,Bool.and_eq_true,beq_iff_eq] at ending
      obtain ⟨⟨⟨rfl,root⟩,rfl⟩,rfl⟩ := ending
      refine ⟨now,?_⟩
      simp only [TerminalOpencode.note,TerminalOpencode.noteSessionIdle,TerminalOpencode.noteStatus,
        resolveRoot_observed,root,ne_eq,not_true,if_false]
      simp [TerminalOpencode.reduceIdleEdge,owned,TerminalOpencode.aborted]
    | _ => simp [TerminalOpencode.endsOn] at ending
  | _ => simp [TerminalOpencode.endsTurn,owned] at ends

/-- A turn that ends leaves the terminal quiet, and rings unless it was aborted or paused. -/
theorem ends_note {note : OpencodeNote} {own : String} (ends : state.endsTurn note = some own) :
    (state.note ledger note).state.ownership = .quiet (some own) ∧
      ∃ now seq, turnCompletesOf state.terminalId (state.note ledger note).effects =
        if state.aborted = true ∨ state.pendingPermissions ≠ [] then []
        else [.turnComplete state.terminalId (some own) now seq] := by
  obtain ⟨now,same⟩ := @note_of_ends state ledger note own ends
  rw [same]
  refine ⟨?_,now,(ledger.recordTurnCompletion state.terminalId now).1,?_⟩
  · simp only [TerminalOpencode.endKnown]
    split
    · split
      · rfl
      · rfl
    · split
      · rfl
      · rfl
  · by_cases paused : state.pendingPermissions = []
    · by_cases silenced : state.aborted = true
      · simp [TerminalOpencode.endKnown,paused,silenced]
      · simp only [TerminalOpencode.endKnown,paused,silenced]
        simp only [ne_eq,not_true,if_false,Bool.false_eq_true,or_self,turnCompletesOf_append,clearedAs_completes]
        simp [turnCompletesOf]
    · by_cases silenced : state.aborted = true
      · simp [TerminalOpencode.endKnown,paused,silenced]
      · simp [TerminalOpencode.endKnown,paused,silenced]

theorem strands_note (strands : state.strands note = true) : ¬ (state.note ledger note).state.Clean := by
  simp only [TerminalOpencode.strands,Bool.and_eq_true,Bool.not_eq_true',List.isEmpty_eq_false_iff,
    Option.isSome_iff_exists] at strands
  obtain ⟨⟨⟨⟨own,ends⟩,rings⟩,paused⟩,record,busy⟩ := strands
  obtain ⟨now,same⟩ := @note_of_ends state ledger note own ends
  intro clean
  rw [same] at clean
  simp only [TerminalOpencode.endKnown,rings] at clean
  rw [if_pos paused] at clean
  have gone := (clean (some own) rfl).2
  simp [busy] at gone

def IdleEdge (note : OpencodeNote) (sessionId : String) (cycle stream : Nat) : Prop :=
  ∃ now, note = .status sessionId .idle cycle stream now ∨ note = .sessionIdle sessionId cycle stream now

/-- The running turn, with the cycle and the stream it was seen on. -/
def Ownership.turn : Ownership → Option (String × Nat × Nat)
  | .candidate own _ cycle stream _ => some (own,cycle,stream)
  | .knownBusy own cycle stream _ => some (own,cycle,stream)
  | _ => none

theorem note_of_idle {note : OpencodeNote} {sessionId : String} {cycle stream : Nat}
    (edge : IdleEdge note sessionId cycle stream) :
    ∃ now, state.note ledger note = state.noteStatus ledger sessionId .idle cycle stream now := by
  obtain ⟨now,rfl | rfl⟩ := edge
  · exact ⟨now,rfl⟩
  · exact ⟨now,rfl⟩

theorem note_of_status_idle (sessionId : String) (cycle stream : Nat) (now : Int) :
    state.note ledger (.sessionIdle sessionId cycle stream now) = state.noteStatus ledger sessionId .idle cycle stream now :=
  rfl

theorem reduceIdleEdge_stale {sessionId : String} {cycle stream : Nat}
    (other : state.ownership.turn ≠ some (sessionId,cycle,stream))
    (clear : ∀ known blocked, state.ownership = .ambiguous known blocked → sessionId ∉ blocked) (now : Int) :
    state.reduceIdleEdge ledger sessionId cycle stream now = ⟨state,ledger,[]⟩ := by
  simp only [TerminalOpencode.reduceIdleEdge]
  cases owned : state.ownership with
  | knownBusy own c st aborted =>
    simp only [owned,Ownership.turn,ne_eq,Option.some.injEq,Prod.mk.injEq] at other
    simp [other]
  | candidate own previous c st aborted =>
    simp only [owned,Ownership.turn,ne_eq,Option.some.injEq,Prod.mk.injEq] at other
    simp [other]
  | ambiguous known blocked => simp [clear known blocked owned]
  | quiet known => rfl
  | awaitingAssociation own previous ended aborted => rfl

theorem reduceIdleEdge_spent (sessionId : String) (cycle stream : Nat) (now : Int) :
    let after := (state.reduceIdleEdge ledger sessionId cycle stream now).state
    after.ownership.turn ≠ some (sessionId,cycle,stream) ∧
      (∀ known blocked, after.ownership = .ambiguous known blocked → sessionId ∉ blocked) ∧
      after.sessionRoots = state.sessionRoots := by
  simp only [TerminalOpencode.reduceIdleEdge]
  cases owned : state.ownership with
  | knownBusy own c st aborted =>
    dsimp only
    split
    · simp only [TerminalOpencode.endKnown]
      repeat' split
      all_goals exact ⟨by simp [Ownership.turn],by simp,rfl⟩
    · next other => exact ⟨by simpa [owned,Ownership.turn] using other,by simp [owned],rfl⟩
  | candidate own previous c st aborted =>
    dsimp only
    split
    · simp only [TerminalOpencode.endCandidate]
      split
      · exact ⟨by simp [Ownership.turn],by simp,rfl⟩
      · exact ⟨by simp [Ownership.turn],by simp,rfl⟩
    · next other => exact ⟨by simpa [owned,Ownership.turn] using other,by simp [owned],rfl⟩
  | ambiguous known blocked =>
    dsimp only
    split
    · split
      · exact ⟨by simp [Ownership.turn],by simp,rfl⟩
      · refine ⟨by simp [Ownership.turn],?_,rfl⟩
        rintro _ _ same
        cases same
        simp
    · next unlisted =>
      refine ⟨by simp [owned,Ownership.turn],?_,rfl⟩
      rintro _ _ same
      cases owned.symm.trans same
      exact unlisted
  | quiet known => exact ⟨by simp [owned,Ownership.turn],by simp [owned],rfl⟩
  | awaitingAssociation own previous ended aborted => exact ⟨by simp [owned,Ownership.turn],by simp [owned],rfl⟩

theorem idle_quiet {note : OpencodeNote} {sessionId : String} {cycle stream : Nat}
    (edge : IdleEdge note sessionId cycle stream) (other : state.ownership.turn ≠ some (sessionId,cycle,stream))
    (clear : ∀ known blocked, state.ownership = .ambiguous known blocked → sessionId ∉ blocked) :
    (state.note ledger note).effects = [] := by
  obtain ⟨now,same⟩ := @note_of_idle state ledger note sessionId cycle stream edge
  rw [same]
  simp only [TerminalOpencode.noteStatus]
  split
  · rfl
  · next root =>
    simp only [resolveRoot_observed,ne_eq,not_not] at root
    rw [resolveRoot_observed,root]
    rw [@reduceIdleEdge_stale { state with lastObservedAt := now } ledger sessionId cycle stream other clear now]

theorem idle_twice {again : OpencodeNote} {sessionId : String} {cycle stream : Nat}
    (edge : IdleEdge note sessionId cycle stream) (edge' : IdleEdge again sessionId cycle stream)
    (ledger' : TurnCompletionLedger) : ((state.note ledger note).state.note ledger' again).effects = [] := by
  obtain ⟨now,same⟩ := @note_of_idle state ledger note sessionId cycle stream edge
  obtain ⟨now',same'⟩ := @note_of_idle (state.note ledger note).state ledger' again sessionId cycle stream edge'
  rw [same',same]
  by_cases root : resolveRoot state sessionId = sessionId
  · have first : state.noteStatus ledger sessionId .idle cycle stream now =
        { state with lastObservedAt := now }.reduceIdleEdge ledger sessionId cycle stream now := by
      simp [TerminalOpencode.noteStatus,root]
    rw [first,← @note_of_status_idle _ ledger' sessionId cycle stream now']
    obtain ⟨turn,clear,_⟩ := @reduceIdleEdge_spent { state with lastObservedAt := now } ledger sessionId cycle stream now
    exact idle_quiet ⟨now',.inr rfl⟩ turn clear
  · simp [TerminalOpencode.noteStatus,root]

end

/-! ### Runs -/

namespace OpencodeActivityTracker
variable {tracker : OpencodeActivityTracker} {id : String}

theorem turnCompletesOf_expire (now : Int) : turnCompletesOf id (tracker.expire now).2 = [] := by
  rw [turnCompletesOf,List.filter_eq_nil_iff]
  intro effect listed
  simp only [expire,List.mem_flatMap] at listed
  obtain ⟨entry,_,listed⟩ := listed
  simp only [TerminalOpencode.expire] at listed
  split at listed
  · simp only [List.mem_singleton] at listed
    subst listed
    simp
  · simp at listed

theorem expired (state : TerminalOpencode) (deadman now : Int) :
    ∃ observed, (state.expire deadman now).1 = { state with lastObservedAt := observed } := by
  simp only [TerminalOpencode.expire]
  split
  · exact ⟨now,rfl⟩
  · exact ⟨state.lastObservedAt,rfl⟩

/-- What the terminal is after a step, and what it rings. -/
inductive Stepped (tracker : OpencodeActivityTracker) (id : String) (op : OpencodeOp) : Prop where
  | kept (silent : turnCompletesOf id (tracker.step op).2 = [])
      (same : ∀ after, (tracker.next op).states.lookup id = some after →
        ∃ state observed, tracker.states.lookup id = some state ∧ after = { state with lastObservedAt := observed })
      (gone : (tracker.next op).states.lookup id = none → tracker.states.lookup id = none)
  | noted (note : OpencodeNote) (state : TerminalOpencode) (same : op = .note id note)
      (found : tracker.states.lookup id = some state)
      (after : (tracker.next op).states.lookup id = some (state.note tracker.ledger note).state)
      (rung : (tracker.step op).2 = (state.note tracker.ledger note).effects)
  /-- The terminal is new, is begun anew or is gone. -/
  | fresh (silent : turnCompletesOf id (tracker.step op).2 = [])
      (quiet : ∀ after, (tracker.next op).states.lookup id = some after →
        after.terminalId = id ∧ ∃ known, after.ownership = .quiet known ∧ after.pendingPermissions = [] ∧
          after.record = none)

theorem stepped (named : tracker.Named) (id : String) (op : OpencodeOp) : Stepped tracker id op := by
  cases op with
  | expire now =>
    refine .kept (turnCompletesOf_expire now) ?_ ?_
    · intro after found
      simp only [next,step,expire,lookup_mapValues,Option.map_eq_some_iff] at found
      obtain ⟨state,held,rfl⟩ := found
      obtain ⟨observed,same⟩ := expired state tracker.busyDeadmanMs now
      exact ⟨state,observed,held,same⟩
    · intro gone
      simpa [next,step,expire] using gone
  | exit other =>
    have silent : turnCompletesOf id (tracker.step (.exit other)).2 = [] := by
      simp only [step,noteExit]
      cases tracker.states.lookup other with
      | none => rfl
      | some state =>
        dsimp only
        split
        · rfl
        · rfl
    by_cases mine : id = other
    · subst mine
      refine .fresh silent ?_
      intro after found
      simp only [next,step,noteExit] at found
      cases held : tracker.states.lookup id with
      | none => simp [held] at found
      | some state => simp [held] at found
    · have same : (tracker.next (.exit other)).states.lookup id = tracker.states.lookup id := by
        simp only [next,step,noteExit]
        cases tracker.states.lookup other with
        | none => rfl
        | some state => simp [mine]
      exact .kept silent (fun after found => ⟨after,after.lastObservedAt,same ▸ found,rfl⟩) fun gone => same ▸ gone
  | trackTerminal other sessionId now =>
    have silent : turnCompletesOf id (tracker.step (.trackTerminal other sessionId now)).2 = [] := by
      simp only [step,trackTerminal]
      cases tracker.states.lookup other with
      | none => rfl
      | some state => exact turnCompletesOf_clear id false
    by_cases mine : id = other
    · subst mine
      refine .fresh silent ?_
      intro after found
      simp only [next,step,trackTerminal] at found
      cases held : tracker.states.lookup id with
      | none =>
        simp only [held,lookup_insert,if_true,Option.some.injEq] at found
        subst found
        exact ⟨rfl,sessionId,rfl,rfl,rfl⟩
      | some state =>
        simp only [held,lookup_insert,if_true,Option.some.injEq] at found
        subst found
        exact ⟨named id state held,sessionId,rfl,rfl,rfl⟩
    · have same : (tracker.next (.trackTerminal other sessionId now)).states.lookup id = tracker.states.lookup id := by
        simp only [next,step,trackTerminal]
        cases tracker.states.lookup other with
        | none => simp [mine]
        | some state => simp [mine]
      exact .kept silent (fun after found => ⟨after,after.lastObservedAt,same ▸ found,rfl⟩) fun gone => same ▸ gone
  | note other note =>
    by_cases mine : id = other
    · subst mine
      cases held : tracker.states.lookup id with
      | none =>
        have unknown : tracker.step (.note id note) = (tracker,[]) := by simp [step,noteOn,held]
        refine .kept (by rw [unknown]; rfl) ?_ ?_
        · intro after found
          rw [next,unknown,held] at found
          cases found
        · intro _
          exact held
      | some state =>
        refine .noted note state rfl held ?_ ?_
        · simp [next,step,noteOn,held]
        · simp [step,noteOn,held]
    · have same : (tracker.next (.note other note)).states.lookup id = tracker.states.lookup id := by
        simp only [next,step,noteOn]
        cases tracker.states.lookup other with
        | none => rfl
        | some state => simp [mine]
      have silent : turnCompletesOf id (tracker.step (.note other note)).2 = [] := by
        simp only [step,noteOn]
        cases held : tracker.states.lookup other with
        | none => rfl
        | some state =>
          apply (@own_note state tracker.ledger note).2
          rwa [named other state held]
      exact .kept silent (fun after found => ⟨after,after.lastObservedAt,same ▸ found,rfl⟩) fun gone => same ▸ gone

theorem named_next (named : tracker.Named) (op : OpencodeOp) : (tracker.next op).Named := by
  intro id after found
  cases stepped named id op with
  | kept _ same _ =>
    obtain ⟨state,observed,held,rfl⟩ := same after found
    exact named id state held
  | noted note state _ held now _ =>
    cases found.symm.trans now
    exact (own_note note).1.trans (named id state held)
  | fresh _ quiet => exact (quiet after found).1

/-- No turn of the terminal runs that could still ring. -/
def AtRest (tracker : OpencodeActivityTracker) (id : String) : Prop :=
  ∀ state, tracker.states.lookup id = some state → state.ownership.rested = true

def owes (tracker : OpencodeActivityTracker) (id : String) : Option (String × Int) :=
  (tracker.states.lookup id).bind fun state => state.ownership.owes

theorem rests_step (named : tracker.Named) (rests : tracker.AtRest id) {op : OpencodeOp}
    (closed : Closed id tracker op) :
    (tracker.next op).AtRest id ∧
      Pays id (tracker.owes id) ((tracker.next op).owes id) (turnCompletesOf id (tracker.step op).2) := by
  cases stepped named id op with
  | kept silent same gone =>
    refine ⟨?_,.inl ⟨silent,?_⟩⟩
    · intro after found
      obtain ⟨state,observed,held,rfl⟩ := same after found
      exact rests state held
    · cases found : (tracker.next op).states.lookup id with
      | none => exact .inl (by simp [owes,found,gone found])
      | some after =>
        obtain ⟨state,observed,held,rfl⟩ := same after found
        exact .inl (by simp [owes,found,held])
  | noted note state same held now rung =>
    subst same
    have unopened : state.opens note = false := by simpa [Closed,opens,picks,held] using closed
    obtain ⟨still,pays⟩ := @rests_note state tracker.ledger (rests state held) note unopened
    rw [named id state held] at pays
    refine ⟨?_,?_⟩
    · intro after found
      cases found.symm.trans now
      exact still
    · rw [rung]
      simpa [owes,held,now] using pays
  | fresh silent quiet =>
    refine ⟨?_,.inl ⟨silent,?_⟩⟩
    · intro after found
      obtain ⟨_,known,owned,_⟩ := quiet after found
      rw [owned]
      rfl
    · cases found : (tracker.next op).states.lookup id with
      | none => exact .inr (by simp [owes,found])
      | some after =>
        obtain ⟨_,known,owned,_⟩ := quiet after found
        exact .inr (by simp [owes,found,owned,Ownership.owes])

variable {ops : List OpencodeOp}

theorem rings_closed (named : tracker.Named) (rests : tracker.AtRest id) (closed : Along next (Closed id) tracker ops) :
    tracker.rings id ops = [] ∨ ∃ own ended seq, tracker.owes id = some (own,ended) ∧
      tracker.rings id ops = [.turnComplete id (some own) ended seq] := by
  induction ops generalizing tracker with
  | nil => exact .inl rfl
  | cons op rest ih =>
    obtain ⟨still,pays⟩ := rests_step named rests closed.1
    have later := ih (named_next named op) still closed.2
    have parts : tracker.rings id (op :: rest) =
        turnCompletesOf id (tracker.step op).2 ++ (tracker.next op).rings id rest := turnCompletesOf_append _ _ _
    rw [parts]
    obtain ⟨silent,same | none_⟩ | ⟨own,ended,seq,due,paid,rung⟩ := pays
    · rw [silent,List.nil_append,← same]
      exact later
    · rw [silent,List.nil_append]
      obtain quiet | ⟨own,ended,seq,due,_⟩ := later
      · exact .inl quiet
      · rw [none_] at due
        cases due
    · refine .inr ⟨own,ended,seq,due,?_⟩
      obtain quiet | ⟨_,_,_,due',_⟩ := later
      · rw [rung,quiet,List.append_nil]
      · rw [paid] at due'
        cases due'

theorem rings_nothing (named : tracker.Named) (rests : tracker.AtRest id) (nothing : tracker.owes id = none)
    (closed : Along next (Closed id) tracker ops) : tracker.rings id ops = [] := by
  obtain quiet | ⟨own,ended,seq,due,_⟩ := rings_closed named rests closed
  · exact quiet
  · rw [nothing] at due
    cases due

variable (deadman : Int)

theorem named_start : Named { busyDeadmanMs := deadman } := by
  intro id state found
  cases found

theorem named_run (ops : List OpencodeOp) : (run next { busyDeadmanMs := deadman } ops).Named := by
  have free : Along next (fun _ _ => True) ({ busyDeadmanMs := deadman } : OpencodeActivityTracker) ops :=
    along_of_forall (fun _ _ => trivial) _ ops
  exact @invariant_run _ _ next Named _ (fun _ op named _ => named_next named op) _ _ (named_start deadman) free

instance decidableClosed (id : String) (tracker : OpencodeActivityTracker) (op : OpencodeOp) :
    Decidable (Closed id tracker op) := inferInstanceAs (Decidable (_ = false))

end OpencodeActivityTracker

/-! ### Aborts -/

def OpencodeOp.busyEdge : OpencodeOp → Bool
  | .note _ (.status _ status _ _ _) => status != .idle
  | _ => false

open OpencodeActivityTracker in
/-- After its abort a turn does not ring, nor does anything else until a turn is opened. -/
theorem abort_silences (deadman : Int) (ops : List OpencodeOp) (id session : String) (cycle stream : Nat) (now : Int)
    (state : TerminalOpencode)
    (found : (run next { busyDeadmanMs := deadman } ops).states.lookup id = some state)
    (owned : state.ownership.turn = some (session,cycle,stream)) (root : resolveRoot state session = session)
    (rest : List OpencodeOp)
    (closed : Along next (Closed id)
      ((run next { busyDeadmanMs := deadman } ops).next
        (.note id (.error session "MessageAbortedError" cycle stream now))) rest) :
    ((run next { busyDeadmanMs := deadman } ops).next
      (.note id (.error session "MessageAbortedError" cycle stream now))).rings id rest = [] := by
  have named := named_run deadman ops
  generalize run next { busyDeadmanMs := deadman } ops = tracker at *
  have aborted : (state.noteError session "MessageAbortedError" cycle stream now).ownership.rested = true ∧
      (state.noteError session "MessageAbortedError" cycle stream now).ownership.owes = none := by
    simp only [TerminalOpencode.noteError,resolveRoot_observed,root,ne_eq,not_true,if_false]
    cases running : state.ownership with
    | knownBusy own c st aborted =>
      obtain ⟨rfl,rfl,rfl⟩ : own = session ∧ c = cycle ∧ st = stream := by simpa [running,Ownership.turn] using owned
      simp [Ownership.rested,Ownership.owes]
    | candidate own previous c st aborted =>
      obtain ⟨rfl,rfl,rfl⟩ : own = session ∧ c = cycle ∧ st = stream := by simpa [running,Ownership.turn] using owned
      simp [Ownership.rested,Ownership.owes]
    | _ => simp [running,Ownership.turn] at owned
  have after : (tracker.next (.note id (.error session "MessageAbortedError" cycle stream now))).states.lookup id =
      some (state.noteError session "MessageAbortedError" cycle stream now) := by
    simp [next,step,noteOn,found,TerminalOpencode.note]
  refine rings_nothing (named_next named _) ?_ ?_ closed
  · intro held same
    cases same.symm.trans after
    exact aborted.1
  · simp [owes,after,aborted.2]

/-- An aborted candidate: paused, with a stray root and back, and bound at last. -/
theorem abort_silences_candidate :
    let tracker := run OpencodeActivityTracker.next {}
      [.trackTerminal "t1" none 0,.note "t1" (.snapshot [("r",.busy)] 1 1 100),.note "t1" (.permissionAsked "r" "p" 150)]
    (tracker.next (.note "t1" (.error "r" "MessageAbortedError" 1 1 160))).rings "t1"
      [.note "t1" (.sessionCreated "c" (some "r") 170),.note "t1" (.status "c" .idle 1 1 180),
        .note "t1" (.snapshot [] 1 1 200),.note "t1" (.bindSession "r" 300)] = [] := by
  refine abort_silences 120000 _ "t1" "r" 1 1 160 _ rfl ?_ ?_ _ ?_
  · decide +kernel
  · decide +kernel
  · decide +kernel

/-- A snapshot that finds the aborted turn busy makes it ring, without any busy edge. -/
theorem refresh_forgets_abort :
    ¬ ∀ (ops : List OpencodeOp) (id session : String) (cycle stream : Nat) (now : Int) (state : TerminalOpencode)
      (rest : List OpencodeOp),
      let tracker := run OpencodeActivityTracker.next {} ops
      tracker.states.lookup id = some state → state.ownership.turn = some (session,cycle,stream) →
        resolveRoot state session = session → (∀ op ∈ rest, op.busyEdge = false) →
          (tracker.next (.note id (.error session "MessageAbortedError" cycle stream now))).rings id rest = [] := by
  intro silent
  have rung := silent [.trackTerminal "t1" (some "r") 0,.note "t1" (.status "r" .busy 1 1 100)] "t1" "r" 1 1 150 _
    [.note "t1" (.snapshot [("r",.busy)] 1 2 160),.note "t1" (.status "r" .idle 1 2 200)] rfl
    (by decide +kernel) (by decide +kernel) (by decide +kernel)
  revert rung
  decide +kernel

/-! ### The account of the bells -/

open OpencodeActivityTracker in
structure Accounts (tracker : OpencodeActivityTracker) (id : String) (state : TerminalOpencode) : Prop where
  /-- The turn of a confirmed session that ends in a pause rings nothing. -/
  paused : ∀ note own rest, state.endsTurn note = some own → state.pendingPermissions ≠ [] →
    Along next (Closed id) (tracker.next (.note id note)) rest → tracker.rings id (.note id note :: rest) = []
  /-- One that ends un-aborted and without a pause rings once. -/
  completes : ∀ note own rest, state.endsTurn note = some own → state.pendingPermissions = [] → state.aborted = false →
    Along next (Closed id) (tracker.next (.note id note)) rest →
      ∃ now seq, tracker.rings id (.note id note :: rest) = [.turnComplete id (some own) now seq]
  stale : ∀ note sessionId cycle stream, IdleEdge note sessionId cycle stream →
    state.ownership.turn ≠ some (sessionId,cycle,stream) → (∀ known blocked, state.ownership ≠ .ambiguous known blocked) →
      (tracker.step (.note id note)).2 = []
  repeated : ∀ note again sessionId cycle stream, IdleEdge note sessionId cycle stream →
    IdleEdge again sessionId cycle stream → ((tracker.next (.note id note)).step (.note id again)).2 = []
  /-- A turn that ended unconfirmed rings at most once, for its end and at the bind of its session. -/
  deferred : ∀ own previous ended aborted rest, state.ownership = .awaitingAssociation own previous ended aborted →
    Along next (Closed id) tracker rest →
      (tracker.rings id rest = [] ∨ ∃ seq, tracker.rings id rest = [.turnComplete id (some own) ended seq]) ∧
        ∀ before op after, rest = before ++ op :: after →
          turnCompletesOf id ((run next tracker before).step op).2 ≠ [] → ∃ now, op = .note id (.bindSession own now)

theorem awaiting_note {state : TerminalOpencode} {ledger : TurnCompletionLedger} {own : String}
    {previous : Option String} {ended : Int} {aborted : Bool}
    (waits : state.ownership = .awaitingAssociation own previous ended aborted) {note : OpencodeNote}
    (rung : turnCompletesOf state.terminalId (state.note ledger note).effects ≠ []) :
    ∃ now, note = .bindSession own now := by
  cases note with
  | bindSession sessionId now =>
    by_cases same : own = sessionId
    · exact ⟨now,by rw [same]⟩
    · simp [TerminalOpencode.note,TerminalOpencode.bindSession,waits,same] at rung
  | status sessionId status cycle stream now =>
    cases status with
    | idle =>
      refine absurd ?_ rung
      rw [@idle_quiet _ _ _ _ cycle stream ⟨now,.inl rfl⟩ (by simp [waits,Ownership.turn]) (by simp [waits])]
      rfl
    | busy => simp [TerminalOpencode.note,TerminalOpencode.noteStatus,TerminalOpencode.reduceBusyEdge,waits] at rung
    | retry => simp [TerminalOpencode.note,TerminalOpencode.noteStatus,TerminalOpencode.reduceBusyEdge,waits] at rung
  | sessionIdle sessionId cycle stream now =>
    refine absurd ?_ rung
    rw [idle_quiet ⟨now,.inr rfl⟩ (by simp [waits,Ownership.turn]) (by simp [waits])]
    rfl
  | snapshot statuses cycle stream now =>
    simp [TerminalOpencode.note,TerminalOpencode.noteSnapshot,TerminalOpencode.reduceSnapshot,waits] at rung
  | permissionAsked sessionId permissionId now => exact absurd ((notePermissionAsked_spec _ _ _ _ _).2.2.2 _) rung
  | permissionReplied permissionId now => exact absurd ((notePermissionReplied_spec _ _ _ _).2.2.2 _) rung
  | permissionsSynced pendingIds now => exact absurd ((notePermissionsSynced_spec _ _ _ _).2.2.2 _) rung
  | verifyFailed now =>
    refine absurd ?_ rung
    simp only [TerminalOpencode.note,TerminalOpencode.noteVerifyFailed]
    split
    · rfl
    · rw [turnCompletesOf_append,clearedAs_completes]
      rfl
  | sessionCreated sessionId parentId now => exact absurd rfl rung
  | error sessionId errorName cycle stream now => exact absurd rfl rung

namespace OpencodeActivityTracker
variable {tracker : OpencodeActivityTracker} {id : String}

theorem rings_cons (op : OpencodeOp) (rest : List OpencodeOp) :
    tracker.rings id (op :: rest) = turnCompletesOf id (tracker.step op).2 ++ (tracker.next op).rings id rest :=
  turnCompletesOf_append _ _ _

variable {state : TerminalOpencode}

theorem noted_step (found : tracker.states.lookup id = some state) (note : OpencodeNote) :
    (tracker.next (.note id note)).states.lookup id = some (state.note tracker.ledger note).state ∧
      (tracker.step (.note id note)).2 = (state.note tracker.ledger note).effects := by
  simp [next,step,noteOn,found]

variable {own : String}

theorem rings_end (named : tracker.Named) (found : tracker.states.lookup id = some state) {note : OpencodeNote}
    (ends : state.endsTurn note = some own) {rest : List OpencodeOp}
    (closed : Along next (Closed id) (tracker.next (.note id note)) rest) :
    ∃ now seq, tracker.rings id (.note id note :: rest) =
      if state.aborted = true ∨ state.pendingPermissions ≠ [] then [] else [.turnComplete id (some own) now seq] := by
  obtain ⟨after,effects⟩ := noted_step found note
  obtain ⟨quiet,now,seq,rung⟩ := @ends_note state tracker.ledger note own ends
  rw [named id state found] at rung
  refine ⟨now,seq,?_⟩
  rw [rings_cons,effects,rung,rings_nothing (named_next named _) ?_ ?_ closed,List.append_nil]
  · intro held same
    cases same.symm.trans after
    rw [quiet]
    rfl
  · simp [owes,after,quiet,Ownership.owes]

variable {op : OpencodeOp}

theorem bind_pays (named : tracker.Named) (rests : tracker.AtRest id) (closed : Closed id tracker op)
    (rung : turnCompletesOf id (tracker.step op).2 ≠ []) :
    ∃ own ended now, tracker.owes id = some (own,ended) ∧ op = .note id (.bindSession own now) := by
  cases stepped named id op with
  | kept silent _ _ => exact absurd silent rung
  | fresh silent _ => exact absurd silent rung
  | noted note state same held _ effects =>
    subst same
    obtain ⟨_,⟨silent,_⟩ | ⟨own,ended,seq,due,_⟩⟩ := rests_step named rests closed
    · exact absurd silent rung
    · have waits : state.ownership.owes = some (own,ended) := by simpa [owes,held] using due
      cases owned : state.ownership with
      | awaitingAssociation waiting previous completedAt aborted =>
        rw [effects,← named id state held] at rung
        obtain ⟨now,rfl⟩ := awaiting_note owned rung
        refine ⟨own,ended,now,due,?_⟩
        simp only [owned,Ownership.owes] at waits
        split at waits
        · cases waits
        · cases waits
          rfl
      | _ => simp [owned,Ownership.owes] at waits

theorem owed_step (named : tracker.Named) (rests : tracker.AtRest id) (closed : Closed id tracker op) {ended : Int}
    (owed : (tracker.next op).owes id = some (own,ended)) : tracker.owes id = some (own,ended) := by
  obtain ⟨_,⟨_,same | none_⟩ | ⟨_,_,_,_,paid,_⟩⟩ := rests_step named rests closed
  · exact same ▸ owed
  · rw [none_] at owed
    cases owed
  · rw [paid] at owed
    cases owed

/-- Along a closed run, each completion comes of a bind of the session that is owed at its start. -/
theorem binds_pay (named : tracker.Named) (rests : tracker.AtRest id) {before after : List OpencodeOp}
    (closed : Along next (Closed id) tracker (before ++ op :: after))
    (rung : turnCompletesOf id ((run next tracker before).step op).2 ≠ []) :
    ∃ own ended now, tracker.owes id = some (own,ended) ∧ op = .note id (.bindSession own now) := by
  induction before generalizing tracker with
  | nil => exact bind_pays named rests closed.1 rung
  | cons first before ih =>
    obtain ⟨own,ended,now,owed,same⟩ :=
      ih (named_next named first) (rests_step named rests closed.1).1 closed.2 rung
    exact ⟨own,ended,now,owed_step named rests closed.1 owed,same⟩

theorem accounts_of_named (named : tracker.Named) (found : tracker.states.lookup id = some state) :
    Accounts tracker id state where
  paused note own rest ends pending closed := by
    obtain ⟨now,seq,rung⟩ := rings_end named found ends closed
    rwa [if_pos (.inr pending)] at rung
  completes note own rest ends pending rings closed := by
    obtain ⟨now,seq,rung⟩ := rings_end named found ends closed
    rw [if_neg (by simp [pending,rings])] at rung
    exact ⟨now,seq,rung⟩
  stale note sessionId cycle stream edge other clear := by
    rw [(noted_step found note).2]
    exact idle_quiet edge other fun known blocked ambiguous => absurd ambiguous (clear known blocked)
  repeated note again sessionId cycle stream edge edge' := by
    rw [(noted_step (noted_step found note).1 again).2]
    exact idle_twice edge edge' _
  deferred own previous ended aborted rest waits closed := by
    have rests : tracker.AtRest id := by
      intro held same
      cases same.symm.trans found
      rw [waits]
      rfl
    have owed : ∀ session at_, tracker.owes id = some (session,at_) → session = own ∧ at_ = ended := by
      intro session at_ due
      simp only [owes,found,Option.bind_some,waits,Ownership.owes] at due
      split at due
      · cases due
      · cases due
        exact ⟨rfl,rfl⟩
    refine ⟨?_,?_⟩
    · obtain quiet | ⟨session,at_,seq,due,rung⟩ := rings_closed named rests closed
      · exact .inl quiet
      · obtain ⟨rfl,rfl⟩ := owed session at_ due
        exact .inr ⟨seq,rung⟩
    · rintro before op after rfl rung
      obtain ⟨session,at_,now,due,same⟩ := binds_pay named rests closed rung
      obtain ⟨rfl,_⟩ := owed session at_ due
      exact ⟨now,same⟩

def AllSettled (tracker : OpencodeActivityTracker) : Prop :=
  ∀ id state, tracker.states.lookup id = some state → state.Settled

theorem settled_next (named : tracker.Named) (settled : tracker.AllSettled) (kept : ¬ tracker.Strands op) :
    (tracker.next op).AllSettled := by
  intro id after found
  cases stepped named id op with
  | kept _ same _ =>
    obtain ⟨state,observed,held,rfl⟩ := same after found
    exact (settled id state held).congr rfl rfl rfl
  | noted note state same held now _ =>
    subst same
    cases found.symm.trans now
    refine settled_note (settled id state held) note ?_
    by_contra strands
    exact kept ⟨id,by simpa [picks,held] using strands⟩
  | fresh _ quiet =>
    obtain ⟨_,known,owned,pending,record⟩ := quiet after found
    exact settled_quiet owned pending record

theorem strands_next (strands : tracker.Strands op) :
    ∃ id state, (tracker.next op).states.lookup id = some state ∧ ¬ state.Clean := by
  obtain ⟨id,picked⟩ := strands
  cases op with
  | note other note =>
    simp only [picks,Bool.and_eq_true,beq_iff_eq] at picked
    obtain ⟨rfl,stranded⟩ := picked
    cases found : tracker.states.lookup other with
    | none => simp [found] at stranded
    | some state =>
      refine ⟨other,_,(noted_step found note).1,strands_note ?_⟩
      simpa [found] using stranded
  | _ => simp [picks] at picked

end OpencodeActivityTracker

open OpencodeActivityTracker in
/-- No pause and no record outlives the turns, exactly when no turn of a confirmed session
    ends in a pause, un-aborted, beside a busy record; the bells are accounted for in any run. -/
theorem bells_accounted (deadman : Int) (ops : List OpencodeOp) :
    (Along next (fun tracker op => ¬ tracker.Strands op) { busyDeadmanMs := deadman } ops ↔
      ∀ before, before <+: ops → ∀ id state,
        (run next { busyDeadmanMs := deadman } before).states.lookup id = some state → state.Clean) ∧
    ∀ id state, (run next { busyDeadmanMs := deadman } ops).states.lookup id = some state →
      Accounts (run next { busyDeadmanMs := deadman } ops) id state := by
  refine ⟨⟨?_,?_⟩,fun id state found => accounts_of_named (named_run deadman ops) found⟩
  · intro kept before isPrefix id state found
    have start : Named { busyDeadmanMs := deadman } ∧ AllSettled { busyDeadmanMs := deadman } :=
      ⟨named_start deadman,fun id state found => by cases found⟩
    have reached := @invariant_run _ _ next (fun tracker => tracker.Named ∧ tracker.AllSettled) _
      (fun _ op holds kept => ⟨named_next holds.1 op,settled_next holds.1 holds.2 kept⟩) _ _ start
      (along_before isPrefix kept)
    exact (reached.2 id state found).clean
  · intro clean
    refine @along_of_prefixes _ _ next
      (fun tracker => ∀ id state, tracker.states.lookup id = some state → state.Clean) _ ?_ _ _ clean
    intro tracker op _ after strands
    obtain ⟨id,state,found,dirty⟩ := strands_next strands
    exact dirty (after id state found)

/-- A pause that outlives the promotion of its candidate: the turn ends beside the record,
    and the terminal is quiet and busy. -/
theorem promoted_pause_strands :
    let tracker := run OpencodeActivityTracker.next {}
      [.trackTerminal "t1" none 0,.note "t1" (.snapshot [("r",.busy)] 1 1 100),.note "t1" (.permissionAsked "r" "p" 150),
        .note "t1" (.bindSession "r" 160),.note "t1" (.status "r" .idle 1 1 200)]
    (tracker.states.lookup "t1").map (fun state => (state.ownership,state.pendingPermissions,state.record)) =
      some (.quiet (some "r"),[],some ⟨"t1",.busy,160,some "r"⟩) := by
  decide +kernel

end Freshell.Activity.Opencode
