import Freshell.Library.Histories
import Freshell.Library.Tables
import Mathlib.Data.List.Induction

/-!
The idle gate: a turn boundary arms a grace window for the terminal, and a window that
lapses undisturbed emits `terminal.idle`. The emissions are determined by the history of
the terminal's reports alone.
-/
namespace Freshell.Activity.Idle
open Freshell.Library.Tables Freshell.Library.Histories

inductive TerminalIdleReason where
  | grace
  | queueEmpty
deriving DecidableEq, Repr

/-- An emission of `terminal.idle` that is due. -/
structure IdleEmission where
  terminalId : String
  emittedAt : Int
  reason : TerminalIdleReason
deriving DecidableEq, Repr

inductive IdleGatePhase where
  | busy
  | pending
  | idle
deriving DecidableEq, Repr

structure TerminalIdleState where
  busy : Bool := false
  pending : Bool := false
  /-- A queued turn or a submit armed again was seen since the last emission. -/
  sawQueueEvidence : Bool := false
  deadline : Option Int := none
deriving DecidableEq, Repr

namespace TerminalIdleState

def notePhase (state : TerminalIdleState) (phase : IdleGatePhase) : TerminalIdleState :=
  let nextBusy := phase == .busy || phase == .pending
  { busy := nextBusy
    pending := phase == .pending
    sawQueueEvidence :=
      if nextBusy && (state.busy && !state.pending && phase == .pending) then true else state.sawQueueEvidence
    deadline := if nextBusy then none else state.deadline }

def noteTurnBoundary (state : TerminalIdleState) (now graceMs : Int) : TerminalIdleState :=
  if state.busy then { state with sawQueueEvidence := true } else { state with deadline := some (now + graceMs) }

def noteBusy (state : TerminalIdleState) : TerminalIdleState := { state with deadline := none }

def noteActivity (state : TerminalIdleState) (now graceMs : Int) : TerminalIdleState :=
  { state with deadline := state.deadline.map fun deadline => max deadline (now + graceMs) }

def lapsed (state : TerminalIdleState) (now : Int) : Bool := state.deadline.any (· ≤ now)

/-- What the expiry of one terminal emits. A busy terminal loses its window and emits nothing. -/
def emits (state : TerminalIdleState) (now : Int) : Option TerminalIdleReason :=
  if state.lapsed now && !state.busy then
    some (if state.sawQueueEvidence then .queueEmpty else .grace)
  else none

def expired (state : TerminalIdleState) (now : Int) : TerminalIdleState :=
  if state.lapsed now then
    { state with
      deadline := none
      sawQueueEvidence := state.busy && state.sawQueueEvidence }
  else state

end TerminalIdleState

structure IdleGate where
  states : Table String TerminalIdleState
  graceMs : Int

inductive GateNote where
  | phase (terminalId : String) (phase : IdleGatePhase)
  | turnBoundary (terminalId : String) (now : Int)
  | busy (terminalId : String)
  | activity (terminalId : String) (now : Int)
  | exit (terminalId : String)
  | expire (now : Int)
deriving DecidableEq, Repr

namespace IdleGate

def withGraceMs (graceMs : Int) : IdleGate := ⟨∅,graceMs⟩

/-- The state of a terminal, as it is entered when the gate does not know it. -/
def stateOf (gate : IdleGate) (terminalId : String) : TerminalIdleState := (gate.states.lookup terminalId).getD {}

def entered (gate : IdleGate) (terminalId : String) (change : TerminalIdleState → TerminalIdleState) : IdleGate :=
  { gate with states := gate.states.insert terminalId (change (gate.stateOf terminalId)) }

/-- The change made to a terminal the gate knows. -/
def modified (gate : IdleGate) (terminalId : String) (change : TerminalIdleState → TerminalIdleState) : IdleGate :=
  match gate.states.lookup terminalId with
  | some state => { gate with states := gate.states.insert terminalId (change state) }
  | none => gate

def notePhase (gate : IdleGate) (terminalId : String) (phase : IdleGatePhase) : IdleGate :=
  gate.entered terminalId (·.notePhase phase)

def noteTurnBoundary (gate : IdleGate) (terminalId : String) (now : Int) : IdleGate :=
  gate.entered terminalId (·.noteTurnBoundary now gate.graceMs)

def noteBusy (gate : IdleGate) (terminalId : String) : IdleGate := gate.modified terminalId (·.noteBusy)

def noteActivity (gate : IdleGate) (terminalId : String) (now : Int) : IdleGate :=
  gate.modified terminalId (·.noteActivity now gate.graceMs)

def noteExit (gate : IdleGate) (terminalId : String) : IdleGate :=
  { gate with states := gate.states.erase terminalId }

/-- The emissions that are due, and the gate without their windows. -/
def expire (gate : IdleGate) (now : Int) : List IdleEmission × IdleGate :=
  (gate.states.entries.filterMap fun entry => (entry.2.emits now).map fun reason => ⟨entry.1,now,reason⟩,
    { gate with states := mapValues (fun _ state => state.expired now) gate.states })

def note (gate : IdleGate) : GateNote → IdleGate
  | .phase terminalId phase => gate.notePhase terminalId phase
  | .turnBoundary terminalId now => gate.noteTurnBoundary terminalId now
  | .busy terminalId => gate.noteBusy terminalId
  | .activity terminalId now => gate.noteActivity terminalId now
  | .exit terminalId => gate.noteExit terminalId
  | .expire now => (gate.expire now).2

def after (graceMs : Int) (history : List GateNote) : IdleGate := history.foldl note (withGraceMs graceMs)

end IdleGate

/-! What a history says of a terminal. -/

/-- The phase last reported for the terminal since it last exited. -/
def reported (terminalId : String) (history : List GateNote) : Option IdleGatePhase :=
  history.foldl (fun phase note =>
    match note with
    | .phase id next => if id = terminalId then some next else phase
    | .exit id => if id = terminalId then none else phase
    | _ => phase) none

def ReportedBusy (terminalId : String) (history : List GateNote) : Prop :=
  reported terminalId history = some .busy ∨ reported terminalId history = some .pending

def QuietBoundary (terminalId : String) (before : List GateNote) (now : Int) (note : GateNote) : Prop :=
  note = .turnBoundary terminalId now ∧ ¬ReportedBusy terminalId before

/-- The expiry at this time emits for the terminal. -/
def Emits (graceMs : Int) (terminalId : String) (before : List GateNote) (now : Int) : Prop :=
  terminalId ∈ ((IdleGate.after graceMs before).expire now).1.map (·.terminalId)

/-- What ends a window: a report of busy or pending, a provisional busy note, an exit or an emission. -/
def Cancels (graceMs : Int) (terminalId : String) (before : List GateNote) (note : GateNote) : Prop :=
  note = .phase terminalId .busy ∨ note = .phase terminalId .pending ∨ note = .busy terminalId ∨
    note = .exit terminalId ∨ ∃ now, note = .expire now ∧ Emits graceMs terminalId before now

/-- A window has run out at the time: the latest quiet boundary is the grace back, every later
    activity is too, and nothing since has ended the window. -/
def Due (graceMs : Int) (terminalId : String) (now : Int) : List GateNote → Prop :=
  Since (fun before note => ∃ boundary, QuietBoundary terminalId before boundary note ∧ boundary + graceMs ≤ now)
    fun before note => ¬(∃ boundary, QuietBoundary terminalId before boundary note) ∧
      ¬Cancels graceMs terminalId before note ∧
      ∀ noted, note = .activity terminalId noted → noted + graceMs ≤ now

/-- A boundary while the terminal is reported busy, or a report of pending that follows one of
    busy, was seen since the last emission or exit. -/
def QueueEvidence (graceMs : Int) (terminalId : String) : List GateNote → Prop :=
  Since (fun before note =>
      ((∃ boundary, note = .turnBoundary terminalId boundary) ∧ ReportedBusy terminalId before) ∨
      (note = .phase terminalId .pending ∧ reported terminalId before = some .busy))
    fun before note => note ≠ .exit terminalId ∧
      ¬∃ now, note = .expire now ∧ Emits graceMs terminalId before now

/-! The calls, seen from one terminal. -/

/-- What a call does to the state of one terminal. -/
def TerminalIdleState.note (terminalId : String) (graceMs : Int) (state : TerminalIdleState) :
    GateNote → TerminalIdleState
  | .phase id phase => if id = terminalId then state.notePhase phase else state
  | .turnBoundary id now => if id = terminalId then state.noteTurnBoundary now graceMs else state
  | .busy id => if id = terminalId then state.noteBusy else state
  | .activity id now => if id = terminalId then state.noteActivity now graceMs else state
  | .exit id => if id = terminalId then {} else state
  | .expire now => state.expired now

namespace IdleGate
variable {gate : IdleGate} {terminalId : String}

theorem stateOf_entered (other : String) (change : TerminalIdleState → TerminalIdleState) :
    (gate.entered other change).stateOf terminalId =
      if other = terminalId then change (gate.stateOf terminalId) else gate.stateOf terminalId := by
  simp only [entered,stateOf,lookup_insert]
  by_cases same : other = terminalId
  · subst same
    simp
  · rw [if_neg (Ne.symm same),if_neg same]

theorem stateOf_modified (other : String) {change : TerminalIdleState → TerminalIdleState} (fresh : change {} = {}) :
    (gate.modified other change).stateOf terminalId =
      if other = terminalId then change (gate.stateOf terminalId) else gate.stateOf terminalId := by
  simp only [modified]
  cases known : gate.states.lookup other with
  | none =>
    by_cases same : other = terminalId
    · subst same
      simp [stateOf,known,fresh]
    · rw [if_neg same]
  | some state =>
    simp only [stateOf,lookup_insert]
    by_cases same : other = terminalId
    · subst same
      simp [known]
    · rw [if_neg (Ne.symm same),if_neg same]

@[simp] theorem graceMs_note (note : GateNote) : (gate.note note).graceMs = gate.graceMs := by
  cases note with
  | phase | turnBoundary | exit | expire => rfl
  | busy id =>
    simp only [IdleGate.note,noteBusy,modified]
    split
    · rfl
    · rfl
  | activity id now =>
    simp only [IdleGate.note,noteActivity,modified]
    split
    · rfl
    · rfl

theorem stateOf_note (note : GateNote) :
    (gate.note note).stateOf terminalId = (gate.stateOf terminalId).note terminalId gate.graceMs note := by
  cases note with
  | phase id phase => exact stateOf_entered id _
  | turnBoundary id now => exact stateOf_entered id _
  | busy id => exact stateOf_modified id rfl
  | activity id now => exact stateOf_modified id rfl
  | exit id =>
    simp only [IdleGate.note,noteExit,stateOf,lookup_erase,TerminalIdleState.note]
    by_cases same : id = terminalId
    · subst same
      simp
    · rw [if_neg (Ne.symm same),if_neg same]
  | expire now =>
    simp only [IdleGate.note,expire,stateOf,lookup_mapValues,TerminalIdleState.note]
    cases gate.states.lookup terminalId with
    | none => rfl
    | some state => rfl

theorem mem_expire {now : Int} {emission : IdleEmission} :
    emission ∈ (gate.expire now).1 ↔
      emission.emittedAt = now ∧ (gate.stateOf emission.terminalId).emits now = some emission.reason := by
  simp only [expire,List.mem_filterMap,Option.map_eq_some_iff]
  constructor
  · rintro ⟨⟨id,state⟩,listed,reason,emits,rfl⟩
    have known : gate.states.lookup id = some state := AList.mem_lookup_iff.mpr listed
    exact ⟨rfl,by simpa [stateOf,known] using emits⟩
  · rintro ⟨rfl,emits⟩
    cases known : gate.states.lookup emission.terminalId with
    | none => simp [stateOf,known,TerminalIdleState.emits,TerminalIdleState.lapsed] at emits
    | some state =>
      exact ⟨⟨emission.terminalId,state⟩,AList.mem_lookup_iff.mp known,emission.reason,
        by simpa [stateOf,known] using emits,rfl⟩

theorem expire_distinct (gate : IdleGate) (now : Int) : ((gate.expire now).1.map (·.terminalId)).Nodup := by
  refine nodup_filterMap_keys
    (fun id (state : TerminalIdleState) => (state.emits now).map fun reason => (⟨id,now,reason⟩ : IdleEmission))
    IdleEmission.terminalId ?_ gate.states
  rintro id state emission picked
  obtain ⟨reason,_,rfl⟩ := Option.map_eq_some_iff.mp picked
  rfl

theorem emits_iff {graceMs now : Int} {before : List GateNote} :
    Emits graceMs terminalId before now ↔ (((after graceMs before).stateOf terminalId).emits now).isSome := by
  simp only [Emits,List.mem_map,mem_expire,Option.isSome_iff_exists]
  constructor
  · rintro ⟨emission,⟨_,emits⟩,rfl⟩
    exact ⟨emission.reason,emits⟩
  · rintro ⟨reason,emits⟩
    exact ⟨⟨terminalId,now,reason⟩,⟨rfl,emits⟩,rfl⟩

@[simp] theorem after_concat (graceMs : Int) (history : List GateNote) (note : GateNote) :
    after graceMs (history ++ [note]) = (after graceMs history).note note := by
  simp [after]

@[simp] theorem graceMs_after (graceMs : Int) (history : List GateNote) : (after graceMs history).graceMs = graceMs := by
  induction history using List.reverseRecOn with
  | nil => rfl
  | append_singleton history note ih => simp [ih]

end IdleGate

@[simp] theorem reported_concat (terminalId : String) (history : List GateNote) (note : GateNote) :
    reported terminalId (history ++ [note]) =
      match note with
      | .phase id next => if id = terminalId then some next else reported terminalId history
      | .exit id => if id = terminalId then none else reported terminalId history
      | _ => reported terminalId history := by
  simp only [reported,List.foldl_append,List.foldl_cons,List.foldl_nil]

section
variable {graceMs now : Int} {terminalId : String} {history : List GateNote} {note : GateNote}

theorem due_concat : Due graceMs terminalId now (history ++ [note]) ↔
    (∃ boundary, QuietBoundary terminalId history boundary note ∧ boundary + graceMs ≤ now) ∨
      (Due graceMs terminalId now history ∧ ¬(∃ boundary, QuietBoundary terminalId history boundary note) ∧
        ¬Cancels graceMs terminalId history note ∧
        ∀ noted, note = .activity terminalId noted → noted + graceMs ≤ now) := since_concat

theorem evidence_concat : QueueEvidence graceMs terminalId (history ++ [note]) ↔
    (((∃ boundary, note = .turnBoundary terminalId boundary) ∧ ReportedBusy terminalId history) ∨
      (note = .phase terminalId .pending ∧ reported terminalId history = some .busy)) ∨
    (QueueEvidence graceMs terminalId history ∧ note ≠ .exit terminalId ∧
      ¬∃ now, note = .expire now ∧ Emits graceMs terminalId history now) := since_concat

theorem not_due_of_cancels (cancels : Cancels graceMs terminalId history note)
    (boundary : ∀ now, note ≠ .turnBoundary terminalId now) : ¬Due graceMs terminalId now (history ++ [note]) := by
  rw [due_concat]
  rintro (⟨armed,⟨same,_⟩,_⟩ | ⟨_,_,still,_⟩)
  · exact boundary armed same
  · exact still cancels

end

/-- The flags of a terminal are a summary of its history. -/
structure Remembers (graceMs : Int) (terminalId : String) (history : List GateNote) (state : TerminalIdleState) : Prop where
  busy : state.busy = true ↔ ReportedBusy terminalId history
  pending : state.pending = true ↔ reported terminalId history = some .pending
  quiet : state.busy = true → state.deadline = none
  lapsed : ∀ now, state.lapsed now = true ↔ Due graceMs terminalId now history
  evidence : state.sawQueueEvidence = true ↔ QueueEvidence graceMs terminalId history

namespace Remembers
variable {graceMs : Int} {terminalId : String} {history : List GateNote} {state : TerminalIdleState}

theorem fresh (graceMs : Int) (terminalId : String) : Remembers graceMs terminalId [] {} where
  busy := by simp [ReportedBusy,reported]
  pending := by simp [reported]
  quiet _ := rfl
  lapsed now := by simp [Due,TerminalIdleState.lapsed]
  evidence := by simp [QueueEvidence]

theorem foreign (remembers : Remembers graceMs terminalId history state) {note : GateNote}
    (reports : reported terminalId (history ++ [note]) = reported terminalId history)
    (boundary : ∀ now, note ≠ .turnBoundary terminalId now) (activity : ∀ now, note ≠ .activity terminalId now)
    (pends : note ≠ .phase terminalId .pending) (exits : note ≠ .exit terminalId)
    (cancels : ¬Cancels graceMs terminalId history note) : Remembers graceMs terminalId (history ++ [note]) state where
  busy := by
    rw [ReportedBusy,reports]
    exact remembers.busy
  pending := by
    rw [reports]
    exact remembers.pending
  quiet := remembers.quiet
  lapsed now := by
    rw [remembers.lapsed,due_concat]
    simp [QuietBoundary,boundary,activity,cancels]
  evidence := by
    have silent : ¬∃ now, note = .expire now ∧ Emits graceMs terminalId history now := fun emits =>
      cancels (.inr (.inr (.inr (.inr emits))))
    rw [remembers.evidence,evidence_concat]
    simp [boundary,pends,exits,silent]

theorem reported_busy (remembers : Remembers graceMs terminalId history state) :
    reported terminalId history = some .busy ↔ state.busy = true ∧ state.pending = false := by
  rw [remembers.busy,← Bool.not_eq_true,remembers.pending,ReportedBusy]
  constructor
  · intro busy
    exact ⟨.inl busy,by simp [busy]⟩
  · rintro ⟨busy | pending,still⟩
    · exact busy
    · exact (still pending).elim

theorem phase (remembers : Remembers graceMs terminalId history state) (next : IdleGatePhase) :
    Remembers graceMs terminalId (history ++ [.phase terminalId next]) (state.notePhase next) where
  busy := by cases next <;> simp [TerminalIdleState.notePhase,ReportedBusy]
  pending := by cases next <;> simp [TerminalIdleState.notePhase]
  quiet := by cases next <;> simp [TerminalIdleState.notePhase]
  lapsed now := by
    cases next with
    | idle =>
      rw [due_concat,← remembers.lapsed]
      simp [QuietBoundary,Cancels,TerminalIdleState.notePhase,TerminalIdleState.lapsed]
    | busy =>
      have ended : ¬Due graceMs terminalId now (history ++ [.phase terminalId .busy]) :=
        not_due_of_cancels (.inl rfl) (by simp)
      simp [ended,TerminalIdleState.notePhase,TerminalIdleState.lapsed]
    | pending =>
      have ended : ¬Due graceMs terminalId now (history ++ [.phase terminalId .pending]) :=
        not_due_of_cancels (.inr (.inl rfl)) (by simp)
      simp [ended,TerminalIdleState.notePhase,TerminalIdleState.lapsed]
  evidence := by
    rw [evidence_concat,← remembers.evidence]
    cases next with
    | idle => simp [TerminalIdleState.notePhase]
    | busy => simp [TerminalIdleState.notePhase]
    | pending =>
      have edge := remembers.reported_busy
      simp [TerminalIdleState.notePhase,edge]

theorem turnBoundary (remembers : Remembers graceMs terminalId history state) (boundary : Int) :
    Remembers graceMs terminalId (history ++ [.turnBoundary terminalId boundary])
      (state.noteTurnBoundary boundary graceMs) := by
  by_cases busy : state.busy = true
  · have standing := remembers.busy.mp busy
    refine ⟨?_,?_,?_,fun now => ?_,?_⟩
    · simpa [TerminalIdleState.noteTurnBoundary,busy,ReportedBusy] using standing
    · simpa [TerminalIdleState.noteTurnBoundary,busy] using remembers.pending
    · simpa [TerminalIdleState.noteTurnBoundary,busy] using remembers.quiet busy
    · rw [due_concat,← remembers.lapsed]
      simp [TerminalIdleState.noteTurnBoundary,busy,QuietBoundary,standing,Cancels,TerminalIdleState.lapsed]
    · rw [evidence_concat]
      simp [TerminalIdleState.noteTurnBoundary,busy,standing]
  · have open_ : ¬ReportedBusy terminalId history := fun standing => busy (remembers.busy.mpr standing)
    refine ⟨?_,?_,?_,fun now => ?_,?_⟩
    · simpa [TerminalIdleState.noteTurnBoundary,busy,ReportedBusy] using open_
    · simpa [TerminalIdleState.noteTurnBoundary,busy] using remembers.pending
    · simp [TerminalIdleState.noteTurnBoundary,busy]
    · rw [due_concat]
      simp [TerminalIdleState.noteTurnBoundary,busy,QuietBoundary,open_,TerminalIdleState.lapsed]
    · rw [evidence_concat,← remembers.evidence]
      simp [TerminalIdleState.noteTurnBoundary,busy,open_]

theorem busyNote (remembers : Remembers graceMs terminalId history state) :
    Remembers graceMs terminalId (history ++ [.busy terminalId]) state.noteBusy where
  busy := by simpa [TerminalIdleState.noteBusy,ReportedBusy] using remembers.busy
  pending := by simpa [TerminalIdleState.noteBusy] using remembers.pending
  quiet _ := rfl
  lapsed now := by
    have ended : ¬Due graceMs terminalId now (history ++ [.busy terminalId]) :=
      not_due_of_cancels (.inr (.inr (.inl rfl))) (by simp)
    simp [ended,TerminalIdleState.noteBusy,TerminalIdleState.lapsed]
  evidence := by
    rw [evidence_concat,← remembers.evidence]
    simp [TerminalIdleState.noteBusy]

theorem activity (remembers : Remembers graceMs terminalId history state) (noted : Int) :
    Remembers graceMs terminalId (history ++ [.activity terminalId noted]) (state.noteActivity noted graceMs) where
  busy := by simpa [TerminalIdleState.noteActivity,ReportedBusy] using remembers.busy
  pending := by simpa [TerminalIdleState.noteActivity] using remembers.pending
  quiet busy := by simp [TerminalIdleState.noteActivity,remembers.quiet busy]
  lapsed now := by
    rw [due_concat,← remembers.lapsed]
    cases armed : state.deadline with
    | none => simp [TerminalIdleState.noteActivity,TerminalIdleState.lapsed,armed,QuietBoundary]
    | some deadline => simp [TerminalIdleState.noteActivity,TerminalIdleState.lapsed,armed,QuietBoundary,Cancels,Int.max_le]
  evidence := by
    rw [evidence_concat,← remembers.evidence]
    simp [TerminalIdleState.noteActivity]

theorem exit (graceMs : Int) (terminalId : String) (history : List GateNote) :
    Remembers graceMs terminalId (history ++ [.exit terminalId]) {} where
  busy := by simp [ReportedBusy]
  pending := by simp
  quiet _ := rfl
  lapsed now := by
    have ended : ¬Due graceMs terminalId now (history ++ [.exit terminalId]) :=
      not_due_of_cancels (.inr (.inr (.inr (.inl rfl)))) (by simp)
    simp [ended,TerminalIdleState.lapsed]
  evidence := by
    rw [evidence_concat]
    simp

theorem idle_of_lapsed (remembers : Remembers graceMs terminalId history state) {now : Int}
    (lapsed : state.lapsed now = true) : state.busy = false := by
  by_contra busy
  simp [TerminalIdleState.lapsed,remembers.quiet (Bool.not_eq_false _ ▸ busy)] at lapsed

theorem emits_iff (remembers : Remembers graceMs terminalId history state) (now : Int) :
    (state.emits now).isSome = state.lapsed now := by
  cases lapsed : state.lapsed now with
  | false => simp [TerminalIdleState.emits,lapsed]
  | true => simp [TerminalIdleState.emits,lapsed,remembers.idle_of_lapsed lapsed]

theorem expire (remembers : Remembers graceMs terminalId history state) {now : Int}
    (emits : Emits graceMs terminalId history now ↔ (state.emits now).isSome) :
    Remembers graceMs terminalId (history ++ [.expire now]) (state.expired now) := by
  rw [remembers.emits_iff] at emits
  by_cases lapsed : state.lapsed now = true
  · have emitted := emits.mpr lapsed
    have gone : state.expired now = { state with deadline := none, sawQueueEvidence := false } := by
      simp [TerminalIdleState.expired,lapsed,remembers.idle_of_lapsed lapsed]
    rw [gone]
    refine ⟨?_,?_,fun _ => rfl,fun later => ?_,?_⟩
    · simpa [ReportedBusy] using remembers.busy
    · simpa using remembers.pending
    · have ended : ¬Due graceMs terminalId later (history ++ [.expire now]) :=
        not_due_of_cancels (.inr (.inr (.inr (.inr ⟨now,rfl,emitted⟩)))) (by simp)
      simp [ended,TerminalIdleState.lapsed]
    · rw [evidence_concat]
      simp [emitted]
  · have silent : ¬Emits graceMs terminalId history now := fun emitted => lapsed (emits.mp emitted)
    have same : state.expired now = state := by simp [TerminalIdleState.expired,lapsed]
    rw [same]
    exact remembers.foreign (by simp) (by simp) (by simp) (by simp) (by simp) (by simp [Cancels,silent])

theorem note (remembers : Remembers graceMs terminalId history state) (note : GateNote)
    (emits : ∀ now, Emits graceMs terminalId history now ↔ (state.emits now).isSome) :
    Remembers graceMs terminalId (history ++ [note]) (state.note terminalId graceMs note) := by
  cases note with
  | phase id next =>
    by_cases same : id = terminalId
    · subst same
      simpa [TerminalIdleState.note] using remembers.phase next
    · simp only [TerminalIdleState.note,if_neg same]
      exact remembers.foreign (by simp [same]) (by simp) (by simp) (by simp [same]) (by simp) (by simp [Cancels,same])
  | turnBoundary id boundary =>
    by_cases same : id = terminalId
    · subst same
      simpa [TerminalIdleState.note] using remembers.turnBoundary boundary
    · simp only [TerminalIdleState.note,if_neg same]
      exact remembers.foreign (by simp) (by simp [same]) (by simp) (by simp) (by simp) (by simp [Cancels])
  | busy id =>
    by_cases same : id = terminalId
    · subst same
      simpa [TerminalIdleState.note] using remembers.busyNote
    · simp only [TerminalIdleState.note,if_neg same]
      exact remembers.foreign (by simp) (by simp) (by simp) (by simp) (by simp) (by simp [Cancels,same])
  | activity id noted =>
    by_cases same : id = terminalId
    · subst same
      simpa [TerminalIdleState.note] using remembers.activity noted
    · simp only [TerminalIdleState.note,if_neg same]
      exact remembers.foreign (by simp) (by simp) (by simp [same]) (by simp) (by simp) (by simp [Cancels])
  | exit id =>
    by_cases same : id = terminalId
    · subst same
      simpa [TerminalIdleState.note] using exit graceMs id history
    · simp only [TerminalIdleState.note,if_neg same]
      exact remembers.foreign (by simp [same]) (by simp) (by simp) (by simp) (by simp [same]) (by simp [Cancels,same])
  | expire now => exact remembers.expire (emits now)

end Remembers

theorem remembers (graceMs : Int) (terminalId : String) (history : List GateNote) :
    Remembers graceMs terminalId history ((IdleGate.after graceMs history).stateOf terminalId) := by
  induction history using List.reverseRecOn with
  | nil => exact .fresh graceMs terminalId
  | append_singleton history note ih =>
    rw [IdleGate.after_concat,IdleGate.stateOf_note,IdleGate.graceMs_after]
    exact ih.note note fun now => IdleGate.emits_iff

/-- An expiry emits for exactly the terminals whose window has run out, for each once, and the
    reason tells whether queue evidence was seen. -/
theorem expiries_exact (graceMs : Int) (history : List GateNote) (now : Int) :
    let emissions := ((IdleGate.after graceMs history).expire now).1
    (∀ terminalId, terminalId ∈ emissions.map (·.terminalId) ↔ Due graceMs terminalId now history) ∧
      (emissions.map (·.terminalId)).Nodup ∧
      ∀ emission ∈ emissions, emission.emittedAt = now ∧
        (emission.reason = .queueEmpty ↔ QueueEvidence graceMs emission.terminalId history) := by
  intro emissions
  refine ⟨fun terminalId => ?_,IdleGate.expire_distinct _ now,fun emission emitted => ?_⟩
  · have summary := remembers graceMs terminalId history
    rw [← summary.lapsed,← summary.emits_iff]
    exact IdleGate.emits_iff
  · obtain ⟨time,emits⟩ := IdleGate.mem_expire.mp emitted
    refine ⟨time,?_⟩
    rw [← (remembers graceMs emission.terminalId history).evidence]
    simp only [TerminalIdleState.emits] at emits
    split at emits
    · rw [← Option.some.inj emits]
      simp
    · cases emits

end Freshell.Activity.Idle
