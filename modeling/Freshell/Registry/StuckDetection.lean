import Freshell.Library.Emissions
import Freshell.Registry.World
import Freshell.Terminal.IdleNoise

/-!
The wedge backstop: a running agent pane that only repaints is flagged stuck, and
unflagged once it no longer does. Which viewers come and go, and which of them
claim the terminal, is nothing that the sweep sees.
-/
namespace Freshell.Registry
open Freshell.Library.Tables Freshell.Library.Emissions Freshell.Terminal

def DEFAULT_STUCK_WINDOW_MS : Int := 7200000
def STUCK_ACTIVITY_FRESH_MS : Int := 300000

/-- One change of a terminal's stuck flag, and the instant of the sweep. -/
structure StuckTransition where
  terminalId : String
  mode : String
  stuck : Bool
  instant : Int
deriving DecidableEq, Repr

/-- A row with its noise scanner, the clocks that only output moves, and the flag. -/
structure StuckRow where
  shared : TerminalShared
  noise : NoiseScanner
  lastOutputActivityAt : Int
  lastMeaningfulOutputAt : Int
  stuckSince : Option Int

namespace StuckRow

def registered (terminalId mode : String) (resumeSessionId : Option String) (createdAt : Int) (managed : Bool) : StuckRow where
  shared := .registered terminalId mode resumeSessionId createdAt managed
  noise := .new
  lastOutputActivityAt := createdAt
  lastMeaningfulOutputAt := createdAt
  stuckSince := none

def viewed (row : StuckRow) (op : RowOp) : StuckRow := { row with shared := row.shared.apply op }

def ingest (row : StuckRow) (data : String) (now : Int) : StuckRow :=
  let (noise,meaningful) := row.noise.observe data
  { row with
    shared := row.shared.ingest now meaningful
    noise := noise
    lastOutputActivityAt := now
    lastMeaningfulOutputAt := if meaningful then now else row.lastMeaningfulOutputAt }

/-- The managed output begins a new retained window. -/
def rewound (row : StuckRow) : StuckRow := { row with noise := .new }

def input (row : StuckRow) (now : Int) : StuckRow := { row with shared := row.shared.input now }

def setMeta (row : StuckRow) (mode resumeSessionId : Option String) : StuckRow :=
  { row with shared := { row.shared with
      mode := mode.getD row.shared.mode
      resumeSessionId := resumeSessionId.or row.shared.resumeSessionId } }

/-- `finish_pty_exit` and `finish_managed_exit`. -/
def finishExit (row : StuckRow) (exitCode now : Int) : StuckRow :=
  match row.shared.status with
  | .exited => row
  | .running =>
    { row with
      shared := row.shared.finishExit exitCode now
      lastOutputActivityAt := now
      lastMeaningfulOutputAt := now }

/-- An agent repaints, and nothing new has come for longer than the window. -/
def Wedged (row : StuckRow) (window now : Int) : Prop :=
  row.shared.status = .running ∧ isAgentMode row.shared.mode = true ∧
    window < saturating (now - row.lastMeaningfulOutputAt) ∧
    saturating (now - row.lastOutputActivityAt) < STUCK_ACTIVITY_FRESH_MS ∧
    row.lastMeaningfulOutputAt < row.lastOutputActivityAt

instance (row : StuckRow) (window now : Int) : Decidable (row.Wedged window now) :=
  inferInstanceAs (Decidable (_ ∧ _ ∧ _ ∧ _ ∧ _))

def transition (row : StuckRow) (stuck : Bool) (now : Int) : StuckTransition :=
  ⟨row.shared.terminalId,row.shared.mode,stuck,now⟩

/-- What the sweep does to one row, under its lock. -/
def sweep (row : StuckRow) (window now : Int) : StuckRow × Option StuckTransition :=
  match row.stuckSince, decide (row.Wedged window now) with
  | none, true => ({ row with stuckSince := some now },some (row.transition true now))
  | some _, false => ({ row with stuckSince := none },some (row.transition false now))
  | _, _ => (row,none)

end StuckRow

structure StuckRegistry where
  rows : Table String StuckRow
  stuckWindowMs : Int

inductive StuckOp where
  | register (terminalId mode : String) (resumeSessionId : Option String) (createdAt : Int) (managed : Bool)
  | ingest (terminalId data : String) (now : Int)
  | rewind (terminalId : String)
  | input (terminalId : String) (now : Int)
  | setMeta (terminalId : String) (mode resumeSessionId : Option String)
  | finishExit (terminalId : String) (exitCode now : Int)
  | setStuckWindowMs (ms : Int)
  | enforceStuckDetection (now : Int)
  | attach (terminalId : String) (conn : ConnId) (attachRequestId : Option String) (pacedTerminalReplayV1 : Bool)
  | completePaced (terminalId : String) (conn : ConnId)
  | detach (terminalId : String) (conn : ConnId) (now : Int)
  | claimTerminal (terminalId : String) (conn : ConnId)
  | withdrawClaim (terminalId : String) (conn : ConnId) (now : Int)
  | removeConnection (conn : ConnId) (now : Int)

/-- The operations of those who watch a terminal or claim it. -/
def StuckOp.viewing : StuckOp → Bool
  | .attach .. | .completePaced .. | .detach .. | .claimTerminal .. | .withdrawClaim .. | .removeConnection .. => true
  | _ => false

namespace StuckRegistry

def new : StuckRegistry := ⟨∅,DEFAULT_STUCK_WINDOW_MS⟩

def withRows (s : StuckRegistry) (rows : Table String StuckRow) : StuckRegistry := { s with rows := rows }

/-- The row of the id changed in place; an unknown id changes nothing. -/
def onRow (s : StuckRegistry) (terminalId : String) (change : StuckRow → StuckRow) : StuckRegistry :=
  s.withRows (mapValues (fun id row => if id = terminalId then change row else row) s.rows)

/-- A fresh row. Ids are minted for the terminal, so an id that is there is not
    registered again. -/
def register (s : StuckRegistry) (terminalId : String) (row : StuckRow) : StuckRegistry :=
  if terminalId ∈ s.rows then s else s.withRows (s.rows.insert terminalId row)

/-- Every row is swept, and the transitions are sorted by terminal. -/
def enforceStuckDetection (s : StuckRegistry) (now : Int) : StuckRegistry × List StuckTransition :=
  if s.stuckWindowMs ≤ 0 then (s,[])
  else
    (s.withRows (mapValues (fun _ row => (row.sweep s.stuckWindowMs now).1) s.rows),
      (s.rows.entries.filterMap fun entry => (entry.2.sweep s.stuckWindowMs now).2).mergeSort
        fun first second => decide (first.terminalId ≤ second.terminalId))

/-- The registry after an operation, and the transitions that it emits. -/
def next (s : StuckRegistry) : StuckOp → StuckRegistry × List StuckTransition
  | .register terminalId mode resumeSessionId createdAt managed =>
    (s.register terminalId (.registered terminalId mode resumeSessionId createdAt managed),[])
  | .ingest terminalId data now => (s.onRow terminalId (·.ingest data now),[])
  | .rewind terminalId => (s.onRow terminalId (·.rewound),[])
  | .input terminalId now => (s.onRow terminalId (·.input now),[])
  | .setMeta terminalId mode resumeSessionId => (s.onRow terminalId (·.setMeta mode resumeSessionId),[])
  | .finishExit terminalId exitCode now => (s.onRow terminalId (·.finishExit exitCode now),[])
  | .setStuckWindowMs ms => ({ s with stuckWindowMs := ms },[])
  | .enforceStuckDetection now => s.enforceStuckDetection now
  | .attach terminalId conn request paced => (s.onRow terminalId (·.viewed (.attach conn request paced)),[])
  | .completePaced terminalId conn => (s.onRow terminalId (·.viewed (.completePaced conn)),[])
  | .detach terminalId conn now => (s.onRow terminalId (·.viewed (.detach conn now)),[])
  | .claimTerminal terminalId conn => (s.onRow terminalId (·.viewed (.claimTerminal conn)),[])
  | .withdrawClaim terminalId conn now => (s.onRow terminalId (·.viewed (.withdrawClaim conn now)),[])
  | .removeConnection conn now =>
    (s.withRows (mapValues (fun _ row => row.viewed (.removeConnection conn now)) s.rows),[])

end StuckRegistry

def RowOp.viewing : RowOp → Bool
  | .attach .. | .completePaced .. | .detach .. | .claimTerminal .. | .withdrawClaim .. | .removeConnection .. => true
  | _ => false

def TerminalShared.unviewed (row : TerminalShared) : TerminalShared :=
  { row with lastMeaningfulActivityAt := 0, subscribers := ∅, claims := ∅, releasedByClient := false }

theorem TerminalShared.unviewed_apply (row : TerminalShared) {op : RowOp} (viewing : op.viewing = true) :
    (row.apply op).unviewed = row.unviewed := by
  cases op with
  | attach conn request paced =>
    simp only [apply,attach]
    split <;> rfl
  | completePaced conn =>
    simp only [apply,completePaced]
    split
    · rfl
    · split <;> rfl
  | detach conn now =>
    simp only [apply,detach]
    split
    · split <;> rfl
    · rfl
  | claimTerminal conn => rfl
  | withdrawClaim conn now =>
    simp only [apply,withdrawClaim]
    split
    · split <;> rfl
    · rfl
  | removeConnection conn now =>
    simp only [apply,removeConnection]
    split <;> rfl
  | _ => cases viewing

namespace StuckRow
variable {first second row : StuckRow}

def unviewed (row : StuckRow) : StuckRow := { row with shared := row.shared.unviewed }

theorem unviewed_viewed (row : StuckRow) {op : RowOp} (viewing : op.viewing = true) :
    (row.viewed op).unviewed = row.unviewed := by
  simp only [unviewed,viewed,TerminalShared.unviewed_apply _ viewing]

theorem unviewed_ingest (row : StuckRow) (data : String) (now : Int) :
    (row.ingest data now).unviewed = (row.unviewed.ingest data now).unviewed := rfl

theorem unviewed_setMeta (row : StuckRow) (mode resumeSessionId : Option String) :
    (row.setMeta mode resumeSessionId).unviewed = (row.unviewed.setMeta mode resumeSessionId).unviewed := rfl

theorem unviewed_finishExit (row : StuckRow) (exitCode now : Int) :
    (row.finishExit exitCode now).unviewed = (row.unviewed.finishExit exitCode now).unviewed := by
  obtain running | exited := row.shared.running_or_exited
  · simp [finishExit,unviewed,TerminalShared.unviewed,TerminalShared.finishExit,running]
  · simp [finishExit,unviewed,TerminalShared.unviewed,exited]

theorem sweep_unviewed (row : StuckRow) (window now : Int) :
    (row.unviewed.sweep window now).2 = (row.sweep window now).2 ∧
      (row.unviewed.sweep window now).1.unviewed = (row.sweep window now).1.unviewed := by
  have wedged : decide (row.unviewed.Wedged window now) = decide (row.Wedged window now) := rfl
  have since : row.unviewed.stuckSince = row.stuckSince := rfl
  simp only [sweep,wedged,since]
  split <;> exact ⟨rfl,rfl⟩

theorem sweep_edge (row : StuckRow) (window now : Int) :
    (row.sweep window now).2.map (·.stuck) =
      if (row.sweep window now).1.stuckSince.isSome = row.stuckSince.isSome then none
      else some (row.sweep window now).1.stuckSince.isSome := by
  cases since : row.stuckSince with
  | none =>
    by_cases wedged : row.Wedged window now
    · simp [sweep,since,wedged,transition]
    · simp [sweep,since,wedged]
  | some began =>
    by_cases wedged : row.Wedged window now
    · simp [sweep,since,wedged]
    · simp [sweep,since,wedged,transition]

theorem sweep_terminalId (row : StuckRow) (window now : Int) :
    (row.sweep window now).1.shared.terminalId = row.shared.terminalId := by
  unfold sweep
  split <;> rfl

theorem sweep_named {window now : Int} {transition : StuckTransition} (emits : (row.sweep window now).2 = some transition) :
    transition.terminalId = row.shared.terminalId := by
  unfold sweep at emits
  split at emits
  · cases emits
    rfl
  · cases emits
    rfl
  · cases emits

end StuckRow

namespace StuckRegistry
variable {first second s : StuckRegistry}

def unviewed (s : StuckRegistry) : StuckRegistry := s.withRows (mapValues (fun _ row => row.unviewed) s.rows)

theorem unviewed_onRow {change : StuckRow → StuckRow} (blind : ∀ row, (change row).unviewed = (change row.unviewed).unviewed)
    (s : StuckRegistry) (terminalId : String) :
    (s.onRow terminalId change).unviewed = (s.unviewed.onRow terminalId change).unviewed := by
  simp only [onRow,unviewed,withRows,mapValues_mapValues]
  congr 2
  funext id row
  split
  · exact blind row
  · rfl

theorem unviewed_onRow_viewed {op : RowOp} (viewing : op.viewing = true) (s : StuckRegistry) (terminalId : String) :
    (s.onRow terminalId (·.viewed op)).unviewed = s.unviewed := by
  simp only [onRow,unviewed,withRows,mapValues_mapValues]
  congr 2
  funext id row
  split
  · exact row.unviewed_viewed viewing
  · rfl

theorem unviewed_register (s : StuckRegistry) (terminalId : String) (row : StuckRow) :
    (s.register terminalId row).unviewed = (s.unviewed.register terminalId row).unviewed := by
  by_cases known : terminalId ∈ s.rows
  · simp [register,unviewed,withRows,known,mapValues_mapValues,StuckRow.unviewed,TerminalShared.unviewed]
  · simp [register,unviewed,withRows,known,mapValues_insert,mapValues_mapValues,StuckRow.unviewed,TerminalShared.unviewed]

theorem unviewed_enforce (s : StuckRegistry) (now : Int) :
    (s.enforceStuckDetection now).2 = (s.unviewed.enforceStuckDetection now).2 ∧
      (s.enforceStuckDetection now).1.unviewed = (s.unviewed.enforceStuckDetection now).1.unviewed := by
  have window : s.unviewed.stuckWindowMs = s.stuckWindowMs := rfl
  by_cases off : s.stuckWindowMs ≤ 0
  · simp only [enforceStuckDetection,if_pos off,unviewed,withRows,mapValues_mapValues,true_and]
    rfl
  · simp only [enforceStuckDetection,window,if_neg off]
    constructor
    · congr 1
      simp only [unviewed,withRows,mapValues,List.filterMap_map,Function.comp_def,(StuckRow.sweep_unviewed _ _ _).1]
    · simp only [unviewed,withRows,mapValues_mapValues,(StuckRow.sweep_unviewed _ _ _).2]

theorem unwinding : Unwinding next StuckOp.viewing unviewed where
  silent s op viewing := by
    cases op with
    | attach terminalId conn request paced => exact ⟨rfl,unviewed_onRow_viewed rfl s terminalId⟩
    | completePaced terminalId conn => exact ⟨rfl,unviewed_onRow_viewed rfl s terminalId⟩
    | detach terminalId conn now => exact ⟨rfl,unviewed_onRow_viewed rfl s terminalId⟩
    | claimTerminal terminalId conn => exact ⟨rfl,unviewed_onRow_viewed rfl s terminalId⟩
    | withdrawClaim terminalId conn now => exact ⟨rfl,unviewed_onRow_viewed rfl s terminalId⟩
    | removeConnection conn now =>
      refine ⟨rfl,?_⟩
      have removed (row : StuckRow) : (row.viewed (.removeConnection conn now)).unviewed = row.unviewed :=
        row.unviewed_viewed rfl
      simp only [next,unviewed,withRows,mapValues_mapValues,removed]
    | _ => cases viewing
  blind first second op unseen same := by
    have onRow (terminalId : String) {change : StuckRow → StuckRow}
        (blind : ∀ row, (change row).unviewed = (change row.unviewed).unviewed) :
        (first.onRow terminalId change).unviewed = (second.onRow terminalId change).unviewed := by
      rw [unviewed_onRow blind first,unviewed_onRow blind second,same]
    cases op with
    | register terminalId mode resume createdAt managed =>
      refine ⟨rfl,?_⟩
      show (first.register terminalId _).unviewed = (second.register terminalId _).unviewed
      rw [unviewed_register first,unviewed_register second,same]
    | ingest terminalId data now => exact ⟨rfl,onRow terminalId fun row => row.unviewed_ingest data now⟩
    | rewind terminalId => exact ⟨rfl,onRow terminalId fun _ => rfl⟩
    | input terminalId now => exact ⟨rfl,onRow terminalId fun _ => rfl⟩
    | setMeta terminalId mode resume => exact ⟨rfl,onRow terminalId fun row => row.unviewed_setMeta mode resume⟩
    | finishExit terminalId exitCode now => exact ⟨rfl,onRow terminalId fun row => row.unviewed_finishExit exitCode now⟩
    | setStuckWindowMs ms => exact ⟨rfl,congrArg (fun s : StuckRegistry => { s with stuckWindowMs := ms }) same⟩
    | enforceStuckDetection now =>
      obtain ⟨emits,kept⟩ := first.unviewed_enforce now
      obtain ⟨emits',kept'⟩ := second.unviewed_enforce now
      exact ⟨emits.trans (same ▸ emits'.symm),kept.trans (same ▸ kept'.symm)⟩
    | _ => cases unseen

def Named (s : StuckRegistry) : Prop := ∀ id row, s.rows.lookup id = some row → row.shared.terminalId = id

def flagged (s : StuckRegistry) (terminalId : String) : Bool := ((s.rows.lookup terminalId).bind (·.stuckSince)).isSome

/-- The edge of one terminal's flag that a transition tells. -/
def edge (terminalId : String) (transition : StuckTransition) : Option Bool :=
  if transition.terminalId = terminalId then some transition.stuck else none

theorem Named.onRow (named : s.Named) (terminalId : String) {change : StuckRow → StuckRow}
    (kept : ∀ row, (change row).shared.terminalId = row.shared.terminalId) : (s.onRow terminalId change).Named := by
  intro id row found
  simp only [StuckRegistry.onRow,withRows,lookup_mapValues,Option.map_eq_some_iff] at found
  obtain ⟨before,was,rfl⟩ := found
  split
  · rw [kept,named id before was]
  · exact named id before was

theorem Named.next (named : s.Named) (op : StuckOp) : (s.next op).1.Named := by
  cases op with
  | register terminalId mode resume createdAt managed =>
    intro id row found
    simp only [StuckRegistry.next,register] at found
    split at found
    · exact named id row found
    · simp only [withRows,lookup_insert] at found
      split at found
      · next same =>
        cases found
        exact same.symm
      · exact named id row found
  | ingest terminalId data now => exact named.onRow terminalId fun _ => rfl
  | rewind terminalId => exact named.onRow terminalId fun _ => rfl
  | input terminalId now => exact named.onRow terminalId fun _ => rfl
  | setMeta terminalId mode resume => exact named.onRow terminalId fun _ => rfl
  | finishExit terminalId exitCode now =>
    refine named.onRow terminalId fun row => ?_
    simp only [StuckRow.finishExit]
    split
    · rfl
    · exact row.shared.apply_terminalId (.finishExit exitCode now)
  | setStuckWindowMs ms => exact named
  | enforceStuckDetection now =>
    simp only [StuckRegistry.next,enforceStuckDetection]
    split
    · exact named
    · intro id row found
      simp only [withRows,lookup_mapValues,Option.map_eq_some_iff] at found
      obtain ⟨before,was,rfl⟩ := found
      rw [StuckRow.sweep_terminalId,named id before was]
  | removeConnection conn now =>
    intro id row found
    simp only [StuckRegistry.next,withRows,lookup_mapValues,Option.map_eq_some_iff] at found
    obtain ⟨before,was,rfl⟩ := found
    exact (before.shared.apply_terminalId _).trans (named id before was)
  | _ => exact named.onRow _ fun row => row.shared.apply_terminalId _

theorem flagged_onRow (s : StuckRegistry) (id terminalId : String) {change : StuckRow → StuckRow}
    (kept : ∀ row, (change row).stuckSince = row.stuckSince) : (s.onRow terminalId change).flagged id = s.flagged id := by
  simp only [onRow,withRows,flagged,lookup_mapValues]
  cases s.rows.lookup id with
  | none => rfl
  | some row =>
    simp only [Option.map_some,Option.bind_some]
    split
    · rw [kept]
    · rfl

theorem enforce_edge (named : s.Named) (terminalId : String) (now : Int) :
    (s.enforceStuckDetection now).2.filterMap (edge terminalId) =
      if (s.enforceStuckDetection now).1.flagged terminalId = s.flagged terminalId then []
      else [(s.enforceStuckDetection now).1.flagged terminalId] := by
  by_cases off : s.stuckWindowMs ≤ 0
  · simp [enforceStuckDetection,off]
  · simp only [enforceStuckDetection,if_neg off]
    have sorted := (List.mergeSort_perm (s.rows.entries.filterMap fun entry => (entry.2.sweep s.stuckWindowMs now).2)
      fun first second => decide (first.terminalId ≤ second.terminalId)).filterMap (edge terminalId)
    -- of what the rows emit, the terminal's own row emits its edges
    have own : (s.rows.entries.filterMap fun entry => (entry.2.sweep s.stuckWindowMs now).2).filterMap (edge terminalId) =
        ((s.rows.lookup terminalId).bind fun row => (row.sweep s.stuckWindowMs now).2.map (·.stuck)).toList := by
      rw [List.filterMap_filterMap,← filterMap_entry]
      apply List.filterMap_congr
      intro entry listed
      have name := named entry.1 entry.2 (AList.mem_lookup_iff.mpr listed)
      cases emits : (entry.2.sweep s.stuckWindowMs now).2 with
      | none => simp
      | some transition =>
        have same := StuckRow.sweep_named emits
        simp only [Option.bind_some,edge,same,name,Option.map_some]
    rw [own] at sorted
    simp only [withRows,flagged,lookup_mapValues]
    cases held : s.rows.lookup terminalId with
    | none =>
      rw [held] at sorted
      simpa using sorted
    | some row =>
      rw [held,Option.bind_some,row.sweep_edge] at sorted
      simp only [Option.map_some,Option.bind_some]
      split
      · next same =>
        rw [if_pos same] at sorted
        exact List.Perm.eq_nil sorted
      · next turned =>
        rw [if_neg turned] at sorted
        exact List.perm_singleton.mp sorted

theorem next_edge (named : s.Named) (terminalId : String) (op : StuckOp) :
    (s.next op).2.filterMap (edge terminalId) =
      if (s.next op).1.flagged terminalId = s.flagged terminalId then [] else [(s.next op).1.flagged terminalId] := by
  have quiet {after : StuckRegistry} (kept : after.flagged terminalId = s.flagged terminalId) :
      ([] : List StuckTransition).filterMap (edge terminalId) =
        if after.flagged terminalId = s.flagged terminalId then [] else [after.flagged terminalId] := by
    rw [if_pos kept]
    rfl
  cases op with
  | register id mode resume createdAt managed =>
    refine quiet ?_
    simp only [next,register]
    split
    · rfl
    · next absent =>
      simp only [flagged,withRows,lookup_insert]
      split
      · next same =>
        have nothing : s.rows.lookup id = none := AList.lookup_eq_none.mpr absent
        rw [same,nothing]
        rfl
      · rfl
  | ingest id data now => exact quiet (s.flagged_onRow _ id fun _ => rfl)
  | finishExit id exitCode now =>
    refine quiet (s.flagged_onRow _ id fun row => ?_)
    simp only [StuckRow.finishExit]
    split <;> rfl
  | setStuckWindowMs ms => exact quiet rfl
  | enforceStuckDetection now => exact enforce_edge named terminalId now
  | removeConnection conn now =>
    refine quiet ?_
    simp only [next,flagged,withRows,lookup_mapValues]
    cases s.rows.lookup terminalId with
    | none => rfl
    | some row => rfl
  | _ => exact quiet (s.flagged_onRow _ _ fun _ => rfl)

/-- The transitions of a run from a registry with no terminals. -/
def transitions (ops : List StuckOp) : List StuckTransition := emitted next new ops

/-- The operations of viewers, wherever they stand in a run, leave the transitions
    as they are, and of one terminal these are stuck and unstuck in turn. -/
theorem viewers_unseen (ops : List StuckOp) :
    transitions ops = transitions (ops.filter (!·.viewing)) ∧
      ∀ terminalId, Alternating true ((transitions ops).filterMap (edge terminalId)) := by
  constructor
  · exact unwinding.emitted_purged rfl ops
  · intro terminalId
    have initial : new.Named := by
      intro id row found
      cases found
    have turned (s : StuckRegistry) (op : StuckOp) (named : s.Named) := next_edge named terminalId op
    exact alternating_edges (flagged · terminalId) (fun _ op named => Named.next named op) turned initial ops

end StuckRegistry
end Freshell.Registry
