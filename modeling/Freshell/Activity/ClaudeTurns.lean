import Freshell.Activity.Claude
import Freshell.Library.Amortized
import Freshell.Library.Emissions

/-!
The turns of a Claude terminal, paid for by its submits: a turn in flight and a
provisional submit each stand for one submit, and a completion uses one up.
-/
namespace Freshell.Activity.Claude
open Freshell.Library.Amortized Freshell.Library.Emissions Freshell.Library.Runs Freshell.Library.Tables

/-- The numbers of the completions of a terminal among effects. -/
def seqsOf (terminalId : String) (effects : List ClaudeEffect) : List Nat :=
  effects.filterMap fun effect =>
    match effect with
    | .turnComplete id _ _ seq => if id = terminalId then some seq else none
    | _ => none

namespace TerminalActivity

def provisional (state : TerminalActivity) : Bool := state.phase = .busy && !state.busyConfirmed

/-- The submits that a terminal may still complete. -/
def load (state : TerminalActivity) : Nat := state.inFlight + if state.provisional then 1 else 0

/-- Turns are in flight exactly on a terminal that is busy with a confirmed one. -/
structure Sound (state : TerminalActivity) : Prop where
  idle : state.phase = .idle → state.inFlight = 0
  confirmed : state.phase = .busy → state.busyConfirmed = true → 0 < state.inFlight
  provisional : state.phase = .busy → state.busyConfirmed = false → state.inFlight = 0

end TerminalActivity

def ClaudeNote.submits : ClaudeNote → Bool
  | .input data _ _ => isSubmitInput data
  | _ => false

def ClaudeNote.settles : ClaudeNote → Bool
  | .input data _ confirmable => isSubmitInput data && !confirmable
  | _ => false

/-- A probe or a bell that confirms a provisional submit, or the answer that its turn ended. -/
def TerminalActivity.proves (state : TerminalActivity) : ClaudeNote → Bool
  | .submitConfirmed _ => true
  | .verifiedEnded _ => true
  | .output data _ => clearCount data state.parserState != 0
  | _ => false

namespace ClaudeActivityTracker

def provisional (tracker : ClaudeActivityTracker) (id : String) : Bool :=
  ((tracker.states.lookup id).map TerminalActivity.provisional).getD false

def picks (tracker : ClaudeActivityTracker) (test : TerminalActivity → ClaudeNote → Bool) (id : String) (op : ClaudeOp) :
    Bool :=
  match op with
  | .note other note => other == id && ((tracker.states.lookup id).map (test · note)).getD false
  | _ => false

def submitted (id : String) (tracker : ClaudeActivityTracker) (op : ClaudeOp) : Nat :=
  if tracker.picks (fun _ note => note.submits) id op then 1 else 0

def submits (tracker : ClaudeActivityTracker) (id : String) (ops : List ClaudeOp) : Nat :=
  tally next (submitted id) tracker ops

/-- As long as the terminal stays provisional, no step proves its submit. -/
def Unproven (id : String) : ClaudeActivityTracker → List ClaudeOp → Prop
  | _, [] => True
  | tracker, op :: rest =>
    tracker.provisional id = true → tracker.picks TerminalActivity.proves id op = false ∧ Unproven id (tracker.next op) rest

/-- The submits but for the repeated Enters of the provisional one. -/
def laterSubmits (id : String) : ClaudeActivityTracker → List ClaudeOp → Nat
  | _, [] => 0
  | tracker, op :: rest =>
    if tracker.provisional id then
      (if tracker.picks (fun _ note => note.settles) id op then 1 else 0) + laterSubmits id (tracker.next op) rest
    else tracker.submits id (op :: rest)

def load (tracker : ClaudeActivityTracker) (id : String) : Nat :=
  ((tracker.states.lookup id).map TerminalActivity.load).getD 0

def Sound (tracker : ClaudeActivityTracker) : Prop := ∀ id state, tracker.states.lookup id = some state → state.Sound

/-- The numbers of the completions of the terminal that the steps emit. -/
def completions (tracker : ClaudeActivityTracker) (id : String) (ops : List ClaudeOp) : List Nat :=
  seqsOf id (emitted step tracker ops)

end ClaudeActivityTracker

@[simp] theorem seqsOf_nil (id : String) : seqsOf id [] = [] := rfl

@[simp] theorem seqsOf_append (id : String) (first second : List ClaudeEffect) :
    seqsOf id (first ++ second) = seqsOf id first ++ seqsOf id second := List.filterMap_append

@[simp] theorem seqsOf_commitChange (id : String) (previous : Option ClaudeActivityRecord) (next : ClaudeActivityRecord) :
    seqsOf id (commitChange previous next) = [] := by
  simp only [commitChange]
  split
  · rfl
  · rfl

structure Records (terminalId : String) (ledger after : TurnCompletionLedger) (effects : List ClaudeEffect) : Prop where
  own : seqsOf terminalId effects =
    List.range' (ledger.seqOf terminalId + 1) (seqsOf terminalId effects).length
  other : ∀ id, id ≠ terminalId → seqsOf id effects = []
  ledger : ∀ id, after.seqOf id = ledger.seqOf id + (seqsOf id effects).length

section
variable {terminalId : String} {ledger after : TurnCompletionLedger} {effects : List ClaudeEffect}

theorem Records.silent (silent : ∀ id, seqsOf id effects = []) : Records terminalId ledger ledger effects where
  own := by rw [silent]; rfl
  other id _ := silent id
  ledger id := by rw [silent]; rfl

theorem Records.after_silent (records : Records terminalId ledger after effects) {first : List ClaudeEffect}
    (silent : ∀ id, seqsOf id first = []) : Records terminalId ledger after (first ++ effects) where
  own := by simpa [silent] using records.own
  other id apart := by simpa [silent] using records.other id apart
  ledger id := by simpa [silent] using records.ledger id

theorem records_one (terminalId : String) (sessionId : Option String) (now : Int) (ledger : TurnCompletionLedger) :
    Records terminalId ledger (ledger.recordTurnCompletion terminalId now).2
      [.turnComplete terminalId sessionId now (ledger.recordTurnCompletion terminalId now).1] where
  own := by simp [seqsOf,TurnCompletionLedger.recordTurnCompletion]
  other id apart := by simp [seqsOf,Ne.symm apart]
  ledger id := by
    rw [TurnCompletionLedger.seqOf_record]
    by_cases same : id = terminalId
    · simp [seqsOf,same]
    · simp [seqsOf,same,Ne.symm same]

theorem completeTurns_spec (terminalId : String) (sessionId : Option String) (now : Int) (bells inFlight : Nat)
    (ledger : TurnCompletionLedger) :
    let (left,last,effects) := completeTurns terminalId sessionId now bells inFlight ledger
    Records terminalId ledger last effects ∧ (seqsOf terminalId effects).length + left = inFlight ∧
      (effects = [] ↔ bells = 0 ∨ inFlight = 0) := by
  induction bells generalizing inFlight ledger with
  | zero => simpa [completeTurns] using Records.silent fun _ => rfl
  | succ bells ih =>
    cases inFlight with
    | zero => simpa [completeTurns] using Records.silent fun _ => rfl
    | succ inFlight =>
      have later := ih inFlight (ledger.recordTurnCompletion terminalId now).2
      have one := records_one terminalId sessionId now ledger
      simp only [completeTurns]
      generalize completeTurns terminalId sessionId now bells inFlight (ledger.recordTurnCompletion terminalId now).2 =
        rest at *
      obtain ⟨left,last,effects⟩ := rest
      obtain ⟨records,paid,_⟩ := later
      have number : (ledger.recordTurnCompletion terminalId now).1 = ledger.seqOf terminalId + 1 := rfl
      have first : ∀ id, seqsOf id (.turnComplete terminalId sessionId now (ledger.recordTurnCompletion terminalId now).1 ::
          effects) = seqsOf id [.turnComplete terminalId sessionId now (ledger.recordTurnCompletion terminalId now).1] ++
            seqsOf id effects := fun id => seqsOf_append id [_] effects
      have lone : seqsOf terminalId [.turnComplete terminalId sessionId now (ledger.recordTurnCompletion terminalId now).1] =
          [ledger.seqOf terminalId + 1] := by simp [seqsOf,number]
      have counted : (ledger.recordTurnCompletion terminalId now).2.seqOf terminalId = ledger.seqOf terminalId + 1 := by
        rw [TurnCompletionLedger.seqOf_record,if_pos rfl]
      refine ⟨⟨?_,?_,?_⟩,?_,by simp⟩
      · rw [first,lone,List.length_append,List.length_singleton,Nat.add_comm 1,List.range'_succ]
        have later := records.own
        rw [counted] at later
        rw [List.singleton_append,← later]
      · intro id apart
        rw [first,one.other id apart,records.other id apart]
        rfl
      · intro id
        rw [first,List.length_append,records.ledger,one.ledger,Nat.add_assoc]
      · rw [first,lone,List.length_append,List.length_singleton]
        omega

end

/-- A call keeps the turns in order, and its completions are paid for by the load and the credit. -/
structure Pays (terminalId : String) (state : TerminalActivity) (ledger : TurnCompletionLedger) (credit : Nat)
    (reduction : Reduction) : Prop where
  sound : reduction.state.Sound
  records : Records terminalId ledger reduction.ledger reduction.effects
  paid : (seqsOf terminalId reduction.effects).length + reduction.state.load ≤ state.load + credit

section
variable {terminalId : String} {state next : TerminalActivity} {ledger : TurnCompletionLedger} {credit : Nat}

theorem Pays.silent {effects : List ClaudeEffect} (sound : next.Sound) (silent : ∀ id, seqsOf id effects = [])
    (paid : next.load ≤ state.load + credit) : Pays terminalId state ledger credit ⟨next,ledger,effects⟩ where
  sound := sound
  records := .silent silent
  paid := by simpa [silent] using paid

theorem Pays.commit (sound : next.Sound) (paid : next.load ≤ state.load + credit) :
    Pays terminalId state ledger credit (state.commit next ledger) :=
  .silent sound (fun id => seqsOf_commitChange id _ _) paid

/-- The fields that the account of the turns reads. -/
def SameTurns (state next : TerminalActivity) : Prop :=
  next.phase = state.phase ∧ next.inFlight = state.inFlight ∧ next.busyConfirmed = state.busyConfirmed

theorem SameTurns.provisional (same : SameTurns state next) : next.provisional = state.provisional := by
  obtain ⟨phase,_,confirmed⟩ := same
  simp only [TerminalActivity.provisional,phase,confirmed]

theorem SameTurns.load (same : SameTurns state next) : next.load = state.load := by
  simp only [TerminalActivity.load,same.provisional,same.2.1]

theorem TerminalActivity.Sound.congr (sound : state.Sound) (same : SameTurns state next) : next.Sound := by
  obtain ⟨phase,inFlight,confirmed⟩ := same
  exact ⟨by rw [phase,inFlight]; exact sound.idle,by rw [phase,confirmed,inFlight]; exact sound.confirmed,
    by rw [phase,confirmed,inFlight]; exact sound.provisional⟩

theorem Pays.same (sound : state.Sound) (same : SameTurns state next) {effects : List ClaudeEffect}
    (silent : ∀ id, seqsOf id effects = []) : Pays terminalId state ledger credit ⟨next,ledger,effects⟩ :=
  .silent (sound.congr same) silent (by rw [same.load]; exact Nat.le_add_right _ _)

theorem observe_same (state : TerminalActivity) (now : Int) : SameTurns state (state.observe now) := by
  simp only [TerminalActivity.observe]
  split
  · exact ⟨rfl,rfl,rfl⟩
  · exact ⟨rfl,rfl,rfl⟩

theorem sound_idle (idle : next.phase = .idle) (nothing : next.inFlight = 0) : next.Sound where
  idle _ := nothing
  confirmed busy := by rw [idle] at busy; cases busy
  provisional busy := by rw [idle] at busy; cases busy

theorem sound_confirmed (busy : next.phase = .busy) (confirmed : next.busyConfirmed = true) (some_ : 0 < next.inFlight) :
    next.Sound where
  idle idle := by rw [busy] at idle; cases idle
  confirmed _ _ := some_
  provisional _ unconfirmed := by rw [confirmed] at unconfirmed; cases unconfirmed

theorem load_idle (idle : next.phase = .idle) (nothing : next.inFlight = 0) : next.load = 0 := by
  simp [TerminalActivity.load,TerminalActivity.provisional,idle,nothing]

theorem load_confirmed (confirmed : next.busyConfirmed = true) : next.load = next.inFlight := by
  simp [TerminalActivity.load,TerminalActivity.provisional,confirmed]

theorem load_provisional (provisional : state.provisional = true) (sound : state.Sound) : state.load = 1 := by
  have parts : state.phase = .busy ∧ state.busyConfirmed = false := by
    simpa [TerminalActivity.provisional] using provisional
  rw [TerminalActivity.load,provisional,if_pos rfl,sound.provisional parts.1 parts.2]

theorem le_load (state : TerminalActivity) : state.inFlight ≤ state.load := Nat.le_add_right _ _

theorem load_busy (sound : state.Sound) (busy : state.phase = .busy) : 0 < state.load := by
  by_cases confirmed : state.busyConfirmed = true
  · have := sound.confirmed busy confirmed
    have := le_load state
    omega
  · have provisional : state.provisional = true := by simp [TerminalActivity.provisional,busy,confirmed]
    rw [load_provisional provisional sound]
    exact Nat.one_pos

theorem pays_noteInput (sound : state.Sound) (data : String) (now : Int) (confirmable : Bool) :
    Pays terminalId state ledger (if isSubmitInput data = true then 1 else 0) (state.noteInput ledger data now confirmable) := by
  simp only [TerminalActivity.noteInput]
  by_cases submit : isSubmitInput data = true
  · rw [if_pos submit,if_neg (by simp [submit])]
    split
    · refine .silent (sound_confirmed rfl rfl (Nat.succ_pos _)) (fun id => seqsOf_commitChange id _ _) ?_
      rw [load_confirmed rfl]
      exact Nat.succ_le_succ (le_load state)
    · split
      · next busy =>
        split
        · next confirmed =>
          refine .silent (sound_confirmed busy confirmed (Nat.succ_pos _)) (fun _ => rfl) ?_
          have counted := @load_confirmed { state with inFlight := state.inFlight + 1, lastObservedAt := now } confirmed
          rw [counted]
          exact Nat.succ_le_succ (le_load state)
        · refine .same sound ?_ seqsOf_nil
          exact ⟨rfl,rfl,rfl⟩
      · next idle =>
        have resting : state.phase = .idle := by
          cases phase : state.phase with
          | idle => rfl
          | busy => exact absurd phase idle
        have nothing := sound.idle resting
        refine .silent ⟨nofun,nofun,fun _ _ => nothing⟩ (fun id => seqsOf_commitChange id _ _) ?_
        simp [TerminalActivity.load,TerminalActivity.provisional,nothing]
  · rw [if_neg submit,if_pos (by simpa using submit)]
    exact .same sound ⟨rfl,rfl,rfl⟩ fun _ => rfl

/-- A bell that confirms a provisional turn takes its submit for the turn in flight. -/
theorem confirmByBell_spec (sound : state.Sound) :
    state.confirmByBell.Sound ∧ state.confirmByBell.load = state.load ∧
      (state.confirmByBell.phase = .busy → state.confirmByBell.busyConfirmed = true) := by
  simp only [TerminalActivity.confirmByBell]
  by_cases provisional : state.provisional = true
  · have parts : state.phase = .busy ∧ state.busyConfirmed = false := by
      simpa [TerminalActivity.provisional] using provisional
    rw [if_pos (by simpa [TerminalActivity.provisional] using provisional)]
    exact ⟨sound_confirmed parts.1 rfl Nat.one_pos,by rw [load_confirmed rfl,load_provisional provisional sound],fun _ => rfl⟩
  · rw [if_neg (by simpa [TerminalActivity.provisional] using provisional)]
    refine ⟨sound,rfl,fun busy => ?_⟩
    simpa [TerminalActivity.provisional,busy] using provisional

theorem pays_noteOutput (sound : state.Sound) (data : String) (now : Int) :
    Pays terminalId state ledger 0 (state.noteOutput ledger terminalId data now) := by
  simp only [TerminalActivity.noteOutput]
  generalize parsed : { state with parserState := (extractTurnCompleteSignals data "claude" state.parserState).2.2 } = read
  have same : SameTurns state read := by
    subst parsed
    exact ⟨rfl,rfl,rfl⟩
  generalize clearCount data state.parserState = bells
  split
  · obtain ⟨phase,inFlight,confirmed⟩ := observe_same read now
    exact .same sound ⟨phase.trans same.1,inFlight.trans same.2.1,confirmed.trans same.2.2⟩ fun _ => rfl
  · next rung =>
    obtain ⟨sound',load,busy⟩ := confirmByBell_spec (sound.congr same)
    rw [same.load] at load
    generalize read.confirmByBell = confirmed at *
    have spec := completeTurns_spec terminalId confirmed.sessionId now bells confirmed.inFlight ledger
    generalize completeTurns terminalId confirmed.sessionId now bells confirmed.inFlight ledger = completed at *
    obtain ⟨left,last,effects⟩ := completed
    obtain ⟨records,paid,none_⟩ := spec
    have told : ∀ next : TerminalActivity, Records terminalId ledger last
        (commitChange (some confirmed.toRecord) next.toRecord ++ effects) := fun next =>
      records.after_silent fun id => seqsOf_commitChange id _ _
    dsimp only
    split
    · next silent =>
      have still : SameTurns confirmed { confirmed with lastObservedAt := now } := ⟨rfl,rfl,rfl⟩
      refine ⟨sound'.congr still,told _,?_⟩
      rw [seqsOf_append,seqsOf_commitChange,silent,still.load,load]
      simp
    · next ended =>
      have flying : 0 < confirmed.inFlight := by
        by_contra grounded
        exact ended (none_.mpr (.inr (Nat.eq_zero_of_not_pos grounded)))
      have running : confirmed.phase = .busy := by
        cases phase : confirmed.phase with
        | busy => rfl
        | idle =>
          have := sound'.idle phase
          omega
      have carried : confirmed.load = confirmed.inFlight := load_confirmed (busy running)
      have known := busy running
      refine ⟨?_,told _,?_⟩
      · by_cases more : 0 < left
        · exact sound_confirmed (by simp [more]) known more
        · exact sound_idle (by simp [more]) (Nat.eq_zero_of_not_pos more)
      · have counted := fun phase => @load_confirmed
          { confirmed with inFlight := left, lastObservedAt := now, phase := phase, updatedAt := now } known
        rw [seqsOf_append,seqsOf_commitChange,List.nil_append,counted]
        dsimp only
        omega

theorem settle_load (state : TerminalActivity) (now : Int) : (state.settle now).load = 0 := load_idle rfl rfl

theorem pays_noteVerifiedEnded (sound : state.Sound) (now : Int) :
    Pays terminalId state ledger 0 (state.noteVerifiedEnded ledger terminalId now) := by
  simp only [TerminalActivity.noteVerifiedEnded]
  split
  · exact .same sound ⟨rfl,rfl,rfl⟩ fun _ => rfl
  · next busy =>
    refine ⟨sound_idle rfl rfl,(records_one terminalId state.sessionId now ledger).after_silent
      fun id => seqsOf_commitChange id _ _,?_⟩
    have carried := load_busy sound (not_ne_iff.mp busy)
    rw [seqsOf_append,seqsOf_commitChange,settle_load]
    simp only [seqsOf,List.filterMap_cons,if_true,List.filterMap_nil,List.nil_append,List.length_singleton]
    omega

theorem pays_noteVerifyFailed (sound : state.Sound) (now : Int) :
    Pays terminalId state ledger 0 (state.noteVerifyFailed ledger terminalId now) := by
  simp only [TerminalActivity.noteVerifyFailed]
  split
  · exact .same sound ⟨rfl,rfl,rfl⟩ fun _ => rfl
  · refine .silent (sound_idle rfl rfl) (fun id => ?_) (by rw [settle_load]; exact Nat.zero_le _)
    rw [seqsOf_append,seqsOf_commitChange]
    rfl

theorem noteSubmitConfirmed_spec (sound : state.Sound) (now : Int) :
    (state.noteSubmitConfirmed now).Sound ∧ (state.noteSubmitConfirmed now).load = state.load := by
  simp only [TerminalActivity.noteSubmitConfirmed]
  by_cases provisional : state.provisional = true
  · have parts : state.phase = .busy ∧ state.busyConfirmed = false := by
      simpa [TerminalActivity.provisional] using provisional
    rw [if_pos (by simpa [TerminalActivity.provisional] using provisional)]
    exact ⟨sound_confirmed parts.1 rfl Nat.one_pos,by rw [load_confirmed rfl,load_provisional provisional sound]⟩
  · rw [if_neg (by simpa [TerminalActivity.provisional] using provisional)]
    exact ⟨sound,rfl⟩

theorem revert_spec (sound : state.Sound) (provisional : state.provisional = true) (now : Int) :
    (state.revert now).Sound ∧ (state.revert now).load = 0 := by
  have parts : state.phase = .busy ∧ state.busyConfirmed = false := by
    simpa [TerminalActivity.provisional] using provisional
  have nothing : (state.revert now).inFlight = 0 := sound.provisional parts.1 parts.2
  exact ⟨sound_idle rfl nothing,load_idle rfl nothing⟩

theorem pays_noteSubmitUnconfirmed (sound : state.Sound) (now : Int) :
    Pays terminalId state ledger 0 (state.noteSubmitUnconfirmed ledger now) := by
  simp only [TerminalActivity.noteSubmitUnconfirmed]
  split
  · exact .same sound ⟨rfl,rfl,rfl⟩ fun _ => rfl
  · next unconfirmed =>
    obtain ⟨busy,unproven⟩ := not_or.mp unconfirmed
    have provisional : state.provisional = true := by
      simp [TerminalActivity.provisional,not_ne_iff.mp busy,unproven]
    obtain ⟨sound',empty⟩ := revert_spec sound provisional now
    exact .commit sound' (by rw [empty]; exact Nat.zero_le _)

theorem pays_note (sound : state.Sound) (note : ClaudeNote) :
    Pays terminalId state ledger (if note.submits = true then 1 else 0) (state.note ledger terminalId note) := by
  cases note with
  | bindSession sessionId =>
    show Pays terminalId state ledger 0 (state.rebind ledger sessionId)
    simp only [TerminalActivity.rebind]
    split
    · exact .same sound ⟨rfl,rfl,rfl⟩ fun _ => rfl
    · refine .same sound ?_ fun id => seqsOf_commitChange id _ _
      exact ⟨rfl,rfl,rfl⟩
  | input data now confirmable => exact pays_noteInput sound data now confirmable
  | output data now => exact pays_noteOutput sound data now
  | verifiedBusy now => exact .same sound (observe_same state now) fun _ => rfl
  | verifiedEnded now => exact pays_noteVerifiedEnded sound now
  | verifyFailed now => exact pays_noteVerifyFailed sound now
  | submitConfirmed now =>
    obtain ⟨sound',load⟩ := noteSubmitConfirmed_spec sound now
    exact .silent sound' (fun _ => rfl) (by rw [load]; exact Nat.le_add_right _ _)
  | submitUnconfirmed now => exact pays_noteSubmitUnconfirmed sound now
  | submitProbeUnavailable =>
    show Pays terminalId state ledger 0 ⟨state.noteSubmitProbeUnavailable,ledger,[]⟩
    refine .same sound ?_ seqsOf_nil
    exact ⟨rfl,rfl,rfl⟩

theorem expireBusy_spec (state : TerminalActivity) (deadman now : Int) :
    SameTurns state (state.expireBusy deadman now).1 ∧ ∀ id, seqsOf id (state.expireBusy deadman now).2 = [] := by
  simp only [TerminalActivity.expireBusy]
  split
  · exact ⟨⟨rfl,rfl,rfl⟩,fun _ => rfl⟩
  · exact ⟨⟨rfl,rfl,rfl⟩,fun _ => rfl⟩

theorem expire_spec (sound : state.Sound) (deadman now : Int) :
    (state.expire deadman now).1.Sound ∧ (state.expire deadman now).1.load ≤ state.load ∧
      ((state.expire deadman now).1.provisional = false → state.provisional = true → (state.expire deadman now).1.load = 0) ∧
      ∀ id, seqsOf id (state.expire deadman now).2 = [] := by
  have kept : ∀ next : TerminalActivity, SameTurns state next →
      next.Sound ∧ next.load ≤ state.load ∧ (next.provisional = false → state.provisional = true → next.load = 0) :=
    fun next same => ⟨sound.congr same,Nat.le_of_eq same.load,fun unproven proven => by
      rw [same.provisional,proven] at unproven
      cases unproven⟩
  have idles : ∀ other : TerminalActivity, SameTurns state other →
      (other.expireBusy deadman now).1.Sound ∧ (other.expireBusy deadman now).1.load ≤ state.load ∧
        ((other.expireBusy deadman now).1.provisional = false → state.provisional = true →
          (other.expireBusy deadman now).1.load = 0) ∧ ∀ id, seqsOf id (other.expireBusy deadman now).2 = [] := by
    intro other same
    obtain ⟨still,silent⟩ := expireBusy_spec other deadman now
    obtain ⟨sound',load,reverted⟩ :=
      kept _ ⟨still.1.trans same.1,still.2.1.trans same.2.1,still.2.2.trans same.2.2⟩
    exact ⟨sound',load,reverted,silent⟩
  simp only [TerminalActivity.expire]
  split
  · exact idles state ⟨rfl,rfl,rfl⟩
  · split
    · exact idles state ⟨rfl,rfl,rfl⟩
    · split
      · next provisional =>
        split
        · obtain ⟨sound',load,reverted⟩ := kept { state with
            submitGraceRetried := true
            submitGraceDeadline := some (now + claudeSubmitGraceMs) } ⟨rfl,rfl,rfl⟩
          exact ⟨sound',load,reverted,fun _ => rfl⟩
        · obtain ⟨sound',empty⟩ := revert_spec sound (by simpa [TerminalActivity.provisional] using provisional) now
          exact ⟨sound',by rw [empty]; exact Nat.zero_le _,fun _ _ => empty,fun id => seqsOf_commitChange id _ _⟩
      · exact idles { state with submitGraceDeadline := none } ⟨rfl,rfl,rfl⟩

/-- A provisional submit that no step proves completes nothing, and stands for no turn
    once it is given up. -/
theorem unproven_note (sound : state.Sound) (provisional : state.provisional = true) (note : ClaudeNote)
    (unproven : state.proves note = false) :
    seqsOf terminalId (state.note ledger terminalId note).effects = [] ∧
      ((state.note ledger terminalId note).state.provisional = false →
        (state.note ledger terminalId note).state.load ≤ if note.settles = true then 1 else 0) := by
  have parts : state.phase = .busy ∧ state.busyConfirmed = false := by
    simpa [TerminalActivity.provisional] using provisional
  have still : ∀ next : TerminalActivity, SameTurns state next → next.provisional = false → False := by
    intro next same unsettled
    rw [same.provisional,provisional] at unsettled
    cases unsettled
  cases note with
  | bindSession sessionId =>
    simp only [TerminalActivity.note,TerminalActivity.rebind]
    split
    · exact ⟨rfl,fun lost => (still state ⟨rfl,rfl,rfl⟩ lost).elim⟩
    · exact ⟨seqsOf_commitChange _ _ _,fun lost => (still { state with sessionId := some sessionId } ⟨rfl,rfl,rfl⟩ lost).elim⟩
  | input data now confirmable =>
    simp only [TerminalActivity.note,TerminalActivity.noteInput]
    by_cases submit : isSubmitInput data = true
    · rw [if_neg (by simp [submit])]
      cases confirmable with
      | false =>
        have counted := @load_confirmed { state with
          inFlight := state.inFlight + 1
          busyConfirmed := true
          phase := .busy
          updatedAt := if state.phase = .busy then state.updatedAt else now
          lastObservedAt := now } rfl
        have settles : (ClaudeNote.input data now false).settles = true := by simp [ClaudeNote.settles,submit]
        refine ⟨seqsOf_commitChange _ _ _,fun _ => ?_⟩
        rw [settles]
        exact Nat.le_of_eq (counted.trans (congrArg (· + 1) (sound.provisional parts.1 parts.2)))
      | true =>
        simp only [Bool.not_true,Bool.false_eq_true,if_false,parts.1,parts.2,if_true]
        exact ⟨rfl,fun lost => (still { state with
          lastObservedAt := now
          submitGraceDeadline := some (now + claudeSubmitGraceMs)
          submitGraceRetried := false } ⟨rfl,rfl,rfl⟩ (by simp [TerminalActivity.provisional] at lost)).elim⟩
    · rw [if_pos (by simpa using submit)]
      exact ⟨rfl,fun lost => (still state ⟨rfl,rfl,rfl⟩ lost).elim⟩
  | output data now =>
    have quiet : clearCount data state.parserState = 0 := by simpa [TerminalActivity.proves] using unproven
    simp only [TerminalActivity.note,TerminalActivity.noteOutput,quiet,if_true]
    refine ⟨rfl,fun lost => (still _ ?_ lost).elim⟩
    exact observe_same { state with parserState := (extractTurnCompleteSignals data "claude" state.parserState).2.2 } now
  | verifiedBusy now => exact ⟨rfl,fun lost => (still _ (observe_same state now) lost).elim⟩
  | verifiedEnded now => cases unproven
  | verifyFailed now =>
    simp only [TerminalActivity.note,TerminalActivity.noteVerifyFailed,parts.1,ne_eq,not_true,if_false]
    refine ⟨?_,fun _ => by rw [settle_load]; exact Nat.zero_le _⟩
    rw [seqsOf_append,seqsOf_commitChange]
    rfl
  | submitConfirmed now => cases unproven
  | submitUnconfirmed now =>
    simp only [TerminalActivity.note,TerminalActivity.noteSubmitUnconfirmed,parts.1,parts.2,ne_eq,not_true,
      Bool.false_eq_true,or_self,if_false]
    refine ⟨seqsOf_commitChange _ _ _,fun _ => ?_⟩
    exact Nat.le_trans (Nat.le_of_eq (revert_spec sound provisional now).2) (Nat.zero_le _)
  | submitProbeUnavailable =>
    exact ⟨rfl,fun lost => (still state.noteSubmitProbeUnavailable ⟨rfl,rfl,rfl⟩ lost).elim⟩

end

namespace ClaudeActivityTracker
variable {tracker : ClaudeActivityTracker} {id : String}

/-- What a step does to the account of a terminal. -/
structure Accounted (tracker : ClaudeActivityTracker) (op : ClaudeOp) (id : String) : Prop where
  numbered : seqsOf id (tracker.step op).2 =
    List.range' (tracker.ledger.seqOf id + 1) (seqsOf id (tracker.step op).2).length
  ledger : (tracker.next op).ledger.seqOf id = tracker.ledger.seqOf id + (seqsOf id (tracker.step op).2).length
  paid : (seqsOf id (tracker.step op).2).length + (tracker.next op).load id ≤ tracker.load id + submitted id tracker op

theorem seqsOf_expire (now : Int) : seqsOf id (tracker.expire now).2 = [] := by
  rw [seqsOf,List.filterMap_eq_nil_iff]
  intro effect listed
  simp only [expire,List.mem_flatMap] at listed
  obtain ⟨entry,_,listed⟩ := listed
  have silent : seqsOf id (entry.2.expire tracker.busyDeadmanMs now).2 = [] := by
    simp only [TerminalActivity.expire]
    repeat' split
    all_goals first | exact (expireBusy_spec _ _ _).2 id | rfl | exact seqsOf_commitChange _ _ _
  rw [seqsOf,List.filterMap_eq_nil_iff] at silent
  exact silent effect listed

theorem accounted_silent {op : ClaudeOp} (silent : seqsOf id (tracker.step op).2 = [])
    (same : (tracker.next op).ledger.seqOf id = tracker.ledger.seqOf id)
    (load : (tracker.next op).load id ≤ tracker.load id) : Accounted tracker op id where
  numbered := by rw [silent]; rfl
  ledger := by rw [silent,same]; rfl
  paid := by
    rw [silent]
    simp only [List.length_nil]
    omega

theorem load_of_lookup {other : ClaudeActivityTracker} (same : other.states.lookup id = tracker.states.lookup id) :
    other.load id = tracker.load id := by simp only [load,same]

theorem accounted_note (sound : tracker.Sound) (terminalId : String) (note : ClaudeNote) :
    (tracker.next (.note terminalId note)).Sound ∧ ∀ id, Accounted tracker (.note terminalId note) id := by
  simp only [next,step,noteOn]
  cases found : tracker.states.lookup terminalId with
  | none =>
    refine ⟨sound,fun id => accounted_silent ?_ ?_ ?_⟩
    · simp [step,noteOn,found]
    · simp [next,step,noteOn,found]
    · simp [next,step,noteOn,found]
  | some state =>
    obtain ⟨sound',records,paid⟩ := @pays_note terminalId state tracker.ledger (sound terminalId state found) note
    have effects : (tracker.step (.note terminalId note)).2 = (state.note tracker.ledger terminalId note).effects := by
      simp [step,noteOn,found]
    have ledger : (tracker.next (.note terminalId note)).ledger = (state.note tracker.ledger terminalId note).ledger := by
      simp [next,step,noteOn,found]
    have states : (tracker.next (.note terminalId note)).states =
        tracker.states.insert terminalId (state.note tracker.ledger terminalId note).state := by
      simp [next,step,noteOn,found]
    refine ⟨?_,fun id => ?_⟩
    · intro id held lookup
      rw [lookup_insert] at lookup
      by_cases mine : id = terminalId
      · rw [if_pos mine] at lookup
        cases lookup
        exact sound'
      · rw [if_neg mine] at lookup
        exact sound id held lookup
    · by_cases mine : id = terminalId
      · subst mine
        refine ⟨?_,?_,?_⟩
        · rw [effects]
          exact records.own
        · rw [ledger,effects]
          exact records.ledger id
        · simp only [load,states,lookup_insert,if_true,Option.map_some,Option.getD_some,found,effects,submitted,picks,beq_self_eq_true,
            Bool.true_and]
          exact paid
      · refine accounted_silent ?_ ?_ ?_
        · rw [effects,records.other id mine]
        · rw [ledger,records.ledger id,records.other id mine]
          rfl
        · refine Nat.le_of_eq (load_of_lookup ?_)
          rw [states,lookup_insert,if_neg mine]

theorem accounted (sound : tracker.Sound) (op : ClaudeOp) : (tracker.next op).Sound ∧ ∀ id, Accounted tracker op id := by
  cases op with
  | note terminalId note => exact accounted_note sound terminalId note
  | trackTerminal terminalId sessionId now =>
    cases found : tracker.states.lookup terminalId with
    | none =>
      have states : (tracker.next (.trackTerminal terminalId sessionId now)).states = tracker.states.insert terminalId
          { terminalId := terminalId, sessionId := sessionId, updatedAt := now, lastObservedAt := now } := by
        simp [next,step,trackTerminal,found]
      refine ⟨?_,fun id => accounted_silent ?_ ?_ ?_⟩
      · intro id held lookup
        rw [states,lookup_insert] at lookup
        by_cases mine : id = terminalId
        · rw [if_pos mine] at lookup
          cases lookup
          exact sound_idle rfl rfl
        · rw [if_neg mine] at lookup
          exact sound id held lookup
      · simp [step,trackTerminal,found]
      · simp [next,step,trackTerminal,found]
      · simp only [load,states,lookup_insert]
        by_cases mine : id = terminalId
        · rw [if_pos mine]
          exact Nat.zero_le _
        · rw [if_neg mine]
    | some state =>
      cases sessionId with
      | none =>
        have unchanged : tracker.step (.trackTerminal terminalId none now) = (tracker,[]) := by
          simp [step,trackTerminal,found]
        refine ⟨by rw [next,unchanged]; exact sound,fun id => accounted_silent ?_ ?_ ?_⟩
        · rw [unchanged]
          rfl
        · rw [next,unchanged]
        · rw [next,unchanged]
      | some session =>
        have bound : tracker.step (.trackTerminal terminalId (some session) now) =
            tracker.step (.note terminalId (.bindSession session)) := by simp [step,trackTerminal,found]
        obtain ⟨sound',accounts⟩ := accounted_note sound terminalId (.bindSession session)
        refine ⟨by rw [next,bound]; exact sound',fun id => ?_⟩
        obtain ⟨numbered,ledger,paid⟩ := accounts id
        refine ⟨by rw [bound]; exact numbered,by rw [next,bound]; exact ledger,?_⟩
        have free : submitted id tracker (.note terminalId (.bindSession session)) = 0 := by
          simp [submitted,picks,ClaudeNote.submits]
          cases tracker.states.lookup id <;> simp
        rw [free] at paid
        rw [next,bound]
        exact Nat.le_trans paid (Nat.le_add_right _ _)
  | exit terminalId =>
    cases found : tracker.states.lookup terminalId with
    | none =>
      have unchanged : tracker.step (.exit terminalId) = (tracker,[]) := by simp [step,noteExit,found]
      refine ⟨by rw [next,unchanged]; exact sound,fun id => accounted_silent ?_ ?_ ?_⟩
      · rw [unchanged]
        rfl
      · rw [next,unchanged]
      · rw [next,unchanged]
    | some state =>
      have states : (tracker.next (.exit terminalId)).states = tracker.states.erase terminalId := by
        simp [next,step,noteExit,found]
      refine ⟨?_,fun id => accounted_silent ?_ ?_ ?_⟩
      · intro id held lookup
        rw [states,lookup_erase] at lookup
        split at lookup
        · cases lookup
        · exact sound id held lookup
      · simp only [step,noteExit,found]
        rfl
      · simp [next,step,noteExit,found]
      · simp only [load,states,lookup_erase]
        split
        · exact Nat.zero_le _
        · exact Nat.le_refl _
  | expire now =>
    have states : ∀ id, (tracker.next (.expire now)).states.lookup id =
        (tracker.states.lookup id).map fun state => (state.expire tracker.busyDeadmanMs now).1 := by
      intro id
      simp [next,step,expire]
    refine ⟨?_,fun id => accounted_silent (seqsOf_expire now) rfl ?_⟩
    · intro id held lookup
      rw [states,Option.map_eq_some_iff] at lookup
      obtain ⟨state,found,rfl⟩ := lookup
      exact (expire_spec (sound id state found) tracker.busyDeadmanMs now).1
    · simp only [load,states]
      cases found : tracker.states.lookup id with
      | none => exact Nat.le_refl _
      | some state => exact (expire_spec (sound id state found) tracker.busyDeadmanMs now).2.1

theorem completions_cons (op : ClaudeOp) (rest : List ClaudeOp) :
    tracker.completions id (op :: rest) = seqsOf id (tracker.step op).2 ++ (tracker.next op).completions id rest :=
  seqsOf_append _ _ _

/-- The completions of a run are paid for by the load at its start and by its submits. -/
theorem completions_le (sound : tracker.Sound) (ops : List ClaudeOp) :
    (tracker.completions id ops).length ≤ tracker.load id + tracker.submits id ops := by
  induction ops generalizing tracker with
  | nil => exact Nat.zero_le _
  | cons op rest ih =>
    obtain ⟨sound',accounts⟩ := accounted sound op
    have here := (accounts id).paid
    have later := ih sound'
    rw [completions_cons,List.length_append,submits,tally_cons]
    rw [submits] at later
    omega

theorem completions_numbered (sound : tracker.Sound) (ops : List ClaudeOp) :
    tracker.completions id ops = List.range' (tracker.ledger.seqOf id + 1) (tracker.completions id ops).length := by
  induction ops generalizing tracker with
  | nil => rfl
  | cons op rest ih =>
    obtain ⟨sound',accounts⟩ := accounted sound op
    obtain ⟨numbered,ledger,_⟩ := accounts id
    have later := ih sound'
    rw [ledger] at later
    rw [completions_cons,List.length_append,← List.range'_append_1,← numbered]
    rw [show tracker.ledger.seqOf id + 1 + (seqsOf id (tracker.step op).2).length =
      tracker.ledger.seqOf id + (seqsOf id (tracker.step op).2).length + 1 by omega,← later]

theorem laterSubmits_settled (settled : tracker.provisional id = false) (ops : List ClaudeOp) :
    laterSubmits id tracker ops = tracker.submits id ops := by
  cases ops with
  | nil => rfl
  | cons op rest => simp [laterSubmits,settled]

theorem provisional_lookup (provisional : tracker.provisional id = true) :
    ∃ state, tracker.states.lookup id = some state ∧ state.provisional = true := by
  cases found : tracker.states.lookup id with
  | none => simp [ClaudeActivityTracker.provisional,found] at provisional
  | some state => exact ⟨state,rfl,by simpa [ClaudeActivityTracker.provisional,found] using provisional⟩

theorem kept_provisional (provisional : tracker.provisional id = true) {other : ClaudeActivityTracker}
    (same : other.states.lookup id = tracker.states.lookup id) : other.provisional id = true := by
  rw [ClaudeActivityTracker.provisional,same]
  exact provisional

theorem unproven_noteOn (sound : tracker.Sound) (provisional : tracker.provisional id = true) {terminalId : String}
    {note : ClaudeNote} (unproven : tracker.picks TerminalActivity.proves id (.note terminalId note) = false) :
    seqsOf id (tracker.noteOn terminalId note).2 = [] ∧
      ((tracker.noteOn terminalId note).1.provisional id = false → (tracker.noteOn terminalId note).1.load id ≤
        if tracker.picks (fun _ note => note.settles) id (.note terminalId note) = true then 1 else 0) := by
  obtain ⟨state,found,waits⟩ := provisional_lookup provisional
  by_cases mine : id = terminalId
  · subst mine
    have silent : state.proves note = false := by simpa [picks,found] using unproven
    obtain ⟨nothing,load⟩ := @unproven_note id state tracker.ledger (sound id state found) waits note silent
    refine ⟨by simpa [noteOn,found] using nothing,fun lost => ?_⟩
    have lost' : (state.note tracker.ledger id note).state.provisional = false := by
      simpa [ClaudeActivityTracker.provisional,noteOn,found] using lost
    simpa [ClaudeActivityTracker.load,noteOn,found,picks] using load lost'
  · simp only [noteOn]
    cases held : tracker.states.lookup terminalId with
    | none => exact ⟨rfl,fun lost => absurd (kept_provisional provisional rfl) (by rw [lost]; exact Bool.false_ne_true)⟩
    | some other =>
      have records := (@pays_note terminalId other tracker.ledger (sound terminalId other held) note).records
      refine ⟨records.other id mine,fun lost => absurd (kept_provisional provisional ?_) (by rw [lost]; exact Bool.false_ne_true)⟩
      simp [mine]

theorem unproven_step (sound : tracker.Sound) (provisional : tracker.provisional id = true) {op : ClaudeOp}
    (unproven : tracker.picks TerminalActivity.proves id op = false) :
    seqsOf id (tracker.step op).2 = [] ∧
      ((tracker.next op).provisional id = false →
        (tracker.next op).load id ≤ if tracker.picks (fun _ note => note.settles) id op = true then 1 else 0) := by
  obtain ⟨state,found,waits⟩ := provisional_lookup provisional
  have kept : (tracker.next op).states.lookup id = tracker.states.lookup id → (tracker.next op).provisional id = false →
      (tracker.next op).load id ≤ if tracker.picks (fun _ note => note.settles) id op = true then 1 else 0 :=
    fun same lost => absurd (kept_provisional provisional same) (by rw [lost]; exact Bool.false_ne_true)
  cases op with
  | note terminalId note => exact unproven_noteOn sound provisional unproven
  | trackTerminal terminalId sessionId now =>
    cases held : tracker.states.lookup terminalId with
    | none =>
      have apart : id ≠ terminalId := by
        rintro rfl
        rw [held] at found
        cases found
      refine ⟨?_,kept (by simp [next,step,trackTerminal,held,apart])⟩
      simp only [step,trackTerminal,held]
      exact seqsOf_commitChange _ _ _
    | some other =>
      cases sessionId with
      | none =>
        have unchanged : tracker.step (.trackTerminal terminalId none now) = (tracker,[]) := by
          simp [step,trackTerminal,held]
        exact ⟨by rw [unchanged]; rfl,kept (by rw [next,unchanged])⟩
      | some session =>
        have bound : tracker.step (.trackTerminal terminalId (some session) now) =
            tracker.noteOn terminalId (.bindSession session) := by simp [step,trackTerminal,held]
        have free : ∀ test : TerminalActivity → ClaudeNote → Bool, (∀ state, test state (.bindSession session) = false) →
            tracker.picks test id (.note terminalId (.bindSession session)) = false := by
          intro test fails
          cases lookup : tracker.states.lookup id with
          | none => simp [picks,lookup]
          | some state => simp [picks,lookup,fails]
        obtain ⟨nothing,load⟩ := unproven_noteOn sound provisional (free TerminalActivity.proves fun _ => rfl)
        rw [free _ fun _ => rfl] at load
        rw [next,bound]
        exact ⟨nothing,load⟩
  | exit terminalId =>
    have silent : seqsOf id (tracker.step (.exit terminalId)).2 = [] := by
      simp only [step,noteExit]
      cases tracker.states.lookup terminalId with
      | none => rfl
      | some _ => rfl
    refine ⟨silent,?_⟩
    by_cases mine : id = terminalId
    · subst mine
      intro _
      simp [ClaudeActivityTracker.load,next,step,noteExit,found]
    · refine kept ?_
      simp only [next,step,noteExit]
      cases tracker.states.lookup terminalId with
      | none => rfl
      | some _ => simp [mine]
  | expire now =>
    have after : (tracker.next (.expire now)).states.lookup id =
        some (state.expire tracker.busyDeadmanMs now).1 := by simp [next,step,expire,found]
    obtain ⟨_,_,reverted,_⟩ := expire_spec (sound id state found) tracker.busyDeadmanMs now
    refine ⟨seqsOf_expire now,fun lost => ?_⟩
    have lost' : (state.expire tracker.busyDeadmanMs now).1.provisional = false := by
      simpa [ClaudeActivityTracker.provisional,after] using lost
    rw [ClaudeActivityTracker.load,after]
    exact Nat.le_trans (Nat.le_of_eq (reverted lost' waits)) (Nat.zero_le _)

/-- A provisional submit that is never proved completes nothing: every completion that
    follows is paid for by another submit. -/
theorem unproven_le (sound : tracker.Sound) (provisional : tracker.provisional id = true) {rest : List ClaudeOp}
    (unproven : Unproven id tracker rest) : (tracker.completions id rest).length ≤ laterSubmits id tracker rest := by
  induction rest generalizing tracker with
  | nil => exact Nat.zero_le _
  | cons op rest ih =>
    obtain ⟨here,later⟩ := unproven provisional
    obtain ⟨silent,given⟩ := unproven_step sound provisional here
    obtain ⟨sound',_⟩ := accounted sound op
    rw [completions_cons,silent,List.nil_append,laterSubmits,if_pos provisional]
    cases settled : (tracker.next op).provisional id with
    | true => exact Nat.le_trans (ih sound' settled later) (Nat.le_add_left _ _)
    | false =>
      have paid := @completions_le _ id sound' rest
      have load := given settled
      rw [laterSubmits_settled settled]
      omega

end ClaudeActivityTracker

open ClaudeActivityTracker in
/-- In any run the turns in flight are those of a busy, confirmed terminal; the
    completions are no more than the submits and are numbered from one; and from then on
    a provisional submit that no step proves completes nothing. -/
theorem turns_paid (deadman : Int) (ops : List ClaudeOp) (id : String) :
    (∀ state, (run next { busyDeadmanMs := deadman } ops).states.lookup id = some state → state.Sound) ∧
    (completions { busyDeadmanMs := deadman } id ops).length ≤ submits { busyDeadmanMs := deadman } id ops ∧
    completions { busyDeadmanMs := deadman } id ops =
      List.range' 1 (completions { busyDeadmanMs := deadman } id ops).length ∧
    ∀ rest, (run next { busyDeadmanMs := deadman } ops).provisional id = true →
      Unproven id (run next { busyDeadmanMs := deadman } ops) rest →
        ((run next { busyDeadmanMs := deadman } ops).completions id rest).length ≤
          laterSubmits id (run next { busyDeadmanMs := deadman } ops) rest := by
  have start : Sound { busyDeadmanMs := deadman } := by
    intro id state found
    cases found
  have free : Along next (fun _ _ => True) ({ busyDeadmanMs := deadman } : ClaudeActivityTracker) ops :=
    along_of_forall (fun _ _ => trivial) _ ops
  have sound := @invariant_run _ _ next Sound _ (fun _ op sound _ => (accounted sound op).1) _ _ start free
  refine ⟨sound id,?_,?_,?_⟩
  · have paid := @completions_le _ id start ops
    have nothing : load { busyDeadmanMs := deadman } id = 0 := rfl
    omega
  · exact completions_numbered start ops
  · intro rest provisional unproven
    exact unproven_le sound provisional unproven

end Freshell.Activity.Claude
