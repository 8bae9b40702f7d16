import Freshell.Ownership.Generations

/-!
What the watchdog sweeps read from a record was registered by the operation that
the record's state names. A start drops the handles of its predecessors; a stop
does not drop the settlement flag of an earlier one, so the property holds along
the runs in which no operation takes over a record with such a flag.
-/
namespace Freshell.Ownership
open Freshell.Library.Runs
set_option linter.unusedSimpArgs false

/-- Who registered the watchdog's evidence of a record: the operation and the
    generation of the last registration of each kind. -/
structure Evidence where
  start : Option (String × Nat)
  partialRuntime : Option (String × Nat)
  stop : Option (String × Nat)
deriving DecidableEq, Repr

def Evidence.none : Evidence := ⟨.none,.none,.none⟩

/-- The registry with the registrants of its records. -/
structure Watched where
  world : World
  evidence : SessionKey → Evidence

namespace Watched

def mint (epoch : Nat) : Watched := ⟨.mint epoch,fun _ => .none⟩

/-- An accepted registration names its operation; a rekeyed start takes its
    registrations along. -/
def registered (watched : Watched) : Op → SessionKey → Evidence
  | .registerStartCancellation key operationId generation abort settle settleFired =>
    if (watched.world.registry.registerStartCancellation key operationId generation abort settle settleFired).1 then
      Function.update watched.evidence key { watched.evidence key with start := some (operationId,generation) }
    else watched.evidence
  | .registerPartialRuntime key operationId generation _ =>
    if (watched.world.registry.record key).isStarting operationId generation then
      Function.update watched.evidence key { watched.evidence key with partialRuntime := some (operationId,generation) }
    else watched.evidence
  | .registerStopSettlement key operationId generation flag =>
    if (watched.world.registry.registerStopSettlement key operationId generation flag).1 then
      Function.update watched.evidence key { watched.evidence key with stop := some (operationId,generation) }
    else watched.evidence
  | .rekeyStarting provider oldId newId operationId generation =>
    if (watched.world.registry.rekeyStarting provider oldId newId operationId generation).1 = .committed then
      Function.update (Function.update watched.evidence ⟨provider,oldId⟩ .none) ⟨provider,newId⟩
        (watched.evidence ⟨provider,oldId⟩)
    else watched.evidence
  | _ => watched.evidence

def step (watched : Watched) (op : Op) : Watched := ⟨watched.world.step op,watched.registered op⟩

end Watched

/-- What a sweep reads or takes from the record as it stands is registered by
    the operation in its state: the stale-start sweep reads a start's handles,
    the stale-stopping sweep a stop's flag, and the enumeration of the stale
    fences the flag that the reason of the fence selects. -/
def SessionRecord.ReadsOwn (record : SessionRecord) (evidence : Evidence) : Prop :=
  match record.state with
  | .starting _ operationId generation _ _ =>
    (record.cancellation.isSome ∨ record.settle.isSome ∨ record.settleFired.isSome →
        evidence.start = some (operationId,generation)) ∧
      (record.partialRuntime.isSome → evidence.partialRuntime = some (operationId,generation))
  | .stopping _ _ operationId generation _ _ | .fenced _ .staleStop operationId generation _ _ =>
    record.stopSettled.isSome → evidence.stop = some (operationId,generation)
  | .fenced _ .staleStart operationId generation _ _ =>
    record.settleFired.isSome → evidence.start = some (operationId,generation)
  | _ => True

/-- The flag that a fence of this reason is judged by. -/
def SessionRecord.flagOf (record : SessionRecord) : FenceReason → Option Flag
  | .staleStart => record.settleFired
  | .staleStop => record.stopSettled
  | _ => none

/-- The call puts no operation in charge of a record that carries a flag of an
    earlier one where the watchdog will look for its own: a granted stop, or a
    start that the sweep turns into a stop, finds no stop flag; and a fence for
    which the probe consults a flag finds none of another operation. A stop that
    the sweep made of a start, which has no era to return to, is that start's. -/
def Watched.Careful (watched : Watched) : Op → Prop
  | .beginStop key operationId claim initiator nowMs =>
    (∃ generation, (watched.world.registry.beginStop key operationId claim initiator nowMs).1 = .granted generation) →
      (watched.world.registry.record key).stopSettled = none
  | .recoverStaleStarts nowMs maxAgeMs fired => ∀ key record, watched.world.registry.get key = some record →
      (recoverStart nowMs maxAgeMs fired key record).isSome → record.stopSettled = none
  | .fenceUnconfirmedHandoff key operationId generation reason unconfirmed clock =>
    (watched.world.registry.fenceUnconfirmedHandoffWithPrior key operationId generation reason unconfirmed clock).1 =
      .fenced → (watched.world.registry.record key).flagOf reason = none
  | .fenceUnconfirmedStop key operationId generation reason clock =>
    (watched.world.registry.fenceUnconfirmedStop key operationId generation reason clock).1 = .fenced →
      reason = .staleStart → (∃ owner initiator sinceMs,
        (watched.world.registry.record key).state = .stopping owner none operationId generation initiator sinceMs) ∨
          (watched.world.registry.record key).settleFired = none
  | .fenceUnconfirmedLive key operationId generation expectedRuntime reason clock =>
    (watched.world.registry.fenceUnconfirmedLive key operationId generation expectedRuntime reason clock).1 = .fenced →
      (watched.world.registry.record key).flagOf reason = none ∨
        reason = .staleStart ∧ (watched.evidence key).start = some (operationId,generation)
  | _ => True

/-- What every step keeps: the reads are own, and a stop that the sweep made of
    a start still has that start's flag. -/
structure SessionRecord.Own (record : SessionRecord) (evidence : Evidence) : Prop where
  reads : record.ReadsOwn evidence
  recovered : ∀ owner operationId generation initiator sinceMs,
    record.state = .stopping owner none operationId generation initiator sinceMs → record.settleFired.isSome →
      evidence.start = some (operationId,generation)

variable {record : SessionRecord} {evidence : Evidence}

theorem own_of_unread (reads : record.ReadsOwn evidence) (idle : ∀ owner operationId generation initiator sinceMs,
      record.state ≠ .stopping owner none operationId generation initiator sinceMs) : record.Own evidence :=
  ⟨reads,fun owner operationId generation initiator sinceMs held => absurd held (idle owner operationId generation initiator sinceMs)⟩

theorem readsOwn_fenced {reason : FenceReason} (clean : record.flagOf reason = none)
    {prior : Option (OwnerIdentity × Nat)} {operationId initiator : String} {generation sinceMs : Nat} :
    SessionRecord.ReadsOwn { record with state := .fenced prior reason operationId generation initiator sinceMs } evidence := by
  cases reason with
  | staleStart =>
    intro fired
    rw [show record.settleFired = none from clean] at fired
    cases fired
  | staleStop =>
    intro settled
    rw [show record.stopSettled = none from clean] at settled
    cases settled
  | watcherFailed | platformLimited | clearedUnverified => trivial

def Watched.Owned (watched : Watched) : Prop :=
  ∀ key record, watched.world.registry.get key = some record → record.Own (watched.evidence key)

/-- The calls that change registrants, and those of which a move says too little. -/
def Op.isApart : Op → Bool
  | .registerStartCancellation .. | .registerPartialRuntime .. | .registerStopSettlement .. | .rekeyStarting ..
  | .recoverStaleStarts .. | .fenceUnconfirmedLive .. => true
  | _ => false

variable {watched : Watched} {key : SessionKey}

theorem own_move {op : Op} (owned : watched.Owned) (coherent : watched.world.Coherent) (careful : watched.Careful op)
    (move : Move watched.world op key record) (plain : op.isApart = false) : record.Own (watched.evidence key) := by
  cases move with
  | startGranted | committed | commitMovedOut | commitMovedIn | liveMovedOut | liveMovedIn | terminalMovedIn
  | terminalMovedOut | aliased | failedVacant | failedRestored | fenceReleased | forceCleared | stopCommitted | stopAborted
  | released | forceReleased | handoffGranted | acknowledged =>
    exact own_of_unread (by simp [SessionRecord.ReadsOwn,SessionRecord.fresh]) (by simp [SessionRecord.fresh])
  | startMovedIn | startMovedOut | startRegistered | partialRegistered | stopRegistered | startRecovered | liveFenced =>
    cases plain
  | attachArmed found held | adoptArmed found held =>
    exact own_of_unread (by simp [SessionRecord.ReadsOwn,SessionRecord.arm,held]) (by simp [SessionRecord.arm,held])
  | windowClosed listed outstanding found =>
    have before := owned _ _ found
    exact ⟨before.reads,before.recovered⟩
  | @handoffFenced _ operationId reason unconfirmed clock record prior toKind gen initiator sinceMs found held =>
    refine own_of_unread ?_ (by simp)
    have clean := careful (by simp [Registry.fenceUnconfirmedHandoffWithPrior,found,held])
    rw [Registry.record_of_get found] at clean
    exact readsOwn_fenced clean
  | @stopFenced _ operationId reason clock record owner priorGeneration gen initiator sinceMs found held =>
    refine own_of_unread ?_ (by simp)
    have before := owned _ _ found
    have current : gen = record.generation := by
      have := coherent _ _ found
      simp only [SessionRecord.Coherent,held] at this
      exact this.1
    cases reason with
    | staleStart =>
      intro fired
      have clean := careful (by simp [Registry.fenceUnconfirmedStop,found,held]) rfl
      rw [Registry.record_of_get found] at clean
      obtain ⟨owner,initiator,sinceMs,recovered⟩ | unset := clean
      · exact before.recovered _ _ _ _ _ recovered fired
      · rw [show record.settleFired = none from unset] at fired
        cases fired
    | staleStop =>
      have reads := before.reads
      simp only [SessionRecord.ReadsOwn,held,current] at reads
      exact reads
    | watcherFailed | platformLimited | clearedUnverified => trivial
  | @stopGranted _ operationId claim initiator nowMs record owner generation sinceMs found held free exactly own =>
    have clean := careful ⟨record.generation + 1,by simp [Registry.beginStop,found,held,free,exactly,own]⟩
    rw [Registry.record_of_get found] at clean
    exact own_of_unread (by simp [SessionRecord.ReadsOwn,clean]) (by simp)
  | stopRecovered found held =>
    have reads := (owned _ _ found).reads
    simp only [SessionRecord.ReadsOwn,held] at reads
    exact own_of_unread reads (by simp)

theorem owned_set {evidence : SessionKey → Evidence} {registry : Registry} {guards : List AttachGuard}
    (set : registry = watched.world.registry.set key record) (owned : watched.Owned) (mine : record.Own (evidence key))
    (others : ∀ other, other ≠ key → evidence other = watched.evidence other) :
    Watched.Owned ⟨⟨registry,guards⟩,evidence⟩ := by
  intro other held found
  subst set
  by_cases same : other = key
  · subst same
    obtain rfl := Option.some.inj ((Registry.get_set_self ..).symm.trans found)
    exact mine
  · show held.Own (evidence other)
    rw [others other same]
    exact owned other held ((Registry.get_set_of_ne _ _ same).symm.trans found)

theorem owned_step (op : Op) (owned : watched.Owned) (coherent : watched.world.Coherent) (careful : watched.Careful op) :
    (watched.step op).Owned := by
  cases op with
  | registerStartCancellation key operationId generation abort settle settleFired =>
    have registered := watched.world.registry.registerStartCancellation_cases key operationId generation abort settle settleFired
    simp only [Watched.step,Watched.registered,World.step,World.call]
    obtain refused | ⟨record,kind,initiator,sinceMs,found,held,accepted⟩ := registered
    · rw [refused]
      exact owned
    · rw [accepted]
      have before := owned key record found
      refine owned_set rfl owned ?_ fun other apart => Function.update_of_ne apart ..
      rw [if_pos rfl,Function.update_self]
      have reads := before.reads
      simp only [SessionRecord.ReadsOwn,held] at reads
      exact own_of_unread (by simpa [SessionRecord.ReadsOwn,held] using reads.2) (by simp [held])
  | registerPartialRuntime key operationId generation owner =>
    have registered := watched.world.registry.registerPartialRuntime_cases key operationId generation owner
    simp only [Watched.step,Watched.registered,World.step,World.call]
    by_cases own : (watched.world.registry.record key).isStarting operationId generation = true
    · rw [if_pos own]
      obtain ⟨kind,initiator,sinceMs,held⟩ := (SessionRecord.isStarting_iff _ _ _).mp own
      have found := Registry.get_of_not_vacant (show (watched.world.registry.record key).state ≠ .vacant by simp [held])
      have before := owned key _ found
      have accepted : watched.world.registry.registerPartialRuntime key operationId generation owner =
          watched.world.registry.set key { watched.world.registry.record key with partialRuntime := some owner } := by
        simp only [Registry.registerPartialRuntime,found,own,if_true]
      rw [accepted]
      refine owned_set rfl owned ?_ fun other apart => Function.update_of_ne apart ..
      rw [Function.update_self]
      have reads := before.reads
      simp only [SessionRecord.ReadsOwn,held] at reads
      exact own_of_unread (by simpa [SessionRecord.ReadsOwn,held] using reads.1) (by simp [held])
    · rw [if_neg own]
      obtain same | ⟨record,kind,initiator,sinceMs,found,held,-⟩ := registered
      · rw [same]
        exact owned
      · rw [Registry.record_of_get found] at own
        exact absurd ((SessionRecord.isStarting_iff _ _ _).mpr ⟨kind,initiator,sinceMs,held⟩) own
  | registerStopSettlement key operationId generation flag =>
    have registered := watched.world.registry.registerStopSettlement_cases key operationId generation flag
    simp only [Watched.step,Watched.registered,World.step,World.call]
    obtain refused | ⟨record,owner,priorGeneration,initiator,sinceMs,found,held,accepted⟩ := registered
    · rw [refused]
      exact owned
    · rw [accepted]
      have before := owned key record found
      refine owned_set rfl owned ?_ fun other apart => Function.update_of_ne apart ..
      rw [if_pos rfl,Function.update_self]
      exact ⟨by simp [SessionRecord.ReadsOwn,held],before.recovered⟩
  | rekeyStarting provider oldId newId operationId generation =>
    have moved := watched.world.registry.rekeyStarting_cases provider oldId newId operationId generation
    simp only [Watched.step,Watched.registered,World.step,World.call]
    obtain ⟨same,refused⟩ | ⟨record,kind,gen,initiator,sinceMs,found,current,held,absent,accepted⟩ := moved
    · rw [same,if_neg refused]
      exact owned
    · rw [accepted,if_pos rfl]
      have apart : (⟨provider,oldId⟩ : SessionKey) ≠ ⟨provider,newId⟩ := by
        intro same
        rw [same,absent] at found
        cases found
      have left : Watched.Owned ⟨⟨watched.world.registry.set ⟨provider,oldId⟩ (.fresh record.generation (.aliased newId generation)),
          watched.world.guards⟩,Function.update watched.evidence ⟨provider,oldId⟩ .none⟩ :=
        owned_set rfl owned (own_of_unread trivial (by simp [SessionRecord.fresh])) fun other apart => Function.update_of_ne apart ..
      refine owned_set rfl left ?_ fun other apart => Function.update_of_ne apart ..
      rw [Function.update_self]
      exact owned _ record found
  | recoverStaleStarts nowMs maxAgeMs fired =>
    intro key record found
    rw [show (watched.step (.recoverStaleStarts nowMs maxAgeMs fired)).world.registry.get key = _ from Registry.get_mapRecords ..]
      at found
    obtain ⟨before,there,rfl⟩ := Option.map_eq_some_iff.mp found
    show SessionRecord.Own _ (watched.evidence key)
    have own := owned key before there
    cases swept : recoverStart nowMs maxAgeMs fired key before with
    | none =>
      rw [Option.map_none,Option.getD_none]
      exact own
    | some recovered =>
      have clean := careful key before there (by rw [swept]; rfl)
      obtain ⟨kind,operationId,generation,initiator,sinceMs,held,after⟩ := recoverStart_some swept
      rw [Option.map_some,Option.getD_some,after]
      have reads := own.reads
      simp only [SessionRecord.ReadsOwn,held] at reads
      refine ⟨by simp [SessionRecord.ReadsOwn,clean],?_⟩
      rintro owner operationId' generation' initiator' sinceMs' ⟨⟩ fired
      exact reads.1 (.inr (.inr fired))
  | fenceUnconfirmedLive key operationId generation expectedRuntime reason clock =>
    have fenced := watched.world.registry.fenceUnconfirmedLive_cases key operationId generation expectedRuntime reason clock
    have careful : (watched.world.registry.fenceUnconfirmedLive key operationId generation expectedRuntime reason clock).1 =
        .fenced → (watched.world.registry.record key).flagOf reason = none ∨
          reason = .staleStart ∧ (watched.evidence key).start = some (operationId,generation) := careful
    simp only [Watched.step,Watched.registered,World.step,World.call]
    obtain refused | ⟨record,owner,sinceMs,found,current,held,stamped,accepted⟩ := fenced
    · rw [refused]
      exact owned
    · rw [accepted] at careful ⊢
      refine owned_set rfl owned (own_of_unread ?_ (by simp)) fun other apart => rfl
      obtain clean | ⟨rfl,started⟩ := careful rfl
      · rw [Registry.record_of_get found] at clean
        exact readsOwn_fenced clean
      · exact fun _ => started
  | _ =>
    intro key record found
    obtain same | ⟨changed,after,move⟩ := step_get watched.world _ key
    · exact owned key record (same.symm.trans found)
    · obtain rfl := Option.some.inj (after.symm.trans found)
      have mine : changed.Own (watched.evidence key) := own_move owned coherent careful move rfl
      exact mine

/-- Along every run of careful calls, whatever the sweeps read or take from a
    record was registered by the operation that its state names. -/
theorem watchdog_reads_own (epoch : Nat) {ops : List Op}
    (careful : Along Watched.step Watched.Careful (Watched.mint epoch) ops) (key : SessionKey) (record : SessionRecord) :
    let watched := run Watched.step (Watched.mint epoch) ops
    watched.world.registry.get key = some record → record.ReadsOwn (watched.evidence key) := by
  intro watched found
  have kept : ∀ (w : Watched) op, w.Owned ∧ w.world.Coherent → w.Careful op → (w.step op).Owned ∧ (w.step op).world.Coherent :=
    fun w op held careful => ⟨owned_step op held.1 held.2 careful,coherent_step w.world op held.2⟩
  have initial : (Watched.mint epoch).Owned ∧ (Watched.mint epoch).world.Coherent := by
    refine ⟨?_,coherent_mint epoch⟩
    intro key record found
    simp [Watched.mint,World.mint] at found
  exact ((invariant_run kept initial careful).1 key record found).reads

/-- A stop that registered its flag, after a start that registered its own. -/
theorem watchdog_reads_own_stop :
    let key : SessionKey := ⟨"codex","s"⟩
    let owner : OwnerIdentity := ⟨.terminal,some "term-1",none,none,none⟩
    let claim : StopClaim := ⟨.terminal,none,⟨7,1⟩⟩
    let watched := run Watched.step (.mint 7) [.beginStart key .terminal "start-1" none "device" 0 none,
      .registerStartCancellation key "start-1" 1 0 0 (some 0),.commitLive key "start-1" 1 owner 0,
      .beginStop key "stop-1" claim "device" 0,.registerStopSettlement key "stop-1" 2 1]
    (watched.world.registry.record key).ReadsOwn (watched.evidence key) := by
  intro key owner claim watched
  have careful : Along Watched.step Watched.Careful (.mint 7) [.beginStart key .terminal "start-1" none "device" 0 none,
      .registerStartCancellation key "start-1" 1 0 0 (some 0),.commitLive key "start-1" 1 owner 0,
      .beginStop key "stop-1" claim "device" 0,.registerStopSettlement key "stop-1" 2 1] :=
    ⟨trivial,trivial,trivial,fun _ => by decide,trivial,trivial⟩
  exact watchdog_reads_own 7 careful key _ (by decide)

/-- An aborted stop leaves its flag to the next stop of the key, which has
    registered none: the sweep would read the flag of the earlier operation. -/
theorem abortedStop_leavesFlag :
    let key : SessionKey := ⟨"codex","s"⟩
    let owner : OwnerIdentity := ⟨.terminal,some "term-1",none,none,none⟩
    let claim : StopClaim := ⟨.terminal,none,⟨7,1⟩⟩
    let watched := run Watched.step (.mint 7) [.beginStart key .terminal "start-1" none "device" 0 none,
      .commitLive key "start-1" 1 owner 0,.beginStop key "stop-1" claim "device" 0,.registerStopSettlement key "stop-1" 2 1,
      .abortStop key "stop-1" 2 0,.beginStop key "stop-2" claim "device" 0]
    (watched.world.registry.record key).stopSettled = some 1 ∧
      (watched.world.registry.record key).state.operationId = some "stop-2" ∧
      (watched.evidence key).stop = some ("stop-1",2) ∧
      ¬ (watched.world.registry.record key).ReadsOwn (watched.evidence key) := by
  intro key owner claim watched
  have state : (watched.world.registry.record key).state = .stopping (some (owner.stamped "start-1")) (some 1) "stop-2" 3 "device" 0 := by
    decide
  have flag : (watched.world.registry.record key).stopSettled = some 1 := by decide
  have registrant : (watched.evidence key).stop = some ("stop-1",2) := by decide
  refine ⟨flag,by rw [state]; rfl,registrant,?_⟩
  intro own
  simp only [SessionRecord.ReadsOwn,state,flag,registrant] at own
  exact absurd (own rfl) (by decide)

end Freshell.Ownership
