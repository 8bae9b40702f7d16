import Freshell.Creates.Dedupe

/-!
One attempt at a time under a request id. While an attempt works, its sentinel is the
entry of its id; what its waiters were registered for is what they were answered and
what they are still owed. A restore worker's cleanup is not scoped to its own
sentinel, so after its settle it must not find its id in flight again.
-/
namespace Freshell.Creates
open Freshell.Library.Tables Freshell.Library.Runs

def Attempt.reply {Frame : Type} (attempt : Attempt Frame) : Reply Frame :=
  match attempt.created with
  | some frame => .created frame
  | none => .error (waiterError attempt.requestId)

def Stage.isDone {Frame : Type} (stage : Stage Frame) : Bool :=
  match stage with
  | .settled => true
  | .finished => true
  | _ => false

namespace CreateDedupe
variable {Frame : Type}

/-- The sinks that were registered as waiters on an attempt, in order. -/
def waitersOf (dedupe : CreateDedupe Frame) (id : Nat) : List Sink :=
  (dedupe.registered.filter fun entry => entry.1 == id).map fun entry => entry.2

/-- The sinks that were sent a frame for an attempt, in order. -/
def answersOf (dedupe : CreateDedupe Frame) (id : Nat) : List Sink :=
  (dedupe.sent.filter fun entry => entry.1 == id).map fun entry => entry.2.1

structure Answered (dedupe : CreateDedupe Frame) : Prop where
  /-- No waiter is sent two frames for an attempt. -/
  atMostOne : ∀ id sink, (dedupe.answersOf id).count sink ≤ 1
  /-- A waiter on an attempt that has settled or was cleaned up was sent one. -/
  exactlyOne : ∀ id attempt sink, dedupe.attempts.lookup id = some attempt → attempt.stage.isDone = true →
    sink ∈ dedupe.waitersOf id → (dedupe.answersOf id).count sink = 1
  /-- Each frame went to a waiter of its attempt: the created frame if the attempt
      settled, and an error otherwise. -/
  owed : ∀ id sink reply, (id,sink,reply) ∈ dedupe.sent → sink ∈ dedupe.waitersOf id ∧
    ∃ attempt, dedupe.attempts.lookup id = some attempt ∧ reply = attempt.reply

structure Guards (dedupe : CreateDedupe Frame) (op : DedupeOp Frame) : Prop where
  /-- A `begin` proceeds only where no attempt works under its id. -/
  proceeds : ∀ id attempt, dedupe.attempts.lookup id = none → (dedupe.next op).attempts.lookup id = some attempt →
    ∀ other held, dedupe.attempts.lookup other = some held → held.requestId = attempt.requestId →
      held.stage ≠ .working
  /-- A cleanup leaves the sentinel of another attempt. -/
  cleans : ∀ id attempt, op = .work id .cleanup → dedupe.attempts.lookup id = some attempt → ∀ other, other ≠ id →
    dedupe.entries.inFlightGeneration attempt.requestId = some other →
      (dedupe.next op).entries.inFlightGeneration attempt.requestId = some other
  answered : (dedupe.next op).Answered

/-- The cleanup of a restore worker that has settled does not find its id in flight again. -/
def Quiet (dedupe : CreateDedupe Frame) (op : DedupeOp Frame) : Prop :=
  ∀ id attempt, op = .work id .cleanup → dedupe.attempts.lookup id = some attempt → attempt.stage = .settled →
    canonicalRestore attempt.restore = true → dedupe.entries.inFlightGeneration attempt.requestId = none

/-! ### The invariant -/

/-- The waiters that an attempt has not answered yet. -/
def outstanding (dedupe : CreateDedupe Frame) (attempt : Attempt Frame) : List Sink :=
  match attempt.stage with
  | .working =>
    match dedupe.entries.lookup attempt.requestId with
    | some (.inFlight _ waiters _) => waiters.map Waiter.sink
    | _ => []
  | .pruning _ waiters _ _ => waiters.map Waiter.sink
  | .answering _ waiters => waiters.map Waiter.sink
  | .failing _ waiters => waiters.map Waiter.sink
  | .settled => []
  | .finished => []

/-- What an attempt has settled with fits its stage. -/
def Staged (id : Nat) (attempt : Attempt Frame) : Prop :=
  match attempt.stage with
  | .working => attempt.created = none
  | .pruning created _ _ _ => attempt.created = some created
  | .answering created _ => attempt.created = some created
  | .failing generation _ => generation = id ∧ attempt.created = none
  | .settled => True
  | .finished => True

/-- An attempt with its sentinel, its captured generation and its waiters. -/
structure Sound (dedupe : CreateDedupe Frame) (id : Nat) (attempt : Attempt Frame) : Prop where
  sentinel : attempt.stage = .working →
    ∃ waiters, dedupe.entries.lookup attempt.requestId = some (.inFlight attempt.sink waiters id)
  unanswered : attempt.stage = .working → dedupe.answersOf id = []
  captured : ∀ generation, attempt.captured = some generation → generation = some id
  staged : Staged id attempt
  tally : dedupe.waitersOf id = dedupe.answersOf id ++ dedupe.outstanding attempt

structure Single (dedupe : CreateDedupe Frame) : Prop where
  fresh : ∀ id attempt, dedupe.attempts.lookup id = some attempt → id < dedupe.nextStarted
  sound : ∀ id attempt, dedupe.attempts.lookup id = some attempt → dedupe.Sound id attempt
  inFlight : ∀ requestId origin waiters id, dedupe.entries.lookup requestId = some (.inFlight origin waiters id) →
    ∃ attempt, dedupe.attempts.lookup id = some attempt ∧ attempt.requestId = requestId ∧ attempt.stage = .working
  nodup : ∀ id, (dedupe.waitersOf id).Nodup
  known : ∀ id sink, (id,sink) ∈ dedupe.registered → (dedupe.attempts.lookup id).isSome
  replies : ∀ id sink reply, (id,sink,reply) ∈ dedupe.sent →
    ∃ attempt, dedupe.attempts.lookup id = some attempt ∧ reply = attempt.reply

theorem single_new : (new : CreateDedupe Frame).Single where
  fresh _ _ found := by simp [new] at found
  sound _ _ found := by simp [new] at found
  inFlight _ _ _ _ found := by simp [new] at found
  nodup _ := List.nodup_nil
  known _ _ listed := by cases listed
  replies _ _ _ listed := by cases listed

variable {dedupe : CreateDedupe Frame}

variable {id : Nat} {sink : Sink}

theorem mem_waitersOf : sink ∈ dedupe.waitersOf id ↔ (id,sink) ∈ dedupe.registered := by
  simp [waitersOf]

theorem mem_answersOf : sink ∈ dedupe.answersOf id ↔ ∃ reply, (id,sink,reply) ∈ dedupe.sent := by
  simp [answersOf]

theorem Single.silent (single : dedupe.Single) (absent : dedupe.attempts.lookup id = none) :
    dedupe.waitersOf id = [] ∧ dedupe.answersOf id = [] := by
  constructor
  · refine List.eq_nil_iff_forall_not_mem.mpr fun sink listed => ?_
    have := single.known id sink (mem_waitersOf.mp listed)
    simp [absent] at this
  · refine List.eq_nil_iff_forall_not_mem.mpr fun sink listed => ?_
    obtain ⟨reply,sent⟩ := mem_answersOf.mp listed
    obtain ⟨attempt,found,-⟩ := single.replies id sink reply sent
    simp [absent] at found

theorem Single.answered (single : dedupe.Single) : dedupe.Answered where
  atMostOne id sink := by
    refine List.nodup_iff_count_le_one.mp ?_ sink
    cases found : dedupe.attempts.lookup id with
    | none =>
      rw [(single.silent found).2]
      exact List.nodup_nil
    | some attempt =>
      have nodup := single.nodup id
      rw [(single.sound id attempt found).tally] at nodup
      exact (List.nodup_append.mp nodup).1
  exactlyOne id attempt sink found done waits := by
    have tally := (single.sound id attempt found).tally
    have none_ : dedupe.outstanding attempt = [] := by
      unfold outstanding
      cases stage : attempt.stage <;> simp [stage,Stage.isDone] at done ⊢
    rw [none_,List.append_nil] at tally
    rw [← tally]
    exact List.count_eq_one_of_mem (single.nodup id) waits
  owed id sink reply sent := by
    obtain ⟨attempt,found,same⟩ := single.replies id sink reply sent
    refine ⟨?_,attempt,found,same⟩
    rw [(single.sound id attempt found).tally]
    exact List.mem_append_left _ (mem_answersOf.mpr ⟨reply,sent⟩)

theorem Single.sentinel (single : dedupe.Single) {id : Nat} {attempt : Attempt Frame}
    (found : dedupe.attempts.lookup id = some attempt) (working : attempt.stage = .working) :
    dedupe.entries.inFlightGeneration attempt.requestId = some id := by
  obtain ⟨waiters,sentinel⟩ := (single.sound id attempt found).sentinel working
  simp [Entries.inFlightGeneration,sentinel]

variable {entries : Entries Frame} {requestId : String}

theorem inFlightGeneration_some {generation : Nat} (inFlight : entries.inFlightGeneration requestId = some generation) :
    ∃ origin waiters, entries.lookup requestId = some (.inFlight origin waiters generation) := by
  unfold Entries.inFlightGeneration at inFlight
  split at inFlight
  next origin waiters started found =>
    obtain rfl := Option.some.inj inFlight
    exact ⟨origin,waiters,found⟩
  · cases inFlight

/-! ### Workers -/

def SameFlights (before after : Entries Frame) (requestId : String) : Prop :=
  ∀ origin waiters id, after.lookup requestId = some (.inFlight origin waiters id) ↔
    before.lookup requestId = some (.inFlight origin waiters id)

variable {after : CreateDedupe Frame} {attempt : Attempt Frame}

theorem outstanding_congr
    (same : attempt.stage = .working → SameFlights dedupe.entries after.entries attempt.requestId) :
    after.outstanding attempt = dedupe.outstanding attempt := by
  unfold outstanding
  cases stage : attempt.stage with
  | working =>
    have flights := same stage
    simp only
    cases here : dedupe.entries.lookup attempt.requestId with
    | none =>
      cases there : after.entries.lookup attempt.requestId with
      | none => rfl
      | some entry =>
        cases entry with
        | settled => rfl
        | inFlight origin waiters id =>
          have := (flights origin waiters id).mp there
          simp [here] at this
    | some entry =>
      cases entry with
      | inFlight origin waiters id => rw [(flights origin waiters id).mpr here]
      | settled =>
        cases there : after.entries.lookup attempt.requestId with
        | none => rfl
        | some entry =>
          cases entry with
          | settled => rfl
          | inFlight origin waiters id =>
            have := (flights origin waiters id).mp there
            simp [here] at this
  | _ => rfl

/-- A step of a worker: its attempt changes, and no sentinel but its own. -/
structure Works (dedupe : CreateDedupe Frame) (id : Nat) (attempt attempt' : Attempt Frame)
    (after : CreateDedupe Frame) : Prop where
  attempts : after.attempts = dedupe.attempts.insert id attempt'
  requestId : attempt'.requestId = attempt.requestId
  nextStarted : after.nextStarted = dedupe.nextStarted
  registered : after.registered = dedupe.registered
  flights : ∀ requestId, requestId ≠ attempt.requestId ∨ attempt.stage ≠ .working →
    SameFlights dedupe.entries after.entries requestId
  own : attempt.stage = .working → ∀ origin waiters other,
    after.entries.lookup attempt.requestId = some (.inFlight origin waiters other) →
      other = id ∧ attempt'.stage = .working
  sent : ∃ new, after.sent = dedupe.sent ++ new ∧ ∀ entry ∈ new, entry.1 = id ∧ entry.2.2 = attempt'.reply
  reply : attempt'.reply = attempt.reply ∨ attempt.stage = .working
  sound : after.Sound id attempt'

theorem Single.worked (single : dedupe.Single) {attempt' : Attempt Frame}
    (found : dedupe.attempts.lookup id = some attempt) (works : dedupe.Works id attempt attempt' after) :
    after.Single := by
  have lookup (other : Nat) : after.attempts.lookup other = if other = id then some attempt' else dedupe.attempts.lookup other := by
    rw [works.attempts,lookup_insert]
  obtain ⟨new,sent,fromOwn⟩ := works.sent
  have answers (other : Nat) (different : other ≠ id) : after.answersOf other = dedupe.answersOf other := by
    have none_ : new.filter (fun entry => entry.1 == other) = [] := by
      refine List.filter_eq_nil_iff.mpr fun entry listed => ?_
      rw [(fromOwn entry listed).1]
      simpa using Ne.symm different
    unfold answersOf
    rw [sent,List.filter_append,none_,List.append_nil]
  have waiters (other : Nat) : after.waitersOf other = dedupe.waitersOf other := by
    unfold waitersOf
    rw [works.registered]
  -- no two working attempts share a request id
  have apart {other : Nat} {held : Attempt Frame} (listed : dedupe.attempts.lookup other = some held)
      (different : other ≠ id) (working : held.stage = .working) :
      held.requestId ≠ attempt.requestId ∨ attempt.stage ≠ .working := by
    by_contra both
    obtain ⟨same,also⟩ := not_or.mp both
    have first := single.sentinel listed working
    rw [not_not.mp same,single.sentinel found (not_not.mp also)] at first
    exact different (Option.some.inj first).symm
  refine ⟨?_,?_,?_,?_,?_,?_⟩
  · intro other held listed
    rw [works.nextStarted]
    rw [lookup] at listed
    split at listed
    next same => exact same ▸ single.fresh id attempt found
    next => exact single.fresh other held listed
  · intro other held listed
    rw [lookup] at listed
    split at listed
    next same =>
      subst same
      rw [← Option.some.inj listed]
      exact works.sound
    next different =>
      have sound := single.sound other held listed
      refine ⟨fun working => ?_,fun working => ?_,sound.captured,sound.staged,?_⟩
      · obtain ⟨waiters,sentinel⟩ := sound.sentinel working
        exact ⟨waiters,(works.flights _ (apart listed different working) _ _ _).mpr sentinel⟩
      · rw [answers other different]
        exact sound.unanswered working
      · rw [waiters,answers other different,sound.tally,
          outstanding_congr fun working => works.flights _ (apart listed different working)]
  · intro requestId origin waiters other inFlight
    by_cases own : requestId = attempt.requestId ∧ attempt.stage = .working
    · obtain ⟨rfl,working⟩ := own
      obtain ⟨rfl,still⟩ := works.own working origin waiters other inFlight
      exact ⟨attempt',by rw [lookup,if_pos rfl],works.requestId,still⟩
    · have elsewhere : requestId ≠ attempt.requestId ∨ attempt.stage ≠ .working := not_and_or.mp own
      obtain ⟨held,listed,same,working⟩ :=
        single.inFlight requestId origin waiters other ((works.flights requestId elsewhere origin waiters other).mp inFlight)
      have different : other ≠ id := by
        rintro rfl
        obtain rfl := Option.some.inj (found.symm.trans listed)
        exact own ⟨same.symm,working⟩
      exact ⟨held,by rw [lookup,if_neg different]; exact listed,same,working⟩
  · intro other
    rw [waiters]
    exact single.nodup other
  · intro other sink listed
    rw [works.registered] at listed
    rw [lookup]
    split
    · rfl
    · exact single.known other sink listed
  · intro other sink reply listed
    rw [sent] at listed
    obtain earlier | isNew := List.mem_append.mp listed
    · obtain ⟨held,listed,same⟩ := single.replies other sink reply earlier
      by_cases different : other = id
      · subst different
        obtain rfl := Option.some.inj (found.symm.trans listed)
        refine ⟨attempt',by rw [lookup,if_pos rfl],?_⟩
        obtain kept | working := works.reply
        · rw [kept]
          exact same
        · have := (single.sound other attempt found).unanswered working
          have answered := mem_answersOf.mpr ⟨reply,earlier⟩
          simp [this] at answered
      · exact ⟨held,by rw [lookup,if_neg different]; exact listed,same⟩
    · obtain ⟨rfl,same⟩ := fromOwn _ isNew
      exact ⟨attempt',by rw [lookup,if_pos rfl],same⟩

theorem SameFlights.refl (entries : Entries Frame) (requestId : String) : SameFlights entries entries requestId :=
  fun _ _ _ => Iff.rfl

theorem Single.staged (single : dedupe.Single) {id : Nat} {attempt : Attempt Frame}
    (found : dedupe.attempts.lookup id = some attempt) (stage : Stage Frame) (idle : attempt.stage ≠ .working)
    (leaves : stage ≠ .working) (staged : Staged id { attempt with stage := stage })
    (tally : dedupe.outstanding { attempt with stage := stage } = dedupe.outstanding attempt) :
    (dedupe.setAttempt id { attempt with stage := stage }).Single := by
  have sound := single.sound id attempt found
  refine single.worked found ⟨rfl,rfl,rfl,rfl,fun _ _ => .refl _ _,fun working => absurd working idle,
    ⟨[],by simp [setAttempt],by simp⟩,.inl rfl,?_⟩
  refine ⟨fun working => absurd working leaves,fun working => absurd working leaves,sound.captured,staged,?_⟩
  show dedupe.waitersOf id = dedupe.answersOf id ++ dedupe.outstanding { attempt with stage := stage }
  rw [tally]
  exact sound.tally

theorem Single.sends (single : dedupe.Single) (found : dedupe.attempts.lookup id = some attempt) (stage : Stage Frame)
    (idle : attempt.stage ≠ .working) (leaves : stage ≠ .working) (staged : Staged id { attempt with stage := stage })
    (owed : dedupe.outstanding attempt = sink :: dedupe.outstanding { attempt with stage := stage }) :
    ({ dedupe with sent := dedupe.sent ++ [(id,sink,attempt.reply)] }.setAttempt id
      { attempt with stage := stage }).Single := by
  have sound := single.sound id attempt found
  refine single.worked found ⟨rfl,rfl,rfl,rfl,fun _ _ => .refl _ _,fun working => absurd working idle,
    ⟨[(id,sink,attempt.reply)],rfl,?_⟩,.inl rfl,?_⟩
  · intro entry listed
    rw [List.mem_singleton.mp listed]
    exact ⟨rfl,rfl⟩
  · refine ⟨fun working => absurd working leaves,fun working => absurd working leaves,sound.captured,staged,?_⟩
    show dedupe.waitersOf id = ((dedupe.sent ++ [(id,sink,attempt.reply)]).filter _).map _ ++
      dedupe.outstanding { attempt with stage := stage }
    rw [sound.tally,owed,List.filter_append,List.map_append]
    simp [answersOf]

/-! ### Settles and cleanups -/

theorem lookup_pruneOne (entries : Entries Frame) (dead : String × String) (requestId : String) :
    SameFlights entries (entries.pruneOne dead) requestId := by
  intro origin waiters id
  unfold Entries.pruneOne
  split
  next terminalId created restore found =>
    split
    · rw [lookup_erase]
      by_cases same : requestId = dead.1
      · subst same
        simp [found]
      · rw [if_neg same]
    · exact Iff.rfl
  · exact Iff.rfl

theorem flights_prune (entries : Entries Frame) (dead : List (String × String)) (requestId : String) :
    SameFlights entries (entries.prune dead) requestId := by
  unfold Entries.prune
  induction dead generalizing entries with
  | nil => exact .refl _ _
  | cons first rest ih =>
    intro origin waiters id
    exact (ih (entries.pruneOne first) origin waiters id).trans (lookup_pruneOne entries first requestId origin waiters id)

variable {waiters : List Waiter}

theorem Single.settles (single : dedupe.Single) (found : dedupe.attempts.lookup id = some attempt)
    (working : attempt.stage = .working) (terminalId : String) (created : Frame) {candidates : List (String × String)}
    (settled : dedupe.entries.settle attempt.requestId terminalId created attempt.restore = (waiters,candidates,entries)) :
    ({ dedupe with entries := entries }.setAttempt id { attempt with
      stage := .pruning created waiters candidates [], created := some created }).Single := by
  have sound := single.sound id attempt found
  obtain ⟨held,sentinel⟩ := sound.sentinel working
  simp only [Entries.settle,sentinel,Prod.mk.injEq] at settled
  obtain ⟨rfl,-,rfl⟩ := settled
  have elsewhere (requestId : String) (other : requestId ≠ attempt.requestId) : SameFlights dedupe.entries
      (dedupe.entries.insert attempt.requestId (.settled terminalId created (canonicalRestore attempt.restore))) requestId := by
    intro origin waiters other'
    rw [lookup_insert,if_neg other]
  refine single.worked found ⟨rfl,rfl,rfl,rfl,?_,?_,⟨[],by simp [setAttempt],by simp⟩,.inr working,?_⟩
  · intro requestId other
    exact elsewhere requestId (other.resolve_right (not_not.mpr working))
  · intro _ origin waiters other inFlight
    have inserted : (dedupe.entries.insert attempt.requestId (.settled terminalId created
      (canonicalRestore attempt.restore))).lookup attempt.requestId = some (.inFlight origin waiters other) := inFlight
    rw [lookup_insert,if_pos rfl] at inserted
    cases inserted
  · refine ⟨nofun,nofun,sound.captured,rfl,?_⟩
    show dedupe.waitersOf id = dedupe.answersOf id ++ held.map Waiter.sink
    rw [sound.tally]
    simp only [outstanding,working,sentinel]

/-- A cleanup takes the sentinel of a working attempt, and nothing of a settled one
    whose id is not in flight or is in flight under another generation. -/
theorem Single.clears (single : dedupe.Single) {id : Nat} {attempt : Attempt Frame}
    (found : dedupe.attempts.lookup id = some attempt) {generation : Option Nat}
    (reaches : generation = some id ∨ generation = none ∧
      (attempt.stage = .settled → dedupe.entries.inFlightGeneration attempt.requestId = none))
    (enabled : attempt.stage = .working ∨ attempt.stage = .settled) :
    (dedupe.cleared id attempt (dedupe.entries.clearInFlightGeneration attempt.requestId generation)).Single ∧
      ∀ other, other ≠ id → dedupe.entries.inFlightGeneration attempt.requestId = some other →
        (dedupe.entries.clearInFlightGeneration attempt.requestId generation).2 = dedupe.entries := by
  have sound := single.sound id attempt found
  obtain working | settled := enabled
  · obtain ⟨waiters,sentinel⟩ := sound.sentinel working
    have matches_ : generation.all (· == id) = true := by
      obtain rfl | ⟨rfl,-⟩ := reaches <;> simp
    simp only [cleared,Entries.clearInFlightGeneration,sentinel,matches_,if_true]
    constructor
    · refine single.worked found ⟨rfl,rfl,rfl,rfl,?_,?_,⟨[],by simp [setAttempt],by simp⟩,.inl rfl,?_⟩
      · intro requestId other origin waiters generation
        show (dedupe.entries.erase attempt.requestId).lookup requestId = _ ↔ _
        rw [lookup_erase,if_neg (other.resolve_right (not_not.mpr working))]
      · intro _ origin waiters other inFlight
        have erased : (dedupe.entries.erase attempt.requestId).lookup attempt.requestId =
          some (.inFlight origin waiters other) := inFlight
        rw [lookup_erase,if_pos rfl] at erased
        cases erased
      · refine ⟨nofun,nofun,sound.captured,?_,?_⟩
        · have staged := sound.staged
          simp only [Staged,working] at staged
          exact ⟨rfl,staged⟩
        · show dedupe.waitersOf id = dedupe.answersOf id ++ waiters.map Waiter.sink
          rw [sound.tally]
          simp only [outstanding,working,sentinel]
    · intro other different inFlight
      rw [single.sentinel found working] at inFlight
      exact absurd (Option.some.inj inFlight).symm different
  · -- the entry is no sentinel, or one of another attempt
    have kept : dedupe.entries.clearInFlightGeneration attempt.requestId generation = (none,dedupe.entries) := by
      unfold Entries.clearInFlightGeneration
      split
      next origin waiters started entry =>
        obtain rfl | ⟨rfl,absent⟩ := reaches
        · have different : started ≠ id := by
            rintro rfl
            obtain ⟨held,listed,-,working⟩ := single.inFlight _ origin waiters started entry
            obtain rfl := Option.some.inj (found.symm.trans listed)
            simp [settled] at working
          rw [if_neg (by simpa using Ne.symm different)]
        · have none_ := absent settled
          simp [Entries.inFlightGeneration,entry] at none_
      · rfl
    rw [kept]
    exact ⟨single.staged found .finished (by simp [settled]) nofun trivial (by simp [outstanding,settled]),fun _ _ _ => rfl⟩

theorem Single.captures (single : dedupe.Single) (found : dedupe.attempts.lookup id = some attempt)
    (working : attempt.stage = .working) : (dedupe.setAttempt id { attempt with
      captured := some (dedupe.entries.inFlightGeneration attempt.requestId) }).Single := by
  have sound := single.sound id attempt found
  refine single.worked found ⟨rfl,rfl,rfl,rfl,fun _ _ => .refl _ _,?_,⟨[],by simp [setAttempt],by simp⟩,.inl rfl,?_⟩
  · intro _ origin waiters other inFlight
    obtain ⟨held,sentinel⟩ := sound.sentinel working
    obtain ⟨-,-,same⟩ := DedupeEntry.inFlight.inj (Option.some.inj (sentinel.symm.trans inFlight))
    exact ⟨same.symm,working⟩
  · refine ⟨sound.sentinel,sound.unanswered,fun generation captured => ?_,sound.staged,sound.tally⟩
    rw [← Option.some.inj captured]
    exact single.sentinel found working

theorem Single.cleanedUp (single : dedupe.Single) (found : dedupe.attempts.lookup id = some attempt)
    (quiet : attempt.stage = .settled → canonicalRestore attempt.restore = true →
      dedupe.entries.inFlightGeneration attempt.requestId = none)
    (enabled : attempt.stage = .working ∨ attempt.stage = .settled) : (dedupe.runCleanup id attempt).Single ∧
      ∀ other, other ≠ id → dedupe.entries.inFlightGeneration attempt.requestId = some other →
        (dedupe.runCleanup id attempt).entries = dedupe.entries := by
  have sound := single.sound id attempt found
  unfold runCleanup
  cases restores : canonicalRestore attempt.restore with
  | true =>
    simp only [Attempt.cleanup,restores,if_true,Entries.clearIfInFlight]
    exact single.clears found (.inr ⟨rfl,fun settled => quiet settled restores⟩) enabled
  | false =>
    simp only [Attempt.cleanup,restores,Bool.false_eq_true,if_false]
    cases captured : attempt.captured with
    | none => exact ⟨single,fun _ _ _ => rfl⟩
    | some generation =>
      obtain rfl := sound.captured generation captured
      exact single.clears found (.inl rfl) enabled

theorem Single.work (single : dedupe.Single) (found : dedupe.attempts.lookup id = some attempt) (op : WorkerOp Frame)
    (quiet : op = .cleanup → attempt.stage = .settled → canonicalRestore attempt.restore = true →
      dedupe.entries.inFlightGeneration attempt.requestId = none) : (dedupe.work id attempt op).Single := by
  have staged := (single.sound id attempt found).staged
  cases op with
  | capture =>
    simp only [CreateDedupe.work]
    split
    next working => exact single.captures found working
    · exact single
  | settle terminalId created =>
    simp only [CreateDedupe.work]
    split
    · exact single
    next working _ => exact single.settles found working terminalId created rfl
    · exact single
  | probeCandidate =>
    simp only [CreateDedupe.work]
    split
    next created waiters candidate rest dead stage =>
      refine single.staged found _ (by simp [stage]) nofun ?_ ?_
      · simpa only [Staged,stage] using staged
      · simp [outstanding,stage]
    · exact single
  | prune =>
    simp only [CreateDedupe.work]
    split
    next created waiters dead stage =>
      have sound := single.sound id attempt found
      refine single.worked found ⟨rfl,rfl,rfl,rfl,fun _ _ => flights_prune _ _ _,fun working => ?_,
        ⟨[],by simp [setAttempt],by simp⟩,.inl rfl,nofun,nofun,sound.captured,?_,?_⟩
      · simp [stage] at working
      · simpa only [Staged,stage] using staged
      · show dedupe.waitersOf id = dedupe.answersOf id ++ waiters.map Waiter.sink
        rw [sound.tally]
        simp only [outstanding,stage]
    · exact single
  | answer =>
    simp only [CreateDedupe.work]
    split
    next created waiter rest stage =>
      have reply : Reply.created created = attempt.reply := by
        simp only [Staged,stage] at staged
        simp only [Attempt.reply,staged]
      rw [reply]
      refine single.sends found (.answering created rest) (by simp [stage]) nofun ?_ ?_
      · simpa only [Staged,stage] using staged
      · simp [outstanding,stage]
    next stage => exact single.staged found .settled (by simp [stage]) nofun trivial (by simp [outstanding,stage])
    · exact single
  | cleanup =>
    simp only [CreateDedupe.work]
    split
    next stage => exact (single.cleanedUp found (quiet rfl) (.inl stage)).1
    next stage => exact (single.cleanedUp found (quiet rfl) (.inr stage)).1
    · exact single
  | fail =>
    simp only [CreateDedupe.work]
    split
    next generation waiter rest stage =>
      simp only [Staged,stage] at staged
      obtain ⟨rfl,unsettled⟩ := staged
      have reply : Reply.error (waiterError attempt.requestId) = attempt.reply := by
        simp only [Attempt.reply,unsettled]
      rw [reply]
      refine single.sends found (.failing generation rest) (by simp [stage]) nofun ⟨rfl,unsettled⟩ ?_
      simp [outstanding,stage]
    next stage => exact single.staged found .finished (by simp [stage]) nofun trivial (by simp [outstanding,stage])
    · exact single

/-! ### Begins -/

theorem Single.proceeds (single : dedupe.Single) (restore : Option Bool)
    (free : ∀ origin waiters id, dedupe.entries.lookup requestId ≠ some (.inFlight origin waiters id)) :
    (dedupe.begun requestId sink restore .proceed
      (dedupe.entries.insert requestId (Entries.freshSentinel sink dedupe.nextStarted))).Single := by
  let after := dedupe.begun requestId sink restore .proceed
    (dedupe.entries.insert requestId (Entries.freshSentinel sink dedupe.nextStarted))
  have absent : dedupe.attempts.lookup dedupe.nextStarted = none := by
    by_contra listed
    obtain ⟨attempt,found⟩ := Option.ne_none_iff_exists'.mp listed
    exact absurd (single.fresh _ attempt found) (Nat.lt_irrefl _)
  have lookup (id : Nat) : after.attempts.lookup id = if id = dedupe.nextStarted then
      some ⟨requestId,sink,restore,none,.working,none⟩ else dedupe.attempts.lookup id := lookup_insert ..
  have entry (other : String) : after.entries.lookup other = if other = requestId then
      some (Entries.freshSentinel sink dedupe.nextStarted) else dedupe.entries.lookup other := lookup_insert ..
  have keeps {id : Nat} {attempt : Attempt Frame} (found : dedupe.attempts.lookup id = some attempt) :
      after.attempts.lookup id = some attempt := by
    rw [lookup,if_neg]
    · exact found
    · rintro rfl
      rw [absent] at found
      cases found
  refine ⟨?_,?_,?_,single.nodup,?_,?_⟩
  · intro id attempt found
    rw [lookup] at found
    show id < dedupe.nextStarted + 1
    split at found
    · omega
    · exact Nat.lt_succ_of_lt (single.fresh id attempt found)
  · intro id attempt found
    rw [lookup] at found
    split at found
    next isNew =>
      subst isNew
      obtain rfl := Option.some.inj found
      have silent := single.silent absent
      refine ⟨fun _ => ⟨[],by rw [entry,if_pos rfl]; rfl⟩,fun _ => silent.2,nofun,rfl,?_⟩
      show dedupe.waitersOf dedupe.nextStarted = dedupe.answersOf dedupe.nextStarted ++ after.outstanding _
      rw [silent.1,silent.2]
      simp [outstanding,entry,Entries.freshSentinel]
    next =>
      have sound := single.sound id attempt found
      have other (working : attempt.stage = .working) : attempt.requestId ≠ requestId := by
        rintro rfl
        obtain ⟨waiters,sentinel⟩ := sound.sentinel working
        exact free _ _ _ sentinel
      refine ⟨fun working => ?_,sound.unanswered,sound.captured,sound.staged,sound.tally.trans ?_⟩
      · rw [entry,if_neg (other working)]
        exact sound.sentinel working
      · have same : after.outstanding attempt = dedupe.outstanding attempt :=
          outstanding_congr fun working origin waiters id => by rw [entry,if_neg (other working)]
        show _ = dedupe.answersOf id ++ after.outstanding attempt
        rw [same]
  · intro other origin waiters id found
    rw [entry] at found
    split at found
    next same =>
      obtain ⟨-,-,rfl⟩ := DedupeEntry.inFlight.inj (Option.some.inj found)
      exact ⟨_,by rw [lookup,if_pos rfl],same.symm,rfl⟩
    next =>
      obtain ⟨attempt,held,facts⟩ := single.inFlight other origin waiters id found
      exact ⟨attempt,keeps held,facts⟩
  · intro id sink listed
    obtain ⟨attempt,found⟩ := Option.isSome_iff_exists.mp (single.known id sink listed)
    rw [keeps found]
    rfl
  · intro id sink reply listed
    obtain ⟨attempt,found,same⟩ := single.replies id sink reply listed
    exact ⟨attempt,keeps found,same⟩

/-- A `begin` whose id is in flight registers its sink as a waiter, unless it is known. -/
theorem Single.joins (single : dedupe.Single) {origin : Sink}
    (inFlight : dedupe.entries.lookup requestId = some (.inFlight origin waiters id)) (sink : Sink) (connId : Nat)
    (restore : Option Bool) : (dedupe.begun requestId sink restore .duplicateInFlight (dedupe.entries.insert requestId
      (.inFlight origin (noteDuplicateInFlight sink origin waiters connId) id))).Single := by
  obtain ⟨attempt,found,rfl,working⟩ := single.inFlight requestId origin waiters id inFlight
  let after := dedupe.begun attempt.requestId sink restore .duplicateInFlight (dedupe.entries.insert attempt.requestId
    (.inFlight origin (noteDuplicateInFlight sink origin waiters connId) id))
  have entry (other : String) : after.entries.lookup other = if other = attempt.requestId then
      some (.inFlight origin (noteDuplicateInFlight sink origin waiters connId) id)
      else dedupe.entries.lookup other := lookup_insert ..
  have tally := (single.sound id attempt found).tally
  rw [(single.sound id attempt found).unanswered working,List.nil_append] at tally
  simp only [outstanding,working,inFlight] at tally
  -- the new waiter is the one sink of the registration
  obtain ⟨new,registration,waiting,unknown⟩ : ∃ new : List Sink,
      after.registered = dedupe.registered ++ new.map (fun sink => (id,sink)) ∧
        (noteDuplicateInFlight sink origin waiters connId).map Waiter.sink = waiters.map Waiter.sink ++ new ∧
          (waiters.map Waiter.sink ++ new).Nodup := by
    have nodup := single.nodup id
    rw [tally] at nodup
    by_cases knows : (origin == sink || waiters.any fun waiter => waiter.sink == sink) = true
    · refine ⟨[],?_,?_,by simpa using nodup⟩
      · simp [after,begun,CreateDedupe.registration,inFlight,knows]
      · simp [noteDuplicateInFlight,knows]
    · refine ⟨[sink],?_,?_,?_⟩
      · simp [after,begun,CreateDedupe.registration,inFlight,knows]
      · simp [noteDuplicateInFlight,knows]
      · refine List.nodup_append.mpr ⟨nodup,List.nodup_singleton _,?_⟩
        rintro other listed _ isNew rfl
        obtain ⟨waiter,waits,rfl⟩ := List.mem_map.mp listed
        refine knows (Bool.or_eq_true_iff.mpr (.inr (List.any_eq_true.mpr ⟨waiter,waits,?_⟩)))
        simpa using isNew
  have waitersOf (other : Nat) : after.waitersOf other = dedupe.waitersOf other ++ if other = id then new else [] := by
    unfold CreateDedupe.waitersOf
    rw [registration,List.filter_append,List.map_append]
    congr 1
    split
    next same => simp [same,List.filter_map,Function.comp_def]
    next different => simp [List.filter_map,Function.comp_def,Ne.symm different]
  refine ⟨single.fresh,?_,?_,?_,?_,single.replies⟩
  · intro other held listed
    have sound := single.sound other held listed
    refine ⟨fun here => ?_,sound.unanswered,sound.captured,sound.staged,?_⟩
    · obtain ⟨list,sentinel⟩ := sound.sentinel here
      rw [entry]
      split
      next same =>
        rw [same,inFlight] at sentinel
        obtain ⟨rfl,-,rfl⟩ := DedupeEntry.inFlight.inj (Option.some.inj sentinel)
        exact ⟨_,rfl⟩
      next => exact ⟨list,sentinel⟩
    · rw [waitersOf]
      show _ = dedupe.answersOf other ++ after.outstanding held
      by_cases same : other = id
      · subst same
        obtain rfl := Option.some.inj (found.symm.trans listed)
        rw [if_pos rfl,sound.unanswered working,tally,← waiting]
        simp [outstanding,working,entry]
      · rw [if_neg same,List.append_nil,sound.tally]
        congr 1
        refine (outstanding_congr fun here other' waiters' id' => ?_).symm
        rw [entry,if_neg]
        rintro elsewhere
        obtain ⟨list,sentinel⟩ := sound.sentinel here
        rw [elsewhere,inFlight] at sentinel
        exact same (DedupeEntry.inFlight.inj (Option.some.inj sentinel)).2.2.symm
  · intro other origin' waiters' id' listed
    rw [entry] at listed
    split at listed
    next same =>
      obtain ⟨-,-,rfl⟩ := DedupeEntry.inFlight.inj (Option.some.inj listed)
      exact ⟨attempt,found,same.symm,working⟩
    next => exact single.inFlight other origin' waiters' id' listed
  · intro other
    rw [waitersOf]
    split
    next same =>
      rw [same,tally]
      exact unknown
    next =>
      rw [List.append_nil]
      exact single.nodup other
  · intro other sink' listed
    rw [registration] at listed
    obtain earlier | isNew := List.mem_append.mp listed
    · exact single.known other sink' earlier
    · obtain ⟨_,-,same⟩ := List.mem_map.mp isNew
      obtain ⟨rfl,-⟩ := Prod.mk.inj same
      exact Option.isSome_iff_exists.mpr ⟨attempt,found⟩

/-- What a critical section of `begin` decides: it joins what is in flight, and else
    proceeds under a new sentinel or replays. -/
inductive Decides (dedupe : CreateDedupe Frame) (requestId : String) (sink : Sink) (connId : Nat) :
    DedupeDecision Frame → Entries Frame → Prop where
  | joins {origin : Sink} {waiters : List Waiter} {id : Nat}
      (inFlight : dedupe.entries.lookup requestId = some (.inFlight origin waiters id)) :
      Decides dedupe requestId sink connId .duplicateInFlight (dedupe.entries.insert requestId
        (.inFlight origin (noteDuplicateInFlight sink origin waiters connId) id))
  | proceeds (free : ∀ origin waiters id, dedupe.entries.lookup requestId ≠ some (.inFlight origin waiters id)) :
      Decides dedupe requestId sink connId .proceed
        (dedupe.entries.insert requestId (Entries.freshSentinel sink dedupe.nextStarted))
  | replays (created : Frame) : Decides dedupe requestId sink connId (.duplicateSettled created) dedupe.entries

variable {connId : Nat} {decision : DedupeDecision Frame}

theorem classify_decides
    (classified : dedupe.entries.classify requestId sink connId dedupe.nextStarted = (.decided decision,entries)) :
    dedupe.Decides requestId sink connId decision entries := by
  unfold Entries.classify at classified
  split at classified
  next inFlight =>
    obtain ⟨same,rfl⟩ := Prod.mk.inj classified
    rw [← Classified.decided.inj same]
    exact .joins inFlight
  · exact nomatch (Prod.mk.inj classified).1
  next absent =>
    obtain ⟨same,rfl⟩ := Prod.mk.inj classified
    rw [← Classified.decided.inj same]
    exact .proceeds (by simp [absent])

theorem revalidate_decides (requestId : String) (sink : Sink) (connId : Nat) (restore : Option Bool)
    (settledTid : String) (settledRestore running : Bool) :
    let result := dedupe.entries.revalidate requestId sink connId dedupe.nextStarted restore settledTid settledRestore
      running
    dedupe.Decides requestId sink connId result.1 result.2 := by
  unfold Entries.revalidate
  cases entry : dedupe.entries.lookup requestId with
  | none => exact .proceeds (by simp [entry])
  | some held =>
    cases held with
    | inFlight origin waiters id => exact .joins entry
    | settled terminalId created nowRestore =>
      have either (replays : Bool) :
          let result := if replays then (.duplicateSettled created,dedupe.entries)
            else (.proceed,dedupe.entries.insert requestId (Entries.freshSentinel sink dedupe.nextStarted))
          dedupe.Decides requestId sink connId result.1 result.2 := by
        cases replays with
        | true => exact .replays created
        | false => exact .proceeds (by simp [entry])
      exact either _

theorem Single.recalled (single : dedupe.Single) (calls : Table Nat PendingBegin) (exited : List String) :
    ({ dedupe with calls := calls, exited := exited } : CreateDedupe Frame).Single where
  fresh := single.fresh
  sound id attempt found := by
    have sound := single.sound id attempt found
    exact ⟨sound.sentinel,sound.unanswered,sound.captured,sound.staged,sound.tally⟩
  inFlight := single.inFlight
  nodup := single.nodup
  known := single.known
  replies := single.replies

theorem Single.begun (single : dedupe.Single) (restore : Option Bool)
    (decides : dedupe.Decides requestId sink connId decision entries) :
    (dedupe.begun requestId sink restore decision entries).Single ∧
      ∀ id attempt, dedupe.attempts.lookup id = none →
        (dedupe.begun requestId sink restore decision entries).attempts.lookup id = some attempt →
          ∀ other held, dedupe.attempts.lookup other = some held → held.requestId = attempt.requestId →
            held.stage ≠ .working := by
  cases decides with
  | joins inFlight =>
    refine ⟨single.joins inFlight sink connId restore,fun id attempt absent found => ?_⟩
    simp [CreateDedupe.begun,absent] at found
  | replays created =>
    refine ⟨single.recalled dedupe.calls dedupe.exited,fun id attempt absent found => ?_⟩
    simp [CreateDedupe.begun,absent] at found
  | proceeds free =>
    refine ⟨single.proceeds restore free,fun id attempt absent found other held listed same working => ?_⟩
    simp only [CreateDedupe.begun,lookup_insert,absent] at found
    split at found
    · obtain rfl := Option.some.inj found
      obtain ⟨waiters,sentinel⟩ := (single.sound other held listed).sentinel working
      exact free _ _ _ (same ▸ sentinel)
    · cases found

theorem work_absent {other : Nat} (found : dedupe.attempts.lookup id = some attempt) (op : WorkerOp Frame)
    (absent : dedupe.attempts.lookup other = none) : (dedupe.work id attempt op).attempts.lookup other = none := by
  have different : other ≠ id := by
    rintro rfl
    rw [found] at absent
    cases absent
  have set (after : CreateDedupe Frame) (same : after.attempts = dedupe.attempts) (attempt' : Attempt Frame) :
      (after.setAttempt id attempt').attempts.lookup other = none := by
    simp only [setAttempt,same,lookup_insert,if_neg different,absent]
  have cleaned : (dedupe.runCleanup id attempt).attempts.lookup other = none := by
    unfold runCleanup
    split
    · exact absent
    · exact set _ rfl _
    · exact set _ rfl _
    · exact set _ rfl _
  cases op with
  | capture =>
    simp only [CreateDedupe.work]
    split
    · exact set _ rfl _
    · exact absent
  | settle terminalId created =>
    simp only [CreateDedupe.work]
    split
    · exact absent
    · exact set _ rfl _
    · exact absent
  | probeCandidate =>
    simp only [CreateDedupe.work]
    split
    · exact set _ rfl _
    · exact absent
  | prune =>
    simp only [CreateDedupe.work]
    split
    · exact set _ rfl _
    · exact absent
  | answer =>
    simp only [CreateDedupe.work]
    split
    · exact set _ rfl _
    · exact set _ rfl _
    · exact absent
  | cleanup =>
    simp only [CreateDedupe.work]
    split
    · exact cleaned
    · exact cleaned
    · exact absent
  | fail =>
    simp only [CreateDedupe.work]
    split
    · exact set _ rfl _
    · exact set _ rfl _
    · exact absent

/-! ### Runs -/

/-- A step keeps the invariant, and a `begin` in it proceeds only where no attempt works. -/
theorem Single.next (single : dedupe.Single) (op : DedupeOp Frame) (quiet : dedupe.Quiet op) :
    (dedupe.next op).Single ∧ ∀ id attempt, dedupe.attempts.lookup id = none →
      (dedupe.next op).attempts.lookup id = some attempt → ∀ other held, dedupe.attempts.lookup other = some held →
        held.requestId = attempt.requestId → held.stage ≠ .working := by
  have same {after : CreateDedupe Frame} (attempts : after.attempts = dedupe.attempts) :
      ∀ id attempt, dedupe.attempts.lookup id = none → after.attempts.lookup id = some attempt →
        ∀ other held, dedupe.attempts.lookup other = some held → held.requestId = attempt.requestId →
          held.stage ≠ .working := by
    intro id attempt absent found
    rw [attempts,absent] at found
    cases found
  cases op with
  | classify call requestId sink connId restore =>
    simp only [CreateDedupe.next]
    split
    · exact ⟨single,same rfl⟩
    · split
      next classified => exact single.begun restore (classify_decides classified)
      · exact ⟨single.recalled _ _,same rfl⟩
  | probe call =>
    simp only [CreateDedupe.next]
    split
    · exact ⟨single,same rfl⟩
    · exact ⟨single.recalled _ _,same rfl⟩
  | revalidate call =>
    simp only [CreateDedupe.next]
    split
    · exact ⟨single,same rfl⟩
    next pending _ =>
      split
      · exact ⟨single,same rfl⟩
      next running _ =>
        exact (single.recalled (dedupe.calls.erase call) dedupe.exited).begun pending.restore
          (revalidate_decides pending.requestId pending.sink pending.connId pending.restore pending.settledTid
            pending.settledRestore running)
  | work id op =>
    cases found : dedupe.attempts.lookup id with
    | none =>
      simp only [CreateDedupe.next,found]
      exact ⟨single,same rfl⟩
    | some attempt =>
      simp only [CreateDedupe.next,found]
      refine ⟨single.work found op fun isCleanup => quiet id attempt (by rw [isCleanup]) found,?_⟩
      intro other held absent listed
      rw [work_absent found op absent] at listed
      cases listed
  | exit terminalId => exact ⟨single.recalled _ _,same rfl⟩

theorem Single.cleans (single : dedupe.Single) (quiet : dedupe.Quiet (.work id .cleanup))
    (found : dedupe.attempts.lookup id = some attempt) {other : Nat} (different : other ≠ id)
    (inFlight : dedupe.entries.inFlightGeneration attempt.requestId = some other) :
    (dedupe.next (.work id .cleanup)).entries.inFlightGeneration attempt.requestId = some other := by
  have cleaned := fun enabled => (single.cleanedUp found (quiet id attempt rfl found) enabled).2 other different inFlight
  simp only [CreateDedupe.next,found,CreateDedupe.work]
  split
  next stage => rw [cleaned (.inl stage),inFlight]
  next stage => rw [cleaned (.inr stage),inFlight]
  · exact inFlight

theorem Single.guards (single : dedupe.Single) (op : DedupeOp Frame) (quiet : dedupe.Quiet op) : dedupe.Guards op where
  proceeds := (single.next op quiet).2
  cleans id attempt isCleanup found other different inFlight := by
    subst isCleanup
    exact single.cleans quiet found different inFlight
  answered := (single.next op quiet).1.answered

/-- A cleanup of a settled restore worker that finds its id in flight removes the
    sentinel of another attempt. -/
theorem Single.quiet (single : dedupe.Single) (op : DedupeOp Frame) (guards : dedupe.Guards op) : dedupe.Quiet op := by
  rintro id attempt rfl found settled restores
  by_contra inFlight
  obtain ⟨other,inFlight⟩ := Option.ne_none_iff_exists'.mp inFlight
  obtain ⟨origin,waiters,entry⟩ := inFlightGeneration_some inFlight
  have different : other ≠ id := by
    rintro rfl
    obtain ⟨held,listed,-,working⟩ := single.inFlight _ origin waiters other entry
    obtain rfl := Option.some.inj (found.symm.trans listed)
    simp [settled] at working
  have kept := guards.cleans id attempt rfl found other different inFlight
  have erased : (dedupe.next (.work id .cleanup)).entries = dedupe.entries.erase attempt.requestId := by
    simp [CreateDedupe.next,found,CreateDedupe.work,settled,runCleanup,Attempt.cleanup,restores,cleared,setAttempt,
      Entries.clearIfInFlight,Entries.clearInFlightGeneration,entry]
  rw [erased] at kept
  simp [Entries.inFlightGeneration] at kept

/-- **One attempt for each request id.** Over a run, attempts under one id do not
    overlap, cleanups leave the sentinels of others and every waiter is sent its one
    frame if, and only if, no restore worker that has settled finds its id in flight
    again when it cleans up. -/
theorem singleFlight_run (ops : List (DedupeOp Frame)) :
    Along next Guards (new : CreateDedupe Frame) ops ↔ Along next Quiet (new : CreateDedupe Frame) ops := by
  have from_ (start : CreateDedupe Frame) (single : start.Single) :
      Along next Guards start ops ↔ Along next Quiet start ops := by
    induction ops generalizing start with
    | nil => exact Iff.rfl
    | cons op rest ih =>
      constructor
      · rintro ⟨guards,along⟩
        have quiet := single.quiet op guards
        exact ⟨quiet,(ih _ (single.next op quiet).1).mp along⟩
      · rintro ⟨quiet,along⟩
        exact ⟨single.guards op quiet,(ih _ (single.next op quiet).1).mpr along⟩
  exact from_ new single_new

/-- A restore create settles, a create of the same id without the flag begins, and
    only then the restore worker cleans up. -/
def lateCleanup : List (DedupeOp Unit) :=
  [.classify 0 "r" 1 1 (some true),.work 0 (.settle "t" ()),.work 0 .prune,.work 0 .answer,
    .classify 1 "r" 2 2 none,.probe 1,.revalidate 1,.work 0 .cleanup]

/-- The cleanup removes the sentinel of the second create, so that a third proceeds
    while the second works. -/
theorem lateCleanup_freesId : ¬∀ ops : List (DedupeOp Unit), Along next Guards new ops := by
  intro guards
  have along := guards (lateCleanup ++ [.classify 2 "r" 3 3 none])
  have last := ((along_append _ _ _ _ _).mp along).2.1
  exact last.proceeds 2 ⟨"r",3,none,none,.working,none⟩ rfl rfl 1 ⟨"r",2,none,none,.working,none⟩ rfl rfl rfl

end CreateDedupe
end Freshell.Creates
