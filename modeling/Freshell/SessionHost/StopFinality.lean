import Freshell.Library.Runs
import Freshell.SessionHost.Grants

/-!
When a stop is final. At most one worker is launched in a boot whatever happens; a stop
answered `Stopped` leaves none running only if no worker is launched behind its back.
-/
namespace Freshell.SessionHost.Grants
open Freshell.Library.Runs Freshell.Library.Tables

def Consistent : Event → Event → Prop
  | .answered (.grantExecution earlier) (.grantAccepted _), .launched request _ =>
    earlier.controlEpoch ≤ request.controlEpoch ∧ earlier.executionGeneration ≤ request.executionGeneration
  | .answered (.stop _) .stopped, .launched _ _ => False
  | .answered (.grantExecution first) (.grantAccepted result), .answered (.grantExecution second) later =>
    second = first → later = .grantAccepted result
  | _, _ => True

namespace Host

/-- What is to hold of a boot: one worker at most; none is launched after a stop was
    answered, nor below the fences of an accepted grant; a grant repeated after its
    acceptance has the same result; and behind an answered stop nothing runs. -/
structure Settled (host : Host) : Prop where
  once : host.launches.length ≤ 1
  consistent : host.history.Pairwise Consistent
  final : ∀ request, .answered (.stop request) .stopped ∈ host.history → host.alive = []

/-- The grant is the one this boot has consumed, or names it again. -/
def Granted (host : Host) (request : GrantExecutionRequest) : Prop :=
  host.grantId = some request.grantId ∧ host.stale request.controlEpoch request.executionGeneration = false ∧
    request.incarnationId = host.incarnationId ∧ request.hostBootId = host.hostBootId

end Host

def Workload.rank : Workload → Nat
  | .fixture => 0
  | .terminal => 1
  | .freshAgent => 2

variable {workload : Workload}

theorem Workload.rank_terminal (apart : workload ≠ .fixture) : Workload.terminal.rank ≤ workload.rank := by
  cases workload with
  | fixture => exact absurd rfl apart
  | terminal => exact Nat.le_refl _
  | freshAgent => exact Nat.le_succ _

theorem Workload.rank_freshAgent (past : Workload.terminal.rank ≤ workload.rank) (apart : workload ≠ .terminal) :
    workload = .freshAgent := by
  cases workload with
  | fixture => simp [Workload.rank] at past
  | terminal => exact absurd rfl apart
  | freshAgent => rfl

def Worker.result (worker : Worker) : GrantAccepted :=
  ⟨worker.pid,1,worker.evidence,worker.nativeSessionId⟩

inductive Stage where
  | unused
  | consumed
  | spawned (request : GrantExecutionRequest) (worker : Worker)
  | filled (request : GrantExecutionRequest) (worker : Worker)
  | recorded (request : GrantExecutionRequest) (worker : Worker)

namespace Stage

def launched : Stage → List (GrantExecutionRequest × Worker)
  | .unused | .consumed => []
  | .spawned request worker | .filled request worker | .recorded request worker => [(request,worker)]

theorem launched_unique {stage : Stage} {first second : GrantExecutionRequest × Worker}
    (left : first ∈ stage.launched) (right : second ∈ stage.launched) : first = second := by
  cases stage with
  | unused => cases left
  | consumed => cases left
  | spawned request worker => exact (List.mem_singleton.mp left).trans (List.mem_singleton.mp right).symm
  | filled request worker => exact (List.mem_singleton.mp left).trans (List.mem_singleton.mp right).symm
  | recorded request worker => exact (List.mem_singleton.mp left).trans (List.mem_singleton.mp right).symm

def Placed (stage : Stage) (worker : Worker) : Prop :=
  ∃ request, stage = .filled request worker ∨ stage = .recorded request worker

def Holds (host : Host) : Stage → Prop
  | .unused => host.grantId = none ∧ host.holder = none ∧ host.workerPid = none ∧ host.workerLaunchCount = 0
  | .consumed => host.workerPid = none ∧ host.workerLaunchCount = 0 ∧ host.grantId.isSome ∧
      ∀ task, host.holder = some task → ∃ request, host.tasks.lookup task = some (.launching request) ∧ host.Granted request
  | .spawned request worker => host.workerPid = none ∧ host.workerLaunchCount = 0 ∧ host.Granted request ∧
      ∃ task, host.holder = some task ∧ host.tasks.lookup task = some (.filling request worker)
  | .filled request worker => host.workerPid = none ∧ host.workerLaunchCount = 0 ∧ host.Granted request ∧
      ∃ task, host.holder = some task ∧ host.tasks.lookup task = some (.recording request worker)
  | .recorded request worker => host.Granted request ∧ host.holder = none ∧ host.workerPid = some worker.pid ∧
      host.workerLaunchCount = 1 ∧ host.fixtureEvidence = worker.evidence

end Stage

/-- The task has the lock on the persisted state. -/
def Task.locks : Task → Prop
  | .launching _ | .filling _ _ | .recording _ _ => True
  | _ => False

structure Orderly (host : Host) (stage : Stage) : Prop where
  holds : stage.Holds host
  launches : host.launches = stage.launched
  busy : ∀ task phase, host.tasks.lookup task = some phase → phase.locks → host.holder = some task
  matched : ∀ task request, host.tasks.lookup task = some (.granting request) →
    request.incarnationId = host.incarnationId ∧ request.hostBootId = host.hostBootId
  slots : ∀ workload worker, host.slots workload = some worker → workload = worker.workload ∧ stage.Placed worker
  /-- A worker that runs is in its slot once it is in any. -/
  alive : ∀ serial ∈ host.alive, ∃ request worker, (request,worker) ∈ host.launches ∧ worker.serial = serial ∧
    (stage = .spawned request worker ∨ host.slots worker.workload = some worker)
  /-- A stop that is past a slot has left no worker of that kind. -/
  cleared : ∀ task request next, host.tasks.lookup task = some (.clearing request next) → host.alive ≠ [] →
    ∀ request' worker, (request',worker) ∈ host.launches → next.rank ≤ worker.workload.rank
  accepted : ∀ request result, .answered (.grantExecution request) (.grantAccepted result) ∈ host.history →
    ∃ first worker, stage = .recorded first worker ∧ host.Granted request ∧ result = worker.result
  consistent : host.history.Pairwise Consistent
  final : ∀ request, .answered (.stop request) .stopped ∈ host.history → host.alive = []

theorem Orderly.settled {host : Host} {stage : Stage} (orderly : Orderly host stage) : host.Settled where
  once := by
    rw [orderly.launches]
    cases stage with
    | unused => exact Nat.zero_le _
    | consumed => exact Nat.zero_le _
    | spawned request worker => exact Nat.le_refl _
    | filled request worker => exact Nat.le_refl _
    | recorded request worker => exact Nat.le_refl _
  consistent := orderly.consistent
  final := orderly.final

/-! ### What the steps keep -/

variable {host : Host} {stage : Stage}

variable {task : Nat}

theorem Orderly.not_holder (orderly : Orderly host stage)
    (waits : ∀ phase, host.tasks.lookup task = some phase → ¬ phase.locks) : host.holder ≠ some task := by
  intro held
  have holds := orderly.holds
  cases stage with
  | unused =>
    rw [holds.2.1] at held
    cases held
  | consumed =>
    obtain ⟨request,found,_⟩ := holds.2.2.2 task held
    exact waits _ found trivial
  | spawned request worker =>
    obtain ⟨other,same,found⟩ := holds.2.2.2
    cases held.symm.trans same
    exact waits _ found trivial
  | filled request worker =>
    obtain ⟨other,same,found⟩ := holds.2.2.2
    cases held.symm.trans same
    exact waits _ found trivial
  | recorded request worker =>
    rw [holds.2.1] at held
    cases held

variable {event : Event}

/-- No event before an acceptance speaks against it, and none after one that is not
    an answer to the same grant. -/
theorem consistent_append {history : List Event} (consistent : history.Pairwise Consistent)
    (follows : ∀ earlier ∈ history, Consistent earlier event) : (history ++ [event]).Pairwise Consistent := by
  rw [List.pairwise_append]
  refine ⟨consistent,List.pairwise_singleton _ _,?_⟩
  intro earlier listed later single
  rw [List.mem_singleton] at single
  exact single ▸ follows earlier listed

variable {command : HostCommand} {error : RuntimeError}

theorem consistent_error {earlier : Event} (unaccepted : ∀ request result, command = .grantExecution request →
      earlier ≠ .answered (.grantExecution request) (.grantAccepted result)) :
    Consistent earlier (.answered command (.error error)) := by
  cases earlier with
  | launched request worker => trivial
  | answered other result =>
    cases result with
    | stopped => cases other <;> trivial
    | error error => cases other <;> cases command <;> trivial
    | grantAccepted result =>
      cases other with
      | stop request => cases command <;> trivial
      | grantExecution first =>
        cases command with
        | stop request => trivial
        | grantExecution second =>
          rintro rfl
          exact absurd rfl (unaccepted second result rfl)

theorem Stage.Holds.of_tasks {after : Host} (holds : stage.Holds host)
    (same : after.holder = host.holder ∧ after.grantId = host.grantId ∧ after.workerPid = host.workerPid ∧
      after.workerLaunchCount = host.workerLaunchCount ∧ after.fixtureEvidence = host.fixtureEvidence)
    (grants : ∀ request, host.Granted request → after.Granted request)
    (kept : ∀ task, host.holder = some task → after.tasks.lookup task = host.tasks.lookup task) : stage.Holds after := by
  obtain ⟨holder,grantId,pid,count,evidence⟩ := same
  cases stage with
  | unused => exact ⟨grantId.trans holds.1,holder.trans holds.2.1,pid.trans holds.2.2.1,count.trans holds.2.2.2⟩
  | consumed =>
    refine ⟨pid.trans holds.1,count.trans holds.2.1,by rw [grantId]; exact holds.2.2.1,?_⟩
    intro task held
    rw [holder] at held
    obtain ⟨request,found,granted⟩ := holds.2.2.2 task held
    exact ⟨request,(kept task held).trans found,grants request granted⟩
  | spawned request worker =>
    obtain ⟨unset,none_,granted,task,held,found⟩ := holds
    exact ⟨pid.trans unset,count.trans none_,grants request granted,task,holder.trans held,(kept task held).trans found⟩
  | filled request worker =>
    obtain ⟨unset,none_,granted,task,held,found⟩ := holds
    exact ⟨pid.trans unset,count.trans none_,grants request granted,task,holder.trans held,(kept task held).trans found⟩
  | recorded request worker =>
    obtain ⟨granted,free,set,one,text⟩ := holds
    exact ⟨grants request granted,holder.trans free,pid.trans set,count.trans one,evidence.trans text⟩

@[simp] theorem launches_answer (host : Host) (task : Nat) (command : HostCommand) (result : HostResult) :
    (host.answer task command result).launches = host.launches := by
  simp [Host.launches,Host.answer]

theorem mem_history_answer {host : Host} {result : HostResult}
    (listed : event ∈ (host.answer task command result).history) :
    event ∈ host.history ∨ event = .answered command result := by
  simpa [Host.answer] using listed

theorem Orderly.answer (orderly : Orderly host stage) {result : HostResult}
    (waits : ∀ phase, host.tasks.lookup task = some phase → ¬ phase.locks)
    (follows : ∀ earlier ∈ host.history, Consistent earlier (.answered command result))
    (accepted : ∀ request given, command = .grantExecution request → result = .grantAccepted given →
      ∃ first worker, stage = .recorded first worker ∧ host.Granted request ∧ given = worker.result)
    (final : ∀ request, command = .stop request → result = .stopped → host.alive = []) :
    Orderly (host.answer task command result) stage := by
  have free := orderly.not_holder waits
  have other : ∀ at_, at_ ≠ task → (host.answer task command result).tasks.lookup at_ = host.tasks.lookup at_ := by
    intro at_ apart
    simp [Host.answer,apart]
  have kept : ∀ at_ phase, (host.answer task command result).tasks.lookup at_ = some phase →
      host.tasks.lookup at_ = some phase := by
    intro at_ phase found
    simp only [Host.answer,lookup_erase] at found
    split at found
    · cases found
    · exact found
  have holder : (host.answer task command result).holder = host.holder := by simp [Host.answer,free]
  constructor
  case holds =>
    refine orderly.holds.of_tasks ⟨holder,rfl,rfl,rfl,rfl⟩ (fun _ granted => granted) ?_
    intro at_ held
    exact other at_ fun same => free (same ▸ held)
  case launches => rw [launches_answer,orderly.launches]
  case busy => exact fun at_ phase found locks => holder.trans (orderly.busy at_ phase (kept at_ phase found) locks)
  case matched => exact fun at_ request found => orderly.matched at_ request (kept at_ _ found)
  case slots => exact orderly.slots
  case alive =>
    rw [launches_answer]
    exact orderly.alive
  case cleared =>
    rw [launches_answer]
    exact fun at_ request next found => orderly.cleared at_ request next (kept at_ _ found)
  case accepted =>
    intro request given listed
    obtain earlier | now := mem_history_answer listed
    · exact orderly.accepted request given earlier
    · cases now
      exact accepted request given rfl rfl
  case consistent => exact consistent_append orderly.consistent follows
  case final =>
    intro request listed
    obtain earlier | now := mem_history_answer listed
    · exact orderly.final request earlier
    · cases now
      exact final request rfl rfl

/-- An error for a command without the lock, where it is a grant that was not accepted. -/
theorem Orderly.answer_error (orderly : Orderly host stage)
    (waits : ∀ phase, host.tasks.lookup task = some phase → ¬ phase.locks)
    (unaccepted : ∀ request, command = .grantExecution request → host.Granted request → host.workerPid = none) :
    Orderly (host.answer task command (.error error)) stage := by
  refine orderly.answer waits ?_ (fun _ _ _ no => by cases no) (fun _ _ no => by cases no)
  intro earlier listed
  refine consistent_error ?_
  rintro request result rfl rfl
  obtain ⟨first,worker,rfl,granted,_⟩ := orderly.accepted request result listed
  have recorded := orderly.holds.2.2.1
  rw [unaccepted request rfl granted] at recorded
  cases recorded

/-- A task that does not lock is set down in a place that is free or held none that locks. -/
theorem Orderly.place (orderly : Orderly host stage) {phase : Task}
    (waits : ∀ phase, host.tasks.lookup task = some phase → ¬ phase.locks) (unlocked : ¬ phase.locks)
    (matched : ∀ request, phase = .granting request →
      request.incarnationId = host.incarnationId ∧ request.hostBootId = host.hostBootId)
    (cleared : ∀ request next, phase = .clearing request next → host.alive ≠ [] →
      ∀ request' worker, (request',worker) ∈ host.launches → next.rank ≤ worker.workload.rank) :
    Orderly { host with tasks := host.tasks.insert task phase } stage := by
  have free := orderly.not_holder waits
  have lookups : ∀ at_ held, (host.tasks.insert task phase).lookup at_ = some held →
      (at_ = task ∧ held = phase) ∨ host.tasks.lookup at_ = some held := by
    intro at_ held found
    rw [lookup_insert] at found
    split at found
    · next same => exact .inl ⟨same,(Option.some.inj found).symm⟩
    · exact .inr found
  constructor
  case holds =>
    refine orderly.holds.of_tasks ⟨rfl,rfl,rfl,rfl,rfl⟩ (fun _ granted => granted) ?_
    intro at_ held
    have apart : at_ ≠ task := fun same => free (same ▸ held)
    exact (lookup_insert _ _ _ _).trans (if_neg apart)
  case launches => exact orderly.launches
  case busy =>
    intro at_ held found locks
    obtain ⟨_,rfl⟩ | found := lookups at_ held found
    · exact absurd locks unlocked
    · exact orderly.busy at_ held found locks
  case matched =>
    intro at_ request found
    obtain ⟨_,same⟩ | found := lookups at_ _ found
    · exact matched request same.symm
    · exact orderly.matched at_ request found
  case slots => exact orderly.slots
  case alive => exact orderly.alive
  case cleared =>
    intro at_ request next found
    obtain ⟨_,same⟩ | found := lookups at_ _ found
    · exact cleared request next same.symm
    · exact orderly.cleared at_ request next found
  case accepted => exact orderly.accepted
  case consistent => exact orderly.consistent
  case final => exact orderly.final

/-! ### Stops -/

theorem ne_nil_of_subset {part whole : List Nat} (subset : ∀ serial ∈ part, serial ∈ whole) (some_ : part ≠ []) :
    whole ≠ [] := by
  obtain ⟨serial,rest,rfl⟩ := List.exists_cons_of_ne_nil some_
  exact List.ne_nil_of_mem (subset serial List.mem_cons_self)

theorem Orderly.fewer (orderly : Orderly host stage) {serials : List Nat} (fewer : ∀ serial ∈ serials, serial ∈ host.alive)
    {slots : Workload → Option Worker}
    (emptied : ∀ workload, slots workload = host.slots workload ∨
      slots workload = none ∧ (serials ≠ [] → ∀ request worker, (request,worker) ∈ host.launches → worker.workload ≠ workload)) :
    Orderly { host with alive := serials, slots := slots } stage := by
  have nonempty : serials ≠ [] → host.alive ≠ [] := ne_nil_of_subset fewer
  constructor
  case holds => exact orderly.holds.of_tasks ⟨rfl,rfl,rfl,rfl,rfl⟩ (fun _ granted => granted) fun _ _ => rfl
  case launches => exact orderly.launches
  case busy => exact orderly.busy
  case matched => exact orderly.matched
  case slots =>
    intro workload worker held
    obtain same | ⟨none_,_⟩ := emptied workload
    · exact orderly.slots workload worker (same ▸ held)
    · exact absurd (none_.symm.trans held) (by simp)
  case alive =>
    intro serial listed
    obtain ⟨request,worker,launched,same,spawned | placed⟩ := orderly.alive serial (fewer serial listed)
    · exact ⟨request,worker,launched,same,.inl spawned⟩
    · refine ⟨request,worker,launched,same,.inr ?_⟩
      obtain kept | ⟨_,gone⟩ := emptied worker.workload
      · exact kept.trans placed
      · exact absurd rfl (gone (List.ne_nil_of_mem listed) request worker launched)
  case cleared => exact fun task request next found some_ => orderly.cleared task request next found (nonempty some_)
  case accepted => exact orderly.accepted
  case consistent => exact orderly.consistent
  case final =>
    intro request listed
    have none_ := orderly.final request listed
    by_contra some_
    exact nonempty some_ none_

theorem alive_kill (host : Host) (slot : Option Worker) :
    (host.kill slot) = { host with alive := (host.kill slot).alive } ∧
      ∀ serial ∈ (host.kill slot).alive, serial ∈ host.alive := by
  cases slot with
  | none => exact ⟨rfl,fun _ listed => listed⟩
  | some worker => exact ⟨rfl,fun _ listed => (List.mem_filter.mp listed).1⟩

/-- A kill of what is in a slot leaves no worker of that kind, unless one is on its way
    into the slot. -/
theorem Orderly.kill_spec (orderly : Orderly host stage)
    (unspawned : ∀ request worker, stage = .spawned request worker → worker.workload ≠ workload)
    (some_ : (host.kill (host.slots workload)).alive ≠ []) :
    ∀ request worker, (request,worker) ∈ host.launches → worker.workload ≠ workload := by
  obtain ⟨serial,rest,alive⟩ := List.exists_cons_of_ne_nil some_
  have listed : serial ∈ (host.kill (host.slots workload)).alive := by rw [alive]; exact List.mem_cons_self
  obtain ⟨request,worker,launched,same,place⟩ := orderly.alive serial ((alive_kill host _).2 serial listed)
  have only : ∀ request' worker', (request',worker') ∈ host.launches → worker' = worker := by
    intro request' worker' other
    rw [orderly.launches] at launched other
    exact congrArg Prod.snd (Stage.launched_unique other launched)
  intro request' worker' other
  rw [only request' worker' other]
  obtain spawned | placed := place
  · exact unspawned request worker spawned
  · rintro rfl
    rw [placed] at listed
    simp [Host.kill,same] at listed

/-! ### One step -/

namespace Host

/-- What a step must not do: repeat an accepted grant of a fresh agent when the agent is
    gone or has another native session; launch a worker behind a stop; stop without
    seeing the worker that is on its way into the slot; and fail to stop the agent. -/
def Sound (host : Host) : Label → Prop
  | .proceed task outcome =>
    match host.tasks.lookup task with
    | some (.granting request) => host.stale request.controlEpoch request.executionGeneration = false →
        ∀ first worker, (first,worker) ∈ host.launches → first.grantId = request.grantId → worker.workload = .freshAgent →
          (host.slots .freshAgent).isSome ∧ outcome.profile = worker.nativeSessionId
    | some (.launching request) => ∀ workload, request.workload = some workload → outcome.launch.isOk →
        (∀ stop, .answered (.stop stop) .stopped ∉ host.history) ∧
          ∀ other stop next, host.tasks.lookup other = some (.clearing stop next) → next.rank ≤ workload.rank
    | some (.clearing _ next) =>
        (∀ other request worker, host.tasks.lookup other = some (.filling request worker) → worker.workload ≠ next) ∧
          (next = .freshAgent → (host.slots .freshAgent).isSome → outcome.stops = true)
    | _ => True
  | _ => True

end Host

theorem Orderly.unspawned (orderly : Orderly host stage)
    (sees : ∀ other request worker, host.tasks.lookup other = some (.filling request worker) → worker.workload ≠ workload)
    (request : GrantExecutionRequest) (worker : Worker) (spawned : stage = .spawned request worker) :
    worker.workload ≠ workload := by
  subst spawned
  obtain ⟨_,_,_,task,_,found⟩ := orderly.holds
  exact sees task request worker found

theorem emptied {serials : List Nat} (gone : serials ≠ [] → ∀ request worker,
    (request,worker) ∈ host.launches → worker.workload ≠ workload) (other : Workload) :
    Function.update host.slots workload none other = host.slots other ∨ Function.update host.slots workload none other = none ∧
      (serials ≠ [] → ∀ request worker, (request,worker) ∈ host.launches → worker.workload ≠ other) := by
  by_cases same : other = workload
  · subst same
    exact .inr ⟨Function.update_self _ _ _,gone⟩
  · exact .inl (Function.update_of_ne same _ _)

variable {outcome : Outcome}

theorem Orderly.clear (orderly : Orderly host stage) {request : StopRequest} {next : Workload}
    (found : host.tasks.lookup task = some (.clearing request next))
    (sees : ∀ other request worker, host.tasks.lookup other = some (.filling request worker) → worker.workload ≠ next)
    (stops : next = .freshAgent → (host.slots .freshAgent).isSome → outcome.stops = true) :
    Orderly (host.clear task request outcome next) stage := by
  have waits : ∀ phase, host.tasks.lookup task = some phase → ¬ phase.locks := by
    intro phase same
    cases found.symm.trans same
    exact id
  obtain ⟨killed,fewer⟩ := alive_kill host (host.slots next)
  have gone := orderly.kill_spec (orderly.unspawned sees)
  cases next with
  | fixture =>
    unfold Host.clear
    simp only
    rw [killed]
    have kept := orderly.fewer fewer fun workload => .inl (Eq.refl (host.slots workload))
    refine kept.place waits id (fun _ no => by cases no) ?_
    rintro _ _ ⟨⟩ some_ request' worker launched
    exact Workload.rank_terminal (gone some_ request' worker launched)
  | terminal =>
    unfold Host.clear
    simp only
    rw [killed]
    have kept := orderly.fewer fewer (emptied gone)
    refine kept.place waits id (fun _ no => by cases no) ?_
    rintro _ _ ⟨⟩ some_ request' worker launched
    have past := orderly.cleared task request .terminal found (ne_nil_of_subset fewer some_) request' worker launched
    exact (Workload.rank_freshAgent past (gone some_ request' worker launched)) ▸ Nat.le_refl _
  | freshAgent =>
    have same : (if outcome.stops then host.kill (host.slots .freshAgent) else host) =
        host.kill (host.slots .freshAgent) := by
      cases held : host.slots .freshAgent with
      | none => simp [Host.kill]
      | some worker => rw [if_pos (stops rfl (by rw [held]; rfl))]
    unfold Host.clear
    simp only
    rw [same,killed]
    have kept := orderly.fewer fewer (emptied gone)
    refine kept.answer waits ?_ (fun _ _ no => by cases no) ?_
    · intro earlier _
      cases earlier with
      | launched first worker => trivial
      | answered command result => cases command <;> cases result <;> trivial
    · intro _ _ _
      by_contra some_
      have listed := ne_nil_of_subset fewer some_
      obtain ⟨serial,rest,alive⟩ := List.exists_cons_of_ne_nil listed
      obtain ⟨first,worker,launched,_,_⟩ := orderly.alive serial (by rw [alive]; exact List.mem_cons_self)
      have past := orderly.cleared task request .freshAgent found listed first worker launched
      have other : worker.workload ≠ .terminal := by
        intro same
        rw [same] at past
        simp [Workload.rank] at past
      exact gone some_ first worker launched (Workload.rank_freshAgent (Nat.le_trans (by decide) past) other)

/-! ### Grants -/

theorem Orderly.nothing (orderly : Orderly host stage) (unlaunched : stage.launched = []) :
    host.launches = [] ∧ host.alive = [] ∧ (∀ workload, host.slots workload = none) ∧
      ∀ request result, .answered (.grantExecution request) (.grantAccepted result) ∉ host.history := by
  have none_ : host.launches = [] := orderly.launches.trans unlaunched
  refine ⟨none_,?_,?_,?_⟩
  · refine List.eq_nil_iff_forall_not_mem.mpr fun serial listed => ?_
    obtain ⟨request,worker,launched,_⟩ := orderly.alive serial listed
    rw [none_] at launched
    cases launched
  · intro workload
    cases held : host.slots workload with
    | none => rfl
    | some worker =>
      obtain ⟨_,request,rfl | rfl⟩ := orderly.slots workload worker held
      · cases unlaunched
      · cases unlaunched
  · intro request result listed
    obtain ⟨first,worker,rfl,_⟩ := orderly.accepted request result listed
    cases unlaunched

variable {request : GrantExecutionRequest}

theorem Orderly.consume (orderly : Orderly host .unused) (found : host.tasks.lookup task = some (.granting request)) :
    Orderly { host with
        maxControlEpoch := request.controlEpoch
        maxExecutionGeneration := request.executionGeneration
        grantId := some request.grantId
        workerPid := none
        holder := some task
        tasks := host.tasks.insert task (.launching request) } .consumed := by
  obtain ⟨launches,alive,slots,unaccepted⟩ := orderly.nothing rfl
  obtain ⟨_,free,_,count⟩ := orderly.holds
  have lookups : ∀ at_ held, (host.tasks.insert task (.launching request)).lookup at_ = some held →
      (at_ = task ∧ held = .launching request) ∨ host.tasks.lookup at_ = some held := by
    intro at_ held found
    rw [lookup_insert] at found
    split at found
    · next same => exact .inl ⟨same,(Option.some.inj found).symm⟩
    · exact .inr found
  constructor
  case holds =>
    refine ⟨rfl,count,rfl,?_⟩
    rintro _ ⟨⟩
    refine ⟨request,(lookup_insert _ _ _ _).trans (if_pos rfl),rfl,?_,orderly.matched task request found⟩
    simp [Host.stale]
  case launches => exact launches
  case busy =>
    intro at_ phase at_phase locks
    obtain ⟨rfl,_⟩ | earlier := lookups at_ phase at_phase
    · rfl
    · have held := orderly.busy at_ phase earlier locks
      rw [free] at held
      cases held
  case matched =>
    intro at_ other waiting
    obtain ⟨_,no⟩ | earlier := lookups at_ _ waiting
    · cases no
    · exact orderly.matched at_ other earlier
  case slots => exact fun workload worker held => absurd ((slots workload).symm.trans held) (by simp)
  case alive =>
    intro serial listed
    rw [show host.alive = [] from alive] at listed
    cases listed
  case cleared => exact fun _ _ _ _ some_ => absurd alive some_
  case accepted => exact fun other result listed => absurd listed (unaccepted other result)
  case consistent => exact orderly.consistent
  case final => exact orderly.final

theorem Orderly.release {after : Stage} (orderly : Orderly host stage) {result : HostResult}
    (held : host.holder = some task) {changed : Host}
    (same : changed.tasks = host.tasks ∧ changed.holder = host.holder ∧ changed.slots = host.slots ∧
      changed.alive = host.alive ∧ changed.history = host.history ∧ changed.incarnationId = host.incarnationId ∧
      changed.hostBootId = host.hostBootId) (holds : after.Holds (changed.answer task command result))
    (launched : after.launched = stage.launched) (placed : ∀ worker, stage.Placed worker → after.Placed worker)
    (unspawned : ∀ request worker, stage ≠ .spawned request worker)
    (unaccepted : ∀ request given, .answered (.grantExecution request) (.grantAccepted given) ∉ host.history)
    (accepted : ∀ request given, command = .grantExecution request → result = .grantAccepted given →
      ∃ first worker, after = .recorded first worker ∧ changed.Granted request ∧ given = worker.result)
    (unstopped : result ≠ .stopped) : Orderly (changed.answer task command result) after := by
  obtain ⟨tasks,holder,slots,alive,history,incarnation,boot⟩ := same
  have launches : (changed.answer task command result).launches = host.launches := by
    rw [launches_answer]
    unfold Host.launches
    rw [history]
  have kept : ∀ at_ phase, (changed.answer task command result).tasks.lookup at_ = some phase →
      at_ ≠ task ∧ host.tasks.lookup at_ = some phase := by
    intro at_ phase found
    simp only [Host.answer,lookup_erase,tasks] at found
    split at found
    · cases found
    · next apart => exact ⟨apart,found⟩
  have listed : ∀ event, event ∈ (changed.answer task command result).history →
      event ∈ host.history ∨ event = .answered command result := by
    intro event member
    rw [← history]
    exact mem_history_answer member
  constructor
  case holds => exact holds
  case launches => rw [launches,orderly.launches,launched]
  case busy =>
    intro at_ phase found locks
    obtain ⟨apart,earlier⟩ := kept at_ phase found
    have holding := orderly.busy at_ phase earlier locks
    rw [held] at holding
    exact absurd (Option.some.inj holding).symm apart
  case matched =>
    intro at_ request found
    obtain ⟨ours,boots⟩ := orderly.matched at_ request (kept at_ _ found).2
    exact ⟨ours.trans incarnation.symm,boots.trans boot.symm⟩
  case slots =>
    intro workload worker found
    obtain ⟨same,place⟩ := orderly.slots workload worker ((congrFun slots workload).symm.trans found)
    exact ⟨same,placed worker place⟩
  case alive =>
    intro serial member
    rw [launches]
    obtain ⟨request,worker,launched,same,spawned | place⟩ := orderly.alive serial (alive ▸ member)
    · exact absurd spawned (unspawned request worker)
    · exact ⟨request,worker,launched,same,.inr ((congrFun slots _).trans place)⟩
  case cleared =>
    intro at_ request next found some_
    rw [launches]
    exact orderly.cleared at_ request next (kept at_ _ found).2 fun none_ => some_ (alive.trans none_)
  case accepted =>
    intro request given member
    obtain earlier | now := listed _ member
    · exact absurd earlier (unaccepted request given)
    · cases now
      exact accepted request given rfl rfl
  case consistent =>
    have before : changed.history.Pairwise Consistent := history ▸ orderly.consistent
    refine consistent_append before ?_
    intro earlier member
    rw [history] at member
    cases earlier with
    | launched first worker => cases command <;> cases result <;> trivial
    | answered other outcome =>
      cases outcome with
      | stopped => cases other <;> cases command <;> trivial
      | error error => cases other <;> cases command <;> trivial
      | grantAccepted given =>
        cases other with
        | stop request => cases command <;> trivial
        | grantExecution first => exact absurd member (unaccepted first given)
  case final =>
    intro request member
    obtain earlier | now := listed _ member
    · exact alive.trans (orderly.final request earlier)
    · cases now
      exact absurd rfl unstopped

theorem Orderly.consumed_of_launching (orderly : Orderly host stage)
    (found : host.tasks.lookup task = some (.launching request)) :
    stage = .consumed ∧ host.holder = some task ∧ host.Granted request := by
  have held := orderly.busy task _ found trivial
  have holds := orderly.holds
  cases stage with
  | unused =>
    rw [holds.2.1] at held
    cases held
  | consumed =>
    obtain ⟨other,same,granted⟩ := holds.2.2.2 task held
    cases found.symm.trans same
    exact ⟨rfl,held,granted⟩
  | spawned first worker =>
    obtain ⟨_,_,_,other,same,at_⟩ := holds
    cases held.symm.trans same
    cases found.symm.trans at_
  | filled first worker =>
    obtain ⟨_,_,_,other,same,at_⟩ := holds
    cases held.symm.trans same
    cases found.symm.trans at_
  | recorded first worker =>
    rw [holds.2.1] at held
    cases held

variable {worker : Worker}

theorem Orderly.spawned_of_filling (orderly : Orderly host stage)
    (found : host.tasks.lookup task = some (.filling request worker)) :
    stage = .spawned request worker ∧ host.holder = some task := by
  have held := orderly.busy task _ found trivial
  have holds := orderly.holds
  cases stage with
  | unused =>
    rw [holds.2.1] at held
    cases held
  | consumed =>
    obtain ⟨other,same,_⟩ := holds.2.2.2 task held
    cases found.symm.trans same
  | spawned first launched =>
    obtain ⟨_,_,_,other,same,at_⟩ := holds
    cases held.symm.trans same
    cases found.symm.trans at_
    exact ⟨rfl,held⟩
  | filled first launched =>
    obtain ⟨_,_,_,other,same,at_⟩ := holds
    cases held.symm.trans same
    cases found.symm.trans at_
  | recorded first launched =>
    rw [holds.2.1] at held
    cases held

theorem Orderly.filled_of_recording (orderly : Orderly host stage)
    (found : host.tasks.lookup task = some (.recording request worker)) :
    stage = .filled request worker ∧ host.holder = some task := by
  have held := orderly.busy task _ found trivial
  have holds := orderly.holds
  cases stage with
  | unused =>
    rw [holds.2.1] at held
    cases held
  | consumed =>
    obtain ⟨other,same,_⟩ := holds.2.2.2 task held
    cases found.symm.trans same
  | spawned first launched =>
    obtain ⟨_,_,_,other,same,at_⟩ := holds
    cases held.symm.trans same
    cases found.symm.trans at_
  | filled first launched =>
    obtain ⟨_,_,_,other,same,at_⟩ := holds
    cases held.symm.trans same
    cases found.symm.trans at_
    exact ⟨rfl,held⟩
  | recorded first launched =>
    rw [holds.2.1] at held
    cases held

theorem Orderly.spawn (orderly : Orderly host .consumed) (held : host.holder = some task)
    (granted : host.Granted request) (unstopped : ∀ stop, .answered (.stop stop) .stopped ∉ host.history)
    (ahead : ∀ other stop next, host.tasks.lookup other = some (.clearing stop next) → next.rank ≤ worker.workload.rank) :
    Orderly { host with
      tasks := host.tasks.insert task (.filling request worker)
      alive := worker.serial :: host.alive
      history := host.history ++ [.launched request worker] } (.spawned request worker) := by
  obtain ⟨launches,alive,slots,unaccepted⟩ := orderly.nothing rfl
  obtain ⟨pid,count,_,_⟩ := orderly.holds
  have lookups : ∀ at_ phase, (host.tasks.insert task (.filling request worker)).lookup at_ = some phase →
      (at_ = task ∧ phase = .filling request worker) ∨ host.tasks.lookup at_ = some phase := by
    intro at_ phase found
    rw [lookup_insert] at found
    split at found
    · next same => exact .inl ⟨same,(Option.some.inj found).symm⟩
    · exact .inr found
  have now : ({ host with
      tasks := host.tasks.insert task (.filling request worker)
      alive := worker.serial :: host.alive
      history := host.history ++ [.launched request worker] } : Host).launches = [(request,worker)] := by
    unfold Host.launches at launches ⊢
    simp only [List.filterMap_append,launches]
    rfl
  constructor
  case holds => exact ⟨pid,count,granted,task,held,(lookup_insert _ _ _ _).trans (if_pos rfl)⟩
  case launches => exact now
  case busy =>
    intro at_ phase found locks
    obtain ⟨rfl,_⟩ | earlier := lookups at_ phase found
    · exact held
    · exact orderly.busy at_ phase earlier locks
  case matched =>
    intro at_ other waiting
    obtain ⟨_,no⟩ | earlier := lookups at_ _ waiting
    · cases no
    · exact orderly.matched at_ other earlier
  case slots => exact fun workload held found => absurd ((slots workload).symm.trans found) (by simp)
  case alive =>
    intro serial member
    rw [show host.alive = [] from alive,List.mem_singleton] at member
    exact ⟨request,worker,by rw [now]; exact List.mem_singleton_self _,member.symm,.inl rfl⟩
  case cleared =>
    intro at_ stop next found _ request' worker' launched
    rw [now,List.mem_singleton] at launched
    cases launched
    obtain ⟨_,no⟩ | earlier := lookups at_ _ found
    · cases no
    · exact ahead at_ stop next earlier
  case accepted =>
    intro other result listed
    obtain earlier | no := List.mem_append.mp listed
    · exact absurd earlier (unaccepted other result)
    · cases List.mem_singleton.mp no
  case consistent =>
    refine consistent_append orderly.consistent ?_
    intro earlier member
    cases earlier with
    | launched first other => trivial
    | answered command result =>
      cases command with
      | stop stop =>
        cases result with
        | stopped => exact absurd member (unstopped stop)
        | error error => trivial
        | grantAccepted given => trivial
      | grantExecution first =>
        cases result with
        | stopped => trivial
        | error error => trivial
        | grantAccepted given => exact absurd member (unaccepted first given)
  case final =>
    intro stop listed
    obtain earlier | no := List.mem_append.mp listed
    · exact absurd earlier (unstopped stop)
    · cases List.mem_singleton.mp no

theorem Orderly.fillSlot (orderly : Orderly host (.spawned request worker)) (held : host.holder = some task) :
    Orderly (host.fillSlot task request worker) (.filled request worker) := by
  obtain ⟨pid,count,granted,_⟩ := orderly.holds
  have launched : host.launches = [(request,worker)] := orderly.launches
  have lookups : ∀ at_ phase, (host.tasks.insert task (.recording request worker)).lookup at_ = some phase →
      (at_ = task ∧ phase = .recording request worker) ∨ host.tasks.lookup at_ = some phase := by
    intro at_ phase found
    rw [lookup_insert] at found
    split at found
    · next same => exact .inl ⟨same,(Option.some.inj found).symm⟩
    · exact .inr found
  constructor
  case holds => exact ⟨pid,count,granted,task,held,(lookup_insert _ _ _ _).trans (if_pos rfl)⟩
  case launches => exact launched
  case busy =>
    intro at_ phase found locks
    obtain ⟨rfl,_⟩ | earlier := lookups at_ phase found
    · exact held
    · exact orderly.busy at_ phase earlier locks
  case matched =>
    intro at_ other waiting
    obtain ⟨_,no⟩ | earlier := lookups at_ _ waiting
    · cases no
    · exact orderly.matched at_ other earlier
  case slots =>
    intro workload other found
    by_cases same : workload = worker.workload
    · subst same
      have here : Function.update host.slots worker.workload (some worker) worker.workload = some other := found
      rw [Function.update_self] at here
      cases here
      exact ⟨rfl,request,.inl rfl⟩
    · have there : Function.update host.slots worker.workload (some worker) workload = some other := found
      rw [Function.update_of_ne same] at there
      obtain ⟨_,first,no | no⟩ := orderly.slots workload other there
      · cases no
      · cases no
  case alive =>
    intro serial member
    obtain ⟨first,other,listed,same,_⟩ := orderly.alive serial member
    have only := listed
    rw [launched,List.mem_singleton] at only
    cases only
    exact ⟨request,worker,listed,same,.inr (Function.update_self _ _ _)⟩
  case cleared =>
    intro at_ stop next found
    obtain ⟨_,no⟩ | earlier := lookups at_ _ found
    · cases no
    · exact orderly.cleared at_ stop next earlier
  case accepted =>
    intro other result listed
    obtain ⟨first,_,no,_⟩ := orderly.accepted other result listed
    cases no
  case consistent => exact orderly.consistent
  case final => exact orderly.final

theorem Orderly.grantExecution (orderly : Orderly host stage) {task : Nat} {request : GrantExecutionRequest}
    (found : host.tasks.lookup task = some (.granting request)) (outcome : Outcome) (free : host.holder = none)
    (repeats : host.stale request.controlEpoch request.executionGeneration = false →
      ∀ first worker, (first,worker) ∈ host.launches → first.grantId = request.grantId → worker.workload = .freshAgent →
        (host.slots .freshAgent).isSome ∧ outcome.profile = worker.nativeSessionId) : ∃ after, Orderly (host.grantExecution task request outcome) after := by
  have waits : ∀ phase, host.tasks.lookup task = some phase → ¬ phase.locks := by
    intro phase same
    cases found.symm.trans same
    exact id
  have matched := orderly.matched task request found
  unfold Host.grantExecution
  simp only
  split
  · next stale =>
    refine ⟨stage,orderly.answer_error waits ?_⟩
    rintro _ ⟨⟩ granted
    rw [granted.2.1] at stale
    cases stale
  next current =>
  rw [Bool.not_eq_true] at current
  split
  · next existing consumed =>
    split
    · next same =>
      subst same
      split
      · next pid set =>
        cases stage with
        | unused => exact absurd (set.symm.trans orderly.holds.2.2.1) (by simp)
        | consumed => exact absurd (set.symm.trans orderly.holds.1) (by simp)
        | spawned first worker => exact absurd (set.symm.trans orderly.holds.1) (by simp)
        | filled first worker => exact absurd (set.symm.trans orderly.holds.1) (by simp)
        | recorded first worker =>
          obtain ⟨granted,_,recorded,count,evidence⟩ := orderly.holds
          have launched : (first,worker) ∈ host.launches := by
            rw [orderly.launches]
            exact List.mem_singleton_self _
          have same : first.grantId = request.grantId := Option.some.inj (granted.1.symm.trans consumed)
          have native : (if (host.slots .freshAgent).isSome then outcome.profile else none) = worker.nativeSessionId := by
            by_cases agent : worker.workload = .freshAgent
            · obtain ⟨there,profile⟩ := repeats current first worker launched same agent
              rw [if_pos there,profile]
            · rw [worker.plain agent,if_neg]
              intro there
              obtain ⟨other,held⟩ := Option.isSome_iff_exists.mp there
              obtain ⟨kind,_,no | place⟩ := orderly.slots _ other held
              · cases no
              · cases place
                exact agent kind.symm
          have result : GrantAccepted.mk pid host.workerLaunchCount host.fixtureEvidence
              (if (host.slots .freshAgent).isSome then outcome.profile else none) = worker.result := by
            rw [native,count,evidence,Option.some.inj (set.symm.trans recorded)]
            rfl
          refine ⟨_,orderly.answer waits ?_ ?_ (fun _ _ no => by cases no)⟩
          · intro earlier listed
            cases earlier with
            | launched other launched => trivial
            | answered command given =>
              cases command with
              | stop stop => cases given <;> trivial
              | grantExecution other =>
                cases given with
                | stopped => trivial
                | error error => trivial
                | grantAccepted earlierResult =>
                  intro _
                  obtain ⟨_,_,same,_,rfl⟩ := orderly.accepted other earlierResult listed
                  cases same
                  rw [result]
          · rintro _ _ ⟨⟩ ⟨⟩
            exact ⟨first,worker,rfl,⟨consumed,current,matched⟩,result⟩
      · next unset =>
        refine ⟨stage,orderly.answer_error waits ?_⟩
        rintro _ ⟨⟩ _
        exact unset
    · next apart =>
      refine ⟨stage,orderly.answer_error waits ?_⟩
      rintro _ ⟨⟩ granted
      exact absurd (Option.some.inj (consumed.symm.trans granted.1)) apart
  · next unconsumed =>
    have unused : stage = .unused := by
      cases stage with
      | unused => rfl
      | consumed => exact absurd orderly.holds.2.2.1 (by rw [unconsumed]; simp)
      | spawned first worker => exact absurd (unconsumed.symm.trans orderly.holds.2.2.1.1) (by simp)
      | filled first worker => exact absurd (unconsumed.symm.trans orderly.holds.2.2.1.1) (by simp)
      | recorded first worker => exact absurd (unconsumed.symm.trans orderly.holds.1.1) (by simp)
    subst unused
    have consumed := orderly.consume found
    split
    · exact ⟨_,consumed⟩
    · refine ⟨.consumed,?_⟩
      have released : Orderly (Host.answer _ task (.grantExecution request) (.error ⟨.registryFailure,"write host state"⟩))
          .consumed := consumed.release rfl ⟨rfl,rfl,rfl,rfl,rfl,rfl,rfl⟩
        ⟨rfl,orderly.holds.2.2.2,rfl,fun _ held => by simp [Host.answer] at held⟩ rfl (fun _ placed => placed)
        (fun _ _ no => by cases no) (orderly.nothing rfl).2.2.2 (fun _ _ _ no => by cases no) (fun no => by cases no)
      simp only [Host.answer,if_pos] at released ⊢
      have erased (phase : Task) : (host.tasks.insert task phase).erase task = host.tasks.erase task :=
        AList.ext (List.kerase_cons_eq rfl)
      simpa [free,erased] using released

theorem Orderly.launch (orderly : Orderly host stage) (found : host.tasks.lookup task = some (.launching request))
    (ahead : ∀ workload, request.workload = some workload → outcome.launch.isOk →
      (∀ stop, .answered (.stop stop) .stopped ∉ host.history) ∧
        ∀ other stop next, host.tasks.lookup other = some (.clearing stop next) → next.rank ≤ workload.rank) :
    ∃ after, Orderly (host.launch task request outcome) after := by
  obtain ⟨rfl,held,granted⟩ := orderly.consumed_of_launching found
  have failed : ∀ error, Orderly (host.answer task (.grantExecution request) (.error error)) .consumed := by
    intro error
    obtain ⟨pid,count,consumed,_⟩ := orderly.holds
    exact orderly.release held ⟨rfl,rfl,rfl,rfl,rfl,rfl,rfl⟩
      ⟨pid,count,consumed,fun other holds => by simp [Host.answer,held] at holds⟩ rfl (fun _ placed => placed)
      (fun _ _ no => by cases no) (orderly.nothing rfl).2.2.2 (fun _ _ _ no => by cases no) (fun no => by cases no)
  unfold Host.launch
  split
  · exact ⟨_,failed _⟩
  next workload carried =>
  split
  · exact ⟨_,failed _⟩
  · next pid evidence native launched =>
    obtain ⟨unstopped,past⟩ := ahead workload carried (by rw [launched]; rfl)
    exact ⟨_,orderly.spawn held granted unstopped past⟩

theorem Orderly.record (orderly : Orderly host (.filled request worker)) (held : host.holder = some task)
    (outcome : Outcome) : Orderly (host.record task request worker outcome) (.recorded request worker) := by
  obtain ⟨pid,count,granted,_⟩ := orderly.holds
  have unaccepted : ∀ other given, .answered (.grantExecution other) (.grantAccepted given) ∉ host.history := by
    intro other given listed
    obtain ⟨first,_,no,_⟩ := orderly.accepted other given listed
    cases no
  have one : host.workerLaunchCount + 1 = 1 := by rw [count]
  refine orderly.release held ⟨rfl,rfl,rfl,rfl,rfl,rfl,rfl⟩ ⟨granted,by simp [Host.answer,held],rfl,one,rfl⟩ rfl ?_
    (fun _ _ no => by cases no) unaccepted ?_ ?_
  · rintro other ⟨first,same | no⟩
    · cases same
      exact ⟨request,.inr rfl⟩
    · cases no
  · rintro _ given ⟨⟩ result
    refine ⟨request,worker,rfl,granted,?_⟩
    split at result
    · cases result
      simp only [Worker.result,one]
    · cases result
  · split
    · exact fun no => by cases no
    · exact fun no => by cases no

theorem Orderly.dispatch (orderly : Orderly host stage) (absent : ¬ (host.tasks.lookup task).isSome)
    (command : HostCommand) : Orderly (host.dispatch task command) stage := by
  have waits : ∀ phase, host.tasks.lookup task = some phase → ¬ phase.locks := by
    intro phase found
    rw [found] at absent
    exact absurd rfl absent
  cases command with
  | grantExecution request =>
    unfold Host.dispatch
    simp only
    split
    · next other =>
      refine orderly.answer_error waits ?_
      rintro _ ⟨⟩ granted
      exact absurd granted.2.2.1 other
    next ours =>
    split
    · next other =>
      refine orderly.answer_error waits ?_
      rintro _ ⟨⟩ granted
      exact absurd granted.2.2.2 other
    next boot =>
    refine orderly.place waits id ?_ (fun _ _ no => by cases no)
    rintro _ ⟨⟩
    exact ⟨not_not.mp ours,not_not.mp boot⟩
  | stop request =>
    unfold Host.dispatch
    simp only
    split
    · exact orderly.answer_error waits fun _ no => by cases no
    · exact orderly.place waits id (fun _ no => by cases no) (fun _ _ no => by cases no)

theorem Orderly.step (orderly : Orderly host stage) {label : Label} (sound : host.Sound label) :
    ∃ after, Orderly (host.step label) after := by
  cases label with
  | arrive task command =>
    simp only [Host.step]
    split
    · exact ⟨stage,orderly⟩
    · next absent => exact ⟨stage,orderly.dispatch absent command⟩
  | exits serial =>
    exact ⟨stage,orderly.fewer (fun _ listed => (List.mem_filter.mp listed).1) fun _ => .inl rfl⟩
  | proceed task outcome =>
    simp only [Host.step,Host.proceed,Host.Sound] at sound ⊢
    cases found : host.tasks.lookup task with
    | none => exact ⟨stage,orderly⟩
    | some phase =>
      rw [found] at sound
      cases phase with
      | granting request =>
        simp only
        split
        · exact ⟨stage,orderly⟩
        · next free => exact orderly.grantExecution found outcome (Option.not_isSome_iff_eq_none.mp free) sound
      | launching request => exact orderly.launch found sound
      | filling request worker =>
        obtain ⟨rfl,held⟩ := orderly.spawned_of_filling found
        exact ⟨_,orderly.fillSlot held⟩
      | recording request worker =>
        obtain ⟨rfl,held⟩ := orderly.filled_of_recording found
        exact ⟨_,orderly.record held outcome⟩
      | stopping request =>
        have waits : ∀ phase, host.tasks.lookup task = some phase → ¬ phase.locks := by
          intro phase same
          cases found.symm.trans same
          exact id
        simp only
        split
        · exact ⟨stage,orderly⟩
        split
        · exact ⟨stage,orderly.answer_error waits fun _ no => by cases no⟩
        · refine ⟨stage,orderly.place waits id (fun _ no => by cases no) ?_⟩
          rintro _ _ ⟨⟩ _ _ _ _
          exact Nat.zero_le _
      | clearing request next => exact ⟨stage,orderly.clear found sound.1 sound.2⟩

/-! ### Runs -/

def Host.boot (incarnationId hostBootId : String) : Host := { incarnationId, hostBootId }

theorem orderly_boot (incarnationId hostBootId : String) : Orderly (Host.boot incarnationId hostBootId) .unused where
  holds := ⟨rfl,rfl,rfl,rfl⟩
  launches := rfl
  busy _ _ found := by cases found
  matched _ _ found := by cases found
  slots _ _ found := by cases found
  alive _ listed := by cases listed
  cleared _ _ _ found := by cases found
  accepted _ _ listed := by cases listed
  consistent := .nil
  final _ listed := by cases listed

def quiet : Outcome := ⟨true,.ok (7,"evidence",none),true,none⟩

def heartbeat (epoch : Nat) : GrantExecutionRequest :=
  ⟨"incarnation","boot",epoch,epoch,"grant",some "heartbeat",none,none⟩

def grantThenStop : List Label :=
  [.arrive 0 (.grantExecution (heartbeat 1)),.proceed 0 quiet,.proceed 0 quiet,.proceed 0 quiet,.proceed 0 quiet,
    .arrive 1 (.stop ⟨"incarnation",1,1⟩),.proceed 1 quiet,.proceed 1 quiet,.proceed 1 quiet,.proceed 1 quiet]

def stopThenGrant : List Label :=
  [.arrive 0 (.stop ⟨"incarnation",2,2⟩),.proceed 0 quiet,.proceed 0 quiet,.proceed 0 quiet,.proceed 0 quiet,
    .arrive 1 (.grantExecution (heartbeat 1)),.proceed 1 quiet,.proceed 1 quiet]

end Freshell.SessionHost.Grants
