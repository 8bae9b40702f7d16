import Freshell.AutoResume.Cancels
import Freshell.Library.Runs

/-!
Crash auto-resume is bounded and loud: each event that no panic cuts short comes to one
outcome, a respawn stands under a granted claim that is closed, and over a run neither the
attempts in a row nor the successes within the window exceed what the policy allows.
-/
namespace Freshell.AutoResume
open Freshell.Library.Tables Freshell.Library.Programs Freshell.Library.Runs

/-- An event from beginning to end, or as far as a panic let it get: the frames, what became of
    the entry of its create request, and a time that the clock has reached. -/
inductive Course (turns : Nat → Turn) (cfg : HubConfig) (event : CrashEvent) (start : Table String ResumeHistory)
    (low : Int) : Bool → List Effect → (ResumeHistory → ResumeHistory) → Int → Prop
  | quiet : Course turns cfg event start low false [] id low
  | deciding (now : Int) (later : Steady turns → low ≤ now) :
      Course turns cfg event start low false [] (cfg.recent now) now
  | cancelled (mode : event.mode ∈ autoResumeModes) :
      Course turns cfg event start low true [.settled event.terminalId settleReasonCancelled none] id low
  | settled (now : Int) (reason : String) (resumeCycles : Option Nat) {change : ResumeHistory → ResumeHistory}
      (later : Steady turns → low ≤ now) (settling : Settling cfg event now change) :
      Course turns cfg event start low true (settledFrames event reason resumeCycles) change now
  | counted (now : Int) (plan : Plan) (later : Steady turns → low ≤ now) (resumes : Resumes cfg event start now plan) :
      Course turns cfg event start low false [] (cfg.counting now plan.attempt) now
  | resumed (now : Int) (plan : Plan) {told : Bool} {tail : List Effect} (later : Steady turns → low ≤ now)
      (resumes : Resumes cfg event start now plan) (tail_ : Tail cfg event plan told tail) :
      Course turns cfg event start low told
        (.recovering event.terminalId event.mode event.exitCode plan.attempt cfg.delays.length :: tail)
        (cfg.counting now plan.attempt) now
  | replaced (now : Int) (plan : Plan) (new : String) (at_ : Int) (later : Steady turns → low ≤ now)
      (resumes : Resumes cfg event start now plan) (latest : Steady turns → now ≤ at_) :
      Course turns cfg event start low true
        (.recovering event.terminalId event.mode event.exitCode plan.attempt cfg.delays.length ::
          replacedFrames cfg event plan new at_)
        (withCycle (cfg.counting now plan.attempt) at_) at_

section
variable {turns : Nat → Turn} {cfg : HubConfig} {event : CrashEvent} {start : Table String ResumeHistory} {low : Int}

theorem course_of_broken {desk : Desk} (early : Early turns cfg event start low none desk) :
    ∃ told change high, Course turns cfg event start low told (framesOf desk.effects) change high ∧
      desk.At turns event start high (framesOf desk.effects) change := by
  cases early with
  | waiting _ standing =>
    rw [standing.frames]
    exact ⟨_,_,_,.quiet,standing⟩
  | deciding now later standing =>
    rw [standing.frames]
    exact ⟨_,_,_,.deciding now later,standing⟩
  | settled now reason cycles _ later settling standing =>
    rw [standing.frames]
    exact ⟨_,_,_,.settled now reason cycles later settling,standing⟩
  | counted now plan later resumes standing =>
    rw [standing.frames]
    exact ⟨_,_,_,.counted now plan later resumes,standing⟩

/-- The second part, with the frames that the first one left taken off the desk. -/
structure Finished (turns : Nat → Turn) (cfg : HubConfig) (event : CrashEvent) (start : Table String ResumeHistory)
    (low : Int) (earlier : List Effect) (told : Bool) (desk : Desk) : Prop where
  course : ∃ change high, Course turns cfg event start low told (earlier ++ framesOf desk.effects) change high ∧
    desk.At turns event start high (framesOf desk.effects) change

theorem finished_of_late {now : Int} {plan : Plan} {told : Bool} {desk : Desk} (later : Steady turns → low ≤ now)
    (resumes : Resumes cfg event start now plan)
    (late : Late turns cfg event start now (cfg.counting now plan.attempt) plan told desk) :
    Finished turns cfg event start low
      [.recovering event.terminalId event.mode event.exitCode plan.attempt cfg.delays.length] told desk := by
  cases late with
  | tail standing tail =>
    have frames := standing.frames
    refine ⟨_,_,?_,by rw [frames]; exact standing⟩
    rw [frames]
    exact .resumed now plan later resumes tail
  | cycled new at_ latest standing =>
    have frames := standing.frames
    refine ⟨_,_,?_,by rw [frames]; exact standing⟩
    rw [frames]
    exact .replaced now plan new at_ later resumes latest

theorem meets_finish {stage : Stage} {mid : Desk} (early : Early turns cfg event start low (some stage) mid) :
    (finish turns cfg event stage).Meets (fun desk => desk = { mid with effects := [] })
      (fun _ desk => (∃ told, (stage ≠ .held → told = true) ∧
        Finished turns cfg event start low (framesOf mid.effects) told desk))
      (fun desk => ∃ told, Finished turns cfg event start low (framesOf mid.effects) told desk) := by
  cases early with
  | waiting stays standing =>
    have fresh : ({ mid with effects := [] } : Desk).At turns event start low [] id :=
      ⟨rfl,standing.history,standing.clock⟩
    rw [standing.frames]
    rcases stays with none_ | held
    · cases none_
    · obtain rfl := Option.some.inj held
      rintro desk rfl
      exact ⟨false,fun apart => absurd rfl apart,⟨_,_,.quiet,fresh⟩⟩
  | cancelled mode standing =>
    have fresh : ({ mid with effects := [] } : Desk).At turns event start low [] id :=
      ⟨rfl,standing.history,standing.clock⟩
    rw [standing.frames]
    have quiet : ∀ desk : Desk, desk.At turns event start low [] id →
        ∃ told, Finished turns cfg event start low [] told desk := by
      intro desk standing
      have frames := standing.frames
      exact ⟨false,_,_,by rw [frames]; exact .quiet,by rw [frames]; exact standing⟩
    have told : ∀ desk : Desk, desk.At turns event start low [.settled event.terminalId settleReasonCancelled none] id →
        Finished turns cfg event start low [] true desk := by
      intro desk standing
      have frames := standing.frames
      exact ⟨_,_,by rw [frames]; exact .cancelled mode,by rw [frames]; exact standing⟩
    refine Program.Meets.strengthen ((meets_quietly rfl quiet).bind fun _ => ?_) fun desk same => by rw [same]; exact fresh
    exact (meets_emitSettled settleReasonCancelled none quiet fun desk standing => ⟨true,told desk standing⟩).mono
      (fun _ given => given) (fun _ desk standing => ⟨true,fun _ => rfl,told desk standing⟩) (fun _ given => given)
  | settled now reason cycles stays later settling standing =>
    have fresh : ({ mid with effects := [] } : Desk).At turns event start now [] _ :=
      ⟨rfl,standing.history,standing.clock⟩
    rw [standing.frames]
    rcases stays with none_ | settled
    · cases none_
    · obtain rfl := Option.some.inj settled
      rintro desk rfl
      refine ⟨true,fun _ => rfl,⟨_,_,?_,fresh⟩⟩
      rw [framesOf_nil,List.append_nil]
      exact .settled now reason cycles later settling
  | backedOff now plan later resumes standing =>
    have fresh : ({ mid with effects := [] } : Desk).At turns event start now [] _ :=
      ⟨rfl,standing.history,standing.clock⟩
    rw [standing.frames]
    refine (meets_afterBackOff resumes.own).mono (fun desk same => by rw [same]; exact fresh) ?_ ?_
    · intro _ desk late
      exact ⟨true,fun _ => rfl,finished_of_late later resumes late⟩
    · rintro desk ⟨told,late⟩
      exact ⟨told,finished_of_late later resumes late⟩

end

def Effect.recovers : Effect → Bool
  | .recovering .. => true
  | _ => false

def Effect.concludes : Effect → Bool
  | .settled .. => true
  | .replaced .. => true
  | _ => false

def Effect.replaces : Effect → Bool
  | .replaced .. => true
  | _ => false

def Effect.respawns : Effect → Bool
  | .respawning _ => true
  | _ => false

def Effect.closes (claim : Claim) : Effect → Bool
  | .completed closed _ _ => closed = claim
  | .failed closed => closed = claim
  | _ => false

def Effect.cycle : Effect → Option Int
  | .cycled now => some now
  | _ => none

namespace Entry

def frames (entry : Entry) : List Effect := framesOf (entry.early ++ entry.late)

/-- No panic cut the event short, and it was not put back to wait for its create. -/
def Handled (entry : Entry) : Prop := entry.finished = true ∧ ∀ stage, entry.stage = some stage → stage ≠ .held

structure Safe (entry : Entry) : Prop where
  /-- At most one announcement, and one outcome behind it; a shell has none. -/
  ends : entry.Handled → ∃ announced outcome,
    entry.frames.filter (fun effect => effect.recovers || effect.concludes) = announced ++ outcome ∧
    announced.length ≤ 1 ∧ (∀ effect ∈ announced, effect.recovers = true) ∧
    outcome.length = (if entry.event.mode = "shell" then 0 else 1) ∧ ∀ effect ∈ outcome, effect.concludes = true
  respawn : ∀ spec, .respawning spec ∈ entry.frames → entry.event.exitCode ≠ 0 ∧ entry.event.mode ∈ autoResumeModes ∧
    ∃ observed earlier later, entry.frames =
      earlier ++ .claimed ⟨spec.provider,spec.sessionId,spec.createRequestId⟩ observed true :: later ∧
      .respawning spec ∈ later
  /-- No second respawn is started within an event, and the next event waits for the end of this one. -/
  single : entry.frames.countP Effect.respawns ≤ 1
  claims : entry.Handled → ∀ claim observed, .claimed claim observed true ∈ entry.frames →
    entry.frames.countP (Effect.closes claim) = 1
  /-- A success is recorded for what bounds the successes. -/
  recorded : entry.Handled → entry.frames.countP Effect.replaces = (entry.frames.filterMap Effect.cycle).length
  prevented : entry.event.terminalId ∈ entry.before ∨ .cancelled entry.event.terminalId ∈ entry.early →
    ∀ spec, .respawning spec ∉ entry.frames
  cleared : entry.Handled → entry.event.terminalId ∈ entry.after → .cancelled entry.event.terminalId ∈ entry.late

end Entry

section
variable {turns : Nat → Turn} {cfg : HubConfig} {event : CrashEvent} {start : Table String ResumeHistory} {low : Int}
  {told : Bool} {frames : List Effect} {change : ResumeHistory → ResumeHistory} {high : Int} {plan : Plan}

theorem autoResume_notShell (mode : event.mode ∈ autoResumeModes) : event.mode ≠ "shell" := by
  intro shell
  rw [shell] at mode
  simp [autoResumeModes] at mode

theorem Tail.conclusion (tail : Tail cfg event plan told frames) (ended : told = true) :
    ∃ outcome, frames.filter (fun effect => effect.recovers || effect.concludes) = [outcome] ∧
      outcome.concludes = true := by
  cases tail with
  | gaveUp reason => exact ⟨_,rfl,rfl⟩
  | unclaimed reason => exact ⟨_,rfl,rfl⟩
  | lost new reason => exact ⟨_,rfl,rfl⟩
  | respawnFailed error reason => exact ⟨_,rfl,rfl⟩
  | _ => cases ended

theorem Course.ends (course : Course turns cfg event start low told frames change high) (ended : told = true) :
    ∃ announced outcome, frames.filter (fun effect => effect.recovers || effect.concludes) = announced ++ outcome ∧
      announced.length ≤ 1 ∧ (∀ effect ∈ announced, effect.recovers = true) ∧
      outcome.length = (if event.mode = "shell" then 0 else 1) ∧ ∀ effect ∈ outcome, effect.concludes = true := by
  cases course with
  | cancelled mode =>
    refine ⟨[],[.settled event.terminalId settleReasonCancelled none],rfl,Nat.zero_le 1,by simp,?_,by simp [Effect.concludes]⟩
    rw [if_neg (autoResume_notShell mode)]
    rfl
  | settled now reason cycles later settling =>
    refine ⟨[],settledFrames event reason cycles,?_,by simp,by simp,?_,?_⟩
    · by_cases shell : event.mode = "shell"
      · simp [settledFrames,shell]
      · simp [settledFrames,shell,Effect.concludes]
    · by_cases shell : event.mode = "shell"
      · simp [settledFrames,shell]
      · simp [settledFrames,shell]
    · intro effect listed
      by_cases shell : event.mode = "shell"
      · simp [settledFrames,shell] at listed
      · simp only [settledFrames,if_pos shell,List.mem_singleton] at listed
        rw [listed]
        rfl
  | resumed now plan later resumes tail =>
    obtain ⟨outcome,visible,concludes⟩ := tail.conclusion ended
    refine ⟨[.recovering event.terminalId event.mode event.exitCode plan.attempt cfg.delays.length],[outcome],?_,
      Nat.le_refl 1,?_,?_,by simpa using concludes⟩
    · rw [List.filter_cons_of_pos rfl,visible]
      rfl
    · simp [Effect.recovers]
    · rw [if_neg (autoResume_notShell resumes.mode)]
      rfl
  | replaced now plan new at_ later resumes latest =>
    refine ⟨[.recovering event.terminalId event.mode event.exitCode plan.attempt cfg.delays.length],
      [.replaced event.terminalId new event.exitCode plan.attempt cfg.delays.length],rfl,Nat.le_refl 1,?_,?_,
      by simp [Effect.concludes]⟩
    · simp [Effect.recovers]
    · rw [if_neg (autoResume_notShell resumes.mode)]
      rfl
  | _ => cases ended

variable {reason : String}

theorem settledFrames_settled {cycles : Option Nat} {effect : Effect}
    (listed : effect ∈ settledFrames event reason cycles) : effect = .settled event.terminalId reason cycles := by
  simp only [settledFrames] at listed
  split at listed
  · exact List.mem_singleton.mp listed
  · cases listed

theorem countP_settledFrames {cycles : Option Nat} (test : Effect → Bool)
    (other : test (.settled event.terminalId reason cycles) = false) :
    (settledFrames event reason cycles).countP test = 0 := by
  rw [List.countP_eq_zero]
  intro effect listed
  rw [settledFrames_settled listed,other]
  exact Bool.false_ne_true

variable {spec : RespawnSpec}

theorem Tail.respawn (tail : Tail cfg event plan told frames) (listed : .respawning spec ∈ frames) :
    spec = plan.spec event ∧ ∃ later, frames = .claimed plan.claim event.observedFence true :: later ∧
      .respawning spec ∈ later := by
  cases tail <;> simp_all

theorem Course.respawn (course : Course turns cfg event start low told frames change high)
    (listed : .respawning spec ∈ frames) : event.exitCode ≠ 0 ∧ event.mode ∈ autoResumeModes ∧
      ∃ observed earlier later, frames =
        earlier ++ .claimed ⟨spec.provider,spec.sessionId,spec.createRequestId⟩ observed true :: later ∧
        .respawning spec ∈ later := by
  cases course with
  | settled now reason cycles later settling => cases settledFrames_settled listed
  | resumed now plan later resumes tail =>
    obtain ⟨rfl,rest,rfl,behind⟩ := tail.respawn ((List.mem_cons.mp listed).resolve_left (by simp))
    exact ⟨resumes.exit,resumes.mode,_,[_],rest,rfl,behind⟩
  | replaced now plan new at_ later resumes latest =>
    have same : spec = plan.spec event := by simpa [replacedFrames] using listed
    subst same
    exact ⟨resumes.exit,resumes.mode,_,[_],_,rfl,List.mem_cons_self⟩
  | _ => simp at listed

theorem Course.single (course : Course turns cfg event start low told frames change high) :
    frames.countP Effect.respawns ≤ 1 := by
  cases course with
  | settled now reason cycles later settling =>
    rw [countP_settledFrames _ rfl]
    exact Nat.zero_le 1
  | resumed now plan later resumes tail => cases tail <;> simp [Effect.respawns,List.countP_cons]
  | replaced now plan new at_ later resumes latest => simp [replacedFrames,Effect.respawns,List.countP_cons]
  | _ => simp [Effect.respawns]

variable {claim : Claim} {observed : Option (Nat × Nat)}

theorem Tail.claims (tail : Tail cfg event plan told frames) (ended : told = true)
    (listed : .claimed claim observed true ∈ frames) : frames.countP (Effect.closes claim) = 1 := by
  cases tail with
  | lost new reason =>
    obtain ⟨rfl,_⟩ : claim = plan.claim ∧ _ := by simpa using listed
    simp [Effect.closes]
  | respawnFailed error reason =>
    obtain ⟨rfl,_⟩ : claim = plan.claim ∧ _ := by simpa using listed
    simp [Effect.closes]
  | gaveUp reason => simp at listed
  | unclaimed reason => simp at listed
  | _ => cases ended

theorem Course.claims (course : Course turns cfg event start low told frames change high) (ended : told = true)
    (listed : .claimed claim observed true ∈ frames) : frames.countP (Effect.closes claim) = 1 := by
  cases course with
  | settled now reason cycles later settling => cases settledFrames_settled listed
  | resumed now plan later resumes tail =>
    rw [List.countP_cons_of_neg (by simp [Effect.closes])]
    exact tail.claims ended ((List.mem_cons.mp listed).resolve_left (by simp))
  | replaced now plan new at_ later resumes latest =>
    obtain ⟨rfl,_⟩ : claim = plan.claim ∧ _ := by simpa [replacedFrames] using listed
    simp [replacedFrames,Effect.closes]
  | cancelled mode => simp at listed
  | _ => cases ended

theorem Course.recorded (course : Course turns cfg event start low told frames change high) (ended : told = true) :
    frames.countP Effect.replaces = (frames.filterMap Effect.cycle).length := by
  cases course with
  | settled now reason cycles later settling =>
    rw [countP_settledFrames _ rfl]
    have none_ : (settledFrames event reason cycles).filterMap Effect.cycle = [] := by
      rw [List.filterMap_eq_nil_iff]
      intro effect listed
      rw [settledFrames_settled listed]
      rfl
    rw [none_]
    rfl
  | resumed now plan later resumes tail =>
    cases tail with
    | gaveUp reason => rfl
    | unclaimed reason => rfl
    | lost new reason => rfl
    | respawnFailed error reason => rfl
    | _ => cases ended
  | replaced now plan new at_ later resumes latest => rfl
  | cancelled mode => rfl
  | _ => cases ended

/-- What the loop has made of the first event of its channel. -/
structure Done (turns : Nat → Turn) (cfg : HubConfig) (event : CrashEvent) (hub after : Hub) : Prop where
  entry : ∃ entry told change high, after.log = hub.log ++ [entry] ∧ entry.event = event ∧ entry.Safe ∧
    Course turns cfg event hub.history hub.clock told entry.frames change high ∧
    (∀ key, entryOf after.history key =
      if event.createRequestId = some key then change (entryOf hub.history key) else entryOf hub.history key) ∧
    (Steady turns → high ≤ after.clock ∧ after.clock ≤ (turns after.calls).now)

theorem safe_of_course {entry : Entry} (course : Course turns cfg entry.event start low told entry.frames change high)
    (ended : entry.Handled → told = true)
    (prevented : entry.event.terminalId ∈ entry.before ∨ .cancelled entry.event.terminalId ∈ entry.early →
      ∀ spec, .respawning spec ∉ entry.frames)
    (cleared : entry.Handled → entry.event.terminalId ∈ entry.after → .cancelled entry.event.terminalId ∈ entry.late) :
    entry.Safe where
  ends handled := course.ends (ended handled)
  respawn _ listed := course.respawn listed
  single := course.single
  claims handled _ _ listed := course.claims (ended handled) listed
  recorded handled := course.recorded (ended handled)
  prevented := prevented
  cleared := cleared

theorem early_noRespawn {stage : Option Stage} {desk : Desk} (early : Early turns cfg event start low stage desk)
    (spec : RespawnSpec) : .respawning spec ∉ framesOf desk.effects := by
  intro listed
  cases early with
  | waiting _ standing => simp [standing.frames] at listed
  | cancelled _ standing => simp [standing.frames] at listed
  | deciding now later standing => simp [standing.frames] at listed
  | settled now reason cycles stays later settling standing =>
    rw [standing.frames] at listed
    cases settledFrames_settled listed
  | counted now plan later resumes standing => simp [standing.frames] at listed
  | backedOff now plan later resumes standing => simp [standing.frames] at listed

theorem meets_finishCancelled {stage : Stage} {mid : Desk} (early : Early turns cfg event start low (some stage) mid)
    (stands : ∀ plan, stage = .backedOff plan → event.terminalId ∈ mid.cancels) :
    (finish turns cfg event stage).Meets (fun desk => desk = { mid with effects := [] })
      (fun _ desk => ∀ effect ∈ framesOf desk.effects, ∃ reason cycles, effect = .settled event.terminalId reason cycles)
      (fun desk => ∀ effect ∈ framesOf desk.effects, ∃ reason cycles, effect = .settled event.terminalId reason cycles) := by
  cases early with
  | waiting stays standing =>
    rcases stays with none_ | held
    · cases none_
    · obtain rfl := Option.some.inj held
      rintro desk rfl effect listed
      cases listed
  | settled now reason cycles stays later settling standing =>
    rcases stays with none_ | settled
    · cases none_
    · obtain rfl := Option.some.inj settled
      rintro desk rfl effect listed
      cases listed
  | cancelled mode standing =>
    have fresh : ({ mid with effects := [] } : Desk).At turns event start low [] id :=
      ⟨rfl,standing.history,standing.clock⟩
    have quiet : ∀ desk : Desk, desk.At turns event start low [] id →
        ∀ effect ∈ framesOf desk.effects, ∃ reason cycles, effect = .settled event.terminalId reason cycles := by
      intro desk standing effect listed
      rw [standing.frames] at listed
      cases listed
    have told : ∀ desk : Desk, desk.At turns event start low [.settled event.terminalId settleReasonCancelled none] id →
        ∀ effect ∈ framesOf desk.effects, ∃ reason cycles, effect = .settled event.terminalId reason cycles := by
      intro desk standing effect listed
      rw [standing.frames,List.mem_singleton] at listed
      exact ⟨_,_,listed⟩
    refine Program.Meets.strengthen ((meets_quietly rfl quiet).bind fun _ => ?_) fun desk same => by rw [same]; exact fresh
    exact (meets_emitSettled settleReasonCancelled none quiet told).mono (fun _ given => given)
      (fun _ desk standing => told desk standing) (fun _ given => given)
  | backedOff now plan later resumes standing =>
    have fresh : ({ mid with effects := [] } : Desk).At turns event start now [] _ :=
      ⟨rfl,standing.history,standing.clock⟩
    rintro desk rfl
    exact meets_cancelledBackOff _ ⟨stands plan rfl,fresh⟩

theorem handle_done {hub : Hub} {rest : List CrashEvent} (ranMs : Int) (queued : hub.queue = event :: rest)
    (steady : Steady turns → hub.clock ≤ (turns hub.calls).now) :
    Done turns cfg event hub (hub.handle turns cfg ranMs) := by
  have fresh : (hub.desk rest).At turns event hub.history hub.clock [] id :=
    ⟨rfl,fun key => by simp [Hub.desk],fun moves => ⟨Int.le_refl _,steady moves⟩⟩
  have stands : Standing event hub.cancels (hub.desk rest) := by
    by_cases held : event.terminalId ∈ hub.cancels
    · exact .inl held
    · exact .inr ⟨held,by simp [Hub.desk]⟩
  simp only [Hub.handle,queued]
  cases first : untilBackedOff turns cfg event (hub.desk rest) with
  | mk result mid =>
    cases result with
    | none =>
      have early := meets_untilBackedOff.broke fresh first
      obtain ⟨told,change,high,course,standing⟩ := course_of_broken early
      let entry : Entry := ⟨event,hub.cancels,mid.cancels,mid.effects,[],none,false⟩
      have frames : entry.frames = framesOf mid.effects := by simp [entry,Entry.frames]
      have safe : entry.Safe := by
        refine safe_of_course (by rw [frames]; exact course) ?_ ?_ ?_
        · exact fun handled => absurd handled.1 (by simp [entry])
        · intro _ spec
          rw [frames]
          exact early_noRespawn early spec
        · exact fun handled => absurd handled.1 (by simp [entry])
      exact ⟨entry,told,change,high,rfl,rfl,safe,by rw [frames]; exact course,standing.history,standing.clock⟩
    | some stage =>
      have early := meets_untilBackedOff.done fresh first
      have stood := meets_untilStanding.done stands first
      have taken := meets_untilTaken.done trivial first
      dsimp only
      cases second : finish turns cfg event stage { mid with effects := [] } with
      | mk result last =>
        have prevented : event.terminalId ∈ hub.cancels ∨ .cancelled event.terminalId ∈ mid.effects →
            ∀ spec, .respawning spec ∉ framesOf last.effects := by
          intro came spec listed
          have met := meets_finishCancelled early fun plan backed =>
            (stood plan backed).resolve_right fun quiet => came.elim quiet.1 quiet.2
          have settles : ∀ effect ∈ framesOf last.effects,
              ∃ reason cycles, effect = .settled event.terminalId reason cycles := by
            cases result with
            | none => exact met.broke rfl second
            | some _ => exact met.done rfl second
          obtain ⟨_,_,same⟩ := settles _ listed
          cases same
        have quiet : event.terminalId ∈ hub.cancels ∨ .cancelled event.terminalId ∈ mid.effects →
            ∀ spec, .respawning spec ∉ framesOf mid.effects ++ framesOf last.effects := by
          intro came spec listed
          rcases List.mem_append.mp listed with first | later
          · exact early_noRespawn early spec first
          · exact prevented came spec later
        cases result with
        | none =>
          obtain ⟨told,change,high,course,standing⟩ := (meets_finish early).broke rfl second
          let entry : Entry := ⟨event,hub.cancels,last.cancels,mid.effects,last.effects,some stage,false⟩
          have frames : entry.frames = framesOf mid.effects ++ framesOf last.effects := framesOf_append ..
          have safe : entry.Safe := by
            refine safe_of_course (by rw [frames]; exact course) ?_ (by rw [frames]; exact quiet) ?_
            · exact fun handled => absurd handled.1 (by simp [entry])
            · exact fun handled => absurd handled.1 (by simp [entry])
          exact ⟨entry,told,change,high,rfl,rfl,safe,by rw [frames]; exact course,standing.history,standing.clock⟩
        | some _ =>
          obtain ⟨told,ended,change,high,course,standing⟩ := (meets_finish early).done rfl second
          have gone : stage = .settled ∨ stage = .cancelled → event.terminalId ∉ ({ mid with effects := [] } : Desk).cancels :=
            taken
          have recent := (meets_finishRecent stage).done gone second
          let entry : Entry := ⟨event,hub.cancels,last.cancels,mid.effects,last.effects,some stage,true⟩
          have frames : entry.frames = framesOf mid.effects ++ framesOf last.effects := framesOf_append ..
          have safe : entry.Safe := by
            refine safe_of_course (by rw [frames]; exact course) ?_ (by rw [frames]; exact quiet) ?_
            · exact fun handled => ended (handled.2 stage rfl)
            · exact fun handled => recent (handled.2 stage rfl)
          exact ⟨entry,told,change,high,rfl,rfl,safe,by rw [frames]; exact course,standing.history,standing.clock⟩

end

def Entry.Of (key : String) (entry : Entry) : Prop := entry.event.createRequestId = some key

instance (key : String) (entry : Entry) : Decidable (entry.Of key) := inferInstanceAs (Decidable (_ = _))

/-- How often a resume of the create request was announced. -/
def attemptsIn (key : String) (entries : List Entry) : Nat :=
  (entries.map fun entry => if entry.Of key then entry.frames.countP Effect.recovers else 0).sum

/-- When resumes of the create request succeeded. -/
def cyclesIn (key : String) (entries : List Entry) : List Int :=
  entries.flatMap fun entry => if entry.Of key then entry.frames.filterMap Effect.cycle else []

/-- A generation that died early, and not by leaving cleanly. -/
def Entry.ShortLived (cfg : HubConfig) (entry : Entry) : Prop :=
  entry.event.lifetimeMs < cfg.healthyLifetimeMs ∧ entry.event.exitCode ≠ 0

structure Bounded (turns : Nat → Turn) (cfg : HubConfig) (log : List Entry) : Prop where
  entries : ∀ entry ∈ log, entry.Safe
  /-- Between two crashes that are not early, or after the last, there are at most as many
      attempts as delays. -/
  attempts : ∀ key earlier first rest later, log = earlier ++ first :: rest ++ later →
    (∀ entry ∈ rest, entry.Of key → entry.ShortLived cfg) → attemptsIn key (first :: rest) ≤ cfg.delays.length
  cycles : Steady turns → ∀ key (since : Int),
    ((cyclesIn key log).filter fun time => since ≤ time ∧ time ≤ since + cfg.cycleWindowMs).length ≤ cfg.maxCycles

section
variable {turns : Nat → Turn} {cfg : HubConfig} {event : CrashEvent} {start : Table String ResumeHistory} {low : Int}
  {told : Bool} {frames : List Effect} {change : ResumeHistory → ResumeHistory} {high : Int} {plan : Plan}

theorem Course.attempts (course : Course turns cfg event start low told frames change high) {key : String}
    (own : event.createRequestId = some key) (within : (entryOf start key).attempts ≤ cfg.delays.length) :
    (change (entryOf start key)).attempts ≤ cfg.delays.length ∧
      frames.countP Effect.recovers ≤ (change (entryOf start key)).attempts ∧
      (event.lifetimeMs < cfg.healthyLifetimeMs → event.exitCode ≠ 0 →
        (entryOf start key).attempts + frames.countP Effect.recovers ≤ (change (entryOf start key)).attempts) := by
  have counts : ∀ {now : Int} {plan : Plan}, Resumes cfg event start now plan → plan.attempt ≤ cfg.delays.length ∧
      1 ≤ plan.attempt ∧
      (event.lifetimeMs < cfg.healthyLifetimeMs → (entryOf start key).attempts + 1 ≤ plan.attempt) := by
    intro now plan resumes
    obtain rfl := Option.some.inj (resumes.own.symm.trans own)
    obtain ⟨prior,inside,next,same⟩ := resumes.attempt
    refine ⟨by omega,by omega,fun short => ?_⟩
    rw [if_neg (by omega)] at same
    omega
  have tails : ∀ {plan : Plan} {told : Bool} {frames : List Effect}, Tail cfg event plan told frames →
      frames.countP Effect.recovers = 0 := by
    intro plan told frames tail
    cases tail <;> rfl
  cases course with
  | quiet => exact ⟨within,Nat.zero_le _,fun _ _ => Nat.le_refl _⟩
  | deciding now later => exact ⟨within,Nat.zero_le _,fun _ _ => Nat.le_refl _⟩
  | cancelled mode => exact ⟨within,Nat.zero_le _,fun _ _ => Nat.le_refl _⟩
  | settled now reason cycles later settling =>
    rw [countP_settledFrames _ rfl]
    cases settling with
    | kept => exact ⟨within,Nat.zero_le _,fun _ _ => Nat.le_refl _⟩
    | spared deserved =>
      refine ⟨Nat.zero_le _,Nat.zero_le _,fun short failed => ?_⟩
      rcases deserved with clean | healthy
      · exact absurd clean failed
      · omega
  | counted now plan later resumes =>
    obtain ⟨most,_,grows⟩ := counts resumes
    refine ⟨most,Nat.zero_le _,fun short _ => ?_⟩
    have grown := grows short
    simp only [List.countP_nil,HubConfig.counting]
    omega
  | resumed now plan later resumes tail =>
    obtain ⟨most,positive,grows⟩ := counts resumes
    rw [List.countP_cons_of_pos rfl,tails tail]
    exact ⟨most,positive,fun short _ => grows short⟩
  | replaced now plan new at_ later resumes latest =>
    obtain ⟨most,positive,grows⟩ := counts resumes
    exact ⟨most,positive,fun short _ => grows short⟩

def withinWindow (cfg : HubConfig) (now : Int) (cycles : List Int) : List Int :=
  cycles.filter fun time => now - time ≤ cfg.cycleWindowMs

theorem withinWindow_again {now later : Int} (after : now ≤ later) (cycles : List Int) :
    withinWindow cfg later (withinWindow cfg now cycles) = withinWindow cfg later cycles := by
  simp only [withinWindow,List.filter_filter]
  refine List.filter_congr fun time _ => ?_
  by_cases inside : later - time ≤ cfg.cycleWindowMs
  · have before : now - time ≤ cfg.cycleWindowMs := by omega
    simp [inside,before]
  · simp [inside]

theorem withinWindow_append (now : Int) (first second : List Int) :
    withinWindow cfg now (first ++ second) = withinWindow cfg now first ++ withinWindow cfg now second :=
  List.filter_append ..

/-- What an event does to the cycles of its create request: none that will count is lost, and a
    success is recorded only under the limit. -/
theorem Course.cycles (course : Course turns cfg event start low told frames change high) (steady : Steady turns)
    {key : String} (own : event.createRequestId = some key) :
    (frames.filterMap Effect.cycle = [] ∧
      ∀ now, high ≤ now → withinWindow cfg now (change (entryOf start key)).cycles =
        withinWindow cfg now (entryOf start key).cycles) ∨
    ∃ now, low ≤ now ∧ now ≤ high ∧ frames.filterMap Effect.cycle = [high] ∧
      (withinWindow cfg now (entryOf start key).cycles).length < cfg.maxCycles ∧
      (change (entryOf start key)).cycles = withinWindow cfg now (entryOf start key).cycles ++ [high] := by
  have tails : ∀ {plan : Plan} {told : Bool} {frames : List Effect}, Tail cfg event plan told frames →
      frames.filterMap Effect.cycle = [] := by
    intro plan told frames tail
    cases tail <;> rfl
  cases course with
  | quiet => exact .inl ⟨rfl,fun _ _ => rfl⟩
  | cancelled mode => exact .inl ⟨rfl,fun _ _ => rfl⟩
  | deciding now later => exact .inl ⟨rfl,fun _ after => withinWindow_again after _⟩
  | settled now reason cycles later settling =>
    refine .inl ⟨?_,fun _ after => ?_⟩
    · rw [List.filterMap_eq_nil_iff]
      intro effect listed
      rw [settledFrames_settled listed]
      rfl
    · cases settling with
      | kept => exact withinWindow_again after _
      | spared deserved => exact withinWindow_again after _
  | counted now plan later resumes => exact .inl ⟨rfl,fun _ after => withinWindow_again after _⟩
  | resumed now plan later resumes tail =>
    refine .inl ⟨?_,fun _ after => withinWindow_again after _⟩
    rw [List.filterMap_cons_none rfl,tails tail]
  | replaced now plan new at_ later resumes latest =>
    obtain rfl := Option.some.inj (resumes.own.symm.trans own)
    exact .inr ⟨now,later steady,latest steady,rfl,resumes.cycles,rfl⟩

theorem Course.reached (course : Course turns cfg event start low told frames change high) (steady : Steady turns) :
    low ≤ high := by
  cases course with
  | quiet => exact Int.le_refl _
  | cancelled mode => exact Int.le_refl _
  | deciding now later => exact later steady
  | settled now reason cycles later settling => exact later steady
  | counted now plan later resumes => exact later steady
  | resumed now plan later resumes tail => exact later steady
  | replaced now plan new at_ later resumes latest => exact Int.le_trans (later steady) (latest steady)

/-- What every state of the hub has: the attempts since the last crash that was not early are
    counted, and the recorded cycles are the successes, as far as they can still count. -/
structure Kept (turns : Nat → Turn) (cfg : HubConfig) (hub : Hub) : Prop where
  steady : Steady turns → hub.clock ≤ (turns hub.calls).now
  bounded : Bounded turns cfg hub.log
  within : ∀ key, (entryOf hub.history key).attempts ≤ cfg.delays.length
  counted : ∀ key earlier first rest, hub.log = earlier ++ first :: rest →
    (∀ entry ∈ rest, entry.Of key → entry.ShortLived cfg) → attemptsIn key (first :: rest) ≤ (entryOf hub.history key).attempts
  past : Steady turns → ∀ key, ∀ time ∈ cyclesIn key hub.log, time ≤ hub.clock
  recorded : Steady turns → ∀ key now, hub.clock ≤ now →
    withinWindow cfg now (cyclesIn key hub.log) = withinWindow cfg now (entryOf hub.history key).cycles

variable (key : String)

theorem attemptsIn_append (first second : List Entry) :
    attemptsIn key (first ++ second) = attemptsIn key first + attemptsIn key second := by
  simp [attemptsIn]

theorem cyclesIn_append (first second : List Entry) :
    cyclesIn key (first ++ second) = cyclesIn key first ++ cyclesIn key second := List.flatMap_append ..

variable (entry : Entry)

theorem attemptsIn_single :
    attemptsIn key [entry] = if entry.Of key then entry.frames.countP Effect.recovers else 0 := by
  simp [attemptsIn]

theorem cyclesIn_single : cyclesIn key [entry] = if entry.Of key then entry.frames.filterMap Effect.cycle else [] := by
  simp [cyclesIn]

variable {hub : Hub} {history : Table String ResumeHistory}

theorem Kept.counted_done (kept : Kept turns cfg hub) {entry : Entry}
    (course : Course turns cfg entry.event hub.history low told entry.frames change high)
    (becomes : ∀ key, entryOf history key =
      if entry.Of key then change (entryOf hub.history key) else entryOf hub.history key) (key : String) :
    (entryOf history key).attempts ≤ cfg.delays.length ∧
      ∀ earlier first rest, hub.log ++ [entry] = earlier ++ first :: rest →
        (∀ entry ∈ rest, entry.Of key → entry.ShortLived cfg) →
        attemptsIn key (first :: rest) ≤ (entryOf history key).attempts := by
  have counts : (entryOf history key).attempts ≤ cfg.delays.length ∧
      attemptsIn key [entry] ≤ (entryOf history key).attempts ∧
      ((entry.Of key → entry.ShortLived cfg) →
        (entryOf hub.history key).attempts + attemptsIn key [entry] ≤ (entryOf history key).attempts) := by
    rw [attemptsIn_single,becomes key]
    by_cases own : entry.Of key
    · rw [if_pos own,if_pos own]
      obtain ⟨most,announced,grows⟩ := course.attempts own (kept.within key)
      exact ⟨most,announced,fun short => grows (short own).1 (short own).2⟩
    · rw [if_neg own,if_neg own]
      exact ⟨kept.within key,Nat.zero_le _,fun _ => Nat.le_refl _⟩
  obtain ⟨most,alone,grows⟩ := counts
  refine ⟨most,fun earlier first rest split_ short => ?_⟩
  rcases List.eq_nil_or_concat rest with rfl | ⟨before,last,rfl⟩
  · obtain ⟨_,same⟩ := List.append_inj' split_ rfl
    rw [←same]
    exact alone
  · rw [List.concat_eq_append,←List.cons_append,←List.append_assoc] at split_
    obtain ⟨log,same⟩ := List.append_inj' split_ rfl
    obtain rfl := List.singleton_inj.mp same
    have soFar := kept.counted key earlier first before log fun entry listed => short entry (by simp [listed])
    have grown := grows (short entry (by simp))
    rw [List.concat_eq_append,←List.cons_append,attemptsIn_append]
    omega

theorem Kept.cycles_done (kept : Kept turns cfg hub) {entry : Entry}
    (course : Course turns cfg entry.event hub.history hub.clock told entry.frames change high)
    (becomes : ∀ key, entryOf history key =
      if entry.Of key then change (entryOf hub.history key) else entryOf hub.history key) (steady : Steady turns)
    {clock : Int} (reached : high ≤ clock) (advanced : hub.clock ≤ clock) (key : String) :
    (∀ time ∈ cyclesIn key (hub.log ++ [entry]), time ≤ clock) ∧
      (∀ now, clock ≤ now → withinWindow cfg now (cyclesIn key (hub.log ++ [entry])) =
        withinWindow cfg now (entryOf history key).cycles) ∧
      ∀ since, ((cyclesIn key (hub.log ++ [entry])).filter fun time =>
        since ≤ time ∧ time ≤ since + cfg.cycleWindowMs).length ≤ cfg.maxCycles := by
  have past := kept.past steady key
  have recorded := kept.recorded steady key
  have bounded := kept.bounded.cycles steady key
  rw [cyclesIn_append,cyclesIn_single,becomes key]
  by_cases own : entry.Of key
  · rw [if_pos own,if_pos own]
    obtain ⟨none_,same⟩ | ⟨now,later,before,success,under,becomes⟩ := course.cycles steady own
    · rw [none_,List.append_nil]
      refine ⟨fun time listed => Int.le_trans (past time listed) advanced,fun now after => ?_,bounded⟩
      rw [same now (Int.le_trans reached after)]
      exact recorded now (Int.le_trans advanced after)
    · rw [success,becomes]
      refine ⟨?_,fun at_ after => ?_,fun since => ?_⟩
      · intro time listed
        rcases List.mem_append.mp listed with old | new
        · exact Int.le_trans (past time old) advanced
        · rw [List.mem_singleton.mp new]
          exact reached
      · rw [withinWindow_append,withinWindow_append,recorded at_ (Int.le_trans advanced after),
          withinWindow_again (by omega)]
      · rw [List.filter_append]
        by_cases inside : since ≤ high ∧ high ≤ since + cfg.cycleWindowMs
        · have fewer : ((cyclesIn key hub.log).filter fun time =>
              since ≤ time ∧ time ≤ since + cfg.cycleWindowMs).length ≤
              (withinWindow cfg now (cyclesIn key hub.log)).length := by
            rw [withinWindow,←List.countP_eq_length_filter,←List.countP_eq_length_filter]
            refine List.countP_mono_left fun time _ between => ?_
            simp only [decide_eq_true_eq] at between ⊢
            omega
          rw [recorded now later] at fewer
          simp only [List.length_append,List.filter_cons,decide_eq_true inside,if_true,List.filter_nil,List.length_singleton]
          omega
        · have apart : ([high].filter fun time => decide (since ≤ time ∧ time ≤ since + cfg.cycleWindowMs)) = [] := by
            simp only [List.filter_cons,decide_eq_false inside,List.filter_nil]
            rfl
          rw [apart,List.append_nil]
          exact bounded since
  · rw [if_neg own,if_neg own,List.append_nil]
    refine ⟨fun time listed => Int.le_trans (past time listed) advanced,fun now after => ?_,bounded⟩
    exact recorded now (Int.le_trans advanced after)

theorem Kept.handle (kept : Kept turns cfg hub) (ranMs : Int) : Kept turns cfg (hub.handle turns cfg ranMs) := by
  cases queued : hub.queue with
  | nil =>
    have same : hub.handle turns cfg ranMs = hub := by simp [Hub.handle,queued]
    rw [same]
    exact kept
  | cons event rest =>
    obtain ⟨entry,told,change,high,log,rfl,safe,course,becomes,clock⟩ := handle_done ranMs queued kept.steady
    have attempts := kept.counted_done course becomes
    have cycles := fun (moves : Steady turns) =>
      kept.cycles_done course becomes moves (clock moves).1 (Int.le_trans (course.reached moves) (clock moves).1)
    refine ⟨fun moves => (clock moves).2,?_,fun key => (attempts key).1,?_,?_,?_⟩
    · refine ⟨?_,?_,?_⟩
      · intro listed member
        rw [log] at member
        rcases List.mem_append.mp member with old | new
        · exact kept.bounded.entries listed old
        · rw [List.mem_singleton.mp new]
          exact safe
      · intro key earlier first rest later split_ short
        rw [log] at split_
        rcases List.eq_nil_or_concat later with rfl | ⟨before,last,rfl⟩
        · rw [List.append_nil] at split_
          exact Nat.le_trans ((attempts key).2 earlier first rest split_ short) (attempts key).1
        · rw [List.concat_eq_append,←List.append_assoc] at split_
          obtain ⟨old,_⟩ := List.append_inj' split_ rfl
          exact kept.bounded.attempts key earlier first rest before old short
      · intro moves key since
        rw [log]
        exact (cycles moves key).2.2 since
    · intro key earlier first rest split_ short
      rw [log] at split_
      exact (attempts key).2 earlier first rest split_ short
    · intro moves key
      rw [log]
      exact (cycles moves key).1
    · intro moves key
      rw [log]
      exact (cycles moves key).2.1

theorem kept_new {clock : Int} (started : Steady turns → clock ≤ (turns 0).now) : Kept turns cfg (.new clock) where
  steady := started
  bounded := by
    refine ⟨by simp [Hub.new],?_,?_⟩
    · intro key earlier first rest later split_
      simp [Hub.new] at split_
    · intro _ key since
      exact Nat.zero_le _
  within key := by simp [Hub.new,entryOf]
  counted key earlier first rest split_ := by simp [Hub.new] at split_
  past _ key time listed := by simp [Hub.new,cyclesIn] at listed
  recorded _ key now _ := by simp [Hub.new,cyclesIn,entryOf]

theorem Kept.step {hub : Hub} (kept : Kept turns cfg hub) (op : Hub.Op) : Kept turns cfg (hub.step turns cfg op) := by
  cases op with
  | crash event => exact ⟨kept.steady,kept.bounded,kept.within,kept.counted,kept.past,kept.recorded⟩
  | handle ranMs => exact kept.handle ranMs

/-- Whatever the driver answers, and whenever crashes, cancels and identities come in: every event
    of the hub is safe, and its resumes are bounded. -/
theorem resumes_bounded (turns : Nat → Turn) (cfg : HubConfig) (ops : List Hub.Op) :
    Bounded turns cfg (run (Hub.step turns cfg) (.new (turns 0).now) ops).log := by
  have kept : ∀ (hub : Hub) (op : Hub.Op), Kept turns cfg hub → True → Kept turns cfg (hub.step turns cfg op) :=
    fun _ op kept _ => kept.step op
  exact (invariant_run kept (kept_new fun _ => Int.le_refl _) (along_of_forall (fun _ _ => trivial) _ ops)).bounded

end
end Freshell.AutoResume
