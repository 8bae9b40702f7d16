import Freshell.AutoResume.Hub

/-!
The courses that an event can take: what is announced and done for it, in order, and what
becomes of the history of its create request, to the end or as far as a panic lets it get.
-/
namespace Freshell.AutoResume
open Freshell.Library.Tables Freshell.Library.Programs

/-- The effects that an outcome is read off: not the cancels that come in, and not what only
    waits, logs or retires. -/
def Effect.counts : Effect → Bool
  | .cancelled _ => false
  | .requeued _ => false
  | .slept _ => false
  | .logSettled _ _ => false
  | .retired _ => false
  | _ => true

def framesOf (effects : List Effect) : List Effect := effects.filter Effect.counts

def entryOf (history : Table String ResumeHistory) (key : String) : ResumeHistory := (history.lookup key).getD {}

def Steady (turns : Nat → Turn) : Prop := ∀ call, (turns call).now ≤ (turns (call + 1)).now

@[simp] theorem framesOf_nil : framesOf [] = [] := rfl

@[simp] theorem framesOf_append (first second : List Effect) :
    framesOf (first ++ second) = framesOf first ++ framesOf second := List.filter_append ..

@[simp] theorem framesOf_cancels (cancels : List String) : framesOf (cancels.map .cancelled) = [] := by
  simp [framesOf,Effect.counts]

/-- Where the desk stands in an event: the frames so far, what the event has made of the history
    it found, and a time that the clock has reached. -/
structure Desk.At (turns : Nat → Turn) (event : CrashEvent) (start : Table String ResumeHistory) (low : Int)
    (frames : List Effect) (change : ResumeHistory → ResumeHistory) (desk : Desk) : Prop where
  frames : framesOf desk.effects = frames
  history : ∀ key, entryOf desk.history key =
    if event.createRequestId = some key then change (entryOf start key) else entryOf start key
  clock : Steady turns → low ≤ desk.clock ∧ desk.clock ≤ (turns desk.calls).now

section
variable {turns : Nat → Turn} {cfg : HubConfig} {event : CrashEvent} {start : Table String ResumeHistory} {low : Int}
  {frames : List Effect} {change : ResumeHistory → ResumeHistory} {desk : Desk}

theorem Desk.At.turned (standing : desk.At turns event start low frames change) :
    (desk.turned (turns desk.calls)).At turns event start low frames change where
  frames := by simp [Desk.turned,standing.frames]
  history := standing.history
  clock steady := by
    have reached := standing.clock steady
    exact ⟨Int.le_trans reached.1 reached.2,steady desk.calls⟩

theorem Desk.At.note (standing : desk.At turns event start low frames change) (effect : Effect)
    (loud : effect.counts = true) : (desk.note effect).At turns event start low (frames ++ [effect]) change where
  frames := by
    have alone : framesOf [effect] = [effect] := by simp [framesOf,loud]
    simp [Desk.note,standing.frames,alone]
  history := standing.history
  clock := standing.clock

variable {effect : Effect}

theorem Desk.At.quietly (standing : desk.At turns event start low frames change) (quiet : effect.counts = false) :
    (desk.note effect).At turns event start low frames change where
  frames := by
    have alone : framesOf [effect] = [] := by simp [framesOf,quiet]
    simp [Desk.note,standing.frames,alone]
  history := standing.history
  clock := standing.clock

variable {key : String}

theorem Desk.At.record (standing : desk.At turns event start low frames change)
    (own : event.createRequestId = some key) (entry : Option ResumeHistory) (next : ResumeHistory → ResumeHistory)
    (becomes : entry.getD {} = next (entryOf start key)) :
    (desk.record key entry).At turns event start low frames next where
  frames := standing.frames
  history other := by
    have before := standing.history other
    have after : entryOf (desk.record key entry).history other = if other = key then entry.getD {} else entryOf desk.history other := by
      cases entry with
      | some entry =>
        simp only [Desk.record,entryOf,lookup_insert]
        split <;> simp
      | none =>
        simp only [Desk.record,entryOf,lookup_erase]
        split <;> simp
    rw [after]
    by_cases same : other = key
    · subst same
      rw [if_pos rfl,if_pos own,becomes]
    · have foreign : ¬event.createRequestId = some other := by
        rw [own]
        intro equal
        exact same (Option.some.inj equal).symm
      rw [if_neg foreign] at before
      rw [if_neg same,if_neg foreign,before]
  clock := standing.clock

variable {broken : Desk → Prop}

theorem meets_ask {Answer : Type} (answer : Turn → Answer)
    (stops : ∀ desk : Desk, desk.At turns event start low frames change → broken desk) :
    (ask turns answer).Meets (Desk.At turns event start low frames change)
      (fun _ => Desk.At turns event start low frames change) broken := by
  intro desk standing
  simp only [ask]
  by_cases panics : (turns desk.calls).panics = true
  · rw [if_pos panics]
    exact stops _ standing.turned
  · rw [if_neg panics]
    exact standing.turned

theorem meets_perform (loud : effect.counts = true)
    (stops : ∀ desk : Desk, desk.At turns event start low frames change → broken desk) :
    (perform turns effect).Meets (Desk.At turns event start low frames change)
      (fun _ => Desk.At turns event start low (frames ++ [effect]) change) broken := by
  refine (meets_ask _ stops).bind fun _ => ?_
  intro desk standing
  exact standing.note _ loud

theorem meets_quietly (quiet : effect.counts = false)
    (stops : ∀ desk : Desk, desk.At turns event start low frames change → broken desk) :
    (perform turns effect).Meets (Desk.At turns event start low frames change)
      (fun _ => Desk.At turns event start low frames change) broken := by
  refine (meets_ask _ stops).bind fun _ => ?_
  intro desk standing
  exact standing.quietly quiet

theorem meets_wait :
    (wait turns).Meets (Desk.At turns event start low frames change)
      (fun now desk => (Steady turns → low ≤ now) ∧ desk.At turns event start now frames change) broken := by
  intro desk standing
  refine ⟨fun steady => ?_,standing.turned.frames,standing.history,fun steady => ⟨Int.le_refl _,steady desk.calls⟩⟩
  have reached := standing.clock steady
  exact Int.le_trans reached.1 reached.2

theorem meets_sleep (ms : Nat) :
    (sleep turns ms).Meets (Desk.At turns event start low frames change)
      (fun _ => Desk.At turns event start low frames change) broken := by
  intro desk standing
  exact standing.turned.quietly rfl

theorem meets_takeCancel (terminalId : String)
    (stops : ∀ desk : Desk, desk.At turns event start low frames change → broken desk) :
    (takeCancel turns terminalId).Meets (Desk.At turns event start low frames change)
      (fun _ => Desk.At turns event start low frames change) broken := by
  refine (meets_ask _ stops).bind fun _ => ?_
  intro desk standing
  exact ⟨standing.frames,standing.history,standing.clock⟩

theorem meets_note (loud : effect.counts = true) :
    (Program.change fun desk => desk.note effect).Meets (Desk.At turns event start low frames change)
      (fun _ => Desk.At turns event start low (frames ++ [effect]) change) broken :=
  fun _ standing => standing.note _ loud

theorem meets_emitSettled (reason : String) (resumeCycles : Option Nat)
    (stops : ∀ desk : Desk, desk.At turns event start low frames change → broken desk)
    (told : ∀ desk : Desk,
      desk.At turns event start low (frames ++ [.settled event.terminalId reason resumeCycles]) change → broken desk) :
    (emitSettled turns event reason resumeCycles).Meets (Desk.At turns event start low frames change)
      (fun _ => Desk.At turns event start low (frames ++ [.settled event.terminalId reason resumeCycles]) change)
      broken := by
  exact (meets_perform rfl stops).bind fun _ => meets_quietly rfl told

def Plan.claim (plan : Plan) : Claim := ⟨plan.sref.provider,plan.sref.sessionId,plan.key⟩

def Plan.spec (plan : Plan) (event : CrashEvent) : RespawnSpec :=
  ⟨event.mode,plan.sref.provider,plan.sref.sessionId,plan.key,plan.sref.cwd⟩

/-- The frames after the back-off, as far as they go; with `true`, to their end. A replacement
    has its cycle still to be recorded. -/
inductive Tail (cfg : HubConfig) (event : CrashEvent) (plan : Plan) : Bool → List Effect → Prop
  | start : Tail cfg event plan false []
  | gaveUp (reason : String) : Tail cfg event plan true [.settled event.terminalId reason none]
  | claimed (granted : Bool) : Tail cfg event plan false [.claimed plan.claim event.observedFence granted]
  | unclaimed (reason : String) : Tail cfg event plan true
      [.claimed plan.claim event.observedFence false,.settled event.terminalId reason none]
  | respawning : Tail cfg event plan false
      [.claimed plan.claim event.observedFence true,.respawning (plan.spec event)]
  | respawned (result : Except String String) : Tail cfg event plan false
      [.claimed plan.claim event.observedFence true,.respawning (plan.spec event),.respawned result]
  | completed (new : String) (bound : Bool) : Tail cfg event plan false
      [.claimed plan.claim event.observedFence true,.respawning (plan.spec event),.respawned (.ok new),
        .completed plan.claim new bound]
  | lost (new reason : String) : Tail cfg event plan true
      [.claimed plan.claim event.observedFence true,.respawning (plan.spec event),.respawned (.ok new),
        .completed plan.claim new false,.settled event.terminalId reason none]
  | failed (error : String) : Tail cfg event plan false
      [.claimed plan.claim event.observedFence true,.respawning (plan.spec event),.respawned (.error error),
        .failed plan.claim]
  | respawnFailed (error reason : String) : Tail cfg event plan true
      [.claimed plan.claim event.observedFence true,.respawning (plan.spec event),.respawned (.error error),
        .failed plan.claim,.settled event.terminalId reason none]
  | replaced (new : String) : Tail cfg event plan false
      [.claimed plan.claim event.observedFence true,.respawning (plan.spec event),.respawned (.ok new),
        .completed plan.claim new true,
        .replaced event.terminalId new event.exitCode plan.attempt cfg.delays.length]

def replacedFrames (cfg : HubConfig) (event : CrashEvent) (plan : Plan) (new : String) (now : Int) : List Effect :=
  [.claimed plan.claim event.observedFence true,.respawning (plan.spec event),.respawned (.ok new),
    .completed plan.claim new true,.replaced event.terminalId new event.exitCode plan.attempt cfg.delays.length,
    .cycled now]

def withCycle (change : ResumeHistory → ResumeHistory) (now : Int) (entry : ResumeHistory) : ResumeHistory :=
  { change entry with cycles := (change entry).cycles ++ [now] }

inductive Late (turns : Nat → Turn) (cfg : HubConfig) (event : CrashEvent) (start : Table String ResumeHistory) (low : Int)
    (change : ResumeHistory → ResumeHistory) (plan : Plan) : Bool → Desk → Prop
  | tail {frames : List Effect} {told : Bool} {desk : Desk} (standing : desk.At turns event start low frames change)
      (tail : Tail cfg event plan told frames) : Late turns cfg event start low change plan told desk
  | cycled (new : String) (now : Int) {desk : Desk} (later : Steady turns → low ≤ now)
      (standing : desk.At turns event start now (replacedFrames cfg event plan new now) (withCycle change now)) :
      Late turns cfg event start low change plan true desk

section
variable {plan : Plan}

theorem meets_late {Value : Type} {program : Program Desk Value}
    (keeps : ∀ (low : Int) (frames : List Effect) (change : ResumeHistory → ResumeHistory) (broken : Desk → Prop),
      (∀ desk : Desk, desk.At turns event start low frames change → broken desk) →
      program.Meets (Desk.At turns event start low frames change)
        (fun _ => Desk.At turns event start low frames change) broken) :
    program.Meets (Late turns cfg event start low change plan true)
      (fun _ => Late turns cfg event start low change plan true)
      (fun desk => ∃ told, Late turns cfg event start low change plan told desk) := by
  intro desk late
  cases late with
  | tail standing tail =>
    have met := (keeps _ _ _ (fun desk => ∃ told, Late turns cfg event start low change plan told desk)
      fun desk standing => ⟨true,.tail standing tail⟩).mono (fun _ given => given)
      (fun _ _ standing => Late.tail standing tail) (fun _ given => given)
    exact met desk standing
  | cycled new now later standing =>
    have met := (keeps _ _ _ (fun desk => ∃ told, Late turns cfg event start low change plan told desk)
      fun desk standing => ⟨true,.cycled new now later standing⟩).mono (fun _ given => given)
      (fun _ _ standing => Late.cycled new now later standing) (fun _ given => given)
    exact met desk standing

theorem meets_giveUp {reason : String} (before : Tail cfg event plan false frames)
    (after : Tail cfg event plan true (frames ++ [.settled event.terminalId reason none])) :
    (giveUp turns event reason).Meets (Desk.At turns event start low frames change)
      (fun _ => Late turns cfg event start low change plan true)
      (fun desk => ∃ told, Late turns cfg event start low change plan told desk) := by
  have told : ∀ desk : Desk,
      desk.At turns event start low (frames ++ [.settled event.terminalId reason none]) change →
      ∃ told, Late turns cfg event start low change plan told desk :=
    fun desk standing => ⟨true,.tail standing after⟩
  refine (meets_emitSettled reason none (fun desk standing => ⟨false,.tail standing before⟩) told).bind fun _ => ?_
  refine (meets_takeCancel event.terminalId told).bind fun _ => ?_
  exact (meets_quietly rfl told).mono (fun _ given => given) (fun _ _ standing => .tail standing after)
    (fun _ given => given)

theorem meets_respawnClaimed (own : event.createRequestId = some plan.key) :
    (respawnClaimed turns cfg event plan plan.claim).Meets
      (Desk.At turns event start low [.claimed plan.claim event.observedFence true] change)
      (fun _ => Late turns cfg event start low change plan true)
      (fun desk => ∃ told, Late turns cfg event start low change plan told desk) := by
  have stop : ∀ {frames : List Effect}, Tail cfg event plan false frames → ∀ desk : Desk,
      desk.At turns event start low frames change → ∃ told, Late turns cfg event start low change plan told desk :=
    fun tail desk standing => ⟨false,.tail standing tail⟩
  have told : ∀ {frames : List Effect}, Tail cfg event plan true frames → ∀ desk : Desk,
      desk.At turns event start low frames change → ∃ told, Late turns cfg event start low change plan told desk :=
    fun tail desk standing => ⟨true,.tail standing tail⟩
  have started : (respawn turns (plan.spec event)).Meets
      (Desk.At turns event start low [.claimed plan.claim event.observedFence true] change)
      (fun result => Desk.At turns event start low [.claimed plan.claim event.observedFence true,
        .respawning (plan.spec event),.respawned result] change)
      (fun desk => ∃ told, Late turns cfg event start low change plan told desk) := by
    refine (meets_note rfl).bind fun _ => ?_
    refine (meets_ask _ (stop .respawning)).bind fun result => ?_
    exact (meets_note rfl).bind fun _ => fun _ standing => standing
  refine started.bind fun result => ?_
  cases result with
  | ok new =>
    refine (meets_ask _ (stop (.respawned _))).bind fun bound => ?_
    refine (meets_note rfl).bind fun _ => ?_
    cases bound with
    | true =>
      refine (meets_perform rfl (stop (.completed new true))).bind fun _ => ?_
      refine meets_wait.bind fun now => ?_
      intro desk ⟨later,standing⟩
      have entry := standing.history plan.key
      rw [if_pos own] at entry
      have recorded := standing.record own (some { entryOf desk.history plan.key with
        cycles := (entryOf desk.history plan.key).cycles ++ [now] }) (withCycle change now) (by rw [entry]; rfl)
      exact .cycled new now later (recorded.note (.cycled now) rfl)
    | false =>
      exact (meets_emitSettled _ none (stop (.completed new false)) (told (.lost new _))).mono (fun _ given => given)
        (fun _ _ standing => .tail standing (.lost new _)) (fun _ given => given)
  | error reason =>
    refine (meets_perform rfl (stop (.respawned _))).bind fun _ => ?_
    exact (meets_emitSettled _ none (stop (.failed reason)) (told (.respawnFailed reason _))).mono (fun _ given => given)
      (fun _ _ standing => .tail standing (.respawnFailed reason _)) (fun _ given => given)

theorem meets_afterBackOff (own : event.createRequestId = some plan.key) :
    (afterBackOff turns cfg event plan).Meets (Desk.At turns event start low [] change)
      (fun _ => Late turns cfg event start low change plan true)
      (fun desk => ∃ told, Late turns cfg event start low change plan told desk) := by
  have stop : ∀ {frames : List Effect}, Tail cfg event plan false frames → ∀ desk : Desk,
      desk.At turns event start low frames change → ∃ told, Late turns cfg event start low change plan told desk :=
    fun tail desk standing => ⟨false,.tail standing tail⟩
  have told : ∀ desk : Desk, desk.At turns event start low [.settled event.terminalId settleReasonCancelled none] change →
      ∃ told, Late turns cfg event start low change plan told desk :=
    fun desk standing => ⟨true,.tail standing (.gaveUp _)⟩
  refine (meets_takeCancel event.terminalId (stop .start)).bind fun cancelled => ?_
  refine Program.meets_ite (fun _ => ?_) (fun _ => ?_)
  · refine (meets_emitSettled _ none (stop .start) told).bind fun _ => ?_
    exact (meets_quietly rfl told).mono (fun _ given => given) (fun _ _ standing => .tail standing (.gaveUp _))
      (fun _ given => given)
  · refine (meets_ask _ (stop .start)).bind fun guard => ?_
    cases guard with
    | some reason => exact meets_giveUp .start (.gaveUp reason)
    | none =>
      refine (meets_ask _ (stop .start)).bind fun granted => ?_
      refine (meets_note rfl).bind fun _ => ?_
      cases granted with
      | true =>
        refine (meets_respawnClaimed own).bind fun _ => ?_
        refine (meets_late fun _ _ _ _ stops => meets_takeCancel event.terminalId stops).bind fun _ => ?_
        exact meets_late fun _ _ _ _ stops => meets_quietly rfl stops
      | false => exact meets_giveUp (.claimed false) (.unclaimed _)

end

variable {ctx : CrashContext} {delays : List Nat} {healthyLifetimeMs : Int}

theorem decide_resume {attempt delayMs : Nat} (decided : ctx.decide delays healthyLifetimeMs = .resume attempt delayMs) :
    ctx.exitCode ≠ 0 ∧ ctx.mode ∈ autoResumeModes ∧ ctx.recentCycles < ctx.maxCycles ∧
      ctx.effectivePrior healthyLifetimeMs < delays.length ∧ attempt = ctx.effectivePrior healthyLifetimeMs + 1 := by
  simp only [CrashContext.decide] at decided
  split at decided
  · cases decided
  · next exit =>
    split at decided
    · cases decided
    · next mode =>
      split at decided
      · cases decided
      · split at decided
        · cases decided
        · split at decided
          · cases decided
          · next cycles =>
            split at decided
            · cases decided
            · split at decided
              · next delay listed =>
                obtain ⟨inside,_⟩ := List.getElem?_eq_some_iff.mp listed
                cases decided
                exact ⟨exit,not_not.mp mode,Nat.lt_of_not_le cycles,inside,rfl⟩
              · cases decided

theorem decide_clean (decided : ctx.decide delays healthyLifetimeMs = .settleExited "clean_exit") :
    ctx.exitCode = 0 := by
  simp only [CrashContext.decide] at decided
  split at decided
  · assumption
  · split at decided
    · simp at decided
    · split at decided
      · simp at decided
      · split at decided
        · simp at decided
        · split at decided
          · simp at decided
          · split at decided
            · simp at decided
            · split at decided <;> simp at decided

structure Resumes (cfg : HubConfig) (event : CrashEvent) (start : Table String ResumeHistory) (now : Int) (plan : Plan) :
    Prop where
  exit : event.exitCode ≠ 0
  mode : event.mode ∈ autoResumeModes
  own : event.createRequestId = some plan.key
  cycles : (cfg.recent now (entryOf start plan.key)).cycles.length < cfg.maxCycles
  attempt : ∃ prior < cfg.delays.length, plan.attempt = prior + 1 ∧
    prior = if cfg.healthyLifetimeMs ≤ event.lifetimeMs then 0 else (entryOf start plan.key).attempts

def HubConfig.counting (cfg : HubConfig) (now : Int) (attempts : Nat) (entry : ResumeHistory) : ResumeHistory :=
  { cfg.recent now entry with attempts := attempts }

/-- What a settle makes of the history: the attempts go back only after a clean or a healthy generation. -/
inductive Settling (cfg : HubConfig) (event : CrashEvent) (now : Int) : (ResumeHistory → ResumeHistory) → Prop
  | kept : Settling cfg event now (cfg.recent now)
  | spared (deserved : event.exitCode = 0 ∨ cfg.healthyLifetimeMs ≤ event.lifetimeMs) :
      Settling cfg event now (cfg.counting now 0)

/-- The frame of a settle, which a shell does without. -/
def settledFrames (event : CrashEvent) (reason : String) (resumeCycles : Option Nat) : List Effect :=
  if event.mode ≠ "shell" then [.settled event.terminalId reason resumeCycles] else []

/-- Where an event stands in its first part, or where a panic has left it. -/
inductive Early (turns : Nat → Turn) (cfg : HubConfig) (event : CrashEvent) (start : Table String ResumeHistory)
    (low : Int) : Option Stage → Desk → Prop
  | waiting {stage : Option Stage} {desk : Desk} (stays : stage = none ∨ stage = some .held)
      (standing : desk.At turns event start low [] id) : Early turns cfg event start low stage desk
  | cancelled {desk : Desk} (mode : event.mode ∈ autoResumeModes) (standing : desk.At turns event start low [] id) :
      Early turns cfg event start low (some .cancelled) desk
  | deciding (now : Int) {desk : Desk} (later : Steady turns → low ≤ now)
      (standing : desk.At turns event start now [] (cfg.recent now)) : Early turns cfg event start low none desk
  | settled (now : Int) (reason : String) (resumeCycles : Option Nat) {stage : Option Stage} {desk : Desk}
      {change : ResumeHistory → ResumeHistory} (stays : stage = none ∨ stage = some .settled)
      (later : Steady turns → low ≤ now) (settling : Settling cfg event now change)
      (standing : desk.At turns event start now (settledFrames event reason resumeCycles) change) :
      Early turns cfg event start low stage desk
  | counted (now : Int) (plan : Plan) {desk : Desk} (later : Steady turns → low ≤ now)
      (resumes : Resumes cfg event start now plan)
      (standing : desk.At turns event start now [] (cfg.counting now plan.attempt)) :
      Early turns cfg event start low none desk
  | backedOff (now : Int) (plan : Plan) {desk : Desk} (later : Steady turns → low ≤ now)
      (resumes : Resumes cfg event start now plan)
      (standing : desk.At turns event start now
        [.recovering event.terminalId event.mode event.exitCode plan.attempt cfg.delays.length]
        (cfg.counting now plan.attempt)) :
      Early turns cfg event start low (some (.backedOff plan)) desk

theorem Desk.At.becomes (standing : desk.At turns event start low frames change) {next : ResumeHistory → ResumeHistory}
    (same : ∀ key, event.createRequestId = some key → change (entryOf start key) = next (entryOf start key)) :
    desk.At turns event start low frames next where
  frames := standing.frames
  history key := by
    rw [standing.history]
    split
    · next own => exact same key own
    · rfl
  clock := standing.clock

def foundEntry (cfg : HubConfig) (event : CrashEvent) (start : Table String ResumeHistory) (now : Int) : ResumeHistory :=
  match event.createRequestId with
  | some key => cfg.recent now (entryOf start key)
  | none => {}

theorem held_some {entry : ResumeHistory} (found : desk.held event = some (key,entry)) :
    event.createRequestId = some key ∧ desk.history.lookup key = some entry := by
  simp only [Desk.held,Option.bind_eq_bind,Option.bind_eq_some_iff,Option.pure_def,Option.some.injEq,Prod.mk.injEq]
    at found
  obtain ⟨_,own,_,held,rfl,rfl⟩ := found
  exact ⟨own,held⟩

theorem held_none (absent : desk.held event = none) (own : event.createRequestId = some key) :
    entryOf desk.history key = {} := by
  simp only [Desk.held,own,Option.bind_eq_bind,Option.bind_some] at absent
  cases found : desk.history.lookup key with
  | none => simp [entryOf,found]
  | some entry => simp [found] at absent

theorem Desk.At.entry (standing : desk.At turns event start low frames change) {entry : ResumeHistory}
    (found : desk.held event = some (key,entry)) :
    event.createRequestId = some key ∧ entry = change (entryOf start key) := by
  obtain ⟨own,held⟩ := held_some found
  have same := standing.history key
  rw [if_pos own] at same
  exact ⟨own,by simpa [entryOf,held] using same⟩

theorem Desk.At.absent (standing : desk.At turns event start low frames change) (absent : desk.held event = none)
    {key : String} (own : event.createRequestId = some key) : change (entryOf start key) = {} := by
  have same := standing.history key
  rw [if_pos own,held_none absent own] at same
  exact same.symm

theorem meets_held :
    (Program.look fun desk : Desk => desk.held event).Meets (Desk.At turns event start low frames change)
      (fun held desk => desk.held event = held ∧ desk.At turns event start low frames change) broken :=
  fun _ standing => ⟨rfl,standing⟩

theorem meets_pruneCycles (now : Int) :
    (pruneCycles cfg event now).Meets (Desk.At turns event start low [] id)
      (fun entry desk => entry = foundEntry cfg event start now ∧ desk.At turns event start low [] (cfg.recent now))
      broken := by
  refine meets_held.bind fun held => ?_
  rintro desk ⟨found,standing⟩
  cases held with
  | none =>
    have fresh : ∀ key, event.createRequestId = some key → entryOf start key = {} :=
      fun key own => standing.absent found own
    refine ⟨?_,standing.becomes fun key own => by simp [fresh key own,HubConfig.recent]⟩
    cases own : event.createRequestId with
    | none => simp [foundEntry,own]
    | some key => simp [foundEntry,own,fresh key own,HubConfig.recent]
  | some held =>
    obtain ⟨key,entry⟩ := held
    obtain ⟨own,same⟩ := standing.entry found
    exact ⟨by simp [foundEntry,own,same],standing.record own _ (cfg.recent now) (by simp [same])⟩

variable {now : Int} {reason : String}

theorem meets_resetAttempts (clean : reason = "clean_exit" → event.exitCode = 0) :
    (resetAttempts cfg event reason).Meets (Desk.At turns event start low frames (cfg.recent now))
      (fun _ desk => ∃ change, Settling cfg event now change ∧ desk.At turns event start low frames change) broken := by
  refine Program.meets_ite (fun resets => ?_) (fun _ => ?_)
  · have deserved : event.exitCode = 0 ∨ cfg.healthyLifetimeMs ≤ event.lifetimeMs := resets.imp_left clean
    refine meets_held.bind fun held => ?_
    rintro desk ⟨found,standing⟩
    cases held with
    | none =>
      refine ⟨_,.spared deserved,standing.becomes fun key own => ?_⟩
      have fresh := standing.absent found own
      rw [HubConfig.counting,fresh]
    | some held =>
      obtain ⟨key,entry⟩ := held
      obtain ⟨own,same⟩ := standing.entry found
      refine ⟨_,.spared deserved,standing.record own _ (cfg.counting now 0) ?_⟩
      rw [HubConfig.counting,←same]
      by_cases none_ : entry.cycles.isEmpty
      · have empty : entry.cycles = [] := List.isEmpty_iff.mp none_
        simp [empty]
      · rw [if_neg none_]
        rfl
  · exact fun desk standing => ⟨_,.kept,standing⟩

theorem meets_settleExited (recentCycles : Nat) (clean : reason = "clean_exit" → event.exitCode = 0)
    (later : Steady turns → low ≤ now) :
    (settleExited turns cfg event reason recentCycles).Meets (Desk.At turns event start now [] (cfg.recent now))
      (fun _ => Early turns cfg event start low (some .settled)) (Early turns cfg event start low none) := by
  let resumeCycles := if reason = "flap_circuit_breaker" then some recentCycles else none
  have stop : ∀ desk : Desk, desk.At turns event start now [] (cfg.recent now) → Early turns cfg event start low none desk :=
    fun desk standing => .deciding now later standing
  have told : ∀ {change : ResumeHistory → ResumeHistory}, Settling cfg event now change → ∀ desk : Desk,
      desk.At turns event start now (settledFrames event reason resumeCycles) change →
      Early turns cfg event start low none desk :=
    fun settling desk standing => .settled now reason resumeCycles (.inl rfl) later settling standing
  have announced : (announceSettled turns event reason recentCycles).Meets
      (Desk.At turns event start now [] (cfg.recent now))
      (fun _ => Desk.At turns event start now (settledFrames event reason resumeCycles) (cfg.recent now))
      (Early turns cfg event start low none) := by
    refine Program.meets_ite (fun agent => ?_) (fun shell => ?_)
    · have frames : settledFrames event reason resumeCycles = [.settled event.terminalId reason resumeCycles] :=
        if_pos agent
      have settled := told .kept
      rw [frames] at settled ⊢
      exact meets_emitSettled reason resumeCycles stop settled
    · have frames : settledFrames event reason resumeCycles = [] := if_neg shell
      rw [frames]
      exact fun _ standing => standing
  refine announced.bind fun _ => ?_
  refine (meets_resetAttempts clean).bind fun _ => ?_
  rintro desk ⟨change,settling,standing⟩
  have retired : (perform turns (.retired event.terminalId)).Meets
      (Desk.At turns event start now (settledFrames event reason resumeCycles) change)
      (fun _ => Desk.At turns event start now (settledFrames event reason resumeCycles) change)
      (Early turns cfg event start low none) := meets_quietly rfl (told settling)
  refine (retired.bind fun _ => (meets_takeCancel event.terminalId (told settling)).bind fun _ => ?_) desk standing
  exact fun _ standing => .settled now reason resumeCycles (.inr rfl) later settling standing

theorem meets_backOff {plan : Plan} (delayMs : Nat) (later : Steady turns → low ≤ now)
    (resumes : Resumes cfg event start now plan) :
    (backOff turns cfg event plan delayMs).Meets (Desk.At turns event start now [] (cfg.recent now))
      (fun _ => Early turns cfg event start low (some (.backedOff plan))) (Early turns cfg event start low none) := by
  have counted : (Program.change fun desk : Desk =>
      desk.record plan.key (some { (desk.history.lookup plan.key).getD {} with attempts := plan.attempt })).Meets
      (Desk.At turns event start now [] (cfg.recent now))
      (fun _ => Desk.At turns event start now [] (cfg.counting now plan.attempt))
      (Early turns cfg event start low none) := by
    intro desk standing
    have entry := standing.history plan.key
    rw [if_pos resumes.own] at entry
    exact standing.record resumes.own (some { entryOf desk.history plan.key with attempts := plan.attempt })
      (cfg.counting now plan.attempt) (by rw [entry]; rfl)
  have stop : ∀ desk : Desk, desk.At turns event start now [] (cfg.counting now plan.attempt) →
      Early turns cfg event start low none desk := fun desk standing => .counted now plan later resumes standing
  refine counted.bind fun _ => ?_
  refine (meets_quietly rfl stop).bind fun _ => ?_
  refine (meets_perform rfl stop).bind fun _ => ?_
  exact (meets_sleep delayMs).mono (fun _ given => given)
    (fun _ _ standing => .backedOff now plan later resumes standing) (fun _ given => given)

theorem meets_askKeyed (answer : Turn → Bool) (without : Bool)
    (stops : ∀ desk : Desk, desk.At turns event start low frames change → broken desk) :
    (askKeyed turns event answer without).Meets (Desk.At turns event start low frames change)
      (fun _ => Desk.At turns event start low frames change) broken := by
  simp only [askKeyed]
  cases event.createRequestId with
  | none => exact fun _ standing => standing
  | some key => exact meets_ask answer stops

theorem meets_decideEvent (sref : Option SessionRef) :
    (decideEvent turns cfg event sref).Meets (Desk.At turns event start low [] id)
      (fun stage => Early turns cfg event start low (some stage)) (Early turns cfg event start low none) := by
  refine meets_wait.bind fun now => ?_
  rintro desk ⟨later,standing⟩
  refine ((meets_pruneCycles now).bind fun entry => ?_) desk standing
  rintro desk ⟨rfl,standing⟩
  have stop : ∀ desk : Desk, desk.At turns event start now [] (cfg.recent now) → Early turns cfg event start low none desk :=
    fun desk standing => .deciding now later standing
  refine ((meets_askKeyed _ true stop).bind fun capExhausted => ?_) desk standing
  cases decided : (contextOf cfg event sref (foundEntry cfg event start now) capExhausted).decide cfg.delays
      cfg.healthyLifetimeMs with
  | settleExited reason =>
    have clean : reason = "clean_exit" → event.exitCode = 0 := by
      rintro rfl
      exact decide_clean decided
    exact (meets_settleExited _ clean later).bind fun _ => fun _ standing => standing
  | resume attempt delayMs =>
    obtain ⟨exit,mode,cycles,inside,counted⟩ := decide_resume decided
    cases sref with
    | none => exact fun desk standing => stop desk standing
    | some sref =>
      cases own : event.createRequestId with
      | none => exact fun desk standing => stop desk standing
      | some key =>
        have found : foundEntry cfg event start now = cfg.recent now (entryOf start key) := by simp [foundEntry,own]
        have resumes : Resumes cfg event start now ⟨sref,key,attempt⟩ := by
          refine ⟨exit,mode,own,?_,_,inside,counted,?_⟩
          · rw [←found]
            exact cycles
          · simp only [CrashContext.effectivePrior,contextOf,found]
            rfl
        exact (meets_backOff delayMs later resumes).bind fun _ => fun _ standing => standing

theorem meets_graceLoop (steps : List Nat) :
    (graceLoop turns event steps).Meets (Desk.At turns event start low [] id)
      (fun _ => Desk.At turns event start low [] id) (Early turns cfg event start low none) := by
  have stop : ∀ desk : Desk, desk.At turns event start low [] id → Early turns cfg event start low none desk :=
    fun desk standing => .waiting (.inl rfl) standing
  induction steps with
  | nil => exact fun _ standing => standing
  | cons step rest ih =>
    refine Program.meets_ite (fun _ => ih) (fun _ => ?_)
    refine (meets_sleep step).bind fun _ => ?_
    refine (meets_takeCancel event.terminalId stop).bind fun cancelled => ?_
    refine Program.meets_ite (fun _ => fun _ standing => standing) (fun _ => ?_)
    refine (meets_ask _ stop).bind fun sref => ?_
    exact Program.meets_ite (fun _ => fun _ standing => standing) (fun _ => ih)

theorem meets_untilBackedOff :
    (untilBackedOff turns cfg event).Meets (Desk.At turns event start low [] id)
      (fun stage => Early turns cfg event start low (some stage)) (Early turns cfg event start low none) := by
  have stop : ∀ desk : Desk, desk.At turns event start low [] id → Early turns cfg event start low none desk :=
    fun desk standing => .waiting (.inl rfl) standing
  refine (meets_askKeyed _ false stop).bind fun pending => ?_
  refine Program.meets_ite (fun _ => ?_) (fun _ => ?_)
  · refine (meets_ask _ stop).bind fun _ => ?_
    have requeued : (Program.change fun desk : Desk =>
        { desk with queue := desk.queue ++ [event] }.note (.requeued event)).Meets
        (Desk.At turns event start low [] id) (fun _ => Desk.At turns event start low [] id)
        (Early turns cfg event start low none) := by
      intro desk standing
      have moved : ({ desk with queue := desk.queue ++ [event] } : Desk).At turns event start low [] id :=
        ⟨standing.frames,standing.history,standing.clock⟩
      exact moved.quietly rfl
    refine requeued.bind fun _ => ?_
    refine (meets_sleep createAnswerHoldPollMs).bind fun _ => ?_
    exact fun _ standing => .waiting (.inr rfl) standing
  · have resolved : (resolveIdentity turns cfg event).Meets (Desk.At turns event start low [] id)
        (fun grace desk => (grace = .cancelled → event.mode ∈ autoResumeModes) ∧ desk.At turns event start low [] id)
        (Early turns cfg event start low none) := by
      refine (meets_ask _ stop).bind fun sref => ?_
      refine Program.meets_ite (fun waits => ?_) (fun _ => ?_)
      · exact (meets_graceLoop _).mono (fun _ given => given) (fun _ _ standing => ⟨fun _ => waits.2.2.1,standing⟩)
          (fun _ given => given)
      · exact fun _ standing => ⟨by simp,standing⟩
    refine resolved.bind fun grace => ?_
    cases grace with
    | cancelled => exact fun _ standing => .cancelled (standing.1 rfl) standing.2
    | resolved sref => exact (meets_decideEvent sref).strengthen fun _ standing => standing.2

end
end Freshell.AutoResume
