import Freshell.AutoResume.Courses

/-!
What becomes of a cancel. One that comes in before the back-off has ended still stands then,
and keeps the respawn from happening; whatever stands after an event came in later than that.
-/
namespace Freshell.AutoResume
open Freshell.Library.Tables Freshell.Library.Programs

section
variable (event : CrashEvent) (before : Finset String)

def Standing (desk : Desk) : Prop :=
  event.terminalId ∈ desk.cancels ∨ event.terminalId ∉ before ∧ .cancelled event.terminalId ∉ desk.effects

def Recent (desk : Desk) : Prop :=
  event.terminalId ∈ desk.cancels → .cancelled event.terminalId ∈ desk.effects

structure Stable (holds : Desk → Prop) : Prop where
  turned : ∀ (desk : Desk) (turn : Turn), holds desk → holds (desk.turned turn)
  note : ∀ (desk : Desk) (effect : Effect), (∀ terminalId, effect ≠ .cancelled terminalId) → holds desk →
    holds (desk.note effect)
  record : ∀ (desk : Desk) key entry, holds desk → holds (desk.record key entry)
  queue : ∀ (desk : Desk) queue, holds desk → holds { desk with queue := queue }

end

section
variable {turns : Nat → Turn} {cfg : HubConfig} {event : CrashEvent} {before : Finset String}

theorem stable_standing : Stable (Standing event before) where
  turned desk turn standing := by
    rcases standing with stands | ⟨fresh,quiet⟩
    · exact .inl (by simp [Desk.turned,stands])
    · by_cases comes : event.terminalId ∈ turn.cancels
      · exact .inl (by simp [Desk.turned,comes])
      · exact .inr ⟨fresh,by simp [Desk.turned,quiet,comes]⟩
  note desk effect other standing := by
    rcases standing with stands | ⟨fresh,quiet⟩
    · exact .inl stands
    · exact .inr ⟨fresh,by simp [Desk.note,quiet,(other event.terminalId).symm]⟩
  record _ _ _ standing := standing
  queue _ _ standing := standing

theorem stable_recent : Stable (Recent event) where
  turned desk turn recent := by
    intro stands
    simp only [Desk.turned,Finset.mem_union,List.mem_toFinset,List.mem_append,List.mem_map] at stands ⊢
    rcases stands with stood | comes
    · exact .inl (recent stood)
    · exact .inr ⟨_,comes,rfl⟩
  note desk effect _ recent := by
    intro stands
    exact List.mem_append_left _ (recent stands)
  record _ _ _ recent := recent
  queue _ _ recent := recent

section
variable {holds : Desk → Prop}

theorem keeps_ask (stable : Stable holds) {Answer : Type} (answer : Turn → Answer) :
    (ask turns answer).Meets holds (fun _ => holds) fun _ => True := by
  intro desk held
  simp only [ask]
  by_cases panics : (turns desk.calls).panics = true
  · rw [if_pos panics]
    trivial
  · rw [if_neg panics]
    exact stable.turned desk _ held

theorem keeps_note (stable : Stable holds) {effect : Effect} (own : ∀ terminalId, effect ≠ .cancelled terminalId) :
    (Program.change fun desk : Desk => desk.note effect).Meets holds (fun _ => holds) fun _ => True :=
  fun desk held => stable.note desk effect own held

theorem keeps_perform (stable : Stable holds) {effect : Effect} (own : ∀ terminalId, effect ≠ .cancelled terminalId) :
    (perform turns effect).Meets holds (fun _ => holds) fun _ => True :=
  (keeps_ask stable _).bind fun _ => keeps_note stable own

theorem keeps_wait (stable : Stable holds) : (wait turns).Meets holds (fun _ => holds) fun _ => True :=
  fun desk held => stable.turned desk _ held

theorem keeps_sleep (stable : Stable holds) (ms : Nat) : (sleep turns ms).Meets holds (fun _ => holds) fun _ => True :=
  (keeps_wait stable).bind fun _ => keeps_note stable (by simp)

theorem keeps_emitSettled (stable : Stable holds) (reason : String) (resumeCycles : Option Nat) :
    (emitSettled turns event reason resumeCycles).Meets holds (fun _ => holds) fun _ => True :=
  (keeps_perform stable (by simp)).bind fun _ => keeps_perform stable (by simp)

theorem keeps_askKeyed (stable : Stable holds) (answer : Turn → Bool) (without : Bool) :
    (askKeyed turns event answer without).Meets holds (fun _ => holds) fun _ => True := by
  simp only [askKeyed]
  cases event.createRequestId with
  | none => exact fun _ held => held
  | some key => exact keeps_ask stable answer

theorem keeps_pruneCycles (stable : Stable holds) (now : Int) :
    (pruneCycles cfg event now).Meets holds (fun _ => holds) fun _ => True := by
  have looked : (Program.look fun desk : Desk => desk.held event).Meets holds (fun _ => holds) fun _ => True :=
    fun _ held => held
  refine looked.bind fun found => ?_
  cases found with
  | none => exact fun _ held => held
  | some entry => exact fun desk held => stable.record desk _ _ held

theorem keeps_backOff (stable : Stable holds) (plan : Plan) (delayMs : Nat) :
    (backOff turns cfg event plan delayMs).Meets holds (fun _ => holds) fun _ => True := by
  have counted : (Program.change fun desk : Desk => desk.record plan.key
      (some { (desk.history.lookup plan.key).getD {} with attempts := plan.attempt })).Meets holds (fun _ => holds)
      fun _ => True := fun desk held => stable.record desk _ _ held
  refine counted.bind fun _ => (keeps_perform stable (by simp)).bind fun _ => ?_
  exact (keeps_perform stable (by simp)).bind fun _ => keeps_sleep stable delayMs

end

theorem meets_takeStanding :
    (takeCancel turns event.terminalId).Meets (Standing event before)
      (fun found desk => found = false → Standing event before desk) fun _ => True := by
  refine (keeps_ask stable_standing _).bind fun _ => ?_
  intro desk standing absent
  have missing : event.terminalId ∉ desk.cancels := of_decide_eq_false absent
  rcases standing with stands | quiet
  · exact absurd stands missing
  · exact .inr quiet

theorem meets_graceStanding (steps : List Nat) :
    (graceLoop turns event steps).Meets (Standing event before)
      (fun grace desk => ∀ sref, grace = .resolved sref → Standing event before desk) fun _ => True := by
  induction steps with
  | nil => exact fun _ standing _ _ => standing
  | cons step rest ih =>
    refine Program.meets_ite (fun _ => ih) (fun _ => ?_)
    refine (keeps_sleep stable_standing step).bind fun _ => meets_takeStanding.bind fun cancelled => ?_
    cases cancelled with
    | true =>
      intro desk _ sref resolved
      cases resolved
    | false =>
      have asked : (ask turns (·.resumableSessionRef)).Meets (fun desk => false = false → Standing event before desk)
          (fun _ => Standing event before) fun _ => True :=
        (keeps_ask stable_standing _).strengthen fun _ standing => standing rfl
      refine asked.bind fun sref => ?_
      exact Program.meets_ite (fun _ => fun _ standing _ _ => standing) (fun _ => ih)

theorem meets_decideStanding (sref : Option SessionRef) :
    (decideEvent turns cfg event sref).Meets (Standing event before)
      (fun stage desk => ∀ plan, stage = .backedOff plan → Standing event before desk) fun _ => True := by
  refine (keeps_wait stable_standing).bind fun now => (keeps_pruneCycles stable_standing now).bind fun entry => ?_
  refine (keeps_askKeyed stable_standing _ true).bind fun capExhausted => ?_
  cases (contextOf cfg event sref entry capExhausted).decide cfg.delays cfg.healthyLifetimeMs with
  | settleExited reason =>
    refine Program.meets_anything.bind fun _ => ?_
    intro desk _ plan backed
    cases backed
  | resume attempt delayMs =>
    cases sref with
    | none => exact fun _ _ => trivial
    | some sref =>
      cases event.createRequestId with
      | none => exact fun _ _ => trivial
      | some key =>
        exact (keeps_backOff stable_standing ⟨sref,key,attempt⟩ delayMs).bind fun _ => fun _ standing _ _ => standing

theorem meets_untilStanding :
    (untilBackedOff turns cfg event).Meets (Standing event before)
      (fun stage desk => ∀ plan, stage = .backedOff plan → Standing event before desk) fun _ => True := by
  refine (keeps_askKeyed stable_standing _ false).bind fun pending => ?_
  refine Program.meets_ite (fun _ => ?_) (fun _ => ?_)
  · refine Program.meets_anything.bind fun _ => Program.meets_anything.bind fun _ => Program.meets_anything.bind fun _ => ?_
    intro desk _ plan backed
    cases backed
  · have resolved : (resolveIdentity turns cfg event).Meets (Standing event before)
        (fun grace desk => ∀ sref, grace = .resolved sref → Standing event before desk) fun _ => True := by
      refine (keeps_ask stable_standing _).bind fun sref => ?_
      exact Program.meets_ite (fun _ => meets_graceStanding _) (fun _ => fun _ standing _ _ => standing)
    refine resolved.bind fun grace => ?_
    cases grace with
    | cancelled =>
      intro desk _ plan backed
      cases backed
    | resolved sref => exact (meets_decideStanding sref).strengthen fun _ standing => standing sref rfl

/-- An event that is settled, or cancelled in its grace, leaves no cancel at that point. -/
theorem meets_untilTaken :
    (untilBackedOff turns cfg event).Meets (fun _ => True)
      (fun stage desk => stage = .settled ∨ stage = .cancelled → event.terminalId ∉ desk.cancels) fun _ => True := by
  have taken : (takeCancel turns event.terminalId).Meets (fun _ => True)
      (fun _ desk => event.terminalId ∉ desk.cancels) fun _ => True := by
    refine Program.meets_anything.bind fun _ => ?_
    intro desk _
    exact Finset.notMem_erase _ _
  have grace : ∀ steps, (graceLoop turns event steps).Meets (fun _ => True)
      (fun grace desk => grace = .cancelled → event.terminalId ∉ desk.cancels) fun _ => True := by
    intro steps
    induction steps with
    | nil =>
      intro desk _ cancelled
      cases cancelled
    | cons step rest ih =>
      refine Program.meets_ite (fun _ => ih) (fun _ => ?_)
      refine Program.meets_anything.bind fun _ => taken.bind fun cancelled => ?_
      refine Program.meets_ite (fun _ => fun _ gone _ => gone) (fun _ => ?_)
      refine Program.meets_anything.bind fun sref => ?_
      refine Program.meets_ite (fun _ => ?_) (fun _ => ih)
      intro desk _ resolved
      cases resolved
  refine Program.meets_anything.bind fun pending => ?_
  refine Program.meets_ite (fun _ => ?_) (fun _ => ?_)
  · refine Program.meets_anything.bind fun _ => Program.meets_anything.bind fun _ => Program.meets_anything.bind fun _ => ?_
    intro desk _ ended
    rcases ended with ended | ended <;> cases ended
  · have resolved : (resolveIdentity turns cfg event).Meets (fun _ => True)
        (fun grace desk => grace = .cancelled → event.terminalId ∉ desk.cancels) fun _ => True := by
      refine Program.meets_anything.bind fun sref => ?_
      refine Program.meets_ite (fun _ => grace _) (fun _ => ?_)
      intro desk _ found
      cases found
    refine resolved.bind fun grace => ?_
    cases grace with
    | cancelled => exact fun _ gone _ => gone rfl
    | resolved sref =>
      refine Program.meets_anything.bind fun now => Program.meets_anything.bind fun entry => ?_
      refine Program.meets_anything.bind fun capExhausted => ?_
      cases (contextOf cfg event sref entry capExhausted).decide cfg.delays cfg.healthyLifetimeMs with
      | settleExited reason =>
        have settled : (settleExited turns cfg event reason entry.cycles.length).Meets (fun _ => True)
            (fun _ desk => event.terminalId ∉ desk.cancels) fun _ => True := by
          refine Program.meets_anything.bind fun _ => Program.meets_anything.bind fun _ => ?_
          refine Program.meets_anything.bind fun _ => ?_
          exact taken.bind fun _ => fun _ gone => gone
        exact settled.bind fun _ => fun _ gone _ => gone
      | resume attempt delayMs =>
        cases sref with
        | none => exact fun _ _ => trivial
        | some sref =>
          cases event.createRequestId with
          | none => exact fun _ _ => trivial
          | some key =>
            refine Program.meets_anything.bind fun _ => ?_
            intro desk _ ended
            rcases ended with ended | ended <;> cases ended

theorem meets_takeRecent :
    (takeCancel turns event.terminalId).Meets (fun _ => True) (fun _ => Recent event) fun _ => True := by
  refine Program.meets_anything.bind fun _ => ?_
  intro desk _ stands
  exact absurd stands (Finset.notMem_erase _ _)

theorem keeps_giveUp (reason : String) :
    (giveUp turns event reason).Meets (Recent event) (fun _ => Recent event) fun _ => True := by
  refine (keeps_emitSettled stable_recent reason none).bind fun _ => ?_
  exact (meets_takeRecent.strengthen fun _ _ => trivial).bind fun _ => keeps_perform stable_recent (by simp)

theorem meets_finishRecent (stage : Stage) :
    (finish turns cfg event stage).Meets
      (fun desk => stage = .settled ∨ stage = .cancelled → event.terminalId ∉ desk.cancels)
      (fun _ desk => stage ≠ .held → Recent event desk) fun _ => True := by
  cases stage with
  | held => exact fun _ _ apart => absurd rfl apart
  | settled => exact fun _ gone _ stands => absurd stands (gone (.inl rfl))
  | cancelled =>
    have start : ∀ desk : Desk, (Stage.cancelled = .settled ∨ Stage.cancelled = .cancelled →
        event.terminalId ∉ desk.cancels) → Recent event desk :=
      fun desk gone stands => absurd stands (gone (.inr rfl))
    refine ((keeps_perform stable_recent (by simp)).bind fun _ => ?_).strengthen start
    exact (keeps_emitSettled stable_recent _ none).mono (fun _ given => given) (fun _ _ recent _ => recent)
      (fun _ given => given)
  | backedOff plan =>
    refine ((meets_takeRecent.bind fun cancelled => ?_).strengthen fun _ _ => trivial).mono (fun _ given => given)
      (fun _ _ recent _ => recent) (fun _ given => given)
    refine Program.meets_ite (fun _ => ?_) (fun _ => ?_)
    · exact (keeps_emitSettled stable_recent _ none).bind fun _ => keeps_perform stable_recent (by simp)
    · refine (keeps_ask stable_recent _).bind fun guard => ?_
      cases guard with
      | some reason => exact keeps_giveUp reason
      | none =>
        refine (keeps_ask stable_recent _).bind fun granted => (keeps_note stable_recent (by simp)).bind fun _ => ?_
        refine Program.meets_ite (fun _ => ?_) (fun _ => keeps_giveUp _)
        refine Program.meets_anything.bind fun _ => ?_
        exact meets_takeRecent.bind fun _ => keeps_perform stable_recent (by simp)

/-- A cancel that stands at the end of the back-off settles the event, without a claim or a respawn. -/
theorem meets_cancelledBackOff {start : Table String ResumeHistory} {low : Int} {change : ResumeHistory → ResumeHistory}
    {plan : Plan} :
    (afterBackOff turns cfg event plan).Meets
      (fun desk => event.terminalId ∈ desk.cancels ∧ desk.At turns event start low [] change)
      (fun _ desk => ∀ effect ∈ framesOf desk.effects, ∃ reason cycles, effect = .settled event.terminalId reason cycles)
      (fun desk => ∀ effect ∈ framesOf desk.effects, ∃ reason cycles, effect = .settled event.terminalId reason cycles) := by
  have quiet : ∀ desk : Desk, desk.At turns event start low [] change →
      ∀ effect ∈ framesOf desk.effects, ∃ reason cycles, effect = .settled event.terminalId reason cycles := by
    intro desk standing effect listed
    rw [standing.frames] at listed
    cases listed
  have told : ∀ desk : Desk, desk.At turns event start low [.settled event.terminalId settleReasonCancelled none] change →
      ∀ effect ∈ framesOf desk.effects, ∃ reason cycles, effect = .settled event.terminalId reason cycles := by
    intro desk standing effect listed
    rw [standing.frames,List.mem_singleton] at listed
    exact ⟨_,_,listed⟩
  have asked : (ask turns fun _ => ()).Meets
      (fun desk => event.terminalId ∈ desk.cancels ∧ desk.At turns event start low [] change)
      (fun _ desk => event.terminalId ∈ desk.cancels ∧ desk.At turns event start low [] change)
      (fun desk => ∀ effect ∈ framesOf desk.effects, ∃ reason cycles, effect = .settled event.terminalId reason cycles) := by
    rintro desk ⟨stands,standing⟩
    simp only [ask]
    by_cases panics : (turns desk.calls).panics = true
    · rw [if_pos panics]
      exact quiet _ standing.turned
    · rw [if_neg panics]
      exact ⟨by simp [Desk.turned,stands],standing.turned⟩
  have taken : (takeCancel turns event.terminalId).Meets
      (fun desk => event.terminalId ∈ desk.cancels ∧ desk.At turns event start low [] change)
      (fun found desk => found = true ∧ desk.At turns event start low [] change)
      (fun desk => ∀ effect ∈ framesOf desk.effects, ∃ reason cycles, effect = .settled event.terminalId reason cycles) := by
    refine asked.bind fun _ => ?_
    rintro desk ⟨stands,standing⟩
    exact ⟨decide_eq_true stands,standing.frames,standing.history,standing.clock⟩
  refine taken.bind fun cancelled => ?_
  rintro desk ⟨rfl,standing⟩
  refine ((meets_emitSettled settleReasonCancelled none quiet told).bind fun _ => ?_) desk standing
  exact (meets_quietly rfl told).mono (fun _ given => given) (fun _ desk standing => told desk standing) (fun _ given => given)

end
end Freshell.AutoResume
