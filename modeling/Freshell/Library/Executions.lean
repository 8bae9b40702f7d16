import Mathlib.Data.Nat.Find

/-!
Runs without an end: what every step keeps between the states at two times, and what
comes to hold at some time.
-/
namespace Freshell.Library.Executions
universe u v

section
variable {State : Type u} {Label : Type v} (step : State → Label → State)

def execution (start : State) (labels : Nat → Label) : Nat → State
  | 0 => start
  | time + 1 => step (execution start labels time) (labels time)

variable {step} {start : State} {labels : Nat → Label}

theorem invariant_execution {Invariant : State → Prop} (initially : Invariant start)
    (preserved : ∀ state label, Invariant state → Invariant (step state label)) (time : Nat) :
    Invariant (execution step start labels time) := by
  induction time with
  | zero => exact initially
  | succ time ih => exact preserved _ _ ih

theorem kept_execution {Keeps : State → State → Prop} (same : ∀ state, Keeps state state)
    (both : ∀ {first second third}, Keeps first second → Keeps second third → Keeps first third)
    (steps : ∀ time, Keeps (execution step start labels time) (execution step start labels (time + 1)))
    {earlier later : Nat} (ordered : earlier ≤ later) :
    Keeps (execution step start labels earlier) (execution step start labels later) := by
  induction ordered with
  | refl => exact same _
  | step _ ih => exact both ih (steps _)
end

theorem first_time {holds : Nat → Prop} {since : Nat} (sometime : ∃ later, since ≤ later ∧ holds later) :
    ∃ first, since ≤ first ∧ holds first ∧ ∀ between, since ≤ between → between < first → ¬holds between := by
  classical
  refine ⟨Nat.find sometime,(Nat.find_spec sometime).1,(Nat.find_spec sometime).2,fun between after before held => ?_⟩
  exact Nat.find_min sometime before ⟨after,held⟩

theorem reaches {amount : Nat → Nat} {goal : Nat} {time : Nat}
    (grows : ∀ now, time ≤ now → amount now < goal → ∃ later, now ≤ later ∧ amount now < amount later) :
    ∃ later, time ≤ later ∧ goal ≤ amount later := by
  induction missing : goal - amount time using Nat.strongRecOn generalizing time with
  | ind rest ih =>
    by_cases reached : goal ≤ amount time
    · exact ⟨time,Nat.le_refl _,reached⟩
    · obtain ⟨later,after,more⟩ := grows time (Nat.le_refl _) (by omega)
      obtain ⟨last,behind,done⟩ := ih (goal - amount later) (by omega) (fun now after => grows now (by omega)) rfl
      exact ⟨last,by omega,done⟩

/-- What comes to hold for good of each of finitely many comes to hold for good of all. -/
theorem all_settle {holds : Nat → Nat → Prop} {time count : Nat}
    (each : ∀ index < count, ∃ later, time ≤ later ∧ ∀ after, later ≤ after → holds index after) :
    ∃ later, time ≤ later ∧ ∀ after, later ≤ after → ∀ index < count, holds index after := by
  induction count with
  | zero => exact ⟨time,Nat.le_refl _,fun _ _ index below => absurd below (Nat.not_lt_zero _)⟩
  | succ count ih =>
    obtain ⟨first,behind,settled⟩ := ih fun index below => each index (by omega)
    obtain ⟨second,beyond,last⟩ := each count (by omega)
    refine ⟨max first second,by omega,fun after later index below => ?_⟩
    by_cases newest : index = count
    · exact newest ▸ last after (by omega)
    · exact settled after (by omega) index (by omega)

end Freshell.Library.Executions
