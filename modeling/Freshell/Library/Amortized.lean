import Freshell.Library.Runs

/-!
Costs over a run. Each step of a run has a cost, paid for by what a potential
loses and by the credits that some steps bring; so the costs of the whole run
are paid for by the potential it starts with and the credits of all its steps.
-/
namespace Freshell.Library.Amortized
open Freshell.Library.Runs
universe u v

section
variable {State : Type u} {Label : Type v} (step : State → Label → State)

def tally (weight : State → Label → Nat) : State → List Label → Nat
  | _, [] => 0
  | state, label :: rest => weight state label + tally weight (step state label) rest

@[simp] theorem tally_nil (weight : State → Label → Nat) (start : State) : tally step weight start [] = 0 := rfl

@[simp] theorem tally_cons (weight : State → Label → Nat) (start : State) (label : Label) (rest : List Label) :
    tally step weight start (label :: rest) = weight start label + tally step weight (step start label) rest := rfl

theorem tally_mul (weight : State → Label → Nat) (factor : Nat) (start : State) (labels : List Label) :
    tally step (fun s l => weight s l * factor) start labels = tally step weight start labels * factor := by
  induction labels generalizing start with
  | nil => simp
  | cons label rest ih => simp only [tally_cons,ih,Nat.add_mul]

theorem tally_countP (counts : Label → Bool) (start : State) (labels : List Label) :
    tally step (fun _ l => if counts l then 1 else 0) start labels = labels.countP counts := by
  induction labels generalizing start with
  | nil => simp
  | cons label rest ih => rw [tally_cons,ih,List.countP_cons,Nat.add_comm]

variable {step}

theorem tally_le {condition : State → Label → Prop} (potential : State → Nat) {cost credit : State → Label → Nat}
    (pays : ∀ s l, condition s l → cost s l + potential (step s l) ≤ potential s + credit s l) {start : State}
    {labels : List Label} (along : Along step condition start labels) :
    tally step cost start labels + potential (run step start labels) ≤ potential start + tally step credit start labels := by
  induction labels generalizing start with
  | nil => simp
  | cons label rest ih =>
    have here := pays start label along.1
    have later := ih along.2
    simp only [tally_cons,run_cons]
    omega

end
end Freshell.Library.Amortized
