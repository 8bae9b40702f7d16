import Mathlib.Data.List.Infix

/-!
Runs of a system whose step is a total function of the state and a label.
A condition on single steps is read along a whole run (`Along`), and an
invariant that every step under the condition preserves holds at its end.
-/
namespace Freshell.Library.Runs
universe u v

section
variable {State : Type u} {Label : Type v} (step : State → Label → State)

/-- The state that the labels lead to, in order. -/
def run (start : State) (labels : List Label) : State := labels.foldl step start

/-- Every step of the run meets `condition` in the state it is taken in. -/
def Along (condition : State → Label → Prop) : State → List Label → Prop
  | _, [] => True
  | state, label :: rest => condition state label ∧ Along condition (step state label) rest

/-- `holds` in every state of the run, up to the first label that discharges it. -/
def Until (holds : State → Prop) (discharges : State → Label → Prop) : State → List Label → Prop
  | state, [] => holds state
  | state, label :: rest => holds state ∧ (discharges state label ∨ Until holds discharges (step state label) rest)

/-- The states that a run from `start` can end in. -/
def Reachable (start state : State) : Prop := ∃ labels, run step start labels = state

@[simp] theorem run_nil (start : State) : run step start [] = start := rfl

@[simp] theorem run_cons (start : State) (label : Label) (rest : List Label) :
    run step start (label :: rest) = run step (step start label) rest := rfl

theorem run_append (start : State) (first second : List Label) :
    run step start (first ++ second) = run step (run step start first) second := by
  simp [run]

@[simp] theorem along_nil (condition : State → Label → Prop) (start : State) :
    Along step condition start [] := trivial

@[simp] theorem along_cons (condition : State → Label → Prop) (start : State) (label : Label) (rest : List Label) :
    Along step condition start (label :: rest) ↔
      condition start label ∧ Along step condition (step start label) rest := Iff.rfl

theorem along_append (condition : State → Label → Prop) (start : State) (first second : List Label) :
    Along step condition start (first ++ second) ↔
      Along step condition start first ∧ Along step condition (run step start first) second := by
  induction first generalizing start with
  | nil => simp
  | cons label rest ih => simp only [List.cons_append,along_cons,run_cons,ih,and_assoc]

variable {step}

instance decidableAlong {condition : State → Label → Prop} [∀ s l, Decidable (condition s l)] (start : State) :
    (labels : List Label) → Decidable (Along step condition start labels)
  | [] => .isTrue trivial
  | label :: rest =>
    have : Decidable (Along step condition (step start label) rest) := decidableAlong _ rest
    inferInstanceAs (Decidable (condition start label ∧ Along step condition (step start label) rest))

theorem along_before {condition : State → Label → Prop} {start : State} {before labels : List Label}
    (isPrefix : before <+: labels) (along : Along step condition start labels) : Along step condition start before := by
  obtain ⟨after,rfl⟩ := isPrefix
  exact ((along_append step condition start before after).mp along).1

theorem along_of_prefixes {holds : State → Prop} {condition : State → Label → Prop}
    (needed : ∀ s l, holds s → holds (step s l) → condition s l) {start : State} {labels : List Label}
    (reached : ∀ before, before <+: labels → holds (run step start before)) : Along step condition start labels := by
  induction labels generalizing start with
  | nil => trivial
  | cons label rest ih =>
    refine ⟨needed _ _ (reached [] (List.nil_prefix)) (reached [label] ⟨rest,rfl⟩),ih ?_⟩
    intro before isPrefix
    exact reached (label :: before) (List.prefix_cons_inj label |>.mpr isPrefix)

theorem along_and {first second : State → Label → Prop} {start : State} {labels : List Label}
    (along : Along step first start labels) (also : Along step second start labels) :
    Along step (fun s l => first s l ∧ second s l) start labels := by
  induction labels generalizing start with
  | nil => trivial
  | cons label rest ih => exact ⟨⟨along.1,also.1⟩,ih along.2 also.2⟩

theorem along_mono {weaker stronger : State → Label → Prop} (implies : ∀ s l, stronger s l → weaker s l)
    {start : State} {labels : List Label} (along : Along step stronger start labels) :
    Along step weaker start labels := by
  induction labels generalizing start with
  | nil => trivial
  | cons label rest ih => exact ⟨implies _ _ along.1,ih along.2⟩

theorem along_of_forall {condition : State → Label → Prop} (holds : ∀ s l, condition s l) (start : State)
    (labels : List Label) : Along step condition start labels := by
  induction labels generalizing start with
  | nil => trivial
  | cons label rest ih => exact ⟨holds _ _,ih _⟩

/-- What every step under the condition preserves holds at the end of a run
    whose steps all meet it. -/
theorem invariant_run {Invariant : State → Prop} {condition : State → Label → Prop}
    (preserved : ∀ s l, Invariant s → condition s l → Invariant (step s l)) {start : State} {labels : List Label}
    (initial : Invariant start) (along : Along step condition start labels) : Invariant (run step start labels) := by
  induction labels generalizing start with
  | nil => exact initial
  | cons label rest ih => exact ih (preserved _ _ initial along.1) along.2

theorem invariant_along {Invariant : State → Prop} {condition consequence : State → Label → Prop}
    (preserved : ∀ s l, Invariant s → condition s l → Invariant (step s l))
    (consequent : ∀ s l, Invariant s → condition s l → consequence s l) {start : State} {labels : List Label}
    (initial : Invariant start) (along : Along step condition start labels) :
    Along step consequence start labels := by
  induction labels generalizing start with
  | nil => trivial
  | cons label rest ih =>
    exact ⟨consequent _ _ initial along.1,ih (preserved _ _ initial along.1) along.2⟩

theorem until_run {holds : State → Prop} {discharges : State → Label → Prop}
    (kept : ∀ s l, holds s → discharges s l ∨ holds (step s l)) {start : State} (held : holds start)
    (labels : List Label) : Until step holds discharges start labels := by
  induction labels generalizing start with
  | nil => exact held
  | cons label rest ih => exact ⟨held,(kept _ _ held).imp_right ih⟩

theorem until_along {Invariant : State → Prop} {condition : State → Label → Prop} {holds : State → Prop}
    {discharges : State → Label → Prop} (preserved : ∀ s l, Invariant s → condition s l → Invariant (step s l))
    (kept : ∀ s l, Invariant s → condition s l → holds s → discharges s l ∨ holds (step s l)) {start : State}
    {labels : List Label} (initial : Invariant start) (along : Along step condition start labels) (held : holds start) :
    Until step holds discharges start labels := by
  induction labels generalizing start with
  | nil => exact held
  | cons label rest ih =>
    refine ⟨held,(kept _ _ initial along.1 held).imp_right fun held => ?_⟩
    exact ih (preserved _ _ initial along.1) along.2 held

theorem until_mono {stronger weaker : State → Prop} {discharges : State → Label → Prop}
    (implies : ∀ s, stronger s → weaker s) {start : State} {labels : List Label}
    (holds : Until step stronger discharges start labels) : Until step weaker discharges start labels := by
  induction labels generalizing start with
  | nil => exact implies _ holds
  | cons label rest ih => exact ⟨implies _ holds.1,holds.2.imp_right ih⟩

theorem invariant_reachable {Invariant : State → Prop} (preserved : ∀ s l, Invariant s → Invariant (step s l))
    {start state : State} (initial : Invariant start) (reachable : Reachable step start state) : Invariant state := by
  obtain ⟨labels,rfl⟩ := reachable
  have free : Along step (fun _ _ => True) start labels := along_of_forall (fun _ _ => trivial) start labels
  exact invariant_run (fun s l holds _ => preserved s l holds) initial free

section
universe w
variable {Larger : Type w} {stepLarger : Larger → Label → Larger} {view : Larger → State}

theorem run_view (steps : ∀ s l, view (stepLarger s l) = step (view s) l) (start : Larger) (labels : List Label) :
    view (run stepLarger start labels) = run step (view start) labels := by
  induction labels generalizing start with
  | nil => rfl
  | cons label rest ih => rw [run_cons,ih,steps,run_cons]

theorem along_view (steps : ∀ s l, view (stepLarger s l) = step (view s) l) {condition : State → Label → Prop}
    {start : Larger} {labels : List Label} (along : Along step condition (view start) labels) :
    Along stepLarger (fun s l => condition (view s) l) start labels := by
  induction labels generalizing start with
  | nil => trivial
  | cons label rest ih => exact ⟨along.1,ih (steps start label ▸ along.2)⟩
end

end
end Freshell.Library.Runs
