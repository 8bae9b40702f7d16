/-!
What a system emits along a run: labels that neither emit nor change what later
steps read can be left out of it, and the edges of a flag alternate.
-/
namespace Freshell.Library.Emissions
universe u v w

section
variable {State : Type u} {Label : Type v} {Out : Type w} (step : State → Label → State × List Out)

def emitted : State → List Label → List Out
  | _, [] => []
  | state, label :: rest => (step state label).2 ++ emitted (step state label).1 rest

@[simp] theorem emitted_cons (state : State) (label : Label) (rest : List Label) :
    emitted step state (label :: rest) = (step state label).2 ++ emitted step (step state label).1 rest := rfl

/-- The hidden labels emit nothing and leave the observed part of the state; the
    others read nothing but the observed part. -/
structure Unwinding {View : Type u} (hidden : Label → Bool) (view : State → View) : Prop where
  silent : ∀ state label, hidden label = true → (step state label).2 = [] ∧ view (step state label).1 = view state
  blind : ∀ first second label, hidden label = false → view first = view second →
    (step first label).2 = (step second label).2 ∧ view (step first label).1 = view (step second label).1

variable {step}

theorem Unwinding.emitted_purged {View : Type u} {hidden : Label → Bool} {view : State → View}
    (unwinding : Unwinding step hidden view) {first second : State} (same : view first = view second) (labels : List Label) :
    emitted step first labels = emitted step second (labels.filter (!hidden ·)) := by
  induction labels generalizing first second with
  | nil => rfl
  | cons label rest ih =>
    cases unseen : hidden label with
    | true =>
      obtain ⟨silent,kept⟩ := unwinding.silent first label unseen
      rw [emitted_cons,silent,List.filter_cons_of_neg (by simp [unseen])]
      exact ih (kept.trans same)
    | false =>
      obtain ⟨paired,kept⟩ := unwinding.blind first second label unseen same
      rw [emitted_cons,paired,List.filter_cons_of_pos (by simp [unseen]),emitted_cons]
      rw [ih kept]
end

/-- `next`, its opposite, and so on in turn. -/
def Alternating : Bool → List Bool → Prop
  | _, [] => True
  | next, edge :: rest => edge = next ∧ Alternating (!next) rest

instance decidableAlternating : (next : Bool) → (edges : List Bool) → Decidable (Alternating next edges)
  | _, [] => .isTrue trivial
  | next, edge :: rest =>
    have : Decidable (Alternating (!next) rest) := decidableAlternating (!next) rest
    inferInstanceAs (Decidable (edge = next ∧ Alternating (!next) rest))

section
variable {State : Type u} {Label : Type v} {Out : Type w} {step : State → Label → State × List Out}

theorem alternating_edges {Invariant : State → Prop} (flag : State → Bool) {edge : Out → Option Bool}
    (preserved : ∀ state label, Invariant state → Invariant (step state label).1)
    (turned : ∀ state label, Invariant state →
      (step state label).2.filterMap edge =
        if flag (step state label).1 = flag state then [] else [flag (step state label).1])
    {start : State} (initial : Invariant start) (labels : List Label) :
    Alternating (!flag start) ((emitted step start labels).filterMap edge) := by
  induction labels generalizing start with
  | nil => trivial
  | cons label rest ih =>
    have later := ih (preserved start label initial)
    rw [emitted_cons,List.filterMap_append,turned start label initial]
    by_cases same : flag (step start label).1 = flag start
    · rw [if_pos same]
      rwa [same] at later
    · have opposite : flag (step start label).1 = !flag start := Bool.eq_not_of_ne same
      rw [if_neg same,List.singleton_append]
      rw [opposite] at later ⊢
      exact ⟨rfl,later⟩
end
end Freshell.Library.Emissions
