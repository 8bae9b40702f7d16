/-!
Programs over a state that may break off on the way, and what they meet: a condition on the
state that they are started in, one on where they end, and one on where they break off.
-/
namespace Freshell.Library.Programs
universe u

/-- A program over a state. Where it breaks off there is no value, and the state stays as it is. -/
def Program (State Value : Type u) : Type u := State → Option Value × State

namespace Program

section
variable {State Value Other : Type u}

def give (value : Value) : Program State Value := fun state => (some value,state)

def andThen (program : Program State Value) (next : Value → Program State Other) : Program State Other := fun state =>
  match program state with
  | (some value,state) => next value state
  | (none,state) => (none,state)

instance : Monad (Program State) where
  pure := give
  bind := andThen

def abort : Program State Value := fun state => (none,state)

def change (next : State → State) : Program State PUnit := fun state => (some ⟨⟩,next state)

def look (read : State → Value) : Program State Value := fun state => (some (read state),state)

/-- Started under `before`, the program ends under `after` or breaks off under `broken`. -/
def Meets (before : State → Prop) (program : Program State Value) (after : Value → State → Prop)
    (broken : State → Prop) : Prop :=
  ∀ state, before state →
    match program state with
    | (some value,next) => after value next
    | (none,next) => broken next

section
variable {before : State → Prop} {program : Program State Value} {after : Value → State → Prop}
  {broken : State → Prop} {next : Value → Program State Other} {finally_ : Other → State → Prop}

theorem Meets.done (met : program.Meets before after broken) {state ended : State} {value : Value}
    (start : before state) (ran : program state = (some value,ended)) : after value ended := by
  have ending := met state start
  rw [ran] at ending
  exact ending

theorem Meets.broke (met : program.Meets before after broken) {state ended : State} (start : before state)
    (ran : program state = (none,ended)) : broken ended := by
  have ending := met state start
  rw [ran] at ending
  exact ending

theorem meets_anything : program.Meets before (fun _ _ => True) fun _ => True := by
  intro state _
  split <;> trivial

theorem Meets.bind (first : program.Meets before after broken)
    (second : ∀ value, (next value).Meets (after value) finally_ broken) :
    (program >>= next).Meets before finally_ broken := by
  intro state start
  show match andThen program next state with
    | (some value,ended) => finally_ value ended
    | (none,ended) => broken ended
  have ending := first state start
  unfold andThen
  split at ending
  · next value mid ran => exact second value mid ending
  · exact ending

theorem Meets.mono (met : program.Meets before after broken) {earlier : State → Prop} {later : Value → State → Prop}
    {breaks : State → Prop} (start : ∀ state, earlier state → before state)
    (ends : ∀ value state, after value state → later value state) (stops : ∀ state, broken state → breaks state) :
    program.Meets earlier later breaks := by
  intro state given
  have ending := met state (start state given)
  split at ending
  · next value mid ran => exact ends value mid ending
  · next mid ran => exact stops mid ending

theorem Meets.strengthen {earlier : State → Prop} (met : program.Meets before after broken)
    (start : ∀ state, earlier state → before state) : program.Meets earlier after broken :=
  met.mono start (fun _ _ ending => ending) (fun _ ending => ending)

theorem meets_ite {test : Prop} [Decidable test] {other : Program State Value}
    (yes : test → program.Meets before after broken) (no : ¬test → other.Meets before after broken) :
    (if test then program else other).Meets before after broken := by
  by_cases holds : test
  · rw [if_pos holds]
    exact yes holds
  · rw [if_neg holds]
    exact no holds

end

end
end Program
end Freshell.Library.Programs
