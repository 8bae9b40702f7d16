import Mathlib.Data.List.Basic

/-!
Rules that speak of a history: something happened, and nothing since has undone it.
-/
namespace Freshell.Library.Histories
universe u
variable {Event : Type u} {happened test : List Event → Event → Prop}

/-- An event of the history is of the kind, and every event after it passes the test.
    Both are judged with what went before. -/
def Since (happened test : List Event → Event → Prop) (history : List Event) : Prop :=
  ∃ before event after, history = before ++ event :: after ∧ happened before event ∧
    ∀ middle later rest, after = middle ++ later :: rest → test (before ++ event :: middle) later

@[simp] theorem since_nil : ¬Since happened test ([] : List Event) := by
  rintro ⟨before,event,after,none_,_⟩
  simp at none_

theorem since_concat {history : List Event} {event : Event} :
    Since happened test (history ++ [event]) ↔
      happened history event ∨ (Since happened test history ∧ test history event) := by
  constructor
  · rintro ⟨before,first,after,split,kind,passed⟩
    obtain rfl | ⟨older,newest,rfl⟩ := after.eq_nil_or_concat'
    · obtain ⟨rfl,last⟩ := List.append_inj' split rfl
      obtain rfl := List.singleton_inj.mp last
      exact .inl kind
    · have regrouped : history ++ [event] = (before ++ first :: older) ++ [newest] := by simpa using split
      obtain ⟨rfl,last⟩ := List.append_inj' regrouped rfl
      obtain rfl := List.singleton_inj.mp last
      refine .inr ⟨⟨before,first,older,rfl,kind,?_⟩,passed older event [] rfl⟩
      rintro middle later rest rfl
      exact passed middle later (rest ++ [event]) (by simp)
  · rintro (kind | ⟨⟨before,first,after,rfl,kind,passed⟩,newest⟩)
    · refine ⟨history,event,[],rfl,kind,?_⟩
      intro middle later rest none_
      simp at none_
    · refine ⟨before,first,after ++ [event],by simp,kind,?_⟩
      intro middle later rest split
      obtain rfl | ⟨older,last,rfl⟩ := rest.eq_nil_or_concat'
      · obtain ⟨rfl,same⟩ := List.append_inj' split rfl
        obtain rfl := List.singleton_inj.mp same
        exact newest
      · have regrouped : after ++ [event] = (middle ++ later :: older) ++ [last] := by simpa using split
        exact passed middle later older (List.append_inj' regrouped rfl).1

end Freshell.Library.Histories
