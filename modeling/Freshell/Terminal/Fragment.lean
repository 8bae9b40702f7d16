import Mathlib.Data.List.Basic

/-!
The splitter that cuts the output of a terminal into frames. A frame is as long as
the measure of its serialized form allows; the cut is found by bisection, and on
characters, so that none is split.
-/
namespace Freshell.Terminal

structure FragmentBudgetTooSmall where
deriving DecidableEq, Repr

/-- The loop `while low <= high`: the largest length found to fit, of those tried. -/
def bisect (fits : Nat → Prop) [DecidablePred fits] (low high best : Nat) (positive : 0 < low) : Nat :=
  if low ≤ high then
    if fits ((low + high) / 2) then bisect fits ((low + high) / 2 + 1) high ((low + high) / 2) (by omega)
    else bisect fits low ((low + high) / 2 - 1) best positive
  else best
termination_by high + 1 - low

/-- The chunks from an offset on, which the code points that follow it stand for. -/
def fragmentCodePoints (max : Nat) (measure : String → Nat) (codePoints : List Char) :
    Except FragmentBudgetTooSmall (List String) :=
  if codePoints = [] then .ok []
  else
    let best := bisect (fun mid => measure (String.ofList (codePoints.take mid)) ≤ max) 1 codePoints.length 0 Nat.one_pos
    if _none : best = 0 then .error {}
    else
      match fragmentCodePoints max measure (codePoints.drop best) with
      | .error err => .error err
      | .ok chunks => .ok (String.ofList (codePoints.take best) :: chunks)
termination_by codePoints.length
decreasing_by
  have : 0 < codePoints.length := List.length_pos_of_ne_nil ‹_›
  rw [List.length_drop]
  omega

def fragmentTerminalOutputForPayloadBudget (data : String) (maxSerializedBytes : Nat) (measure : String → Nat) :
    Except FragmentBudgetTooSmall (List String) :=
  let max := Nat.max maxSerializedBytes 1
  if measure data ≤ max then .ok [data] else fragmentCodePoints max measure data.toList

/-- A length that fits stands below `low`, and one that does not above `high`, if any
    was tried: at the end the two are next to each other, whatever the measure is. -/
theorem bisect_spec {fits : Nat → Prop} [DecidablePred fits] {low high best top : Nat} (positive : 0 < low)
    (below : best + 1 = low) (found : 0 < best → fits best) (order : low ≤ high + 1) (inside : high ≤ top)
    (above : high = top ∨ ¬fits (high + 1)) :
    (0 < bisect fits low high best positive → fits (bisect fits low high best positive)) ∧
      bisect fits low high best positive ≤ top ∧
      (bisect fits low high best positive = top ∨ ¬fits (bisect fits low high best positive + 1)) := by
  fun_induction bisect fits low high best positive with
  | case1 low high best positive open_ fit ih => exact ih rfl (fun _ => fit) (by omega) inside above
  | case2 low high best positive open_ misfit ih =>
    have next : (low + high) / 2 - 1 + 1 = (low + high) / 2 := by omega
    refine ih below found (by omega) (by omega) (.inr ?_)
    rw [next]
    exact misfit
  | case3 low high best positive closed =>
    obtain rfl : best = high := by omega
    exact ⟨found,inside,above⟩

/-- What the pieces of a text are, one after the other: each fits, and stops where
    the first character of the next one would exceed the budget. -/
def Fitting (max : Nat) (measure : String → Nat) : List String → Prop
  | [] => True
  | [last] => measure last ≤ max
  | first :: second :: rest =>
    measure first ≤ max ∧ (∃ c, second.toList.head? = some c ∧ max < measure (first.push c)) ∧
      Fitting max measure (second :: rest)

/-- One round of the loop: a piece that fits and cannot be longer, or a first code
    point that does not fit. -/
theorem best_spec (max : Nat) (measure : String → Nat) {codePoints : List Char} (more : codePoints ≠ []) :
    let best := bisect (fun mid => measure (String.ofList (codePoints.take mid)) ≤ max) 1 codePoints.length 0 Nat.one_pos
    (best = 0 → ∃ c ∈ codePoints, max < measure c.toString) ∧
      (best ≠ 0 → measure (String.ofList (codePoints.take best)) ≤ max ∧
        ∀ c, (codePoints.drop best).head? = some c → max < measure ((String.ofList (codePoints.take best)).push c)) := by
  intro best
  let fits (mid : Nat) : Prop := measure (String.ofList (codePoints.take mid)) ≤ max
  have found : (0 < best → fits best) ∧ best ≤ codePoints.length ∧ (best = codePoints.length ∨ ¬fits (best + 1)) :=
    bisect_spec Nat.one_pos rfl (by simp) (by omega) (Nat.le_refl _) (.inl rfl)
  obtain ⟨fit,inside,edge⟩ := found
  constructor
  · intro none
    obtain ⟨c,rest,rfl⟩ := List.exists_cons_of_ne_nil more
    have misfit := edge.resolve_left (by change best ≠ _; simp [none])
    refine ⟨c,by simp,?_⟩
    change ¬measure (String.ofList ((c :: rest).take (best + 1))) ≤ max at misfit
    simpa [none] using misfit
  · intro found
    refine ⟨fit (Nat.pos_of_ne_zero found),?_⟩
    intro c next
    have shorter : best ≠ codePoints.length := by
      rintro same
      simp [same] at next
    have misfit := edge.resolve_left shorter
    change ¬measure (String.ofList (codePoints.take (best + 1))) ≤ max at misfit
    rw [List.head?_drop] at next
    rw [List.take_add_one,next] at misfit
    simpa [String.ofList_append] using misfit

theorem fragmentCodePoints_spec (max : Nat) (measure : String → Nat) (codePoints : List Char) :
    match fragmentCodePoints max measure codePoints with
    | .error _ => ∃ c ∈ codePoints, max < measure c.toString
    | .ok fragments => fragments.flatMap String.toList = codePoints ∧ (∀ f ∈ fragments, f ≠ "") ∧
        Fitting max measure fragments := by
  fun_induction fragmentCodePoints max measure codePoints with
  | case1 => simp [Fitting]
  | case2 codePoints more best none => exact (best_spec max measure more).1 none
  | case3 codePoints more best found err stopped ih =>
    rw [stopped] at ih
    obtain ⟨c,listed,misfit⟩ := ih
    exact ⟨c,List.mem_of_mem_drop listed,misfit⟩
  | case4 codePoints more best found chunks cut ih =>
    rw [cut] at ih
    obtain ⟨whole,filled,fitting⟩ := ih
    obtain ⟨fit,edge⟩ := (best_spec max measure more).2 found
    refine ⟨?_,?_,?_⟩
    · simp [whole]
    · intro f listed
      rcases List.mem_cons.mp listed with rfl | later
      · intro empty
        have : codePoints.take best = [] := by simpa using congrArg String.toList empty
        rcases List.take_eq_nil_iff.mp this with zero | nil
        · exact found zero
        · exact more nil
      · exact filled f later
    · cases chunks with
      | nil => exact fit
      | cons second rest =>
        refine ⟨fit,?_,fitting⟩
        obtain ⟨c,tail,first⟩ := List.exists_cons_of_ne_nil (l := second.toList) (by
          intro nil
          exact filled second (by simp) (String.toList_injective (by simpa using nil)))
        refine ⟨c,by simp [first],edge c ?_⟩
        rw [← whole]
        simp [first]

/-- The pieces of a text whose code points fit one by one: they are the text, none is
    empty unless the text is, each fits and is as long as it can be. The splitter fails
    only at a code point that does not fit. The budget is at least one byte. -/
theorem fragments_law (data : String) (maxSerializedBytes : Nat) (measure : String → Nat) :
    ((∀ c ∈ data.toList, measure c.toString ≤ Nat.max maxSerializedBytes 1) →
      ∃ fragments, fragmentTerminalOutputForPayloadBudget data maxSerializedBytes measure = .ok fragments ∧
        String.join fragments = data ∧ (data ≠ "" → ∀ f ∈ fragments, f ≠ "") ∧
        Fitting (Nat.max maxSerializedBytes 1) measure fragments) ∧
    (∀ err, fragmentTerminalOutputForPayloadBudget data maxSerializedBytes measure = .error err →
      ∃ c ∈ data.toList, Nat.max maxSerializedBytes 1 < measure c.toString) := by
  unfold fragmentTerminalOutputForPayloadBudget
  generalize Nat.max maxSerializedBytes 1 = max
  by_cases whole : measure data ≤ max
  · simp only [if_pos whole]
    refine ⟨fun _ => ⟨[data],rfl,by simp [String.join],by simp,whole⟩,?_⟩
    intro err failed
    cases failed
  · simp only [if_neg whole]
    have spec := fragmentCodePoints_spec max measure data.toList
    cases result : fragmentCodePoints max measure data.toList with
    | error err =>
      rw [result] at spec
      refine ⟨?_,fun _ _ => spec⟩
      intro fits
      obtain ⟨c,listed,misfit⟩ := spec
      exact absurd (fits c listed) (by omega)
    | ok fragments =>
      rw [result] at spec
      refine ⟨fun _ => ⟨fragments,rfl,?_,fun _ => spec.2.1,spec.2.2⟩,?_⟩
      · apply String.toList_injective
        rw [← spec.1]
        simp [String.toList_join]
      · intro err failed
        cases failed

theorem fragments_law_at : ∃ fragments,
    fragmentTerminalOutputForPayloadBudget "abc" 2 String.length = .ok fragments ∧ String.join fragments = "abc" ∧
      ("abc" ≠ "" → ∀ f ∈ fragments, f ≠ "") ∧ Fitting (Nat.max 2 1) String.length fragments :=
  (fragments_law "abc" 2 String.length).1 (by simp)

/-- The empty text fits and is a piece of its own. -/
theorem empty_fragment : (∀ c ∈ "".toList, String.length c.toString ≤ 2) ∧
    fragmentTerminalOutputForPayloadBudget "" 2 String.length = .ok [""] := by
  constructor
  · simp
  · rfl
end Freshell.Terminal
