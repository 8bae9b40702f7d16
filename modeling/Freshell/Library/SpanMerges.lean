import Freshell.Library.Spans
import Mathlib.Data.List.Sort

/-!
Sets of numbers as lists of spans. A merge puts spans in order and joins those
that overlap or touch: the result is separate and covers the same numbers.
-/
namespace Freshell.Library.Spans

def Covered (n : Nat) (spans : List Span) : Prop := ∃ span ∈ spans, span.first ≤ n ∧ n ≤ span.last

/-- In order, disjoint, and no two of them adjacent. -/
structure Separate (spans : List Span) : Prop where
  proper : ∀ span ∈ spans, span.first ≤ span.last
  apart : spans.Pairwise fun earlier later => earlier.last + 1 < later.first

/-- The spans after `previous` in the order of their starts, joined to it and to one another. -/
def mergeAfter (previous : Span) : List Span → List Span
  | [] => [previous]
  | span :: rest =>
    if previous.last + 1 < span.first then previous :: mergeAfter span rest
    else mergeAfter { previous with last := max previous.last span.last } rest

@[simp] theorem mergeAfter_nil (previous : Span) : mergeAfter previous [] = [previous] := rfl

theorem mergeAfter_cons (previous span : Span) (rest : List Span) : mergeAfter previous (span :: rest) =
    if previous.last + 1 < span.first then previous :: mergeAfter span rest
    else mergeAfter { previous with last := max previous.last span.last } rest := rfl

def mergeSpans (spans : List Span) : List Span :=
  match spans.insertionSort fun a b => a.first ≤ b.first with
  | [] => []
  | first :: rest => mergeAfter first rest

@[simp] theorem covered_nil (n : Nat) : ¬Covered n [] := by simp [Covered]

@[simp] theorem covered_cons {n : Nat} {span : Span} {rest : List Span} :
    Covered n (span :: rest) ↔ (span.first ≤ n ∧ n ≤ span.last) ∨ Covered n rest := by
  simp [Covered]

theorem covered_append {n : Nat} {first second : List Span} :
    Covered n (first ++ second) ↔ Covered n first ∨ Covered n second := by
  simp [Covered,or_and_right,exists_or]

theorem separate_nil : Separate [] := ⟨nofun,List.Pairwise.nil⟩

theorem joined_order {previous span : Span} {rest : List Span} (last : Nat)
    (order : (previous :: span :: rest).Pairwise fun a b => a.first ≤ b.first) :
    (Span.mk previous.first last :: rest).Pairwise fun a b => a.first ≤ b.first := by
  obtain ⟨below,later⟩ := List.pairwise_cons.mp order
  exact List.pairwise_cons.mpr ⟨fun s mem => below s (List.mem_cons_of_mem _ mem),(List.pairwise_cons.mp later).2⟩

theorem mergeAfter_covers {n : Nat} {previous : Span} {spans : List Span}
    (order : (previous :: spans).Pairwise fun a b => a.first ≤ b.first)
    (proper : ∀ span ∈ previous :: spans, span.first ≤ span.last) :
    Covered n (mergeAfter previous spans) ↔ Covered n (previous :: spans) := by
  induction spans generalizing previous with
  | nil => rfl
  | cons span rest ih =>
    obtain ⟨below,later⟩ := List.pairwise_cons.mp order
    have low := below span List.mem_cons_self
    have one := proper previous List.mem_cons_self
    have other := proper span (by simp)
    rw [mergeAfter_cons]
    split
    · rw [covered_cons,covered_cons,ih later fun s mem => proper s (List.mem_cons_of_mem _ mem),covered_cons]
    next joined =>
      have proper' : ∀ s ∈ { previous with last := max previous.last span.last } :: rest, s.first ≤ s.last := by
        intro s mem
        rcases List.mem_cons.mp mem with rfl | mem
        · exact Nat.le_trans one (Nat.le_max_left _ _)
        · exact proper s (by simp [mem])
      rw [ih (joined_order _ order) proper',covered_cons,covered_cons,covered_cons]
      simp only
      have both : (previous.first ≤ n ∧ n ≤ max previous.last span.last) ↔
          (previous.first ≤ n ∧ n ≤ previous.last) ∨ (span.first ≤ n ∧ n ≤ span.last) := by omega
      rw [both,or_assoc]

theorem mergeAfter_first {previous : Span} {spans : List Span}
    (order : (previous :: spans).Pairwise fun a b => a.first ≤ b.first) :
    ∀ span ∈ mergeAfter previous spans, previous.first ≤ span.first := by
  induction spans generalizing previous with
  | nil => simp
  | cons span rest ih =>
    obtain ⟨below,later⟩ := List.pairwise_cons.mp order
    have low := below span List.mem_cons_self
    rw [mergeAfter_cons]
    split
    · intro s mem
      rcases List.mem_cons.mp mem with rfl | mem
      · exact Nat.le_refl _
      · exact Nat.le_trans low (ih later s mem)
    · exact ih (joined_order _ order)

theorem mergeAfter_separate {previous : Span} {spans : List Span}
    (order : (previous :: spans).Pairwise fun a b => a.first ≤ b.first)
    (proper : ∀ span ∈ previous :: spans, span.first ≤ span.last) : Separate (mergeAfter previous spans) := by
  induction spans generalizing previous with
  | nil => exact ⟨by simpa using proper,by simp⟩
  | cons span rest ih =>
    obtain ⟨below,later⟩ := List.pairwise_cons.mp order
    have one := proper previous List.mem_cons_self
    rw [mergeAfter_cons]
    split
    next clear =>
      obtain ⟨each,apart⟩ := ih later fun s mem => proper s (List.mem_cons_of_mem _ mem)
      refine ⟨fun s mem => ?_,List.pairwise_cons.mpr ⟨fun s mem => ?_,apart⟩⟩
      · rcases List.mem_cons.mp mem with rfl | mem
        · exact one
        · exact each s mem
      · exact Nat.lt_of_lt_of_le clear (mergeAfter_first later s mem)
    next =>
      refine ih (joined_order _ order) fun s mem => ?_
      rcases List.mem_cons.mp mem with rfl | mem
      · exact Nat.le_trans one (Nat.le_max_left _ _)
      · exact proper s (by simp [mem])

theorem mergeAfter_last {previous : Span} {spans : List Span} :
    ∀ span ∈ mergeAfter previous spans, ∃ source ∈ previous :: spans, source.last = span.last := by
  induction spans generalizing previous with
  | nil => simp
  | cons next rest ih =>
    intro span mem
    rw [mergeAfter_cons] at mem
    split at mem
    · rcases List.mem_cons.mp mem with rfl | mem
      · exact ⟨span,List.mem_cons_self,rfl⟩
      · obtain ⟨source,inside,ends⟩ := ih span mem
        exact ⟨source,List.mem_cons_of_mem _ inside,ends⟩
    · obtain ⟨source,inside,ends⟩ := ih span mem
      rcases List.mem_cons.mp inside with rfl | inside
      · rcases Nat.le_total previous.last next.last with low | low
        · exact ⟨next,by simp,by rw [← ends]; exact (Nat.max_eq_right low).symm⟩
        · exact ⟨previous,by simp,by rw [← ends]; exact (Nat.max_eq_left low).symm⟩
      · exact ⟨source,by simp [inside],ends⟩

theorem mergeAfter_eq {previous : Span} {spans : List Span} (separate : Separate (previous :: spans)) :
    mergeAfter previous spans = previous :: spans := by
  induction spans generalizing previous with
  | nil => rfl
  | cons span rest ih =>
    obtain ⟨proper,apart⟩ := separate
    obtain ⟨above,later⟩ := List.pairwise_cons.mp apart
    rw [mergeAfter_cons,if_pos (above span List.mem_cons_self),ih ⟨fun s mem => proper s (List.mem_cons_of_mem _ mem),later⟩]

/-- What sorting leaves of a list of spans: the same spans, in the order of their starts. -/
theorem sorted_spans (spans : List Span) :
    (spans.insertionSort fun a b => a.first ≤ b.first).Pairwise (fun a b => a.first ≤ b.first) ∧
      ∀ span, span ∈ spans.insertionSort (fun a b => a.first ≤ b.first) ↔ span ∈ spans := by
  have : Std.Total fun a b : Span => a.first ≤ b.first := ⟨fun a b => Nat.le_total a.first b.first⟩
  have : IsTrans Span fun a b => a.first ≤ b.first := ⟨fun _ _ _ => Nat.le_trans⟩
  exact ⟨List.pairwise_insertionSort _ spans,fun span => List.mem_insertionSort _⟩

theorem mergeSpans_covers {spans : List Span} (proper : ∀ span ∈ spans, span.first ≤ span.last) (n : Nat) :
    Covered n (mergeSpans spans) ↔ Covered n spans := by
  obtain ⟨order,same⟩ := sorted_spans spans
  have sorted : Covered n (spans.insertionSort fun a b => a.first ≤ b.first) ↔ Covered n spans := by
    simp only [Covered,same]
  rw [mergeSpans,← sorted]
  generalize spans.insertionSort (fun a b => a.first ≤ b.first) = list at order same
  cases list with
  | nil => rfl
  | cons first rest => exact mergeAfter_covers order fun span mem => proper span ((same span).mp mem)

theorem mergeSpans_separate {spans : List Span} (proper : ∀ span ∈ spans, span.first ≤ span.last) :
    Separate (mergeSpans spans) := by
  obtain ⟨order,same⟩ := sorted_spans spans
  rw [mergeSpans]
  generalize spans.insertionSort (fun a b => a.first ≤ b.first) = list at order same
  cases list with
  | nil => exact separate_nil
  | cons first rest => exact mergeAfter_separate order fun span mem => proper span ((same span).mp mem)

theorem mergeSpans_last {spans : List Span} :
    ∀ span ∈ mergeSpans spans, ∃ source ∈ spans, source.last = span.last := by
  obtain ⟨-,same⟩ := sorted_spans spans
  intro span mem
  rw [mergeSpans] at mem
  generalize spans.insertionSort (fun a b => a.first ≤ b.first) = list at same mem
  cases list with
  | nil => cases mem
  | cons first rest =>
    obtain ⟨source,inside,ends⟩ := mergeAfter_last span mem
    exact ⟨source,(same source).mp inside,ends⟩

theorem mergeSpans_eq {spans : List Span} (separate : Separate spans) : mergeSpans spans = spans := by
  have order : spans.Pairwise fun a b => a.first ≤ b.first := by
    refine separate.apart.imp_of_mem fun {a b} mem _ apart => ?_
    have := separate.proper a mem
    omega
  rw [mergeSpans,order.insertionSort_eq]
  cases spans with
  | nil => rfl
  | cons first rest => exact mergeAfter_eq separate

end Freshell.Library.Spans
