import Mathlib.Data.List.Basic
import Mathlib.Algebra.GroupWithZero.Nat

/-!
Spans of numbered items, and lists of spans that tile a range: each span starts
where the one before it ended. A tiling ascends, and holds every number of its
range in exactly one span.
-/
namespace Freshell.Library.Spans

structure Span where
  first : Nat
  last : Nat
deriving DecidableEq, Repr

def Span.holds (span : Span) (n : Nat) : Bool := decide (span.first ≤ n) && decide (n ≤ span.last)

theorem Span.holds_iff {span : Span} {n : Nat} : span.holds n = true ↔ span.first ≤ n ∧ n ≤ span.last := by
  simp [Span.holds]

/-- The spans cover the numbers above `base` up to `top`, one after the other. -/
def Tiles : Nat → List Span → Nat → Prop
  | base, [], top => top = base
  | base, span :: rest, top => span.first = base + 1 ∧ span.first ≤ span.last ∧ Tiles span.last rest top

/-- No span is empty, and each ends before the next one starts. -/
def Ascending (spans : List Span) : Prop :=
  (∀ span ∈ spans, span.first ≤ span.last) ∧ spans.Pairwise (fun earlier later => earlier.last < later.first)

@[simp] theorem tiles_nil {base top : Nat} : Tiles base [] top ↔ top = base := Iff.rfl

@[simp] theorem tiles_cons {base top : Nat} {span : Span} {rest : List Span} :
    Tiles base (span :: rest) top ↔ span.first = base + 1 ∧ span.first ≤ span.last ∧ Tiles span.last rest top := Iff.rfl

theorem tiles_append {base top : Nat} {first second : List Span} :
    Tiles base (first ++ second) top ↔ ∃ middle, Tiles base first middle ∧ Tiles middle second top := by
  induction first generalizing base with
  | nil => simp
  | cons span rest ih => simp [ih,and_assoc]

theorem tiles_concat {base middle top : Nat} {first second : List Span} (one : Tiles base first middle)
    (other : Tiles middle second top) : Tiles base (first ++ second) top :=
  tiles_append.mpr ⟨middle,one,other⟩

theorem tiles_singleton {base top : Nat} {span : Span} (first : span.first = base + 1) (last : span.last = top)
    (above : base < top) : Tiles base [span] top := by
  rw [tiles_cons,tiles_nil]
  omega

theorem tiles_le {base top : Nat} {spans : List Span} (tiles : Tiles base spans top) : base ≤ top := by
  induction spans generalizing base with
  | nil => exact Nat.le_of_eq tiles.symm
  | cons span rest ih =>
    obtain ⟨first,proper,rest⟩ := tiles
    have := ih rest
    omega

theorem tiles_nil_of_le {base top : Nat} {spans : List Span} (tiles : Tiles base spans top) (low : top ≤ base) :
    spans = [] := by
  cases spans with
  | nil => rfl
  | cons span rest =>
    obtain ⟨first,proper,rest⟩ := tiles
    have := tiles_le rest
    omega

theorem tiles_within {base top : Nat} {spans : List Span} (tiles : Tiles base spans top) :
    ∀ span ∈ spans, base < span.first ∧ span.first ≤ span.last ∧ span.last ≤ top := by
  induction spans generalizing base with
  | nil => simp
  | cons head rest ih =>
    obtain ⟨first,proper,tail⟩ := tiles
    intro span member
    obtain rfl | member := List.mem_cons.mp member
    · exact ⟨by omega,proper,tiles_le tail⟩
    · obtain ⟨above,proper',below⟩ := ih tail span member
      exact ⟨by omega,proper',below⟩

theorem ascending_of_tiles {base top : Nat} {spans : List Span} (tiles : Tiles base spans top) : Ascending spans := by
  constructor
  · intro span member
    exact (tiles_within tiles span member).2.1
  · induction spans generalizing base with
    | nil => exact List.Pairwise.nil
    | cons head rest ih =>
      obtain ⟨-,-,tail⟩ := tiles
      refine List.pairwise_cons.mpr ⟨?_,ih tail⟩
      intro later member
      exact (tiles_within tail later member).1

theorem tiles_countP {base top : Nat} {spans : List Span} (tiles : Tiles base spans top) (n : Nat) :
    spans.countP (·.holds n) = if base < n ∧ n ≤ top then 1 else 0 := by
  induction spans generalizing base with
  | nil =>
    obtain rfl : top = base := tiles
    rw [List.countP_nil,if_neg]
    omega
  | cons span rest ih =>
    obtain ⟨first,proper,tail⟩ := tiles
    have := tiles_le tail
    rw [List.countP_cons,ih tail]
    by_cases inside : span.first ≤ n ∧ n ≤ span.last
    · have low : ¬ (span.last < n ∧ n ≤ top) := by omega
      rw [if_pos (Span.holds_iff.mpr inside),if_neg low,if_pos (by omega)]
    · have outside : ¬ (span.holds n = true) := by rwa [Span.holds_iff]
      rw [if_neg outside,Nat.add_zero]
      apply if_congr _ rfl rfl
      omega

theorem tiles_head {base top : Nat} {spans : List Span} {head : Span} (tiles : Tiles base spans top)
    (starts : spans.head? = some head) : head.first = base + 1 := by
  obtain ⟨rest,rfl⟩ := List.head?_eq_some_iff.mp starts
  exact tiles.1

theorem tiles_last {base top : Nat} {spans : List Span} {last : Span} (tiles : Tiles base spans top)
    (ends : spans.getLast? = some last) : last.last = top := by
  obtain ⟨before,rfl⟩ := List.getLast?_eq_some_iff.mp ends
  obtain ⟨middle,-,tiles⟩ := tiles_append.mp tiles
  exact tiles.2.2.symm

theorem tiles_merge {base top : Nat} {spans : List Span} {head last : Span} (tiles : Tiles base spans top)
    (starts : spans.head? = some head) (ends : spans.getLast? = some last) :
    Tiles base [⟨head.first,last.last⟩] top := by
  have within := tiles_within tiles head (List.mem_of_head? starts)
  have first := tiles_head tiles starts
  have ended := tiles_last tiles ends
  exact ⟨first,by simp only; omega,ended.symm⟩

/-- Spans that follow one another without a gap hold what the one span over all of them holds. -/
theorem linked_countP {spans : List Span} {first last : Nat}
    (linked : spans.IsChain fun earlier later => later.first = earlier.last + 1)
    (proper : ∀ span ∈ spans, span.first ≤ span.last) (starts : spans.head?.map Span.first = some first)
    (ends : spans.getLast?.map Span.last = some last) (n : Nat) :
    first ≤ last ∧ spans.countP (·.holds n) = [Span.mk first last].countP (·.holds n) := by
  induction spans generalizing first with
  | nil => cases starts
  | cons span rest ih =>
    obtain rfl : span.first = first := by simpa using starts
    have whole := proper span List.mem_cons_self
    cases rest with
    | nil =>
      obtain rfl : span.last = last := by simpa using ends
      exact ⟨whole,rfl⟩
    | cons next more =>
      obtain ⟨follows,linked⟩ := List.isChain_cons_cons.mp linked
      have later : ∀ span ∈ next :: more, span.first ≤ span.last := fun span mem => proper span (List.mem_cons_of_mem _ mem)
      obtain ⟨low,counted⟩ := ih linked later rfl (by simpa using ends)
      refine ⟨by omega,?_⟩
      rw [List.countP_cons,counted]
      simp only [List.countP_singleton,Span.holds_iff]
      split <;> split <;> split <;> omega

end Freshell.Library.Spans
