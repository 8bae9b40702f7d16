import Mathlib.Data.String.Basic
import Mathlib.Tactic.IntervalCases

/-!
Decimal numbers at the end of a text. A text up to its last hyphen and a number are
told apart again, and among numbers of one length the order of the texts is the
order of the numbers.
-/
namespace Freshell.Library.Decimals

def digitCount (n : Nat) : Nat := (Nat.toDigits 10 n).length

/-- A number behind a text, with a hyphen between them. -/
def numbered (text : String) (n : Nat) : String := text ++ "-" ++ n.repr

theorem toList_numbered (text : String) (n : Nat) :
    (numbered text n).toList = text.toList ++ '-' :: Nat.toDigits 10 n := by
  simp [numbered,Nat.toList_repr]

theorem not_mem_toDigits (n : Nat) : '-' ∉ Nat.toDigits 10 n := by
  intro listed
  have digit := Nat.isDigit_of_mem_toDigits (by decide) (by decide) listed
  simp at digit

theorem toDigits_injective {m n : Nat} (same : Nat.toDigits 10 m = Nat.toDigits 10 n) : m = n := by
  rw [← Nat.ofDigitChars_ten_toDigits (n := m),same,Nat.ofDigitChars_ten_toDigits]

theorem append_cons_inj {Item : Type*} {mark : Item} {first second front back : List Item}
    (notFront : mark ∉ front) (notBack : mark ∉ back) (same : first ++ mark :: front = second ++ mark :: back) :
    first = second ∧ front = back := by
  rcases List.append_eq_append_iff.mp same with ⟨middle,rfl,rest⟩ | ⟨middle,rfl,rest⟩
  · cases middle with
    | nil => simpa using rest
    | cons head tail =>
      simp only [List.cons_append,List.cons.injEq] at rest
      exact absurd (rest.2 ▸ by simp) notFront
  · cases middle with
    | nil => simpa using Eq.symm rest
    | cons head tail =>
      simp only [List.cons_append,List.cons.injEq] at rest
      exact absurd (rest.2 ▸ by simp) notBack

theorem numbered_inj {first second : String} {m n : Nat} (same : numbered first m = numbered second n) :
    first = second ∧ m = n := by
  have lists := congrArg String.toList same
  rw [toList_numbered,toList_numbered] at lists
  obtain ⟨texts,digits⟩ := append_cons_inj (not_mem_toDigits m) (not_mem_toDigits n) lists
  exact ⟨String.toList_injective texts,toDigits_injective digits⟩

theorem digitChar_lt {m n : Nat} (less : m < n) (digit : n < 10) : m.digitChar < n.digitChar := by
  interval_cases n <;> interval_cases m <;> decide

theorem append_lt_append {first second : List Char} (less : first < second) (same : first.length = second.length)
    (front back : List Char) : first ++ front < second ++ back := by
  induction first generalizing second with
  | nil =>
    cases second with
    | nil => simp at less
    | cons head tail => simp at same
  | cons head tail ih =>
    cases second with
    | nil => simp at same
    | cons other rest =>
      simp only [List.length_cons,Nat.add_right_cancel_iff] at same
      rw [List.cons_lt_cons_iff] at less
      simp only [List.cons_append]
      rw [List.cons_lt_cons_iff]
      exact less.imp_right fun tails => ⟨tails.1,ih tails.2 same⟩

theorem toDigits_lt {m n : Nat} (less : m < n) (same : digitCount m = digitCount n) :
    Nat.toDigits 10 m < Nat.toDigits 10 n := by
  induction n using Nat.strongRecOn generalizing m with
  | ind n ih =>
    simp only [digitCount] at same ih
    rw [Nat.toDigits_eq_if (n := m) (by decide),Nat.toDigits_eq_if (n := n) (by decide)] at same ⊢
    by_cases short : n < 10
    · rw [if_pos (by omega),if_pos short]
      exact List.cons_lt_cons_iff.mpr (.inl (digitChar_lt less short))
    · rw [if_neg short] at same ⊢
      by_cases shorter : m < 10
      · rw [if_pos shorter] at same
        have : 0 < (Nat.toDigits 10 (n / 10)).length := Nat.length_toDigits_pos
        simp at same
      · rw [if_neg shorter] at same ⊢
        simp only [List.length_append,List.length_singleton,Nat.add_right_cancel_iff] at same
        rcases Nat.lt_or_ge (m / 10) (n / 10) with fewer | more
        · exact append_lt_append (ih (n / 10) (by omega) fewer same) same _ _
        · have tens : m / 10 = n / 10 := by omega
          rw [tens]
          exact List.append_left_lt (List.cons_lt_cons_iff.mpr (.inl (digitChar_lt (by omega) (by omega))))

theorem numbered_lt_iff {text : String} {m n : Nat} :
    numbered text m < numbered text n ↔ Nat.toDigits 10 m < Nat.toDigits 10 n := by
  rw [String.lt_iff_toList_lt,toList_numbered,toList_numbered]
  have behind : ∀ {first second : List Char}, first < second → text.toList ++ '-' :: first < text.toList ++ '-' :: second :=
    fun less => List.append_left_lt (List.cons_lt_cons_iff.mpr (.inr ⟨rfl,less⟩))
  constructor
  · intro less
    rcases lt_trichotomy (Nat.toDigits 10 m) (Nat.toDigits 10 n) with before | same | after
    · exact before
    · rw [same] at less
      exact absurd less (lt_irrefl _)
    · exact absurd less (lt_asymm (behind after))
  · exact behind

theorem numbered_le_iff {text : String} {m n : Nat} :
    numbered text m ≤ numbered text n ↔ ¬Nat.toDigits 10 n < Nat.toDigits 10 m := by
  rw [← not_lt,numbered_lt_iff]

theorem numbered_le {text : String} {m n : Nat} (less : m < n) (same : digitCount m = digitCount n) :
    numbered text m ≤ numbered text n := (numbered_lt_iff.mpr (toDigits_lt less same)).le

/-- The number ten comes before nine. -/
example : numbered "view" 10 < numbered "view" 9 := by decide
end Freshell.Library.Decimals
