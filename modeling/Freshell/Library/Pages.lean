import Mathlib.Data.List.Sublists

/-!
An ordered list that is read page by page, each page from where the one before it ended.
-/
namespace Freshell.Library.Pages
universe u
variable {Entry : Type u} (key : Entry → Nat)

/-- The entries above `low`, up to `high`. -/
def between (low high : Nat) (entries : List Entry) : List Entry :=
  entries.filter fun entry => low < key entry ∧ key entry ≤ high

/-- Where a page ends that begins above `low`. -/
def lastKey (low : Nat) (page : List Entry) : Nat := page.foldl (fun last entry => max last (key entry)) low

variable {key}

theorem le_lastKey (low : Nat) (page : List Entry) : low ≤ lastKey key low page := by
  induction page generalizing low with
  | nil => exact Nat.le_refl _
  | cons entry rest ih => exact Nat.le_trans (Nat.le_max_left low (key entry)) (ih (max low (key entry)))

theorem lastKey_mem (low : Nat) (page : List Entry) :
    lastKey key low page = low ∨ ∃ entry ∈ page, lastKey key low page = key entry := by
  induction page generalizing low with
  | nil => exact .inl rfl
  | cons entry rest ih =>
    obtain start | ⟨last,listed,same⟩ := ih (max low (key entry))
    · rw [show lastKey key low (entry :: rest) = lastKey key (max low (key entry)) rest from rfl,start]
      obtain before | behind := Nat.le_total low (key entry)
      · exact .inr ⟨entry,List.mem_cons_self,Nat.max_eq_right before⟩
      · exact .inl (Nat.max_eq_left behind)
    · exact .inr ⟨last,List.mem_cons_of_mem _ listed,same⟩

theorem between_cons (low high : Nat) (entry : Entry) (rest : List Entry) :
    between key low high (entry :: rest) =
      if low < key entry ∧ key entry ≤ high then entry :: between key low high rest else between key low high rest := by
  simp [between,List.filter_cons]

theorem between_eq_nil {low high : Nat} {entries : List Entry} (behind : ∀ entry ∈ entries, high < key entry) :
    between key low high entries = [] := by
  refine List.filter_eq_nil_iff.mpr fun entry listed => ?_
  have after := behind entry listed
  simp only [decide_eq_true_eq]
  omega

theorem between_append {entries : List Entry} (ordered : entries.Pairwise fun first second => key first < key second)
    {low middle high : Nat} (below : low ≤ middle) (above : middle ≤ high) :
    between key low middle entries ++ between key middle high entries = between key low high entries := by
  induction entries with
  | nil => rfl
  | cons entry rest ih =>
    obtain ⟨least,ordered⟩ := List.pairwise_cons.mp ordered
    have together := ih ordered
    rw [between_cons,between_cons,between_cons]
    by_cases early : key entry ≤ middle
    · rw [if_neg (by omega : ¬(middle < key entry ∧ key entry ≤ high))]
      by_cases inside : low < key entry
      · rw [if_pos ⟨inside,early⟩,if_pos ⟨inside,by omega⟩,List.cons_append,together]
      · rw [if_neg fun both => inside both.1,if_neg fun both => inside both.1,together]
    · -- All that follows is behind the middle too.
      have none : between key low middle rest = [] := between_eq_nil fun later listed => by
        have after := least later listed
        omega
      rw [none,List.nil_append] at together
      rw [if_neg fun both => early both.2,none,List.nil_append,together]
      by_cases inside : key entry ≤ high
      · rw [if_pos ⟨by omega,inside⟩,if_pos ⟨by omega,inside⟩]
      · rw [if_neg fun both => inside both.2,if_neg fun both => inside both.2]

theorem take_eq {entries : List Entry} (ordered : entries.Pairwise fun first second => key first < key second) {low : Nat}
    (ahead : ∀ entry ∈ entries, low < key entry) (count : Nat) :
    entries.take count = between key low (lastKey key low (entries.take count)) entries := by
  induction entries generalizing low count with
  | nil => simp [between]
  | cons entry rest ih =>
    obtain ⟨least,ordered⟩ := List.pairwise_cons.mp ordered
    have first := ahead entry List.mem_cons_self
    cases count with
    | zero => exact (between_eq_nil ahead).symm
    | succ count =>
      have begun : lastKey key low (entry :: rest.take count) = lastKey key (key entry) (rest.take count) := by
        rw [lastKey,List.foldl_cons,Nat.max_eq_right (Nat.le_of_lt first)]
        rfl
      have reached := @le_lastKey _ key (key entry) (rest.take count)
      have next := ih ordered least count
      rw [List.take_succ_cons,begun,between_cons,if_pos ⟨first,reached⟩]
      have same : between key low (lastKey key (key entry) (rest.take count)) rest =
          between key (key entry) (lastKey key (key entry) (rest.take count)) rest := by
        refine List.filter_congr fun later listed => ?_
        have after := least later listed
        simp only [decide_eq_decide]
        omega
      rw [same,←next]

theorem page_eq {entries : List Entry} (ordered : entries.Pairwise fun first second => key first < key second) (low count : Nat) :
    (entries.filter fun entry => low < key entry).take count =
      between key low (lastKey key low ((entries.filter fun entry => low < key entry).take count)) entries := by
  have page := @take_eq _ key _ (ordered.filter fun entry => decide (low < key entry)) low (by simp) count
  refine page.trans ?_
  simp only [between,List.filter_filter]
  refine List.filter_congr fun entry _ => ?_
  by_cases above : low < key entry <;> simp [above]

/-- What is kept of a list passes a test in the same places, where nothing that passes is gone. -/
theorem filter_kept {kept all : List Entry} (sublist : kept.Sublist all) (distinct : all.Nodup) {test : Entry → Bool}
    (whole : ∀ entry ∈ all, test entry = true → entry ∈ kept) : kept.filter test = all.filter test := by
  refine (sublist.filter test).eq_of_length_le ?_
  refine (List.subperm_of_subset (distinct.filter test) fun entry listed => ?_).length_le
  obtain ⟨among,passes⟩ := List.mem_filter.mp listed
  exact List.mem_filter.mpr ⟨whole entry among passes,passes⟩

end Freshell.Library.Pages
