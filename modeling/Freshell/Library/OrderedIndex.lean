import Mathlib.Data.List.Induction
import Mathlib.Data.List.Sort
import Mathlib.Algebra.GroupWithZero.Nat

/-!
Lists of items kept in the order of a key, one item a key: the ordered map that
items go into one by one, each over the item of the same key. A list that is in
order already is the index of any list of the same items.
-/
namespace Freshell.Library.OrderedIndex
universe u v

section
variable {Item : Type u} {Key : Type v} [LinearOrder Key] (key : Item → Key)

/-- The item goes to the place of its key, over the item that has the place. -/
def insertByKey (item : Item) : List Item → List Item
  | [] => [item]
  | first :: rest =>
    if key item < key first then item :: first :: rest
    else if key item = key first then item :: rest
    else first :: insertByKey item rest

@[simp] theorem insertByKey_nil (item : Item) : insertByKey key item [] = [item] := rfl

theorem insertByKey_cons (item first : Item) (rest : List Item) : insertByKey key item (first :: rest) =
    if key item < key first then item :: first :: rest
    else if key item = key first then item :: rest
    else first :: insertByKey key item rest := rfl

def indexByKey (items : List Item) : List Item :=
  items.foldl (fun index item => insertByKey key item index) []

/-- The items whose key is `low` or above. -/
def atLeast (low : Key) (items : List Item) : List Item := items.filter fun item => decide (low ≤ key item)

def InOrder (items : List Item) : Prop := items.Pairwise fun earlier later => key earlier < key later

variable {key}

theorem InOrder.key_injective {items : List Item} (order : InOrder key items) {a b : Item} (ha : a ∈ items)
    (hb : b ∈ items) (same : key a = key b) : a = b := by
  induction items with
  | nil => cases ha
  | cons first rest ih =>
    obtain ⟨below,order⟩ := List.pairwise_cons.mp order
    rcases List.mem_cons.mp ha with rfl | later
    · rcases List.mem_cons.mp hb with rfl | laterB
      · rfl
      · exact absurd same (ne_of_lt (below b laterB))
    · rcases List.mem_cons.mp hb with rfl | laterB
      · exact absurd same.symm (ne_of_lt (below a later))
      · exact ih order later laterB

theorem InOrder.suffix {items later : List Item} (order : InOrder key items) (isSuffix : later <:+ items) :
    InOrder key later :=
  List.Pairwise.sublist isSuffix.sublist order

theorem mem_insertByKey_of {item other : Item} {items : List Item} (h : other ∈ insertByKey key item items) :
    other = item ∨ other ∈ items := by
  induction items with
  | nil => simpa using h
  | cons first rest ih =>
    rw [insertByKey_cons] at h
    split at h
    · simpa using h
    · split at h
      · rcases List.mem_cons.mp h with rfl | h
        · exact .inl rfl
        · exact .inr (List.mem_cons_of_mem _ h)
      · rcases List.mem_cons.mp h with rfl | h
        · exact .inr List.mem_cons_self
        · exact (ih h).imp_right (List.mem_cons_of_mem _)

theorem mem_insertByKey_self (item : Item) (items : List Item) : item ∈ insertByKey key item items := by
  induction items with
  | nil => simp
  | cons first rest ih =>
    rw [insertByKey_cons]
    split
    · exact List.mem_cons_self
    · split
      · exact List.mem_cons_self
      · exact List.mem_cons_of_mem _ ih

theorem mem_insertByKey_of_ne {item other : Item} {items : List Item} (mem : other ∈ items)
    (apart : key other ≠ key item) : other ∈ insertByKey key item items := by
  induction items with
  | nil => cases mem
  | cons first rest ih =>
    rw [insertByKey_cons]
    split
    · exact List.mem_cons_of_mem _ mem
    · split
      next same =>
        rcases List.mem_cons.mp mem with rfl | mem
        · exact absurd same.symm apart
        · exact List.mem_cons_of_mem _ mem
      next =>
        rcases List.mem_cons.mp mem with rfl | mem
        · exact List.mem_cons_self
        · exact List.mem_cons_of_mem _ (ih mem)

theorem inOrder_insertByKey {item : Item} {items : List Item} (order : InOrder key items) :
    InOrder key (insertByKey key item items) := by
  induction items with
  | nil => exact List.pairwise_singleton _ _
  | cons first rest ih =>
    obtain ⟨below,later⟩ := List.pairwise_cons.mp order
    rw [insertByKey_cons]
    split
    next low =>
      refine List.pairwise_cons.mpr ⟨?_,order⟩
      intro other mem
      rcases List.mem_cons.mp mem with rfl | mem
      · exact low
      · exact low.trans (below other mem)
    next high =>
      split
      next same => exact List.pairwise_cons.mpr ⟨fun other mem => same ▸ below other mem,later⟩
      next apart =>
        refine List.pairwise_cons.mpr ⟨?_,ih later⟩
        intro other mem
        rcases mem_insertByKey_of mem with rfl | mem
        · exact lt_of_le_of_ne (not_lt.mp high) (Ne.symm apart)
        · exact below other mem

theorem indexByKey_concat (items : List Item) (item : Item) :
    indexByKey key (items ++ [item]) = insertByKey key item (indexByKey key items) := by
  simp [indexByKey]

theorem inOrder_indexByKey (items : List Item) : InOrder key (indexByKey key items) := by
  induction items using List.reverseRecOn with
  | nil => exact List.Pairwise.nil
  | append_singleton items item ih =>
    rw [indexByKey_concat]
    exact inOrder_insertByKey ih

theorem mem_of_mem_indexByKey {items : List Item} {item : Item} (h : item ∈ indexByKey key items) : item ∈ items := by
  induction items using List.reverseRecOn with
  | nil => simp [indexByKey] at h
  | append_singleton items last ih =>
    rw [indexByKey_concat] at h
    rcases mem_insertByKey_of h with rfl | h
    · simp
    · simp [ih h]

theorem exists_mem_indexByKey {items : List Item} {item : Item} (mem : item ∈ items) :
    ∃ kept ∈ indexByKey key items, key kept = key item := by
  induction items using List.reverseRecOn with
  | nil => cases mem
  | append_singleton items last ih =>
    rw [indexByKey_concat]
    by_cases same : key item = key last
    · exact ⟨last,mem_insertByKey_self last _,same.symm⟩
    · have earlier : item ∈ items := by
        rcases List.mem_append.mp mem with earlier | isLast
        · exact earlier
        · exact absurd (congrArg key (List.mem_singleton.mp isLast)) same
      obtain ⟨kept,inIndex,sameKey⟩ := ih earlier
      exact ⟨kept,mem_insertByKey_of_ne inIndex (sameKey ▸ same),sameKey⟩

theorem indexByKey_eq {items ordered : List Item} (order : InOrder key ordered)
    (same : ∀ item, item ∈ items ↔ item ∈ ordered) : indexByKey key items = ordered := by
  have : Std.Irrefl fun a b : Item => key a < key b := ⟨fun a => lt_irrefl (key a)⟩
  have : Std.Asymm fun a b : Item => key a < key b := ⟨fun a b h => lt_asymm h⟩
  refine List.Pairwise.eq_of_mem_iff (inOrder_indexByKey items) order fun item => ⟨?_,?_⟩
  · intro mem
    exact (same item).mp (mem_of_mem_indexByKey mem)
  · intro mem
    obtain ⟨kept,inIndex,sameKey⟩ : ∃ kept ∈ indexByKey key items, key kept = key item :=
      exists_mem_indexByKey ((same item).mpr mem)
    have keptHere := (same kept).mp (mem_of_mem_indexByKey inIndex)
    exact order.key_injective keptHere mem sameKey ▸ inIndex

theorem indexByKey_suffixes {items first second : List Item} (order : InOrder key items) (one : first <:+ items)
    (other : second <:+ items) :
    indexByKey key (first ++ second) <:+ items ∧
      ∀ item, item ∈ indexByKey key (first ++ second) ↔ item ∈ first ∨ item ∈ second := by
  rcases List.suffix_or_suffix_of_suffix one other with inner | inner
  · have same : ∀ item, item ∈ first ++ second ↔ item ∈ second := by
      intro item
      simpa using fun mem => inner.mem mem
    rw [indexByKey_eq (order.suffix other) same]
    exact ⟨other,fun item => by simpa using (same item).symm⟩
  · have same : ∀ item, item ∈ first ++ second ↔ item ∈ first := by
      intro item
      simpa using fun mem => inner.mem mem
    rw [indexByKey_eq (order.suffix one) same]
    exact ⟨one,fun item => by simpa using (same item).symm⟩

theorem atLeast_append {low : Key} {seen rest : List Item} (below : ∀ item ∈ seen, key item < low)
    (above : ∀ item ∈ rest, low ≤ key item) : atLeast key low (seen ++ rest) = rest := by
  have none : seen.filter (fun item => decide (low ≤ key item)) = [] := by
    simpa [List.filter_eq_nil_iff] using below
  have all : rest.filter (fun item => decide (low ≤ key item)) = rest := by
    simpa [List.filter_eq_self] using above
  rw [atLeast,List.filter_append,none,all,List.nil_append]

end
end Freshell.Library.OrderedIndex
