import Mathlib.Data.List.MinMax
import Mathlib.Data.List.Sort
import Mathlib.Algebra.GroupWithZero.Nat

/-!
Transactions on a state of row tables. The body of a transaction reads its
tables, may fail at any check, and then leaves the state as it was. A statement
on a table changes the rows that a test picks (`updateWhere`), and a query for
one row of an order is the row with the largest key (`latest`).
-/
namespace Freshell.Library.Transactions
universe u v w

section
variable {Error : Type u} {Value : Type v} {Result : Type v}

/-- The body goes on only where the condition holds. -/
def ensure (condition : Prop) [Decidable condition] (error : Error) : Except Error PUnit :=
  if condition then .ok ⟨⟩ else .error error

/-- The body goes on only with a value that was found. -/
def found (value : Option Value) (error : Error) : Except Error Value :=
  match value with
  | some value => .ok value
  | none => .error error

@[simp] theorem bind_eq_ok {body : Except Error Value} {next : Value → Except Error Result} {result : Result} :
    (body >>= next) = .ok result ↔ ∃ value, body = .ok value ∧ next value = .ok result := by
  cases body with
  | error error => simp [bind,Except.bind]
  | ok value => simp [bind,Except.bind]

@[simp] theorem map_eq_ok {body : Except Error Value} {change : Value → Result} {result : Result} :
    change <$> body = .ok result ↔ ∃ value, body = .ok value ∧ change value = result := by
  cases body with
  | error error => simp [Functor.map,Except.map]
  | ok value => simp [Functor.map,Except.map]

@[simp] theorem ensure_eq_ok {condition : Prop} [Decidable condition] {error : Error} {passed : PUnit} :
    ensure condition error = .ok passed ↔ condition := by
  simp only [ensure]
  split <;> simp_all

@[simp] theorem found_eq_ok {value : Option Value} {error : Error} {result : Value} :
    found value error = .ok result ↔ value = some result := by
  cases value <;> simp [found]

@[simp] theorem pure_eq_ok {value result : Value} : (pure value : Except Error Value) = .ok result ↔ value = result := by
  simp [pure,Except.pure]
end

section
variable {State : Type u} {Error : Type v} {Answer : Type u} (body : State → Except Error (Answer × State))

/-- The state after a transaction: the one it commits, or the old one where it fails. -/
def committed (state : State) : State :=
  match body state with
  | .ok (_,after) => after
  | .error _ => state

variable {body}

theorem committed_of_ok {state after : State} {answer : Answer} (done : body state = .ok (answer,after)) :
    committed body state = after := by
  simp [committed,done]

theorem committed_of_error {state : State} {error : Error} (failed : body state = .error error) :
    committed body state = state := by
  simp [committed,failed]

theorem committed_induction {holds : State → Prop} {state : State} (before : holds state)
    (commits : ∀ answer after, body state = .ok (answer,after) → holds after) : holds (committed body state) := by
  cases done : body state with
  | ok result =>
    obtain ⟨answer,after⟩ := result
    rw [committed_of_ok done]
    exact commits answer after done
  | error error =>
    rw [committed_of_error done]
    exact before
end

section
variable {Row : Type u} {Key : Type v}

/-- The rows that a test picks are changed, the others stay. -/
def updateWhere (test : Row → Bool) (change : Row → Row) (rows : List Row) : List Row :=
  rows.map fun row => if test row then change row else row

theorem mem_updateWhere {test : Row → Bool} {change : Row → Row} {rows : List Row} {row : Row} :
    row ∈ updateWhere test change rows ↔
      ∃ old ∈ rows, (test old = true ∧ row = change old) ∨ (test old = false ∧ row = old) := by
  simp only [updateWhere,List.mem_map]
  constructor
  · rintro ⟨old,listed,rfl⟩
    cases picked : test old with
    | true => exact ⟨old,listed,.inl ⟨picked,by simp⟩⟩
    | false => exact ⟨old,listed,.inr ⟨picked,by simp⟩⟩
  · rintro ⟨old,listed,⟨picked,rfl⟩ | ⟨picked,rfl⟩⟩
    · exact ⟨old,listed,by simp [picked]⟩
    · exact ⟨row,listed,by simp [picked]⟩

theorem map_updateWhere {test : Row → Bool} {change : Row → Row} {key : Row → Key}
    (same : ∀ row, key (change row) = key row) (rows : List Row) :
    (updateWhere test change rows).map key = rows.map key := by
  induction rows with
  | nil => rfl
  | cons row rest ih =>
    simp only [updateWhere,List.map_cons,List.cons.injEq] at ih ⊢
    constructor
    · split
      · exact same row
      · rfl
    · exact ih

theorem find_updateWhere [DecidableEq Key] {test : Row → Bool} {change : Row → Row} {key : Row → Key}
    (same : ∀ row, test row = true → key (change row) = key row) (wanted : Key) (rows : List Row) :
    (updateWhere test change rows).find? (key · == wanted) =
      (rows.find? (key · == wanted)).map fun row => if test row then change row else row := by
  induction rows with
  | nil => rfl
  | cons row rest ih =>
    have kept : key (if test row then change row else row) = key row := by
      split
      · next picked => exact same row picked
      · rfl
    simp only [updateWhere,List.map_cons] at ih ⊢
    by_cases found : key row = wanted
    · rw [List.find?_cons_of_pos (by simp [kept,found]),List.find?_cons_of_pos (by simp [found])]
      rfl
    · rw [List.find?_cons_of_neg (by simp [kept,found]),List.find?_cons_of_neg (by simp [found]),ih]

theorem of_find_key [DecidableEq Key] {key : Row → Key} {wanted : Key} {rows : List Row} {row : Row}
    (found : rows.find? (key · == wanted) = some row) : row ∈ rows ∧ key row = wanted := by
  have named := List.find?_some found
  exact ⟨List.mem_of_find?_eq_some found,by simpa using named⟩

theorem find_key_eq_none [DecidableEq Key] {key : Row → Key} {wanted : Key} {rows : List Row} :
    rows.find? (key · == wanted) = none ↔ ∀ row ∈ rows, key row ≠ wanted := by
  simp [List.find?_eq_none]

theorem find_key_of_mem [DecidableEq Key] {key : Row → Key} {rows : List Row} (distinct : (rows.map key).Nodup)
    {row : Row} (listed : row ∈ rows) : rows.find? (key · == key row) = some row := by
  induction rows with
  | nil => simp at listed
  | cons head rest ih =>
    simp only [List.map_cons,List.nodup_cons] at distinct
    rcases List.mem_cons.mp listed with rfl | later
    · exact List.find?_cons_of_pos (by simp)
    · have different : key head ≠ key row := fun same =>
        distinct.1 (same ▸ List.mem_map_of_mem later)
      rw [List.find?_cons_of_neg (by simpa using different)]
      exact ih distinct.2 later

def latest (key : Row → Nat) (rows : List Row) : Option Row := rows.argmax key

theorem latest_mem {key : Row → Nat} {rows : List Row} {row : Row} (picked : latest key rows = some row) :
    row ∈ rows := List.argmax_mem picked

theorem latest_eq_none {key : Row → Nat} {rows : List Row} : latest key rows = none ↔ rows = [] :=
  List.argmax_eq_none

/-- The rows that a test picks from a page of an ordered query are the first of those that the
    table has, where the table has them in that order. -/
theorem filter_page {earlier : Row → Row → Prop} [DecidableRel earlier] {test : Row → Bool} {rows : List Row}
    (ordered : (rows.filter test).Pairwise earlier) (limit : Nat) :
    ((rows.insertionSort earlier).take limit).filter test <+: rows.filter test := by
  have picked : (rows.filter test).Sublist ((rows.insertionSort earlier).filter test) := by
    have sublist := (List.sublist_insertionSort ordered List.filter_sublist).filter test
    simpa only [List.filter_filter,Bool.and_self] using sublist
  have all : (rows.insertionSort earlier).filter test = rows.filter test :=
    (picked.eq_of_length ((List.perm_insertionSort earlier rows).filter test).length_eq.symm).symm
  rw [← all]
  exact (List.take_prefix _ _).filter test
end
end Freshell.Library.Transactions
