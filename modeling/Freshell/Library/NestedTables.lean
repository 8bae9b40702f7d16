import Freshell.Library.Tables

/-!
Tables of tables, read and written one inner entry at a time.
-/
namespace Freshell.Library.Tables
universe u v w

section
variable {Key : Type u} {Sub : Type v} {Value : Type w} [DecidableEq Key]

abbrev NestedTable (Key : Type u) (Sub : Type v) (Value : Type w) := Table Key (Table Sub Value)

/-- The table under a key, empty where there is none. -/
def tableAt (tables : NestedTable Key Sub Value) (key : Key) : Table Sub Value := (tables.lookup key).getD ∅

theorem tableAt_insert (tables : NestedTable Key Sub Value) (key other : Key) (table : Table Sub Value) :
    tableAt (tables.insert key table) other = if other = key then table else tableAt tables other := by
  unfold tableAt
  rw [lookup_insert]
  split
  · rfl
  · rfl

variable [DecidableEq Sub]

def find (tables : NestedTable Key Sub Value) (key : Key) (sub : Sub) : Option Value := (tableAt tables key).lookup sub

def enter (tables : NestedTable Key Sub Value) (key : Key) (sub : Sub) (value : Value) : NestedTable Key Sub Value :=
  tables.insert key ((tableAt tables key).insert sub value)

def strike (tables : NestedTable Key Sub Value) (key : Key) (sub : Sub) : NestedTable Key Sub Value :=
  tables.insert key ((tableAt tables key).erase sub)

def assign (table : Table Sub Value) (sub : Sub) : Option Value → Table Sub Value
  | some value => table.insert sub value
  | none => table.erase sub

@[simp] theorem lookup_assign (table : Table Sub Value) (sub other : Sub) (value : Option Value) :
    (assign table sub value).lookup other = if other = sub then value else table.lookup other := by
  cases value with
  | none => exact lookup_erase _ _ _
  | some value => exact lookup_insert _ _ _ _

theorem lookup_singleton (sub other : Sub) (value : Value) :
    (AList.singleton sub value : Table Sub Value).lookup other = if other = sub then some value else none := by
  rw [← AList.insert_empty,lookup_insert,AList.lookup_empty]

@[simp] theorem find_empty (key : Key) (sub : Sub) : find (∅ : NestedTable Key Sub Value) key sub = none := rfl

@[simp] theorem find_insert (tables : NestedTable Key Sub Value) (key other : Key) (table : Table Sub Value) (sub : Sub) :
    find (tables.insert key table) other sub = if other = key then table.lookup sub else find tables other sub := by
  unfold find
  rw [tableAt_insert]
  split
  · rfl
  · rfl

@[simp] theorem find_erase (tables : NestedTable Key Sub Value) (key other : Key) (sub : Sub) :
    find (tables.erase key) other sub = if other = key then none else find tables other sub := by
  unfold find tableAt
  rw [lookup_erase]
  split
  · rfl
  · rfl

@[simp] theorem find_enter (tables : NestedTable Key Sub Value) (key other : Key) (sub name : Sub) (value : Value) :
    find (enter tables key sub value) other name =
      if other = key ∧ name = sub then some value else find tables other name := by
  unfold enter
  rw [find_insert,lookup_insert]
  by_cases at_ : other = key
  · subst at_
    simp [find]
  · simp [at_]

@[simp] theorem find_strike (tables : NestedTable Key Sub Value) (key other : Key) (sub name : Sub) :
    find (strike tables key sub) other name = if other = key ∧ name = sub then none else find tables other name := by
  unfold strike
  rw [find_insert,lookup_erase]
  by_cases at_ : other = key
  · subst at_
    simp [find]
  · simp [at_]

end
end Freshell.Library.Tables
