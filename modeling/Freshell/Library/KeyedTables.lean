import Mathlib.Data.List.Dedup
import Freshell.Library.Tables

/-!
Tables whose values carry their own key, so that no value is ever found under
another one's, and the order in which a table without an order hands out its keys.
-/
namespace Freshell.Library.Tables
universe u v

section
variable {Key : Type u} {Value : Type v} [DecidableEq Key]

/-- A table that holds every value under the key it carries. -/
structure KeyedTable (keyOf : Value → Key) where
  table : Table Key Value
  keyed : ∀ key value, table.lookup key = some value → keyOf value = key

namespace KeyedTable
variable {keyOf : Value → Key}

def lookup (rows : KeyedTable keyOf) (key : Key) : Option Value := rows.table.lookup key

def values (rows : KeyedTable keyOf) : List Value := rows.table.entries.map Sigma.snd

def empty : KeyedTable keyOf := ⟨∅,fun key value found => by simp at found⟩

instance : EmptyCollection (KeyedTable keyOf) := ⟨empty⟩

instance : Inhabited (KeyedTable keyOf) := ⟨empty⟩

def put (rows : KeyedTable keyOf) (value : Value) : KeyedTable keyOf where
  table := rows.table.insert (keyOf value) value
  keyed key held found := by
    rw [lookup_insert] at found
    split at found
    · next same => rw [← Option.some.inj found,same]
    · exact rows.keyed key held found

def drop (rows : KeyedTable keyOf) (key : Key) : KeyedTable keyOf where
  table := rows.table.erase key
  keyed other held found := by
    rw [lookup_erase] at found
    split at found
    · simp at found
    · exact rows.keyed other held found

def keep (rows : KeyedTable keyOf) (test : Value → Bool) : KeyedTable keyOf where
  table := retain (fun _ value => test value) rows.table
  keyed key held found := by
    rw [lookup_retain] at found
    exact rows.keyed key held (Option.filter_eq_some_iff.mp found).1

theorem key_of_lookup {rows : KeyedTable keyOf} {key : Key} {value : Value} (found : rows.lookup key = some value) :
    keyOf value = key := rows.keyed key value found

theorem lookup_own {rows : KeyedTable keyOf} {key : Key} {value : Value} (found : rows.lookup key = some value) :
    rows.lookup (keyOf value) = some value := by
  rw [key_of_lookup found]
  exact found

@[simp] theorem lookup_empty (key : Key) : (∅ : KeyedTable keyOf).lookup key = none := rfl

@[simp] theorem lookup_put (rows : KeyedTable keyOf) (value : Value) (key : Key) :
    (rows.put value).lookup key = if key = keyOf value then some value else rows.lookup key := lookup_insert _ _ _ _

@[simp] theorem lookup_drop (rows : KeyedTable keyOf) (key other : Key) :
    (rows.drop key).lookup other = if other = key then none else rows.lookup other := lookup_erase _ _ _

theorem lookup_put_self (rows : KeyedTable keyOf) (value : Value) :
    (rows.put value).lookup (keyOf value) = some value := by simp

theorem mem_values {rows : KeyedTable keyOf} {value : Value} :
    value ∈ rows.values ↔ rows.lookup (keyOf value) = some value := by
  constructor
  · intro listed
    obtain ⟨⟨key,held⟩,entry,rfl⟩ := List.mem_map.mp listed
    have found : rows.lookup key = some held := AList.mem_lookup_iff.mpr entry
    rw [key_of_lookup found,found]
  · intro found
    exact List.mem_map.mpr ⟨⟨keyOf value,value⟩,AList.mem_lookup_iff.mp found,rfl⟩

end KeyedTable

/-- The keys of a table, those that `first` names ahead of the others: as `first` varies,
    every order that a hash table may hand them out in. -/
def arranged (first : List Key) (table : Table Key Value) : List Key :=
  (first.dedup.filter fun key => (table.lookup key).isSome) ++ table.keys.filter fun key => key ∉ first

theorem mem_arranged {first : List Key} {table : Table Key Value} {key : Key} :
    key ∈ arranged first table ↔ (table.lookup key).isSome = true := by
  have listed : key ∈ table.keys ↔ (table.lookup key).isSome = true := by
    rw [AList.lookup_isSome]
    exact AList.mem_keys
  by_cases named : key ∈ first
  · simp [arranged,named]
  · simp [arranged,named,listed]

theorem nodup_arranged (first : List Key) (table : Table Key Value) : (arranged first table).Nodup := by
  unfold arranged
  refine List.Nodup.append (first.nodup_dedup.filter _) (table.nodupKeys.filter _) ?_
  intro key named other
  simp only [List.mem_filter,List.mem_dedup] at named
  simp [named.1] at other

def listed (first : List Key) (table : Table Key Value) : List (Key × Value) :=
  (arranged first table).filterMap fun key => (table.lookup key).map fun value => (key,value)

theorem mem_listed {first : List Key} {table : Table Key Value} {key : Key} {value : Value} :
    (key,value) ∈ listed first table ↔ table.lookup key = some value := by
  simp only [listed,List.mem_filterMap,mem_arranged,Option.map_eq_some_iff,Prod.mk.injEq]
  constructor
  · rintro ⟨other,_,held,found,rfl,rfl⟩
    exact found
  · intro found
    exact ⟨key,by rw [found]; rfl,value,found,rfl,rfl⟩

theorem nodup_listed (first : List Key) (table : Table Key Value) : ((listed first table).map Prod.fst).Nodup := by
  have sublist : ∀ keys : List Key,
      ((keys.filterMap fun key => (table.lookup key).map fun value => (key,value)).map Prod.fst).Sublist keys := by
    intro keys
    induction keys with
    | nil => exact .slnil
    | cons key rest ih =>
      cases found : table.lookup key with
      | none => simpa [found] using ih.cons key
      | some value => simpa [found] using ih
  exact (sublist _).nodup (nodup_arranged first table)

theorem lookup_enter_other {entries : List (Key × Value)} {key : Key} (absent : ∀ entry ∈ entries, entry.1 ≠ key)
    (table : Table Key Value) :
    (entries.foldl (fun table entry => table.insert entry.1 entry.2) table).lookup key = table.lookup key := by
  induction entries generalizing table with
  | nil => rfl
  | cons entry rest ih =>
    rw [List.foldl_cons,ih fun other listed => absent other (List.mem_cons_of_mem _ listed),lookup_insert,
      if_neg (Ne.symm (absent entry List.mem_cons_self))]

theorem lookup_enter {entries : List (Key × Value)} (distinct : (entries.map Prod.fst).Nodup) {key : Key}
    {value : Value} (listed : (key,value) ∈ entries) (table : Table Key Value) :
    (entries.foldl (fun table entry => table.insert entry.1 entry.2) table).lookup key = some value := by
  induction entries generalizing table with
  | nil => simp at listed
  | cons entry rest ih =>
    rw [List.map_cons,List.nodup_cons] at distinct
    rw [List.foldl_cons]
    obtain rfl | listed := List.mem_cons.mp listed
    · rw [lookup_enter_other,lookup_insert,if_pos rfl]
      intro other member same
      exact distinct.1 (List.mem_map.mpr ⟨other,member,same⟩)
    · exact ih distinct.2 listed _

theorem origin_of_enter {entries : List (Key × Value)} {table : Table Key Value} {key : Key} {value : Value}
    (found : (entries.foldl (fun table entry => table.insert entry.1 entry.2) table).lookup key = some value) :
    (key,value) ∈ entries ∨ table.lookup key = some value := by
  induction entries generalizing table with
  | nil => exact .inr found
  | cons entry rest ih =>
    obtain later | before := ih found
    · exact .inl (List.mem_cons_of_mem _ later)
    · rw [lookup_insert] at before
      split at before
      · next same =>
        refine .inl (List.mem_cons.mpr (.inl ?_))
        rw [same,← Option.some.inj before]
      · exact .inr before

end
end Freshell.Library.Tables
