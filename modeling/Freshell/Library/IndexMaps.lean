import Mathlib.Data.List.Nodup

/-!
Maps that hand out their entries in the order in which the keys were first put in.
A value that is put in again goes to the place of its key, a removal closes the gap.
-/
namespace Freshell.Library.IndexMaps
universe u v

structure IndexMap (Key : Type u) (Value : Type v) where
  entries : List (Key × Value)
  nodup : (entries.map Prod.fst).Nodup

namespace IndexMap
variable {Key : Type u} {Value : Type v}

def empty : IndexMap Key Value := ⟨[],List.nodup_nil⟩

def size (m : IndexMap Key Value) : Nat := m.entries.length

def keys (m : IndexMap Key Value) : List Key := m.entries.map Prod.fst

def retain (m : IndexMap Key Value) (test : Key → Bool) : IndexMap Key Value :=
  ⟨m.entries.filter fun entry => test entry.1,m.nodup.sublist (List.filter_sublist.map Prod.fst)⟩

def shiftRemoveFirst (m : IndexMap Key Value) : IndexMap Key Value :=
  ⟨m.entries.tail,m.nodup.sublist ((List.tail_sublist _).map Prod.fst)⟩

theorem size_retain_le (m : IndexMap Key Value) (test : Key → Bool) : (m.retain test).size ≤ m.size :=
  List.length_filter_le _ _

theorem keys_retain {m : IndexMap Key Value} {test : Key → Bool} : (m.retain test).keys ⊆ m.keys :=
  List.map_subset _ (List.filter_subset_self m.entries)

theorem keys_shiftRemoveFirst {m : IndexMap Key Value} : m.shiftRemoveFirst.keys ⊆ m.keys :=
  List.map_subset _ (List.tail_sublist _).subset

variable [DecidableEq Key]

def get (m : IndexMap Key Value) (key : Key) : Option Value := (m.entries.find? (·.1 = key)).map Prod.snd

def replaced (key : Key) (value : Value) (entry : Key × Value) : Key × Value :=
  if entry.1 = key then (key,value) else entry

theorem keys_replaced (key : Key) (value : Value) (entries : List (Key × Value)) :
    (entries.map (replaced key value)).map Prod.fst = entries.map Prod.fst := by
  rw [List.map_map]
  apply List.map_congr_left
  intro entry _
  simp only [Function.comp_apply,replaced]
  split_ifs with same
  · exact same.symm
  · rfl

def insert (m : IndexMap Key Value) (key : Key) (value : Value) : IndexMap Key Value :=
  if listed : key ∈ m.entries.map Prod.fst then
    ⟨m.entries.map (replaced key value),by
      rw [keys_replaced]
      exact m.nodup⟩
  else
    ⟨m.entries ++ [(key,value)],by
      rw [List.map_append,List.map_singleton]
      exact List.nodup_append.mpr ⟨m.nodup,by simp,by
        rintro a old b new rfl
        rw [List.mem_singleton.mp new] at old
        exact listed old⟩⟩

def shiftRemove (m : IndexMap Key Value) (key : Key) : IndexMap Key Value := m.retain (· ≠ key)

theorem get_eq_some_iff {m : IndexMap Key Value} {key : Key} {value : Value} :
    m.get key = some value ↔ (key,value) ∈ m.entries := by
  unfold get
  rw [Option.map_eq_some_iff]
  constructor
  · rintro ⟨entry,found,rfl⟩
    have same : entry.1 = key := by simpa using List.find?_some found
    rw [← same]
    exact List.mem_of_find?_eq_some found
  · intro listed
    cases found : m.entries.find? (·.1 = key) with
    | none => exact absurd (by simp) (List.find?_eq_none.mp found _ listed)
    | some entry =>
      have same : entry.1 = key := by simpa using List.find?_some found
      exact ⟨entry,rfl,congrArg Prod.snd (List.inj_on_of_nodup_map m.nodup (List.mem_of_find?_eq_some found) listed same)⟩

theorem entries_insert_new {m : IndexMap Key Value} {key : Key} (fresh : key ∉ m.keys) (value : Value) :
    (m.insert key value).entries = m.entries ++ [(key,value)] := by
  unfold insert
  split_ifs with listed
  · exact absurd listed fresh
  · rfl

theorem mem_keys_insert {m : IndexMap Key Value} {key other : Key} {value : Value}
    (listed : other ∈ (m.insert key value).keys) : other = key ∨ other ∈ m.keys := by
  unfold insert at listed
  split_ifs at listed with present
  · rw [keys,keys_replaced] at listed
    exact .inr listed
  · simpa [keys,or_comm] using listed

theorem size_insert_old {m : IndexMap Key Value} {key : Key} (present : key ∈ m.keys) (value : Value) :
    (m.insert key value).size = m.size := by
  unfold insert size
  split_ifs with listed
  · rw [List.length_map]
  · exact absurd present listed

theorem size_insert_le (m : IndexMap Key Value) (key : Key) (value : Value) : (m.insert key value).size ≤ m.size + 1 := by
  unfold insert size
  split_ifs <;> simp

end IndexMap
end Freshell.Library.IndexMaps
