import Mathlib.Data.List.AList
import Mathlib.Algebra.GroupWithZero.Nat

/-!
Finite tables and the total of a measure over their values: what an insertion,
an erasure and a change of every value in place do to it.
-/
namespace Freshell.Library.Tables
universe u v w

abbrev Table (Key : Type u) (Value : Type v) := AList fun _ : Key => Value

section
variable {Key : Type u} {Value : Type v} (measure : Value → Nat)

def total (table : Table Key Value) : Nat := (table.entries.map fun entry => measure entry.2).sum

def mapValues (change : Key → Value → Value) (table : Table Key Value) : Table Key Value :=
  ⟨table.entries.map fun entry => ⟨entry.1,change entry.1 entry.2⟩,by
    simpa [List.NodupKeys,List.keys,Function.comp_def] using table.nodupKeys⟩

def retain (keep : Key → Value → Bool) (table : Table Key Value) : Table Key Value :=
  ⟨table.entries.filter fun entry => keep entry.1 entry.2,
    List.NodupKeys.sublist (List.filter_sublist) table.nodupKeys⟩

theorem isEmpty_iff {table : Table Key Value} : table.entries.isEmpty = true ↔ table = ∅ := by
  rw [List.isEmpty_iff]
  exact ⟨fun none => AList.ext none,fun empty => empty ▸ rfl⟩

/-- Emptiness is read off the entries, without comparing values. -/
instance decidableEmpty (table : Table Key Value) : Decidable (table = ∅) := decidable_of_iff _ isEmpty_iff

theorem length_eq_total (table : Table Key Value) : table.entries.length = total (fun _ => 1) table := by
  simp [total]

theorem total_add (first second : Value → Nat) (table : Table Key Value) :
    total (fun value => first value + second value) table = total first table + total second table := by
  unfold total
  induction table.entries with
  | nil => rfl
  | cons entry rest ih =>
    simp only [List.map_cons,List.sum_cons,ih]
    omega

theorem total_mapValues {change : Key → Value → Value} (same : ∀ key value, measure (change key value) = measure value)
    (table : Table Key Value) : total measure (mapValues change table) = total measure table := by
  simp [total,mapValues,Function.comp_def,same]

theorem mapValues_mapValues (second first : Key → Value → Value) (table : Table Key Value) :
    mapValues second (mapValues first table) = mapValues (fun key value => second key (first key value)) table := by
  apply AList.ext
  simp [mapValues,Function.comp_def]

@[simp] theorem mem_mapValues {change : Key → Value → Value} {table : Table Key Value} {key : Key} :
    key ∈ mapValues change table ↔ key ∈ table := by
  have keys : (mapValues change table).keys = table.keys := by
    simp [mapValues,AList.keys,List.keys,Function.comp_def]
  rw [AList.mem_keys,keys,← AList.mem_keys]

theorem nodup_filterMap_keys {Out : Type w} (pick : Key → Value → Option Out) (named : Out → Key)
    (names : ∀ key value out, pick key value = some out → named out = key) (table : Table Key Value) :
    ((table.entries.filterMap fun entry => pick entry.1 entry.2).map named).Nodup := by
  have sublist : ((table.entries.filterMap fun entry => pick entry.1 entry.2).map named).Sublist table.keys := by
    simp only [AList.keys,List.keys]
    induction table.entries with
    | nil => exact List.Sublist.slnil
    | cons entry rest ih =>
      rw [List.filterMap_cons]
      cases picked : pick entry.1 entry.2 with
      | none => exact ih.cons _
      | some out =>
        rw [List.map_cons,List.map_cons,names _ _ _ picked]
        exact ih.cons_cons _
  exact table.keys_nodup.sublist sublist

variable [DecidableEq Key] {table : Table Key Value} {key : Key} {value : Value}

theorem mapValues_insert (change : Key → Value → Value) (absent : key ∉ table) (value : Value) :
    mapValues change (table.insert key value) = (mapValues change table).insert key (change key value) := by
  have still : key ∉ mapValues change table := by rwa [mem_mapValues]
  apply AList.ext
  rw [AList.entries_insert_of_notMem still]
  simp only [mapValues]
  rw [AList.entries_insert_of_notMem absent]
  rfl

theorem filterMap_entry {Out : Type u} (pick : Value → Option Out) (table : Table Key Value) (key : Key) :
    (table.entries.filterMap fun entry => if entry.1 = key then pick entry.2 else none) =
      ((table.lookup key).bind pick).toList := by
  obtain ⟨entries,nodup⟩ := table
  show _ = ((List.dlookup key entries).bind pick).toList
  induction entries with
  | nil => rfl
  | cons entry rest ih =>
    obtain ⟨other,value⟩ := entry
    obtain ⟨absent,nodup⟩ := List.nodupKeys_cons.mp nodup
    by_cases same : other = key
    · subst same
      have none_ := ih nodup
      rw [List.dlookup_eq_none.mpr absent] at none_
      rw [List.dlookup_cons_eq]
      cases picked : pick value with
      | none => simpa [picked] using none_
      | some out => simpa [picked] using none_
    · have later : List.dlookup key ((⟨other,value⟩ : Sigma fun _ : Key => Value) :: rest) = List.dlookup key rest :=
        List.dlookup_cons_ne rest ⟨other,value⟩ (Ne.symm same)
      rw [later]
      simpa [same] using ih nodup

@[simp] theorem lookup_mapValues (change : Key → Value → Value) (table : Table Key Value) (key : Key) :
    (mapValues change table).lookup key = (table.lookup key).map (change key) := by
  simp only [mapValues,AList.lookup]
  exact List.dlookup_map₂ key

theorem lookup_retain (keep : Key → Value → Bool) (table : Table Key Value) (key : Key) :
    (retain keep table).lookup key = (table.lookup key).filter (keep key) := by
  ext value
  rw [← Option.mem_def,AList.mem_lookup_iff,Option.filter_eq_some_iff,← Option.mem_def,AList.mem_lookup_iff]
  exact List.mem_filter

theorem lookup_insert (table : Table Key Value) (key other : Key) (value : Value) :
    (table.insert key value).lookup other = if other = key then some value else table.lookup other := by
  split
  · next same => subst same; simp
  · next distinct => exact AList.lookup_insert_ne distinct

theorem lookup_erase (table : Table Key Value) (key other : Key) :
    (table.erase key).lookup other = if other = key then none else table.lookup other := by
  split
  · next same => subst same; simp
  · next distinct => exact AList.lookup_erase_ne distinct

theorem total_erase (found : table.lookup key = some value) :
    total measure (table.erase key) + measure value = total measure table := by
  have listed : key ∈ table.entries.keys := AList.lookup_isSome.mp (by rw [found]; rfl)
  obtain ⟨held,before,after,_,entries,erased⟩ := List.exists_of_kerase listed
  have same : held = value := by
    have entry : (⟨key,held⟩ : Sigma fun _ : Key => Value) ∈ table.entries := by
      rw [entries]
      simp
    exact Option.some.inj ((AList.mem_lookup_iff.mpr entry).symm.trans found)
  show ((List.kerase key table.entries).map _).sum + _ = _
  rw [erased,total,entries,same]
  simp only [List.map_append,List.map_cons,List.sum_append,List.sum_cons]
  omega

theorem total_erase_absent (absent : table.lookup key = none) : total measure (table.erase key) = total measure table := by
  have unlisted : key ∉ table.entries.keys := AList.lookup_eq_none.mp absent
  show ((List.kerase key table.entries).map _).sum = _
  rw [List.kerase_of_notMem_keys unlisted]
  rfl

theorem total_insert (table : Table Key Value) (key : Key) (value : Value) :
    total measure (table.insert key value) = measure value + total measure (table.erase key) := by
  show ((⟨key,value⟩ :: List.kerase key table.entries : List (Sigma fun _ : Key => Value)).map _).sum = _
  rw [List.map_cons,List.sum_cons]
  rfl

theorem total_insert_fresh (absent : table.lookup key = none) :
    total measure (table.insert key value) = measure value + total measure table := by
  rw [total_insert,total_erase_absent measure absent]

theorem total_insert_over {old : Value} (found : table.lookup key = some old) (value : Value) :
    total measure (table.insert key value) + measure old = measure value + total measure table := by
  rw [total_insert,Nat.add_assoc,total_erase measure found]

theorem measure_le_total (found : table.lookup key = some value) : measure value ≤ total measure table := by
  have whole := total_erase measure found
  omega

theorem total_congr {first second : Value → Nat} {table : Table Key Value}
    (same : ∀ key value, table.lookup key = some value → first value = second value) :
    total first table = total second table := by
  unfold total
  congr 1
  refine List.map_congr_left fun entry listed => same entry.1 entry.2 ?_
  exact AList.mem_lookup_iff.mpr listed

/-- Each entry of the first table measures nothing or no more than the second table's under its key. -/
theorem total_le_total {first second : Value → Nat} {part table : Table Key Value}
    (within_ : ∀ key value, part.lookup key = some value →
      first value = 0 ∨ ∃ whole, table.lookup key = some whole ∧ first value ≤ second whole) :
    total first part ≤ total second table := by
  induction part using AList.insertRec generalizing table with
  | H0 => exact Nat.zero_le _
  | IH key value rest absent ih =>
    have fresh : rest.lookup key = none := AList.lookup_eq_none.mpr absent
    rw [total_insert_fresh first fresh]
    have others : ∀ other held, rest.lookup other = some held →
        first held = 0 ∨ ∃ whole, (table.erase key).lookup other = some whole ∧ first held ≤ second whole := by
      intro other held found
      have apart : other ≠ key := by
        rintro rfl
        rw [fresh] at found
        cases found
      have bound := within_ other held (by rw [lookup_insert,if_neg apart,found])
      rw [lookup_erase,if_neg apart]
      exact bound
    have later := ih others
    obtain zero | ⟨whole,found,le⟩ := within_ key value (by rw [lookup_insert,if_pos rfl])
    · have erased : total second (table.erase key) ≤ total second table := by
        cases found : table.lookup key with
        | none => exact Nat.le_of_eq (total_erase_absent second found)
        | some whole =>
          have := total_erase second found
          omega
      omega
    · have := total_erase second found
      omega

theorem sum_map_le_of_sublist {Entry : Type u} {part list : List Entry} (weight : Entry → Nat) (sublist : part.Sublist list) :
    (part.map weight).sum ≤ (list.map weight).sum := by
  induction sublist with
  | slnil => exact Nat.le_refl _
  | cons entry _ ih =>
    simp only [List.map_cons,List.sum_cons]
    omega
  | cons_cons entry _ ih =>
    simp only [List.map_cons,List.sum_cons]
    omega

theorem sum_map_filter_ne_zero {Entry : Type u} (weight : Entry → Nat) (list : List Entry) :
    ((list.filter fun entry => weight entry != 0).map weight).sum = (list.map weight).sum := by
  induction list with
  | nil => rfl
  | cons entry rest ih =>
    by_cases zero : weight entry = 0
    · simp [zero,ih]
    · simp [zero,ih]

/-- A part of a table, with entries beside it that measure nothing, has at most its total. -/
theorem total_le_of_lookup {part : Table Key Value}
    (within_ : ∀ key value, part.lookup key = some value → table.lookup key = some value ∨ measure value = 0) :
    total measure part ≤ total measure table := by
  have subset : (part.entries.filter fun entry => measure entry.2 != 0) ⊆ table.entries := by
    rintro ⟨key,value⟩ listed
    obtain ⟨listed,measured⟩ := List.mem_filter.mp listed
    obtain found | zero := within_ key value (AList.mem_lookup_iff.mpr listed)
    · exact AList.mem_lookup_iff.mp found
    · simp [zero] at measured
  obtain ⟨list,same,sublist⟩ := List.subperm_of_subset (part.nodupKeys.nodup.filter _) subset
  calc total measure part
    _ = ((part.entries.filter fun entry => measure entry.2 != 0).map fun entry => measure entry.2).sum :=
        (sum_map_filter_ne_zero _ _).symm
    _ = (list.map fun entry => measure entry.2).sum := ((same.map _).sum_nat).symm
    _ ≤ total measure table := sum_map_le_of_sublist _ sublist

end
end Freshell.Library.Tables
