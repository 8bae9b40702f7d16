import Freshell.PaneLedger.FileSteps
import Freshell.Library.Forests

/-!
The links from superseded rows to the rows that took their place, the lookup that follows
them, and which calls make an identity known, bound or unknown.
-/
namespace Freshell.PaneLedger
open Freshell.Library.Tables Freshell.Library.Drives Freshell.Library.Forests Freshell.Library.Runs Relation

variable {Payload : Type}

structure Resolution where
  row : BindingRow
  corrected : Bool

def SessionLocator.key (next : SessionLocator) : SessionKey := (next.provider,next.sessionId)

abbrev Bindings := KeyedTable BindingRow.key

namespace Bindings

/-- Only a retired row is left for its successor, and only for one that stands. -/
def follow (rows : Bindings) : Nat → BindingRow → Bool → Option Resolution
  | hops, row, corrected =>
    match if row.state = .retired then row.supersededBy else none with
    | none => some ⟨row,corrected⟩
    | some next =>
      match hops with
      | 0 => none
      | hops+1 =>
        match rows.lookup next.key with
        | none => some ⟨row,corrected⟩
        | some row => follow rows hops row true

def lookupBySession (rows : Bindings) (provider sessionId : String) : Option Resolution := do
  follow rows 32 (← rows.lookup (provider,sessionId)) false

def everBound (rows : Bindings) (key : SessionKey) : Bool := (rows.lookup key).isSome

def successor (rows : Bindings) (key : SessionKey) : Option SessionKey :=
  (rows.lookup key).bind fun row => row.supersededBy.map (·.key)

/-- What a walk of so many links finds: the end of the chain, where it is not longer. -/
def Leads (rows : Bindings) (hops : Nat) (start : SessionKey) (corrected : Bool) : Option Resolution → Prop
  | some result =>
    ReflTransGen (Points (successor rows)) start result.row.key ∧ rows.lookup result.row.key = some result.row ∧
      (∀ next, successor rows result.row.key = some next → rows.lookup next = none) ∧
        (result.corrected = true ↔ corrected = true ∨ result.row.key ≠ start)
  | none => (· >>= successor rows)^[hops + 1] (some start) ≠ none

end Bindings

/-- A row with a link was superseded, and nothing else was done to it since. -/
def BindingRow.Linked (row : BindingRow) : Prop :=
  row.supersededBy = none ∨ row.state = .retired ∧ row.retiredReason = some .superseded

variable {start before after : Ledger Payload} {op : LedgerOp Payload} {rows : Bindings} {old row : BindingRow}

theorem BindingRow.Linked.free (linked : row.Linked) (bound : row.state = .bound) : row.supersededBy = none :=
  linked.resolve_right fun retired => by simp [bound] at retired

theorem RowChange.link (change : RowChange start op before old row) (linked : old.Linked) :
    row.Linked ∧ (row.supersededBy = old.supersededBy ∨ ∃ winner nowMs, row = old.supersede winner.locator nowMs ∧
      before.index.bindings.lookup winner.key = some winner ∧ winner.state = .bound ∧ winner.key ≠ old.key) := by
  cases change with
  | superseded winner nowMs links wins bound other =>
    exact ⟨.inr ⟨rfl,rfl⟩,.inr ⟨winner,nowMs,rfl,wins,bound,other⟩⟩
  | stamped => exact ⟨linked,.inl rfl⟩
  | revived _ _ _ _ _ _ _ closed =>
    have free : old.supersededBy = none := linked.resolve_right fun superseded => by simp [closed.2] at superseded
    exact ⟨.inl free,.inl rfl⟩
  | _ => exact ⟨.inl (linked.free ‹_›),.inl rfl⟩

namespace Bindings

structure Chained (rows : Bindings) : Prop where
  forest : Forest (successor rows)
  linked : ∀ key row, rows.lookup key = some row → row.Linked

theorem successor_of_found (found : rows.lookup old.key = some old) :
    successor rows old.key = old.supersededBy.map (·.key) := by
  simp only [successor,found,Option.bind_some]

theorem Chained.put (chained : Chained rows) (linked : row.Linked)
    (forest : Forest (Function.update (successor rows) row.key (row.supersededBy.map (·.key)))) :
    Chained (rows.put row) where
  forest := by
    convert forest using 1
    funext key
    simp only [successor,KeyedTable.lookup_put,Function.update_apply]
    split <;> rfl
  linked key other found := by
    rw [KeyedTable.lookup_put] at found
    split at found
    · exact Option.some.inj found ▸ linked
    · exact chained.linked key other found

theorem Chained.drop (chained : Chained rows) (gone : SessionKey) : Chained (rows.drop gone) where
  forest := by
    convert chained.forest.cut gone using 1
    funext key
    simp only [successor,KeyedTable.lookup_drop,Function.update_apply]
    split <;> rfl
  linked key other found := by
    rw [KeyedTable.lookup_drop] at found
    split at found
    · cases found
    · exact chained.linked key other found

/-- A bound row has no successor, so a chain that is led to it does not come back. -/
theorem Chained.superseded (chained : Chained rows) {winner : BindingRow} (nowMs : Int)
    (wins : rows.lookup winner.key = some winner) (bound : winner.state = .bound) (other : winner.key ≠ old.key) :
    Chained (rows.put (old.supersede winner.locator nowMs)) := by
  refine chained.put (.inr ⟨rfl,rfl⟩) ?_
  have last : Function.update (successor rows) old.key none winner.key = none := by
    rw [Function.update_of_ne other,successor_of_found wins,(chained.linked _ _ wins).free bound]
    rfl
  have joined := (chained.forest.cut old.key).update (Function.update_self ..)
    fun back => other (rootOf_unique (rootOf_self last) back)
  rwa [Function.update_idem] at joined

theorem Chained.follow (chained : Chained rows) (hops : Nat) {row : BindingRow} (corrected : Bool)
    (stands : rows.lookup row.key = some row) :
    Leads rows hops row.key corrected (follow rows hops row corrected) := by
  have link : (if row.state = .retired then row.supersededBy else none) = row.supersededBy := by
    split
    · rfl
    · next bound => exact ((chained.linked _ _ stands).resolve_right fun retired => bound retired.1).symm
  have own := successor_of_found stands
  have here : (∀ next, successor rows row.key = some next → rows.lookup next = none) →
      Leads rows hops row.key corrected (some ⟨row,corrected⟩) := fun last => ⟨.refl,stands,last,by simp⟩
  unfold Bindings.follow
  rw [link]
  cases points : row.supersededBy with
  | none => exact here (by simp [own,points])
  | some next =>
    rw [points,Option.map_some] at own
    cases hops with
    | zero => simp [Leads,own]
    | succ hops =>
      cases found : rows.lookup next.key with
      | none =>
        simp only [found]
        exact here fun _ same => Option.some.inj (own.symm.trans same) ▸ found
      | some above =>
        have same := KeyedTable.key_of_lookup found
        have further := chained.follow hops true (same.symm ▸ found)
        simp only [found]
        cases walk : Bindings.follow rows hops above true with
        | none =>
          rw [walk,same] at further
          simpa [Leads,own] using further
        | some result =>
          rw [walk,same] at further
          obtain ⟨chain,stands,last,moved⟩ := further
          refine ⟨.head own chain,stands,last,iff_of_true (moved.mpr (.inl rfl)) (.inr fun back => ?_)⟩
          exact chained.forest.acyclic _ (.head' own (back ▸ chain))

end Bindings

theorem FileStep.chained (step : FileStep start op before after) (chained : Bindings.Chained before.index.bindings) :
    Bindings.Chained after.index.bindings := by
  obtain same | ⟨row,writes,written⟩ | ⟨_,gone,dropped⟩ := step.bindings
  · exact same ▸ chained
  · rw [written]
    cases writes with
    | recorded | agent => exact chained.put (.inl rfl) (chained.forest.cut _)
    | over_ old row stands change =>
      obtain ⟨linked,kept | ⟨winner,nowMs,rfl,wins,bound,other⟩⟩ := change.link (chained.linked _ _ stands)
      · refine chained.put linked ?_
        rw [change.key,kept,← Bindings.successor_of_found stands,Function.update_eq_self]
        exact chained.forest
      · exact chained.superseded nowMs wins bound other
  · exact dropped ▸ chained.drop gone

theorem Bindings.next_kept (Invariant : Bindings → Prop) {ledger : Ledger Payload} {call : LedgerOp Payload × List Fault}
    (kept : ∀ before after, FileStep (ledger.under call.2) call.1 before after →
      Invariant before.index.bindings → Invariant after.index.bindings)
    (holds : Invariant ledger.index.bindings) : Invariant (ledger.next call).index.bindings := by
  unfold Ledger.next
  split
  · exact holds
  · exact FilePath.invariant (Invariant ·.index.bindings) kept (Ledger.path_perform _ _) holds

/-- In every run of calls on a new store the links lead nowhere back, and a lookup of a known
    identity finds the row at the end of its chain unless that has more than 32 links. -/
theorem chains_resolve (drive : Drive (Files Payload)) (calls : List (LedgerOp Payload × List Fault)) :
    let rows := (run Ledger.next { index := {}, drive } calls).index.bindings
    Forest (Bindings.successor rows) ∧ ∀ provider sessionId, Bindings.everBound rows (provider,sessionId) →
      Bindings.Leads rows 32 (provider,sessionId) false (Bindings.lookupBySession rows provider sessionId) := by
  have preserved : ∀ (ledger : Ledger Payload) call, Bindings.Chained ledger.index.bindings → True →
      Bindings.Chained (ledger.next call).index.bindings :=
    fun _ _ chained _ => Bindings.next_kept Bindings.Chained (fun _ _ step => step.chained) chained
  have empty : Bindings.Chained ({ index := {}, drive } : Ledger Payload).index.bindings :=
    ⟨fun key => ⟨key,rootOf_self rfl⟩,fun key row found => by simp at found⟩
  have chained := invariant_run preserved empty (along_of_forall (fun _ _ => trivial) _ calls)
  refine ⟨chained.forest,fun provider sessionId known => ?_⟩
  obtain ⟨row,found⟩ := Option.isSome_iff_exists.mp known
  have own := KeyedTable.key_of_lookup found
  simp only [Bindings.lookupBySession,found]
  exact own ▸ chained.follow 32 false (own.symm ▸ found)

/-- What no step of an unmarked call ends lasts through a run without a marked one. -/
theorem Bindings.unless_run (Invariant : Bindings → Prop) {marks : LedgerOp Payload → Bool}
    (kept : ∀ {start before after op}, FileStep start op before after → marks op ≠ true →
      Invariant before.index.bindings → Invariant after.index.bindings)
    (ledger : Ledger Payload) (calls : List (LedgerOp Payload × List Fault)) :
    (∃ call ∈ calls, marks call.1 = true) ∨
      (Invariant ledger.index.bindings → Invariant (run Ledger.next ledger calls).index.bindings) := by
  induction calls generalizing ledger with
  | nil => exact .inr id
  | cons call rest ih =>
    by_cases marked : marks call.1 = true
    · exact .inl ⟨call,List.mem_cons_self,marked⟩
    · exact (ih (ledger.next call)).imp (fun ⟨other,listed,marks⟩ => ⟨other,List.mem_cons_of_mem _ listed,marks⟩)
        fun lasts holds => lasts (next_kept Invariant (fun _ _ step => kept step marked) holds)

/-- What was ever bound stays known until a sweep or a deletion. -/
theorem everBound_lasts (ledger : Ledger Payload) (calls : List (LedgerOp Payload × List Fault)) (key : SessionKey) :
    (∃ call ∈ calls, Ledger.drops call.1 = true) ∨ (Bindings.everBound ledger.index.bindings key →
      Bindings.everBound (run Ledger.next ledger calls).index.bindings key) := by
  refine Bindings.unless_run (Bindings.everBound · key) (fun step keeps known => ?_) ledger calls
  unfold Bindings.everBound at known ⊢
  obtain same | ⟨_,_,_,written⟩ | ⟨drops,_⟩ := step.lookup key
  · exact same ▸ known
  · exact written ▸ rfl
  · exact (keeps drops).elim

def Ledger.binds : LedgerOp Payload → Bool
  | .recordBinding .. | .resolvePending .. | .recordFreshAgentBinding .. | .commitClaim .. => true
  | _ => false

/-- No identity gets bound but by a binding write or a claim. -/
theorem binding_is_explicit (ledger : Ledger Payload) (calls : List (LedgerOp Payload × List Fault)) (key : SessionKey) :
    (∃ call ∈ calls, Ledger.binds call.1 = true) ∨
      ((∀ row, ledger.index.bindings.lookup key = some row → row.state = .retired) →
        ∀ row, (run Ledger.next ledger calls).index.bindings.lookup key = some row → row.state = .retired) := by
  refine Bindings.unless_run (fun rows => ∀ row, rows.lookup key = some row → row.state = .retired)
    (fun step explicit retired => ?_) ledger calls
  obtain same | ⟨row,writes,rfl,written⟩ | ⟨_,gone⟩ := step.lookup key
  · exact same ▸ retired
  · rintro _ found
    obtain rfl := Option.some.inj (written.symm.trans found)
    cases writes with
    | recorded w writes =>
      unfold Ledger.recordedWrite at writes
      split at writes
      · exact (explicit rfl).elim
      · exact (explicit rfl).elim
      · cases writes
    | agent w writes => exact (explicit (writes ▸ rfl)).elim
    | over_ old _ stands change =>
      have was := retired old (change.key ▸ stands)
      cases change with
      | revived _ _ _ _ _ _ writes => exact (explicit (writes ▸ rfl)).elim
      | stamped => exact was
      | superseded | dominated | consulted | expired | closed | missing | failed => rfl
      | _ => simp_all
  · simp [gone]

end Freshell.PaneLedger
