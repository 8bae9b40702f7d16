import Freshell.Registry.Registrations
import Freshell.Registry.Watchers
import Freshell.Library.Runs

/-!
The idle reaper against the clients that come to look: which attaches land on a
row between the moment the sweep reads it and the moment it kills it, and what
the kill then finds on the row.
-/
namespace Freshell.Registry
open Freshell.Library.Tables Freshell.Library.Runs
set_option linter.unusedSimpArgs false

/-- The attaches that came to stay, by cell, since the sweep last read the row. -/
abbrev Visits := List (Nat × ConnId)

/-- The sweep is about to read the row of the id. -/
def Sweep.Reads (sweep : Sweep) (terminalId : String) : Prop :=
  match sweep with
  | .collecting _ _ candidates => terminalId ∉ candidates
  | _ => False

instance (sweep : Sweep) (terminalId : String) : Decidable (sweep.Reads terminalId) := by
  unfold Sweep.Reads
  cases sweep <;> infer_instance

def RowOp.visit (shared : Nat) (visits : Visits) : RowOp → Visits
  | .attach conn _ _ => (shared,conn) :: visits
  | .detach conn _ => visits.filter (· ≠ (shared,conn))
  | .removeConnection conn _ => visits.filter (· ≠ (shared,conn))
  | _ => visits

/-- The visits after a step: a reading of the sweep begins them anew. -/
def Visits.after (visits : Visits) (s : TerminalRegistry) : Op → Visits
  | .row shared op => if shared < s.cells.length then op.visit shared visits else visits
  | .probeIdle terminalId =>
    match s.terminals.lookup terminalId with
    | some handle => if s.sweep.Reads terminalId then visits.filter (·.1 ≠ handle.shared) else visits
    | none => visits
  | _ => visits

/-- The registry, and the visits of the run that led to it. -/
structure Watch where
  registry : TerminalRegistry
  visits : Visits

def Watch.new (autoKillIdleMinutes : Int) : Watch := ⟨.new autoKillIdleMinutes,[]⟩

def Watch.next (ttl : UInt64) (w : Watch) (op : Op) : Watch := ⟨w.registry.next ttl op,w.visits.after w.registry op⟩

/-- The cell is registered under one of the ids. -/
def Named (terminals : Table String TerminalHandle) (ids : List String) (shared : Nat) : Prop :=
  ∃ terminalId ∈ ids, ∃ handle, terminals.lookup terminalId = some handle ∧ handle.shared = shared

/-- The row behind the cell is a candidate of the sweep, or the sweep has
    removed it and is about to mark it. -/
def TerminalRegistry.Doomed (s : TerminalRegistry) (shared : Nat) : Prop :=
  match s.sweep with
  | .resting => False
  | .collecting _ _ candidates => Named s.terminals candidates shared
  | .reaping killing rest => killing = some shared ∨ Named s.terminals rest shared

variable {visits : Visits} {op : RowOp} {conn : ConnId}

theorem mem_visit {shared : Nat} :
    (shared,conn) ∈ op.visit shared visits ↔ op.looking (fun other => (shared,other) ∈ visits) conn := by
  cases op <;> simp [RowOp.visit,RowOp.looking,and_comm]

theorem mem_visit_of_ne {shared place : Nat} (elsewhere : place ≠ shared) :
    (place,conn) ∈ op.visit shared visits ↔ (place,conn) ∈ visits := by
  cases op <;> simp [RowOp.visit,elsewhere]

theorem looking_mono {before after : ConnId → Prop} (implies : ∀ conn, before conn → after conn)
    (looking : op.looking before conn) : op.looking after conn := by
  cases op with
  | attach other request paced => exact looking.imp_right (implies conn)
  | detach other now => exact ⟨looking.1,implies conn looking.2⟩
  | removeConnection other now => exact ⟨looking.1,implies conn looking.2⟩
  | _ => exact implies conn looking

/-- The visits account for the watchers of every row that the sweep means to kill. -/
structure Watch.Accounted (w : Watch) : Prop where
  known : ∀ shared conn, (shared,conn) ∈ w.visits → shared < w.registry.cells.length
  rooted : w.registry.Rooted
  staged : ∀ row ∈ w.registry.cells, row.Staged
  visited : ∀ shared row conn, w.registry.Doomed shared → w.registry.cells[shared]? = some row → row.Watches conn →
    (shared,conn) ∈ w.visits
  present : ∀ shared row conn, w.registry.Doomed shared → w.registry.cells[shared]? = some row →
    row.status = .running → (shared,conn) ∈ w.visits → row.Watches conn

namespace Watch.Accounted
variable {w after : Watch} {ttl : UInt64}

theorem shrinks (accounted : w.Accounted) {op : Op} (cells : (w.next ttl op).registry.cells = w.registry.cells)
    (visits : (w.next ttl op).visits = w.visits)
    (doomed : ∀ shared, (w.next ttl op).registry.Doomed shared → w.registry.Doomed shared) : (w.next ttl op).Accounted where
  known := by
    rw [cells,visits]
    exact accounted.known
  rooted := TerminalRegistry.rooted_next accounted.rooted ttl op
  staged := by
    rw [cells]
    exact accounted.staged
  visited shared row conn dooming held watching := by
    rw [cells] at held
    rw [visits]
    exact accounted.visited shared row conn (doomed shared dooming) held watching
  present shared row conn dooming held running visit := by
    rw [cells] at held
    rw [visits] at visit
    exact accounted.present shared row conn (doomed shared dooming) held running visit

theorem same (accounted : w.Accounted) {op : Op} (rows : SameRows w.registry (w.next ttl op).registry)
    (visits : (w.next ttl op).visits = w.visits) : (w.next ttl op).Accounted := by
  apply accounted.shrinks rows.cells visits
  intro shared doomed
  unfold TerminalRegistry.Doomed at doomed ⊢
  rwa [rows.sweep,rows.terminals] at doomed

variable {place : Nat} {conn : ConnId}

theorem visit_known (accounted : w.Accounted) {shared : Nat} {op : RowOp} (bound : shared < w.registry.cells.length)
    (visit : (place,conn) ∈ op.visit shared w.visits) : place < w.registry.cells.length := by
  by_cases here : place = shared
  · rwa [here]
  · exact accounted.known place conn ((mem_visit_of_ne here).mp visit)

theorem row (accounted : w.Accounted) (ttl : UInt64) (shared : Nat) (op : RowOp) :
    (w.next ttl (.row shared op)).Accounted := by
  by_cases bound : shared < w.registry.cells.length
  · have visits : (w.next ttl (.row shared op)).visits = op.visit shared w.visits := if_pos bound
    have cells : (w.next ttl (.row shared op)).registry.cells = w.registry.cells.modify shared (·.apply op) := rfl
    have doomed (place : Nat) : (w.next ttl (.row shared op)).registry.Doomed place ↔ w.registry.Doomed place := Iff.rfl
    -- a row after the step, and where it comes from
    have origin (place : Nat) (after : TerminalShared)
        (held : (w.next ttl (.row shared op)).registry.cells[place]? = some after) :
        ∃ before, w.registry.cells[place]? = some before ∧ after = if place = shared then before.apply op else before := by
      rw [cells,List.getElem?_modify] at held
      obtain ⟨before,was,rfl⟩ := Option.map_eq_some_iff.mp held
      refine ⟨before,was,?_⟩
      by_cases here : shared = place
      · simp [here]
      · simp [here,Ne.symm here]
    constructor
    · intro place conn visit
      rw [visits] at visit
      rw [cells,List.length_modify]
      exact accounted.visit_known bound visit
    · exact TerminalRegistry.rooted_next accounted.rooted ttl _
    · intro after member
      obtain ⟨place,held⟩ := List.mem_iff_getElem?.mp member
      obtain ⟨before,was,rfl⟩ := origin place after held
      have staged := accounted.staged before (List.mem_of_getElem? was)
      split
      · exact TerminalShared.staged_apply staged op
      · exact staged
    · intro place after conn dooming held watching
      obtain ⟨before,was,rfl⟩ := origin place after held
      rw [visits]
      by_cases here : place = shared
      · subst here
        rw [if_pos rfl] at watching
        apply mem_visit.mpr
        apply looking_mono _ (TerminalShared.looking_of_watches watching)
        intro other watched
        exact accounted.visited place before other dooming was watched
      · rw [if_neg here] at watching
        exact (mem_visit_of_ne here).mpr (accounted.visited place before conn dooming was watching)
    · intro place after conn dooming held running visit
      obtain ⟨before,was,rfl⟩ := origin place after held
      rw [visits] at visit
      by_cases here : place = shared
      · subst here
        rw [if_pos rfl] at running ⊢
        have staged := accounted.staged before (List.mem_of_getElem? was)
        apply TerminalShared.watches_of_looking staged running
        apply looking_mono _ (mem_visit.mp visit)
        intro other visited
        exact accounted.present place before other dooming was (TerminalShared.running_of_apply running) visited
      · rw [if_neg here] at running ⊢
        exact accounted.present place before conn dooming was running ((mem_visit_of_ne here).mp visit)
  · have unmoved : w.registry.cells.modify shared (·.apply op) = w.registry.cells :=
      List.modify_eq_self (Nat.le_of_not_lt bound)
    exact accounted.shrinks unmoved (if_neg bound) fun place doomed => doomed

theorem register (accounted : w.Accounted) (ttl : UInt64) (terminalId mode : String) (resume : Option String)
    (createdAt : Int) (managed : Bool) :
    (w.next ttl (.register terminalId mode resume createdAt managed)).Accounted := by
  let fresh := TerminalShared.registered terminalId mode resume createdAt managed
  let after := w.next ttl (.register terminalId mode resume createdAt managed)
  have terminals (id : String) : after.registry.terminals.lookup id =
      if id = terminalId then some ⟨w.registry.cells.length,managed⟩ else w.registry.terminals.lookup id :=
    lookup_insert _ _ _ _
  have old {place : Nat} (bound : place < w.registry.cells.length) :
      after.registry.cells[place]? = w.registry.cells[place]? := List.getElem?_append_left bound
  have new : after.registry.cells[w.registry.cells.length]? = some fresh := List.getElem?_concat_length
  have bounded {place : Nat} {row : TerminalShared} (held : after.registry.cells[place]? = some row) :
      place < w.registry.cells.length ∨ place = w.registry.cells.length ∧ row = fresh := by
    rcases Nat.lt_or_ge place w.registry.cells.length with bound | beyond
    · exact .inl bound
    · right
      have last : place < w.registry.cells.length + 1 := by
        have limit := (List.getElem?_eq_some_iff.mp held).1
        simpa [after,Watch.next,TerminalRegistry.next,TerminalRegistry.step,TerminalRegistry.register,
          TerminalRegistry.withCells,TerminalRegistry.withTerminals] using limit
      have here : place = w.registry.cells.length := by omega
      rw [here,new] at held
      exact ⟨here,(Option.some.inj held).symm⟩
  have names {ids : List String} {place : Nat} (bound : place < w.registry.cells.length)
      (named : Named after.registry.terminals ids place) : Named w.registry.terminals ids place := by
    obtain ⟨id,listed,handle,found,there⟩ := named
    rw [terminals] at found
    split at found
    · cases found
      simp only at there
      omega
    · exact ⟨id,listed,handle,found,there⟩
  have doomed {place : Nat} (bound : place < w.registry.cells.length) (dooming : after.registry.Doomed place) :
      w.registry.Doomed place := by
    unfold TerminalRegistry.Doomed at dooming ⊢
    have sweep : after.registry.sweep = w.registry.sweep := rfl
    rw [sweep] at dooming
    cases held : w.registry.sweep with
    | resting =>
      rw [held] at dooming
      exact dooming
    | collecting now threshold candidates =>
      rw [held] at dooming
      exact names bound dooming
    | reaping killing rest =>
      rw [held] at dooming
      exact dooming.imp_right (names bound)
  show after.Accounted
  constructor
  · intro place conn visit
    have known := accounted.known place conn visit
    rw [show after.registry.cells = w.registry.cells ++ [fresh] from rfl,List.length_append]
    omega
  · exact TerminalRegistry.rooted_next accounted.rooted ttl _
  · intro row member
    rcases List.mem_append.mp member with was | now
    · exact accounted.staged row was
    · obtain rfl := List.mem_singleton.mp now
      intro _ conn subscriber found
      cases found
  · intro place row conn dooming held watching
    rcases bounded held with bound | ⟨_,rfl⟩
    · exact accounted.visited place row conn (doomed bound dooming) ((old bound).symm.trans held) watching
    · cases watching
  · intro place row conn dooming held running visit
    have bound := accounted.known place conn visit
    exact accounted.present place row conn (doomed bound dooming) ((old bound).symm.trans held) running visit

theorem named_erase {terminals : Table String TerminalHandle} {terminalId : String} {ids : List String} {shared : Nat}
    (named : Named (terminals.erase terminalId) ids shared) : Named terminals ids shared := by
  obtain ⟨id,listed,handle,found,there⟩ := named
  rw [lookup_erase] at found
  split at found
  · cases found
  · exact ⟨id,listed,handle,found,there⟩

theorem kill (accounted : w.Accounted) (ttl : UInt64) (terminalId : String) (allowManaged : Bool) :
    (w.next ttl (.kill terminalId allowManaged)).Accounted := by
  refine accounted.shrinks TerminalRegistry.kill_cells rfl ?_
  intro shared dooming
  simp only [next,TerminalRegistry.next,TerminalRegistry.step,TerminalRegistry.kill] at dooming
  split at dooming
  · next removed =>
    have spec := TerminalRegistry.removeRow_spec removed
    unfold TerminalRegistry.Doomed at dooming ⊢
    rw [spec.sweep,spec.terminals] at dooming
    cases held : w.registry.sweep with
    | resting =>
      rw [held] at dooming
      exact dooming
    | collecting now threshold candidates =>
      rw [held] at dooming
      exact named_erase dooming
    | reaping killing rest =>
      rw [held] at dooming
      exact dooming.imp_right named_erase
  · exact dooming

theorem killIdle (accounted : w.Accounted) (ttl : UInt64) : (w.next ttl .killIdle).Accounted := by
  refine accounted.shrinks TerminalRegistry.killIdle_cells rfl ?_
  intro place dooming
  simp only [next,TerminalRegistry.next,TerminalRegistry.step,TerminalRegistry.killIdle] at dooming
  split at dooming
  · exact dooming.elim
  · next terminalId rest reaping =>
    unfold TerminalRegistry.Doomed
    rw [reaping]
    split at dooming
    · next shared after removed =>
      have spec := TerminalRegistry.removeRow_spec removed
      obtain ⟨handle,found,there⟩ := spec.registered
      rcases dooming with killing | named
      · obtain rfl := Option.some.inj killing
        exact .inr ⟨terminalId,List.mem_cons_self,handle,found,there⟩
      · replace named : Named (w.registry.terminals.erase terminalId) rest place := spec.terminals ▸ named
        obtain ⟨id,listed,other⟩ := named_erase named
        exact .inr ⟨id,List.mem_cons_of_mem _ listed,other⟩
    · rcases dooming with killing | named
      · cases killing
      · obtain ⟨id,listed,other⟩ := named
        exact .inr ⟨id,List.mem_cons_of_mem _ listed,other⟩
  · exact dooming

theorem enforceIdleKills (accounted : w.Accounted) (ttl : UInt64) (now : Int) :
    (w.next ttl (.enforceIdleKills now)).Accounted := by
  refine accounted.shrinks TerminalRegistry.enforceIdleKills_cells rfl ?_
  intro shared dooming
  simp only [next,TerminalRegistry.next,TerminalRegistry.step,TerminalRegistry.enforceIdleKills] at dooming
  split at dooming
  · split at dooming
    · exact dooming
    · obtain ⟨id,listed,_⟩ := dooming
      cases listed
  · exact dooming

theorem reapIdle (accounted : w.Accounted) (ttl : UInt64) : (w.next ttl .reapIdle).Accounted := by
  refine accounted.shrinks TerminalRegistry.reapIdle_cells rfl ?_
  intro shared dooming
  simp only [next,TerminalRegistry.next,TerminalRegistry.step,TerminalRegistry.reapIdle] at dooming
  split at dooming
  · next now threshold candidates collecting =>
    unfold TerminalRegistry.Doomed
    rw [collecting]
    rcases dooming with killing | ⟨id,listed,named⟩
    · cases killing
    · exact ⟨id,(List.mem_insertionSort _).mp listed,named⟩
  · exact dooming

theorem finishKill (accounted : w.Accounted) (ttl : UInt64) (shared : Nat) :
    (w.next ttl (.finishKill shared)).Accounted := by
  have step : (w.next ttl (.finishKill shared)).registry = (w.registry.finishKill shared).1 := rfl
  have visits : (w.next ttl (.finishKill shared)).visits = w.visits := rfl
  unfold TerminalRegistry.finishKill at step
  split at step
  · next terminalId pending =>
    have cells : (w.next ttl (.finishKill shared)).registry.cells = w.registry.cells.modify shared .killed := by
      rw [step]
      rfl
    have doomed (place : Nat) (dooming : (w.next ttl (.finishKill shared)).registry.Doomed place) :
        w.registry.Doomed place := by
      rw [step] at dooming
      unfold TerminalRegistry.Doomed at dooming ⊢
      simp only [TerminalRegistry.withSweep,TerminalRegistry.withKills,TerminalRegistry.withCells] at dooming
      cases held : w.registry.sweep with
      | resting =>
        rw [held] at dooming
        exact dooming
      | collecting now threshold candidates =>
        rw [held] at dooming
        exact dooming
      | reaping killing rest =>
        rw [held] at dooming
        cases killing with
        | none => exact dooming
        | some target =>
          by_cases same : target = shared
          · simp only [Sweep.after,same,if_true] at dooming
            rcases dooming with killing | named
            · cases killing
            · exact .inr named
          · simp only [Sweep.after,same,if_false] at dooming
            exact dooming
    have origin (place : Nat) (after : TerminalShared)
        (held : (w.next ttl (.finishKill shared)).registry.cells[place]? = some after) :
        ∃ before, w.registry.cells[place]? = some before ∧ (after = before.killed ∨ after = before) := by
      rw [cells,List.getElem?_modify] at held
      obtain ⟨before,was,rfl⟩ := Option.map_eq_some_iff.mp held
      refine ⟨before,was,?_⟩
      split
      · exact .inl rfl
      · exact .inr rfl
    constructor
    · rw [cells,visits,List.length_modify]
      exact accounted.known
    · exact TerminalRegistry.rooted_next accounted.rooted ttl _
    · intro after member
      obtain ⟨place,held⟩ := List.mem_iff_getElem?.mp member
      obtain ⟨before,was,rfl | rfl⟩ := origin place after held
      · intro running
        cases running
      · exact accounted.staged after (List.mem_of_getElem? was)
    · intro place after conn dooming held watching
      obtain ⟨before,was,rfl | rfl⟩ := origin place after held
      · cases watching
      · exact accounted.visited place after conn (doomed place dooming) was watching
    · intro place after conn dooming held running visit
      obtain ⟨before,was,rfl | rfl⟩ := origin place after held
      · cases running
      · exact accounted.present place after conn (doomed place dooming) was running visit
  · refine accounted.shrinks (by rw [step]) visits ?_
    intro place dooming
    rwa [step] at dooming

theorem mem_probe (accounted : w.Accounted) {terminalId : String} (dooming : w.registry.Doomed place) :
    (place,conn) ∈ w.visits.after w.registry (.probeIdle terminalId) ↔ (place,conn) ∈ w.visits := by
  simp only [Visits.after]
  split
  · next handle found =>
    split
    · next reads =>
      have elsewhere : place ≠ handle.shared := by
        intro here
        unfold Sweep.Reads at reads
        unfold TerminalRegistry.Doomed at dooming
        split at reads
        · next collecting =>
          rw [collecting] at dooming
          obtain ⟨id,listed,other,registered,there⟩ := dooming
          obtain ⟨row,held,named⟩ := accounted.rooted.registered terminalId handle found
          obtain ⟨same,also,identified⟩ := accounted.rooted.registered id other registered
          rw [there,here,held] at also
          obtain rfl := Option.some.inj also
          exact reads (named.symm.trans identified ▸ listed)
        · exact reads
      simp [elsewhere]
    · exact Iff.rfl
  · exact Iff.rfl

theorem probe_known (accounted : w.Accounted) {terminalId : String}
    (visit : (place,conn) ∈ w.visits.after w.registry (.probeIdle terminalId)) : place < w.registry.cells.length := by
  simp only [Visits.after] at visit
  split at visit
  · split at visit
    · exact accounted.known place conn (List.mem_filter.mp visit).1
    · exact accounted.known place conn visit
  · exact accounted.known place conn visit

theorem probeIdle (accounted : w.Accounted) (ttl : UInt64) (terminalId : String) :
    (w.next ttl (.probeIdle terminalId)).Accounted := by
  have visits : (w.next ttl (.probeIdle terminalId)).visits = w.visits.after w.registry (.probeIdle terminalId) := rfl
  have cells : (w.next ttl (.probeIdle terminalId)).registry.cells = w.registry.cells := TerminalRegistry.probeIdle_cells
  -- a doomed row was doomed before the reading, or is the idle row that it collects
  have doomed (place : Nat) (dooming : (w.registry.probeIdle terminalId).Doomed place) :
      w.registry.Doomed place ∨ ∃ row, w.registry.cells[place]? = some row ∧ row.subscribers = ∅ ∧
        ∀ conn, (place,conn) ∉ w.visits.after w.registry (.probeIdle terminalId) := by
    rcases w.registry.probeIdle_spec terminalId with same | ⟨handle,row,collects⟩
    · rw [same] at dooming
      exact .inl dooming
    · obtain ⟨now,threshold,candidates,collecting,fresh,idle,after⟩ := collects.collecting
      rw [after] at dooming
      obtain ⟨id,listed,other,found,there⟩ := dooming
      rcases List.mem_cons.mp listed with rfl | before
      · right
        obtain rfl := Option.some.inj (collects.registered.symm.trans found)
        subst there
        refine ⟨row,collects.held,idle.2.1,?_⟩
        intro conn visit
        have reads : w.registry.sweep.Reads id := by
          rw [collecting]
          exact fresh
        rw [Visits.after,collects.registered] at visit
        simp [reads] at visit
      · left
        unfold TerminalRegistry.Doomed
        rw [collecting]
        exact ⟨id,before,other,found,there⟩
  constructor
  · intro place conn visit
    rw [cells]
    exact accounted.probe_known (visits ▸ visit)
  · exact TerminalRegistry.rooted_next accounted.rooted ttl _
  · rw [cells]
    exact accounted.staged
  · intro place row conn dooming held watching
    rw [cells] at held
    rw [visits]
    rcases doomed place dooming with before | ⟨idle,same,unwatched,_⟩
    · exact (accounted.mem_probe before).mpr (accounted.visited place row conn before held watching)
    · obtain rfl := Option.some.inj (held.symm.trans same)
      exact absurd watching (TerminalShared.unwatched_iff.mp unwatched conn)
  · intro place row conn dooming held running visit
    rw [cells] at held
    rw [visits] at visit
    rcases doomed place dooming with before | ⟨_,_,_,unvisited⟩
    · exact accounted.present place row conn before held running ((accounted.mem_probe before).mp visit)
    · exact absurd visit (unvisited conn)

theorem next (accounted : w.Accounted) (ttl : UInt64) (op : Op) : (w.next ttl op).Accounted := by
  cases op with
  | register terminalId mode resume createdAt managed => exact accounted.register ttl terminalId mode resume createdAt managed
  | row shared op => exact accounted.row ttl shared op
  | kill terminalId allowManaged => exact accounted.kill ttl terminalId allowManaged
  | finishKill shared => exact accounted.finishKill ttl shared
  | enforceIdleKills now => exact accounted.enforceIdleKills ttl now
  | probeIdle terminalId => exact accounted.probeIdle ttl terminalId
  | reapIdle => exact accounted.reapIdle ttl
  | killIdle => exact accounted.killIdle ttl
  | prune shared => exact accounted.same TerminalRegistry.prune_rows rfl
  | claim call claimant => exact accounted.same TerminalRegistry.claim_registry.toSameRows rfl
  | claimStep call => exact accounted.same TerminalRegistry.claimStep_registry.toSameRows rfl
  | complete locator request terminalId => exact accounted.same TerminalRegistry.complete_registry.toSameRows rfl
  | _ => exact accounted.same ⟨.refl _,.refl _,.refl _⟩ rfl

end Watch.Accounted

theorem Watch.accounted_new (minutes : Int) : (Watch.new minutes).Accounted := by
  constructor
  · intro shared conn visit
    cases visit
  · exact TerminalRegistry.rooted_new minutes
  · intro row member
    cases member
  · intro shared row conn dooming
    exact dooming.elim
  · intro shared row conn dooming
    exact dooming.elim

/-- The step marks a row that the sweep kills for its idleness. -/
def Watch.KillsIdle (w : Watch) (op : Op) (shared : Nat) : Prop :=
  op = .finishKill shared ∧ ∃ rest, w.registry.sweep = .reaping (some shared) rest

/-- Every terminal killed for idleness has no subscriber at that moment. -/
def Watch.KillsUnwatched (w : Watch) (op : Op) : Prop :=
  ∀ shared row, w.KillsIdle op shared → w.registry.cells[shared]? = some row → row.subscribers = ∅

/-- Whoever attached to a terminal since the sweep read it has detached or lost
    the connection again when the sweep kills it. -/
def Watch.Undisturbed (w : Watch) (op : Op) : Prop :=
  ∀ shared, w.KillsIdle op shared → ∀ conn, (shared,conn) ∉ w.visits

/-- The same of the terminals that still run when they are killed. -/
def Watch.UndisturbedRunning (w : Watch) (op : Op) : Prop :=
  ∀ shared row, w.KillsIdle op shared → w.registry.cells[shared]? = some row → row.status = .running →
    ∀ conn, (shared,conn) ∉ w.visits

namespace Watch.Accounted
variable {w : Watch} {op : Op}

theorem doomed_of_killsIdle {shared : Nat} (killing : w.KillsIdle op shared) : w.registry.Doomed shared := by
  obtain ⟨_,rest,reaping⟩ := killing
  unfold TerminalRegistry.Doomed
  rw [reaping]
  exact .inl rfl

theorem killsUnwatched (accounted : w.Accounted) (undisturbed : w.Undisturbed op) : w.KillsUnwatched op := by
  intro shared row killing held
  apply TerminalShared.unwatched_iff.mpr
  intro conn watching
  exact undisturbed shared killing conn (accounted.visited shared row conn (doomed_of_killsIdle killing) held watching)

theorem undisturbed (accounted : w.Accounted) (unwatched : w.KillsUnwatched op) : w.UndisturbedRunning op := by
  intro shared row killing held running conn visit
  have watching := accounted.present shared row conn (doomed_of_killsIdle killing) held running visit
  exact TerminalShared.unwatched_iff.mp (unwatched shared row killing held) conn watching

end Watch.Accounted

/-- A run kills no watched terminal for idleness if whoever attaches to one
    between the sweep's reading and its kill is gone again by then; and, of the
    terminals that still run when they are killed, only if. -/
theorem idleKills_unwatched (ttl : UInt64) (minutes : Int) (ops : List Op) :
    (Along (Watch.next ttl) Watch.Undisturbed (.new minutes) ops →
      Along (Watch.next ttl) Watch.KillsUnwatched (.new minutes) ops) ∧
    (Along (Watch.next ttl) Watch.KillsUnwatched (.new minutes) ops →
      Along (Watch.next ttl) Watch.UndisturbedRunning (.new minutes) ops) := by
  constructor
  · intro undisturbed
    have kept : ∀ (w : Watch) op, w.Accounted → w.Undisturbed op → (w.next ttl op).Accounted := fun w op accounted _ =>
      accounted.next ttl op
    exact invariant_along kept (fun w op accounted still => accounted.killsUnwatched still) (Watch.accounted_new minutes)
      undisturbed
  · intro unwatched
    have kept : ∀ (w : Watch) op, w.Accounted → w.KillsUnwatched op → (w.next ttl op).Accounted := fun w op accounted _ =>
      accounted.next ttl op
    exact invariant_along kept (fun w op accounted alone => accounted.undisturbed alone) (Watch.accounted_new minutes)
      unwatched

/-- The sweep reads an idle shell, a client attaches to it, and the sweep kills it. -/
def attachBeforeKill : List Op :=
  [.register "t" "shell" none 0 false,.enforceIdleKills 900000,.probeIdle "t",.reapIdle,.row 0 (.attach 7 none false),
    .killIdle,.prune 0]

/-- The kill does not look at the row again: it kills the terminal under the
    eyes of the client that has just attached. -/
theorem attachBeforeKill_killsWatched :
    ¬ ∀ (ttl : UInt64) (minutes : Int) (ops : List Op), Along (Watch.next ttl) Watch.KillsUnwatched (.new minutes) ops := by
  intro unwatched
  have along := unwatched 20000 15 (attachBeforeKill ++ [.finishKill 0])
  obtain ⟨_,last,_⟩ := (along_append _ _ _ _ _).mp along
  let w := run (Watch.next 20000) (.new 15) attachBeforeKill
  have reaping : w.registry.sweep = .reaping (some 0) [] := by decide
  let row := (TerminalShared.registered "t" "shell" none 0 false).attach 7 none false
  have held : w.registry.cells[0]? = some row := by rfl
  have alone := last 0 row ⟨rfl,[],reaping⟩ held
  exact absurd alone (by decide)

end Freshell.Registry
