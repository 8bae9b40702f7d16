import Freshell.Supervisor.ViewMoves

/-!
The outbox of views and its reader. Operations write views at times that never go
back; the reader takes a page of what is pending and acknowledges it in the order it
was returned, while operations go on between one acknowledgement and the next.
-/
namespace Freshell.Supervisor
open Freshell.Library Freshell.Library.Transactions Freshell.Library.Runs
variable {registry before after : Registry}

/-- The registry with the time of its last operation, and a reader: what is left of the page
    it has read, and what it has presented. -/
structure Projector where
  registry : Registry
  clock : Nat
  batch : List ViewProjectionEvent
  presented : List ViewProjectionEvent

inductive Projecting where
  | operation (operation : Operation)
  | read (limit : Nat)
  | acknowledge (now : Nat)

theorem Numbered.revision_bounds (numbered : Numbered registry) {event : ViewProjectionEvent}
    (listed : event ∈ registry.outbox) :
    1 ≤ event.viewIntent.revision ∧ event.viewIntent.revision ≤ registry.viewRevision event.viewIntent.viewId := by
  have counted : event.viewIntent.revision ∈ List.range' 1 (registry.viewRevision event.viewIntent.viewId) := by
    rw [← numbered.revisions]
    exact List.mem_map_of_mem (List.mem_filter.mpr ⟨listed,by simp⟩)
  rw [List.mem_range'_1] at counted
  omega

theorem Numbered.newer (numbered : Numbered before) (next : Numbered after) {events : List ViewProjectionEvent}
    (outbox : after.outbox = before.outbox ++ events) (viewId : String) :
    before.viewRevision viewId ≤ after.viewRevision viewId ∧
      ∀ event ∈ events, event.viewIntent.viewId = viewId → before.viewRevision viewId < event.viewIntent.revision := by
  have revisions := next.revisions viewId
  have old := numbered.revisions viewId
  simp only [Registry.eventsOf,outbox,List.filter_append,List.map_append] at revisions old
  rw [old] at revisions
  have longer := congrArg List.length revisions
  simp only [List.length_append,List.length_range',List.length_map] at longer
  refine ⟨by omega,fun event listed own => ?_⟩
  have new : event.viewIntent.revision ∈ (events.filter (·.viewIntent.viewId == viewId)).map (·.viewIntent.revision) :=
    List.mem_map_of_mem (List.mem_filter.mpr ⟨listed,by simp [own]⟩)
  have ascending : (List.range' 1 (after.viewRevision viewId)).Pairwise (· < ·) := List.pairwise_lt_range'
  rw [← revisions,List.pairwise_append] at ascending
  by_contra fewer
  have bounds := next.revision_bounds (outbox ▸ List.mem_append_right _ listed)
  have counted : event.viewIntent.revision ∈ List.range' 1 (before.viewRevision viewId) := by
    rw [List.mem_range'_1]
    omega
  exact Nat.lt_irrefl _ (ascending.2.2 _ counted _ new)

namespace Projector

def start : Projector := ⟨.empty,0,[],[]⟩

def step (installation : Installation) (state : Projector) : Projecting → Projector
  | .operation operation =>
    { state with registry := perform installation state.registry operation, clock := operation.now.getD state.clock }
  | .read limit => { state with batch := pendingViewProjections limit state.registry }
  | .acknowledge now =>
    match state.batch with
    | [] => state
    | event :: rest =>
      { state with registry := committed (acknowledgeViewProjection event.eventId now) state.registry, batch := rest,
                   presented := state.presented ++ [event] }

/-- The clock does not go back, the operations mind the views, and a page is read where the
    pending revisions of one view and one time are numbers of one length. -/
def Orderly (installation : Installation) (state : Projector) : Projecting → Prop
  | .operation operation =>
    (∀ now ∈ operation.now, state.clock ≤ now) ∧ operation.MindsViews installation state.registry
  | .read _ => ∀ first ∈ state.registry.outbox, ∀ second ∈ state.registry.outbox,
      first.deliveredAt = none → second.deliveredAt = none → first.viewIntent.viewId = second.viewIntent.viewId →
      first.createdAt = second.createdAt →
      Decimals.digitCount first.viewIntent.revision = Decimals.digitCount second.viewIntent.revision
  | .acknowledge _ => True

def revisionsOf (viewId : String) (events : List ViewProjectionEvent) : List Nat :=
  (events.filter (·.viewIntent.viewId == viewId)).map (·.viewIntent.revision)

variable {event : ViewProjectionEvent}

theorem revisionsOf_own (rest : List ViewProjectionEvent) : revisionsOf event.viewIntent.viewId (event :: rest) =
      event.viewIntent.revision :: revisionsOf event.viewIntent.viewId rest := by
  simp [revisionsOf]

theorem revisionsOf_other {viewId : String} (other : viewId ≠ event.viewIntent.viewId)
    (rest : List ViewProjectionEvent) : revisionsOf viewId (event :: rest) = revisionsOf viewId rest := by
  simp [revisionsOf,Ne.symm other]

theorem revisionsOf_append (viewId : String) (first second : List ViewProjectionEvent) :
    revisionsOf viewId (first ++ second) = revisionsOf viewId first ++ revisionsOf viewId second := by
  simp [revisionsOf]

/-- Each view is presented up to some revision; what is pending of it, and of the page read,
    goes on from there. -/
structure Presents (state : Projector) (seen : String → Nat) : Prop where
  numbered : Numbered state.registry
  sight : InSight state.registry
  ordered : state.registry.outbox.Pairwise (·.createdAt ≤ ·.createdAt)
  past : ∀ event ∈ state.registry.outbox, event.createdAt ≤ state.clock
  presented : ∀ viewId, revisionsOf viewId state.presented = List.range' 1 (seen viewId)
  written : ∀ viewId, seen viewId ≤ state.registry.viewRevision viewId
  pending : ∀ event ∈ state.registry.outbox,
    event.deliveredAt = none ↔ seen event.viewIntent.viewId < event.viewIntent.revision
  batch : ∀ viewId, ∃ count, revisionsOf viewId state.batch = List.range' (seen viewId + 1) count
  known : ∀ event ∈ state.batch, ∃ listed ∈ state.registry.outbox,
    listed.eventId = event.eventId ∧ listed.viewIntent = event.viewIntent

theorem filter_range' (seen count : Nat) :
    (List.range' 1 count).filter (seen < ·) = List.range' (seen + 1) (count - seen) := by
  induction count with
  | zero => simp
  | succ count ih =>
    rw [List.range'_concat,List.filter_append,ih]
    by_cases new : seen ≤ count
    · have kept : [1 + 1 * count].filter (seen < ·) = [1 + 1 * count] := by simp; omega
      have last : seen + 1 + 1 * (count - seen) = 1 + 1 * count := by omega
      rw [kept,Nat.succ_sub new,List.range'_concat,last]
    · have kept : [1 + 1 * count].filter (seen < ·) = [] := by simp; omega
      have none : count - seen = 0 ∧ count + 1 - seen = 0 := by omega
      rw [kept,none.1,none.2]
      rfl

variable {state : Projector} {seen : String → Nat}

theorem Presents.pending_revisions (held : state.Presents seen) (viewId : String) :
    ((state.registry.outbox.filter (·.deliveredAt.isNone)).filter (·.viewIntent.viewId == viewId)).map
        (·.viewIntent.revision) =
      List.range' (seen viewId + 1) (state.registry.viewRevision viewId - seen viewId) := by
  have same : (state.registry.outbox.filter (·.deliveredAt.isNone)).filter (·.viewIntent.viewId == viewId) =
      (state.registry.eventsOf viewId).filter (fun event => seen viewId < event.viewIntent.revision) := by
    rw [Registry.eventsOf,List.filter_filter,List.filter_filter]
    refine List.filter_congr fun event listed => ?_
    by_cases own : event.viewIntent.viewId = viewId
    · subst own
      have pending := held.pending event listed
      cases delivered : event.deliveredAt with
      | none => simp [pending.mp delivered]
      | some time =>
        have past : ¬seen event.viewIntent.viewId < event.viewIntent.revision := fun later => by
          simp [pending.mpr later] at delivered
        simp [past]
    · have other : (event.viewIntent.viewId == viewId) = false := beq_eq_false_iff_ne.mpr own
      rw [other,Bool.and_false,Bool.false_and]
  have mapped := List.filter_map (f := fun event : ViewProjectionEvent => event.viewIntent.revision)
    (p := (seen viewId < ·)) (l := state.registry.eventsOf viewId)
  rw [same,← filter_range',← held.numbered.revisions viewId,mapped]
  rfl

variable {installation : Installation}

theorem Presents.pending_ordered (held : state.Presents seen) {limit : Nat}
    (orderly : state.Orderly installation (.read limit)) (viewId : String) :
    ((state.registry.outbox.filter (·.deliveredAt.isNone)).filter (·.viewIntent.viewId == viewId)).Pairwise
      ViewProjectionEvent.before := by
  have revisions : ((state.registry.outbox.filter (·.deliveredAt.isNone)).filter (·.viewIntent.viewId == viewId)).Pairwise
      fun first second => first.viewIntent.revision < second.viewIntent.revision := by
    rw [← List.pairwise_map,held.pending_revisions viewId]
    exact List.pairwise_lt_range'
  have times : ((state.registry.outbox.filter (·.deliveredAt.isNone)).filter (·.viewIntent.viewId == viewId)).Pairwise
      (·.createdAt ≤ ·.createdAt) := (held.ordered.filter _).filter _
  refine (revisions.and times).imp_of_mem fun {first second} firstListed secondListed less => ?_
  obtain ⟨less,earlier⟩ := less
  simp only [List.mem_filter,beq_iff_eq,Option.isNone_iff_eq_none] at firstListed secondListed
  obtain ⟨⟨firstListed,firstPending⟩,firstView⟩ := firstListed
  obtain ⟨⟨secondListed,secondPending⟩,secondView⟩ := secondListed
  rcases Nat.lt_or_eq_of_le earlier with earlier | together
  · exact .inl earlier
  · have digits := orderly first firstListed second secondListed firstPending secondPending
      (firstView.trans secondView.symm) together
    refine .inr ⟨together,?_⟩
    rw [held.numbered.named first firstListed,held.numbered.named second secondListed,firstView,secondView]
    exact Decimals.numbered_le less digits

theorem Presents.read (held : state.Presents seen) {limit : Nat} (orderly : state.Orderly installation (.read limit)) :
    (state.step installation (.read limit)).Presents seen where
  numbered := held.numbered
  sight := held.sight
  ordered := held.ordered
  past := held.past
  presented := held.presented
  written := held.written
  pending := held.pending
  batch viewId := by
    have page := (filter_page (held.pending_ordered orderly viewId) (max 1 (min limit 500))).map
      (·.viewIntent.revision)
    rw [held.pending_revisions,List.prefix_iff_eq_take] at page
    simp only [revisionsOf,step,pendingViewProjections]
    rw [page]
    rcases Nat.le_total (state.registry.viewRevision viewId - seen viewId) _ with all | some
    · exact ⟨_,List.take_range'_of_length_le all⟩
    · exact ⟨_,List.take_range'_of_length_ge some⟩
  known event listed := by
    have listed := List.mem_of_mem_take listed
    rw [List.mem_insertionSort] at listed
    exact ⟨event,List.mem_of_mem_filter listed,rfl,rfl⟩

def delivered (eventId : String) (now : Nat) (registry : Registry) : Registry :=
  { registry with
    outbox := updateWhere (·.eventId == eventId) (fun event => { event with deliveredAt := event.deliveredAt <|> some now })
      registry.outbox }

variable {eventId : String} {now : Nat}

theorem committed_acknowledge (listed : ∃ event ∈ registry.outbox, event.eventId = eventId) :
    committed (acknowledgeViewProjection eventId now) registry = delivered eventId now registry := by
  obtain ⟨event,listed,named⟩ := listed
  have there : registry.outbox.any (·.eventId == eventId) = true := by
    rw [List.any_eq_true]
    exact ⟨event,listed,by simp [named]⟩
  simp [committed,acknowledgeViewProjection,ensure,there,delivered,bind,Except.bind,pure,Except.pure]

theorem numbered_delivered (numbered : Numbered registry) : Numbered (delivered eventId now registry) where
  distinct := numbered.distinct
  revisions viewId := by
    have same : ((delivered eventId now registry).eventsOf viewId).map (·.viewIntent.revision) =
        (registry.eventsOf viewId).map (·.viewIntent.revision) := by
      simp only [Registry.eventsOf,delivered,updateWhere,List.filter_map,List.map_map]
      refine congrArg₂ _ ?_ (List.filter_congr ?_)
      · funext event
        simp only [Function.comp_apply]
        split <;> rfl
      · intro event _
        simp only [Function.comp_apply]
        split <;> rfl
    exact same.trans (numbered.revisions viewId)
  named event listed := by
    obtain ⟨old,held,⟨_,rfl⟩ | ⟨_,rfl⟩⟩ := mem_updateWhere.mp listed
    · exact numbered.named old held
    · exact numbered.named event held
  current view listed := by
    obtain ⟨event,held,same⟩ := numbered.current view listed
    cases picked : event.eventId == eventId with
    | true => exact ⟨_,mem_updateWhere.mpr ⟨event,held,.inl ⟨picked,rfl⟩⟩,same⟩
    | false => exact ⟨_,mem_updateWhere.mpr ⟨event,held,.inr ⟨picked,rfl⟩⟩,same⟩

def sawNext (seen : String → Nat) (viewId : String) : String → Nat := fun other =>
  if other = viewId then seen viewId + 1 else seen other

theorem Presents.head_revision (held : state.Presents seen) {rest : List ViewProjectionEvent}
    (page : state.batch = event :: rest) : event.viewIntent.revision = seen event.viewIntent.viewId + 1 := by
  obtain ⟨count,revisions⟩ := held.batch event.viewIntent.viewId
  rw [page,revisionsOf_own] at revisions
  cases count with
  | zero => simp at revisions
  | succ count =>
    rw [List.range'_succ] at revisions
    exact (List.cons.inj revisions).1

theorem Presents.acknowledge (held : state.Presents seen) {rest : List ViewProjectionEvent}
    (page : state.batch = event :: rest) :
    (state.step installation (.acknowledge now)).Presents (sawNext seen event.viewIntent.viewId) := by
  obtain ⟨same,sameListed,sameId,sameView⟩ := held.known event (page ▸ List.mem_cons_self ..)
  have next := held.head_revision page
  have stepped : state.step installation (.acknowledge now) =
      { state with registry := delivered event.eventId now state.registry, batch := rest,
                   presented := state.presented ++ [event] } := by
    simp only [step,page,committed_acknowledge ⟨same,sameListed,sameId⟩]
  have eventId : event.eventId = projectionEventId event.viewIntent.viewId event.viewIntent.revision := by
    rw [← sameId,← sameView]
    exact held.numbered.named same sameListed
  rw [stepped]
  constructor
  · exact numbered_delivered held.numbered
  · exact @InSight.congr state.registry _ rfl rfl held.sight
  · simp only [delivered,updateWhere,List.pairwise_map]
    refine held.ordered.imp fun {first second} earlier => ?_
    split <;> split <;> exact earlier
  · intro other listed
    obtain ⟨old,oldListed,⟨_,rfl⟩ | ⟨_,rfl⟩⟩ := mem_updateWhere.mp listed
    · exact held.past old oldListed
    · exact held.past other oldListed
  · intro viewId
    have presented := held.presented viewId
    simp only [revisionsOf_append,sawNext,presented]
    by_cases own : viewId = event.viewIntent.viewId
    · subst own
      rw [revisionsOf_own,if_pos rfl,List.range'_concat]
      simp [revisionsOf,next,Nat.add_comm]
    · rw [revisionsOf_other own,if_neg own]
      simp [revisionsOf]
  · intro viewId
    simp only [sawNext]
    split
    · next own =>
      have counted := (held.numbered.revision_bounds sameListed).2
      rw [sameView,next] at counted
      exact own ▸ counted
    · exact held.written viewId
  · intro other listed
    obtain ⟨old,oldListed,⟨picked,rfl⟩ | ⟨unpicked,rfl⟩⟩ := mem_updateWhere.mp listed
    · rw [beq_iff_eq,held.numbered.named old oldListed,eventId] at picked
      obtain ⟨view,revision⟩ := projectionEventId_inj picked
      simp only [sawNext,view,revision,next,if_true]
      cases old.deliveredAt <;> simp
    · have pending := held.pending other oldListed
      simp only [sawNext]
      split
      · next view =>
        have different : other.viewIntent.revision ≠ event.viewIntent.revision := fun revision => by
          rw [held.numbered.named other oldListed,eventId,view,revision] at unpicked
          simp at unpicked
        rw [pending,view]
        omega
      · exact pending
  · intro viewId
    obtain ⟨count,revisions⟩ := held.batch viewId
    simp only [page,sawNext] at revisions ⊢
    by_cases own : viewId = event.viewIntent.viewId
    · subst own
      rw [revisionsOf_own] at revisions
      cases count with
      | zero => simp at revisions
      | succ count =>
        rw [List.range'_succ] at revisions
        exact ⟨count,by rw [if_pos rfl]; exact (List.cons.inj revisions).2⟩
    · rw [revisionsOf_other own] at revisions
      exact ⟨count,by rw [if_neg own]; exact revisions⟩
  · intro other listed
    obtain ⟨old,oldListed,oldId,oldView⟩ := held.known other (page ▸ List.mem_cons_of_mem _ listed)
    cases picked : old.eventId == event.eventId with
    | true => exact ⟨_,mem_updateWhere.mpr ⟨old,oldListed,.inl ⟨picked,rfl⟩⟩,oldId,oldView⟩
    | false => exact ⟨_,mem_updateWhere.mpr ⟨old,oldListed,.inr ⟨picked,rfl⟩⟩,oldId,oldView⟩

theorem Presents.operate (held : state.Presents seen) {operation : Operation}
    (orderly : state.Orderly installation (.operation operation)) :
    (state.step installation (.operation operation)).Presents seen := by
  obtain ⟨forward,minds⟩ := orderly
  have later : state.clock ≤ operation.now.getD state.clock := by
    cases timed : operation.now with
    | none => exact le_rfl
    | some now => exact forward now timed
  have moves : Moves (operation.now.getD state.clock) state.registry (perform installation state.registry operation) :=
    perform_moves held.numbered held.sight minds fun now timed => by rw [Option.mem_def.mp timed]; rfl
  obtain ⟨events,outbox,fresh⟩ := moves.outbox held.numbered
  have numbered := held.numbered.moves moves
  have grown := held.numbered.newer numbered outbox
  constructor
  · exact numbered
  · exact held.sight.moves moves held.numbered
  · simp only [step,outbox,List.pairwise_append]
    refine ⟨held.ordered,?_,?_⟩
    · exact List.pairwise_of_forall_mem_list fun first firstNew second secondNew => by
        rw [(fresh first firstNew).1,(fresh second secondNew).1]
    · intro old oldListed new newListed
      rw [(fresh new newListed).1]
      exact (held.past old oldListed).trans later
  · intro event listed
    simp only [step,outbox,List.mem_append] at listed
    rcases listed with old | new
    · exact (held.past event old).trans later
    · exact (fresh event new).1.le
  · exact held.presented
  · intro viewId
    exact (held.written viewId).trans (grown viewId).1
  · intro event listed
    simp only [step,outbox,List.mem_append] at listed
    rcases listed with old | new
    · exact held.pending event old
    · have newer := (grown event.viewIntent.viewId).2 event new rfl
      have written := held.written event.viewIntent.viewId
      exact ⟨fun _ => by omega,fun _ => (fresh event new).2⟩
  · exact held.batch
  · intro event listed
    obtain ⟨old,oldListed,same⟩ := held.known event listed
    simp only [step,outbox]
    exact ⟨old,List.mem_append_left _ oldListed,same⟩
theorem Presents.step (held : state.Presents seen) {installation : Installation} {label : Projecting}
    (orderly : state.Orderly installation label) : ∃ seen, (state.step installation label).Presents seen := by
  cases label with
  | operation operation => exact ⟨seen,held.operate orderly⟩
  | read limit => exact ⟨seen,held.read orderly⟩
  | acknowledge now =>
    cases page : state.batch with
    | nil =>
      have idle : state.step installation (.acknowledge now) = state := by simp [Projector.step,page]
      exact ⟨seen,idle.symm ▸ held⟩
    | cons event rest => exact ⟨_,held.acknowledge page⟩

theorem presents_start : start.Presents fun _ => 0 := by
  constructor
  · constructor
    · exact List.nodup_nil
    · intro viewId
      rfl
    · simp [start,Registry.empty]
    · simp [start,Registry.empty]
  · constructor
    · exact List.nodup_nil
    · simp [start,Registry.empty]
    · simp [start,Registry.empty]
    · simp [start,Registry.empty]
  · exact List.Pairwise.nil
  · simp [start,Registry.empty]
  · exact fun _ => rfl
  · exact fun _ => Nat.zero_le _
  · simp [start,Registry.empty]
  · exact fun _ => ⟨0,rfl⟩
  · simp [start]

theorem Presents.keeps (held : state.Presents seen) {label : Projecting} (orderly : state.Orderly installation label) :
    KeepsViews state.registry (state.step installation label).registry := by
  cases label with
  | operation operation =>
    have moves : Moves (operation.now.getD 0) state.registry (perform installation state.registry operation) :=
      perform_moves held.numbered held.sight orderly.2 fun now timed => by rw [Option.mem_def.mp timed]; rfl
    exact moves.keeps held.numbered
  | read limit => exact .same rfl
  | acknowledge now =>
    cases page : state.batch with
    | nil =>
      have idle : state.step installation (.acknowledge now) = state := by simp [Projector.step,page]
      exact .same (by rw [idle])
    | cons event rest =>
      obtain ⟨known,listed,same,_⟩ := held.known event (page ▸ List.mem_cons_self ..)
      exact .same (by simp only [Projector.step,page,committed_acknowledge ⟨known,listed,same⟩,delivered])

/-- The views of a registry and what was presented of them: the outbox has each revision of a
    view once, in order, the last of them being the view, and what was presented of a view are its
    first revisions, in order. -/
structure Faithful (state : Projector) : Prop where
  numbered : Numbered state.registry
  sight : InSight state.registry
  presented : ∀ viewId, ∃ count, count ≤ state.registry.viewRevision viewId ∧
    revisionsOf viewId state.presented = List.range' 1 count

/-- A run whose steps are orderly keeps the views and their presentation in order, and each of
    its steps leaves every view with its soul, at its revision or at a later one. -/
theorem projections_run (installation : Installation) (labels : List Projecting)
    (orderly : Along (step installation) (Orderly installation) start labels) :
    (run (step installation) start labels).Faithful ∧
      Along (step installation) (fun state label => KeepsViews state.registry (state.step installation label).registry)
        start labels := by
  have kept : ∀ state label, (∃ seen, Presents state seen) → state.Orderly installation label →
      ∃ seen, (state.step installation label).Presents seen := fun state label held allowed =>
    held.elim fun _ held => held.step allowed
  constructor
  · obtain ⟨seen,held⟩ := invariant_run kept ⟨_,presents_start⟩ orderly
    exact ⟨held.numbered,held.sight,fun viewId => ⟨seen viewId,held.written viewId,held.presented viewId⟩⟩
  · exact invariant_along kept (fun state label held allowed => held.elim fun _ held => held.keeps allowed)
      ⟨_,presents_start⟩ orderly
end Projector

def sampleTerminalLaunch : LaunchPreparation := { sampleLaunch "soul" "request" with terminal := some ⟨"terminal"⟩ }

/-- The automatic primary view of the launched soul. -/
def sampleView : String := (automaticPlacementForOwner sampleInstallation "installation" "project" "soul").viewId

def sampleUpsert (viewId : Option String) (kind : ViewIntentKind) (visibility : ViewVisibilityIntent)
    (expectedRevision : Option Nat) : UpsertViewIntentRequest :=
  ⟨"soul",viewId,⟨"","",kind,none,none,none,none,visibility⟩,expectedRevision,1⟩

/-- A client hides the view of a running soul, which an update of its visibility would refuse. -/
def hidden : List Projecting :=
  [.operation (.prepareLaunch sampleTerminalLaunch "first" 1),
    .operation (.upsertViewIntent (sampleUpsert (some sampleView) .automaticPrimary .hidden (some 1)) 2)]

/-- Nine updates in the millisecond of the launch, then a page. -/
def crowded : List Projecting :=
  .operation (.prepareLaunch sampleTerminalLaunch "first" 1) ::
    (List.range' 1 9).map (fun revision => .operation (.updateViewVisibility sampleView .visible revision 1 1)) ++
      [.read 500,.acknowledge 2,.acknowledge 3]

theorem crowded_outbox :
    let outbox := (run (Projector.step sampleInstallation) .start (crowded.take 10)).registry.outbox
    (∀ event ∈ outbox, event.createdAt = 1 ∧ event.deliveredAt = none ∧ event.viewIntent.viewId = sampleView ∧
      event.eventId = Decimals.numbered ("projection-" ++ sampleView) event.viewIntent.revision) ∧
      outbox.map (·.viewIntent.revision) = List.range' 1 10 := by
  decide +kernel

/-- The view of a running soul is hidden, and the tenth revision is presented before the second. -/
theorem hidden_crowded :
    let unseen := (run (Projector.step sampleInstallation) .start hidden).registry
    (∃ view ∈ unseen.viewIntents, view.visibility = .hidden ∧ ¬unseen.rests view.soulId) ∧
      Projector.revisionsOf sampleView (run (Projector.step sampleInstallation) .start crowded).presented = [1,10] := by
  constructor
  · decide
  have split_ : crowded = crowded.take 10 ++ [.read 500,.acknowledge 2,.acknowledge 3] := rfl
  obtain ⟨alike,revisions⟩ := crowded_outbox
  have fresh : (run (Projector.step sampleInstallation) .start (crowded.take 10)).presented = [] := rfl
  rw [split_,run_append]
  generalize run (Projector.step sampleInstallation) .start (crowded.take 10) = state at alike revisions fresh
  -- by their identities the page has the revisions in the order of their digits
  have page : (pendingViewProjections 500 state.registry).map (·.viewIntent.revision) = [1,10,2,3,4,5,6,7,8,9] := by
    have pending : state.registry.outbox.filter (·.deliveredAt.isNone) = state.registry.outbox :=
      List.filter_eq_self.mpr fun event listed => by rw [(alike event listed).2.1]; rfl
    have all : state.registry.outbox.length = 10 := by simpa using congrArg List.length revisions
    rw [pendingViewProjections,pending,List.take_of_length_le (by rw [List.length_insertionSort,all]; decide),
      List.map_insertionSort _ fun m n => ¬Nat.toDigits 10 n < Nat.toDigits 10 m,revisions]
    · decide
    · intro first firstListed second secondListed
      obtain ⟨firstTime,-,-,firstId⟩ := alike first firstListed
      obtain ⟨secondTime,-,-,secondId⟩ := alike second secondListed
      rw [ViewProjectionEvent.before,firstTime,secondTime,firstId,secondId,Decimals.numbered_le_iff]
      simp
  obtain ⟨first,others,listed,firstRevision,page⟩ := List.map_eq_cons_iff.mp page
  obtain ⟨second,rest,rfl,secondRevision,_⟩ := List.map_eq_cons_iff.mp page
  have own : ∀ event ∈ first :: second :: rest, event.viewIntent.viewId = sampleView := by
    intro event member
    rw [← listed] at member
    exact (alike event (List.mem_of_mem_filter ((List.mem_insertionSort _).mp (List.mem_of_mem_take member)))).2.2.1
  simp only [run_cons,run_nil,Projector.step,listed,fresh,List.nil_append,List.cons_append]
  rw [← own first List.mem_cons_self,Projector.revisionsOf_own,own first List.mem_cons_self,
    ← own second (List.mem_cons_of_mem _ List.mem_cons_self),Projector.revisionsOf_own,firstRevision,secondRevision]
  rfl

/-- A launch and an update in the next millisecond, presented. -/
def shown : List Projecting :=
  [.operation (.prepareLaunch sampleTerminalLaunch "first" 1),
    .operation (.updateViewVisibility sampleView .visible 1 1 2),.read 500,.acknowledge 3,.acknowledge 4]

theorem projections_shown :
    (run (Projector.step sampleInstallation) .start shown).Faithful ∧
      Along (Projector.step sampleInstallation)
        (fun state label => KeepsViews state.registry (state.step sampleInstallation label).registry) .start shown := by
  refine Projector.projections_run sampleInstallation shown ⟨⟨?_,trivial⟩,⟨?_,trivial⟩,?_,trivial,trivial,trivial⟩
  · intro now timed
    exact Nat.zero_le now
  · intro now timed
    obtain rfl := Option.some.inj timed
    decide
  · show ∀ first ∈ _, ∀ second ∈ _, _
    decide
end Freshell.Supervisor
