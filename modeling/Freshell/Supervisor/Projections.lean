import Freshell.Library.Decimals
import Freshell.Supervisor.Effects

/-!
The revisions of the views and the events that carry them. Whatever a transaction
does to views is a chain of single writes, each the next revision of one view and
its event, so the outbox holds every revision of a view once, in order.
-/
namespace Freshell.Supervisor
open Freshell.Library Freshell.Library.Transactions
variable {registry before middle after : Registry}

namespace Registry

def viewRevision (registry : Registry) (viewId : String) : Nat :=
  ((registry.loadViewIntent viewId).map (·.revision)).getD 0

def eventsOf (registry : Registry) (viewId : String) : List ViewProjectionEvent :=
  registry.outbox.filter (·.viewIntent.viewId == viewId)

/-- The row of a view, in the place of the one it had. -/
def putView (registry : Registry) (next : ViewIntent) : Registry :=
  { registry with
    viewIntents :=
      if (registry.loadViewIntent next.viewId).isSome then
        updateWhere (·.viewId == next.viewId) (fun _ => next) registry.viewIntents
      else registry.viewIntents ++ [next] }
end Registry

def ViewIntent.event (view : ViewIntent) : ViewProjectionEvent :=
  { eventId := projectionEventId view.viewId view.revision, viewIntent := view, createdAt := view.updatedAt,
    deliveredAt := none }

/-- The souls of a view are not desired running. -/
def Registry.rests (registry : Registry) (soulId : String) : Prop :=
  ∀ soul ∈ registry.souls, soul.soulId = soulId → soul.desiredState = .stopped

instance (registry : Registry) (soulId : String) : Decidable (registry.rests soulId) :=
  inferInstanceAs (Decidable (∀ soul ∈ registry.souls, soul.soulId = soulId → soul.desiredState = .stopped))

/-- One write of a view: its next revision, of the same soul. A view is hidden only where it
    was or its soul rests, and becomes the automatic primary one only as the first of its soul. -/
structure ViewWrite (now : Nat) (before : Registry) (next : ViewIntent) (after : Registry) : Prop where
  result : after = enqueueProjection next (before.putView next)
  numbered : next.revision = before.viewRevision next.viewId + 1
  stamped : next.updatedAt = now
  kept : ∀ old, before.loadViewIntent next.viewId = some old → old.soulId = next.soulId
  known : before.loadViewIntent next.viewId = none → ∃ soul ∈ before.souls, soul.soulId = next.soulId
  sight : next.visibility = .hidden →
    (∃ old, before.loadViewIntent next.viewId = some old ∧ old.visibility = .hidden) ∨ before.rests next.soulId
  primary : next.kind = .automaticPrimary →
    (∃ old, before.loadViewIntent next.viewId = some old ∧ old.kind = .automaticPrimary) ∨
      ∀ view ∈ before.viewIntents, view.soulId = next.soulId → view.kind = .automaticPrimary → view.viewId = next.viewId

def ViewWrites (now : Nat) : Registry → Registry → Prop :=
  Relation.ReflTransGen fun before after => ∃ next, ViewWrite now before next after

/-- The outbox holds the revisions of each view, once and in order, and its last event is the view. -/
structure Numbered (registry : Registry) : Prop where
  distinct : (registry.viewIntents.map (·.viewId)).Nodup
  revisions : ∀ viewId, (registry.eventsOf viewId).map (·.viewIntent.revision) =
    List.range' 1 (registry.viewRevision viewId)
  named : ∀ event ∈ registry.outbox, event.eventId = projectionEventId event.viewIntent.viewId event.viewIntent.revision
  current : ∀ view ∈ registry.viewIntents, ∃ event ∈ registry.outbox, event.viewIntent = view

/-- No view of a soul that is desired running is hidden, and a soul has one automatic primary view. -/
structure InSight (registry : Registry) : Prop where
  souls : (registry.souls.map (·.soulId)).Nodup
  known : ∀ view ∈ registry.viewIntents, ∃ soul ∈ registry.souls, soul.soulId = view.soulId
  sight : ∀ view ∈ registry.viewIntents, view.visibility = .hidden → registry.rests view.soulId
  primary : ∀ first ∈ registry.viewIntents, ∀ second ∈ registry.viewIntents, first.soulId = second.soulId →
    first.kind = .automaticPrimary → second.kind = .automaticPrimary → first = second

theorem projectionEventId_inj {first second : String} {m n : Nat}
    (same : projectionEventId first m = projectionEventId second n) : first = second ∧ m = n := by
  have same : Decimals.numbered ("projection-" ++ first) m = Decimals.numbered ("projection-" ++ second) n := same
  obtain ⟨texts,numbers⟩ := Decimals.numbered_inj same
  exact ⟨String.append_right_inj _ |>.mp texts,numbers⟩

variable {view : ViewIntent}

theorem loadViewIntent_some {viewId : String} (found : registry.loadViewIntent viewId = some view) :
    view ∈ registry.viewIntents ∧ view.viewId = viewId := of_find_key found

theorem Numbered.load (numbered : Numbered registry) (listed : view ∈ registry.viewIntents) :
    registry.loadViewIntent view.viewId = some view := find_key_of_mem numbered.distinct listed

variable {next : ViewIntent}

theorem mem_putView (listed : view ∈ (registry.putView next).viewIntents) :
    view = next ∨ (view ∈ registry.viewIntents ∧ view.viewId ≠ next.viewId) := by
  simp only [Registry.putView] at listed
  split at listed
  · obtain ⟨old,held,⟨_,rfl⟩ | ⟨other,rfl⟩⟩ := mem_updateWhere.mp listed
    · exact .inl rfl
    · exact .inr ⟨held,by simpa using other⟩
  · next absent =>
    rcases List.mem_append.mp listed with held | new
    · refine .inr ⟨held,?_⟩
      rw [Option.not_isSome_iff_eq_none] at absent
      exact find_key_eq_none.mp absent view held
    · exact .inl (List.mem_singleton.mp new)

theorem putView_present (present : (registry.loadViewIntent next.viewId).isSome = true) :
    (registry.putView next).viewIntents = updateWhere (·.viewId == next.viewId) (fun _ => next) registry.viewIntents :=
  if_pos present

theorem putView_absent (absent : registry.loadViewIntent next.viewId = none) :
    (registry.putView next).viewIntents = registry.viewIntents ++ [next] := if_neg (by simp [absent])

theorem loadViewIntent_putView (next : ViewIntent) (viewId : String) :
    (registry.putView next).loadViewIntent viewId =
      if viewId = next.viewId then some next else registry.loadViewIntent viewId := by
  by_cases present : (registry.loadViewIntent next.viewId).isSome = true
  · have same : ∀ row : ViewIntent, (row.viewId == next.viewId) = true → next.viewId = row.viewId := by
      intro row picked
      exact (beq_iff_eq.mp picked).symm
    have written := @find_updateWhere _ _ _ _ _ (fun row : ViewIntent => row.viewId) same viewId registry.viewIntents
    rw [Registry.loadViewIntent,putView_present present,written]
    by_cases own : viewId = next.viewId
    · subst own
      obtain ⟨old,found⟩ := Option.isSome_iff_exists.mp present
      have named := (of_find_key found).2
      have found : registry.viewIntents.find? (·.viewId == next.viewId) = some old := found
      simp [found,named]
    · rw [if_neg own]
      cases found : registry.loadViewIntent viewId with
      | none =>
        have found : registry.viewIntents.find? (·.viewId == viewId) = none := found
        simp [found]
      | some old =>
        have named : old.viewId = viewId := (of_find_key found).2
        have found : registry.viewIntents.find? (·.viewId == viewId) = some old := found
        simp [found,named,own]
  · have absent := Option.not_isSome_iff_eq_none.mp present
    rw [Registry.loadViewIntent,putView_absent absent,List.find?_append]
    by_cases own : viewId = next.viewId
    · subst own
      have absent : registry.viewIntents.find? (·.viewId == next.viewId) = none := absent
      simp [absent]
    · have other : [next].find? (·.viewId == viewId) = none := by simp [Ne.symm own]
      rw [if_neg own,other,Option.or_none]
      rfl

theorem distinct_putView (distinct : (registry.viewIntents.map (·.viewId)).Nodup) :
    ((registry.putView next).viewIntents.map (·.viewId)).Nodup := by
  by_cases present : (registry.loadViewIntent next.viewId).isSome = true
  · have same : (updateWhere (·.viewId == next.viewId) (fun _ => next) registry.viewIntents).map (·.viewId) =
        registry.viewIntents.map (·.viewId) := by
      simp only [updateWhere,List.map_map]
      refine List.map_congr_left fun row _ => ?_
      simp only [Function.comp_apply]
      split
      · next picked => exact (beq_iff_eq.mp picked).symm
      · rfl
    rw [putView_present present,same]
    exact distinct
  · have absent := Option.not_isSome_iff_eq_none.mp present
    rw [putView_absent absent,List.map_append,List.nodup_append]
    refine ⟨distinct,by simp,?_⟩
    intro viewId listed other own same
    subst same
    obtain ⟨row,held,rfl⟩ := List.mem_map.mp listed
    simp only [List.map_cons,List.map_nil,List.mem_singleton] at own
    exact find_key_eq_none.mp absent row held own

theorem enqueue_putView (numbered : Numbered before) (counted : next.revision = before.viewRevision next.viewId + 1) :
    enqueueProjection next (before.putView next) =
      { before.putView next with outbox := before.outbox ++ [next.event] } := by
  have unseen : (before.putView next).outbox.any (·.eventId == projectionEventId next.viewId next.revision) = false := by
    rw [List.any_eq_false]
    intro event listed same
    have listed : event ∈ before.outbox := listed
    rw [beq_iff_eq,numbered.named event listed] at same
    obtain ⟨own,revision⟩ := projectionEventId_inj same
    have counted' : event.viewIntent.revision ∈ List.range' 1 (before.viewRevision next.viewId) := by
      rw [← numbered.revisions,← own]
      exact List.mem_map_of_mem (List.mem_filter.mpr ⟨listed,by simp⟩)
    rw [List.mem_range'_1] at counted'
    omega
  simp only [enqueueProjection,unseen,Bool.false_eq_true,if_false]
  rfl

theorem ViewWrite.eq (numbered : Numbered before) {now : Nat} (write : ViewWrite now before next after) :
    after = { before.putView next with outbox := before.outbox ++ [next.event] } :=
  write.result.trans (enqueue_putView numbered write.numbered)

theorem Numbered.write {now : Nat} {next : ViewIntent} (write : ViewWrite now before next after)
    (numbered : Numbered before) : Numbered after := by
  have written := write.eq numbered
  have load : ∀ viewId, after.loadViewIntent viewId =
      if viewId = next.viewId then some next else before.loadViewIntent viewId := by
    intro viewId
    rw [written]
    exact loadViewIntent_putView next viewId
  subst written
  constructor
  · exact distinct_putView numbered.distinct
  · intro viewId
    simp only [Registry.viewRevision,load,Registry.eventsOf,List.filter_append,List.map_append]
    have held := numbered.revisions viewId
    simp only [Registry.eventsOf] at held
    rw [held]
    by_cases own : viewId = next.viewId
    · subst own
      have kept : [next.event].filter (·.viewIntent.viewId == next.viewId) = [next.event] := by simp [ViewIntent.event]
      rw [kept,if_pos rfl]
      simp only [List.map_cons,List.map_nil,Option.map_some,Option.getD_some,write.numbered]
      rw [List.range'_concat]
      simp [ViewIntent.event,write.numbered,Nat.add_comm]
    · have kept : [next.event].filter (·.viewIntent.viewId == viewId) = [] := by
        simp [ViewIntent.event,Ne.symm own]
      rw [kept,if_neg own]
      simp [Registry.viewRevision]
  · intro event listed
    rcases List.mem_append.mp listed with old | new
    · exact numbered.named event old
    · obtain rfl := List.mem_singleton.mp new
      rfl
  · intro view listed
    rcases mem_putView listed with rfl | ⟨held,_⟩
    · exact ⟨view.event,by simp,rfl⟩
    · obtain ⟨event,old,same⟩ := numbered.current view held
      exact ⟨event,List.mem_append_left _ old,same⟩

theorem InSight.write {now : Nat} {next : ViewIntent} (write : ViewWrite now before next after)
    (numbered : Numbered before) (held : InSight before) : InSight after := by
  have written := write.eq numbered
  subst written
  have onlyPrimary : ∀ view ∈ before.viewIntents, view.viewId ≠ next.viewId → view.soulId = next.soulId →
      next.kind = .automaticPrimary → view.kind = .automaticPrimary → False := by
    intro view listed other soul kind primary
    rcases write.primary kind with ⟨old,found,was⟩ | alone
    · obtain ⟨oldListed,oldNamed⟩ := loadViewIntent_some found
      have same := held.primary view listed old oldListed (soul.trans (write.kept old found).symm) primary was
      exact other (same ▸ oldNamed)
    · exact other (alone view listed soul primary)
  constructor
  · exact held.souls
  · intro view listed
    rcases mem_putView listed with rfl | ⟨old,_⟩
    · cases found : before.loadViewIntent view.viewId with
      | none => exact write.known found
      | some row =>
        obtain ⟨soul,soulListed,same⟩ := held.known row (loadViewIntent_some found).1
        exact ⟨soul,soulListed,same.trans (write.kept row found)⟩
    · exact held.known view old
  · intro view listed hidden
    rcases mem_putView listed with rfl | ⟨old,_⟩
    · rcases write.sight hidden with ⟨row,found,was⟩ | rests
      · rw [← write.kept row found]
        exact held.sight row (loadViewIntent_some found).1 was
      · exact rests
    · exact held.sight view old hidden
  · intro first firstListed second secondListed soul firstKind secondKind
    rcases mem_putView firstListed with rfl | ⟨firstOld,firstOther⟩ <;>
      rcases mem_putView secondListed with rfl | ⟨secondOld,secondOther⟩
    · rfl
    · exact (onlyPrimary second secondOld secondOther soul.symm firstKind secondKind).elim
    · exact (onlyPrimary first firstOld firstOther soul secondKind firstKind).elim
    · exact held.primary first firstOld second secondOld soul firstKind secondKind

theorem Numbered.writes {now : Nat} (writes : ViewWrites now before after) (numbered : Numbered before) :
    Numbered after := by
  induction writes with
  | refl => exact numbered
  | tail _ write ih =>
    obtain ⟨next,write⟩ := write
    exact ih.write write

theorem InSight.writes {now : Nat} (writes : ViewWrites now before after) (numbered : Numbered before)
    (held : InSight before) : InSight after := by
  induction writes with
  | refl => exact held
  | tail rest write ih =>
    obtain ⟨next,write⟩ := write
    exact ih.write write (numbered.writes rest)
end Freshell.Supervisor
