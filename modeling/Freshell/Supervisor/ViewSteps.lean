import Freshell.Supervisor.Projections

/-!
Every operation on views is a chain of writes, once its change of the souls is done:
no soul that rests is set running again, so no hidden view comes to one that runs.
-/
namespace Freshell.Supervisor
open Freshell.Library.Transactions
variable {registry before middle written after : Registry}

/-- The souls stay, and one that rests does not come back. -/
structure SoulsKept (before after : Registry) : Prop where
  distinct : (before.souls.map (·.soulId)).Nodup → (after.souls.map (·.soulId)).Nodup
  known : ∀ soul ∈ before.souls, ∃ next ∈ after.souls, next.soulId = soul.soulId
  rests : ∀ soulId, (∃ soul ∈ before.souls, soul.soulId = soulId) → before.rests soulId → after.rests soulId

theorem SoulsKept.same (same : after.souls = before.souls) : SoulsKept before after where
  distinct held := same ▸ held
  known soul listed := ⟨soul,same ▸ listed,rfl⟩
  rests _ _ resting soul listed own := resting soul (same ▸ listed) own

theorem SoulsKept.update {test : Soul → Bool} {change : Soul → Soul}
    (updated : after.souls = updateWhere test change before.souls) (ids : ∀ row, (change row).soulId = row.soulId)
    (stops : ∀ row, row.desiredState = .stopped → (change row).desiredState = .stopped) : SoulsKept before after where
  distinct held := by
    rw [updated,map_updateWhere ids]
    exact held
  known soul listed := by
    rw [updated]
    cases picked : test soul with
    | true => exact ⟨change soul,mem_updateWhere.mpr ⟨soul,listed,.inl ⟨picked,rfl⟩⟩,ids soul⟩
    | false => exact ⟨soul,mem_updateWhere.mpr ⟨soul,listed,.inr ⟨picked,rfl⟩⟩,rfl⟩
  rests soulId _ resting soul listed own := by
    rw [updated] at listed
    obtain ⟨old,held,⟨_,rfl⟩ | ⟨_,rfl⟩⟩ := mem_updateWhere.mp listed
    · exact stops old (resting old held ((ids old).symm.trans own))
    · exact resting soul held own

theorem SoulsKept.insert {row : Soul} (fresh : before.soul row.soulId = none)
    (inserted : after.souls = before.souls ++ [row]) : SoulsKept before after where
  distinct held := by
    rw [inserted,List.map_append,List.nodup_append]
    refine ⟨held,by simp,?_⟩
    intro soulId listed other own same
    subst same
    obtain ⟨soul,old,rfl⟩ := List.mem_map.mp listed
    simp only [List.map_cons,List.map_nil,List.mem_singleton] at own
    exact find_key_eq_none.mp fresh soul old own
  known soul listed := ⟨soul,inserted ▸ List.mem_append_left _ listed,rfl⟩
  rests soulId held resting soul listed own := by
    rw [inserted] at listed
    rcases List.mem_append.mp listed with old | new
    · exact resting soul old own
    · obtain rfl := List.mem_singleton.mp new
      obtain ⟨old,oldListed,same⟩ := held
      exact (find_key_eq_none.mp fresh old oldListed (same.trans own.symm)).elim

theorem SoulsKept.trans (first : SoulsKept before middle) (second : SoulsKept middle after) : SoulsKept before after where
  distinct held := second.distinct (first.distinct held)
  known soul listed := by
    obtain ⟨next,held,same⟩ := first.known soul listed
    obtain ⟨last,kept,again⟩ := second.known next held
    exact ⟨last,kept,again.trans same⟩
  rests soulId held resting := by
    obtain ⟨soul,listed,own⟩ := held
    obtain ⟨next,kept,same⟩ := first.known soul listed
    exact second.rests soulId ⟨next,kept,same.trans own⟩ (first.rests soulId ⟨soul,listed,own⟩ resting)

variable {soul : Soul}

theorem soul_eq (distinct : (registry.souls.map (·.soulId)).Nodup) {other : Soul}
    (known : registry.soul soul.soulId = some soul) (listed : other ∈ registry.souls)
    (own : other.soulId = soul.soulId) : other = soul := by
  have found : registry.soul other.soulId = some other := find_key_of_mem distinct listed
  rw [own,known] at found
  exact (Option.some.inj found).symm

variable {soulId : String}

theorem soul_known (known : registry.soul soulId = some soul) :
    soul ∈ registry.souls ∧ soul.soulId = soulId := of_find_key known

theorem rests_of_stopped (distinct : (registry.souls.map (·.soulId)).Nodup) (known : registry.soul soulId = some soul)
    (stopped : soul.desiredState = .stopped) : registry.rests soulId := by
  intro other listed own
  have named := (soul_known known).2
  rw [soul_eq distinct (named ▸ known) listed (own.trans named.symm)]
  exact stopped

variable {now : Nat}

theorem reviseView_write (numbered : Numbered before) {overflow : String} {current : ViewIntent}
    {change : ViewIntent → ViewIntent} (loaded : before.loadViewIntent current.viewId = some current)
    (ids : ∀ row, (change row).viewId = row.viewId) (souls : ∀ row, (change row).soulId = row.soulId)
    (kinds : ∀ row, (change row).kind = row.kind)
    (sight : (change current).visibility = .hidden → current.visibility = .hidden ∨ before.rests current.soulId)
    (done : reviseView overflow current change now before = .ok after) :
    ViewWrite now before { change current with revision := current.revision + 1, updatedAt := now } after := by
  simp only [reviseView,bind_eq_ok,ensure_eq_ok,found_eq_ok,pure_eq_ok] at done
  obtain ⟨_,_,updated,found,rfl⟩ := done
  have named : (change current).viewId = current.viewId := ids current
  have wrote : { before with
      viewIntents := updateWhere (fun row => row.viewId == current.viewId && row.revision == current.revision)
        (fun row => { change row with revision := current.revision + 1, updatedAt := now }) before.viewIntents } =
      before.putView { change current with revision := current.revision + 1, updatedAt := now } := by
    have present : (before.loadViewIntent (change current).viewId).isSome = true := by rw [named,loaded]; rfl
    simp only [Registry.putView]
    rw [if_pos present]
    congr 1
    simp only [updateWhere,named]
    refine List.map_congr_left fun row listed => ?_
    by_cases own : row.viewId = current.viewId
    · have same : row = current := by
        have found := numbered.load listed
        rw [own,loaded] at found
        exact (Option.some.inj found).symm
      subst same
      simp [ids]
    · simp [own]
  rw [wrote] at found ⊢
  have load := @loadViewIntent_putView before
    { change current with revision := current.revision + 1, updatedAt := now } current.viewId
  rw [if_pos named.symm] at load
  rw [load] at found
  obtain rfl := Option.some.inj found
  have old : ∀ row, before.loadViewIntent (change current).viewId = some row → row = current := by
    intro row was
    rw [named,loaded] at was
    exact (Option.some.inj was).symm
  have there : before.loadViewIntent (change current).viewId = some current := named ▸ loaded
  constructor
  · rfl
  · simp only [Registry.viewRevision]
    rw [there]
    rfl
  · rfl
  · intro row was
    rw [old row was]
    exact (souls current).symm
  · intro none
    rw [there] at none
    simp at none
  · intro hidden
    rcases sight hidden with was | rests
    · exact .inl ⟨current,there,was⟩
    · exact .inr (by rw [souls current]; exact rests)
  · intro kind
    exact .inl ⟨current,there,(kinds current).symm.trans kind⟩

variable {visibility : ViewVisibilityIntent} {revision : Nat}

theorem setAutomaticPrimary_writes (numbered : Numbered before) (rests : visibility = .hidden → before.rests soulId)
    (done : setAutomaticPrimaryInTx visibility soulId revision now before = .ok after) :
    ViewWrites now before after := by
  simp only [setAutomaticPrimaryInTx] at done
  split at done
  · rw [pure_eq_ok] at done
    exact done ▸ .refl
  · next current found =>
    have listed := List.mem_of_find?_eq_some found
    have named := List.find?_some found
    simp only [ViewIntent.automaticPrimaryOf,Bool.and_eq_true,beq_iff_eq] at named
    split at done
    · rw [pure_eq_ok] at done
      exact done ▸ .refl
    · have write := reviseView_write numbered (numbered.load listed) (by simp) (by simp) (by simp)
        (fun hidden => .inr (named.1 ▸ rests hidden)) done
      exact .single ⟨_,write⟩

variable {installation : Installation}

theorem ensureAutomaticPrimary_writes {workspaceId provider : String} {request : Option ViewIntentRequest}
    (known : ∃ soul ∈ before.souls, soul.soulId = soulId)
    (done : ensureAutomaticPrimaryInTx installation soulId workspaceId provider revision request now before = .ok after) :
    ViewWrites now before after := by
  simp only [ensureAutomaticPrimaryInTx] at done
  split at done
  · rw [pure_eq_ok] at done
    exact done ▸ .refl
  · next none =>
    simp only [insertView,bind_eq_ok,ensure_eq_ok,pure_eq_ok] at done
    obtain ⟨_,⟨_,fresh,_,_,rfl⟩,rfl⟩ := done
    refine .single ⟨automaticPrimaryIntentFromRequest installation soulId workspaceId provider request revision now,?_⟩
    constructor
    · simp only [Registry.putView,fresh,Option.isSome_none,Bool.false_eq_true,if_false]
    · rw [Registry.viewRevision,fresh]
      rfl
    · rfl
    · intro row found
      rw [fresh] at found
      simp at found
    · exact fun _ => known
    · intro hidden
      simp [automaticPrimaryIntentFromRequest] at hidden
    · intro _
      refine .inr fun view listed own kind => ?_
      have := List.find?_eq_none.mp none view listed
      simp only [automaticPrimaryIntentFromRequest] at own
      simp [ViewIntent.automaticPrimaryOf,own,kind] at this

theorem ViewWrite.souls {next : ViewIntent} (write : ViewWrite now before next after) : after.souls = before.souls := by
  rw [write.result]
  exact (ViewsOnly.enqueueProjection _ _).souls

theorem ViewWrites.souls (writes : ViewWrites now before after) : after.souls = before.souls := by
  induction writes with
  | refl => rfl
  | tail _ write ih =>
    obtain ⟨next,write⟩ := write
    exact write.souls.trans ih

theorem foldlM_writes {Item : Type} {now : Nat} {body : Registry → Item → Except RegistryError Registry} :
    ∀ {items : List Item} {before after : Registry},
      (∀ registry item next, item ∈ items → registry.souls = before.souls → Numbered registry →
        body registry item = .ok next → ViewWrites now registry next) →
      Numbered before → items.foldlM body before = .ok after → ViewWrites now before after
  | [],before,after,_,_,done => by
    simp only [List.foldlM_nil,pure_eq_ok] at done
    exact done ▸ .refl
  | item :: rest,before,after,each,numbered,done => by
    simp only [List.foldlM_cons,bind_eq_ok] at done
    obtain ⟨next,stepped,rested⟩ := done
    have first := each before item next (List.mem_cons_self ..) rfl numbered stepped
    have others := foldlM_writes (fun registry other last listed same counted stepped =>
      each registry other last (List.mem_cons_of_mem _ listed) (same.trans first.souls) counted stepped)
      (numbered.writes first) rested
    exact first.trans others

theorem advanceViews_writes (numbered : Numbered before)
    (done : advanceViewsInTx soulId revision now before = .ok after) : ViewWrites now before after := by
  refine foldlM_writes (fun registry viewId next _ _ counted stepped => ?_) numbered done
  simp only [bind_eq_ok,found_eq_ok] at stepped
  obtain ⟨current,loaded,revised⟩ := stepped
  have named := (loadViewIntent_some loaded).2
  have write := reviseView_write counted (named ▸ loaded) (by simp) (by simp) (by simp) (fun hidden => .inl hidden) revised
  exact .single ⟨_,write⟩

theorem backfill_writes (numbered : Numbered before) (distinct : (before.souls.map (·.soulId)).Nodup) {answer : PUnit}
    (done : backfillAutomaticViewIntents installation now before = .ok (answer,after)) :
    ViewWrites now before after := by
  simp only [backfillAutomaticViewIntents,bind_eq_ok,pure_eq_ok,Prod.mk.injEq,true_and] at done
  obtain ⟨last,folded,rfl⟩ := done
  refine foldlM_writes (fun registry soul next listed same counted stepped => ?_) numbered folded
  have listed : soul ∈ before.souls := by
    rw [List.mem_insertionSort] at listed
    exact List.mem_of_mem_filter listed
  simp only [bind_eq_ok] at stepped
  obtain ⟨placed,ensured,rest⟩ := stepped
  have creates := ensureAutomaticPrimary_writes ⟨soul,same ▸ listed,rfl⟩ ensured
  split at rest
  · next stopped =>
    have resting : before.rests soul.soulId := rests_of_stopped distinct (find_key_of_mem distinct listed) stopped
    have hides := setAutomaticPrimary_writes (counted.writes creates)
      (fun _ => by simpa only [Registry.rests,creates.souls,same] using resting) rest
    exact creates.trans hides
  · rw [pure_eq_ok] at rest
    exact rest ▸ creates

theorem makeVisible_writes (numbered : Numbered before) {answer : PUnit}
    (done : makeDesiredRunningViewsVisible now before = .ok (answer,after)) : ViewWrites now before after := by
  simp only [makeDesiredRunningViewsVisible,bind_eq_ok,pure_eq_ok,Prod.mk.injEq,true_and] at done
  obtain ⟨last,folded,rfl⟩ := done
  exact foldlM_writes (fun registry soul next _ _ counted stepped =>
    setAutomaticPrimary_writes counted (by simp) stepped) numbered folded

variable {answer : ViewIntent}

theorem updateVisibility_writes (numbered : Numbered before) (distinct : (before.souls.map (·.soulId)).Nodup)
    {viewId : String} {soulRevision : Nat}
    (done : updateViewVisibility viewId visibility revision soulRevision now before = .ok (answer,after)) :
    ViewWrites now before after := by
  simp only [updateViewVisibility,bind_eq_ok,found_eq_ok,ensure_eq_ok,pure_eq_ok,Prod.mk.injEq] at done
  obtain ⟨current,loaded,soul,known,_,_,_,_,_,guarded,_,revised,_,_,_,rfl⟩ := done
  have named := (loadViewIntent_some loaded).2
  have write := reviseView_write numbered (named ▸ loaded) (by simp) (by simp) (by simp)
    (fun hidden => .inr ?_) revised
  · exact .single ⟨_,write⟩
  · cases desired : soul.desiredState with
    | running => exact (guarded ⟨desired,hidden⟩).elim
    | stopped => exact rests_of_stopped distinct known desired

/-- What a client may ask of a view: to hide one only of a soul that rests, and to make one
    automatic only where its soul has no other. -/
def UpsertViewIntentRequest.Sound (request : UpsertViewIntentRequest) (installation : Installation) (registry : Registry) :
    Prop :=
  ∀ soul, registry.soul request.soulId = some soul → soul.intentRevision = request.expectedSoulIntentRevision →
    let viewId := request.target installation soul
    let current := registry.loadViewIntent viewId
    let owner := (current.map (·.soulId)).getD request.soulId
    (∃ revision, upsertRevision current request.expectedRevision = .ok revision) →
      (request.intent.visibility = .hidden → registry.rests owner) ∧
        (request.intent.kind = .automaticPrimary → ∀ view ∈ registry.viewIntents, view.soulId = owner →
          view.kind = .automaticPrimary → view.viewId = viewId)

theorem upsertRevision_eq {current : Option ViewIntent} {expected : Option Nat}
    (done : upsertRevision current expected = .ok revision) : revision = (current.map (·.revision)).getD 0 + 1 := by
  cases current with
  | none =>
    cases expected with
    | none =>
      simp only [upsertRevision,pure_eq_ok] at done
      exact done.symm
    | some expected =>
      simp only [upsertRevision] at done
      split at done
      · rw [pure_eq_ok] at done
        exact done.symm
      · simp [throw,throwThe,MonadExceptOf.throw] at done
  | some current =>
    cases expected with
    | none => simp [upsertRevision,throw,throwThe,MonadExceptOf.throw] at done
    | some expected =>
      simp only [upsertRevision,bind_eq_ok,ensure_eq_ok,pure_eq_ok] at done
      obtain ⟨_,_,_,_,rfl⟩ := done
      rfl

theorem upsert_writes {request : UpsertViewIntentRequest} (sound : request.Sound installation before)
    (done : upsertViewIntent installation request now before = .ok (answer,after)) : ViewWrites now before after := by
  simp only [upsertViewIntent,bind_eq_ok,found_eq_ok,ensure_eq_ok,pure_eq_ok,Prod.mk.injEq] at done
  obtain ⟨soul,known,_,intent,revision,counted,written,wrote,row,loaded,rfl,rfl⟩ := done
  obtain ⟨hides,primary⟩ := sound soul known intent ⟨revision,counted⟩
  generalize target : request.target installation soul = viewId at *
  generalize asked : request.write installation soul viewId (before.loadViewIntent viewId) revision now = next at *
  have named : next.viewId = viewId := asked ▸ rfl
  have put : written = before.putView next := by
    split at wrote
    · next present =>
      simp only [writeView,bind_eq_ok,ensure_eq_ok,pure_eq_ok] at wrote
      obtain ⟨_,_,rfl⟩ := wrote
      simp only [Registry.putView,named,present,if_true]
    · next absent =>
      simp only [insertView,bind_eq_ok,ensure_eq_ok,pure_eq_ok] at wrote
      obtain ⟨_,_,_,_,rfl⟩ := wrote
      simp only [Registry.putView,named]
      rw [if_neg absent]
  subst put
  rw [loadViewIntent_putView,if_pos named.symm] at loaded
  obtain rfl := Option.some.inj loaded
  refine .single ⟨next,?_⟩
  have owner : next.soulId = ((before.loadViewIntent viewId).map (·.soulId)).getD request.soulId := asked ▸ rfl
  constructor
  · rfl
  · simp only [Registry.viewRevision,named]
    rw [← upsertRevision_eq counted,← asked]
    rfl
  · rw [← asked]
    rfl
  · intro old found
    rw [named] at found
    rw [owner,found]
    rfl
  · intro none
    rw [named] at none
    rw [owner,none]
    exact ⟨soul,(soul_known known).1,(soul_known known).2⟩
  · intro hidden
    refine .inr ?_
    rw [owner]
    rw [← asked] at hidden
    exact hides hidden
  · intro kind
    refine .inr fun view listed own automatic => ?_
    rw [named]
    rw [← asked] at kind
    exact primary kind view listed (own.trans owner) automatic
end Freshell.Supervisor
