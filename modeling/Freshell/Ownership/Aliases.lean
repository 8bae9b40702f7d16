import Freshell.Library.Forests
import Freshell.Ownership.AttachExclusion
import Freshell.Ownership.Replay

/-!
The aliases that rekeys leave behind. A call points at most one key that was not
aliased, and never at a key whose own aliases lead back to it, so over every run
the aliases form a forest whose roots are recorded keys.
-/
namespace Freshell.Ownership
open Freshell.Library.Runs Freshell.Library.Forests Relation
set_option linter.unusedSimpArgs false

/-- The key that a call aliases, and its target. -/
def World.alias (world : World) (op : Op) : Option (SessionKey × SessionKey) :=
  match op,world.reply op with
  | .aliasVacantKey provider fromId toId,.commit .committed => some (⟨provider,fromId⟩,⟨provider,toId⟩)
  | _,_ => world.rekey op

def Op.closes : Op → Bool
  | .closeGuard _ => true
  | _ => false

namespace Registry

variable {registry : Registry} {provider : String}

theorem aliasedTo_eq_some {id toId : String} : registry.aliasedTo provider id = some toId ↔
      ∃ generation, (registry.record ⟨provider,id⟩).state = .aliased toId generation := by
  unfold aliasedTo Registry.record
  cases registry.get ⟨provider,id⟩ with
  | none => simp [SessionRecord.default]
  | some record =>
    cases held : record.state <;> simp [held]

theorem aliasedTo_of_get {other : Registry} {id : String} (same : registry.get ⟨provider,id⟩ = other.get ⟨provider,id⟩) :
    registry.aliasedTo provider id = other.aliasedTo provider id := by
  simp only [aliasedTo,same]

theorem recorded_of_aliasedTo {id toId : String} (aliased : registry.aliasedTo provider id = some toId) :
    (registry.get ⟨provider,id⟩).isSome := by
  cases found : registry.get ⟨provider,id⟩ with
  | none => simp [aliasedTo,found] at aliased
  | some record => rfl

theorem resolveFrom_eq_walk (registry : Registry) (provider : String) (fuel : Nat) (visited : List String)
    (current : String) :
    registry.resolveFrom provider fuel visited current = walk (registry.aliasedTo provider) fuel visited current := by
  induction fuel generalizing visited current with
  | zero => rfl
  | succ fuel ih =>
    simp only [resolveFrom,walk]
    split
    · rfl
    · cases registry.aliasedTo provider current with
      | none => rfl
      | some next => exact ih (current :: visited) next

theorem aliased_bounded (registry : Registry) (provider : String) (ids : List String) (nodup : ids.Nodup)
    (aliased : ∀ id ∈ ids, (registry.aliasedTo provider id).isSome) : ids.length ≤ registry.inner.entries.length := by
  have distinct : (ids.map (SessionKey.mk provider)).Nodup := by
    refine nodup.map ?_
    intro first second same
    exact congrArg SessionKey.sessionId same
  have recorded : ids.map (SessionKey.mk provider) ⊆ registry.inner.keys := by
    intro key member
    obtain ⟨id,listed,rfl⟩ := List.mem_map.mp member
    obtain ⟨toId,points⟩ := Option.isSome_iff_exists.mp (aliased id listed)
    exact AList.lookup_isSome.mp (recorded_of_aliasedTo points)
  have few := (distinct.subperm recorded).length_le
  simpa [AList.keys,List.keys] using few

structure Linked (registry : Registry) : Prop where
  forest : ∀ provider, Forest (registry.aliasedTo provider)
  recorded : ∀ {provider id toId}, registry.aliasedTo provider id = some toId →
    (registry.get ⟨provider,toId⟩).isSome

theorem Linked.rootOf (linked : registry.Linked) (provider id : String) :
    RootOf (registry.aliasedTo provider) id (registry.resolveCanonical provider id) := by
  rw [resolveCanonical,resolveFrom_eq_walk]
  apply walk_rootOf (linked.forest provider) (registry.aliased_bounded provider)
  · exact List.nodup_nil
  · intro node member
    cases member
  · simp only [List.length_nil]
    omega

theorem Linked.recorded_of_reaches (linked : registry.Linked) {id other : String}
    (recorded : (registry.get ⟨provider,id⟩).isSome)
    (chain : ReflTransGen (Points (registry.aliasedTo provider)) id other) :
    (registry.get ⟨provider,other⟩).isSome := by
  induction chain with
  | refl => exact recorded
  | tail _ points _ => exact linked.recorded points

theorem Linked.resolve_of_root (linked : registry.Linked) {id root : String}
    (ends : RootOf (registry.aliasedTo provider) id root) : registry.resolveCanonical provider id = root :=
  rootOf_unique (linked.rootOf provider id) ends

end Registry

section
variable {world : World} {op : Op} {provider id : String}

theorem recorded_kept (op : Op) {key : SessionKey} (recorded : (world.registry.get key).isSome) :
    ((world.step op).registry.get key).isSome := by
  rcases step_get world op key with same | ⟨record,after,_⟩
  · rw [same]
    exact recorded
  · rw [after]
    rfl

theorem aliasedTo_kept {toId : String} (op : Op) (aliased : world.registry.aliasedTo provider id = some toId) :
    (world.step op).registry.aliasedTo provider id = some toId := by
  obtain ⟨generation,held⟩ := Registry.aliasedTo_eq_some.mp aliased
  exact Registry.aliasedTo_eq_some.mpr ⟨generation,(aliased_step op held).1⟩

theorem alias_of_rekey {old new : SessionKey} (rekeyed : world.rekey op = some (old,new)) :
    world.alias op = some (old,new) := by
  unfold World.alias
  split
  · obtain ⟨names,_⟩ := rekey_iff.mp rekeyed
    cases names
  · exact rekeyed

theorem aliasedTo_frame (apart : ∀ new, world.alias op ≠ some (⟨provider,id⟩,new)) :
    (world.step op).registry.aliasedTo provider id = world.registry.aliasedTo provider id := by
  cases before : world.registry.aliasedTo provider id with
  | some toId => exact aliasedTo_kept op before
  | none =>
    cases after : (world.step op).registry.aliasedTo provider id with
    | none => rfl
    | some toId =>
      obtain ⟨generation,pointed⟩ := Registry.aliasedTo_eq_some.mp after
      rcases step_get world op ⟨provider,id⟩ with same | ⟨record,stands,move⟩
      · rw [Registry.aliasedTo_of_get same,before] at after
        cases after
      · rw [Registry.record_of_get stands] at pointed
        generalize owner : (⟨provider,id⟩ : SessionKey) = key at move apart
        cases move with
        | commitMovedOut found held absent =>
          exact absurd (alias_of_rekey (rekey_of_accepts_commit ⟨_,_,_,_,_,found,rfl,held,absent⟩)) (apart _)
        | startMovedOut found held absent =>
          exact absurd (alias_of_rekey (rekey_of_accepts_start ⟨_,_,_,_,_,found,rfl,held,absent⟩)) (apart _)
        | liveMovedOut found held expected absent =>
          exact absurd (alias_of_rekey
            (rekey_of_accepts_live ⟨⟨_,_,_,Registry.state_of_get found held,expected⟩,absent⟩)) (apart _)
        | terminalMovedOut found held foundOld heldOld under =>
          exact absurd (alias_of_rekey (rekey_of_accepts_terminal ⟨⟨_,_,_,Registry.state_of_get found held⟩,_,_,_,
            Registry.state_of_get foundOld heldOld,under⟩)) (apart _)
        | @aliased owned _ target _ absent found =>
          refine absurd ?_ (apart ⟨owned,target⟩)
          simp [World.alias,World.reply,World.call,Registry.aliasVacantKey,absent,found]
        | windowClosed listed outstanding found =>
          rw [← owner] at found
          have same := Registry.aliasedTo_eq_some.mpr ⟨_,Registry.state_of_get found pointed⟩
          rw [before] at same
          cases same
        | _ => simp_all [SessionRecord.fresh,SessionRecord.arm]

/-- The key that a call aliases was not aliased, and the target, which the call
    leaves recorded, is not aliased either or was recorded before the key was. -/
theorem alias_cases {old new : SessionKey} (points : world.alias op = some (old,new)) :
    old.provider = new.provider ∧ world.registry.aliasedTo old.provider old.sessionId = none ∧
      (world.step op).registry.aliasedTo old.provider old.sessionId = some new.sessionId ∧
      ((world.step op).registry.get new).isSome ∧
      (world.registry.aliasedTo new.provider new.sessionId = none ∧ old ≠ new ∨
        world.registry.get old = none ∧ (world.registry.get new).isSome) := by
  by_cases rekeyed : world.rekey op = some (old,new)
  · obtain ⟨⟨_,same,distinct,direct,free,⟨generation,aliased⟩,record,found,_⟩,_⟩ := rekey_cases rekeyed
    have unaliased {key : SessionKey} (direct : (world.registry.record key).state.isAliased = false) :
        world.registry.aliasedTo key.provider key.sessionId = none := by
      rw [Option.eq_none_iff_forall_ne_some]
      rintro toId points
      obtain ⟨generation,held⟩ := Registry.aliasedTo_eq_some.mp points
      rw [held] at direct
      cases direct
    exact ⟨same,unaliased direct,Registry.aliasedTo_eq_some.mpr ⟨generation,aliased⟩,by rw [found]; rfl,
      .inl ⟨unaliased free,distinct⟩⟩
  unfold World.alias at points
  split at points
  · next provider fromId toId committed =>
    cases points
    rcases world.registry.aliasVacantKey_cases provider fromId toId with ⟨_,refused⟩ | ⟨toRecord,absent,found,answered⟩
    · exact absurd (Reply.commit.inj committed) refused
    · have distinct := Registry.ne_of_recorded found absent
      refine ⟨rfl,?_,?_,?_,.inr ⟨absent,by rw [found]; rfl⟩⟩
      · simp [Registry.aliasedTo,absent]
      · simp [World.step,World.call,answered,Registry.aliasedTo,SessionRecord.fresh]
      · simp [World.step,World.call,answered,distinct,found]
  · exact absurd points rekeyed

/-- A call points one root of one provider at a node of another tree, or leaves
    the aliases as they are. -/
theorem aliases_step (op : Op) (linked : world.registry.Linked) :
    ((∀ key new, world.alias op ≠ some (key,new)) ∧
      ∀ provider, (world.step op).registry.aliasedTo provider = world.registry.aliasedTo provider) ∨
    ∃ provider oldId newId, world.alias op = some (⟨provider,oldId⟩,⟨provider,newId⟩) ∧
      world.registry.aliasedTo provider oldId = none ∧ ((world.step op).registry.get ⟨provider,newId⟩).isSome ∧
      ¬RootOf (world.registry.aliasedTo provider) newId oldId ∧
      (world.step op).registry.aliasedTo provider =
        Function.update (world.registry.aliasedTo provider) oldId (some newId) ∧
      ∀ other, other ≠ provider → (world.step op).registry.aliasedTo other = world.registry.aliasedTo other := by
  cases points : world.alias op with
  | none =>
    refine .inl ⟨nofun,fun provider => funext fun id => ?_⟩
    exact aliasedTo_frame fun new pointed => by
      rw [points] at pointed
      cases pointed
  | some pair =>
    obtain ⟨⟨provider,oldId⟩,⟨_,newId⟩⟩ := pair
    obtain ⟨rfl,free,pointed,recorded,apart⟩ := alias_cases points
    have other {key : SessionKey} (distinct : key ≠ ⟨provider,oldId⟩) (new : SessionKey) :
        world.alias op ≠ some (key,new) := by
      rw [points]
      rintro same
      exact distinct (congrArg Prod.fst (Option.some.inj same)).symm
    refine .inr ⟨provider,oldId,newId,rfl,free,recorded,?_,?_,?_⟩
    · rintro ⟨chain,_⟩
      rcases apart with ⟨unaliased,distinct⟩ | ⟨absent,present⟩
      · exact distinct (by rw [reaches_root unaliased chain])
      · have found := linked.recorded_of_reaches present chain
        rw [absent] at found
        cases found
    · funext id
      by_cases same : id = oldId
      · subst same
        rw [Function.update_self,pointed]
      · rw [Function.update_of_ne same]
        exact aliasedTo_frame (other fun keys => same (congrArg SessionKey.sessionId keys))
    · intro foreign distinct
      funext id
      exact aliasedTo_frame (other fun keys => distinct (congrArg SessionKey.provider keys))

theorem linked_step (op : Op) (linked : world.registry.Linked) : (world.step op).registry.Linked := by
  rcases aliases_step op linked with ⟨_,same⟩ | ⟨provider,oldId,newId,_,free,recorded,apart,moved,same⟩
  · refine ⟨fun provider => same provider ▸ linked.forest provider,?_⟩
    intro provider id toId aliased
    rw [same provider] at aliased
    exact recorded_kept op (linked.recorded aliased)
  · constructor
    · intro other
      by_cases own : other = provider
      · subst own
        rw [moved]
        exact (linked.forest other).update free apart
      · rw [same other own]
        exact linked.forest other
    · intro other id toId aliased
      by_cases own : other = provider
      · subst own
        rw [moved] at aliased
        by_cases pointed : id = oldId
        · subst pointed
          rw [Function.update_self] at aliased
          exact Option.some.inj aliased ▸ recorded
        · rw [Function.update_of_ne pointed] at aliased
          exact recorded_kept op (linked.recorded aliased)
      · rw [same other own] at aliased
        exact recorded_kept op (linked.recorded aliased)

/-- Where the call makes a root of the aliases resolve. -/
def World.redirect (world : World) (op : Op) (provider root : String) : String :=
  match world.alias op with
  | some (old,new) =>
    if old = ⟨provider,root⟩ then world.registry.resolveCanonical provider new.sessionId else root
  | none => root

theorem resolve_step (op : Op) (linked : world.registry.Linked) (provider id : String) :
    (world.step op).registry.resolveCanonical provider id =
      world.redirect op provider (world.registry.resolveCanonical provider id) := by
  have after := linked_step op linked
  have ends := linked.rootOf provider id
  unfold World.redirect
  rcases aliases_step op linked with ⟨none,same⟩ | ⟨pointing,oldId,newId,points,free,_,apart,moved,same⟩
  · cases points : world.alias op with
    | some pair => exact absurd points (none pair.1 pair.2)
    | none => exact after.resolve_of_root (same provider ▸ ends)
  · rw [points]
    by_cases own : pointing = provider
    · subst own
      by_cases root : world.registry.resolveCanonical pointing id = oldId
      · rw [root] at ends
        have joined := linked.rootOf pointing newId
        simp only [root,if_true]
        apply after.resolve_of_root
        rw [moved]
        exact rootOf_update_of_old free ends joined fun loops => apart (loops ▸ joined)
      · simp only [SessionKey.mk.injEq,true_and,Ne.symm root,if_false]
        apply after.resolve_of_root
        rw [moved]
        exact rootOf_update_of_ne free ends root
    · simp only [SessionKey.mk.injEq,own,false_and,if_false]
      exact after.resolve_of_root (same provider (Ne.symm own) ▸ ends)

theorem resolve_of_alias {oldId newId : String} (linked : world.registry.Linked)
    (points : world.alias op = some (⟨provider,oldId⟩,⟨provider,newId⟩))
    (resolved : world.registry.resolveCanonical provider id = oldId) :
    (world.step op).registry.resolveCanonical provider id = (world.step op).registry.resolveCanonical provider newId := by
  have apart : world.registry.resolveCanonical provider newId ≠ oldId := by
    intro loops
    rcases aliases_step op linked with ⟨none,_⟩ | ⟨_,_,_,pointed,_,_,apart,_⟩
    · exact none _ _ points
    · obtain ⟨⟨rfl,rfl⟩,_,rfl⟩ : (provider = _ ∧ oldId = _) ∧ provider = _ ∧ newId = _ := by
        simpa [points] using pointed
      exact apart (loops ▸ linked.rootOf provider newId)
  rw [resolve_step op linked,resolve_step op linked,resolved]
  simp [World.redirect,points,apart.symm]

end

theorem linked_mint (epoch : Nat) : (World.mint epoch).registry.Linked where
  forest provider id := ⟨id,rootOf_self rfl⟩
  recorded aliased := by cases aliased

variable {world : World}

theorem linked_run (linked : world.registry.Linked) (ops : List Op) : (run World.step world ops).registry.Linked := by
  have kept : ∀ (w : World) op, w.registry.Linked → True → (w.step op).registry.Linked := fun _ op held _ => linked_step op held
  exact invariant_run kept linked (along_of_forall (fun _ _ => trivial) world ops)

theorem together_run (linked : world.registry.Linked) {provider id other : String}
    (together : world.registry.resolveCanonical provider id = world.registry.resolveCanonical provider other)
    (ops : List Op) : (run World.step world ops).registry.resolveCanonical provider id =
      (run World.step world ops).registry.resolveCanonical provider other := by
  induction ops generalizing world with
  | nil => exact together
  | cons op rest ih =>
    apply ih (linked_step op linked)
    rw [resolve_step op linked,resolve_step op linked,together]

/-- The record with the attach windows of these operations closed. -/
def SessionRecord.closeWindows (record : SessionRecord) (operations : List String) : SessionRecord :=
  operations.foldl .closeWindow record

@[simp] theorem closeWindows_state (record : SessionRecord) (operations : List String) :
    (record.closeWindows operations).state = record.state := by
  induction operations generalizing record with
  | nil => rfl
  | cons operation rest ih => exact ih (record.closeWindow operation)

variable {key : SessionKey} {record : SessionRecord}

theorem residue_step (op : Op) (found : world.registry.get key = some record) (aliased : record.state.isAliased = true) :
    ∃ closed, closed.length ≤ (if op.closes then 1 else 0) ∧
      (world.step op).registry.get key = some (record.closeWindows closed) := by
  rcases step_get world op key with same | ⟨changed,stands,move⟩
  · exact ⟨[],Nat.zero_le _,same.trans found⟩
  · have recorded := Registry.record_of_get found
    unfold OwnershipState.isAliased at aliased
    split at aliased
    · next toId generation held =>
      cases move with
      | @windowClosed _ guard _ listed outstanding closing =>
        obtain rfl := Option.some.inj (closing.symm.trans found)
        exact ⟨[guard.operationId],Nat.le_refl 1,stands⟩
      | committed closing commits =>
        obtain rfl := Option.some.inj (closing.symm.trans found)
        simp [held,OwnershipState.commits] at commits
      | forceReleased closing matched =>
        obtain rfl := Option.some.inj (closing.symm.trans found)
        simp [held,OwnershipState.forceReleases] at matched
      | failedVacant closing owned | failedRestored closing owned =>
        obtain rfl := Option.some.inj (closing.symm.trans found)
        simp [held,OwnershipState.heldBy] at owned
      | _ => exfalso; simp_all
    · cases aliased

theorem residue_run (found : world.registry.get key = some record) (aliased : record.state.isAliased = true)
    (ops : List Op) : ∃ closed, closed.length ≤ ops.countP Op.closes ∧
      (run World.step world ops).registry.get key = some (record.closeWindows closed) := by
  induction ops generalizing world record with
  | nil => exact ⟨[],Nat.le_refl 0,found⟩
  | cons op rest ih =>
    obtain ⟨first,few,stands⟩ := residue_step op found aliased
    obtain ⟨later,bound,ends⟩ := ih stands (by rwa [closeWindows_state])
    refine ⟨first ++ later,?_,?_⟩
    · rw [List.length_append,List.countP_cons]
      omega
    · rw [run_cons,ends,SessionRecord.closeWindows,SessionRecord.closeWindows,SessionRecord.closeWindows,List.foldl_append]

namespace Registry

variable {registry : Registry}

theorem mem_snapshotRecords {reported : RuntimeOwnerReplayRecord} : reported ∈ registry.snapshotRecords ↔
      ∃ key record, registry.get key = some record ∧ registry.replayRecord key record = reported := by
  constructor
  · intro member
    obtain ⟨⟨key,record⟩,listed,replayed⟩ := List.mem_map.mp member
    exact ⟨key,record,AList.mem_lookup_iff.mpr listed,replayed⟩
  · rintro ⟨key,record,found,replayed⟩
    exact List.mem_map.mpr ⟨⟨key,record⟩,AList.mem_lookup_iff.mp found,replayed⟩

theorem Linked.resolve_target (linked : registry.Linked) {provider id toId : String}
    (aliased : registry.aliasedTo provider id = some toId) :
    registry.resolveCanonical provider toId = registry.resolveCanonical provider id :=
  linked.resolve_of_root ((rootOf_above aliased).mpr (linked.rootOf provider toId)) |>.symm

theorem Linked.canonical (linked : registry.Linked) {provider id : String}
    (recorded : (registry.get ⟨provider,id⟩).isSome) :
    registry.Recorded ⟨provider,registry.resolveCanonical provider id⟩ := by
  obtain ⟨chain,root⟩ := linked.rootOf provider id
  obtain ⟨record,found⟩ := Option.isSome_iff_exists.mp (linked.recorded_of_reaches recorded chain)
  refine ⟨record,found,?_⟩
  cases held : record.state with
  | aliased toId generation =>
    rw [aliasedTo_eq_some.mpr ⟨generation,state_of_get found held⟩] at root
    cases root
  | _ => rfl

/-- The aliases of every provider form a forest over records, whose roots are
    not aliased, and an aliased key is replayed as its root is. -/
structure AliasForest (registry : Registry) : Prop where
  acyclic : ∀ provider id, ¬TransGen (Points (registry.aliasedTo provider)) id id
  recorded : ∀ provider id toId, registry.aliasedTo provider id = some toId → (registry.get ⟨provider,toId⟩).isSome
  resolves : ∀ provider id, (registry.get ⟨provider,id⟩).isSome →
    registry.Recorded ⟨provider,registry.resolveCanonical provider id⟩
  unrecorded : ∀ provider id, registry.get ⟨provider,id⟩ = none → registry.resolveCanonical provider id = id
  replayed : ∀ key, (registry.get key).isSome → ∃ reported ∈ registry.snapshotRecords,
    reported.provider = key.provider ∧ reported.sessionId = key.sessionId
  replays : ∀ reported ∈ registry.snapshotRecords, ∀ canonical ∈ registry.snapshotRecords,
    (registry.aliasedTo reported.provider reported.sessionId).isSome → canonical.provider = reported.provider →
    canonical.sessionId = registry.resolveCanonical reported.provider reported.sessionId →
    reported.toReplayFields = canonical.toReplayFields ∧ reported.generation = canonical.generation

theorem Linked.aliasForest (linked : registry.Linked) : registry.AliasForest where
  acyclic provider := (linked.forest provider).acyclic
  recorded _ _ _ := linked.recorded
  resolves _ _ := linked.canonical
  unrecorded provider id absent := linked.resolve_of_root (rootOf_self (by simp [aliasedTo,absent]))
  replayed key present := by
    obtain ⟨record,found⟩ := Option.isSome_iff_exists.mp present
    have own := registry.replayRecord_key key record
    exact ⟨_,mem_snapshotRecords.mpr ⟨key,record,found,rfl⟩,own.1,own.2.1⟩
  replays reported first canonical second aliased provider resolved := by
    obtain ⟨key,record,found,rfl⟩ := mem_snapshotRecords.mp first
    obtain ⟨root,rootRecord,rootFound,rfl⟩ := mem_snapshotRecords.mp second
    have own := registry.replayRecord_key key record
    have rootOwn := registry.replayRecord_key root rootRecord
    rw [own.1,own.2.1] at aliased resolved
    rw [own.1,rootOwn.1] at provider
    rw [rootOwn.2.1] at resolved
    obtain ⟨toId,target⟩ := Option.isSome_iff_exists.mp aliased
    obtain ⟨generation,held⟩ := aliasedTo_eq_some.mp target
    rw [record_of_get found] at held
    obtain ⟨settled,settledFound,direct⟩ := linked.canonical (recorded_of_aliasedTo target)
    have same : root = ⟨key.provider,registry.resolveCanonical key.provider key.sessionId⟩ := by
      cases root
      simp_all
    subst same
    obtain rfl := Option.some.inj (settledFound.symm.trans rootFound)
    unfold replayRecord
    simp only [held,linked.resolve_target target,settledFound]
    split
    · next points => rw [points] at direct; cases direct
    · exact ⟨rfl,rfl⟩

end Registry

/-- What a further run makes of the aliases: an aliased record changes only in
    the attach windows that its guards close, and the ids that a call moves to
    another key resolve as that key does for good. -/
structure World.KeepsAliases (world : World) (rest : List Op) : Prop where
  residue : ∀ key record, world.registry.get key = some record → record.state.isAliased = true →
    ∃ closed, closed.length ≤ rest.countP Op.closes ∧
      (run World.step world rest).registry.get key = some (record.closeWindows closed)
  moved : ∀ op provider oldId newId id, world.alias op = some (⟨provider,oldId⟩,⟨provider,newId⟩) →
    world.registry.resolveCanonical provider id = oldId →
    (run World.step (world.step op) rest).registry.resolveCanonical provider id =
      (run World.step (world.step op) rest).registry.resolveCanonical provider newId

/-- In every state of every run the aliases form a forest with recorded roots,
    and every further run keeps what they resolve alike. -/
theorem aliases_form_forest (epoch : Nat) (ops rest : List Op) :
    (run World.step (.mint epoch) ops).registry.AliasForest ∧ (run World.step (.mint epoch) ops).KeepsAliases rest := by
  have linked := linked_run (linked_mint epoch) ops
  refine ⟨linked.aliasForest,?_⟩
  constructor
  · intro key record found aliased
    exact residue_run found aliased rest
  · intro op provider oldId newId id points resolved
    exact together_run (linked_step op linked) (resolve_of_alias linked points resolved) rest

/-- An attach guard held over a live rekey is closed on the aliased record. -/
theorem closedGuard_changesAlias :
    let key : SessionKey := ⟨"codex","old"⟩
    let owner : OwnerIdentity := ⟨.freshAgent,none,some "live-1",none,none⟩
    let moved := run World.step (.mint 7) [.beginStart key .freshAgent "start-1" none "device" 0 none,
      .commitLive key "start-1" 1 owner 0,.beginAttachGuard key "attach-1" none "device" 0,
      .rekeyLive "codex" "old" "new" "live-1" owner 0]
    (moved.registry.record key).state = .aliased "new" 2 ∧
      (moved.step (.closeGuard 0)).registry.get key ≠ moved.registry.get key := by
  decide

end Freshell.Ownership
