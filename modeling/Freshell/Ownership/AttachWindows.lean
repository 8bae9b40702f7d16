import Freshell.Ownership.Grants

/-!
The accounting of attach windows: the in-flight count of a record, the operation
ids armed on it, and the guards that will release on its key. A start that is
rekeyed with open windows takes the count to a key that no guard releases on.
-/
namespace Freshell.Ownership
open Freshell.Library.Runs
set_option linter.unusedSimpArgs false

def Op.isGuard : Op → Bool
  | .beginAttachGuard _ _ _ _ _ | .beginAdoptGuard _ _ _ _ _ _ | .closeGuard _ => true
  | _ => false

theorem guards_step {world : World} {op : Op} (plain : op.isGuard = false) :
    (world.step op).guards = world.guards := by
  cases op <;> first | rfl | cases plain

/-- The operation ids of the guards not yet closed that release on this key. -/
def outstanding (guards : List AttachGuard) (key : SessionKey) : List String :=
  (guards.filter fun guard => !guard.disarmed && guard.key = key).map (·.operationId)

/-- The registry with every in-flight count cleared. -/
def Registry.withoutAttaches (registry : Registry) : Registry :=
  registry.mapRecords fun _ record => { record with inFlightAttaches := 0 }

/-- The call is refused, and would be granted were no attach in flight. -/
def World.RefusedByAttach (world : World) (op : Op) : Prop :=
  world.grant op = none ∧ ({ world with registry := world.registry.withoutAttaches } : World).grant op ≠ none

/-- The accounting of one state: at each key the count is the number of armed
    ids and the number of guards that will release there; and once every guard
    is closed, no call is refused because of an attach. -/
structure World.Accounted (world : World) : Prop where
  counted : ∀ key, (world.registry.record key).inFlightAttaches = (world.registry.record key).armedAttachOps.length ∧
    (world.registry.record key).inFlightAttaches = (outstanding world.guards key).length
  unblocked : (∀ guard ∈ world.guards, guard.disarmed = true) → ∀ op, ¬ world.RefusedByAttach op

/-- No start with an open attach window is rekeyed, and no guard is armed on a
    record whose count is at the largest `u32`. -/
def World.WindowsStay (world : World) : Op → Prop
  | .rekeyStarting provider oldId newId operationId generation =>
    world.registry.AcceptsStartRekey provider oldId newId operationId generation →
      (world.registry.record ⟨provider,oldId⟩).inFlightAttaches = 0
  | .beginAttachGuard key _ observedGeneration _ _ =>
    world.registry.AcceptsAttach key observedGeneration → (world.registry.record key).inFlightAttaches < maxInFlight
  | .beginAdoptGuard key _ expected observed _ _ =>
    world.registry.AcceptsAdopt key expected observed → (world.registry.record key).inFlightAttaches < maxInFlight
  | _ => True

section
variable {world : World} {op : Op} {key : SessionKey} {record : SessionRecord}

/-- A move of any other call keeps the windows of the record, except that a
    rekeyed start takes them from the old key to the new one. -/
theorem move_windows (plain : op.isGuard = false) (move : Move world op key record) :
    (record.inFlightAttaches = (world.registry.record key).inFlightAttaches ∧
      record.armedAttachOps = (world.registry.record key).armedAttachOps) ∨
    ∃ provider oldId newId operationId generation, op = .rekeyStarting provider oldId newId operationId generation ∧
      world.registry.AcceptsStartRekey provider oldId newId operationId generation ∧
      ((key = ⟨provider,oldId⟩ ∧ record.inFlightAttaches = 0 ∧ record.armedAttachOps = []) ∨
        (key = ⟨provider,newId⟩ ∧
          record.inFlightAttaches = (world.registry.record ⟨provider,oldId⟩).inFlightAttaches ∧
          record.armedAttachOps = (world.registry.record ⟨provider,oldId⟩).armedAttachOps)) := by
  cases move with
  | startMovedOut found held absent =>
    exact .inr ⟨_,_,_,_,_,rfl,⟨_,_,_,_,_,found,rfl,held,absent⟩,.inl ⟨rfl,rfl,rfl⟩⟩
  | startMovedIn found held absent =>
    refine .inr ⟨_,_,_,_,_,rfl,⟨_,_,_,_,_,found,rfl,held,absent⟩,.inr ⟨rfl,?_⟩⟩
    rw [Registry.record_of_get found]
    exact ⟨rfl,rfl⟩
  | commitMovedIn found held absent | liveMovedIn found held expected absent | aliased absent found =>
    left
    rw [Registry.record_of_none absent]
    exact ⟨rfl,rfl⟩
  | startGranted fresh held free | handoffGranted fresh held free => exact .inl ⟨rfl,rfl⟩
  | terminalMovedOut found held foundOld heldOld under =>
    left; rw [Registry.record_of_get foundOld]; exact ⟨rfl,rfl⟩
  | terminalMovedIn found held foundOld heldOld under => left; rw [Registry.record_of_get found]; exact ⟨rfl,rfl⟩
  | attachArmed found held | adoptArmed found held | windowClosed listed outstanding found => cases plain
  | _ => left; rw [Registry.record_of_get ‹_›]; exact ⟨rfl,rfl⟩

end

theorem outstanding_append (guards : List AttachGuard) (guard : AttachGuard) (held : guard.disarmed = false)
    (key : SessionKey) : outstanding (guards ++ [guard]) key =
      outstanding guards key ++ if guard.key = key then [guard.operationId] else [] := by
  by_cases same : guard.key = key <;> simp [outstanding,held,same]

theorem split_at {α : Type} {list : List α} {index : Nat} {element : α} (listed : list[index]? = some element)
    (other : α) : list = list.take index ++ element :: list.drop (index+1) ∧
      list.set index other = list.take index ++ other :: list.drop (index+1) := by
  obtain ⟨bound,rfl⟩ := List.getElem?_eq_some_iff.mp listed
  exact ⟨by simp,List.set_eq_take_append_cons_drop ▸ if_pos bound⟩

theorem outstanding_close {guards : List AttachGuard} {index : Nat} {guard : AttachGuard}
    (listed : guards[index]? = some guard) (held : guard.disarmed = false) (key : SessionKey) :
    (outstanding guards key).Perm ((if guard.key = key then [guard.operationId] else []) ++
      outstanding (guards.set index { guard with disarmed := true }) key) := by
  obtain ⟨before,after⟩ := split_at listed { guard with disarmed := true }
  rw [after]
  conv_lhs => rw [before]
  by_cases same : guard.key = key
  · simp [outstanding,held,same]
  · simp [outstanding,held,same]

theorem armedGuard_refused {outcome : AttachGuardOutcome} (refused : ∀ guard, outcome ≠ .armed guard) :
    World.armedGuard outcome = [] := by
  cases outcome with
  | armed guard => exact absurd rfl (refused guard)
  | _ => rfl

/-- The armed ids of a key are, in some order, the ids of the guards that will
    release there, and the count is their number. -/
def World.Balanced (world : World) : Prop :=
  ∀ key, (world.registry.record key).inFlightAttaches = (world.registry.record key).armedAttachOps.length ∧
    (world.registry.record key).armedAttachOps.Perm (outstanding world.guards key)

theorem balanced_mint (epoch : Nat) : (World.mint epoch).Balanced := fun _ => ⟨rfl,.nil⟩

section
variable {world : World}

theorem balanced_arm {key : SessionKey} {record : SessionRecord} {operationId : String} {guard : AttachGuard}
    (balanced : world.Balanced) (found : world.registry.get key = some record)
    (armed : guard.key = key ∧ guard.operationId = operationId ∧ guard.disarmed = false)
    (below : record.inFlightAttaches < maxInFlight) :
    World.Balanced ⟨world.registry.set key (record.arm operationId),world.guards ++ [guard]⟩ := by
  intro other
  have before := balanced other
  rw [outstanding_append _ _ armed.2.2,armed.1,armed.2.1]
  by_cases same : key = other
  · subst same
    rw [Registry.record_of_get found] at before
    simp only [if_true,Registry.record_set_self,SessionRecord.arm,List.length_append,List.length_singleton]
    exact ⟨by omega,before.2.append_right _⟩
  · simpa [same,Ne.symm same] using before

theorem balanced_close {index : Nat} {guard : AttachGuard} (balanced : world.Balanced)
    (listed : world.guards[index]? = some guard) (held : guard.disarmed = false) :
    World.Balanced ⟨world.registry.releaseWindow guard,world.guards.set index { guard with disarmed := true }⟩ := by
  intro other
  have before := balanced other
  have closed := outstanding_close listed held other
  by_cases same : guard.key = other
  · subst same
    simp only [if_true,List.singleton_append] at closed
    have listedOps := before.2.trans closed
    cases found : world.registry.get guard.key with
    | none =>
      rw [Registry.record_of_none found] at listedOps
      exact absurd listedOps.length_eq (by simp [SessionRecord.default])
    | some record =>
      rw [Registry.record_of_get found] at before listedOps
      simp only [Registry.releaseWindow,found,Registry.record,Registry.get_set_self,Option.getD_some,
        SessionRecord.closeWindow]
      have member : guard.operationId ∈ record.armedAttachOps := listedOps.mem_iff.mpr List.mem_cons_self
      refine ⟨by rw [List.length_erase_of_mem member,before.1],?_⟩
      simpa using listedOps.erase guard.operationId
  · simp only [same,if_false,List.nil_append] at closed
    have unchanged : (world.registry.releaseWindow guard).record other = world.registry.record other := by
      unfold Registry.releaseWindow
      split
      · rfl
      · simp [Registry.record,Ne.symm same]
    rw [unchanged]
    exact ⟨before.1,before.2.trans closed⟩

theorem balanced_step (op : Op) (balanced : world.Balanced) (stays : world.WindowsStay op) :
    (world.step op).Balanced := by
  by_cases plain : op.isGuard = false
  · intro key
    rw [guards_step plain]
    have before := balanced key
    rcases step_get world op key with same | ⟨record,found,move⟩
    · simpa only [Registry.record,same] using before
    · rw [Registry.record_of_get found]
      rcases move_windows plain move with ⟨count,armed⟩ | ⟨provider,oldId,newId,operationId,generation,rfl,accepts,moved⟩
      · rw [count,armed]; exact before
      · have closed := stays accepts
        have none_ : (world.registry.record ⟨provider,oldId⟩).armedAttachOps = [] := by
          rw [← List.length_eq_zero_iff,← (balanced ⟨provider,oldId⟩).1,closed]
        obtain ⟨_,_,_,_,_,_,_,_,absent⟩ := accepts
        rcases moved with ⟨rfl,count,armed⟩ | ⟨rfl,count,armed⟩
        · rw [count,armed]
          rw [none_] at before
          exact ⟨rfl,before.2⟩
        · rw [count,armed,closed,none_]
          rw [Registry.record_of_none absent] at before
          exact ⟨rfl,before.2⟩
  · cases op with
    | beginAttachGuard key operationId observedGeneration initiator clock =>
      rcases world.registry.beginAttachGuard_cases key operationId observedGeneration initiator clock with
        ⟨same,refused⟩ | ⟨record,owner,generation,sinceMs,found,held,answered⟩
      · simpa only [World.step,World.call,same,armedGuard_refused refused,List.append_nil] using balanced
      · have below := stays (Registry.acceptsAttach_of_armed (congrArg Prod.fst answered))
        rw [Registry.record_of_get found] at below
        simp only [World.step,World.call,answered,World.armedGuard]
        exact balanced_arm balanced found ⟨rfl,rfl,rfl⟩ below
    | beginAdoptGuard key operationId expected observed initiator clock =>
      rcases world.registry.beginAdoptGuard_cases key operationId expected observed initiator clock with
        ⟨same,refused⟩ | ⟨record,owner,generation,sinceMs,found,held,answered⟩
      · simpa only [World.step,World.call,same,armedGuard_refused refused,List.append_nil] using balanced
      · have below := stays (Registry.acceptsAdopt_of_armed (congrArg Prod.fst answered))
        rw [Registry.record_of_get found] at below
        simp only [World.step,World.call,answered,World.armedGuard]
        exact balanced_arm balanced found ⟨rfl,rfl,rfl⟩ below
    | closeGuard index =>
      simp only [World.step,World.call,World.closeGuard]
      cases listed : world.guards[index]? with
      | none => exact balanced
      | some guard =>
        cases held : guard.disarmed with
        | true => simpa [held] using balanced
        | false => simpa [held] using balanced_close balanced listed held
    | _ => exact absurd rfl plain

theorem withoutAttaches_of_idle {registry : Registry}
    (idle : ∀ key, (registry.record key).inFlightAttaches = 0) : registry.withoutAttaches = registry := by
  obtain ⟨epoch,inner⟩ := registry
  simp only [Registry.withoutAttaches,Registry.mapRecords,Registry.mk.injEq,true_and]
  refine AList.ext ((List.map_congr_left ?_).trans (List.map_id _))
  rintro ⟨key,record⟩ listed
  have found : Registry.get ⟨epoch,inner⟩ key = some record := AList.mem_lookup_iff.mpr listed
  have none_ := idle key
  rw [Registry.record_of_get found] at none_
  simp [← none_]

theorem accounted_of_balanced (balanced : world.Balanced) : world.Accounted where
  counted key := ⟨(balanced key).1,(balanced key).1.trans (balanced key).2.length_eq⟩
  unblocked := by
    rintro closed op ⟨refused,granted⟩
    have idle (key : SessionKey) : (world.registry.record key).inFlightAttaches = 0 := by
      have none_ : outstanding world.guards key = [] := by
        simp only [outstanding,List.map_eq_nil_iff,List.filter_eq_nil_iff]
        intro guard listed
        simp [closed guard listed]
      rw [(balanced key).1,(balanced key).2.length_eq,none_,List.length_nil]
    rw [withoutAttaches_of_idle idle] at granted
    exact granted refused

theorem below_of_armed {record : SessionRecord} {operationId : String}
    (before : record.inFlightAttaches = record.armedAttachOps.length)
    (after : (record.arm operationId).inFlightAttaches = (record.arm operationId).armedAttachOps.length) :
    record.inFlightAttaches < maxInFlight := by
  simp only [SessionRecord.arm,List.length_append,List.length_singleton] at after
  omega

theorem windowsStay_of_accounted (op : Op) (before : world.Accounted) (after : (world.step op).Accounted) :
    world.WindowsStay op := by
  cases op with
  | rekeyStarting provider oldId newId operationId generation =>
    rintro ⟨record,kind,gen,initiator,sinceMs,found,rfl,held,absent⟩
    have counted := (after.counted ⟨provider,newId⟩).2
    have unguarded := (before.counted ⟨provider,newId⟩).2
    rw [Registry.record_of_none absent] at unguarded
    have guards : (world.step (.rekeyStarting provider oldId newId operationId record.generation)).guards =
        world.guards := rfl
    rw [guards,← unguarded] at counted
    rw [Registry.record_of_get found]
    simpa [World.step,World.call,Registry.rekeyStarting,found,held,absent,SessionRecord.default] using counted
  | beginAttachGuard key operationId observedGeneration initiator clock =>
    rintro ⟨owner,generation,sinceMs,held,current⟩
    have found := Registry.get_of_not_vacant (show (world.registry.record key).state ≠ .vacant by simp [held])
    have counted := (after.counted key).1
    have length := (before.counted key).1
    generalize world.registry.record key = record at held found length ⊢
    have armed : (world.registry.beginAttachGuard key operationId observedGeneration initiator clock).2 =
        world.registry.set key (record.arm operationId) := by
      simp [Registry.beginAttachGuard,found,held,current]
    exact below_of_armed length (by simpa only [World.step,World.call,armed,Registry.record_set_self] using counted)
  | beginAdoptGuard key operationId expected observed initiator clock =>
    rintro ⟨epoch,owner,sinceMs,held,adopted⟩
    have found := Registry.get_of_not_vacant (show (world.registry.record key).state ≠ .vacant by simp [held])
    have counted := (after.counted key).1
    have length := (before.counted key).1
    generalize world.registry.record key = record at held found length ⊢
    have armed : (world.registry.beginAdoptGuard key operationId expected observed initiator clock).2 =
        world.registry.set key (record.arm operationId) := by
      simp [Registry.beginAdoptGuard,found,held,epoch,adopted]
    exact below_of_armed length (by simpa only [World.step,World.call,armed,Registry.record_set_self] using counted)
  | _ => trivial

end

/-- The accounting is right in every state of a run exactly when no call of it
    rekeys a start with an open attach window or arms a guard at the largest
    count. -/
theorem attach_windows_accounted_iff (epoch : Nat) (ops : List Op) :
    (∀ before, before <+: ops → (run World.step (.mint epoch) before).Accounted) ↔
      Along World.step World.WindowsStay (.mint epoch) ops := by
  constructor
  · intro reached
    refine along_of_prefixes ?_ reached
    exact fun _ op => windowsStay_of_accounted op
  · intro stays before isPrefix
    have balanced : (run World.step (.mint epoch) before).Balanced := by
      refine invariant_run ?_ (balanced_mint epoch) (along_before isPrefix stays)
      exact fun _ op => balanced_step op
    exact accounted_of_balanced balanced

/-- A guarded terminal dies, its guard's holder starts again inside the window,
    the start is rekeyed to the minted id, and the guard is dropped. -/
def rekeyInsideWindow : List Op :=
  let provisional : SessionKey := ⟨"opencode","pane"⟩
  let owner : OwnerIdentity := ⟨.terminal,some "term-1",none,none,none⟩
  [.beginStart provisional .terminal "start-1" none "device" 0 none,
    .commitLive provisional "start-1" 1 owner 0,
    .beginAttachGuard provisional "attach-1" none "device" 0,
    .release provisional ⟨"start-1",1,some owner⟩,
    .beginStart provisional .terminal "start-2" none "device" 0 (some "attach-1"),
    .rekeyStarting "opencode" "pane" "minted" "start-2" 2,
    .closeGuard 0,
    .commitLive ⟨"opencode","minted"⟩ "start-2" 2 owner 0]

/-- Every guard is closed, the minted key still counts one, and a stop of its
    runtime is refused because of it. -/
theorem rekeyInsideWindow_leaks :
    ¬ ∀ before, before <+: rekeyInsideWindow → (run World.step (.mint 7) before).Accounted := by
  intro accounted
  have last := accounted rekeyInsideWindow (List.prefix_refl _)
  have closed : ∀ guard ∈ (run World.step (.mint 7) rekeyInsideWindow).guards, guard.disarmed = true := by decide
  exact last.unblocked closed (.beginStop ⟨"opencode","minted"⟩ "stop-1" ⟨.terminal,none,⟨7,2⟩⟩ "device" 0) (by
    unfold World.RefusedByAttach
    decide)

end Freshell.Ownership
