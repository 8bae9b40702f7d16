import Freshell.Ownership.Grants

/-!
The generations of a run. The record's counter only grows, unless a terminal
rebind aliases an old key whose live state lies two or more generations below
its record; the generation written in a state is the record's, or for a live
state at most the record's; and every new grant exceeds all earlier ones.
-/
namespace Freshell.Ownership
open Freshell.Library.Runs
set_option linter.unusedSimpArgs false

/-- The generation in the state is the record's; a live state, and the era that
    a stop can return to, lie at most there. -/
def SessionRecord.Coherent (record : SessionRecord) : Prop :=
  match record.state with
  | .vacant => True
  | .live _ generation _ => generation ≤ record.generation
  | .stopping _ priorGeneration _ generation _ _ =>
    generation = record.generation ∧ ∀ prior, priorGeneration = some prior → prior ≤ record.generation
  | .starting _ _ generation _ _ | .handoff _ _ _ generation _ _ | .fenced _ _ _ generation _ _
  | .aliased _ generation => generation = record.generation

def World.Coherent (world : World) : Prop :=
  ∀ key record, world.registry.get key = some record → record.Coherent

theorem coherent_mint (epoch : Nat) : (World.mint epoch).Coherent := by
  intro key record found
  simp [World.mint] at found

theorem World.Coherent.record {world : World} (coherent : world.Coherent) (key : SessionKey) :
    (world.registry.record key).Coherent := by
  cases found : world.registry.get key with
  | none => rw [Registry.record_of_none found]; trivial
  | some record => rw [Registry.record_of_get found]; exact coherent key record found

variable {world : World} {op : Op} {key : SessionKey}

theorem move_coherent {record : SessionRecord} (coherent : world.Coherent) (move : Move world op key record) :
    record.Coherent := by
  cases move with
  | startMovedIn found held absent => exact coherent _ _ found
  | stopGranted found held free exactly own =>
    have before := coherent _ _ found
    simp only [SessionRecord.Coherent,held] at before ⊢
    exact ⟨trivial,fun prior same => by cases same; omega⟩
  | stopAborted found held =>
    have before := coherent _ _ found
    simp only [SessionRecord.Coherent,held] at before ⊢
    exact before.2 _ rfl
  | terminalMovedIn found held foundOld heldOld under =>
    have before := coherent _ _ found
    simp only [SessionRecord.Coherent,held] at before ⊢
    omega
  | startRegistered found held | partialRegistered found held | stopRegistered found held =>
    have before := coherent _ _ found
    simpa only [SessionRecord.Coherent,held] using before
  | startRecovered found held =>
    have before := coherent _ _ found
    simp only [SessionRecord.Coherent,held] at before ⊢
    exact ⟨before,by simp⟩
  | stopRecovered found held =>
    have before := coherent _ _ found
    simp only [SessionRecord.Coherent,held] at before ⊢
    exact before.1
  | attachArmed found held | adoptArmed found held =>
    have before := coherent _ _ found
    simpa only [SessionRecord.Coherent,SessionRecord.arm,held] using before
  | windowClosed listed outstanding found =>
    have before := coherent _ _ found
    simpa only [SessionRecord.Coherent,SessionRecord.closeWindow] using before
  | _ => simp [SessionRecord.Coherent,SessionRecord.fresh]

theorem coherent_step (world : World) (op : Op) (coherent : world.Coherent) : (world.step op).Coherent := by
  intro key record found
  rcases step_get world op key with same | ⟨changed,foundChanged,move⟩
  · exact coherent key record (same ▸ found)
  · rw [foundChanged] at found
    cases found
    exact move_coherent coherent move

theorem coherent_run (epoch : Nat) (ops : List Op) : (run World.step (.mint epoch) ops).Coherent :=
  invariant_reachable coherent_step (coherent_mint epoch) ⟨ops,rfl⟩

/-- The call is no terminal rebind that the registry accepts while the record of
    the old key is more than one generation past its live state. -/
def World.TerminalRekeyInStep (world : World) : Op → Prop
  | .commitLiveRekeyFromTerminal provider newId operationId generation oldId expectedTerminalId _ _ =>
    world.registry.AcceptsTerminalRekey provider newId operationId generation oldId expectedTerminalId →
      (world.registry.record ⟨provider,oldId⟩).generation ≤
        snapshotGeneration (world.registry.record ⟨provider,oldId⟩) + 1
  | _ => True

/-- No record's generation is lower after the call. -/
def World.GenerationsGrow (world : World) (op : Op) : Prop :=
  ∀ key, (world.registry.record key).generation ≤ ((world.step op).registry.record key).generation

/-- A move keeps or raises the generation, or is the way out of a terminal
    rebind, which leaves one generation past the live state. -/
theorem move_generation {record : SessionRecord} (move : Move world op key record) :
    (world.registry.record key).generation ≤ record.generation ∨
    ∃ provider newId operationId generation oldId expectedTerminalId owner clock,
      op = .commitLiveRekeyFromTerminal provider newId operationId generation oldId expectedTerminalId owner clock ∧
      world.registry.AcceptsTerminalRekey provider newId operationId generation oldId expectedTerminalId ∧
      key = ⟨provider,oldId⟩ ∧ record.generation = snapshotGeneration (world.registry.record key) + 1 ∧
      record.state = .aliased newId record.generation := by
  cases move with
  | @terminalMovedOut provider newId operationId generation oldId expectedTerminalId owner clock newRecord oldRecord
      kind initiator startedMs oldOwner oldGeneration sinceMs found held foundOld heldOld under =>
    right
    refine ⟨provider,newId,operationId,generation,oldId,expectedTerminalId,owner,clock,rfl,?_,rfl,?_,rfl⟩
    · refine ⟨⟨kind,initiator,startedMs,?_⟩,oldOwner,oldGeneration,sinceMs,?_,under⟩
      · rw [Registry.record_of_get found,held]
      · rw [Registry.record_of_get foundOld,heldOld]
    · simp only [Registry.record_of_get foundOld,snapshotGeneration,heldOld]
  | startGranted fresh held free | handoffGranted fresh held free => exact .inl (Nat.le_succ _)
  | commitMovedIn found held absent | startMovedIn found held absent | aliased absent found =>
    simp [Registry.record_of_none absent,SessionRecord.default]
  | liveMovedIn found held expected absent => simp [Registry.record_of_none absent,SessionRecord.default]
  | acknowledged found exactly held | stopGranted found held free exactly own | liveMovedOut found held expected absent =>
    simp [Registry.record_of_get found]
  | attachArmed found held | adoptArmed found held => simp [Registry.record_of_get found,SessionRecord.arm]
  | windowClosed listed outstanding found => simp [Registry.record_of_get found,SessionRecord.closeWindow]
  | terminalMovedIn found held foundOld heldOld under => simp [Registry.record_of_get found]
  | _ => simp [Registry.record_of_get ‹_›,SessionRecord.fresh]

theorem generations_grow (inStep : world.TerminalRekeyInStep op) : world.GenerationsGrow op := by
  intro key
  rcases step_get world op key with same | ⟨record,found,move⟩
  · rw [record_step same]
  · rw [Registry.record_of_get found]
    rcases move_generation move with grown | ⟨_,_,_,_,_,_,_,_,rfl,accepts,rfl,lowered,_⟩
    · exact grown
    · rw [lowered]
      exact inStep accepts

theorem generation_step (world : World) (op : Op) (key : SessionKey) :
    (world.registry.record key).generation ≤ ((world.step op).registry.record key).generation ∨
      ∃ toId generation, ((world.step op).registry.record key).state = .aliased toId generation := by
  rcases step_get world op key with same | ⟨record,found,move⟩
  · rw [record_step same]; exact .inl (Nat.le_refl _)
  · rw [Registry.record_of_get found]
    rcases move_generation move with grown | ⟨_,newId,_,_,_,_,_,_,_,_,_,_,aliased⟩
    · exact .inl grown
    · exact .inr ⟨newId,_,aliased⟩

theorem inStep_of_generations_grow (grow : world.GenerationsGrow op) : world.TerminalRekeyInStep op := by
  cases op with
  | commitLiveRekeyFromTerminal provider newId operationId generation oldId expectedTerminalId owner clock =>
    rintro ⟨⟨kind,initiator,startedMs,starting⟩,oldOwner,oldGeneration,sinceMs,live,terminal,under⟩
    have grown := grow ⟨provider,oldId⟩
    have foundNew := Registry.get_of_not_vacant (starting ▸ nofun : (world.registry.record ⟨provider,newId⟩).state ≠ .vacant)
    have foundOld := Registry.get_of_not_vacant (live ▸ nofun : (world.registry.record ⟨provider,oldId⟩).state ≠ .vacant)
    generalize world.registry.record ⟨provider,newId⟩ = newRecord at starting foundNew
    generalize oldSame : world.registry.record ⟨provider,oldId⟩ = oldRecord at live foundOld grown ⊢
    have claimed : newRecord.isStarting operationId generation = true :=
      (SessionRecord.isStarting_iff _ _ _).mpr ⟨kind,initiator,startedMs,starting⟩
    simp only [snapshotGeneration,live]
    simpa [World.step,World.call,Registry.commitLiveRekeyFromTerminal,foundNew,foundOld,claimed,live,terminal,under,
      Registry.record] using grown
  | _ => trivial

variable {grant : Grant}

theorem newGrant_generation (granted : world.newGrant op = some grant) :
    grant.generation = (world.registry.record grant.key).generation + 1 ∧
      ((world.step op).registry.record grant.key).generation = grant.generation := by
  obtain ⟨granted,free⟩ := grant_of_newGrant granted
  rcases grant_cases granted with ⟨_,claimed,_⟩ | ⟨_,next,record,found,_,entered,_⟩
  · rw [free] at claimed; cases claimed
  · exact ⟨next,by rw [Registry.record_of_get found,entered]⟩

theorem reclaim_generation (coherent : world.Coherent) (granted : world.grant op = some grant)
    (old : world.newGrant op = none) : grant.generation = (world.registry.record grant.key).generation := by
  rcases grant_cases granted with ⟨_,claimed,_,held⟩ | ⟨free,_⟩
  · have state := coherent.record grant.key
    unfold SessionRecord.Coherent at state
    cases record : (world.registry.record grant.key).state <;>
      simp_all [OwnershipState.isClaimed,OwnershipState.generation]
  · simp [World.newGrant,granted,free] at old

/-- The generations newly granted on a key along a run, in order. -/
def newGrants (key : SessionKey) : World → List Op → List Nat
  | _,[] => []
  | world,op :: rest =>
    ((world.newGrant op).toList.filter (·.key = key)).map (·.generation) ++ newGrants key (world.step op) rest

/-- The generations of a run: no call lowers a record's, each new grant on a key
    exceeds all earlier ones there, a re-claim answers the generation it holds,
    and in every state reached the generation of each record's state is the
    record's, for a live state at most the record's. -/
structure MonotoneRun (start : World) (ops : List Op) : Prop where
  grow : Along World.step World.GenerationsGrow start ops
  strict : ∀ key, (newGrants key start ops).Pairwise (· < ·)
  reclaim : Along World.step (fun world op => ∀ grant, world.grant op = some grant → world.newGrant op = none →
    grant.generation = (world.registry.record grant.key).generation) start ops
  coherent : ∀ before, before <+: ops → (run World.step start before).Coherent

variable {start : World} {ops : List Op}

theorem newGrants_above (grow : Along World.step World.GenerationsGrow start ops) :
    ∀ generation ∈ newGrants key start ops, (start.registry.record key).generation < generation := by
  induction ops generalizing start with
  | nil => simp [newGrants]
  | cons op rest ih =>
    intro generation member
    simp only [newGrants,List.mem_append,List.mem_map,List.mem_filter,Option.mem_toList,Option.mem_def] at member
    rcases member with ⟨grant,⟨granted,same⟩,rfl⟩ | later
    · obtain rfl : grant.key = key := of_decide_eq_true same
      rw [(newGrant_generation granted).1]
      exact Nat.lt_succ_self _
    · exact Nat.lt_of_le_of_lt (grow.1 key) (ih grow.2 generation later)

theorem newGrants_pairwise (grow : Along World.step World.GenerationsGrow start ops) :
    (newGrants key start ops).Pairwise (· < ·) := by
  induction ops generalizing start with
  | nil => exact .nil
  | cons op rest ih =>
    rw [newGrants,List.pairwise_append]
    refine ⟨?_,ih grow.2,?_⟩
    · cases start.newGrant op with
      | none => simp
      | some grant => simp only [Option.toList_some,List.filter_cons,List.filter_nil]; split <;> simp
    · intro first member later memberLater
      simp only [List.mem_map,List.mem_filter,Option.mem_toList,Option.mem_def] at member
      obtain ⟨grant,⟨granted,same⟩,rfl⟩ := member
      obtain rfl : grant.key = key := of_decide_eq_true same
      rw [← (newGrant_generation granted).2]
      exact newGrants_above grow.2 later memberLater

/-- Generations are monotone exactly in the runs where every terminal rebind
    that the registry accepts finds the record of its old key at most one
    generation past the live state. -/
theorem generations_monotone_iff (epoch : Nat) (ops : List Op) :
    MonotoneRun (.mint epoch) ops ↔ Along World.step World.TerminalRekeyInStep (.mint epoch) ops := by
  constructor
  · intro monotone
    exact along_mono (fun _ _ => inStep_of_generations_grow) monotone.grow
  · intro inStep
    have grow := along_mono (fun _ _ => generations_grow) inStep
    refine ⟨grow,fun key => newGrants_pairwise grow,?_,fun before _ => coherent_run epoch before⟩
    exact invariant_along (fun world op coherent _ => coherent_step world op coherent)
      (fun world op coherent _ grant granted old => reclaim_generation coherent granted old) (coherent_mint epoch) inStep

/-- A terminal is stopped and its stop aborted twice, which leaves its record two
    generations past its live state; then an identity rebind moves it. -/
def rebindAfterAborts : List Op :=
  let old : SessionKey := ⟨"codex","old"⟩
  let new : SessionKey := ⟨"codex","new"⟩
  let owner : OwnerIdentity := ⟨.terminal,some "term-1",none,none,none⟩
  let claim : StopClaim := ⟨.terminal,none,⟨7,1⟩⟩
  [.beginStart old .terminal "start-1" none "device" 0 none,
    .commitLive old "start-1" 1 owner 0,
    .beginStop old "stop-1" claim "device" 0, .abortStop old "stop-1" 2 0,
    .beginStop old "stop-2" claim "device" 0, .abortStop old "stop-2" 3 0,
    .beginStart new .terminal "start-2" none "device" 0 none,
    .commitLiveRekeyFromTerminal "codex" "new" "start-2" 1 "old" "term-1" owner 0]

/-- The rebind takes the old key's record from generation 3 back to 2. -/
theorem rebindAfterAborts_decreases : ¬ MonotoneRun (.mint 7) rebindAfterAborts := by
  intro monotone
  have grown := monotone.grow.2.2.2.2.2.2.2.1 ⟨"codex","old"⟩
  revert grown
  decide

end Freshell.Ownership
