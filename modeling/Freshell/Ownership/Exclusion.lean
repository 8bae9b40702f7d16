import Freshell.Ownership.Ledger

/-!
Mutual exclusion. A granted start or handoff stays in flight, and nothing else
is granted on its key, until its own operation concludes it, the watchdog
recovers it or a confirmed kill releases it; from then on its generation is
behind the record and every late call of its operation changes nothing.
-/
namespace Freshell.Ownership
open Freshell.Library.Runs
set_option linter.unusedSimpArgs false

def Op.begins : Op → Bool
  | .beginStart _ _ _ _ _ _ _ | .beginHandoff _ _ _ _ _ _ | .beginHandoffAcknowledged _ _ _ _ _ _ => true
  | _ => false

/-- The claim that a call puts in flight: what a begin grants, or a start under
    the key that it is rekeyed to. -/
def World.entered (world : World) (op : Op) : Option Grant :=
  if op.begins then world.grant op else (world.carried op).map fun moved => { moved.1 with key := moved.2 }

/-- A commit, rekey, fail or fence by the operation and generation of a claim;
    the drop of its ticket is a fail. -/
def Grant.CalledBy (grant : Grant) (op : Op) : Prop :=
  op.commits = some grant ∨ (∃ newKey, op.carries = some (grant,newKey)) ∨
  (∃ priorConfirmedLive clock, op = .fail grant.key grant.operationId grant.generation priorConfirmedLive clock) ∨
  ∃ reason unconfirmed clock,
    op = .fenceUnconfirmedHandoff grant.key grant.operationId grant.generation reason unconfirmed clock

/-- A call of the claim's own operation, or the sweep of the watchdog. -/
def Grant.ConcludedBy (grant : Grant) (op : Op) : Prop :=
  grant.CalledBy op ∨ ∃ nowMs maxAgeMs fired, op = .recoverStaleStarts nowMs maxAgeMs fired

/-- The confirmed kill of a start that registered no runtime. -/
def Grant.KilledBy (grant : Grant) (op : Op) : Prop :=
  op = .forceReleaseForConfirmedKill grant.key ⟨grant.operationId,grant.generation,none⟩

/-- Nothing but the claim itself is granted on its key. -/
def World.GrantsOnly (world : World) (grant : Grant) : Prop :=
  ∀ op other, world.grant op = some other → other.key = grant.key → other = grant

section
variable {world : World} {op : Op} {grant : Grant}

theorem inFlight_entered (coherent : world.Coherent) (entered : world.entered op = some grant) :
    (world.step op).InFlight grant := by
  unfold World.entered at entered
  split at entered
  · next begins =>
    rcases grant_cases entered with ⟨same,claimed,operation,generation⟩ | ⟨_,_,record,found,move,current,operation⟩
    · have state := coherent.record grant.key
      simp only [World.InFlight,same]
      refine ⟨claimed,operation,?_⟩
      unfold SessionRecord.Coherent at state
      cases held : (world.registry.record grant.key).state <;>
        simp_all [OwnershipState.isClaimed,OwnershipState.generation]
    · rw [World.InFlight,Registry.record_of_get found]
      refine ⟨?_,operation,current⟩
      cases op with
      | beginStart | beginHandoff | beginHandoffAcknowledged => cases move; rfl
      | _ => cases begins
  · obtain ⟨⟨moved,newKey⟩,carried,rfl⟩ := Option.map_eq_some_iff.mp entered
    obtain ⟨before,_,after,_⟩ := carried_cases carried
    simpa only [World.InFlight,after] using before

theorem inFlight_grantsOnly (coherent : world.Coherent) (inFlight : world.InFlight grant) : world.GrantsOnly grant := by
  intro op other granted same
  obtain ⟨claimed,operation,current⟩ := inFlight
  rw [← same] at claimed operation current
  rcases grant_cases granted with ⟨_,_,operation',generation⟩ | ⟨free,_⟩
  · have state := coherent.record other.key
    have own : other.operationId = grant.operationId := Option.some.inj (operation'.symm.trans operation)
    have level : other.generation = grant.generation := by
      rw [← current]
      unfold SessionRecord.Coherent at state
      cases held : (world.registry.record other.key).state <;>
        simp_all [OwnershipState.isClaimed,OwnershipState.generation]
    cases other; cases grant; simp_all
  · rw [free] at claimed; cases claimed

private theorem heldBy_of_inFlight (inFlight : world.InFlight grant) :
    world.registry.get grant.key = some (world.registry.record grant.key) ∧
      (world.registry.record grant.key).state.heldBy grant.operationId := by
  obtain ⟨claimed,operation,_⟩ := inFlight
  refine ⟨Registry.get_of_not_vacant (by intro vacant; rw [vacant] at claimed; cases claimed),?_⟩
  cases held : (world.registry.record grant.key).state with
  | starting kind op generation initiator sinceMs =>
    rw [held] at operation
    cases operation
    exact .inl ⟨kind,generation,initiator,sinceMs,rfl⟩
  | handoff prior toKind op generation initiator sinceMs =>
    rw [held] at operation
    cases operation
    exact .inr ⟨prior,toKind,generation,initiator,sinceMs,rfl⟩
  | _ => rw [held] at claimed; cases claimed

/-- A call that ends a claim in flight is its own operation's, the watchdog's or
    a confirmed kill. -/
theorem inFlight_kept (coherent : world.Coherent) (inFlight : world.InFlight grant) :
    ((grant.ConcludedBy op ∨ grant.KilledBy op) ∧ ¬ (world.step op).InFlight grant) ∨
      (world.step op).InFlight grant := by
  by_cases after : (world.step op).InFlight grant
  · exact .inr after
  · refine .inl ⟨?_,after⟩
    obtain ⟨before,held⟩ := heldBy_of_inFlight inFlight
    have state := coherent _ _ before
    obtain ⟨claimed,operation,current⟩ := inFlight
    rcases step_get world op grant.key with same | ⟨changed,foundChanged,move⟩
    · exact absurd ⟨by rwa [record_step same],by rwa [record_step same],by rwa [record_step same]⟩ after
    · rw [World.InFlight,Registry.record_of_get foundChanged] at after
      obtain ⟨key,operationId,generation⟩ := grant
      generalize recorded : world.registry.record key = record at before held state claimed operation current
      dsimp only at *
      have mine {other : SessionRecord} (found : world.registry.get key = some other) : other = record :=
        Option.some.inj (found.symm.trans before)
      cases move with
      | committed found commits =>
        obtain rfl := mine found
        rcases OwnershipState.heldBy_of_commits commits with ⟨_,_,_,_,own⟩ | ⟨_,_,_,_,_,own⟩ <;>
          · rw [own] at operation
            cases operation
            exact .inl (.inl (.inl (by rw [← current]; rfl)))
      | commitMovedOut found own absent =>
        obtain rfl := mine found
        rw [own] at operation
        cases operation
        exact .inl (.inl (.inl (by rw [← current]; rfl)))
      | startMovedOut found own absent =>
        obtain rfl := mine found
        rw [own] at operation
        cases operation
        exact .inl (.inl (.inr (.inl ⟨_,by rw [← current]; rfl⟩)))
      | terminalMovedIn found own foundOld heldOld under =>
        obtain rfl := mine found
        rw [own] at operation
        cases operation
        simp only [SessionRecord.Coherent,own] at state
        exact .inl (.inl (.inl (by rw [← current,← state]; rfl)))
      | failedVacant found own | failedRestored found own =>
        obtain rfl := mine found
        rcases own with ⟨_,_,_,_,own⟩ | ⟨_,_,_,_,_,own⟩ <;>
          · rw [own] at operation
            cases operation
            exact .inl (.inl (.inr (.inr (.inl ⟨_,_,by rw [← current]⟩))))
      | handoffFenced found own =>
        obtain rfl := mine found
        rw [own] at operation
        cases operation
        exact .inl (.inl (.inr (.inr (.inr ⟨_,_,_,by rw [← current]⟩))))
      | startRecovered found own => exact .inl (.inr ⟨_,_,_,rfl⟩)
      | @forceReleased _ claim _ found matched =>
        obtain rfl := mine found
        rcases held with ⟨_,_,_,_,own⟩ | ⟨_,_,_,_,_,own⟩
        · simp only [own,OwnershipState.forceReleases,Bool.and_eq_true,beq_iff_eq,Option.isNone_iff_eq_none] at matched
          simp only [SessionRecord.Coherent,own] at state
          obtain ⟨⟨same,level⟩,unnamed⟩ := matched
          refine .inr ?_
          rw [Grant.KilledBy,← current,← state,same,level,← unnamed]
        · simp [own,OwnershipState.forceReleases] at matched
      | startRegistered found own | partialRegistered found own | windowClosed listed outstanding found =>
        obtain rfl := mine found
        exact absurd ⟨claimed,operation,current⟩ after
      -- the other moves find no record, or one that is not in flight
      | commitMovedIn found own absent | startMovedIn found own absent | liveMovedIn found own expected absent
      | aliased absent found =>
        rw [before] at absent
        cases absent
      | startGranted fresh own free =>
        rw [recorded] at own
        rw [own] at claimed
        cases claimed
      | handoffGranted fresh own free =>
        rw [recorded] at own
        rcases own with ⟨own,_⟩ | ⟨_,_,_,own,_⟩ <;>
          · rw [own] at claimed
            cases claimed
      | acknowledged found exactly own | liveMovedOut found own expected absent
      | terminalMovedOut foundNew heldNew found own under | stopFenced found own | liveFenced found own stamped
      | fenceReleased found own | forceCleared found own clears | stopGranted found own free exactly mismatch
      | stopCommitted found own | stopAborted found own | released found own matched | stopRegistered found own
      | stopRecovered found own | attachArmed found own | adoptArmed found own =>
        obtain rfl := mine found
        rw [own] at claimed
        cases claimed

/-- The key is aliased, or its record is past the generation of the claim or
    holds it in no start or handoff. -/
def World.Settled (world : World) (grant : Grant) : Prop :=
  ∃ record, world.registry.get grant.key = some record ∧
    ((∃ toId generation, record.state = .aliased toId generation) ∨ grant.generation < record.generation ∨
      grant.generation = record.generation ∧ record.state.isClaimed = false)

/-- The record is live at the generation of the claim under an owner with the
    stamp of its commit. -/
def World.HeldLive (world : World) (grant : Grant) : Prop :=
  ∃ owner sinceMs, (world.registry.record grant.key).state = .live owner grant.generation sinceMs ∧
    owner.ownershipId = some grant.operationId

/-- The watchdog took the start of the claim to a stop under its own operation. -/
def World.HeldStopping (world : World) (grant : Grant) : Prop :=
  ∃ owner prior initiator sinceMs, (world.registry.record grant.key).state =
    .stopping owner prior grant.operationId grant.generation initiator sinceMs

/-- Late calls of the claim leave the registry as it is: its commits, rekeys,
    fails and fences, and a release or a confirmed kill under it unless the
    record is live by its commit or stopping by its recovery. -/
structure World.Inert (world : World) (grant : Grant) : Prop where
  called : ∀ op, grant.CalledBy op → (world.step op).registry = world.registry
  released : ∀ runtime, ¬ world.HeldLive grant →
    (world.step (.release grant.key ⟨grant.operationId,grant.generation,runtime⟩)).registry = world.registry
  killed : ∀ runtime, ¬ world.HeldLive grant → ¬ world.HeldStopping grant →
    (world.step (.forceReleaseForConfirmedKill grant.key ⟨grant.operationId,grant.generation,runtime⟩)).registry =
      world.registry

theorem not_inFlight_of_settled (settled : world.Settled grant) : ¬ world.InFlight grant := by
  obtain ⟨record,found,behind⟩ := settled
  rintro ⟨claimed,_,current⟩
  rw [Registry.record_of_get found] at claimed current
  rcases behind with ⟨toId,generation,aliased⟩ | past | ⟨_,free⟩
  · rw [aliased] at claimed; cases claimed
  · omega
  · rw [free] at claimed; cases claimed

/-- A record that is there and neither aliased nor in flight at the claim's
    generation does not return to it. -/
private theorem settled_of_reached {record : SessionRecord}
    (before : world.registry.get grant.key = some record) (reached : grant.generation ≤ record.generation)
    (kept : world.InFlight grant ∨ (record.generation = grant.generation → record.state.isClaimed = false)) :
    (world.step op).InFlight grant ∨ (world.step op).Settled grant := by
  have recorded := Registry.record_of_get before
  obtain ⟨after,found⟩ : ∃ after, (world.step op).registry.get grant.key = some after := by
    rcases step_get world op grant.key with same | ⟨after,found,_⟩
    · exact ⟨record,same.trans before⟩
    · exact ⟨after,found⟩
  have recordedAfter := Registry.record_of_get found
  rcases generation_step world op grant.key with grown | ⟨toId,generation,aliased⟩
  · rw [recorded,recordedAfter] at grown
    by_cases past : grant.generation < after.generation
    · exact .inr ⟨after,found,.inr (.inl past)⟩
    · have level : grant.generation = after.generation := by omega
      by_cases claimed : after.state.isClaimed = true
      · -- in flight at the same generation, so under the same claim as before
        left
        have claimedAfter : ((world.step op).registry.record grant.key).state.isClaimed = true := recordedAfter ▸ claimed
        rcases inFlight_step claimedAfter with
          ⟨other,granted,same,_⟩ | ⟨other,carried⟩ | same
        · have ⟨next,entered⟩ := newGrant_generation granted
          rw [same,recorded] at next
          rw [same,recordedAfter] at entered
          omega
        · rw [(carried_cases carried).2.1] at before
          cases before
        · have recent (operationId : String) (under : after.state.operationId = some operationId) :
              world.InFlight ⟨grant.key,operationId,grant.generation⟩ :=
            same _ rfl ⟨recordedAfter ▸ claimed,recordedAfter ▸ under,recordedAfter ▸ level.symm⟩
          cases under : after.state.operationId with
          | none => cases held : after.state <;> simp_all [OwnershipState.isClaimed,OwnershipState.operationId]
          | some operationId =>
            have earlier := recent operationId under
            rcases kept with inFlight | free
            · have own : operationId = grant.operationId := Option.some.inj (earlier.2.1.symm.trans inFlight.2.1)
              exact ⟨recordedAfter ▸ claimed,by rw [recordedAfter,under,own],by rw [recordedAfter,level]⟩
            · have claimedBefore := earlier.1
              rw [recorded,free (by rw [← recorded]; exact earlier.2.2)] at claimedBefore
              cases claimedBefore
      · exact .inr ⟨after,found,.inr (.inr ⟨level,by simpa using claimed⟩)⟩
  · rw [recordedAfter] at aliased
    exact .inr ⟨after,found,.inl ⟨toId,generation,aliased⟩⟩

theorem concluded_step (op : Op) (before : world.InFlight grant ∨ world.Settled grant) :
    (world.step op).InFlight grant ∨ (world.step op).Settled grant := by
  rcases before with inFlight | ⟨record,found,behind⟩
  · exact settled_of_reached (heldBy_of_inFlight inFlight).1 (Nat.le_of_eq inFlight.2.2.symm) (.inl inFlight)
  · rcases behind with ⟨toId,generation,aliased⟩ | past | ⟨level,free⟩
    · have recorded := Registry.record_of_get found
      rw [← recorded] at aliased
      have ⟨after,_⟩ := aliased_step op aliased
      exact .inr ⟨_,Registry.get_of_not_vacant (by rw [after]; nofun),.inl ⟨toId,generation,after⟩⟩
    · exact settled_of_reached found (Nat.le_of_lt past) (.inr fun same => by omega)
    · exact settled_of_reached found (Nat.le_of_eq level) (.inr fun _ => free)

private theorem registry_of_refused (named : op.commits = some grant ∨ ∃ newKey, op.carries = some (grant,newKey))
    (refused : (world.reply op).isCommitted ≠ true) : (world.step op).registry = world.registry := by
  rw [ne_eq,World.isCommitted_iff] at refused
  cases op with
  | commitLive key operationId generation owner clock =>
    rcases world.registry.commitLive_cases key operationId generation owner clock with
      ⟨same,_⟩ | ⟨record,_,_,_,answered⟩
    · exact same
    · exact absurd (by simp only [World.reply,World.call,answered]) refused
  | commitLiveRekey provider oldId newId operationId generation owner clock =>
    rcases world.registry.commitLiveRekey_cases provider oldId newId operationId generation owner clock with
      ⟨same,_⟩ | ⟨record,kind,gen,initiator,sinceMs,_,_,_,_,answered⟩
    · exact same
    · exact absurd (by simp only [World.reply,World.call,answered]) refused
  | commitLiveRekeyFromTerminal provider newId operationId generation oldId expectedTerminalId owner clock =>
    rcases world.registry.commitLiveRekeyFromTerminal_cases provider newId operationId generation oldId
        expectedTerminalId owner clock with ⟨same,_⟩ | ⟨_,_,_,_,_,_,_,_,_,_,_,_,_,_,answered⟩
    · exact same
    · exact absurd (by simp only [World.reply,World.call,answered]) refused
  | rekeyStarting provider oldId newId operationId generation =>
    rcases world.registry.rekeyStarting_cases provider oldId newId operationId generation with
      ⟨same,_⟩ | ⟨record,kind,gen,initiator,sinceMs,_,_,_,_,answered⟩
    · exact same
    · exact absurd (by simp only [World.reply,World.call,answered]) refused
  | _ => rcases named with named | ⟨newKey,named⟩ <;> cases named

theorem settled_inert (coherent : world.Coherent) (settled : world.Settled grant) : world.Inert grant := by
  have concluded := not_inFlight_of_settled settled
  have inFlight {record : SessionRecord} (found : world.registry.get grant.key = some record)
      (current : grant.generation = record.generation) (held : record.state.heldBy grant.operationId) :
      world.InFlight grant := by
    rw [World.InFlight,Registry.record_of_get found]
    rcases held with ⟨_,_,_,_,own⟩ | ⟨_,_,_,_,_,own⟩ <;>
      simp [own,OwnershipState.isClaimed,OwnershipState.operationId,current]
  refine ⟨?_,?_,?_⟩
  · rintro op (named | ⟨newKey,named⟩ | ⟨priorConfirmedLive,clock,rfl⟩ | ⟨reason,unconfirmed,clock,rfl⟩)
    · refine registry_of_refused (.inl named) fun accepted => concluded ?_
      exact (committed_cases coherent (by rw [World.committed,if_pos accepted,named])).1
    · refine registry_of_refused (.inr ⟨newKey,named⟩) fun accepted => concluded ?_
      have carried : world.carried op = some (grant,newKey) := by rw [World.carried,if_pos accepted,named]
      exact (carried_cases carried).1
    · rcases world.registry.fail_cases grant.key grant.operationId grant.generation priorConfirmedLive clock with
        answered | ⟨record,found,current,held,_⟩
      · simp only [World.step,World.call,answered]
      · exact absurd (inFlight found current held) concluded
    · rcases world.registry.fenceUnconfirmedHandoff_cases grant.key grant.operationId grant.generation reason
          unconfirmed clock with answered | ⟨record,prior,toKind,gen,initiator,sinceMs,found,current,held,_⟩
      · simp only [World.step,World.call,answered]
      · exact absurd (inFlight found current (.inr ⟨_,_,_,_,_,held⟩)) concluded
  · intro runtime free
    rcases world.registry.release_cases grant.key ⟨grant.operationId,grant.generation,runtime⟩ with
      answered | ⟨record,owner,sinceMs,found,held,matched,_⟩
    · simp only [World.step,World.call,answered]
    · refine absurd ⟨owner,sinceMs,by rw [Registry.record_of_get found,held],?_⟩ free
      exact stamped_of_runtimeMatches matched
  · intro runtime free recovered
    rcases world.registry.forceRelease_cases grant.key ⟨grant.operationId,grant.generation,runtime⟩ with
      answered | ⟨record,found,matched,_⟩
    · simp only [World.step,World.call,answered]
    · exfalso
      have state := coherent _ _ found
      cases held : record.state with
      | live owner generation sinceMs =>
        simp only [held,OwnershipState.forceReleases,Bool.and_eq_true,beq_iff_eq] at matched
        refine free ⟨owner,sinceMs,by rw [Registry.record_of_get found,held,matched.2],?_⟩
        exact stamped_of_runtimeMatches matched.1
      | stopping owner prior operationId generation initiator sinceMs =>
        simp only [held,OwnershipState.forceReleases,Bool.and_eq_true,beq_iff_eq] at matched
        exact recovered ⟨owner,prior,initiator,sinceMs,by
          rw [Registry.record_of_get found,held,matched.1.1,matched.1.2]⟩
      | starting kind operationId generation initiator sinceMs =>
        simp only [held,OwnershipState.forceReleases,Bool.and_eq_true,beq_iff_eq] at matched
        simp only [SessionRecord.Coherent,held] at state
        refine concluded (inFlight found ?_ (.inl ⟨kind,generation,initiator,sinceMs,?_⟩))
        · rw [← state,matched.1.2]
        · rw [held,matched.1.1]
      | _ => simp [held,OwnershipState.forceReleases] at matched

end

/-- A run keeps its operations apart: an accepted commit spends the latest grant
    of its key, which was not spent before; a claim that was entered stays in
    flight, alone granted on its key, until it is concluded or killed; and where
    it is no longer in flight its late calls change nothing. -/
structure Exclusive (epoch : Nat) (ops : List Op) : Prop where
  latest : Along Ledger.step Ledger.CommitsLatest (.mint epoch) ops
  alone : ∀ before op after grant, ops = before ++ op :: after →
    (run World.step (.mint epoch) before).entered op = some grant →
    Until World.step (fun world => world.InFlight grant ∧ world.GrantsOnly grant)
      (fun world op => (grant.ConcludedBy op ∨ grant.KilledBy op) ∧ ¬ (world.step op).InFlight grant)
      (run World.step (.mint epoch) (before ++ [op])) after
  inert : ∀ before op after grant, ops = before ++ op :: after →
    (run World.step (.mint epoch) before).entered op = some grant → ∀ later, later <+: after →
    (run World.step (.mint epoch) (before ++ op :: later)).InFlight grant ∨
      (run World.step (.mint epoch) (before ++ op :: later)).Inert grant

theorem entered_run {epoch : Nat} {before : List Op} {op : Op} {grant : Grant}
    (entered : (run World.step (.mint epoch) before).entered op = some grant) :
    (run World.step (.mint epoch) (before ++ [op])).Coherent ∧
      (run World.step (.mint epoch) (before ++ [op])).InFlight grant := by
  refine ⟨coherent_run epoch _,?_⟩
  rw [run_append]
  exact inFlight_entered (coherent_run epoch before) entered

/-- Every run of the registry keeps its operations apart. -/
theorem ownership_exclusive (epoch : Nat) (ops : List Op) : Exclusive epoch ops := by
  refine ⟨?_,?_,?_⟩
  · have free : Along Ledger.step (fun _ _ => True) (.mint epoch) ops := along_of_forall (fun _ _ => trivial) _ ops
    exact invariant_along (fun ledger op sound _ => Ledger.sound_step sound)
      (fun ledger op sound _ => Ledger.commitsLatest_of_sound sound op) (Ledger.sound_mint epoch) free
  · intro before op after grant _ entered
    have kept : Until World.step (fun world => world.Coherent ∧ world.InFlight grant)
        (fun world op => (grant.ConcludedBy op ∨ grant.KilledBy op) ∧ ¬ (world.step op).InFlight grant)
        (run World.step (.mint epoch) (before ++ [op])) after := by
      refine until_run ?_ ?_ after
      · intro world op ⟨coherent,inFlight⟩
        exact (inFlight_kept coherent inFlight).imp_right fun kept => ⟨coherent_step world op coherent,kept⟩
      · exact entered_run entered
    exact until_mono (fun world holds => ⟨holds.2,inFlight_grantsOnly holds.1 holds.2⟩) kept
  · intro before op after grant _ entered later _
    have ⟨coherent,inFlight⟩ := entered_run entered
    let Past (world : World) : Prop := world.Coherent ∧ (world.InFlight grant ∨ world.Settled grant)
    have past_step (world : World) (op : Op) (past : Past world) : Past (world.step op) :=
      ⟨coherent_step world op past.1,concluded_step op past.2⟩
    have started : Past (run World.step (.mint epoch) (before ++ [op])) := ⟨coherent,.inl inFlight⟩
    have ⟨coherent',reached⟩ := invariant_reachable past_step started ⟨later,rfl⟩
    rw [List.append_cons,run_append]
    exact reached.imp_right (settled_inert coherent')

/-- A start that registered no runtime is killed, which is none of the calls of
    its own operation nor the watchdog's: the next start is granted. And the
    release of a runtime by the operation that committed it frees its record. -/
theorem killedStart_regranted :
    let key : SessionKey := ⟨"codex","s"⟩
    let owner : OwnerIdentity := ⟨.terminal,some "term-1",none,none,none⟩
    let start : Op := .beginStart key .terminal "start-1" none "device" 0 none
    let commit : Op := .commitLive key "start-1" 1 owner 0
    let late : Op := .release key ⟨"start-1",1,some owner⟩
    let kill : Op := .forceReleaseForConfirmedKill key ⟨"start-1",1,none⟩
    ((World.mint 7).entered start = some ⟨key,"start-1",1⟩ ∧
      ¬ Until World.step (fun world => world.GrantsOnly ⟨key,"start-1",1⟩)
        (fun _ op => Grant.ConcludedBy ⟨key,"start-1",1⟩ op) ((World.mint 7).step start) [kill]) ∧
    (run World.step (.mint 7) [start,commit,late]).registry.get key ≠
      (run World.step (.mint 7) [start,commit]).registry.get key := by
  intro key owner start commit late kill
  refine ⟨⟨by decide,?_⟩,by decide⟩
  rintro ⟨_,concluded | excludes⟩
  · simp [Grant.ConcludedBy,Grant.CalledBy,kill,Op.commits,Op.carries] at concluded
  · have second := excludes (.beginStart key .terminal "start-2" none "device" 0 none) ⟨key,"start-2",2⟩ (by decide) rfl
    simp at second

end Freshell.Ownership
