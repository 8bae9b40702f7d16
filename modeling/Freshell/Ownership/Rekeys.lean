import Freshell.Ownership.Fences

/-!
The operations that move ownership from one key of a provider to another and
leave an alias behind, and the resolution of aliases.
-/
namespace Freshell.Ownership

/-- A record whose only content is its generation and its state. -/
def SessionRecord.fresh (generation : Nat) (state : OwnershipState) : SessionRecord :=
  { SessionRecord.default with generation, state }

namespace Registry

/-- Commit this operation's start under a new key, at the same generation. -/
def commitLiveRekey (registry : Registry) (provider oldSessionId newSessionId operationId : String)
    (generation : Nat) (owner : OwnerIdentity) (clock : Nat) : CommitOutcome × Registry :=
  match registry.get ⟨provider,oldSessionId⟩ with
  | none => (.foreignOperation,registry)
  | some record =>
    if generation ≠ record.generation then (.staleGeneration record.generation,registry)
    else
      match record.state with
      | .starting _ op _ _ _ =>
        if op = operationId then
          if (registry.get ⟨provider,newSessionId⟩).isSome then (.foreignOperation,registry)
          else
            (.committed,
              (registry.set ⟨provider,oldSessionId⟩ { record with state := .aliased newSessionId generation }).set
                ⟨provider,newSessionId⟩ (.fresh generation (.live (owner.stamped operationId) generation clock)))
        else (.foreignOperation,registry)
      | _ => (.foreignOperation,registry)

/-- Move an in-flight start, with everything registered on its record, to the
    minted id; the old key keeps a fresh aliased record. -/
def rekeyStarting (registry : Registry) (provider oldSessionId newSessionId operationId : String)
    (generation : Nat) : CommitOutcome × Registry :=
  match registry.get ⟨provider,oldSessionId⟩ with
  | none => (.foreignOperation,registry)
  | some record =>
    if generation ≠ record.generation then (.staleGeneration record.generation,registry)
    else
      match record.state with
      | .starting _ op _ _ _ =>
        if op = operationId then
          if (registry.get ⟨provider,newSessionId⟩).isSome then (.foreignOperation,registry)
          else
            (.committed,
              (registry.set ⟨provider,oldSessionId⟩
                (.fresh record.generation (.aliased newSessionId generation))).set ⟨provider,newSessionId⟩ record)
        else (.foreignOperation,registry)
      | _ => (.foreignOperation,registry)

/-- Move a live record, expected under its live session key, to the new key
    with the replacement owner, one generation past the record's. -/
def rekeyLive (registry : Registry) (provider oldSessionId newSessionId expectedLiveSessionKey : String)
    (newOwner : OwnerIdentity) (clock : Nat) : CommitOutcome × Registry :=
  match registry.get ⟨provider,oldSessionId⟩ with
  | none => (.foreignOperation,registry)
  | some record =>
    match record.state with
    | .live owner _ _ =>
      if owner.kind ≠ newOwner.kind ∨ owner.liveSessionKey ≠ some expectedLiveSessionKey then
        (.foreignOperation,registry)
      else if (registry.get ⟨provider,newSessionId⟩).isSome then (.foreignOperation,registry)
      else
        let newGeneration := record.generation + 1
        (.committed,
          (registry.set ⟨provider,oldSessionId⟩
            { record with generation := newGeneration, state := .aliased newSessionId newGeneration }).set
            ⟨provider,newSessionId⟩ (.fresh newGeneration (.live newOwner newGeneration clock)))
    | _ => (.foreignOperation,registry)

/-- Commit the start that a rebind holds on the new key and alias the old key,
    live under this terminal. The alias generation is computed from the
    generation of the old LIVE STATE, which `abortStop` can have left below the
    record's. -/
def commitLiveRekeyFromTerminal (registry : Registry) (provider newSessionId operationId : String)
    (generation : Nat) (oldSessionId expectedTerminalId : String) (owner : OwnerIdentity) (clock : Nat) :
    CommitOutcome × Registry :=
  match registry.get ⟨provider,newSessionId⟩,registry.get ⟨provider,oldSessionId⟩ with
  | some newRecord,some oldRecord =>
    if newRecord.isStarting operationId generation then
      match oldRecord.state with
      | .live oldOwner oldGeneration _ =>
        if oldOwner.kind = .terminal ∧ oldOwner.terminalId = some expectedTerminalId then
          let aliasedGeneration := oldGeneration + 1
          (.committed,
            (registry.set ⟨provider,newSessionId⟩ { newRecord with state := .live owner generation clock }).set
              ⟨provider,oldSessionId⟩
              { oldRecord with
                generation := aliasedGeneration
                state := .aliased newSessionId aliasedGeneration })
        else (.foreignOperation,registry)
      | _ => (.foreignOperation,registry)
    else (.foreignOperation,registry)
  | _,_ => (.foreignOperation,registry)

/-- Alias a key that never had a record to one that has. -/
def aliasVacantKey (registry : Registry) (provider fromSessionId toSessionId : String) : CommitOutcome × Registry :=
  if (registry.get ⟨provider,fromSessionId⟩).isSome then (.foreignOperation,registry)
  else
    match registry.get ⟨provider,toSessionId⟩ with
    | none => (.foreignOperation,registry)
    | some toRecord =>
      (.committed,registry.set ⟨provider,fromSessionId⟩
        (.fresh toRecord.generation (.aliased toSessionId toRecord.generation)))

def aliasedTo (registry : Registry) (provider sessionId : String) : Option String :=
  match registry.get ⟨provider,sessionId⟩ with
  | some record =>
    match record.state with
    | .aliased toId _ => some toId
    | _ => none
  | none => none

/-- The alias walk of `resolveCanonical`; it stops at the first key that is not
    aliased or was visited before, and each turn of it visits a new record. -/
def resolveFrom (registry : Registry) (provider : String) : Nat → List String → String → String
  | 0, _, current => current
  | fuel+1, visited, current =>
    if visited.contains current then current
    else
      match registry.aliasedTo provider current with
      | some next => resolveFrom registry provider fuel (current :: visited) next
      | none => current

/-- A session id's canonical id. The walk visits every aliased record at most
    once, so one turn more than there are records reaches its end. -/
def resolveCanonical (registry : Registry) (provider sessionId : String) : String :=
  registry.resolveFrom provider (registry.inner.entries.length + 1) [] sessionId

variable {registry : Registry}

theorem ne_of_recorded {key other : SessionKey} {record : SessionRecord} (found : registry.get key = some record)
    (absent : registry.get other = none) : key ≠ other := by
  rintro rfl
  rw [found] at absent
  cases absent

theorem commitLiveRekey_cases (registry : Registry) (provider oldSessionId newSessionId operationId : String)
    (generation : Nat) (owner : OwnerIdentity) (clock : Nat) :
    let answer := registry.commitLiveRekey provider oldSessionId newSessionId operationId generation owner clock
    (answer.2 = registry ∧ answer.1 ≠ .committed) ∨
    ∃ record kind gen initiator sinceMs, registry.get ⟨provider,oldSessionId⟩ = some record ∧
      generation = record.generation ∧ record.state = .starting kind operationId gen initiator sinceMs ∧
      registry.get ⟨provider,newSessionId⟩ = none ∧
      answer = (.committed,
        (registry.set ⟨provider,oldSessionId⟩ { record with state := .aliased newSessionId generation }).set
          ⟨provider,newSessionId⟩ (.fresh generation (.live (owner.stamped operationId) generation clock))) := by
  fun_cases commitLiveRekey registry provider oldSessionId newSessionId operationId generation owner clock with
  | case4 record found current kind gen initiator sinceMs free held =>
    exact .inr ⟨record,kind,gen,initiator,sinceMs,found,not_not.mp current,held,Option.not_isSome_iff_eq_none.mp free,rfl⟩
  | _ => exact .inl ⟨rfl,nofun⟩

theorem rekeyStarting_cases (registry : Registry) (provider oldSessionId newSessionId operationId : String)
    (generation : Nat) :
    let answer := registry.rekeyStarting provider oldSessionId newSessionId operationId generation
    (answer.2 = registry ∧ answer.1 ≠ .committed) ∨
    ∃ record kind gen initiator sinceMs, registry.get ⟨provider,oldSessionId⟩ = some record ∧
      generation = record.generation ∧ record.state = .starting kind operationId gen initiator sinceMs ∧
      registry.get ⟨provider,newSessionId⟩ = none ∧
      answer = (.committed,
        (registry.set ⟨provider,oldSessionId⟩ (.fresh record.generation (.aliased newSessionId generation))).set
          ⟨provider,newSessionId⟩ record) := by
  fun_cases rekeyStarting registry provider oldSessionId newSessionId operationId generation with
  | case4 record found current kind gen initiator sinceMs free held =>
    exact .inr ⟨record,kind,gen,initiator,sinceMs,found,not_not.mp current,held,Option.not_isSome_iff_eq_none.mp free,rfl⟩
  | _ => exact .inl ⟨rfl,nofun⟩

theorem rekeyLive_cases (registry : Registry) (provider oldSessionId newSessionId expectedLiveSessionKey : String)
    (newOwner : OwnerIdentity) (clock : Nat) :
    let answer := registry.rekeyLive provider oldSessionId newSessionId expectedLiveSessionKey newOwner clock
    (answer.2 = registry ∧ answer.1 ≠ .committed) ∨
    ∃ record owner gen sinceMs, registry.get ⟨provider,oldSessionId⟩ = some record ∧
      record.state = .live owner gen sinceMs ∧ owner.kind = newOwner.kind ∧
      owner.liveSessionKey = some expectedLiveSessionKey ∧ registry.get ⟨provider,newSessionId⟩ = none ∧
      answer = (.committed,
        (registry.set ⟨provider,oldSessionId⟩
          { record with
            generation := record.generation + 1
            state := .aliased newSessionId (record.generation + 1) }).set
          ⟨provider,newSessionId⟩ (.fresh (record.generation + 1) (.live newOwner (record.generation + 1) clock))) := by
  fun_cases rekeyLive registry provider oldSessionId newSessionId expectedLiveSessionKey newOwner clock with
  | case4 record found owner gen sinceMs held own free =>
    obtain ⟨kind,keyed⟩ := not_or.mp own
    exact .inr ⟨record,owner,gen,sinceMs,found,held,not_not.mp kind,not_not.mp keyed,
      Option.not_isSome_iff_eq_none.mp free,rfl⟩
  | _ => exact .inl ⟨rfl,nofun⟩

theorem commitLiveRekeyFromTerminal_cases (registry : Registry) (provider newSessionId operationId : String)
    (generation : Nat) (oldSessionId expectedTerminalId : String) (owner : OwnerIdentity) (clock : Nat) :
    let answer := registry.commitLiveRekeyFromTerminal provider newSessionId operationId generation oldSessionId
      expectedTerminalId owner clock
    (answer.2 = registry ∧ answer.1 ≠ .committed) ∨
    ∃ newRecord oldRecord kind initiator startedMs oldOwner oldGeneration sinceMs,
      registry.get ⟨provider,newSessionId⟩ = some newRecord ∧
      newRecord.state = .starting kind operationId generation initiator startedMs ∧
      registry.get ⟨provider,oldSessionId⟩ = some oldRecord ∧
      oldRecord.state = .live oldOwner oldGeneration sinceMs ∧ oldOwner.kind = .terminal ∧
      oldOwner.terminalId = some expectedTerminalId ∧
      answer = (.committed,
        (registry.set ⟨provider,newSessionId⟩ { newRecord with state := .live owner generation clock }).set
          ⟨provider,oldSessionId⟩
          { oldRecord with
            generation := oldGeneration + 1
            state := .aliased newSessionId (oldGeneration + 1) }) := by
  fun_cases commitLiveRekeyFromTerminal registry provider newSessionId operationId generation oldSessionId
    expectedTerminalId owner clock with
  | case1 newRecord oldRecord foundOld foundNew claimed oldOwner oldGeneration sinceMs held under =>
    obtain ⟨kind,initiator,startedMs,starting⟩ := (newRecord.isStarting_iff _ _).mp claimed
    exact .inr ⟨newRecord,oldRecord,kind,initiator,startedMs,oldOwner,oldGeneration,sinceMs,foundNew,starting,foundOld,
      held,under.1,under.2,rfl⟩
  | _ => exact .inl ⟨rfl,nofun⟩

theorem aliasVacantKey_cases (registry : Registry) (provider fromSessionId toSessionId : String) :
    let answer := registry.aliasVacantKey provider fromSessionId toSessionId
    (answer.2 = registry ∧ answer.1 ≠ .committed) ∨
    ∃ toRecord, registry.get ⟨provider,fromSessionId⟩ = none ∧ registry.get ⟨provider,toSessionId⟩ = some toRecord ∧
      answer = (.committed,registry.set ⟨provider,fromSessionId⟩
        (.fresh toRecord.generation (.aliased toSessionId toRecord.generation))) := by
  fun_cases aliasVacantKey registry provider fromSessionId toSessionId with
  | case3 free toRecord found => exact .inr ⟨toRecord,Option.not_isSome_iff_eq_none.mp free,found,rfl⟩
  | _ => exact .inl ⟨rfl,nofun⟩

/-- A start that the registry moves to the new key, or commits there. -/
def AcceptsStartRekey (registry : Registry) (provider oldSessionId newSessionId operationId : String)
    (generation : Nat) : Prop :=
  ∃ record kind gen initiator sinceMs, registry.get ⟨provider,oldSessionId⟩ = some record ∧
    generation = record.generation ∧ record.state = .starting kind operationId gen initiator sinceMs ∧
    registry.get ⟨provider,newSessionId⟩ = none

def AcceptsLiveRekey (registry : Registry) (provider oldSessionId newSessionId expectedLiveSessionKey : String)
    (newOwner : OwnerIdentity) : Prop :=
  (∃ owner generation sinceMs, (registry.record ⟨provider,oldSessionId⟩).state = .live owner generation sinceMs ∧
    owner.kind = newOwner.kind ∧ owner.liveSessionKey = some expectedLiveSessionKey) ∧
  registry.get ⟨provider,newSessionId⟩ = none

/-- A terminal rebind that the registry accepts: the new key is started by this
    operation at this generation, and the old key is live under this terminal. -/
def AcceptsTerminalRekey (registry : Registry) (provider newSessionId operationId : String)
    (generation : Nat) (oldSessionId expectedTerminalId : String) : Prop :=
  (∃ kind initiator sinceMs,
    (registry.record ⟨provider,newSessionId⟩).state = .starting kind operationId generation initiator sinceMs) ∧
  ∃ owner oldGeneration sinceMs, (registry.record ⟨provider,oldSessionId⟩).state = .live owner oldGeneration sinceMs ∧
    owner.kind = .terminal ∧ owner.terminalId = some expectedTerminalId

variable {provider oldSessionId newSessionId operationId : String} {generation : Nat} {owner : OwnerIdentity}
  {clock : Nat}

theorem commitLiveRekey_committed_iff :
    (registry.commitLiveRekey provider oldSessionId newSessionId operationId generation owner clock).1 = .committed ↔
      registry.AcceptsStartRekey provider oldSessionId newSessionId operationId generation := by
  constructor
  · intro committed
    rcases registry.commitLiveRekey_cases provider oldSessionId newSessionId operationId generation owner clock with
      ⟨_,refused⟩ | ⟨record,kind,gen,initiator,sinceMs,found,current,held,absent,_⟩
    · exact absurd committed refused
    · exact ⟨record,kind,gen,initiator,sinceMs,found,current,held,absent⟩
  · rintro ⟨record,kind,gen,initiator,sinceMs,found,rfl,held,absent⟩
    simp [commitLiveRekey,found,held,absent]

theorem rekeyStarting_committed_iff :
    (registry.rekeyStarting provider oldSessionId newSessionId operationId generation).1 = .committed ↔
      registry.AcceptsStartRekey provider oldSessionId newSessionId operationId generation := by
  constructor
  · intro committed
    rcases registry.rekeyStarting_cases provider oldSessionId newSessionId operationId generation with
      ⟨_,refused⟩ | ⟨record,kind,gen,initiator,sinceMs,found,current,held,absent,_⟩
    · exact absurd committed refused
    · exact ⟨record,kind,gen,initiator,sinceMs,found,current,held,absent⟩
  · rintro ⟨record,kind,gen,initiator,sinceMs,found,rfl,held,absent⟩
    simp [rekeyStarting,found,held,absent]

theorem rekeyLive_committed_iff {expectedLiveSessionKey : String} {newOwner : OwnerIdentity} :
    (registry.rekeyLive provider oldSessionId newSessionId expectedLiveSessionKey newOwner clock).1 = .committed ↔
      registry.AcceptsLiveRekey provider oldSessionId newSessionId expectedLiveSessionKey newOwner := by
  constructor
  · intro committed
    rcases registry.rekeyLive_cases provider oldSessionId newSessionId expectedLiveSessionKey newOwner clock with
      ⟨_,refused⟩ | ⟨record,owner,gen,sinceMs,found,held,kind,keyed,absent,_⟩
    · exact absurd committed refused
    · exact ⟨⟨owner,gen,sinceMs,by rw [record_of_get found,held],kind,keyed⟩,absent⟩
  · rintro ⟨⟨owner,gen,sinceMs,held,kind,keyed⟩,absent⟩
    have found := get_of_not_vacant (held ▸ nofun : (registry.record ⟨provider,oldSessionId⟩).state ≠ .vacant)
    generalize registry.record ⟨provider,oldSessionId⟩ = record at held found
    simp [rekeyLive,found,held,absent,kind,keyed]

theorem commitLiveRekeyFromTerminal_committed_iff {expectedTerminalId : String} :
    (registry.commitLiveRekeyFromTerminal provider newSessionId operationId generation oldSessionId expectedTerminalId
        owner clock).1 = .committed ↔
      registry.AcceptsTerminalRekey provider newSessionId operationId generation oldSessionId expectedTerminalId := by
  constructor
  · intro committed
    rcases registry.commitLiveRekeyFromTerminal_cases provider newSessionId operationId generation oldSessionId
        expectedTerminalId owner clock with
      ⟨_,refused⟩ | ⟨newRecord,oldRecord,kind,initiator,startedMs,oldOwner,oldGeneration,sinceMs,found,held,foundOld,
        heldOld,terminal,under,_⟩
    · exact absurd committed refused
    · exact ⟨⟨kind,initiator,startedMs,by rw [record_of_get found,held]⟩,oldOwner,oldGeneration,sinceMs,by
        rw [record_of_get foundOld,heldOld],terminal,under⟩
  · rintro ⟨⟨kind,initiator,startedMs,starting⟩,oldOwner,oldGeneration,sinceMs,live,terminal,under⟩
    have foundNew := get_of_not_vacant (starting ▸ nofun : (registry.record ⟨provider,newSessionId⟩).state ≠ .vacant)
    have foundOld := get_of_not_vacant (live ▸ nofun : (registry.record ⟨provider,oldSessionId⟩).state ≠ .vacant)
    generalize registry.record ⟨provider,newSessionId⟩ = newRecord at starting foundNew
    generalize registry.record ⟨provider,oldSessionId⟩ = oldRecord at live foundOld
    have claimed : newRecord.isStarting operationId generation = true :=
      (SessionRecord.isStarting_iff _ _ _).mpr ⟨kind,initiator,startedMs,starting⟩
    simp [commitLiveRekeyFromTerminal,foundNew,foundOld,claimed,live,terminal,under]

end Registry
end Freshell.Ownership
