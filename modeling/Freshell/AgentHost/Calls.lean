import Freshell.AgentHost.Actor
import Freshell.Library.Runs

/-!
The provider is called at most once for a request. A call is made only after the file says
that it is under way, so that the record outlives the host. What a caller heard before the
record reached the disk is a different matter: such a record goes with the host.
-/
namespace Freshell.AgentHost.Host
open Freshell.Library.Tables Freshell.Library.Runs
open Freshell.SessionHost (CommandState Persist)

section
variable {Value : Type} [DecidableEq Value] (encoding : Encoding Value)

/-- A decision that no further answer is taken for. -/
def Settling (state : PersistedActorState Value) (decisionId : String) : Prop :=
  ∃ decision, state.decisions.lookup decisionId = some decision ∧ decision.state ≠ .pending

structure AtMostOnce (host : Host Value) (op : HostOp Value) : Prop where
  /-- A request reaches the provider once at most. -/
  once : ∀ id, ((host.next encoding op).calls.map Prod.fst).count id ≤ 1
  /-- An id that was used for another request is refused, and nothing changes. -/
  conflict : ∀ id first other faults, op = .request id other faults → host.actor.isSome → host.lane = none →
    host.used.lookup id = some first → first ≠ other →
      host.submit encoding id other faults = (host,.error .requestConflict)
  /-- One answer at most to each decision was accepted, or may have been. -/
  standing : ∀ id, (host.next encoding op).standing.count id ≤ 1
  /-- A request whose outcome was called ambiguous does not reach the provider again. -/
  ambiguous : ∀ id ∈ host.ambiguous,
    ((host.next encoding op).calls.map Prod.fst).count id = (host.calls.map Prod.fst).count id
  ambiguousDecision : ∀ id ∈ host.ambiguousDecisions,
    (host.next encoding op).asked.count id = host.asked.count id

/-- The steps behind which the host forgets nothing that it has answered, and tells its
    requests apart. -/
def Orderly (host : Host Value) (op : HostOp Value) : Prop :=
  match op with
  -- An actor is opened on a file that has every request and every ambiguous decision.
  | .openActor .. => host.actor = none →
    (∀ id ∈ host.used, ∃ file, host.disk = some file ∧ id ∈ file.commands) ∧
      ∀ id ∈ host.ambiguousDecisions, ∃ file, host.disk = some file ∧ Settling file id
  -- Requests under one id that differ have different digests.
  | .request id other _ => ∀ first, host.used.lookup id = some first → first ≠ other →
    payloadDigest encoding first ≠ payloadDigest encoding other
  -- A decision that was called ambiguous is not rejected afterwards.
  | .permissionReturned id (.error failure) _ => failure.acceptanceAmbiguous = true ∨ id ∉ host.ambiguousDecisions
  | _ => True

/-! ### The invariant -/

/-- What a copy of the state says of the history. -/
structure Records (host : Host Value) (state : PersistedActorState Value) : Prop where
  used : ∀ id command, state.commands.lookup id = some command →
    ∃ request, host.used.lookup id = some request ∧ command.payloadDigest = payloadDigest encoding request
  called : ∀ id ∈ host.calls.map Prod.fst, id ∈ state.commands
  standing : ∀ id ∈ host.standing, Settling state id

/-- What memory says, which knows at least what is on disk. -/
structure Mirrors (host : Host Value) (state : PersistedActorState Value) : Prop extends Records encoding host state where
  behind : ∀ file, host.disk = some file → ∀ id ∈ file.commands, id ∈ state.commands
  entered : ∀ id ∈ host.used, id ∈ state.commands
  answered : ∀ id ∈ host.ambiguousDecisions, Settling state id
  checking : ∀ id operation, host.lane = some (.checking id operation) → id ∉ state.commands

/-- The request that the lane is held for, once it is at the provider. -/
def InFlight.sent : InFlight → Option String
  | .dispatching requestId => some requestId
  | .forking requestId _ => some requestId
  | .checking .. => none
  | .operating requestId => some requestId

structure Kept (host : Host Value) : Prop where
  once : ∀ id, (host.calls.map Prod.fst).count id ≤ 1
  standing : ∀ id, host.standing.count id ≤ 1
  resolving : ∀ id, host.resolving.count id ≤ host.standing.count id
  fresh : host.disk = none → host.calls = [] ∧ host.standing = []
  disk : ∀ file, host.disk = some file → Records encoding host file
  memory : ∀ state, host.actor = some state → Mirrors encoding host state
  down : host.actor = none → host.lane = none
  sent : ∀ inFlight id, host.lane = some inFlight → InFlight.sent inFlight = some id → id ∈ host.used
  ambiguous : ∀ id ∈ host.ambiguous, id ∈ host.used

end

variable {Value : Type} {encoding : Encoding Value} {host : Host Value} {state : PersistedActorState Value}
  {id : String}

theorem kept_new : Kept encoding ({} : Host Value) where
  once _ := Nat.zero_le _
  standing _ := Nat.zero_le _
  resolving _ := Nat.zero_le _
  fresh _ := ⟨rfl,rfl⟩
  disk _ held := by cases held
  memory _ up := by cases up
  down _ := rfl
  sent _ _ held := by cases held
  ambiguous _ listed := by cases listed

/-! ### Copies of the state -/

structure Continues (state later : PersistedActorState Value) : Prop where
  commands : ∀ id, (later.commands.lookup id).map PersistedCommand.payloadDigest =
    (state.commands.lookup id).map PersistedCommand.payloadDigest
  decisions : ∀ id, Settling state id → Settling later id

variable {later : PersistedActorState Value}

theorem Continues.mem_iff (continues : Continues state later) (id : String) :
    id ∈ later.commands ↔ id ∈ state.commands := by
  have same := congrArg Option.isSome (continues.commands id)
  simp only [Option.isSome_map] at same
  rw [← AList.lookup_isSome,← AList.lookup_isSome,same]

theorem Records.continues (records : Records encoding host state) (continues : Continues state later) :
    Records encoding host later where
  used id command found := by
    have same := continues.commands id
    rw [found] at same
    obtain ⟨before,held,digest⟩ := Option.map_eq_some_iff.mp same.symm
    obtain ⟨request,used,agrees⟩ := records.used id before held
    exact ⟨request,used,digest ▸ agrees⟩
  called id listed := (continues.mem_iff id).mpr (records.called id listed)
  standing id listed := continues.decisions id (records.standing id listed)

theorem Mirrors.continues (mirrors : Mirrors encoding host state) (continues : Continues state later) :
    Mirrors encoding host later where
  toRecords := mirrors.toRecords.continues continues
  behind file held id listed := (continues.mem_iff id).mpr (mirrors.behind file held id listed)
  entered id used := (continues.mem_iff id).mpr (mirrors.entered id used)
  answered id listed := continues.decisions id (mirrors.answered id listed)
  checking id operation held := fun listed => mirrors.checking id operation held ((continues.mem_iff id).mp listed)

theorem continues_setCommand (state : PersistedActorState Value) (id : String)
    {change : PersistedCommand → PersistedCommand}
    (same : ∀ command, (change command).payloadDigest = command.payloadDigest) :
    Continues state (state.setCommand id change) := by
  unfold PersistedActorState.setCommand
  cases found : state.commands.lookup id with
  | none => exact ⟨fun _ => rfl,fun _ settling => settling⟩
  | some command =>
    refine ⟨fun other => ?_,fun _ settling => settling⟩
    show ((state.commands.insert id (change command)).lookup other).map _ = _
    rw [lookup_insert]
    split
    next equal => rw [equal,found,Option.map_some,Option.map_some,same]
    · rfl

theorem lookup_setDecision (state : PersistedActorState Value) (id other : String)
    (change : PersistedDecision Value → PersistedDecision Value) :
    (state.setDecision id change).decisions.lookup other =
      (state.decisions.lookup other).map fun decision => if other = id then change decision else decision := by
  unfold PersistedActorState.setDecision
  cases found : state.decisions.lookup id with
  | none =>
    by_cases same : other = id
    · subst same
      simp [found]
    · simp [same]
  | some decision =>
    rw [lookup_insert]
    by_cases same : other = id
    · subst same
      simp [found]
    · simp [same]

@[simp] theorem setDecision_commands (state : PersistedActorState Value) (id : String)
    (change : PersistedDecision Value → PersistedDecision Value) :
    (state.setDecision id change).commands = state.commands := by
  unfold PersistedActorState.setDecision
  split
  · rfl
  · rfl

theorem settling_setDecision (state : PersistedActorState Value) {other : String}
    {change : PersistedDecision Value → PersistedDecision Value}
    (past : other = id → ∀ decision, (change decision).state ≠ .pending) (settling : Settling state other) :
    Settling (state.setDecision id change) other := by
  obtain ⟨decision,found,notPending⟩ := settling
  refine ⟨_,by rw [lookup_setDecision,found]; rfl,?_⟩
  split
  next same => exact past same decision
  · exact notPending

theorem continues_setDecision (state : PersistedActorState Value) (id : String)
    {change : PersistedDecision Value → PersistedDecision Value}
    (past : ∀ decision, (change decision).state ≠ .pending) : Continues state (state.setDecision id change) where
  commands _ := by rw [setDecision_commands]
  decisions _ := settling_setDecision state fun _ => past

theorem continues_interrupted (state : PersistedActorState Value) : Continues state state.interrupted where
  commands id := by
    simp only [PersistedActorState.interrupted,lookup_mapValues,Option.map_map]
    congr 1
    funext command
    simp only [Function.comp_apply]
    split
    · rfl
    · rfl
  decisions id settling := by
    obtain ⟨decision,found,notPending⟩ := settling
    refine ⟨_,by simp only [PersistedActorState.interrupted,lookup_mapValues,found]; rfl,?_⟩
    dsimp only
    split
    · simp
    · exact notPending

/-! ### The steps of a call -/

theorem Kept.crash (kept : Kept encoding host) : Kept encoding host.crash where
  once := kept.once
  standing := kept.standing
  resolving _ := Nat.zero_le _
  fresh := kept.fresh
  disk file held := by
    obtain ⟨used,called,standing⟩ := kept.disk file held
    exact ⟨used,called,standing⟩
  memory _ up := by cases up
  down _ := rfl
  sent _ _ held := by cases held
  ambiguous := kept.ambiguous

theorem Kept.save (kept : Kept encoding host) (mirrors : Mirrors encoding host state) (write : Persist) :
    Kept encoding (host.save state write) := by
  have cases_ := write.disk_cases host.disk state
  refine ⟨kept.once,kept.standing,kept.resolving,fun absent => ?_,fun file held => ?_,fun memory up => ?_,
    fun down => (by cases down),kept.sent,kept.ambiguous⟩
  · obtain new | old := cases_
    · exact absurd (new.symm.trans absent) (by simp)
    · exact kept.fresh (old.symm.trans absent)
  · have held : write.disk host.disk state = some file := held
    obtain new | old := cases_
    · obtain rfl := Option.some.inj (new.symm.trans held)
      exact ⟨mirrors.used,mirrors.called,mirrors.standing⟩
    · obtain ⟨used,called,standing⟩ := kept.disk file (old.symm.trans held)
      exact ⟨used,called,standing⟩
  · obtain rfl : state = memory := Option.some.inj up
    refine ⟨⟨mirrors.used,mirrors.called,mirrors.standing⟩,fun file held => ?_,mirrors.entered,mirrors.answered,
      mirrors.checking⟩
    have held : write.disk host.disk state = some file := held
    obtain new | old := cases_
    · obtain rfl := Option.some.inj (new.symm.trans held)
      exact fun _ listed => listed
    · exact mirrors.behind file (old.symm.trans held)

theorem Kept.after (kept : Kept encoding host) (write : Persist) {next : Host Value → Host Value × Reply}
    (goes : write = .done → Kept encoding (next host).1) : Kept encoding (host.after write next).1 := by
  cases write with
  | done => exact goes rfl
  | failed replaced error => exact kept
  | crashed replaced => exact kept.crash

theorem Kept.saveAnd (kept : Kept encoding host) (mirrors : Mirrors encoding host state) (write : Persist)
    {next : Host Value → Host Value × Reply}
    (goes : Kept encoding (host.save state .done) → Kept encoding (next (host.save state .done)).1) :
    Kept encoding (host.saveAnd state write next).1 :=
  (kept.save mirrors write).after write fun done => done ▸ goes (kept.save mirrors .done)

variable {reply : Reply}

theorem Kept.answer (kept : Kept encoding host) (used : id ∈ host.used) : Kept encoding (host.answer id reply).1 where
  once := kept.once
  standing := kept.standing
  resolving := kept.resolving
  fresh := kept.fresh
  disk file held := ⟨(kept.disk file held).used,(kept.disk file held).called,(kept.disk file held).standing⟩
  memory state up :=
    have mirrors := kept.memory state up
    ⟨⟨mirrors.used,mirrors.called,mirrors.standing⟩,mirrors.behind,mirrors.entered,mirrors.answered,mirrors.checking⟩
  down := kept.down
  sent := kept.sent
  ambiguous other listed := by
    simp only [Host.answer] at listed
    split at listed
    · obtain earlier | now := List.mem_append.mp listed
      · exact kept.ambiguous other earlier
      · exact List.mem_singleton.mp now ▸ used
    · exact kept.ambiguous other listed

theorem Kept.answerDecision (kept : Kept encoding host) (up : host.actor = some state) (settling : Settling state id) :
    Kept encoding (host.answerDecision id reply).1 where
  once := kept.once
  standing := kept.standing
  resolving := kept.resolving
  fresh := kept.fresh
  disk file held := ⟨(kept.disk file held).used,(kept.disk file held).called,(kept.disk file held).standing⟩
  memory memory held := by
    obtain rfl : state = memory := Option.some.inj (up.symm.trans held)
    have mirrors := kept.memory state up
    refine ⟨⟨mirrors.used,mirrors.called,mirrors.standing⟩,mirrors.behind,mirrors.entered,fun other listed => ?_,
      mirrors.checking⟩
    simp only [Host.answerDecision] at listed
    split at listed
    · obtain earlier | now := List.mem_append.mp listed
      · exact mirrors.answered other earlier
      · exact List.mem_singleton.mp now ▸ settling
    · exact mirrors.answered other listed
  down := kept.down
  sent := kept.sent
  ambiguous := kept.ambiguous

theorem Kept.wait (kept : Kept encoding host) {lane : Option InFlight} (up : host.actor = none → lane = none)
    (sent : ∀ inFlight id, lane = some inFlight → InFlight.sent inFlight = some id → id ∈ host.used)
    (checking : ∀ state id operation, host.actor = some state → lane = some (.checking id operation) →
      id ∉ state.commands) : Kept encoding { host with lane := lane } where
  once := kept.once
  standing := kept.standing
  resolving := kept.resolving
  fresh := kept.fresh
  disk file held := ⟨(kept.disk file held).used,(kept.disk file held).called,(kept.disk file held).standing⟩
  memory state up :=
    have mirrors := kept.memory state up
    ⟨⟨mirrors.used,mirrors.called,mirrors.standing⟩,mirrors.behind,mirrors.entered,mirrors.answered,
      fun id operation => checking state id operation up⟩
  down := up
  sent := sent
  ambiguous := kept.ambiguous

theorem Kept.leave (kept : Kept encoding host) : Kept encoding { host with lane := none } :=
  kept.wait (fun _ => rfl) (fun _ _ held => nomatch held) fun _ _ _ _ held => nomatch held

variable {inFlight : InFlight}

theorem Kept.send (kept : Kept encoding host) (disk : host.disk = some state) (up : host.actor = some state)
    (listed : id ∈ state.commands) (first : id ∉ host.calls.map Prod.fst) (sent : InFlight.sent inFlight = some id)
    (call : ProviderCall Value) : Kept encoding (host.send id inFlight call).1 := by
  have mirrors := kept.memory state up
  have called (other : String) (member : other ∈ (host.calls ++ [(id,call)]).map Prod.fst) : other ∈ state.commands := by
    rw [List.map_append] at member
    obtain earlier | now := List.mem_append.mp member
    · exact mirrors.called other earlier
    · exact List.mem_singleton.mp now ▸ listed
  refine ⟨fun other => ?_,kept.standing,kept.resolving,fun absent => ?_,fun file held => ?_,fun memory held => ?_,
    fun down => ?_,fun taken other held same => ?_,kept.ambiguous⟩
  · show ((host.calls ++ [(id,call)]).map Prod.fst).count other ≤ 1
    rw [List.map_append,List.count_append]
    have once := kept.once other
    by_cases same : id = other
    · subst same
      have zero := List.count_eq_zero.mpr first
      simp [zero]
    · simpa [same] using once
  · exact absurd (disk.symm.trans absent) (by simp)
  · obtain rfl : state = file := Option.some.inj (disk.symm.trans held)
    exact ⟨mirrors.used,called,mirrors.standing⟩
  · obtain rfl : state = memory := Option.some.inj (up.symm.trans held)
    refine ⟨⟨mirrors.used,called,mirrors.standing⟩,mirrors.behind,mirrors.entered,mirrors.answered,?_⟩
    intro other operation taken
    obtain rfl : inFlight = .checking other operation := Option.some.inj taken
    cases sent
  · exact absurd (up.symm.trans down) (by simp)
  · obtain rfl : inFlight = taken := Option.some.inj held
    obtain rfl : id = other := Option.some.inj (sent.symm.trans same)
    obtain ⟨command,found⟩ := Option.isSome_iff_exists.mp (AList.lookup_isSome.mpr listed)
    obtain ⟨request,used,-⟩ := mirrors.used id command found
    show id ∈ host.used
    exact AList.lookup_isSome.mp (by rw [used]; rfl)

variable {command : PersistedCommand}

theorem Kept.enter (kept : Kept encoding host) (mirrors : Mirrors encoding host state) (free : host.lane = none)
    (new : id ∉ state.commands) {request : Request Value}
    (digest : command.payloadDigest = payloadDigest encoding request) (payload : Persist)
    {next : PersistedActorState Value → Host Value → Host Value × Reply}
    (goes : ∀ entered later, Kept encoding later → later.actor = some entered → id ∈ entered.commands →
      later.calls = host.calls → Kept encoding (next entered later).1) :
    Kept encoding (host.enter state id request command payload next).1 := by
  have used (view : PersistedActorState Value) (records : Records encoding host view) (absent : id ∉ view.commands)
      (other : String) (held : PersistedCommand) (found : view.commands.lookup other = some held) :
      ∃ request', (host.used.insert id request).lookup other = some request' ∧
        held.payloadDigest = payloadDigest encoding request' := by
    have different : other ≠ id := by
      rintro rfl
      exact absent (AList.lookup_isSome.mp (by rw [found]; rfl))
    rw [lookup_insert,if_neg different]
    exact records.used other held found
  have listed : id ∈ state.commands.insert id command := (AList.mem_insert _).mpr (.inl rfl)
  have entered : Kept encoding { host with
      actor := some { state with commands := state.commands.insert id command }
      used := host.used.insert id request } := by
    refine ⟨kept.once,kept.standing,kept.resolving,kept.fresh,fun file held => ?_,fun memory held => ?_,
      fun down => (by cases down),fun inFlight other held => ?_,fun other member => ?_⟩
    · have records := kept.disk file held
      exact ⟨used file records (fun there => new (mirrors.behind file held id there)),records.called,
        records.standing⟩
    · obtain rfl := Option.some.inj held
      refine ⟨⟨fun other record found => ?_,fun other member => ?_,mirrors.standing⟩,fun file held other there => ?_,
        fun other member => ?_,mirrors.answered,fun other operation taken => ?_⟩
      · have found : (state.commands.insert id command).lookup other = some record := found
        by_cases same : other = id
        · subst same
          rw [AList.lookup_insert] at found
          obtain rfl := Option.some.inj found
          exact ⟨request,AList.lookup_insert _,digest⟩
        · rw [lookup_insert,if_neg same] at found
          exact used state mirrors.toRecords new other record found
      · exact (AList.mem_insert _).mpr (.inr (mirrors.called other member))
      · exact (AList.mem_insert _).mpr (.inr (mirrors.behind file held other there))
      · obtain same | earlier := (AList.mem_insert _).mp member
        · exact (AList.mem_insert _).mpr (.inl same)
        · exact (AList.mem_insert _).mpr (.inr (mirrors.entered other earlier))
      · exact absurd (free.symm.trans taken) (by simp)
    · exact absurd (free.symm.trans held) (by simp)
    · exact (AList.mem_insert _).mpr (.inr (kept.ambiguous other member))
  exact entered.after payload fun _ => goes _ _ entered rfl listed rfl

theorem Kept.queueAndSend (kept : Kept encoding host) (mirrors : Mirrors encoding host state) (free : host.lane = none)
    (new : id ∉ state.commands) {request : Request Value} (sent : InFlight.sent inFlight = some id)
    (call : ProviderCall Value) (faults : Faults) :
    Kept encoding (host.queueAndSend state id (payloadDigest encoding request) request inFlight call faults).1 := by
  have first : id ∉ host.calls.map Prod.fst := fun listed => new (mirrors.called id listed)
  refine kept.enter mirrors free new rfl faults.payload fun queued later kept up listed same => ?_
  have goes := continues_setCommand queued id (fun _ => rfl : ∀ command : PersistedCommand,
    ({ command with state := .dispatching } : PersistedCommand).payloadDigest = command.payloadDigest)
  refine kept.saveAnd (kept.memory queued up) faults.queued fun saved => ?_
  refine saved.saveAnd ((saved.memory queued rfl).continues goes) faults.dispatching fun sending => ?_
  exact sending.send rfl rfl ((goes.mem_iff id).mpr listed) (same ▸ first) sent call

theorem Mirrors.used_of_lookup (mirrors : Mirrors encoding host state)
    (found : state.commands.lookup id = some command) : id ∈ host.used := by
  obtain ⟨request,used,-⟩ := mirrors.used id command found
  exact AList.lookup_isSome.mp (by rw [used]; rfl)

/-! ### The calls under a request id -/

theorem Kept.dispatch (kept : Kept encoding host) (free : host.lane = none) (id text : String)
    (settings : Option FreshAgentTurnSettings) (faults : Faults) :
    Kept encoding (host.dispatch encoding id text settings faults).1 := by
  unfold Host.dispatch
  cases up : host.actor with
  | none => exact kept
  | some state =>
    have mirrors := kept.memory state up
    dsimp only
    cases found : state.commands.lookup id with
    | some existing => exact kept.answer (mirrors.used_of_lookup found)
    | none =>
      have merged : Mirrors encoding host
          { state with profile := settings.elim state.profile state.profile.applyTurnSettings } :=
        mirrors.continues ⟨fun _ => rfl,fun _ settling => settling⟩
      dsimp only
      split
      · -- The file is left as it is, as by a write that fails.
        exact kept.save merged (.failed false "")
      · exact kept.queueAndSend merged free (AList.lookup_eq_none.mp found) rfl _ faults

theorem Kept.fork (kept : Kept encoding host) (free : host.lane = none) (id parentSessionId : String)
    (input : Option Value) (faults : Faults) :
    Kept encoding (host.fork encoding id parentSessionId input faults).1 := by
  unfold Host.fork
  cases up : host.actor with
  | none => exact kept
  | some state =>
    have mirrors := kept.memory state up
    dsimp only
    cases found : state.commands.lookup id with
    | some existing => exact kept.answer (mirrors.used_of_lookup found)
    | none =>
      have new := AList.lookup_eq_none.mp found
      have first : id ∉ host.calls.map Prod.fst := fun listed => new (mirrors.called id listed)
      dsimp only
      split
      · exact kept
      · refine kept.enter mirrors free new rfl faults.payload fun entered later kept up listed same => ?_
        refine kept.saveAnd (kept.memory entered up) faults.dispatching fun sending => ?_
        exact sending.send rfl rfl listed (same ▸ first) rfl _

theorem Kept.semanticOperation (kept : Kept encoding host) (id : String) (operation : FreshAgentOperation) :
    Kept encoding (host.semanticOperation encoding id operation).1 := by
  unfold Host.semanticOperation
  split
  · exact kept
  next state up =>
    split
    next existing found => exact kept.answer ((kept.memory state up).used_of_lookup found)
    next found =>
      refine kept.wait (fun down => absurd (up.symm.trans down) (by simp)) (fun inFlight other held sent => ?_) ?_
      · obtain rfl := Option.some.inj held
        cases sent
      · intro memory other operation held waiting
        obtain ⟨rfl,-⟩ := InFlight.checking.inj (Option.some.inj waiting)
        obtain rfl := Option.some.inj (up.symm.trans held)
        exact AList.lookup_eq_none.mp found

theorem Kept.submit (kept : Kept encoding host) (free : host.lane = none) (id : String) (request : Request Value)
    (faults : Faults) : Kept encoding (host.submit encoding id request faults).1 := by
  cases request with
  | dispatch text settings => exact kept.dispatch free id text settings faults
  | fork parentSessionId input => exact kept.fork free id parentSessionId input faults
  | semanticOperation operation => exact kept.semanticOperation id operation

theorem Kept.capabilityChecked (kept : Kept encoding host) (supports : Except String Bool) (faults : Faults) :
    Kept encoding (host.capabilityChecked encoding supports faults).1 := by
  unfold Host.capabilityChecked
  split
  next state requestId operation up lane =>
    have new := (kept.memory state up).checking requestId operation lane
    have left := kept.leave
    dsimp only
    split
    · exact left
    · exact left
    · exact left.queueAndSend (left.memory state up) rfl new rfl _ faults
  · exact kept

theorem Kept.settle (kept : Kept encoding host) (up : host.actor = some state) (lane : host.lane = some inFlight)
    (sent : InFlight.sent inFlight = some id) (continues : Continues state later) (write : Persist)
    {next : Host Value → Host Value × Reply}
    (goes : ∀ settled, Kept encoding settled → id ∈ settled.used → Kept encoding (next settled).1) :
    Kept encoding (Host.saveAnd { host with lane := none } later write next).1 :=
  kept.leave.saveAnd ((kept.leave.memory state up).continues continues) write fun saved =>
    goes _ saved (kept.sent inFlight id lane sent)

theorem Kept.dispatched (kept : Kept encoding host) (result : Except DispatchFailure (Option String))
    (write : Persist) : Kept encoding (host.dispatched result write).1 := by
  unfold Host.dispatched
  split
  next state requestId up lane =>
    dsimp only
    split
    · refine kept.settle up lane rfl (continues_setCommand state requestId ?_) write ?_
      · exact fun _ => rfl
      · exact fun _ settled _ => settled
    · refine kept.settle up lane rfl (continues_setCommand state requestId ?_) write ?_
      · exact fun _ => rfl
      · exact fun _ settled used => settled.answer used
  · exact kept

theorem Kept.forkReturned (kept : Kept encoding host) (result : Except DispatchFailure ForkTransition)
    (write : Persist) : Kept encoding (host.forkReturned result write).1 := by
  unfold Host.forkReturned
  split
  next state requestId parentSessionId up lane =>
    dsimp only
    split
    next transition =>
      split
      · have continues := continues_setCommand state requestId (fun _ => rfl : ∀ command : PersistedCommand,
          ({ command with providerAckId := some transition.childSessionId, state := .completed } :
            PersistedCommand).payloadDigest = command.payloadDigest)
        refine kept.settle up lane rfl ?_ write ?_
        · exact ⟨continues.commands,continues.decisions⟩
        · exact fun _ settled _ => settled
      · refine kept.settle up lane rfl (continues_setCommand state requestId ?_) write ?_
        · exact fun _ => rfl
        · exact fun _ settled used => settled.answer used
    · refine kept.settle up lane rfl (continues_setCommand state requestId ?_) write ?_
      · exact fun _ => rfl
      · exact fun _ settled used => settled.answer used
  · exact kept

theorem Kept.operationReturned (kept : Kept encoding host) (result : Except OperationFailure OperationAck)
    (write : Persist) : Kept encoding (host.operationReturned result write).1 := by
  unfold Host.operationReturned
  split
  next state requestId up lane =>
    dsimp only
    split
    next ack =>
      have continues := continues_setCommand state requestId (fun _ => rfl : ∀ command : PersistedCommand,
        ({ command with providerAckId := ack.providerAckId, state := .providerAcked } :
          PersistedCommand).payloadDigest = command.payloadDigest)
      refine kept.settle up lane rfl ?_ write ?_
      · exact ⟨continues.commands,continues.decisions⟩
      · exact fun _ settled _ => settled
    · refine kept.settle up lane rfl (continues_setCommand state requestId ?_) write ?_
      · exact fun _ => rfl
      · exact fun _ settled used => settled.answer used
  · exact kept

/-! ### The answers to permissions -/

theorem Kept.ask (kept : Kept encoding host) (disk : host.disk = some state) (up : host.actor = some state)
    (settling : Settling state id) (first : id ∉ host.standing) :
    Kept encoding { host with
      resolving := id :: host.resolving
      asked := host.asked ++ [id]
      standing := id :: host.standing } := by
  have mirrors := kept.memory state up
  have stands (other : String) (listed : other ∈ id :: host.standing) : Settling state other := by
    obtain rfl | earlier := List.mem_cons.mp listed
    · exact settling
    · exact mirrors.standing other earlier
  refine ⟨kept.once,fun other => ?_,fun other => ?_,fun absent => ?_,fun file held => ?_,fun memory held => ?_,
    kept.down,kept.sent,kept.ambiguous⟩
  · show (id :: host.standing).count other ≤ 1
    have once := kept.standing other
    rw [List.count_cons]
    by_cases same : id = other
    · subst same
      have zero := List.count_eq_zero.mpr first
      simp [zero]
    · simpa [same] using once
  · show (id :: host.resolving).count other ≤ (id :: host.standing).count other
    have fewer := kept.resolving other
    rw [List.count_cons,List.count_cons]
    omega
  · exact absurd (disk.symm.trans absent) (by simp)
  · obtain rfl : state = file := Option.some.inj (disk.symm.trans held)
    exact ⟨mirrors.used,mirrors.called,stands⟩
  · obtain rfl : state = memory := Option.some.inj (up.symm.trans held)
    exact ⟨⟨mirrors.used,mirrors.called,stands⟩,mirrors.behind,mirrors.entered,mirrors.answered,mirrors.checking⟩

theorem Kept.resolvePermission (kept : Kept encoding host) (id : String) (decision : Value) (write : Persist) :
    Kept encoding (host.resolvePermission encoding id decision write).1 := by
  unfold Host.resolvePermission
  cases up : host.actor with
  | none => exact kept
  | some state =>
    have mirrors := kept.memory state up
    dsimp only
    cases found : state.decisions.lookup id with
    | none => exact kept
    | some pending =>
      have settling (past : pending.state ≠ .pending) : Settling state id := ⟨pending,found,past⟩
      dsimp only
      split
      next isPending =>
        have first : id ∉ host.standing := by
          intro listed
          obtain ⟨held,same,past⟩ := mirrors.standing id listed
          obtain rfl := Option.some.inj (found.symm.trans same)
          exact past isPending
        refine kept.saveAnd (mirrors.continues (continues_setDecision state id fun _ => by simp)) write fun saved => ?_
        refine saved.ask rfl rfl ?_ first
        exact ⟨_,by rw [lookup_setDecision,found]; rfl,by simp⟩
      · split
        · exact kept
        · exact kept
      next past => exact kept.answerDecision up (settling (by simp [past]))
      next past => exact kept.answerDecision up (settling (by simp [past]))

theorem Kept.cancelResolve (kept : Kept encoding host) (id : String) : Kept encoding (host.cancelResolve id) where
  once := kept.once
  standing := kept.standing
  resolving other := Nat.le_trans ((List.erase_sublist ..).count_le other) (kept.resolving other)
  fresh := kept.fresh
  disk file held := ⟨(kept.disk file held).used,(kept.disk file held).called,(kept.disk file held).standing⟩
  memory state up :=
    have mirrors := kept.memory state up
    ⟨⟨mirrors.used,mirrors.called,mirrors.standing⟩,mirrors.behind,mirrors.entered,mirrors.answered,mirrors.checking⟩
  down := kept.down
  sent := kept.sent
  ambiguous := kept.ambiguous

theorem Kept.withdraw (kept : Kept encoding host) (id : String) : Kept encoding { host with
    resolving := host.resolving.erase id
    standing := host.standing.erase id } where
  once := kept.once
  standing other := Nat.le_trans ((List.erase_sublist ..).count_le other) (kept.standing other)
  resolving other := by
    have fewer := kept.resolving other
    rw [List.count_erase,List.count_erase]
    omega
  fresh absent := by
    obtain ⟨calls,standing⟩ := kept.fresh absent
    exact ⟨calls,by rw [standing]; rfl⟩
  disk file held :=
    have records := kept.disk file held
    ⟨records.used,records.called,fun other listed => records.standing other (List.mem_of_mem_erase listed)⟩
  memory state up :=
    have mirrors := kept.memory state up
    ⟨⟨mirrors.used,mirrors.called,fun other listed => mirrors.standing other (List.mem_of_mem_erase listed)⟩,
      mirrors.behind,mirrors.entered,mirrors.answered,mirrors.checking⟩
  down := kept.down
  sent := kept.sent
  ambiguous := kept.ambiguous

theorem Mirrors.reopen (mirrors : Mirrors encoding host state) (id : String) (unanswered : id ∉ host.standing)
    (unheard : id ∉ host.ambiguousDecisions) :
    Mirrors encoding host (state.setDecision id fun pending => { pending with state := .pending }) := by
  have others (other : String) (different : other ≠ id) (settling : Settling state other) :
      Settling (state.setDecision id fun pending => { pending with state := .pending }) other :=
    settling_setDecision state (fun same => absurd same different) settling
  refine ⟨⟨?_,?_,fun other listed => ?_⟩,?_,?_,fun other listed => ?_,?_⟩
  · simpa only [setDecision_commands] using mirrors.used
  · simpa only [setDecision_commands] using mirrors.called
  · exact others other (fun same => unanswered (same ▸ listed)) (mirrors.standing other listed)
  · simpa only [setDecision_commands] using mirrors.behind
  · simpa only [setDecision_commands] using mirrors.entered
  · exact others other (fun same => unheard (same ▸ listed)) (mirrors.answered other listed)
  · simpa only [setDecision_commands] using mirrors.checking

theorem Kept.permissionReturned [DecidableEq Value] (kept : Kept encoding host)
    {result : Except DispatchFailure Unit} {write : Persist}
    (orderly : Orderly encoding host (.permissionReturned id result write)) :
    Kept encoding (host.permissionReturned id result write).1 := by
  unfold Host.permissionReturned
  split
  · exact kept
  next state up =>
    have mirrors := kept.memory state up
    split
    · exact kept
    next waiting =>
      have waits : 0 < host.resolving.count id := List.count_pos_iff.mpr (not_not.mp waiting)
      have stood := kept.resolving id
      have one := kept.standing id
      have settling : Settling state id := mirrors.standing id (List.count_pos_iff.mp (by omega))
      have left := kept.cancelResolve id
      dsimp only
      split
      · refine left.saveAnd ((left.memory state up).continues (continues_setDecision state id ?_)) write ?_
        · exact fun _ => by simp
        · exact fun saved => saved
      next failure =>
        split
        · refine left.saveAnd ((left.memory state up).continues (continues_setDecision state id ?_)) write ?_
          · exact fun _ => by simp
          · exact fun saved => saved.answerDecision rfl (settling_setDecision state (fun _ _ => by simp) settling)
        next rejected =>
          have withdrawn := kept.withdraw id
          refine withdrawn.saveAnd ((withdrawn.memory state up).reopen id ?_ ?_) write fun saved => saved
          · have none_ : (host.standing.erase id).count id = 0 := by
              rw [List.count_erase_self]
              omega
            exact List.count_eq_zero.mp none_
          · exact orderly.resolve_left rejected

theorem Kept.recordEvent (kept : Kept encoding host) (write : Persist) : Kept encoding (host.recordEvent write).1 := by
  unfold Host.recordEvent
  split
  · exact kept
  next state up => exact kept.saveAnd (kept.memory state up) write fun saved => saved

theorem Kept.recordPermission [DecidableEq Value] (kept : Kept encoding host) (id : String) (payload : Value)
    (fits : Bool) (write : Persist) : Kept encoding (host.recordPermission id payload fits write).1 := by
  unfold Host.recordPermission
  split
  · exact kept
  next state up =>
    split
    · split
      · exact kept
      · exact kept
    next new =>
      split
      · have continues : Continues state
            { state with decisions := state.decisions.insert id { payload, state := .pending } } := by
          refine ⟨fun _ => rfl,fun other ⟨decision,found,past⟩ => ?_⟩
          have different : other ≠ id := by
            rintro rfl
            rw [new] at found
            cases found
          exact ⟨decision,by rw [lookup_insert,if_neg different]; exact found,past⟩
        refine kept.saveAnd ((kept.memory state up).continues continues) write ?_
        exact fun saved => saved
      · exact kept

theorem Kept.observeNativeIdentity (kept : Kept encoding host) (nativeSessionId : String) (write : Persist) :
    Kept encoding (host.observeNativeIdentity nativeSessionId write).1 := by
  unfold Host.observeNativeIdentity
  split
  · exact kept
  next state up =>
    split
    · exact kept
    · split
      · split
        · exact kept
        · exact kept
      · refine kept.saveAnd ((kept.memory state up).continues ?_) write ?_
        · exact ⟨fun _ => rfl,fun _ settling => settling⟩
        · exact fun saved => saved

/-! ### Opening -/

variable {profile : FreshAgentProfile}

theorem continues_load {file loaded : PersistedActorState Value} (ready : load (some file) profile = .ok loaded) :
    Continues file loaded := by
  unfold load at ready
  dsimp only at ready
  split at ready
  · cases ready
  · obtain rfl := Except.ok.inj ready
    exact continues_interrupted file

theorem continues_started {native : Option String} (ready : started state native = .ok later) :
    Continues state later := by
  unfold started at ready
  split at ready
  · split at ready
    · cases ready
    · obtain rfl := Except.ok.inj ready
      exact ⟨fun _ => rfl,fun _ settling => settling⟩
  · obtain rfl := Except.ok.inj ready
    exact ⟨fun _ => rfl,fun _ settling => settling⟩

theorem Kept.openActor [DecidableEq Value] (kept : Kept encoding host) (down : host.actor = none)
    {start : Except String (Option String)} {write : Persist}
    (orderly : Orderly encoding host (.openActor profile start write)) :
    Kept encoding (host.openActor profile start write).1 := by
  obtain ⟨entered,answered⟩ := orderly down
  unfold Host.openActor
  split
  · exact kept
  next state ready =>
    obtain ⟨-,loaded,native,load,-,started⟩ := ready_iff.mp ready
    have mirrors : Mirrors encoding host state := by
      suffices ofLoaded : Mirrors encoding host loaded from ofLoaded.continues (continues_started started)
      cases held : host.disk with
      | none =>
        rw [held] at load
        obtain rfl := Except.ok.inj load
        obtain ⟨calls,standing⟩ := kept.fresh held
        refine ⟨⟨fun id command found => ?_,fun id listed => ?_,fun id listed => ?_⟩,fun file found => ?_,fun id listed => ?_,
          fun id listed => ?_,fun id operation waiting => ?_⟩
        · cases found
        · rw [calls] at listed
          cases listed
        · rw [standing] at listed
          cases listed
        · rw [held] at found
          cases found
        · obtain ⟨file,found,-⟩ := entered id listed
          rw [held] at found
          cases found
        · obtain ⟨file,found,-⟩ := answered id listed
          rw [held] at found
          cases found
        · exact absurd ((kept.down down).symm.trans waiting) (by simp)
      | some file =>
        rw [held] at load
        suffices ofFile : Mirrors encoding host file from ofFile.continues (continues_load load)
        refine ⟨kept.disk file held,fun other found id listed => ?_,fun id listed => ?_,fun id listed => ?_,
          fun id operation waiting => ?_⟩
        · obtain rfl := Option.some.inj (held.symm.trans found)
          exact listed
        · obtain ⟨other,found,there⟩ := entered id listed
          obtain rfl := Option.some.inj (held.symm.trans found)
          exact there
        · obtain ⟨other,found,there⟩ := answered id listed
          obtain rfl := Option.some.inj (held.symm.trans found)
          exact there
        · exact absurd ((kept.down down).symm.trans waiting) (by simp)
    have saved := kept.save mirrors write
    split
    · exact saved
    -- Without an actor the file alone is left.
    · obtain ⟨once,standing,resolving,fresh,disk,-,-,sent,ambiguous⟩ := saved
      refine ⟨once,standing,resolving,fresh,fun file found => ?_,fun memory up => ?_,fun _ => kept.down down,sent,ambiguous⟩
      · exact ⟨(disk file found).used,(disk file found).called,(disk file found).standing⟩
      · exact absurd (down.symm.trans up) (by simp)
    · obtain ⟨once,standing,resolving,fresh,disk,-,-,sent,ambiguous⟩ := saved
      refine ⟨once,standing,resolving,fresh,fun file found => ?_,fun memory up => ?_,fun _ => kept.down down,sent,ambiguous⟩
      · exact ⟨(disk file found).used,(disk file found).called,(disk file found).standing⟩
      · exact absurd (down.symm.trans up) (by simp)

/-! ### What reaches the provider -/

theorem after_cases (holds : Host Value → Prop) {write : Persist} {next : Host Value → Host Value × Reply}
    (stays : holds host) (crashed : holds host.crash) (goes : holds (next host).1) :
    holds (host.after write next).1 := by
  cases write with
  | done => exact goes
  | failed replaced error => exact stays
  | crashed replaced => exact crashed

/-- The provider calls, and the questions about decisions. -/
def history (host : Host Value) : List (String × ProviderCall Value) × List String := (host.calls,host.asked)

theorem history_saveAnd {write : Persist} {next : Host Value → Host Value × Reply}
    {calls : List (String × ProviderCall Value) × List String} (same : host.history = calls)
    (goes : ∀ saved : Host Value, saved.history = calls → (next saved).1.history = calls) :
    (host.saveAnd state write next).1.history = calls :=
  after_cases (fun later => later.history = calls) same same (goes _ same)

def Sends (host later : Host Value) (id : String) : Prop :=
  later.asked = host.asked ∧ (later.calls = host.calls ∨ ∃ call, later.calls = host.calls ++ [(id,call)])

theorem sends_of_history {later : Host Value} (same : later.history = host.history) : Sends host later id :=
  ⟨congrArg Prod.snd same,.inl (congrArg Prod.fst same)⟩

theorem sends_queueAndSend (payloadDigest : String) (request : Request Value) (inFlight : InFlight)
    (call : ProviderCall Value) (faults : Faults) :
    Sends host (host.queueAndSend state id payloadDigest request inFlight call faults).1 id := by
  have quiet {later : Host Value} (same : later.history = host.history) : Sends host later id := sends_of_history same
  refine after_cases (fun later => Sends host later id) (quiet rfl) (quiet rfl) ?_
  refine after_cases (fun later => Sends host later id) (quiet rfl) (quiet rfl) ?_
  refine after_cases (fun later => Sends host later id) (quiet rfl) (quiet rfl) ?_
  exact ⟨rfl,.inr ⟨call,rfl⟩⟩

theorem submit_recorded (encoding : Encoding Value) (up : host.actor = some state)
    (found : state.commands.lookup id = some command) (request : Request Value) (faults : Faults) :
    ∃ reply, host.submit encoding id request faults = host.answer id reply ∧
      (command.payloadDigest ≠ payloadDigest encoding request → reply = .error .requestConflict) := by
  cases request with
  | dispatch text settings =>
    refine ⟨_,by simp only [submit,dispatch,up,found]; rfl,fun different => ?_⟩
    simp [PersistedCommand.dispatchedBefore,different]
  | fork parentSessionId input =>
    refine ⟨_,by simp only [submit,fork,up,found]; rfl,fun different => ?_⟩
    simp [PersistedCommand.forkedBefore,different]
  | semanticOperation operation =>
    refine ⟨_,by simp only [submit,semanticOperation,up,found]; rfl,fun different => ?_⟩
    simp [PersistedCommand.operatedBefore,different]

theorem sends_submit (request : Request Value) (faults : Faults) :
    Sends host (host.submit encoding id request faults).1 id := by
  have quiet {later : Host Value} (same : later.history = host.history) : Sends host later id := sends_of_history same
  cases request with
  | dispatch text settings =>
    simp only [submit,dispatch]
    split
    · exact quiet rfl
    · split
      · exact quiet rfl
      · split
        · exact quiet rfl
        · exact sends_queueAndSend ..
  | fork parentSessionId input =>
    simp only [submit,fork]
    split
    · exact quiet rfl
    · split
      · exact quiet rfl
      · split
        · exact quiet rfl
        · refine after_cases (fun later => Sends host later id) (quiet rfl) (quiet rfl) ?_
          refine after_cases (fun later => Sends host later id) (quiet rfl) (quiet rfl) ?_
          exact ⟨rfl,.inr ⟨_,rfl⟩⟩
  | semanticOperation operation =>
    simp only [submit,semanticOperation]
    split
    · exact quiet rfl
    · split
      · exact quiet rfl
      · exact quiet rfl

theorem history_dispatched (result : Except DispatchFailure (Option String)) (write : Persist) :
    (host.dispatched result write).1.history = host.history := by
  unfold Host.dispatched
  split
  · dsimp only
    split
    · exact history_saveAnd rfl fun _ same => same
    · exact history_saveAnd rfl fun _ same => same
  · rfl

theorem history_forkReturned (result : Except DispatchFailure ForkTransition) (write : Persist) :
    (host.forkReturned result write).1.history = host.history := by
  unfold Host.forkReturned
  split
  · dsimp only
    split
    · split
      · exact history_saveAnd rfl fun _ same => same
      · exact history_saveAnd rfl fun _ same => same
    · exact history_saveAnd rfl fun _ same => same
  · rfl

theorem history_operationReturned (result : Except OperationFailure OperationAck) (write : Persist) :
    (host.operationReturned result write).1.history = host.history := by
  unfold Host.operationReturned
  split
  · dsimp only
    split
    · exact history_saveAnd rfl fun _ same => same
    · exact history_saveAnd rfl fun _ same => same
  · rfl

theorem history_permissionReturned (id : String) (result : Except DispatchFailure Unit) (write : Persist) :
    (host.permissionReturned id result write).1.history = host.history := by
  unfold Host.permissionReturned
  split
  · rfl
  · split
    · rfl
    · dsimp only
      split
      · exact history_saveAnd rfl fun _ same => same
      · split
        · exact history_saveAnd rfl fun _ same => same
        · exact history_saveAnd rfl fun _ same => same

theorem history_recordPermission [DecidableEq Value] (id : String) (payload : Value) (fits : Bool) (write : Persist) :
    (host.recordPermission id payload fits write).1.history = host.history := by
  unfold Host.recordPermission
  split
  · rfl
  · split
    · split
      · rfl
      · rfl
    · split
      · exact history_saveAnd rfl fun _ same => same
      · rfl

theorem history_observeNativeIdentity (nativeSessionId : String) (write : Persist) :
    (host.observeNativeIdentity nativeSessionId write).1.history = host.history := by
  unfold Host.observeNativeIdentity
  split
  · rfl
  · split
    · rfl
    · split
      · split
        · rfl
        · rfl
      · exact history_saveAnd rfl fun _ same => same

theorem history_openActor (profile : FreshAgentProfile) (start : Except String (Option String)) (write : Persist) :
    (host.openActor profile start write).1.history = host.history := by
  unfold Host.openActor
  split
  · rfl
  · split
    · rfl
    · rfl
    · rfl

theorem asked_resolvePermission (encoding : Encoding Value) (host : Host Value) (id : String) (decision : Value) (write : Persist) :
    (host.resolvePermission encoding id decision write).1.calls = host.calls ∧
      ((host.resolvePermission encoding id decision write).1.asked = host.asked ∨
        (host.resolvePermission encoding id decision write).1.asked = host.asked ++ [id] ∧
          ∃ state, host.actor = some state ∧ ¬ Settling state id) := by
  unfold Host.resolvePermission
  split
  · exact ⟨rfl,.inl rfl⟩
  next state up =>
    dsimp only
    split
    · exact ⟨rfl,.inl rfl⟩
    next pending found =>
      split
      next isPending =>
        have unsettled : ¬ Settling state id := by
          rintro ⟨decision,same,past⟩
          obtain rfl := Option.some.inj (found.symm.trans same)
          exact past isPending
        cases write with
        | done => exact ⟨rfl,.inr ⟨rfl,state,up,unsettled⟩⟩
        | failed replaced error => exact ⟨rfl,.inl rfl⟩
        | crashed replaced => exact ⟨rfl,.inl rfl⟩
      · split
        · exact ⟨rfl,.inl rfl⟩
        · exact ⟨rfl,.inl rfl⟩
      · exact ⟨rfl,.inl rfl⟩
      · exact ⟨rfl,.inl rfl⟩

/-! ### Runs -/

variable [DecidableEq Value]

theorem Kept.next (kept : Kept encoding host) {op : HostOp Value} (orderly : Orderly encoding host op) :
    Kept encoding (host.next encoding op) := by
  cases op with
  | openActor profile start write =>
    simp only [Host.next]
    split
    · exact kept
    next down => exact kept.openActor (by simpa using down) orderly
  | request id request faults =>
    simp only [Host.next]
    split
    · exact kept
    next free => exact kept.submit (by simpa using free) id request faults
  | capabilityChecked supports faults => exact kept.capabilityChecked supports faults
  | dispatched result write => exact kept.dispatched result write
  | forkReturned result write => exact kept.forkReturned result write
  | operationReturned result write => exact kept.operationReturned result write
  | cancel => exact kept.leave
  | resolvePermission id decision write => exact kept.resolvePermission id decision write
  | permissionReturned id result write => exact kept.permissionReturned orderly
  | cancelResolve id => exact kept.cancelResolve id
  | recordEvent write => exact kept.recordEvent write
  | recordPermission id payload fits write => exact kept.recordPermission id payload fits write
  | observeNativeIdentity nativeSessionId write => exact kept.observeNativeIdentity nativeSessionId write
  | crash => exact kept.crash

theorem Kept.calls_next (kept : Kept encoding host) (op : HostOp Value) :
    (host.next encoding op).calls = host.calls ∨
      ∃ id call, (host.next encoding op).calls = host.calls ++ [(id,call)] ∧ id ∉ host.used := by
  have of_history {later : Host Value} (same : later.history = host.history) : later.calls = host.calls :=
    congrArg Prod.fst same
  cases op with
  | openActor profile start write =>
    simp only [Host.next]
    split
    · exact .inl rfl
    · exact .inl (of_history (history_openActor ..))
  | request id request faults =>
    simp only [Host.next]
    split
    · exact .inl rfl
    · have sends : Sends host (host.submit encoding id request faults).1 id := sends_submit request faults
      obtain ⟨-,same | ⟨call,sent⟩⟩ := sends
      · exact .inl same
      · refine .inr ⟨id,call,sent,fun used => ?_⟩
        cases up : host.actor with
        | none =>
          have same : (host.submit encoding id request faults).1 = host := by
            cases request <;> simp [Host.submit,Host.dispatch,Host.fork,Host.semanticOperation,up]
          rw [same] at sent
          exact absurd (congrArg List.length sent) (by simp)
        | some state =>
          obtain ⟨command,found⟩ :=
            Option.isSome_iff_exists.mp (AList.lookup_isSome.mpr ((kept.memory state up).entered id used))
          obtain ⟨reply,answered,-⟩ := submit_recorded encoding up found request faults
          rw [answered] at sent
          have same : host.calls = host.calls ++ [(id,call)] := sent
          exact absurd (congrArg List.length same) (by simp)
  | capabilityChecked supports faults =>
    simp only [Host.next]
    unfold Host.capabilityChecked
    split
    next state id operation up lane =>
      have new := (kept.memory state up).checking id operation lane
      have unused : id ∉ host.used := fun used => new ((kept.memory state up).entered id used)
      dsimp only
      split
      · exact .inl rfl
      · exact .inl rfl
      · have sends : Sends { host with lane := none } (Host.queueAndSend { host with lane := none } state id
            (payloadDigest encoding (.semanticOperation operation)) (.semanticOperation operation) (.operating id)
            (.operation operation) faults).1 id := sends_queueAndSend ..
        obtain ⟨-,same | ⟨call,sent⟩⟩ := sends
        · exact .inl same
        · exact .inr ⟨id,call,sent,unused⟩
    · exact .inl rfl
  | dispatched result write => exact .inl (of_history (history_dispatched ..))
  | forkReturned result write => exact .inl (of_history (history_forkReturned ..))
  | operationReturned result write => exact .inl (of_history (history_operationReturned ..))
  | cancel => exact .inl rfl
  | resolvePermission id decision write => exact .inl (asked_resolvePermission ..).1
  | permissionReturned id result write => exact .inl (of_history (history_permissionReturned ..))
  | cancelResolve id => exact .inl rfl
  | recordEvent write =>
    simp only [Host.next]
    unfold Host.recordEvent
    split
    · exact .inl rfl
    · exact .inl (of_history (history_saveAnd rfl fun _ same => same))
  | recordPermission id payload fits write => exact .inl (of_history (history_recordPermission ..))
  | observeNativeIdentity nativeSessionId write => exact .inl (of_history (history_observeNativeIdentity ..))
  | crash => exact .inl rfl

theorem Kept.asked_next (kept : Kept encoding host) (op : HostOp Value) (heard : id ∈ host.ambiguousDecisions) :
    (host.next encoding op).asked.count id = host.asked.count id := by
  have of_history {later : Host Value} (same : later.history = host.history) :
      later.asked.count id = host.asked.count id := by
    rw [show later.asked = host.asked from congrArg Prod.snd same]
  cases op with
  | openActor profile start write =>
    simp only [Host.next]
    split
    · rfl
    · exact of_history (history_openActor ..)
  | request other request faults =>
    simp only [Host.next]
    split
    · rfl
    · have sends : Sends host (host.submit encoding other request faults).1 other := sends_submit request faults
      rw [sends.1]
  | capabilityChecked supports faults =>
    simp only [Host.next]
    unfold Host.capabilityChecked
    split
    · dsimp only
      split
      · rfl
      · rfl
      · rw [(sends_queueAndSend ..).1]
    · rfl
  | dispatched result write => exact of_history (history_dispatched ..)
  | forkReturned result write => exact of_history (history_forkReturned ..)
  | operationReturned result write => exact of_history (history_operationReturned ..)
  | cancel => rfl
  | resolvePermission other decision write =>
    obtain ⟨-,same | ⟨asked,state,up,unsettled⟩⟩ :=
      asked_resolvePermission encoding host other decision write
    · exact congrArg (List.count id) same
    · have different : other ≠ id := by
        rintro rfl
        exact unsettled ((kept.memory state up).answered other heard)
      show (host.resolvePermission encoding other decision write).1.asked.count id = _
      rw [asked,List.count_append,List.count_singleton,if_neg (by simpa using different)]
      rfl
  | permissionReturned other result write => exact of_history (history_permissionReturned ..)
  | cancelResolve other => rfl
  | recordEvent write =>
    simp only [Host.next]
    unfold Host.recordEvent
    split
    · rfl
    · exact of_history (history_saveAnd rfl fun _ same => same)
  | recordPermission other payload fits write => exact of_history (history_recordPermission ..)
  | observeNativeIdentity nativeSessionId write => exact of_history (history_observeNativeIdentity ..)
  | crash => rfl

theorem Kept.atMostOnce (kept : Kept encoding host) {op : HostOp Value} (orderly : Orderly encoding host op) :
    AtMostOnce encoding host op where
  once := (kept.next orderly).once
  standing := (kept.next orderly).standing
  conflict id first other faults isRequest up free used different := by
    subst isRequest
    obtain ⟨state,up⟩ := Option.isSome_iff_exists.mp up
    have mirrors := kept.memory state up
    have listed := mirrors.entered id (AList.lookup_isSome.mp (by rw [used]; rfl))
    obtain ⟨command,found⟩ := Option.isSome_iff_exists.mp (AList.lookup_isSome.mpr listed)
    obtain ⟨request,same,digest⟩ := mirrors.used id command found
    obtain rfl : first = request := Option.some.inj (used.symm.trans same)
    obtain ⟨reply,answered,refused⟩ := submit_recorded encoding up found other faults
    rw [answered,refused (by rw [digest]; exact orderly first used different)]
    rfl
  ambiguous id heard := by
    obtain same | ⟨other,call,sent,unused⟩ := kept.calls_next op
    · rw [same]
    · have different : other ≠ id := by
        rintro rfl
        exact unused (kept.ambiguous other heard)
      rw [sent,List.map_append,List.count_append,List.map_singleton,List.count_singleton,
        if_neg (by simpa using different)]
      rfl
  ambiguousDecision id heard := kept.asked_next op heard

theorem Kept.along (kept : Kept encoding host) {ops : List (HostOp Value)}
    (orderly : Along (Host.next encoding) (Orderly encoding) host ops) :
    Along (Host.next encoding) (AtMostOnce encoding) host ops := by
  induction ops generalizing host with
  | nil => trivial
  | cons op rest ih => exact ⟨kept.atMostOnce orderly.1,ih (kept.next orderly.1) orderly.2⟩

/-- **The provider is called at most once for a request.** In every run whose steps are
    orderly, each step is as `AtMostOnce` says. -/
theorem atMostOnce_run (encoding : Encoding Value) (ops : List (HostOp Value))
    (orderly : Along (Host.next encoding) (Orderly encoding) {} ops) :
    Along (Host.next encoding) (AtMostOnce encoding) {} ops := kept_new.along orderly

/-- The host goes down with a prompt at the provider, and the retry is refused. -/
theorem atMostOnce_crash :
    Along (Host.next plainJson) (AtMostOnce plainJson) {}
      [.openActor plainProfile (.ok none) .done,.request "r" (.dispatch "hello" none) {},.crash,
        .openActor plainProfile (.ok none) .done,.request "r" (.dispatch "hello" none) {}] := by
  refine atMostOnce_run plainJson _ ⟨fun _ => ⟨?_,?_⟩,?_,trivial,fun _ => ⟨?_,?_⟩,?_,trivial⟩
  · exact fun id listed => absurd listed (List.not_mem_nil)
  · exact fun id listed => absurd listed (List.not_mem_nil)
  · exact fun first used => nomatch used
  · intro id listed
    obtain rfl := List.mem_singleton.mp (AList.mem_keys.mp listed)
    exact ⟨_,rfl,by decide⟩
  · exact fun id listed => absurd listed (List.not_mem_nil)
  · intro first used different
    exact absurd (Option.some.inj used).symm different

/-- A prompt whose record did not reach the disk is called ambiguous, and after a crash it
    is sent; and a fork of another conversation under a used id is not refused. -/
theorem lostRecord_sends :
    ¬ Along (Host.next plainJson) (AtMostOnce plainJson) {}
      [.openActor plainProfile (.ok none) .done,.request "r" (.dispatch "hello" none) { payload := .failed false "full" },
        .request "r" (.dispatch "hello" none) {},.crash,.openActor plainProfile (.ok none) .done,
        .request "r" (.dispatch "hello" none) {}] ∧
    ¬ Along (Host.next plainJson) (AtMostOnce plainJson) {}
      [.openActor plainProfile (.ok (some "parent")) .done,.request "r" (.fork "parent" none) {},
        .forkReturned (.ok ⟨"parent","child",true⟩) .done,.request "r" (.fork "other" none) {}] := by
  constructor
  · rintro ⟨-,-,-,-,-,last,-⟩
    exact absurd (last.ambiguous "r" (by decide)) (by decide)
  · rintro ⟨-,-,-,last,-⟩
    have refused := last.conflict "r" (.fork "parent" none) (.fork "other" none) {} rfl (by decide) (by decide) (by decide) (by simp)
    exact absurd (congrArg Prod.snd refused) (by decide)

end Freshell.AgentHost.Host
