import Freshell.AgentHost.Actor
import Freshell.Library.Runs

/-!
The profile of a hosted agent. The settings of a turn are merged into it ahead of their
validation, so that it stays valid only under settings that are valid beside it; and an
actor is opened again only under a profile that nothing but the identity of the
conversation has changed in.
-/
namespace Freshell.AgentHost.Host
open Freshell.Library.Runs
open Freshell.SessionHost (CommandState Persist)

section
variable {Value : Type} [DecidableEq Value] (encoding : Encoding Value)

structure KeepsProfile (host : Host Value) (op : HostOp Value) : Prop where
  valid : ∀ state, (host.next encoding op).actor = some state → state.profile.validate = .ok ()
  /-- A dispatch that is refused for its settings changes nothing that later dispatches use. -/
  refused : ∀ id text settings faults state, op = .request id (.dispatch text settings) faults →
    host.lane = none → host.actor = some state →
      (host.dispatch encoding id text settings faults).2 = .error .invalidProfile →
        ∃ later, (host.next encoding op).actor = some later ∧ later.profile = state.profile ∧
          later.commands = state.commands
  /-- A dispatch without settings is sent with the profile in force. -/
  sent : ∀ id text state call, op = .request id (.dispatch text none) {} → host.lane = none →
    host.actor = some state → (host.next encoding op).calls = host.calls ++ [(id,call)] →
      call = .dispatch text state.profile

/-- The actor can be opened again, if the provider resumes the conversation. -/
def Reopens (launch : FreshAgentProfile) (host : Host Value) (op : HostOp Value) : Prop :=
  ∀ file native, (host.next encoding op).disk = some file →
    (file.profile.nativeSessionId = none ∨ native = file.profile.nativeSessionId) →
      ((host.next encoding op).crash.openActor launch (.ok native) .done).2 = .done

/-- The provider gives no empty identity, and the settings of a new dispatch are valid beside
    the profile. -/
def Sound (host : Host Value) (op : HostOp Value) : Prop :=
  match op with
  | .openActor _ start _ => start ≠ .ok (some "")
  | .request id (.dispatch _ (some settings)) _ => ∀ state, host.actor = some state →
    state.commands.lookup id = none → (state.profile.applyTurnSettings settings).validate = .ok ()
  | .operationReturned (.ok ack) _ => ack.nativeSessionId ≠ some ""
  | _ => True

/-- The actor is opened with one profile, the settings of a new dispatch change nothing in it,
    and the identity changes only if the profile did not name one. -/
def Unchanging (launch : FreshAgentProfile) (host : Host Value) (op : HostOp Value) : Prop :=
  match op with
  | .openActor profile _ _ => profile = launch
  | .request id (.dispatch _ (some settings)) _ => ∀ state, host.actor = some state →
    state.commands.lookup id = none → state.profile.applyTurnSettings settings = state.profile
  | .forkReturned (.ok _) _ => launch.nativeSessionId = none
  | .operationReturned (.ok ack) _ =>
    launch.nativeSessionId = none ∨ ack.nativeSessionId = none ∨ ack.nativeSessionId = launch.nativeSessionId
  | _ => True

structure Profiles (holds : FreshAgentProfile → Prop) (host : Host Value) : Prop where
  memory : ∀ state, host.actor = some state → holds state.profile
  disk : ∀ file, host.disk = some file → holds file.profile

/-- The property holds of each profile that the step may store. -/
def Admits (holds : FreshAgentProfile → Prop) (host : Host Value) (op : HostOp Value) : Prop :=
  match op with
  | .openActor profile start _ => ∀ loaded native state, profile.validate = .ok () → load host.disk profile = .ok loaded →
    start = .ok native → started loaded native = .ok state → holds state.profile
  | .request id (.dispatch _ (some settings)) _ => ∀ state, host.actor = some state →
    state.commands.lookup id = none → holds (state.profile.applyTurnSettings settings)
  | .forkReturned (.ok transition) _ => ∀ state parentSessionId, host.actor = some state →
    acceptable parentSessionId transition = true →
      holds { state.profile with nativeSessionId := some transition.childSessionId }
  | .operationReturned (.ok ack) _ => ∀ state, host.actor = some state →
    holds { state.profile with nativeSessionId := ack.nativeSessionId.or state.profile.nativeSessionId }
  | .observeNativeIdentity nativeSessionId _ => ∀ state, host.actor = some state → nativeSessionId ≠ "" →
    state.profile.nativeSessionId = none → holds { state.profile with nativeSessionId := some nativeSessionId }
  | _ => True

end

variable {Value : Type} {encoding : Encoding Value} {holds : FreshAgentProfile → Prop} {host : Host Value}
  {state : PersistedActorState Value} {id : String}

@[simp] theorem setCommand_profile (state : PersistedActorState Value) (id : String)
    (change : PersistedCommand → PersistedCommand) : (state.setCommand id change).profile = state.profile := by
  unfold PersistedActorState.setCommand
  split
  · rfl
  · rfl

@[simp] theorem setDecision_profile (state : PersistedActorState Value) (id : String)
    (change : PersistedDecision Value → PersistedDecision Value) :
    (state.setDecision id change).profile = state.profile := by
  unfold PersistedActorState.setDecision
  split
  · rfl
  · rfl

theorem Profiles.crash (profiles : Profiles holds host) : Profiles holds host.crash :=
  ⟨fun _ up => (by cases up),profiles.disk⟩

theorem Profiles.save (profiles : Profiles holds host) (held : holds state.profile) (write : Persist) :
    Profiles holds (host.save state write) where
  memory memory up := Option.some.inj up ▸ held
  disk file found := by
    have found : write.disk host.disk state = some file := found
    obtain new | old := write.disk_cases host.disk state
    · exact Option.some.inj (new.symm.trans found) ▸ held
    · exact profiles.disk file (old.symm.trans found)

theorem Profiles.after (profiles : Profiles holds host) (write : Persist) {next : Host Value → Host Value × Reply}
    (goes : Profiles holds (next host).1) : Profiles holds (host.after write next).1 := by
  cases write with
  | done => exact goes
  | failed replaced error => exact profiles
  | crashed replaced => exact profiles.crash

theorem Profiles.saveAnd (profiles : Profiles holds host) (held : holds state.profile) (write : Persist)
    {next : Host Value → Host Value × Reply}
    (goes : ∀ saved, Profiles holds saved → Profiles holds (next saved).1) :
    Profiles holds (host.saveAnd state write next).1 :=
  (profiles.save held write).after write (goes _ (profiles.save held write))

theorem Profiles.congr (profiles : Profiles holds host) {later : Host Value} (actor : later.actor = host.actor)
    (disk : later.disk = host.disk) : Profiles holds later where
  memory state up := profiles.memory state (actor.symm.trans up)
  disk file found := profiles.disk file (disk.symm.trans found)

theorem Profiles.queueAndSend (profiles : Profiles holds host) (held : holds state.profile) (id digest : String)
    (request : Request Value) (inFlight : InFlight) (call : ProviderCall Value) (faults : Faults) :
    Profiles holds (host.queueAndSend state id digest request inFlight call faults).1 := by
  have entered : Profiles holds { host with
      actor := some { state with
        commands := state.commands.insert id { payloadDigest := digest, state := .queued } }
      used := host.used.insert id request } := ⟨fun memory up => Option.some.inj up ▸ held,profiles.disk⟩
  refine entered.after faults.payload ?_
  refine entered.saveAnd ?_ faults.queued fun queued kept => ?_
  · exact held
  refine kept.saveAnd ?_ faults.dispatching fun sending kept => ?_
  · simpa using held
  · exact kept.congr rfl rfl

theorem Profiles.submit [DecidableEq Value] (profiles : Profiles holds host) {request : Request Value}
    {faults : Faults} (admits : Admits holds host (.request id request faults)) :
    Profiles holds (host.submit encoding id request faults).1 := by
  cases request with
  | dispatch text settings =>
    simp only [Host.submit,Host.dispatch]
    split
    · exact profiles
    next state up =>
      split
      · exact profiles.congr rfl rfl
      next new =>
        have held : holds (settings.elim state.profile state.profile.applyTurnSettings) := by
          cases settings with
          | none => exact profiles.memory state up
          | some settings => exact admits state up new
        split
        · exact ⟨fun memory up => Option.some.inj up ▸ held,profiles.disk⟩
        · exact profiles.queueAndSend held ..
  | fork parentSessionId input =>
    simp only [Host.submit]
    fun_cases Host.fork encoding host id parentSessionId input faults with
    | case4 state up =>
      have held := profiles.memory state up
      have entered : Profiles holds { host with
          actor := some { state with
            commands := state.commands.insert id
              { payloadDigest := payloadDigest encoding (.fork parentSessionId input), state := .dispatching } }
          used := host.used.insert id (.fork parentSessionId input) } :=
        ⟨fun memory up => Option.some.inj up ▸ held,profiles.disk⟩
      refine entered.after faults.payload ?_
      refine entered.saveAnd ?_ faults.dispatching fun sending kept => ?_
      · exact held
      · exact kept.congr rfl rfl
    | _ => exact profiles.congr rfl rfl
  | semanticOperation operation =>
    simp only [Host.submit]
    fun_cases Host.semanticOperation encoding host id operation with
    | _ => exact profiles.congr rfl rfl

theorem Profiles.settle (profiles : Profiles holds host) {later : PersistedActorState Value}
    (held : holds later.profile) (write : Persist) {next : Host Value → Host Value × Reply}
    (same : ∀ saved : Host Value, (next saved).1.actor = saved.actor ∧ (next saved).1.disk = saved.disk) :
    Profiles holds (Host.saveAnd { host with lane := none } later write next).1 := by
  have left : Profiles holds { host with lane := none } := profiles.congr rfl rfl
  exact left.saveAnd held write fun saved kept => kept.congr (same saved).1 (same saved).2

variable {launch : FreshAgentProfile}

theorem profiles_new : Profiles holds ({} : Host Value) := ⟨fun _ up => (by cases up),fun _ held => (by cases held)⟩

def Valid (profile : FreshAgentProfile) : Prop := profile.validate = .ok ()

variable {profile : FreshAgentProfile} {native : Option String}

theorem Valid.withIdentity (valid : Valid profile) (given : native ≠ some "") :
    Valid { profile with nativeSessionId := native } := by
  unfold Valid FreshAgentProfile.validate at valid ⊢
  split at valid
  · cases valid
  next complete =>
    have still : ¬ (profile.runtimeVariant = "" ∨ profile.cwd = "" ∨ profile.providerStoreId = "" ∨ native = some "") := by
      rintro (empty | empty | empty | empty)
      · exact complete (.inl empty)
      · exact complete (.inr (.inl empty))
      · exact complete (.inr (.inr (.inl empty)))
      · exact given empty
    rw [if_neg still]
    exact valid

variable {loaded : PersistedActorState Value}

theorem load_profile {disk : Option (PersistedActorState Value)} (ready : load disk profile = .ok loaded) :
    disk = none ∧ loaded.profile = profile ∨
      ∃ file, disk = some file ∧ loaded.profile = file.profile ∧ file.profile =
        { profile with nativeSessionId := profile.nativeSessionId.or file.profile.nativeSessionId } := by
  cases disk with
  | none =>
    obtain rfl := Except.ok.inj ready
    exact .inl ⟨rfl,rfl⟩
  | some file =>
    unfold load at ready
    dsimp only at ready
    split at ready
    · cases ready
    next same =>
      obtain rfl := Except.ok.inj ready
      exact .inr ⟨file,rfl,rfl,not_not.mp same⟩

theorem started_profile (ready : started loaded native = .ok state) : state.profile = loaded.profile ∨
      loaded.profile.nativeSessionId = none ∧ state.profile = { loaded.profile with nativeSessionId := native } := by
  unfold started at ready
  split at ready
  · split at ready
    · cases ready
    · obtain rfl := Except.ok.inj ready
      exact .inl rfl
  next unnamed =>
    obtain rfl := Except.ok.inj ready
    exact .inr ⟨unnamed,rfl⟩

theorem queueAndSend_reply (id digest : String) (request : Request Value) (inFlight : InFlight)
    (call : ProviderCall Value) (faults : Faults) :
    (host.queueAndSend state id digest request inFlight call faults).2 ≠ .error .invalidProfile := by
  have behind {host : Host Value} (write : Persist) {next : Host Value → Host Value × Reply}
      (goes : ∀ host, (next host).2 ≠ .error .invalidProfile) : (host.after write next).2 ≠ .error .invalidProfile := by
    cases write with
    | done => exact goes host
    | failed replaced error => simp [Host.after]
    | crashed replaced => simp [Host.after]
  refine behind faults.payload fun _ => behind faults.queued fun _ => behind faults.dispatching fun _ => ?_
  simp [Host.send]

theorem dispatchedBefore_reply (command : PersistedCommand) (digest : String) :
    command.dispatchedBefore digest ≠ .error .invalidProfile := by
  unfold PersistedCommand.dispatchedBefore
  split
  · simp
  · split <;> simp

/-- A profile that differs from the launch profile at most in an identity that it did not name. -/
def OfLaunch (launch profile : FreshAgentProfile) : Prop :=
  profile = { launch with nativeSessionId := launch.nativeSessionId.or profile.nativeSessionId }

theorem OfLaunch.withIdentity {launch : FreshAgentProfile} (ofLaunch : OfLaunch launch profile)
    (named : launch.nativeSessionId = none ∨ native = launch.nativeSessionId) :
    OfLaunch launch { profile with nativeSessionId := native } := by
  unfold OfLaunch at ofLaunch ⊢
  have identity : launch.nativeSessionId.or native = native := by
    obtain unnamed | same := named
    · rw [unnamed,Option.none_or]
    · rw [same,Option.or_self]
  rw [identity,ofLaunch]

theorem OfLaunch.unnamed {launch : FreshAgentProfile} (ofLaunch : OfLaunch launch profile)
    (none_ : profile.nativeSessionId = none) : launch.nativeSessionId = none := by
  have same := congrArg FreshAgentProfile.nativeSessionId ofLaunch
  rw [none_] at same
  cases named : launch.nativeSessionId with
  | none => rfl
  | some native => simp [named] at same

theorem OfLaunch.named {launch profile : FreshAgentProfile} (ofLaunch : OfLaunch launch profile) :
    launch.nativeSessionId = none ∨ profile.nativeSessionId = launch.nativeSessionId := by
  cases named : launch.nativeSessionId with
  | none => exact .inl rfl
  | some native =>
    have same := congrArg FreshAgentProfile.nativeSessionId ofLaunch
    simp only [named,Option.some_or] at same
    exact .inr same

theorem load_launch {file : PersistedActorState Value} (ofLaunch : OfLaunch launch file.profile) :
    load (some file) launch = .ok file.interrupted := if_neg (not_not.mpr ofLaunch)

theorem started_resumes (loaded : PersistedActorState Value)
    (resumes : loaded.profile.nativeSessionId = none ∨ native = loaded.profile.nativeSessionId) :
    ∃ state, started loaded native = .ok state := by
  unfold started
  split
  next expected named =>
    have same : native = some expected := by
      obtain unnamed | same := resumes
      · exact absurd (named.symm.trans unnamed) (by simp)
      · exact same.trans named
    exact ⟨loaded,if_neg (not_not.mpr same)⟩
  · exact ⟨_,rfl⟩

theorem openActor_done {start : Except String (Option String)} (valid : Valid profile)
    (load : load host.disk profile = .ok loaded) (begun : start = .ok native)
    (started : started loaded native = .ok state) : (host.openActor profile start .done).2 = .done := by
  unfold Host.openActor
  rw [ready_iff.mpr ⟨valid,loaded,native,load,begun,started⟩]

variable {op : HostOp Value}

theorem Profiles.admitsValid (profiles : Profiles Valid host) (sound : Sound host op) : Admits Valid host op := by
  cases op with
  | openActor profile start write =>
    intro loaded native state valid load begun started
    have fine : Valid loaded.profile := by
      obtain ⟨-,same⟩ | ⟨file,held,same,-⟩ := load_profile load
      · exact same ▸ valid
      · exact same ▸ profiles.disk file held
    obtain same | ⟨-,same⟩ := started_profile started
    · exact same ▸ fine
    · rw [same]
      exact fine.withIdentity fun empty => sound (empty ▸ begun)
  | request id request faults =>
    cases request with
    | dispatch text settings =>
      cases settings with
      | none => trivial
      | some settings => exact sound
    | fork parentSessionId input => trivial
    | semanticOperation operation => trivial
  | forkReturned result write =>
    cases result with
    | error failure => trivial
    | ok transition =>
      intro state parentSessionId up accepted
      refine (profiles.memory state up).withIdentity ?_
      simp only [acceptable,Bool.and_eq_true,bne_iff_ne] at accepted
      simpa using accepted.1.1.1.2
  | operationReturned result write =>
    cases result with
    | error failure => trivial
    | ok ack =>
      intro state up
      have valid := profiles.memory state up
      cases given : ack.nativeSessionId with
      | none => exact valid
      | some native => exact valid.withIdentity (by rw [Option.some_or,← given]; exact sound)
  | observeNativeIdentity nativeSessionId write =>
    intro state up given _
    exact (profiles.memory state up).withIdentity (by simpa using given)
  | _ => trivial

theorem Profiles.admitsLaunch (profiles : Profiles (OfLaunch launch) host) (unchanging : Unchanging launch host op) :
    Admits (OfLaunch launch) host op := by
  cases op with
  | openActor profile start write =>
    obtain rfl : profile = launch := unchanging
    intro loaded native state valid load begun started
    have fine : OfLaunch profile loaded.profile := by
      obtain ⟨-,same⟩ | ⟨file,held,same,-⟩ := load_profile load
      · rw [same,OfLaunch,Option.or_self]
      · exact same ▸ profiles.disk file held
    obtain same | ⟨unnamed,same⟩ := started_profile started
    · exact same ▸ fine
    · rw [same]
      exact fine.withIdentity (.inl (fine.unnamed unnamed))
  | request id request faults =>
    cases request with
    | dispatch text settings =>
      cases settings with
      | none => trivial
      | some settings =>
        intro state up new
        rw [unchanging state up new]
        exact profiles.memory state up
    | fork parentSessionId input => trivial
    | semanticOperation operation => trivial
  | forkReturned result write =>
    cases result with
    | error failure => trivial
    | ok transition =>
      intro state parentSessionId up accepted
      exact (profiles.memory state up).withIdentity (.inl unchanging)
  | operationReturned result write =>
    cases result with
    | error failure => trivial
    | ok ack =>
      intro state up
      have ofLaunch := profiles.memory state up
      refine ofLaunch.withIdentity ?_
      obtain unnamed | same | same := unchanging
      · exact .inl unnamed
      · rw [same,Option.none_or]
        exact ofLaunch.named
      · rw [same]
        obtain unnamed | named := ofLaunch.named
        · exact .inl unnamed
        · rw [named,Option.or_self]
          exact .inr rfl
  | observeNativeIdentity nativeSessionId write =>
    intro state up given unnamed
    have ofLaunch := profiles.memory state up
    exact ofLaunch.withIdentity (.inl (ofLaunch.unnamed unnamed))
  | _ => trivial

variable [DecidableEq Value]

theorem Profiles.next (profiles : Profiles holds host) {op : HostOp Value} (admits : Admits holds host op) :
    Profiles holds (host.next encoding op) := by
  have stays (saved : Host Value) : saved.actor = saved.actor ∧ saved.disk = saved.disk := ⟨rfl,rfl⟩
  have asIs {state : PersistedActorState Value} (up : host.actor = some state) (id : String)
      (change : PersistedCommand → PersistedCommand) : holds (state.setCommand id change).profile := by
    simpa using profiles.memory state up
  have decided {state : PersistedActorState Value} (up : host.actor = some state) (id : String)
      (change : PersistedDecision Value → PersistedDecision Value) : holds (state.setDecision id change).profile := by
    simpa using profiles.memory state up
  have left {later : Host Value} (actor : later.actor = host.actor) (disk : later.disk = host.disk) :
      Profiles holds later := profiles.congr actor disk
  cases op with
  | openActor profile start write =>
    simp only [Host.next]
    split
    · exact profiles
    · unfold Host.openActor
      split
      · exact profiles
      next state ready =>
        obtain ⟨valid,loaded,native,load,begun,started⟩ := ready_iff.mp ready
        have saved := profiles.save (admits loaded native state valid load begun started) write
        split
        · exact saved
        · exact ⟨profiles.memory,saved.disk⟩
        · exact ⟨profiles.memory,saved.disk⟩
  | request id request faults =>
    simp only [Host.next]
    split
    · exact profiles
    · exact profiles.submit admits
  | capabilityChecked supports faults =>
    simp only [Host.next]
    fun_cases Host.capabilityChecked encoding host supports faults with
    | case3 state id operation lane up freed =>
      have free : Profiles holds freed := left rfl rfl
      exact free.queueAndSend (profiles.memory state up) ..
    | _ => exact left rfl rfl
  | dispatched result write =>
    simp only [Host.next]
    fun_cases Host.dispatched host result write with
    | case1 state id lane up | case2 state id lane up => exact profiles.settle (asIs up id _) write stays
    | case3 => exact profiles
  | forkReturned result write =>
    simp only [Host.next]
    fun_cases Host.forkReturned host result write with
    | case1 state id parentSessionId lane up _ transition accepted =>
      exact profiles.settle (admits state parentSessionId up accepted) write stays
    | case2 state id _ lane up | case3 state id _ lane up => exact profiles.settle (asIs up id _) write stays
    | case4 => exact profiles
  | operationReturned result write =>
    simp only [Host.next]
    fun_cases Host.operationReturned host result write with
    | case1 state id lane up => exact profiles.settle (admits state up) write stays
    | case2 state id lane up => exact profiles.settle (asIs up id _) write stays
    | case3 => exact profiles
  | cancel => exact left rfl rfl
  | resolvePermission id decision write =>
    simp only [Host.next]
    fun_cases Host.resolvePermission encoding host id decision write with
    | case3 state up => exact profiles.saveAnd (decided up id _) write fun saved kept => kept.congr rfl rfl
    | _ => exact left rfl rfl
  | permissionReturned id result write =>
    simp only [Host.next]
    fun_cases Host.permissionReturned host id result write with
    | case1 | case2 => exact profiles
    | case4 state up _ left_ =>
      have free : Profiles holds left_ := left rfl rfl
      exact free.saveAnd (decided up id _) write fun saved kept => kept.congr rfl rfl
    | case3 state up _ left_ =>
      have free : Profiles holds left_ := left rfl rfl
      exact free.saveAnd (decided up id _) write fun saved kept => kept
    | case5 state up _ left_ =>
      have withdrawn : Profiles holds { left_ with standing := left_.standing.erase id } := left rfl rfl
      exact withdrawn.saveAnd (decided up id _) write fun saved kept => kept
  | cancelResolve id => exact left rfl rfl
  | recordEvent write =>
    simp only [Host.next]
    fun_cases Host.recordEvent host write with
    | case1 => exact profiles
    | case2 state up => exact profiles.saveAnd (profiles.memory state up) write fun saved kept => kept
  | recordPermission id payload fits write =>
    simp only [Host.next]
    fun_cases Host.recordPermission host id payload fits write with
    | case4 state up =>
      have held : holds state.profile := profiles.memory state up
      exact profiles.saveAnd (by exact held) write fun saved kept => kept
    | _ => exact profiles
  | observeNativeIdentity nativeSessionId write =>
    simp only [Host.next]
    fun_cases Host.observeNativeIdentity host nativeSessionId write with
    | case5 state up given unnamed =>
      have held := admits state up given unnamed
      exact profiles.saveAnd (by exact held) write fun saved kept => kept
    | _ => exact profiles
  | crash => exact profiles.crash

theorem Profiles.keeps (profiles : Profiles Valid host) (sound : Sound host op) : KeepsProfile encoding host op where
  valid state up := (profiles.next (profiles.admitsValid sound)).memory state up
  refused id text settings faults state isRequest free up refused := by
    subst isRequest
    exfalso
    unfold Host.dispatch at refused
    rw [up] at refused
    dsimp only at refused
    split at refused
    · exact dispatchedBefore_reply _ _ refused
    next new =>
      split at refused
      next error invalid =>
        cases settings with
        | none => cases invalid
        | some settings =>
          exact absurd (invalid.symm.trans (sound state up new)) (by simp)
      · exact queueAndSend_reply _ _ _ _ _ _ refused
  sent id text state call isRequest free up sent := by
    subst isRequest
    simp only [Host.next,free,Option.isSome_none,Host.submit,Host.dispatch,up] at sent
    cases found : state.commands.lookup id with
    | some existing =>
      simp only [found] at sent
      have same : host.calls = host.calls ++ [(id,call)] := sent
      exact absurd (congrArg List.length same) (by simp)
    | none =>
      simp only [found] at sent
      have same : host.calls ++ [(id,.dispatch text state.profile)] = host.calls ++ [(id,call)] := sent
      have pair := List.append_cancel_left same
      simpa using pair.symm

theorem Profiles.reopens (profiles : Profiles (OfLaunch launch) host) (valid : Valid launch)
    (unchanging : Unchanging launch host op) : Reopens encoding launch host op := by
  intro file native held resumes
  have ofLaunch := (profiles.next (profiles.admitsLaunch unchanging)).disk file held
  have load : load (host.next encoding op).crash.disk launch = .ok file.interrupted := by
    show Host.load (host.next encoding op).disk launch = _
    rw [held]
    exact load_launch ofLaunch
  obtain ⟨state,started⟩ := started_resumes file.interrupted resumes
  exact openActor_done valid load rfl started

variable {ops : List (HostOp Value)}

theorem Profiles.keepsAlong (profiles : Profiles Valid host) (sound : Along (Host.next encoding) Sound host ops) :
    Along (Host.next encoding) (KeepsProfile encoding) host ops := by
  induction ops generalizing host with
  | nil => trivial
  | cons op rest ih => exact ⟨profiles.keeps sound.1,ih (profiles.next (profiles.admitsValid sound.1)) sound.2⟩

theorem Profiles.reopensAlong (profiles : Profiles (OfLaunch launch) host) (valid : Valid launch)
    (unchanging : Along (Host.next encoding) (Unchanging launch) host ops) :
    Along (Host.next encoding) (Reopens encoding launch) host ops := by
  induction ops generalizing host with
  | nil => trivial
  | cons op rest ih =>
    exact ⟨profiles.reopens valid unchanging.1,ih (profiles.next (profiles.admitsLaunch unchanging.1)) unchanging.2⟩

/-- **A turn leaves the profile usable.** In every run with sound steps the profile stays
    valid and no dispatch is refused for it; and where nothing in the profile of the launch is
    changed, the actor can be opened again under it. -/
theorem profile_run (encoding : Encoding Value) (launch : FreshAgentProfile) (valid : launch.validate = .ok ())
    (ops : List (HostOp Value)) :
    (Along (Host.next encoding) Sound {} ops → Along (Host.next encoding) (KeepsProfile encoding) {} ops) ∧
      (Along (Host.next encoding) (Unchanging launch) {} ops →
        Along (Host.next encoding) (Reopens encoding launch) {} ops) :=
  ⟨profiles_new.keepsAlong,profiles_new.reopensAlong valid⟩

/-- Settings that change nothing are sent, and the actor is opened again. -/
theorem profile_sameSettings :
    Along (Host.next plainJson) (KeepsProfile plainJson) {}
        [.openActor plainProfile (.ok (some "s")) .done,.request "r" (.dispatch "hello" (some { cwd := some "/srv" })) {},
          .crash] ∧
      Along (Host.next plainJson) (Reopens plainJson plainProfile) {}
        [.openActor plainProfile (.ok (some "s")) .done,.request "r" (.dispatch "hello" (some { cwd := some "/srv" })) {},
          .crash] := by
  obtain ⟨keeps,reopens⟩ := profile_run plainJson plainProfile (by decide)
    [.openActor plainProfile (.ok (some "s")) .done,.request "r" (.dispatch "hello" (some { cwd := some "/srv" })) {},
      .crash]
  refine ⟨keeps ⟨by simp [Sound],fun state up _ => ?_,trivial,trivial⟩,reopens ⟨rfl,fun state up _ => ?_,trivial,trivial⟩⟩
  · obtain rfl := Option.some.inj up
    decide
  · obtain rfl := Option.some.inj up
    decide

/-- An empty directory is refused and stays in the profile; and a model that a dispatch
    names keeps the actor from being opened again. -/
theorem settings_spoilProfile :
    ¬ Along (Host.next plainJson) (KeepsProfile plainJson) {}
        [.openActor plainProfile (.ok none) .done,.request "r" (.dispatch "hello" (some { cwd := some "" })) {}] ∧
      ¬ Along (Host.next plainJson) (Reopens plainJson plainProfile) {}
        [.openActor plainProfile (.ok none) .done,.request "r" (.dispatch "hello" (some { model := some "opus" })) {}] := by
  constructor
  · rintro ⟨-,last,-⟩
    exact absurd (last.valid _ rfl) (by decide)
  · rintro ⟨-,last,-⟩
    exact absurd (last _ none rfl (.inl (by decide))) (by decide)

end Freshell.AgentHost.Host
