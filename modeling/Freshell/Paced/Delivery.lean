import Freshell.Paced.Life

/-!
Every step keeps the life of every attach. What is sent for an attach therefore
tiles a range: no number is lost, sent twice or sent out of order, whatever the
interleaving, and a staged exit is the last thing that its subscriber is sent.
-/
namespace Freshell.Paced
open Freshell.Terminal Freshell.Library.Spans
set_option linter.unusedSimpArgs false

/-- What a connection keeps: each of its attaches is in a state of its life, no
    session is in two places, and no drain that lost its subscriber answers to
    the name of another one. -/
structure Connection.Sound (head : Nat) (sub : Option Subscriber) (c : Connection) : Prop where
  unused : ∀ a, c.attaches ≤ a → c.sentFor a = [] ∧ c.drains a = none
  numbered : ∀ held, sub = some held → held.sink.attach < c.attaches
  closed : c.closed = true → sub = none
  table : c.busy.isSome → c.session = none
  kept : ∀ d, c.busy = some d → d.task ≠ .settle .gone ∧ d.task ≠ .dispose .gone
  owned : ∀ a d, c.drains a = some d → d.sink.attach = a
  apart : ∀ a d, c.drains a = some d → ∀ held, sub = some held → held.sink.attach ≠ a →
    ¬ held.Serves d.session.attachRequestId
  life : ∀ a, Life head (c.view sub a)

section
variable {head : Nat} {sub sub' : Option Subscriber} {c c' : Connection}

variable {a : Nat} {held : Subscriber}

theorem view_current : (c.view sub a).current = some held ↔ sub = some held ∧ held.sink.attach = a := by
  unfold Connection.view
  rw [Option.filter_eq_some_iff]
  simp

theorem view_current_none : (c.view sub a).current = none ↔ ∀ held, sub = some held → held.sink.attach ≠ a := by
  constructor
  · intro none_ held present mine
    rw [view_current.mpr ⟨present,mine⟩] at none_
    cases none_
  · intro apart
    cases current : (c.view sub a).current with
    | none => rfl
    | some held =>
      obtain ⟨present,mine⟩ := view_current.mp current
      exact absurd mine (apart held present)

theorem front_busy {d : Dispatch} (busy : c.busy = some d) (a : Nat) :
    c.front a = if d.sink.attach = a then some (d.session,d.outbox) else none := by
  simp only [Connection.front,busy]

variable {session : PacedSession}

theorem front_table {sink : FrameSink} (busy : c.busy = none) (held : c.session = some (sink,session)) (a : Nat) :
    c.front a = if sink.attach = a then some (session,[]) else none := by
  simp only [Connection.front,busy,held]

theorem front_none (busy : c.busy = none) (held : c.session = none) (a : Nat) : c.front a = none := by
  simp only [Connection.front,busy,held]

theorem Connection.Sound.touch (sound : c.Sound head sub) (a : Nat) (bound : a < c.attaches)
    (others : ∀ b, b ≠ a → c'.view sub' b = c.view sub b) (attaches : c'.attaches = c.attaches)
    (closed : c'.closed = true → sub' = none) (table : c'.busy.isSome → c'.session = none)
    (kept : ∀ d, c'.busy = some d → d.task ≠ .settle .gone ∧ d.task ≠ .dispose .gone)
    (drain : ∀ d, c'.drains a = some d → d.sink.attach = a ∧ ∀ held, sub' = some held → held.sink.attach ≠ a →
      ∃ before, c.drains a = some before ∧ d.session.attachRequestId = before.session.attachRequestId)
    (current : ∀ held, sub' = some held → held.sink.attach = a →
      ∃ before, sub = some before ∧ before.sink.attach = a ∧ ∀ arid, held.Serves arid → before.Serves arid)
    (mine : Life head (c'.view sub' a)) : c'.Sound head sub' := by
  have sameDrain : ∀ b, b ≠ a → c'.drains b = c.drains b := fun b other => congrArg AttachView.drain (others b other)
  have sameSent : ∀ b, b ≠ a → c'.sentFor b = c.sentFor b := fun b other => congrArg AttachView.sent (others b other)
  have sameCurrent : ∀ held, sub' = some held → held.sink.attach ≠ a → sub = some held := by
    intro held present other
    have before := congrArg AttachView.current (others _ other)
    rw [view_current.mpr ⟨present,rfl⟩] at before
    exact (view_current.mp before.symm).1
  refine ⟨?_,?_,closed,table,kept,?_,?_,?_⟩
  · intro b beyond
    have other : b ≠ a := by omega
    rw [sameDrain b other,sameSent b other]
    exact sound.unused b (attaches ▸ beyond)
  · intro held present
    rw [attaches]
    by_cases mine : held.sink.attach = a
    · omega
    · exact sound.numbered held (sameCurrent held present mine)
  · intro b d draining
    by_cases same : b = a
    · subst same
      exact (drain d draining).1
    · exact sound.owned b d (sameDrain b same ▸ draining)
  · intro b d draining held present other
    by_cases same : b = a
    · subst same
      obtain ⟨-,before⟩ := drain d draining
      obtain ⟨d',draining',named⟩ := before held present other
      rw [named]
      exact sound.apart b d' draining' held (sameCurrent held present other) other
    · rw [sameDrain b same] at draining
      by_cases ours : held.sink.attach = a
      · obtain ⟨held',present',ours',serves⟩ := current held present ours
        exact fun claim => sound.apart b d draining held' present' (by omega) (serves _ claim)
      · exact sound.apart b d draining held (sameCurrent held present ours) other
  · intro b
    by_cases same : b = a
    · subst same
      exact mine
    · rw [others b same]
      exact sound.life b

theorem Connection.Sound.unbusy (sound : c.Sound head sub) {outbox : List ServerMessage}
    (front : c.front a = some (session,outbox)) :
    c.drains a = none ∧ ∃ held, sub = some held ∧ held.sink.attach = a ∧ held.pacedDeferred = true ∧
      held.Serves session.attachRequestId ∧ session.phaseTarget ≤ head ∧ Cursor head (c.sentFor a) outbox session := by
  obtain ⟨drain,held,current,deferred,serves,reach,cursor⟩ := (sound.life a).of_front (show (c.view sub a).front = _ from front)
  obtain ⟨present,mine⟩ := view_current.mp current
  exact ⟨drain,held,present,mine,deferred,serves,reach,cursor⟩

theorem Connection.Sound.bound (sound : c.Sound head sub) {a : Nat} {session : PacedSession} {outbox : List ServerMessage}
    (front : c.front a = some (session,outbox)) : a < c.attaches := by
  obtain ⟨-,held,present,rfl,-⟩ := sound.unbusy front
  exact sound.numbered held present

theorem view_mine (present : sub = some held) (mine : held.sink.attach = a) :
    c.view sub a = ⟨some held,c.front a,c.drains a,c.sentFor a⟩ := by
  have current : (c.view sub a).current = some held := view_current.mpr ⟨present,mine⟩
  rw [← current]
  rfl

theorem view_other (apart : ∀ held, sub = some held → held.sink.attach ≠ a) :
    c.view sub a = ⟨none,c.front a,c.drains a,c.sentFor a⟩ := by
  have current : (c.view sub a).current = none := view_current_none.mpr apart
  rw [← current]
  rfl

/-- A turn of the attach at the front keeps its drain, its subscriber and what
    the other attaches were sent. -/
theorem Connection.Sound.frontTurn (sound : c.Sound head sub) {session' : PacedSession}
    {outbox outbox' : List ServerMessage} (front : ∀ b, c.front b = if a = b then some (session,outbox) else none)
    (front' : ∀ b, c'.front b = if a = b then some (session',outbox') else none) (attaches : c'.attaches = c.attaches)
    (closed : c'.closed = c.closed) (drains : c'.drains = c.drains) (sent : ∀ b, b ≠ a → c'.sentFor b = c.sentFor b)
    (table : c'.busy.isSome → c'.session = none)
    (kept : ∀ d, c'.busy = some d → d.task ≠ .settle .gone ∧ d.task ≠ .dispose .gone)
    (named : session'.attachRequestId = session.attachRequestId)
    (reach : session.phaseTarget ≤ head → session'.phaseTarget ≤ head)
    (cursor : Cursor head (c.sentFor a) outbox session → Cursor head (c'.sentFor a) outbox' session') :
    c'.Sound head sub := by
  have present : c.front a = some (session,outbox) := by rw [front,if_pos rfl]
  obtain ⟨drain,held,subscribed,mine,deferred,serves,reached,placed⟩ := sound.unbusy present
  refine sound.touch a (sound.bound present) ?_ attaches (closed ▸ sound.closed) table kept ?_ ?_ ?_
  · intro b other
    simp only [Connection.view]
    rw [front',front,if_neg (Ne.symm other),if_neg (Ne.symm other),drains,sent b other]
  · intro d draining
    rw [drains,drain] at draining
    cases draining
  · intro other present' mine'
    exact ⟨other,present',mine',fun _ => id⟩
  · rw [view_mine subscribed mine,front',if_pos rfl,drains,drain]
    exact Life.paced deferred (named ▸ serves) (reach reached) (cursor placed)

theorem Connection.Sound.setBusy (sound : c.Sound head sub) {d d' : Dispatch} (busy : c.busy = some d)
    (sink : d'.sink = d.sink) (kept : d'.task ≠ .settle .gone ∧ d'.task ≠ .dispose .gone)
    (named : d'.session.attachRequestId = d.session.attachRequestId) (reach : d'.session.phaseTarget ≤ head)
    (cursor : Cursor head (c.sentFor d.sink.attach) d'.outbox d'.session) : (c.setBusy (some d')).Sound head sub := by
  refine sound.frontTurn (front_busy busy) (sink ▸ front_busy rfl) rfl rfl rfl (fun _ _ => rfl)
    (fun _ => sound.table (by rw [busy]; rfl)) ?_ named (fun _ => reach) (fun _ => cursor)
  intro d'' same
  obtain rfl := Option.some.inj same
  exact kept

variable {outcome : DriveOutcome}

theorem guardDisposition_kept (session : PacedSession) (present : outcome ≠ .gone) :
    guardDisposition session outcome ≠ .gone := by
  cases outcome with
  | gone => exact absurd rfl present
  | active => simp [guardDisposition]
  | drainReady =>
    rw [guardDisposition]
    split <;> simp

theorem afterDrive_kept (session : PacedSession) (guard : Bool) (present : outcome ≠ .gone) :
    afterDrive session guard outcome ≠ .settle .gone ∧ afterDrive session guard outcome ≠ .dispose .gone := by
  unfold afterDrive
  split
  · exact ⟨by simp,fun same => guardDisposition_kept session present (Task.dispose.inj same)⟩
  · exact ⟨fun same => present (Task.settle.inj same),by simp⟩

theorem enterDrive_kept (session : PacedSession) (guard : Bool) :
    enterDrive session guard ≠ .settle .gone ∧ enterDrive session guard ≠ .dispose .gone := by
  unfold enterDrive
  split
  · simp
  · exact afterDrive_kept session guard (by simp)

variable {s : TerminalShared} {conn : ConnId}

theorem pacedExitTransition_head {exitHead : Nat} (staged : pacedExitTransition s conn = some exitHead) :
    exitHead = s.headSeq := by
  obtain ⟨_,-,rfl⟩ := Option.map_eq_some_iff.mp staged
  rfl

theorem armed_reach (reach : session.phaseTarget ≤ head) : (session.armStagedExit head).phaseTarget ≤ head := by
  unfold PacedSession.phaseTarget PacedSession.armStagedExit at *
  cases armed : session.exitHead with
  | none => rw [armed] at reach; simp only at *; omega
  | some exitHead => rw [armed] at reach; simp only at *; omega

theorem armFromRegistry_reach (reach : session.phaseTarget ≤ s.headSeq) :
    (armStagedExitFromRegistry s conn session).phaseTarget ≤ s.headSeq := by
  obtain ⟨same,-⟩ | ⟨-,exitHead,staged,armed⟩ := armStagedExitFromRegistry_cases s conn session
  · rw [same]
    exact reach
  · obtain rfl := pacedExitTransition_head staged
    rw [armed]
    exact armed_reach reach

end

section
variable {config : Config} {s : TerminalShared} {conn : ConnId} {c : Connection}

variable {d : Dispatch}

theorem sound_startTurn (sound : c.Sound s.headSeq (s.subscribers conn)) (busy : c.busy = some d) :
    (c.setBusy (some (startTurn s conn d))).Sound s.headSeq (s.subscribers conn) := by
  obtain ⟨-,held,-,-,-,-,reach,cursor⟩ := sound.unbusy (show c.front d.sink.attach = some (d.session,d.outbox) by
    rw [front_busy busy,if_pos rfl])
  refine sound.setBusy busy rfl ?_ (armFromRegistry_arid s conn d.session) (armFromRegistry_reach reach) ?_
  · show (if _ then _ else _) ≠ _ ∧ (if _ then _ else _) ≠ _
    split
    · simp
    · exact enterDrive_kept _ false
  · exact cursor.same (armFromRegistry_arid s conn d.session) (armFromRegistry_since s conn d.session)
      (armFromRegistry_pageEnd s conn d.session)

theorem sound_settleTurn (sound : c.Sound s.headSeq (s.subscribers conn)) {outcome : DriveOutcome}
    (busy : c.busy = some d) (present : outcome ≠ .gone) :
    (c.setBusy (some (settleTurn s conn d outcome))).Sound s.headSeq (s.subscribers conn) := by
  obtain ⟨-,held,-,-,-,-,reach,cursor⟩ := sound.unbusy (show c.front d.sink.attach = some (d.session,d.outbox) by
    rw [front_busy busy,if_pos rfl])
  unfold settleTurn
  cases staged : pacedExitTransition s conn with
  | none =>
    refine sound.setBusy busy rfl ?_ rfl reach cursor
    cases outcome <;> simp_all [unarmedDisposition]
  | some exitHead =>
    obtain rfl := pacedExitTransition_head staged
    refine sound.setBusy busy rfl ?_ rfl (armed_reach reach) (cursor.same rfl rfl rfl)
    simp only [present,if_false]
    split
    · simp
    · split
      · exact enterDrive_kept _ true
      · simp

theorem sound_driveTurn (ring : s.Sound) (sound : c.Sound s.headSeq (s.subscribers conn)) {guard : Bool}
    (busy : c.busy = some d) (empty : d.outbox = []) :
    (c.setBusy (some (driveTurn config s conn d guard))).Sound s.headSeq (s.subscribers conn) := by
  obtain ⟨-,held,subscribed,-,-,serves,reach,cursor⟩ := sound.unbusy (show c.front d.sink.attach = some (d.session,d.outbox) by
    rw [front_busy busy,if_pos rfl])
  rw [empty] at cursor
  unfold driveTurn
  obtain ⟨reached,read⟩ | ⟨below,lost,read⟩ | ⟨messages,endSeq,read,tiles,progress,bounded,output⟩ :=
    nextReplayPage_spec config d.session.pageEnd d.session.pageBudget ring subscribed serves.1 reach
  · rw [read]
    exact sound.setBusy busy rfl (afterDrive_kept _ guard (by simp)) rfl reach (by rw [empty]; exact cursor)
  · rw [read]
    have front := ring.oldest_le_head (by omega)
    refine sound.setBusy busy rfl ?_ rfl reach ?_
    · -- an expired read stays in the loop that the task names
      exact sound.kept d busy
    · refine cursor.advance rfl rfl ?_ (.inl ?_) ?_
      · exact tiles_singleton rfl rfl (by simp only [resumed_pageEnd]; omega)
      · simp only [resumed_pageEnd]
        omega
      · intro message member
        obtain rfl := List.mem_singleton.mp member
        rfl
  · rw [read]
    refine sound.setBusy busy rfl ?_ rfl reach ?_
    · apply afterDrive_kept
      split <;> simp
    · exact cursor.advance rfl rfl tiles (.inl (Nat.le_trans bounded reach)) (noExit_output output)

variable {sub : Option Subscriber}

theorem sound_sink {head : Nat} (sound : c.Sound head sub) {message : ServerMessage} {rest : List ServerMessage}
    (busy : c.busy = some d) (outbox : d.outbox = message :: rest) :
    ((c.sunk d.sink [message]).setBusy (some { d with outbox := rest })).Sound head sub := by
  have sent (b : Nat) : ((c.sunk d.sink [message]).setBusy (some { d with outbox := rest })).sentFor b =
      c.sentFor b ++ if d.sink.attach = b then [message] else [] := sentFor_sunk ..
  refine sound.frontTurn (front_busy busy) (front_busy (d := { d with outbox := rest }) rfl) rfl rfl rfl (fun b other => ?_)
    (fun _ => sound.table (by rw [busy]; rfl)) ?_ rfl id fun cursor => ?_
  · rw [sent,if_neg (Ne.symm other),List.append_nil]
  · intro d' same
    obtain rfl := Option.some.inj same
    exact sound.kept d busy
  · rw [outbox] at cursor
    rw [sent,if_pos rfl]
    exact cursor.sink

theorem sound_dispose {head : Nat} (sound : c.Sound head sub) {disposition : TransitionDisposition}
    (busy : c.busy = some d) (empty : d.outbox = []) (present : disposition ≠ .gone) :
    (disposeTurn c d disposition).Sound head sub := by
  cases disposition with
  | gone => exact absurd rfl present
  | stay =>
    show ((c.setBusy none).setSession (some (d.sink,d.session))).Sound _ _
    exact sound.frontTurn (front_busy busy) (front_table rfl rfl) rfl rfl rfl (fun _ _ => rfl) (by rintro ⟨⟩) (by rintro _ ⟨⟩) rfl id (empty ▸ id)
  | transfer =>
    have front : c.front d.sink.attach = some (d.session,d.outbox) := by rw [front_busy busy,if_pos rfl]
    obtain ⟨drain,held,subscribed,mine,deferred,serves,reach,cursor⟩ := sound.unbusy front
    have cleared : c.session = none := sound.table (by rw [busy]; rfl)
    rw [empty] at cursor
    let spawned : Drain := ⟨d.sink,d.session,none,false,[]⟩
    let c' := (c.setBusy none).setDrain d.sink.attach (some spawned)
    have idle : ∀ b, c'.front b = none := front_none rfl cleared
    have drains : c'.drains d.sink.attach = some spawned := Function.update_self ..
    show c'.Sound _ _
    refine sound.touch d.sink.attach (sound.bound front) ?_ rfl sound.closed (by rintro ⟨⟩) (by rintro _ ⟨⟩) ?_ ?_ ?_
    · intro b other
      have elsewhere : c'.front b = c.front b := by
        rw [idle,front_busy busy,if_neg (Ne.symm other)]
      have drains' : c'.drains b = c.drains b := Function.update_of_ne other ..
      simp only [Connection.view]
      rw [elsewhere,drains']
      rfl
    · intro d'' draining
      obtain rfl := Option.some.inj (drains.symm.trans draining)
      refine ⟨rfl,?_⟩
      intro held' present' other
      obtain rfl := Option.some.inj (subscribed.symm.trans present')
      exact absurd mine other
    · intro held' present' mine'
      exact ⟨held',present',mine',fun _ => id⟩
    · rw [view_mine subscribed mine,idle,drains]
      exact Life.draining deferred serves cursor (by rintro ⟨⟩)

theorem sound_dispatchTurn (ring : s.Sound) (sound : c.Sound s.headSeq (s.subscribers conn)) :
    (dispatchTurn config s conn c).Sound s.headSeq (s.subscribers conn) := by
  unfold dispatchTurn
  cases busy : c.busy with
  | none => exact sound
  | some d =>
    obtain ⟨settles,disposes⟩ := sound.kept d busy
    simp only
    cases outbox : d.outbox with
    | cons message rest => exact sound_sink sound busy outbox
    | nil =>
      simp only
      cases task : d.task with
      | start => exact sound_startTurn sound busy
      | drive guard => exact sound_driveTurn ring sound busy outbox
      | settle outcome =>
        rw [task] at settles
        exact sound_settleTurn sound busy (by rintro rfl; exact settles rfl)
      | dispose disposition =>
        rw [task] at disposes
        exact sound_dispose sound busy outbox (by rintro rfl; exact disposes rfl)

theorem sound_creditTurn (sound : c.Sound s.headSeq (s.subscribers conn)) (credit : TerminalReplayCredit)
    (idle : c.busy = none) : (creditTurn s conn c credit).Sound s.headSeq (s.subscribers conn) := by
  unfold creditTurn
  cases held : c.session with
  | none => exact sound
  | some entry =>
    obtain ⟨sink,session⟩ := entry
    simp only
    obtain ⟨accepted,granted⟩ | ⟨refused,-⟩ := validateCredit_session session credit
    · rw [if_pos accepted,granted]
      let armed := armStagedExitFromRegistry s conn (session.granted session.pageEnd)
      let d : Dispatch := ⟨sink,armed,enterDrive armed false,[]⟩
      show ((c.setSession none).setBusy (some d)).Sound _ _
      refine sound.frontTurn (front_table idle held) (front_busy (d := d) rfl) rfl rfl rfl (fun _ _ => rfl) (fun _ => rfl) ?_
        (armFromRegistry_arid s conn _) (fun reach => armFromRegistry_reach reach) fun cursor =>
          cursor.same (armFromRegistry_arid s conn _) (armFromRegistry_since s conn _) (armFromRegistry_pageEnd s conn _)
      intro d' same
      obtain rfl := Option.some.inj same
      exact enterDrive_kept armed false
    · rw [if_neg refused]
      exact sound

theorem sound_exitNotifyTurn (sound : c.Sound s.headSeq (s.subscribers conn)) (idle : c.busy = none) :
    (exitNotifyTurn s conn c).Sound s.headSeq (s.subscribers conn) := by
  unfold exitNotifyTurn
  cases held : c.session with
  | none =>
    have same : c.setSession none = c := by
      show ({ c with session := none } : Connection) = c
      rw [← held]
    rw [Option.map_none,same]
    exact sound
  | some entry =>
    obtain ⟨sink,session⟩ := entry
    show (c.setSession (some (sink,armStagedExitFromRegistry s conn session))).Sound _ _
    refine sound.frontTurn (front_table idle held) (front_table idle rfl) rfl rfl rfl (fun _ _ => rfl) ?_ ?_
      (armFromRegistry_arid s conn session) armFromRegistry_reach fun cursor =>
        cursor.same (armFromRegistry_arid s conn session) (armFromRegistry_since s conn session)
          (armFromRegistry_pageEnd s conn session)
    · intro busy
      cases (congrArg Option.isSome idle).symm.trans busy
    · intro d busy
      cases idle.symm.trans busy

end

variable {head : Nat}

/-- An attach whose subscriber and session are dropped has ended, or its drain
    is leaving. -/
theorem Life.dropped {view : AttachView} (life : Life head view) : Life head ⟨none,none,view.drain,view.sent⟩ := by
  have ended : view.drain = none → Life head ⟨none,none,view.drain,view.sent⟩ := by
    intro none_
    rw [none_]
    exact Life.ended life.tiles life.exitLast
  cases life with
  | ended | paced | live => exact ended rfl
  | leaving announces tiles noExit => exact Life.leaving announces tiles noExit
  | draining deferred serves cursor boundary =>
    obtain ⟨base,-,tiles⟩ := cursor.tiles
    exact Life.leaving ⟨_,cursor.announces⟩ ⟨base,_,tiles⟩ cursor.noExit

variable {sub : Option Subscriber} {c : Connection}

theorem Connection.Sound.dropped {c' : Connection} (sound : c.Sound head sub) (wire : c'.wire = c.wire)
    (drains : c'.drains = c.drains) (attaches : c'.attaches = c.attaches) (busy : c'.busy = none)
    (session : c'.session = none) : c'.Sound head none := by
  have sent : ∀ a, c'.sentFor a = c.sentFor a := fun a => by simp only [Connection.sentFor,wire]
  refine ⟨?_,(by rintro held ⟨⟩),fun _ => rfl,?_,?_,?_,(by rintro a d draining held ⟨⟩),?_⟩
  · intro a beyond
    rw [sent,drains]
    exact sound.unused a (attaches ▸ beyond)
  · rw [busy]
    rintro ⟨⟩
  · rw [busy]
    rintro d ⟨⟩
  · rw [drains]
    exact sound.owned
  · intro a
    have view : c'.view none a = ⟨none,none,(c.view sub a).drain,(c.view sub a).sent⟩ := by
      simp only [Connection.view,front_none busy session,sent,drains,Option.filter_none]
    rw [view]
    exact (sound.life a).dropped

theorem attached_sentFor (sound : c.Sound head sub) (sent : List ServerMessage) (started : Option Dispatch) (a : Nat) :
    (c.attached sent started).sentFor a = if a = c.attaches then sent else c.sentFor a := by
  have wire : (c.attached sent started).sentFor a = (c.sunk ⟨c.attaches⟩ sent).sentFor a := rfl
  rw [wire,sentFor_sunk]
  by_cases same : a = c.attaches
  · subst same
    rw [if_pos rfl,if_pos rfl,(sound.unused c.attaches (Nat.le_refl _)).1,List.nil_append]
  · rw [if_neg (Ne.symm same),if_neg same,List.append_nil]

theorem Connection.Sound.attached {sub' : Option Subscriber} (sound : c.Sound head sub) {sent : List ServerMessage}
    {started : Option Dispatch} (closed : c.closed = false)
    (numbered : ∀ held, sub' = some held → held.sink.attach = c.attaches)
    (start : ∀ d, started = some d → d.task = .start ∧ d.sink.attach = c.attaches)
    (fresh : ∀ a d, c.drains a = some d → ∀ held, sub' = some held → ¬ held.Serves d.session.attachRequestId)
    (mine : Life head ⟨sub',started.map fun d => (d.session,d.outbox),none,sent⟩) :
    (c.attached sent started).Sound head sub' := by
  have sentFor := attached_sentFor sound sent started
  refine ⟨?_,?_,?_,fun _ => rfl,?_,sound.owned,?_,?_⟩
  · intro a beyond
    have beyond : c.attaches + 1 ≤ a := beyond
    rw [sentFor,if_neg (by omega)]
    exact sound.unused a (by omega)
  · intro held present
    show held.sink.attach < c.attaches + 1
    rw [numbered held present]
    omega
  · intro shut
    rw [show c.closed = true from shut] at closed
    cases closed
  · intro d busy
    rw [(start d busy).1]
    simp
  · intro a d draining held present _
    exact fresh a d draining held present
  · intro a
    by_cases same : a = c.attaches
    · subst same
      have front : (c.attached sent started).front c.attaches = started.map fun d => (d.session,d.outbox) := by
        cases started with
        | none => exact front_none rfl rfl _
        | some d => rw [front_busy (d := d) rfl,if_pos (start d rfl).2,Option.map_some]
      have drain : (c.attached sent started).drains c.attaches = none := (sound.unused c.attaches (Nat.le_refl _)).2
      have current : (sub'.filter fun held => held.sink.attach == c.attaches) = sub' := by
        cases sub' with
        | none => rfl
        | some held => simp [numbered held rfl]
      have view : (c.attached sent started).view sub' c.attaches =
          ⟨sub',started.map fun d => (d.session,d.outbox),none,sent⟩ := by
        simp only [Connection.view,current,front,drain,sentFor,if_true]
      rw [view]
      exact mine
    · have front : (c.attached sent started).front a = none := by
        cases started with
        | none => exact front_none rfl rfl _
        | some d => rw [front_busy (d := d) rfl,(start d rfl).2,if_neg (Ne.symm same)]
      have other : ∀ held, sub' = some held → held.sink.attach ≠ a := by
        intro held present
        rw [numbered held present]
        exact Ne.symm same
      rw [view_other other,front,sentFor,if_neg same]
      exact (sound.life a).dropped

end Freshell.Paced
