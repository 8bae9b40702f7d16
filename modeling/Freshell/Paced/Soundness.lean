import Freshell.Paced.Drains

/-!
The fan-outs of output and exit, the attach, and with them every step of the
system: from a terminal that was just created, in any run in which no connection
names an attach request twice, every connection stays sound.
-/
namespace Freshell.Paced
open Freshell.Terminal Freshell.Library.Spans Freshell.Library.Runs
set_option linter.unusedSimpArgs false

section
variable {head : Nat} {sub : Option Subscriber} {c : Connection}

@[simp] theorem sunk_nil (sink : FrameSink) : c.sunk sink [] = c := by simp [Connection.sunk]

def fannedOut (c : Connection) (sub : Option Subscriber) (messages : Subscriber → List ServerMessage) : Connection :=
  match sub with
  | none => c
  | some held => c.sunk held.sink (messages held)

variable {messages : Subscriber → List ServerMessage}

theorem Life.output {view : AttachView} (life : Life head view)
    (silent : ∀ held, held.pacedDeferred = true → messages held = [])
    (tiles : ∀ held, held.pacedDeferred = false → Tiles head (spans (messages held)) (head + 1) ∧ NoExit (messages held)) :
    Life (head + 1) ⟨view.current,view.front,view.drain,view.sent ++ (view.current.map messages).getD []⟩ := by
  cases life with
  | ended tiles last => simpa using Life.ended tiles last
  | leaving announces tiles noExit => simpa using Life.leaving announces tiles noExit
  | paced deferred serves reach cursor =>
    rw [Option.map_some,silent _ deferred]
    simpa using Life.paced deferred serves (Nat.le_succ_of_le reach) cursor.grow
  | draining deferred serves cursor boundary =>
    rw [Option.map_some,silent _ deferred]
    rw [Option.getD_some,List.append_nil]
    refine Life.draining deferred serves cursor.grow fun handing => ?_
    obtain ⟨b,fixed,above,within⟩ := boundary handing
    exact ⟨b,fixed,above,Nat.le_succ_of_le within⟩
  | live direct noExit before =>
    rename_i held sent
    obtain ⟨base,before,announced⟩ := before
    obtain ⟨next,plain⟩ := tiles held direct
    rw [Option.map_some,Option.getD_some]
    refine Life.live direct (noExit.append plain) ⟨base,?_,?_⟩
    · rw [spans_append]
      exact tiles_concat before next
    · intro arid serves
      obtain ⟨since,low,announces⟩ := announced arid serves
      exact ⟨since,low,announces.append _⟩

theorem Connection.Sound.output (sound : c.Sound head sub)
    (silent : ∀ held, held.pacedDeferred = true → messages held = [])
    (tiles : ∀ held, held.pacedDeferred = false → Tiles head (spans (messages held)) (head + 1) ∧ NoExit (messages held)) :
    (fannedOut c sub messages).Sound (head + 1) sub := by
  have view : ∀ a, (fannedOut c sub messages).view sub a = ⟨(c.view sub a).current,(c.view sub a).front,
      (c.view sub a).drain,(c.view sub a).sent ++ ((c.view sub a).current.map messages).getD []⟩ := by
    intro a
    cases sub with
    | none => simp [fannedOut,Connection.view]
    | some held =>
      show Connection.view (c.sunk held.sink (messages held)) (some held) a = _
      by_cases mine : held.sink.attach = a
      · rw [view_mine rfl mine,view_mine rfl mine,sentFor_sunk,if_pos mine]
        rfl
      · have other : ∀ held', some held = some held' → held'.sink.attach ≠ a := by
          rintro _ ⟨⟩
          exact mine
        rw [view_other other,view_other other,sentFor_sunk,if_neg mine]
        rfl
  have frame : (fannedOut c sub messages).attaches = c.attaches ∧ (fannedOut c sub messages).drains = c.drains ∧
      (fannedOut c sub messages).busy = c.busy ∧ (fannedOut c sub messages).session = c.session ∧
      (fannedOut c sub messages).closed = c.closed := by
    cases sub <;> exact ⟨rfl,rfl,rfl,rfl,rfl⟩
  obtain ⟨attaches,drains,busy,session,closed⟩ := frame
  refine ⟨?_,?_,?_,?_,?_,?_,?_,?_⟩
  · intro a beyond
    rw [attaches] at beyond
    obtain ⟨sent,none_⟩ := sound.unused a beyond
    refine ⟨?_,by rw [drains]; exact none_⟩
    have gone : (c.view sub a).current = none := by
      apply view_current_none.mpr
      intro held present mine
      have := sound.numbered held present
      omega
    have same := congrArg AttachView.sent (view a)
    rw [gone] at same
    rw [Option.map_none,Option.getD_none,List.append_nil] at same
    exact same.trans sent
  · rw [attaches]
    exact sound.numbered
  · rw [closed]
    exact sound.closed
  · rw [busy,session]
    exact sound.table
  · rw [busy]
    exact sound.kept
  · rw [drains]
    exact sound.owned
  · rw [drains]
    exact sound.apart
  · intro a
    rw [view a]
    exact (sound.life a).output silent tiles

/-- The exit ends the attach of a subscriber that is not deferred, and is
    staged on one that is. -/
theorem Connection.Sound.exit {s : TerminalShared} {conn : ConnId} {exitCode : Int}
    (sound : c.Sound head (s.subscribers conn)) :
    (fannedOut c (s.subscribers conn) (exitFanOut s exitCode)).Sound head ((finishPtyExit s exitCode).subscribers conn) := by
  cases present : s.subscribers conn with
  | none =>
    rw [present] at sound
    have absent : (finishPtyExit s exitCode).subscribers conn = none := by
      unfold finishPtyExit
      cases status : s.status <;> simp [present]
    rw [absent]
    exact sound
  | some held =>
    cases status : s.status with
    | exited =>
      have same : finishPtyExit s exitCode = s := by simp [finishPtyExit,status]
      have quiet : exitFanOut s exitCode held = [] := by simp [exitFanOut,status]
      rw [same,fannedOut,quiet,sunk_nil]
      exact sound
    | running =>
      have bound := sound.numbered held present
      have becomes : (finishPtyExit s exitCode).subscribers conn =
          if held.pacedDeferred then some (held.staged exitCode) else none := by
        simp [finishPtyExit,status,present]
      have sent : exitFanOut s exitCode held = if held.pacedDeferred then [] else [exitMessage s exitCode] := by
        simp [exitFanOut,status]
      rw [becomes,fannedOut,sent]
      cases deferred : held.pacedDeferred with
      | true =>
        rw [if_pos rfl,if_pos rfl,sunk_nil]
        refine sound.touch held.sink.attach bound ?_ rfl ?_ sound.table sound.kept ?_ ?_ ?_
        · intro b other
          rw [view_other (by rintro _ ⟨⟩; exact Ne.symm other),view_other (by rw [present]; rintro _ ⟨⟩; exact Ne.symm other)]
        · intro closed
          rw [sound.closed closed] at present
          cases present
        · intro d draining
          refine ⟨sound.owned _ d draining,?_⟩
          rintro _ ⟨⟩ other
          exact absurd rfl other
        · rintro _ ⟨⟩ mine
          exact ⟨held,present,mine,fun _ => id⟩
        · have life := sound.life held.sink.attach
          rw [view_mine present rfl] at life
          have view : c.view (some (held.staged exitCode)) held.sink.attach = ⟨some (held.staged exitCode),
              c.front held.sink.attach,c.drains held.sink.attach,c.sentFor held.sink.attach⟩ := view_mine rfl rfl
          rw [view]
          revert life
          generalize c.front held.sink.attach = front
          generalize c.drains held.sink.attach = drain
          generalize c.sentFor held.sink.attach = sent
          intro life
          cases life with
          | paced deferred serves reach cursor => exact Life.paced deferred serves reach cursor
          | draining deferred serves cursor boundary => exact Life.draining deferred serves cursor boundary
          | live direct =>
            rw [deferred] at direct
            cases direct
      | false =>
        rw [if_neg (by simp),if_neg (by simp)]
        obtain ⟨front,drain,noExit,base,tiles,-⟩ := (sound.life held.sink.attach).of_live
          (view_current.mpr ⟨present,rfl⟩) deferred
        refine sound.touch held.sink.attach bound ?_ rfl (fun _ => rfl) sound.table sound.kept ?_ ?_ ?_
        · intro b other
          rw [view_other (by rintro _ ⟨⟩),view_other (by rw [present]; rintro _ ⟨⟩; exact Ne.symm other),sentFor_sunk,
            if_neg (Ne.symm other),List.append_nil]
          rfl
        · intro d draining
          rw [show (c.sunk held.sink _).drains held.sink.attach = none from drain] at draining
          cases draining
        · rintro _ ⟨⟩
        · rw [view_other (by rintro _ ⟨⟩),sentFor_sunk,if_pos rfl,sunk_front,show c.front held.sink.attach = none from front,
            show (c.sunk held.sink _).drains held.sink.attach = none from drain]
          refine Life.ended ⟨base,head,?_⟩ (noExit.exitLast_concat _)
          rw [spans_append,exitMessage,spans_exit,spans_nil,List.append_nil]
          exact tiles

end

variable (config : Config) (terminalId : String) {sub : Subscriber}

theorem liveMessages_silent (retained : RetainedFrame) (deferred : sub.pacedDeferred = true) :
    liveMessages config terminalId sub retained = [] := by
  rw [liveMessages,if_pos deferred]

theorem liveMessages_spec {retained : RetainedFrame} {head : Nat} (direct : sub.pacedDeferred = false)
    (start : retained.output.seqStart = head + 1) (single : retained.output.seqEnd = head + 1) :
    Tiles head (spans (liveMessages config terminalId sub retained)) (head + 1) ∧
      NoExit (liveMessages config terminalId sub retained) := by
  have frame : Tiles head ([retained].map RetainedFrame.span) (head + 1) :=
    tiles_singleton start single (by omega)
  rw [liveMessages,if_neg (by simp [direct])]
  split
  · exact ⟨tiles_batchMessages config.jsonLen (terminalStreamBatchMaxBytes_ne config) frame,
      noExit_output (batchMessages_output _ _ _)⟩
  · refine ⟨frame,?_⟩
    intro message member
    obtain rfl := List.mem_singleton.mp member
    rfl

variable (s : TerminalShared) (req : AttachRequest)

theorem noExit_modesSync : NoExit (modesSync s req) := by
  intro message member
  unfold modesSync at member
  split at member
  · split at member
    · cases member
    · split at member
      · cases member
      · obtain rfl := List.mem_singleton.mp member
        rfl
  · cases member

theorem noExit_retentionLostGap : NoExit (retentionLostGap s req) := by
  intro message member
  unfold retentionLostGap at member
  split at member
  · obtain rfl := List.mem_singleton.mp member
    rfl
  · cases member

variable {message : ServerMessage}

theorem noExit_cons {rest : List ServerMessage} (plain : message.isExit = false) (noExit : NoExit rest) :
    NoExit (message :: rest) := by
  intro other member
  obtain rfl | member := List.mem_cons.mp member
  · exact plain
  · exact noExit other member

theorem cursor_attach (config : Config) {s : TerminalShared} (ring : s.Sound) (sink : FrameSink) (conn : ConnId)
    (req : AttachRequest) {arid : String} (named : req.attachRequestId = some arid) :
    let made := pacedAttachToShared config s conn sink req arid
    Cursor s.headSeq made.2.1 made.2.2.firstPage (.fromDesc made.2.2.session) := by
  intro made
  obtain ⟨page,output,above,at_⟩ := pacedFirstPage_spec config (subscriberOf sink req true) req ring
  have lost := tiles_retentionLostGap s req
  refine ⟨⟨pacedReady s req,_,rfl,named,rfl⟩,⟨effectiveRequested req,baseline_ge s req,?_⟩,?_,?_⟩
  · show Tiles _ (spans ((.terminalAttachReady (pacedReady s req) :: (modesSync s req ++ retentionLostGap s req)) ++ _)) _
    rw [spans_append,spans_ready,spans_append,spans_modesSync,List.nil_append]
    exact tiles_concat lost page
  · by_cases room : baseline s req < s.headSeq
    · exact .inl (above room).2
    · obtain ⟨ends,empty⟩ := at_ (Nat.le_of_not_lt room)
      by_cases declared : retentionLost s req
      · refine .inl ?_
        have oldest := ring.oldest_le
        have base : baseline s req = s.oldestRetainedSeq - 1 := if_pos declared
        show (((pacedFirstPage config s (subscriberOf sink req true) req).getLast?.bind pageLastSeq).getD
          (max (baseline s req) s.headSeq)) ≤ s.headSeq
        omega
      · refine .inr ?_
        show spans ((.terminalAttachReady (pacedReady s req) :: (modesSync s req ++ retentionLostGap s req)) ++
          pacedFirstPage config s (subscriberOf sink req true) req) = []
        rw [empty,List.append_nil,spans_ready,spans_append,spans_modesSync,retentionLostGap,if_neg declared]
        rfl
  · exact (noExit_cons rfl ((noExit_modesSync s req).append (noExit_retentionLostGap s req))).append (noExit_output output)

/-- An inline attach to a running terminal is live, and one to an exited
    terminal ends with the exit. -/
theorem inlineAttach_life (config : Config) {s : TerminalShared} (ring : s.Sound) (sink : FrameSink) (conn : ConnId)
    {req : AttachRequest} (inline : pacedPath s req = none) :
    let made := inlineAttachToShared config s conn sink req
    Life s.headSeq ⟨made.1.subscribers conn,none,none,made.2⟩ := by
  intro made
  obtain ⟨base,tiles⟩ := tiles_inlineReplay ring req
  let sub := subscriberOf sink req false
  let sent : List ServerMessage := .terminalAttachReady (inlineReady s req) ::
    (modesSync s req ++ pageMessages config s.terminalId sub .replay (inlineReplay s req))
  have whole : Tiles base (spans sent) s.headSeq := by
    show Tiles base (spans (_ :: (_ ++ _))) _
    rw [spans_ready,spans_append,spans_modesSync,List.nil_append]
    exact tiles_pageMessages config s.terminalId sub .replay tiles
  have plain : NoExit sent := noExit_cons rfl ((noExit_modesSync s req).append
    (noExit_output (pageMessages_output config s.terminalId sub .replay _)))
  cases status : s.status with
  | running =>
    have same : made = (s.setSubscriber conn (some sub),sent) := by
      show inlineAttachToShared config s conn sink req = _
      simp only [inlineAttachToShared,status]
      rfl
    rw [same,setSubscriber_same]
    refine Life.live rfl plain ⟨base,whole,?_⟩
    rintro arid ⟨paced,named⟩
    have taken : pacedPath s req = some arid := by
      rw [pacedPath,if_pos ⟨paced,status⟩]
      exact named
    rw [inline] at taken
    cases taken
  | exited =>
    have same : made = (s.setSubscriber conn none,sent ++ [exitMessage s (s.exitCode.getD 0)]) := by
      show inlineAttachToShared config s conn sink req = _
      simp only [inlineAttachToShared,status]
      rfl
    rw [same,setSubscriber_same]
    refine Life.ended ⟨base,s.headSeq,?_⟩ (plain.exitLast_concat _)
    rw [spans_append,exitMessage,spans_exit,spans_nil,List.append_nil]
    exact whole

structure World.Sound (w : World) : Prop where
  ring : w.shared.Sound
  next : w.nextSeq = w.shared.headSeq + 1
  staged : ∀ conn sub, w.shared.subscribers conn = some sub → (sub.pacedExitPending.isSome ↔ w.shared.status = .exited)
  connections : ∀ conn, (w.connections conn).Sound w.shared.headSeq (w.shared.subscribers conn)

/-- A client makes up a new id for each of its attaches: none that an
    `attach.ready` of the connection has carried before. -/
def FreshRequest (w : World) : Label → Prop
  | .attach conn req => req.attachRequestId.isSome →
      ∀ sent ∈ (w.connections conn).wire, sent.message.readyRequest ≠ req.attachRequestId
  | _ => True

instance decidableFreshRequest (w : World) : (label : Label) → Decidable (FreshRequest w label)
  | .attach conn req => inferInstanceAs (Decidable (req.attachRequestId.isSome →
      ∀ sent ∈ (w.connections conn).wire, sent.message.readyRequest ≠ req.attachRequestId))
  | .output .. | .exit _ | .credit .. | .exitNotify _ | .detach _ | .disconnect _ | .dispatch _ | .drain .. | .cancelDrain .. =>
    .isTrue trivial

theorem sound_start (streamId : String) (maxReplayChars : Nat) :
    (World.start terminalId streamId maxReplayChars).Sound := by
  refine ⟨⟨by rintro f ⟨⟩,rfl,Nat.one_pos,fun output => absurd rfl output⟩,rfl,by rintro conn sub ⟨⟩,?_⟩
  intro conn
  refine ⟨fun _ _ => ⟨rfl,rfl⟩,by rintro held ⟨⟩,by rintro ⟨⟩,fun _ => rfl,by rintro d ⟨⟩,by rintro a d ⟨⟩,by rintro a d ⟨⟩,?_⟩
  intro a
  exact Life.ended ⟨0,0,rfl⟩ noExit_nil.exitLast

variable {conn : ConnId} {c : Connection}

theorem World.Sound.local {w : World} (sound : w.Sound) {sub : Option Subscriber}
    (staged : ∀ held, sub = some held → (held.pacedExitPending.isSome ↔ w.shared.status = .exited))
    (mine : c.Sound w.shared.headSeq sub) :
    World.Sound { w.setConnection conn c with shared := w.shared.setSubscriber conn sub } := by
  refine ⟨setSubscriber_sound sound.ring conn sub,sound.next,?_,?_⟩
  · intro other held present
    by_cases same : other = conn
    · subst same
      exact staged held ((setSubscriber_same ..).symm.trans present)
    · exact sound.staged other held ((setSubscriber_other _ sub same).symm.trans present)
  · intro other
    show (Function.update w.connections conn c other).Sound _ ((w.shared.setSubscriber conn sub).subscribers other)
    by_cases same : other = conn
    · subst same
      rw [Function.update_self,setSubscriber_same]
      exact mine
    · rw [Function.update_of_ne same,setSubscriber_other _ sub same]
      exact sound.connections other

theorem World.Sound.setConnection {w : World} (sound : w.Sound)
    (mine : c.Sound w.shared.headSeq (w.shared.subscribers conn)) : (w.setConnection conn c).Sound := by
  have stepped : World.Sound { w.setConnection conn c with
      shared := w.shared.setSubscriber conn (w.shared.subscribers conn) } := sound.local (sound.staged conn) mine
  rw [setSubscriber_self] at stepped
  exact stepped

theorem mem_wire_of_sentFor {a : Nat} (member : message ∈ c.sentFor a) : ∃ sent ∈ c.wire, sent.message = message := by
  obtain ⟨sent,inside,rfl⟩ := List.mem_map.mp member
  exact ⟨sent,(List.mem_filter.mp inside).1,rfl⟩

theorem Life.announces {head : Nat} {view : AttachView} (life : Life head view) {drain : Drain}
    (draining : view.drain = some drain) : ∃ since, Announces view.sent drain.session.attachRequestId since := by
  cases life with
  | leaving announces =>
    obtain rfl := Option.some.inj draining
    exact announces
  | draining _ _ cursor =>
    obtain rfl := Option.some.inj draining
    exact ⟨_,cursor.announces⟩
  | ended | paced | live => cases draining

section
variable {config : Config} {w : World} {conn : ConnId}

theorem idle_free {c : Connection} (idle : c.idle = true) : c.closed = false ∧ c.busy = none := by
  simpa [Connection.idle] using idle

variable {req : AttachRequest}

theorem pacedPath_some {s : TerminalShared} {arid : String} (path : pacedPath s req = some arid) :
    req.pacedTerminalReplayV1 = true ∧ s.status = .running ∧ req.attachRequestId = some arid := by
  unfold pacedPath at path
  split at path
  · rename_i paced
    exact ⟨paced.1,paced.2,path⟩
  · cases path

variable {d : Drain}

/-- The wire has named the request of every drain that is still there, so a
    fresh request is not a drain's. -/
theorem fresh_request (sound : w.Sound) (fresh : FreshRequest w (.attach conn req)) {a : Nat}
    (draining : (w.connections conn).drains a = some d) (sink : FrameSink) (deferred : Bool) :
    ¬ (subscriberOf sink req deferred).Serves d.session.attachRequestId := by
  intro claims
  obtain ⟨since,ready,rest,sent,named,-⟩ := ((sound.connections conn).life a).announces
    (show (Connection.view _ _ a).drain = some d from draining)
  have member : ServerMessage.terminalAttachReady ready ∈ (w.connections conn).sentFor a := by
    rw [show (w.connections conn).sentFor a = _ from sent]
    exact List.mem_cons_self
  obtain ⟨message,inside,is⟩ := mem_wire_of_sentFor member
  have requested : req.attachRequestId = some d.session.attachRequestId := claims.2
  refine fresh (by rw [requested]; rfl) message inside ?_
  rw [is,requested]
  exact named

theorem sound_attach (sound : w.Sound) (idle : (w.connections conn).idle = true)
    (fresh : FreshRequest w (.attach conn req)) : (attach config w conn req).Sound := by
  have open_ := (idle_free idle).1
  have mine := sound.connections conn
  have unclaimed := fun a d => fresh_request (a := a) (d := d) sound fresh
  unfold attach attachToShared
  cases path : pacedPath w.shared req with
  | some arid =>
    obtain ⟨paced,running,named⟩ := pacedPath_some path
    refine sound.local ?_ (mine.attached open_ ?_ ?_ ?_ ?_)
    · rintro held ⟨⟩
      rw [running]
      simp [subscriberOf]
    · rintro held ⟨⟩
      rfl
    · rintro d ⟨⟩
      exact ⟨rfl,rfl⟩
    · rintro a d draining held ⟨⟩
      exact unclaimed a d draining _ true
    · exact Life.paced rfl ⟨paced,named⟩ (Nat.le_refl _) (cursor_attach config sound.ring _ conn req named)
  | none =>
    have life := inlineAttach_life config sound.ring ⟨(w.connections conn).attaches⟩ conn path
    obtain ⟨sub',shared,held'⟩ : ∃ sub', (inlineAttachToShared config w.shared conn ⟨(w.connections conn).attaches⟩ req).1 =
        w.shared.setSubscriber conn sub' ∧ ∀ held, sub' = some held →
          held = subscriberOf ⟨(w.connections conn).attaches⟩ req false ∧ w.shared.status = .running := by
      unfold inlineAttachToShared
      cases status : w.shared.status with
      | running => exact ⟨_,rfl,by rintro held ⟨⟩; exact ⟨rfl,rfl⟩⟩
      | exited => exact ⟨none,rfl,by rintro held ⟨⟩⟩
    simp only at life ⊢
    rw [shared] at life ⊢
    rw [setSubscriber_same] at life
    refine sound.local ?_ (mine.attached open_ ?_ ?_ ?_ life)
    · intro held present
      obtain ⟨rfl,running⟩ := held' held present
      rw [running]
      simp [subscriberOf]
    · intro held present
      obtain ⟨rfl,-⟩ := held' held present
      rfl
    · rintro d ⟨⟩
    · intro a d draining held present
      obtain ⟨rfl,-⟩ := held' held present
      exact unclaimed a d draining _ false

/-- The drain of the current subscriber's attach: its hold, the sink it sends
    with and where it stands. -/
theorem drain_own (config : Config) (sound : w.Sound) {held : Subscriber} (target : Nat)
    (draining : (w.connections conn).drains held.sink.attach = some d)
    (present : w.shared.subscribers conn = some held) :
    TailOutcome w.shared conn held (fixedBoundary d held) d.session.pageEnd (drainHold config w.shared conn d target) ∧
      d.sink = held.sink ∧ held.Serves d.session.attachRequestId ∧
      Cursor w.shared.headSeq ((w.connections conn).sentFor held.sink.attach) d.outbox d.session := by
  have mine := sound.connections conn
  obtain ⟨-,deferred,serves,cursor,boundary⟩ := (mine.life held.sink.attach).of_drain
    (show (Connection.view _ (w.shared.subscribers conn) _).drain = some d from draining) (view_current.mpr ⟨present,rfl⟩)
  refine ⟨drainHold_spec sound.ring present deferred serves boundary,?_,serves,cursor⟩
  have number := mine.owned _ d draining
  cases same : held.sink
  cases same' : d.sink
  rw [same,same'] at number
  exact congrArg FrameSink.mk number

theorem sound_drain (sound : w.Sound) {a : Nat} (draining : (w.connections conn).drains a = some d) :
    (drainTurn config w conn a d).Sound := by
  have mine := sound.connections conn
  unfold drainTurn
  cases outbox : d.outbox with
  | cons message rest => exact sound.setConnection (sound_drainSink mine draining outbox)
  | nil =>
    simp only
    cases captured : d.drainTarget with
    | none => exact sound.setConnection (sound_drainCapture mine draining)
    | some target =>
      simp only
      by_cases own : ∃ held, w.shared.subscribers conn = some held ∧ held.sink.attach = a
      · obtain ⟨held,present,rfl⟩ := own
        obtain ⟨spec,sink,-⟩ := drain_own config sound target draining present
        have stepped := sound_drainOwn sound.ring mine draining outbox present rfl spec
        obtain ⟨sub',shared,pending⟩ := drainHold_keeps config w.shared conn d target
        rw [sink] at stepped
        rw [present,delivered]
        rw [shared] at stepped ⊢
        rw [setSubscriber_same] at stepped
        refine sound.local ?_ stepped
        intro after there
        obtain ⟨before,present,same⟩ := pending after there
        rw [same]
        exact sound.staged conn before present
      · have other : ∀ held, w.shared.subscribers conn = some held → held.sink.attach ≠ a :=
          fun held present same => own ⟨held,present,same⟩
        obtain ⟨refused,stepped⟩ := sound_drainOther config target mine draining outbox other
        rw [refused]
        have silent : delivered (w.connections conn) (w.shared.subscribers conn) [] = w.connections conn := by
          cases w.shared.subscribers conn <;> simp [delivered]
        rw [silent]
        exact sound.setConnection stepped

theorem sound_output (sound : w.Sound) (data : String) (scan : Scan) : (output config w data scan).Sound := by
  unfold output
  cases status : w.shared.status with
  | exited => exact sound
  | running =>
    have start : (readerFrame w data scan).output.seqStart = w.shared.headSeq + 1 := sound.next
    have single : (readerFrame w data scan).output.seqEnd = w.shared.headSeq + 1 := sound.next
    have head : (ingest w.shared (readerFrame w data scan) scan.modes).headSeq = w.shared.headSeq + 1 := by
      rw [ingest_headSeq,single]
      omega
    refine ⟨(sound_ingest scan.modes sound.ring start single).1,?_,?_,?_⟩
    · rw [head,sound.next]
    · intro conn sub present
      rw [sound.staged conn sub present,status]
      exact Iff.of_eq (congrArg (· = TerminalRunStatus.exited) status.symm)
    · intro conn
      rw [head]
      exact (sound.connections conn).output (fun held => liveMessages_silent config w.shared.terminalId _)
        fun held direct => liveMessages_spec config w.shared.terminalId direct start single

theorem sound_exit (sound : w.Sound) (exitCode : Int) : (exit w exitCode).Sound := by
  have ring : (finishPtyExit w.shared exitCode).Sound ∧
      (finishPtyExit w.shared exitCode).headSeq = w.shared.headSeq := by
    unfold finishPtyExit
    cases w.shared.status
    · exact ⟨sound.ring.congr rfl rfl,rfl⟩
    · exact ⟨sound.ring,rfl⟩
  refine ⟨ring.1,?_,?_,?_⟩
  · rw [show (exit w exitCode).shared = finishPtyExit w.shared exitCode from rfl,ring.2]
    exact sound.next
  · intro conn sub present
    show _ ↔ (finishPtyExit w.shared exitCode).status = .exited
    have present : (finishPtyExit w.shared exitCode).subscribers conn = some sub := present
    unfold finishPtyExit at present ⊢
    cases status : w.shared.status with
    | exited =>
      rw [status] at present
      exact (sound.staged conn sub present).trans (by rw [status])
    | running =>
      rw [status] at present
      obtain ⟨held,-,staged⟩ := Option.bind_eq_some_iff.mp present
      split at staged
      · obtain rfl := Option.some.inj staged
        exact ⟨fun _ => rfl,fun _ => rfl⟩
      · cases staged
  · intro conn
    show Connection.Sound (finishPtyExit w.shared exitCode).headSeq _ _
    rw [ring.2]
    exact (sound.connections conn).exit

theorem sound_step (sound : w.Sound) (label : Label) (fresh : FreshRequest w label) : (step config w label).Sound := by
  cases label with
  | output data scan => exact sound_output sound data scan
  | exit exitCode => exact sound_exit sound exitCode
  | attach conn req =>
    simp only [step]
    split
    · rename_i idle
      exact sound_attach sound idle fresh
    · exact sound
  | credit conn credit =>
    simp only [step]
    split
    · rename_i idle
      exact sound.setConnection (sound_creditTurn (sound.connections conn) credit (idle_free idle).2)
    · exact sound
  | exitNotify conn =>
    simp only [step]
    split
    · rename_i idle
      exact sound.setConnection (sound_exitNotifyTurn (sound.connections conn) (idle_free idle).2)
    · exact sound
  | detach conn =>
    simp only [step]
    split
    · rename_i idle
      refine sound.local (by rintro held ⟨⟩) ?_
      exact (sound.connections conn).dropped rfl rfl rfl (idle_free idle).2 rfl
    · exact sound
  | disconnect conn =>
    simp only [step]
    split
    · rename_i idle
      refine sound.local (by rintro held ⟨⟩) ?_
      exact (sound.connections conn).dropped rfl rfl rfl (idle_free idle).2 rfl
    · exact sound
  | dispatch conn => exact sound.setConnection (sound_dispatchTurn sound.ring (sound.connections conn))
  | drain conn a =>
    simp only [step]
    split
    · exact sound
    · rename_i d draining
      exact sound_drain sound draining
  | cancelDrain conn a =>
    simp only [step]
    split
    · exact sound
    · rename_i d draining
      split
      · rename_i cancelled
        refine sound.setConnection (sound_drainEnd (sound.connections conn) draining cancelled.2 ?_)
        intro held present
        rw [(sound.connections conn).closed cancelled.1] at present
        cases present
      · exact sound

end

theorem sound_run {config : Config} {terminalId streamId : String} {maxReplayChars : Nat} {labels : List Label}
    (fresh : Along (step config) FreshRequest (World.start terminalId streamId maxReplayChars) labels) :
    (World.after config terminalId streamId maxReplayChars labels).Sound := by
  have kept : ∀ w label, World.Sound w → FreshRequest w label → (step config w label).Sound :=
    fun w label sound fresh => sound_step sound label fresh
  exact invariant_run kept (sound_start terminalId streamId maxReplayChars) fresh

end Freshell.Paced
