import Freshell.Paced.Delivery

/-!
The drains and the fan-outs. A drain's hold is refused unless the subscriber is
the one of its attach; the fan-out of a frame extends what a live subscriber was
sent by that frame, and the fan-out of an exit ends it.
-/
namespace Freshell.Paced
open Freshell.Terminal Freshell.Library.Spans
set_option linter.unusedSimpArgs false

section
variable {config : Config} {s : TerminalShared} {conn : ConnId} {c : Connection} {a : Nat} {d : Drain}

/-- The boundary that a drain's hold is held to. -/
def fixedBoundary (d : Drain) (sub : Subscriber) : Option Nat := if d.handingOff then sub.pacedHandoffBoundary else none

variable {target : Nat}

theorem drainHold_spec {sub : Subscriber} (ring : s.Sound) (present : s.subscribers conn = some sub)
    (deferred : sub.pacedDeferred = true) (serves : sub.Serves d.session.attachRequestId)
    (boundary : d.handingOff = true →
      ∃ boundary, sub.pacedHandoffBoundary = some boundary ∧ d.session.pageEnd ≤ boundary ∧ boundary ≤ s.headSeq) :
    TailOutcome s conn sub (fixedBoundary d sub) d.session.pageEnd (drainHold config s conn d target) := by
  unfold drainHold fixedBoundary
  split
  · rename_i handing
    obtain ⟨b,fixed,above,within⟩ := boundary handing
    rw [fixed]
    exact handoffPacedTail_spec ring present serves deferred fixed above within
  · exact completePacedTail_spec ring present serves

theorem drainHold_keeps (config : Config) (s : TerminalShared) (conn : ConnId) (d : Drain) (target : Nat) :
    (drainHold config s conn d target).Keeps s conn := by
  unfold drainHold
  split
  · exact handoffPacedTail_keeps ..
  · exact completePacedTail_keeps ..

theorem drainHold_refused (other : ∀ sub, s.subscribers conn = some sub → ¬ sub.Serves d.session.attachRequestId) :
    drainHold config s conn d target = ⟨s,[],.gone⟩ := by
  unfold drainHold
  split
  · exact handoffPacedTail_refused other
  · exact completePacedTail_refused other

variable (drain : Option Drain)

@[simp] theorem setDrain_sentFor (b : Nat) : (c.setDrain a drain).sentFor b = c.sentFor b := rfl

@[simp] theorem setDrain_same : (c.setDrain a drain).drains a = drain := by
  simp [Connection.setDrain]

theorem setDrain_other {b : Nat} (other : b ≠ a) : (c.setDrain a drain).drains b = c.drains b := by
  simp [Connection.setDrain,other]

@[simp] theorem setDrain_front (b : Nat) : (c.setDrain a drain).front b = c.front b := rfl

@[simp] theorem sunk_front (sink : FrameSink) (messages : List ServerMessage) (b : Nat) :
    (c.sunk sink messages).front b = c.front b := rfl

variable {head : Nat} {sub : Option Subscriber}

theorem Connection.Sound.drainTurn {sub' : Option Subscriber} {more : List ServerMessage} {next : Option Drain}
    (sound : c.Sound head sub) (draining : c.drains a = some d)
    (others : ∀ b, b ≠ a → (sub'.filter fun sub => sub.sink.attach == b) = sub.filter fun sub => sub.sink.attach == b)
    (named : ∀ d', next = some d' → d'.sink = d.sink ∧ d'.session.attachRequestId = d.session.attachRequestId)
    (current : ∀ held, sub' = some held → held.sink.attach = a →
      ∃ before, sub = some before ∧ before.sink.attach = a ∧ ∀ arid, held.Serves arid → before.Serves arid)
    (mine : Life head ⟨sub'.filter fun sub => sub.sink.attach == a,c.front a,next,c.sentFor a ++ more⟩) :
    ((c.sunk d.sink more).setDrain a next).Sound head sub' := by
  have sink : d.sink.attach = a := sound.owned a d draining
  have bound : a < c.attaches := by
    apply Nat.lt_of_not_le
    intro beyond
    rw [(sound.unused a beyond).2] at draining
    cases draining
  refine sound.touch a bound ?_ rfl ?_ sound.table sound.kept ?_ current ?_
  · intro b other
    simp only [Connection.view,setDrain_sentFor,setDrain_front,sunk_front,setDrain_other next other,sentFor_sunk,sink]
    rw [if_neg (Ne.symm other),List.append_nil,others b other]
    rfl
  · intro closed
    cases sub' with
    | none => rfl
    | some held =>
      by_cases ours : held.sink.attach = a
      · obtain ⟨before,present,-⟩ := current held rfl ours
        rw [sound.closed closed] at present
        cases present
      · have same := others _ ours
        rw [sound.closed closed,Option.filter_none,Option.filter_eq_none_iff] at same
        exact absurd (same held rfl) (by simp)
  · intro d' became
    rw [setDrain_same] at became
    obtain ⟨sink',named⟩ := named d' became
    exact ⟨by rw [sink',sink],fun _ _ _ => ⟨d,draining,named⟩⟩
  · have view : ((c.sunk d.sink more).setDrain a next).view sub' a =
        ⟨sub'.filter fun sub => sub.sink.attach == a,c.front a,next,c.sentFor a ++ more⟩ := by
      simp only [Connection.view,setDrain_sentFor,setDrain_front,sunk_front,setDrain_same,sentFor_sunk,sink,if_true]
    rw [view]
    exact mine

theorem filter_mine {sub : Subscriber} (mine : sub.sink.attach = a) :
    ((some sub).filter fun sub => sub.sink.attach == a) = some sub := by simp [mine]

theorem filter_all (mine : ∀ held, sub = some held → held.sink.attach = a) :
    (sub.filter fun sub => sub.sink.attach == a) = sub := by
  cases sub with
  | none => rfl
  | some held => exact filter_mine (mine held rfl)

theorem filter_other (other : ∀ held, sub = some held → held.sink.attach ≠ a) :
    (sub.filter fun sub => sub.sink.attach == a) = none := by
  rw [Option.filter_eq_none_iff]
  intro held present
  simpa using other held present

/-- A drain that sinks what it built, captures its target or is refused leaves
    the subscriber alone. -/
theorem sound_drainSink {message : ServerMessage} {rest : List ServerMessage} (sound : c.Sound head sub)
    (draining : c.drains a = some d) (outbox : d.outbox = message :: rest) :
    ((c.sunk d.sink [message]).setDrain a (some { d with outbox := rest })).Sound head sub := by
  refine sound.drainTurn draining (fun _ _ => rfl) ?_ (fun held present mine => ⟨held,present,mine,fun _ => id⟩) ?_
  · intro d' same
    obtain rfl := Option.some.inj same
    exact ⟨rfl,rfl⟩
  · have life := sound.life a
    have drain : (c.view sub a).drain = some d := draining
    show Life head ⟨(c.view sub a).current,(c.view sub a).front,_,(c.view sub a).sent ++ [message]⟩
    cases current : (c.view sub a).current with
    | none =>
      obtain ⟨front,⟨since,announces⟩,tiles,noExit⟩ := life.of_leaving drain current
      rw [front]
      rw [outbox] at tiles noExit
      exact Life.leaving ⟨since,announces.append [message]⟩ (by simpa using tiles) (by simpa using noExit)
    | some held =>
      obtain ⟨front,deferred,serves,cursor,boundary⟩ := life.of_drain drain current
      rw [front]
      rw [outbox] at cursor
      exact Life.draining deferred serves cursor.sink boundary

theorem sound_drainCapture (sound : c.Sound head sub) (draining : c.drains a = some d) :
    (c.setDrain a (some (d.captured target))).Sound head sub := by
  have same : c.setDrain a (some (d.captured target)) =
      (c.sunk d.sink []).setDrain a (some (d.captured target)) := by
    simp [Connection.sunk]
  rw [same]
  refine sound.drainTurn draining (fun _ _ => rfl) ?_ (fun held present mine => ⟨held,present,mine,fun _ => id⟩) ?_
  · intro d' same
    obtain rfl := Option.some.inj same
    exact ⟨rfl,rfl⟩
  · have life := sound.life a
    have drain : (c.view sub a).drain = some d := draining
    rw [List.append_nil]
    show Life head ⟨(c.view sub a).current,(c.view sub a).front,_,(c.view sub a).sent⟩
    cases current : (c.view sub a).current with
    | none =>
      obtain ⟨front,announces,tiles,noExit⟩ := life.of_leaving drain current
      rw [front]
      exact Life.leaving announces tiles noExit
    | some held =>
      obtain ⟨front,deferred,serves,cursor,boundary⟩ := life.of_drain drain current
      rw [front]
      exact Life.draining deferred serves cursor boundary

theorem sound_drainEnd (sound : c.Sound head sub) (draining : c.drains a = some d) (empty : d.outbox = [])
    (gone : ∀ held, sub = some held → held.sink.attach ≠ a) : (c.setDrain a none).Sound head sub := by
  have same : c.setDrain a none = (c.sunk d.sink []).setDrain a none := by simp [Connection.sunk]
  rw [same]
  refine sound.drainTurn draining (fun _ _ => rfl) (by rintro d' ⟨⟩)
    (fun held present mine => ⟨held,present,mine,fun _ => id⟩) ?_
  have life := sound.life a
  obtain ⟨front,-,tiles,noExit⟩ := life.of_leaving (show (c.view sub a).drain = some d from draining)
    (view_current_none.mpr gone)
  rw [empty,List.append_nil] at tiles noExit
  rw [filter_other gone,show c.front a = none from front,List.append_nil]
  exact Life.ended tiles noExit.exitLast

theorem Cursor.completed {sent more : List ServerMessage} {session : PacedSession}
    (cursor : Cursor head sent [] session) (tiles : Tiles session.pageEnd (spans more) (max session.pageEnd head)) :
    ∃ base, base ≤ session.effectiveSince ∧ Tiles base (spans (sent ++ more)) head := by
  obtain ⟨base,low,before⟩ := cursor.tiles
  have reached := cursor.reached
  rw [List.append_nil] at before reached
  rw [spans_append]
  by_cases within : session.pageEnd ≤ head
  · rw [Nat.max_eq_right within] at tiles
    exact ⟨base,low,tiles_concat before tiles⟩
  · obtain above | empty := reached
    · exact absurd above within
    · rw [empty] at before
      have start : session.pageEnd = base := before
      rw [Nat.max_eq_left (by omega)] at tiles
      rw [empty,tiles_nil_of_le tiles (Nat.le_refl _)]
      exact ⟨head,by omega,rfl⟩

theorem sound_drainOwn {sub : Subscriber} {hold : TailHold} (ring : s.Sound)
    (sound : c.Sound s.headSeq (s.subscribers conn)) (draining : c.drains a = some d) (empty : d.outbox = [])
    (present : s.subscribers conn = some sub) (mine : sub.sink.attach = a)
    (spec : TailOutcome s conn sub (fixedBoundary d sub) d.session.pageEnd hold) :
    ((c.sunk d.sink hold.sent).setDrain a (drainNext d hold.verdict)).Sound s.headSeq (hold.shared.subscribers conn) := by
  obtain ⟨front,deferred,serves,cursor,boundary⟩ := (sound.life a).of_drain
    (show (c.view (s.subscribers conn) a).drain = some d from draining) (view_current.mpr ⟨present,mine⟩)
  have idle : c.front a = none := front
  rw [empty] at cursor
  -- the subscriber that the hold leaves is the same attach's, or none
  have turn : ∀ (sub' : Option Subscriber) (more : List ServerMessage) (next : Option Drain),
      (∀ held, sub' = some held → held.sink = sub.sink ∧ ∀ arid, held.Serves arid → sub.Serves arid) →
      (∀ d', next = some d' → d'.sink = d.sink ∧ d'.session.attachRequestId = d.session.attachRequestId) →
      Life s.headSeq ⟨sub',none,next,c.sentFor a ++ more⟩ →
      ((c.sunk d.sink more).setDrain a next).Sound s.headSeq sub' := by
    intro sub' more next same named life
    have ours : ∀ held, sub' = some held → held.sink.attach = a := by
      intro held there
      rw [(same held there).1,mine]
    refine sound.drainTurn draining ?_ named ?_ ?_
    · intro b other
      rw [present,filter_other,filter_other]
      · rintro held ⟨⟩
        rw [mine]
        exact Ne.symm other
      · intro held there
        rw [ours held there]
        exact Ne.symm other
    · intro held there _
      exact ⟨sub,present,mine,(same held there).2⟩
    · rw [idle,filter_all ours]
      exact life
  cases spec with
  | advanced sent endSeq tiles progress within bounded output =>
    show Connection.Sound _ (s.subscribers conn) _
    rw [present]
    have moved : Cursor s.headSeq (c.sentFor a) sent (d.session.paged endSeq) :=
      cursor.advance rfl rfl tiles (.inl (Nat.le_of_lt within)) (noExit_output output)
    apply turn (some sub) sent (some { d with session := d.session.paged endSeq })
    · rintro held ⟨⟩
      exact ⟨rfl,fun _ => id⟩
    · rintro d' ⟨⟩
      exact ⟨rfl,rfl⟩
    · refine Life.draining deferred serves ?_ ?_
      · show Cursor _ _ d.outbox _
        rw [empty]
        exact moved.flush
      · intro handing
        obtain ⟨b,fixed,above,below⟩ := boundary handing
        refine ⟨b,fixed,bounded b ?_,below⟩
        rw [fixedBoundary,if_pos handing,fixed]
  | covered sent endSeq unfixed tiles within output =>
    rw [setSubscriber_same]
    have moved : Cursor s.headSeq (c.sentFor a) sent (d.session.paged endSeq) :=
      cursor.advance rfl rfl tiles (.inl (Nat.le_of_lt within)) (noExit_output output)
    apply turn (some (sub.coveredAt s.headSeq)) sent (some { d with session := d.session.paged endSeq, handingOff := true })
    · rintro held ⟨⟩
      exact ⟨rfl,fun _ => id⟩
    · rintro d' ⟨⟩
      exact ⟨rfl,rfl⟩
    · refine Life.draining deferred serves ?_ ?_
      · show Cursor _ _ d.outbox _
        rw [empty]
        exact moved.flush
      · intro _
        exact ⟨s.headSeq,rfl,Nat.le_of_lt within,Nat.le_refl _⟩
  | overrun unfixed lost below =>
    show Connection.Sound _ (s.subscribers conn) _
    rw [present]
    have retained := ring.oldest_le_head (by omega)
    let gap := retentionGap d.session (d.session.pageEnd + 1) (s.oldestRetainedSeq - 1) s.headSeq s.oldestRetainedSeq
    have moved : Cursor s.headSeq (c.sentFor a) [gap] (d.session.resumed (s.oldestRetainedSeq - 1)) := by
      refine cursor.advance rfl rfl ?_ (.inl ?_) ?_
      · exact tiles_singleton rfl rfl (by simp only [resumed_pageEnd]; omega)
      · simp only [resumed_pageEnd]
        omega
      · intro message member
        obtain rfl := List.mem_singleton.mp member
        rfl
    apply turn (some sub) [] (some { d with session := d.session.resumed (s.oldestRetainedSeq - 1), outbox := [gap] })
    · rintro held ⟨⟩
      exact ⟨rfl,fun _ => id⟩
    · rintro d' ⟨⟩
      exact ⟨rfl,rfl⟩
    · rw [List.append_nil]
      refine Life.draining deferred serves moved ?_
      intro handing
      obtain ⟨b,fixed,-,-⟩ := boundary handing
      rw [fixedBoundary,if_pos handing,fixed] at unfixed
      cases unfixed
  | completed sent verdict boundary' tiles noExit completes =>
    rw [setSubscriber_same]
    obtain ⟨base,low,whole⟩ := cursor.completed tiles
    have before := cursor.noExit
    rw [List.append_nil] at before
    have ended : drainNext d verdict = none := by
      cases verdict <;> first | rfl | cases completes
    rw [ended]
    apply turn _ _ none
    · intro held there
      unfold Subscriber.afterHold at there
      split at there
      · cases there
      · obtain rfl := Option.some.inj there
        exact ⟨rfl,fun _ => id⟩
    · rintro d' ⟨⟩
    · rw [← List.append_assoc]
      cases pending : sub.pacedExitPending with
      | none =>
        have live : (sub.clearedTo boundary').afterHold = some (sub.clearedTo boundary') :=
          if_neg (by rw [show (sub.clearedTo boundary').pacedExitPending = none from pending]; simp)
        rw [live,stagedExit,pending,Option.map_none,Option.toList_none,List.append_nil]
        refine Life.live rfl (before.append noExit) ⟨base,whole,?_⟩
        intro arid claims
        have named : some arid = some d.session.attachRequestId := claims.2.symm.trans serves.2
        obtain rfl := Option.some.inj named
        exact ⟨_,low,cursor.announces.append sent⟩
      | some exitCode =>
        have retired : (sub.clearedTo boundary').afterHold = none :=
          if_pos (by rw [show (sub.clearedTo boundary').pacedExitPending = some exitCode from pending]; rfl)
        rw [retired,stagedExit,pending,Option.map_some,Option.toList_some]
        refine Life.ended ⟨base,s.headSeq,?_⟩ ((before.append noExit).exitLast_concat _)
        rw [spans_append,exitMessage,spans_exit,spans_nil,List.append_nil]
        exact whole

theorem sound_drainOther (config : Config) (target : Nat) (sound : c.Sound head (s.subscribers conn))
    (draining : c.drains a = some d) (empty : d.outbox = [])
    (other : ∀ held, s.subscribers conn = some held → held.sink.attach ≠ a) :
    drainHold config s conn d target = ⟨s,[],.gone⟩ ∧ (c.setDrain a none).Sound head (s.subscribers conn) :=
  ⟨drainHold_refused fun held present => sound.apart a d draining held present (other held present),
    sound_drainEnd sound draining empty other⟩

end
end Freshell.Paced
