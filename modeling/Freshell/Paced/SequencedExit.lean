import Freshell.Paced.ExactlyOnce

/-!
A natural exit is sequenced after the output. The head is frozen from the exit
on; a deferred subscriber is sent its exit by the completing hold of its own
drain, after everything up to that head, and no subscriber is sent anything
after its exit.
-/
namespace Freshell.Paced
open Freshell.Terminal Freshell.Library.Spans Freshell.Library.Runs
set_option linter.unusedSimpArgs false

section
variable {config : Config} {w : World} {conn : ConnId}

/-- Everything above the baseline of the attach, up to `head`, was sent exactly
    once or declared. -/
def AccountedTo (messages : List ServerMessage) (head : Nat) : Prop :=
  ∃ arid since, Announces messages arid since ∧ ∀ n, since < n → n ≤ head → ExactlyOnce messages n

theorem head_frozen (exited : w.shared.status = .exited) (label : Label) :
    (step config w label).shared.headSeq = w.shared.headSeq := by
  cases label with
  | output data scan => simp [step,output,exited]
  | exit exitCode =>
    show (finishPtyExit w.shared exitCode).headSeq = _
    simp [finishPtyExit,exited]
  | attach other req =>
    simp only [step]
    split
    · show (attachToShared config w.shared other _ req).1.headSeq = _
      unfold attachToShared
      cases pacedPath w.shared req with
      | some arid => rfl
      | none =>
        simp only [inlineAttachToShared]
        cases w.shared.status <;> rfl
    · rfl
  | credit | exitNotify | detach | disconnect =>
    simp only [step]
    split <;> rfl
  | dispatch => rfl
  | drain other a =>
    simp only [step]
    split
    · rfl
    · rename_i d draining
      unfold drainTurn
      split
      · rfl
      · split
        · rfl
        · rename_i target captured
          show (drainHold config w.shared other d target).shared.headSeq = _
          obtain ⟨sub',shared,-⟩ := drainHold_keeps config w.shared other d target
          rw [shared]
          rfl
  | cancelDrain other a =>
    simp only [step]
    split
    · rfl
    · split <;> rfl

theorem Life.noExit_current {head : Nat} {view : AttachView} (life : Life head view) (current : view.current.isSome) :
    NoExit view.sent := by
  cases life with
  | ended | leaving => cases current
  | paced _ _ _ cursor | draining _ _ cursor => exact cursor.noExit.left
  | live _ noExit => exact noExit

theorem noExit_current (sound : w.Sound) {sub : Subscriber} (present : w.shared.subscribers conn = some sub) :
    NoExit ((w.connections conn).sentFor sub.sink.attach) := by
  refine ((sound.connections conn).life sub.sink.attach).noExit_current ?_
  rw [view_current.mpr ⟨present,rfl⟩]
  rfl

theorem Cursor.accounted_exit {head : Nat} {before sent last : List ServerMessage} {session : PacedSession}
    (cursor : Cursor head before [] session) (tiles : Tiles session.pageEnd (spans sent) (max session.pageEnd head))
    (plain : spans last = []) : AccountedTo (before ++ (sent ++ last)) head := by
  obtain ⟨base,low,whole⟩ := cursor.completed tiles
  refine ⟨_,_,cursor.announces.append _,?_⟩
  intro n above below
  have covers : Tiles base (spans (before ++ (sent ++ last))) head := by
    rw [← List.append_assoc,spans_append,plain,List.append_nil]
    exact whole
  exact exactlyOnce_of_tiles covers (by omega) below

/-- A turn of the drain of a deferred subscriber keeps the subscriber, or it is
    the hold that completes and sends the staged exit. -/
theorem drain_exit (sound : w.Sound) {sub : Subscriber} {a : Nat} {d : Drain} (present : w.shared.subscribers conn = some sub)
    (draining : (w.connections conn).drains a = some d) :
    (∃ sub', (drainTurn config w conn a d).shared.subscribers conn = some sub' ∧ sub'.sink = sub.sink) ∨
      sub.pacedExitPending.isSome ∧
        AccountedTo (((drainTurn config w conn a d).connections conn).sentFor sub.sink.attach) w.shared.headSeq := by
  unfold drainTurn
  cases outbox : d.outbox with
  | cons message rest => exact .inl ⟨sub,present,rfl⟩
  | nil =>
    simp only
    cases captured : d.drainTarget with
    | none => exact .inl ⟨sub,present,rfl⟩
    | some target =>
      simp only
      by_cases own : sub.sink.attach = a
      · subst own
        obtain ⟨spec,sink,serves,cursor⟩ := drain_own config sound target draining present
        rw [outbox] at cursor
        revert spec
        generalize drainHold config w.shared conn d target = hold
        intro spec
        cases spec with
        | advanced | overrun => exact .inl ⟨sub,present,rfl⟩
        | covered => exact .inl ⟨_,setSubscriber_same ..,rfl⟩
        | completed sent verdict boundary tiles noExit completes =>
          cases pending : sub.pacedExitPending with
          | none =>
            refine .inl ⟨sub.clearedTo boundary,?_,rfl⟩
            rw [setSubscriber_same]
            exact if_neg (by rw [show (sub.clearedTo boundary).pacedExitPending = none from pending]; simp)
          | some exitCode =>
            refine .inr ⟨rfl,?_⟩
            show AccountedTo (Connection.sentFor (((World.setConnection w conn _).connections) conn) _) _
            rw [setConnection_same,setDrain_sentFor,present,delivered,sentFor_sunk,if_pos rfl]
            exact cursor.accounted_exit tiles (by rw [stagedExit,pending]; rfl)
      · have refused : drainHold config w.shared conn d target = ⟨w.shared,[],.gone⟩ := by
          apply drainHold_refused
          intro held there
          obtain rfl := Option.some.inj (present.symm.trans there)
          exact (sound.connections conn).apart a d draining _ there own
        rw [refused]
        exact .inl ⟨sub,present,rfl⟩

theorem drainTurn_other {other : ConnId} {a : Nat} (d : Drain) (apart : conn ≠ other) :
    (drainTurn config w other a d).connections conn = w.connections conn := by
  unfold drainTurn
  split
  · exact setConnection_other _ _ apart
  · split
    · exact setConnection_other _ _ apart
    · exact setConnection_other _ _ apart

/-- A step leaves the attach of a deferred subscriber its subscriber, or sends it
    nothing, or is the hold of its drain that completes. -/
theorem step_deferred (config : Config) (sound : w.Sound) {sub : Subscriber} (present : w.shared.subscribers conn = some sub)
    (deferred : sub.pacedDeferred = true) (label : Label) :
    (∃ sub', (step config w label).shared.subscribers conn = some sub' ∧ sub'.sink = sub.sink) ∨
      ((step config w label).connections conn).sentFor sub.sink.attach = (w.connections conn).sentFor sub.sink.attach ∨
      sub.pacedExitPending.isSome ∧
        AccountedTo (((step config w label).connections conn).sentFor sub.sink.attach) w.shared.headSeq := by
  cases label with
  | output data scan =>
    refine .inl ⟨sub,?_,rfl⟩
    show (output config w data scan).shared.subscribers conn = _
    unfold output
    split <;> exact present
  | exit exitCode =>
    show (∃ sub', (finishPtyExit w.shared exitCode).subscribers conn = some sub' ∧ _) ∨ _
    unfold finishPtyExit
    split
    · exact .inl ⟨sub,present,rfl⟩
    · refine .inl ⟨sub.staged exitCode,?_,rfl⟩
      simp [present,deferred]
  | attach other req =>
    simp only [step]
    split
    · by_cases same : other = conn
      · subst same
        refine .inr (.inl ?_)
        show (World.connections (World.setConnection w other _) other).sentFor _ = _
        have numbered := (sound.connections other).numbered sub present
        rw [setConnection_same,attached_sentFor (sound.connections other),if_neg (by omega)]
      · refine .inr (.inl ?_)
        show (World.connections (World.setConnection w other _) conn).sentFor _ = _
        rw [setConnection_other _ _ (Ne.symm same)]
    · exact .inl ⟨sub,present,rfl⟩
  | credit other credit =>
    refine .inl ⟨sub,?_,rfl⟩
    simp only [step]
    split <;> exact present
  | exitNotify other =>
    refine .inl ⟨sub,?_,rfl⟩
    simp only [step]
    split <;> exact present
  | dispatch other => exact .inl ⟨sub,present,rfl⟩
  | detach other | disconnect other =>
    refine .inr (.inl ?_)
    simp only [step]
    split
    · by_cases same : other = conn
      · subst same
        show (World.connections (World.setConnection w other _) other).sentFor _ = _
        rw [setConnection_same]
        rfl
      · show (World.connections (World.setConnection w other _) conn).sentFor _ = _
        rw [setConnection_other _ _ (Ne.symm same)]
    · rfl
  | drain other a =>
    simp only [step]
    split
    · exact .inl ⟨sub,present,rfl⟩
    · rename_i d draining
      by_cases same : other = conn
      · subst same
        exact (drain_exit sound present draining).imp_right .inr
      · refine .inr (.inl ?_)
        rw [drainTurn_other _ (Ne.symm same)]
  | cancelDrain other a =>
    refine .inl ⟨sub,?_,rfl⟩
    simp only [step]
    split
    · exact present
    · split <;> exact present

end

theorem ExitLast.once {messages : List ServerMessage} (last : ExitLast messages) :
    messages.countP ServerMessage.isExit ≤ 1 := by
  induction messages with
  | nil => exact Nat.zero_le _
  | cons message rest ih =>
    cases isExit : message.isExit with
    | false =>
      rw [List.countP_cons_of_neg (by simp [isExit])]
      apply ih
      rintro before exit_ after rfl
      exact last (message :: before) exit_ after rfl
    | true =>
      obtain rfl := last [] message rest rfl isExit
      exact List.countP_le_length

/-- A replay whose last frame and whose exit come while it drains. -/
def exitWhileDraining : List Label :=
  let scan : Scan := ⟨false,none,.ground,.ground,""⟩
  [.output "a" scan,.output "b" scan,.attach 0 ⟨some "r",0,false,true,none,none⟩,.output "c" scan,
    .dispatch 0,.dispatch 0,.dispatch 0,.credit 0 ⟨"t","s","r",1⟩,.dispatch 0,.dispatch 0,.dispatch 0,.dispatch 0,
    .drain 0 0,.output "d" scan,.exit 0,.drain 0 0]

/-- In every run: an attach is sent one exit at most, and nothing after it; after
    an exit nothing moves the head; and a deferred subscriber is sent its exit by
    a step that finds the terminal exited, and only when everything from its
    baseline to that head was sent or declared. -/
theorem exit_sequenced_after_output (config : Config) (terminalId streamId : String) (maxReplayChars : Nat)
    {labels : List Label}
    (fresh : Along (step config) FreshRequest (World.start terminalId streamId maxReplayChars) labels) (conn : ConnId) :
    let w := World.after config terminalId streamId maxReplayChars labels
    (∀ a, ((w.connections conn).sentFor a).countP ServerMessage.isExit ≤ 1 ∧ ExitLast ((w.connections conn).sentFor a)) ∧
      (w.shared.status = .exited → ∀ label, (step config w label).shared.headSeq = w.shared.headSeq) ∧
      ∀ label sub, FreshRequest w label → w.shared.subscribers conn = some sub → sub.pacedDeferred = true →
        ¬ NoExit (((step config w label).connections conn).sentFor sub.sink.attach) →
          w.shared.status = .exited ∧
            AccountedTo (((step config w label).connections conn).sentFor sub.sink.attach) w.shared.headSeq := by
  intro w
  have sound : w.Sound := sound_run fresh
  refine ⟨?_,head_frozen,?_⟩
  · intro a
    have last : ExitLast ((w.connections conn).sentFor a) := ((sound.connections conn).life a).exitLast
    exact ⟨last.once,last⟩
  · intro label sub unclaimed present deferred exits
    obtain ⟨sub',present',sink⟩ | silent | ⟨pending,accounted⟩ := step_deferred config sound present deferred label
    · refine absurd ?_ exits
      rw [← sink]
      exact noExit_current (sound_step sound label unclaimed) present'
    · refine absurd ?_ exits
      rw [silent]
      exact noExit_current sound present
    · exact ⟨(sound.staged conn sub present).mp pending,accounted⟩

/-- The next hold of that drain sends the last frame, and then the exit. -/
theorem exit_sequenced_after_output_draining :
    AccountedTo (((step pageByPage (World.after pageByPage "t" "s" 100 exitWhileDraining) (.drain 0 0)).connections 0).sentFor 0)
      4 := by
  have fresh : Along (step pageByPage) FreshRequest (World.start "t" "s" 100) exitWhileDraining := by decide
  have present : (World.after pageByPage "t" "s" 100 exitWhileDraining).shared.subscribers 0 =
      some ⟨⟨0⟩,some "r",false,true,true,some 4,some 0⟩ := by decide
  have head : (World.after pageByPage "t" "s" 100 exitWhileDraining).shared.headSeq = 4 := by decide
  have exits : ¬ ∀ message ∈ ((step pageByPage (World.after pageByPage "t" "s" 100 exitWhileDraining) (.drain 0 0)).connections
      0).sentFor 0, message.isExit = false := by decide
  have sequenced := (exit_sequenced_after_output pageByPage "t" "s" 100 fresh 0).2.2 (.drain 0 0) _ trivial present rfl exits
  rw [head] at sequenced
  exact sequenced.2

end Freshell.Paced
