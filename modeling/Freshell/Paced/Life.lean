import Freshell.Paced.World

/-!
The life of an attach. A paced attach is first under the dispatcher or in the
session table, then in its drain, then live; an inline attach is live at once.
When its subscriber goes it has ended, but for a drain that still has to notice.
In each state what was sent for the attach, with what is built and not yet
sunk, tiles a range.
-/
namespace Freshell.Paced
open Freshell.Terminal Freshell.Library.Spans
set_option linter.unusedSimpArgs false

theorem sentFor_sunk (c : Connection) (sink : FrameSink) (messages : List ServerMessage) (a : Nat) :
    (c.sunk sink messages).sentFor a = c.sentFor a ++ if sink.attach = a then messages else [] := by
  unfold Connection.sunk Connection.sentFor
  rw [List.filter_append,List.map_append]
  congr 1
  by_cases mine : sink.attach = a
  · have all : (messages.map (Sent.mk sink.attach)).filter (·.attach == a) = messages.map (Sent.mk sink.attach) := by
      rw [List.filter_eq_self]
      intro sent member
      obtain ⟨message,-,rfl⟩ := List.mem_map.mp member
      simpa using mine
    rw [all,if_pos mine,List.map_map]
    exact List.map_id messages
  · have none_ : (messages.map (Sent.mk sink.attach)).filter (·.attach == a) = [] := by
      rw [List.filter_eq_nil_iff]
      intro sent member
      obtain ⟨message,-,rfl⟩ := List.mem_map.mp member
      simpa using mine
    rw [none_,if_neg mine,List.map_nil]

def Announces (messages : List ServerMessage) (attachRequestId : String) (since : Nat) : Prop :=
  ∃ ready rest, messages = .terminalAttachReady ready :: rest ∧ ready.attachRequestId = some attachRequestId ∧
    ready.effectiveSinceSeq = some since

variable {messages : List ServerMessage}

theorem Announces.append {arid : String} {since : Nat} (announces : Announces messages arid since)
    (more : List ServerMessage) : Announces (messages ++ more) arid since := by
  obtain ⟨ready,rest,rfl,named⟩ := announces
  exact ⟨ready,rest ++ more,rfl,named⟩

def NoExit (messages : List ServerMessage) : Prop := ∀ message ∈ messages, message.isExit = false

def ExitLast (messages : List ServerMessage) : Prop :=
  ∀ before message after, messages = before ++ message :: after → message.isExit = true → after = []

theorem NoExit.exitLast (noExit : NoExit messages) : ExitLast messages := by
  rintro before message after rfl isExit
  rw [noExit message (by simp)] at isExit
  cases isExit

theorem NoExit.exitLast_concat (noExit : NoExit messages) (last : ServerMessage) : ExitLast (messages ++ [last]) := by
  intro before message after split isExit
  obtain rfl | ⟨front,final,rfl⟩ := List.eq_nil_or_concat after
  · rfl
  · rw [List.concat_eq_append,← List.cons_append,← List.append_assoc] at split
    obtain ⟨same,-⟩ := List.append_inj' split rfl
    rw [noExit message (by rw [same]; simp)] at isExit
    cases isExit

theorem NoExit.append {first second : List ServerMessage} (one : NoExit first) (other : NoExit second) :
    NoExit (first ++ second) := by
  intro message member
  obtain member | member := List.mem_append.mp member
  · exact one message member
  · exact other message member

theorem NoExit.left {first second : List ServerMessage} (both : NoExit (first ++ second)) : NoExit first :=
  fun message member => both message (List.mem_append_left second member)

theorem noExit_nil : NoExit [] := fun _ member => nomatch member

theorem noExit_output (output : ∀ message ∈ messages, message.outputSpan.isSome) :
    NoExit messages := fun message member => isExit_of_output (output message member)

/-- What the system holds of one attach: its subscriber, while it has it; its
    session with what is built for it, under the dispatcher or in the table;
    its drain; and what was sent. -/
structure AttachView where
  current : Option Subscriber
  front : Option (PacedSession × List ServerMessage)
  drain : Option Drain
  sent : List ServerMessage

def Connection.front (c : Connection) (a : Nat) : Option (PacedSession × List ServerMessage) :=
  match c.busy with
  | some d => if d.sink.attach = a then some (d.session,d.outbox) else none
  | none =>
    match c.session with
    | some (sink,session) => if sink.attach = a then some (session,[]) else none
    | none => none

def Connection.view (c : Connection) (sub : Option Subscriber) (a : Nat) : AttachView where
  current := sub.filter fun sub => sub.sink.attach == a
  front := c.front a
  drain := c.drains a
  sent := c.sentFor a

/-- Where a session stands: what was sent and built accounts for every number
    from its baseline, or from before it, up to its cursor. The cursor is above
    the head only when the client named a head that the terminal has not reached. -/
structure Cursor (head : Nat) (sent built : List ServerMessage) (session : PacedSession) : Prop where
  announces : Announces sent session.attachRequestId session.effectiveSince
  tiles : ∃ base, base ≤ session.effectiveSince ∧ Tiles base (spans (sent ++ built)) session.pageEnd
  reached : session.pageEnd ≤ head ∨ spans (sent ++ built) = []
  noExit : NoExit (sent ++ built)

inductive Life (head : Nat) : AttachView → Prop
  | ended {sent : List ServerMessage} (tiles : ∃ base top, Tiles base (spans sent) top) (last : ExitLast sent) :
      Life head ⟨none,none,none,sent⟩
  | leaving {drain : Drain} {sent : List ServerMessage} (announces : ∃ since, Announces sent drain.session.attachRequestId since)
      (tiles : ∃ base top, Tiles base (spans (sent ++ drain.outbox)) top) (noExit : NoExit (sent ++ drain.outbox)) :
      Life head ⟨none,none,some drain,sent⟩
  | paced {sub : Subscriber} {session : PacedSession} {outbox sent : List ServerMessage} (deferred : sub.pacedDeferred = true)
      (serves : sub.Serves session.attachRequestId) (reach : session.phaseTarget ≤ head)
      (cursor : Cursor head sent outbox session) : Life head ⟨some sub,some (session,outbox),none,sent⟩
  | draining {sub : Subscriber} {drain : Drain} {sent : List ServerMessage} (deferred : sub.pacedDeferred = true)
      (serves : sub.Serves drain.session.attachRequestId) (cursor : Cursor head sent drain.outbox drain.session)
      (boundary : drain.handingOff = true →
        ∃ boundary, sub.pacedHandoffBoundary = some boundary ∧ drain.session.pageEnd ≤ boundary ∧ boundary ≤ head) :
      Life head ⟨some sub,none,some drain,sent⟩
  | live {sub : Subscriber} {sent : List ServerMessage} (direct : sub.pacedDeferred = false) (noExit : NoExit sent)
      (tiles : ∃ base, Tiles base (spans sent) head ∧
        ∀ arid, sub.Serves arid → ∃ since, base ≤ since ∧ Announces sent arid since) :
      Life head ⟨some sub,none,none,sent⟩

section
variable {head : Nat} {view : AttachView}

variable {session : PacedSession}

theorem Life.of_front (life : Life head view) {outbox : List ServerMessage}
    (front : view.front = some (session,outbox)) :
    view.drain = none ∧ ∃ sub, view.current = some sub ∧ sub.pacedDeferred = true ∧ sub.Serves session.attachRequestId ∧
      session.phaseTarget ≤ head ∧ Cursor head view.sent outbox session := by
  cases life with
  | paced deferred serves reach cursor =>
    obtain ⟨rfl,rfl⟩ := Prod.mk.inj (Option.some.inj front)
    exact ⟨rfl,_,rfl,deferred,serves,reach,cursor⟩
  | ended | leaving | draining | live => cases front

variable {drain : Drain} {sub : Subscriber}

theorem Life.of_drain (life : Life head view) (draining : view.drain = some drain) (current : view.current = some sub) :
    view.front = none ∧ sub.pacedDeferred = true ∧ sub.Serves drain.session.attachRequestId ∧
      Cursor head view.sent drain.outbox drain.session ∧
      (drain.handingOff = true →
        ∃ boundary, sub.pacedHandoffBoundary = some boundary ∧ drain.session.pageEnd ≤ boundary ∧ boundary ≤ head) := by
  cases life with
  | draining deferred serves cursor boundary =>
    obtain rfl := Option.some.inj draining
    obtain rfl := Option.some.inj current
    exact ⟨rfl,deferred,serves,cursor,boundary⟩
  | ended | paced | live => cases draining
  | leaving => cases current

theorem Life.of_leaving (life : Life head view) (draining : view.drain = some drain) (gone : view.current = none) :
    view.front = none ∧ (∃ since, Announces view.sent drain.session.attachRequestId since) ∧
      (∃ base top, Tiles base (spans (view.sent ++ drain.outbox)) top) ∧ NoExit (view.sent ++ drain.outbox) := by
  cases life with
  | leaving announces tiles noExit =>
    obtain rfl := Option.some.inj draining
    exact ⟨rfl,announces,tiles,noExit⟩
  | ended => cases draining
  | paced | draining | live => cases gone

theorem Life.of_live (life : Life head view) (current : view.current = some sub) (direct : sub.pacedDeferred = false) :
    view.front = none ∧ view.drain = none ∧ NoExit view.sent ∧ ∃ base, Tiles base (spans view.sent) head ∧
      ∀ arid, sub.Serves arid → ∃ since, base ≤ since ∧ Announces view.sent arid since := by
  cases life with
  | live direct noExit tiles =>
    obtain rfl := Option.some.inj current
    exact ⟨rfl,rfl,noExit,tiles⟩
  | paced deferred | draining deferred =>
    obtain rfl := Option.some.inj current
    rw [direct] at deferred
    cases deferred
  | ended | leaving => cases current

theorem Life.tiles (life : Life head view) : ∃ base top, Tiles base (spans view.sent) top := by
  have shorter : ∀ {base top : Nat} (built : List ServerMessage), Tiles base (spans (view.sent ++ built)) top →
      ∃ base top, Tiles base (spans view.sent) top := by
    intro base top built tiles
    rw [spans_append] at tiles
    obtain ⟨middle,first,-⟩ := tiles_append.mp tiles
    exact ⟨base,middle,first⟩
  cases life with
  | ended tiles => exact tiles
  | leaving _ tiles =>
    obtain ⟨base,top,tiles⟩ := tiles
    exact shorter _ tiles
  | paced _ _ _ cursor | draining _ _ cursor =>
    obtain ⟨base,-,tiles⟩ := cursor.tiles
    exact shorter _ tiles
  | live _ _ tiles =>
    obtain ⟨base,tiles,-⟩ := tiles
    exact ⟨base,head,tiles⟩

theorem Life.exitLast (life : Life head view) : ExitLast view.sent := by
  cases life with
  | ended _ last => exact last
  | leaving _ _ noExit => exact noExit.left.exitLast
  | paced _ _ _ cursor | draining _ _ cursor => exact cursor.noExit.left.exitLast
  | live _ noExit => exact noExit.exitLast

theorem Cursor.grow {sent built : List ServerMessage} (cursor : Cursor head sent built session) :
    Cursor (head + 1) sent built session where
  announces := cursor.announces
  tiles := cursor.tiles
  reached := cursor.reached.imp_left fun within => by omega
  noExit := cursor.noExit

theorem Cursor.same {sent built : List ServerMessage} {session' : PacedSession}
    (cursor : Cursor head sent built session) (named : session'.attachRequestId = session.attachRequestId)
    (since : session'.effectiveSince = session.effectiveSince) (ends : session'.pageEnd = session.pageEnd) :
    Cursor head sent built session' where
  announces := by rw [named,since]; exact cursor.announces
  tiles := by rw [since,ends]; exact cursor.tiles
  reached := by rw [ends]; exact cursor.reached
  noExit := cursor.noExit

theorem Cursor.sink {sent rest : List ServerMessage} {message : ServerMessage}
    (cursor : Cursor head sent (message :: rest) session) : Cursor head (sent ++ [message]) rest session where
  announces := cursor.announces.append [message]
  tiles := by rw [List.append_assoc]; exact cursor.tiles
  reached := by rw [List.append_assoc]; exact cursor.reached
  noExit := by rw [List.append_assoc]; exact cursor.noExit

theorem Cursor.advance {sent more : List ServerMessage} {session session' : PacedSession} (cursor : Cursor head sent [] session)
    (named : session'.attachRequestId = session.attachRequestId) (since : session'.effectiveSince = session.effectiveSince)
    (tiles : Tiles session.pageEnd (spans more) session'.pageEnd)
    (within : session'.pageEnd ≤ head ∨ session'.pageEnd = session.pageEnd) (noExit : NoExit more) :
    Cursor head sent more session' where
  announces := by rw [named,since]; exact cursor.announces
  tiles := by
    obtain ⟨base,low,before⟩ := cursor.tiles
    rw [List.append_nil] at before
    exact ⟨base,by rw [since]; exact low,by rw [spans_append]; exact tiles_concat before tiles⟩
  reached := by
    obtain within | still := within
    · exact .inl within
    · rw [still] at tiles ⊢
      rw [spans_append,tiles_nil_of_le tiles (Nat.le_refl _),List.append_nil]
      simpa using cursor.reached
  noExit := by
    have before := cursor.noExit
    rw [List.append_nil] at before
    exact before.append noExit

theorem Cursor.flush {sent more : List ServerMessage} (cursor : Cursor head sent more session) :
    Cursor head (sent ++ more) [] session where
  announces := cursor.announces.append more
  tiles := by rw [List.append_nil]; exact cursor.tiles
  reached := by rw [List.append_nil]; exact cursor.reached
  noExit := by rw [List.append_nil]; exact cursor.noExit

end
end Freshell.Paced
