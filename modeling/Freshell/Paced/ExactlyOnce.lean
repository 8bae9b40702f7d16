import Freshell.Paced.Soundness

/-!
A paced replay is exactly once or declared: what is sent for an attach ascends,
each message comes after everything between the baseline and itself, and a
subscriber that has gone live has every number from its baseline to the head.
-/
namespace Freshell.Paced
open Freshell.Terminal Freshell.Library.Spans Freshell.Library.Runs
set_option linter.unusedSimpArgs false

/-- The number is in exactly one sent output and in no gap, or in a gap alone. -/
def ExactlyOnce (messages : List ServerMessage) (n : Nat) : Prop :=
  (outputSpans messages).countP (·.holds n) = 1 ∧ (gapSpans messages).countP (·.holds n) = 0 ∨
    (outputSpans messages).countP (·.holds n) = 0 ∧ ∃ gap ∈ gapSpans messages, gap.holds n = true

theorem exactlyOnce_of_tiles {messages : List ServerMessage} {base top n : Nat} (tiles : Tiles base (spans messages) top)
    (above : base < n) (below : n ≤ top) : ExactlyOnce messages n := by
  have once := tiles_countP tiles n
  rw [if_pos ⟨above,below⟩,countP_spans] at once
  by_cases sent : (outputSpans messages).countP (·.holds n) = 1
  · exact .inl ⟨sent,by omega⟩
  · refine .inr ⟨by omega,?_⟩
    apply List.countP_pos_iff.mp
    omega

theorem exactlyOnce_before {before after : List ServerMessage} {message : ServerMessage} {span : Span} {base top n : Nat}
    (tiles : Tiles base (spans (before ++ message :: after)) top) (accounts : message.span = some span) (above : base < n)
    (below : n < span.first) : ExactlyOnce before n := by
  have split : spans (message :: after) = span :: spans after := by simp [spans,accounts]
  rw [spans_append,split] at tiles
  obtain ⟨middle,earlier,first,-⟩ := tiles_append.mp tiles
  exact exactlyOnce_of_tiles earlier above (by omega)

theorem Life.accounted {head : Nat} {view : AttachView} (life : Life head view) {sub : Subscriber} {arid : String}
    (current : view.current = some sub) (serves : sub.Serves arid) :
    ∃ since base top, base ≤ since ∧ Announces view.sent arid since ∧ Tiles base (spans view.sent) top ∧
      (sub.pacedDeferred = false → top = head) := by
  have deferred_ : ∀ {built : List ServerMessage} {session : PacedSession}, sub.pacedDeferred = true →
      sub.Serves session.attachRequestId → Cursor head view.sent built session →
      ∃ since base top, base ≤ since ∧ Announces view.sent arid since ∧ Tiles base (spans view.sent) top ∧
        (sub.pacedDeferred = false → top = head) := by
    intro built session deferred claims cursor
    obtain rfl : arid = session.attachRequestId := Option.some.inj (serves.2.symm.trans claims.2)
    obtain ⟨base,low,tiles⟩ := cursor.tiles
    rw [spans_append] at tiles
    obtain ⟨middle,sent,-⟩ := tiles_append.mp tiles
    exact ⟨_,base,middle,low,cursor.announces,sent,fun direct => by rw [direct] at deferred; cases deferred⟩
  cases life with
  | ended | leaving => cases current
  | paced deferred claims _ cursor | draining deferred claims cursor =>
    obtain rfl := Option.some.inj current
    exact deferred_ deferred claims cursor
  | live direct noExit tiles =>
    obtain rfl := Option.some.inj current
    obtain ⟨base,tiles,announced⟩ := tiles
    obtain ⟨since,low,announces⟩ := announced arid serves
    exact ⟨since,base,head,low,announces,tiles,fun _ => rfl⟩

/-- Sizes for which a page has room for one frame. -/
def pageByPage : Config where
  jsonLen := ⟨fun _ => 4,fun _ => 1⟩
  batchMaxFromEnv := none
  pacedPageMaxBytes := 5

/-- Frames, an attach, and its pages, credits and drain. -/
def drainedReplay : List Label :=
  let scan : Scan := ⟨false,none,.ground,.ground,""⟩
  let page := [.dispatch 0,.dispatch 0,.dispatch 0,.dispatch 0]
  [.output "a" scan,.output "b" scan,.output "c" scan,.attach 0 ⟨some "r",0,false,true,none,none⟩,.output "d" scan,
    .dispatch 0,.dispatch 0,.dispatch 0] ++
  .credit 0 ⟨"t","s","r",1⟩ :: page ++ .credit 0 ⟨"t","s","r",2⟩ :: page ++ [.drain 0 0,.drain 0 0,.output "e" scan]

/-- In every run, for every connection: the numbers sent for an attach ascend
    without overlap; and for the subscriber of a paced attach, whose ready
    announced a baseline, whatever accounts for numbers was sent after everything
    between the baseline and it, and once it is live every number above the
    baseline up to the head was sent exactly once or declared. -/
theorem paced_replay_exactly_once (config : Config) (terminalId streamId : String) (maxReplayChars : Nat)
    {labels : List Label}
    (fresh : Along (step config) FreshRequest (World.start terminalId streamId maxReplayChars) labels) (conn : ConnId) :
    let w := World.after config terminalId streamId maxReplayChars labels
    let c := w.connections conn
    (∀ a, Ascending (spans (c.sentFor a))) ∧
      ∀ sub arid, w.shared.subscribers conn = some sub → sub.Serves arid →
        ∃ since, Announces (c.sentFor sub.sink.attach) arid since ∧
          (∀ before message after span n, c.sentFor sub.sink.attach = before ++ message :: after →
            message.span = some span → since < n → n < span.first → ExactlyOnce before n) ∧
          (sub.pacedDeferred = false → ∀ n, since < n → n ≤ w.shared.headSeq →
            ExactlyOnce (c.sentFor sub.sink.attach) n) := by
  intro w c
  have sound := (sound_run fresh).connections conn
  constructor
  · intro a
    obtain ⟨base,top,tiles⟩ := (sound.life a).tiles
    exact ascending_of_tiles tiles
  · intro sub arid present serves
    obtain ⟨since,base,top,low,announces,tiles,live⟩ :=
      (sound.life sub.sink.attach).accounted (view_current.mpr ⟨present,rfl⟩) serves
    have tiles : Tiles base (spans (c.sentFor sub.sink.attach)) top := tiles
    refine ⟨since,announces,?_,?_⟩
    · intro before message after span n split accounts above below
      rw [split] at tiles
      exact exactlyOnce_before tiles accounts (by omega) below
    · intro direct n above below
      exact exactlyOnce_of_tiles tiles (by omega) (by rw [live direct]; exact below)

/-- A replay of three frames in pages of one, with a frame more while it is
    paced and another one after it. -/
theorem paced_replay_exactly_once_drained :
    ∃ since, Announces (((World.after pageByPage "t" "s" 100 drainedReplay).connections 0).sentFor 0) "r" since ∧
      ∀ n, since < n → n ≤ 5 →
        ExactlyOnce (((World.after pageByPage "t" "s" 100 drainedReplay).connections 0).sentFor 0) n := by
  have fresh : Along (step pageByPage) FreshRequest (World.start "t" "s" 100) drainedReplay := by decide
  have present : (World.after pageByPage "t" "s" 100 drainedReplay).shared.subscribers 0 =
      some ⟨⟨0⟩,some "r",false,true,false,none,none⟩ := by decide
  have head : (World.after pageByPage "t" "s" 100 drainedReplay).shared.headSeq = 5 := by decide
  have once := (paced_replay_exactly_once pageByPage "t" "s" 100 fresh 0).2 _ "r" present ⟨rfl,rfl⟩
  rw [head] at once
  obtain ⟨since,announces,-,live⟩ := once
  exact ⟨since,announces,live rfl⟩

end Freshell.Paced
