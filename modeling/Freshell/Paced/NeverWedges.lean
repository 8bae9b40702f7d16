import Freshell.Paced.ExactlyOnce
import Freshell.Paced.Outstanding

/-!
The table never holds a session that nothing can move, as long as no exit is
processed while a dispatcher is stranded. One exit at the wrong moment is enough
for a session whose last message is a gap, for which no credit can come.
-/
namespace Freshell.Paced
open Freshell.Terminal Freshell.Library.Runs
set_option linter.unusedSimpArgs false

/-- What no step but an exit does to a terminal, as one connection sees it: the
    head and the ring move on while it runs and rest when it has exited. -/
structure Leads (conn : ConnId) (s s' : TerminalShared) : Prop where
  status : s'.status = s.status
  head : s.headSeq ≤ s'.headSeq
  oldest : s.oldestRetainedSeq ≤ s'.oldestRetainedSeq
  frozen : s.status = .exited → s'.headSeq = s.headSeq ∧ s'.oldestRetainedSeq = s.oldestRetainedSeq
  gone : s.subscribers conn = none → s'.subscribers conn = none

section
variable {s s' : TerminalShared} {conn : ConnId} {built built' : List ServerMessage} {session : PacedSession}

theorem leads_setSubscriber {other : ConnId} {sub : Option Subscriber} (gone : other = conn → s.subscribers conn = none → sub = none) :
    Leads conn s (s.setSubscriber other sub) := by
  refine ⟨rfl,Nat.le_refl _,Nat.le_refl _,fun _ => ⟨rfl,rfl⟩,?_⟩
  intro absent
  by_cases same : other = conn
  · subst same
    rw [setSubscriber_same]
    exact gone rfl absent
  · rw [setSubscriber_other _ _ (Ne.symm same)]
    exact absent

theorem leads_rfl : Leads conn s s := ⟨rfl,Nat.le_refl _,Nat.le_refl _,fun _ => ⟨rfl,rfl⟩,id⟩

theorem built_kept {c c' : Connection} {a : Nat} (kept : ∀ a, ∀ m ∈ c.sentFor a, m ∈ c'.sentFor a) (outbox : List ServerMessage) :
    ∀ m ∈ c.sentFor a ++ outbox, m ∈ c'.sentFor a ++ outbox := by
  intro m member
  obtain sent | waiting := List.mem_append.mp member
  · exact List.mem_append_left _ (kept _ m sent)
  · exact List.mem_append_right _ waiting

theorem PacedSession.Reaches.leads (reaches : session.Reaches s) (leads : Leads conn s s') : session.Reaches s' where
  target := Nat.le_trans reaches.target leads.head
  armed := by
    intro exitHead armed
    obtain ⟨exited,head⟩ := reaches.armed exitHead armed
    exact ⟨leads.status.trans exited,head.trans (leads.frozen exited).1.symm⟩

theorem flows_leads {task : Task} (flows : Flows s conn built session task) (leads : Leads conn s s')
    (kept : ∀ m ∈ built, m ∈ built') : Flows s' conn built' session task := by
  cases task with
  | start => exact flows.imp_right fun outstanding => outstanding.mono kept
  | drive guard =>
    refine ⟨flows.1,flows.2.imp leads.gone (Or.imp ?_ ?_)⟩
    · rintro ⟨running,plain,stands⟩
      refine ⟨leads.status.trans running,plain,stands.imp_right ?_⟩
      rintro ⟨overrun,lost⟩
      exact ⟨overrun.mono kept,Nat.lt_of_lt_of_le lost leads.oldest⟩
    · rintro ⟨exited,below,within⟩
      exact ⟨leads.status.trans exited,below,(leads.frozen exited).2 ▸ within⟩
  | settle outcome =>
    cases outcome with
    | active => exact flows.mono kept
    | drainReady =>
      obtain outstanding | credited | ⟨running,overrun⟩ := flows
      · exact .inl (outstanding.mono kept)
      · exact .inr (.inl credited)
      · exact .inr (.inr ⟨leads.status.trans running,overrun.mono kept⟩)
    | gone => exact trivial
  | dispose disposition =>
    cases disposition with
    | stay => exact flows.mono kept
    | transfer | gone => exact trivial

theorem flows_exit {task : Task} {sink : FrameSink} {outbox : List ServerMessage} {sent : List ServerMessage}
    (running : s.status = .running) (exited : s'.status = .exited) (oldest : s'.oldestRetainedSeq = s.oldestRetainedSeq)
    (gone : s.subscribers conn = none → s'.subscribers conn = none) (kept : ∀ m ∈ built, m ∈ sent ++ outbox)
    (timely : ¬ Stranded s sent ⟨sink,session,task,outbox⟩) (flows : Flows s conn built session task) :
    Flows s' conn built session task := by
  cases task with
  | start => exact flows
  | drive guard =>
    have retained : s.oldestRetainedSeq ≤ session.phaseTarget := Nat.le_of_not_lt timely
    refine ⟨flows.1,flows.2.imp gone ?_⟩
    rintro (⟨-,-,below | ⟨-,lost⟩⟩ | ⟨before,-⟩)
    · exact .inr ⟨exited,below,oldest ▸ retained⟩
    · omega
    · rw [running] at before
      cases before
  | settle outcome =>
    cases outcome with
    | active => exact flows
    | drainReady =>
      obtain outstanding | credited | ⟨-,overrun⟩ := flows
      · exact .inl outstanding
      · exact .inr (.inl credited)
      · exact absurd (overrun.mono kept) timely
    | gone => exact trivial
  | dispose disposition => cases disposition <;> exact flows

variable {c c' : Connection}

theorem Connection.Flowing.leads (flowing : c.Flowing s conn) (leads : Leads conn s s') (busy : c'.busy = c.busy)
    (table : c'.session = c.session) (kept : ∀ a, ∀ m ∈ c.sentFor a, m ∈ c'.sentFor a) : c'.Flowing s' conn := by
  refine ⟨?_,?_,?_⟩
  · rw [busy,table]
    exact flowing.alone
  · rw [busy]
    intro d there
    obtain ⟨reaches,flows⟩ := flowing.busy d there
    exact ⟨reaches.leads leads,flows_leads flows leads (built_kept kept d.outbox)⟩
  · rw [table]
    intro sink session there
    obtain ⟨reaches,outstanding⟩ := flowing.table sink session there
    exact ⟨reaches.leads leads,outstanding.mono (kept _)⟩

theorem fanOut_frame (messages : Subscriber → List ServerMessage) (connections : ConnId → Connection) (conn : ConnId) :
    (fanOut s messages connections conn).busy = (connections conn).busy ∧
      (fanOut s messages connections conn).session = (connections conn).session ∧
      ∀ a, ∀ m ∈ (connections conn).sentFor a, m ∈ (fanOut s messages connections conn).sentFor a := by
  unfold fanOut
  split
  · exact ⟨rfl,rfl,fun _ _ => id⟩
  · refine ⟨rfl,rfl,?_⟩
    intro a m member
    rw [sentFor_sunk]
    exact List.mem_append_left _ member

end

structure World.Flowing (w : World) : Prop where
  ring : w.shared.Sound
  next : w.nextSeq = w.shared.headSeq + 1
  staged : Staged w.shared
  connections : ∀ conn, (w.connections conn).Flowing w.shared conn

theorem flowing_start (terminalId streamId : String) (maxReplayChars : Nat) :
    (World.start terminalId streamId maxReplayChars).Flowing := by
  refine ⟨(sound_start terminalId streamId maxReplayChars).ring,rfl,by rintro conn sub ⟨⟩,?_⟩
  intro conn
  exact ⟨fun _ => rfl,by rintro d ⟨⟩,by rintro sink session ⟨⟩⟩

section
variable {config : Config} {w : World} {conn : ConnId}

theorem World.Flowing.local (flowing : w.Flowing) {c : Connection} {sub : Option Subscriber}
    (staged : ∀ held, sub = some held → (held.pacedExitPending.isSome ↔ w.shared.status = .exited))
    (mine : c.Flowing (w.shared.setSubscriber conn sub) conn) :
    World.Flowing { w.setConnection conn c with shared := w.shared.setSubscriber conn sub } := by
  refine ⟨setSubscriber_sound flowing.ring conn sub,flowing.next,?_,?_⟩
  · intro other held present
    by_cases same : other = conn
    · subst same
      exact staged held (by simpa using present)
    · exact flowing.staged other held (by simpa [TerminalShared.setSubscriber,same] using present)
  · intro other
    by_cases same : other = conn
    · subst same
      simp only [setConnection_same]
      exact mine
    · simp only [setConnection_other w c same]
      exact (flowing.connections other).leads (leads_setSubscriber fun is => absurd is.symm same) rfl rfl fun _ _ => id

theorem World.Flowing.setConnection (flowing : w.Flowing) {c : Connection} (mine : c.Flowing w.shared conn) :
    (w.setConnection conn c).Flowing := by
  rw [← setSubscriber_self w.shared conn] at mine
  have stepped : World.Flowing { w.setConnection conn c with
      shared := w.shared.setSubscriber conn (w.shared.subscribers conn) } := flowing.local (flowing.staged conn) mine
  rw [setSubscriber_self] at stepped
  exact stepped

theorem leads_output (conn : ConnId) (flowing : w.Flowing) (running : w.shared.status = .running) (data : String) (scan : Scan) :
    (ingest w.shared (readerFrame w data scan) scan.modes).Sound ∧
      (ingest w.shared (readerFrame w data scan) scan.modes).headSeq = w.shared.headSeq + 1 ∧
      Leads conn w.shared (ingest w.shared (readerFrame w data scan) scan.modes) := by
  have start : (readerFrame w data scan).output.seqStart = w.shared.headSeq + 1 := flowing.next
  have single : (readerFrame w data scan).output.seqEnd = w.shared.headSeq + 1 := flowing.next
  have head : (ingest w.shared (readerFrame w data scan) scan.modes).headSeq = w.shared.headSeq + 1 := by
    rw [ingest_headSeq,single]
    omega
  obtain ⟨ring,oldest⟩ := sound_ingest scan.modes flowing.ring start single
  refine ⟨ring,head,⟨rfl,by rw [head]; omega,oldest,?_,id⟩⟩
  rw [running]
  rintro ⟨⟩

theorem flowing_output (flowing : w.Flowing) (data : String) (scan : Scan) : (output config w data scan).Flowing := by
  unfold output
  cases status : w.shared.status with
  | exited => exact flowing
  | running =>
    obtain ⟨ring,head,-⟩ := leads_output 0 flowing status data scan
    refine ⟨ring,by rw [head,flowing.next],flowing.staged,?_⟩
    · intro conn
      obtain ⟨busy,table,kept⟩ := fanOut_frame (fun sub => liveMessages config w.shared.terminalId sub (readerFrame w data scan))
        w.connections conn
      exact (flowing.connections conn).leads (leads_output conn flowing status data scan).2.2 busy table kept

theorem exit_exited {exitCode : Int} (exited : w.shared.status = .exited) : exit w exitCode = w := by
  have quiet : fanOut w.shared (exitFanOut w.shared exitCode) w.connections = w.connections := by
    funext conn
    unfold fanOut exitFanOut
    split
    · rfl
    · rw [exited]
      exact sunk_nil _
  unfold exit
  rw [quiet]
  simp [finishPtyExit,exited]

theorem flowing_exit (flowing : w.Flowing) (exitCode : Int) (timely : TimelyExit w (.exit exitCode)) :
    (exit w exitCode).Flowing := by
  cases status : w.shared.status with
  | exited => rwa [exit_exited status]
  | running =>
    have shared : (exit w exitCode).shared = finishPtyExit w.shared exitCode := rfl
    have exited : (finishPtyExit w.shared exitCode).status = .exited := by simp [finishPtyExit,status]
    have head : (finishPtyExit w.shared exitCode).headSeq = w.shared.headSeq := by simp [finishPtyExit,status]
    have replay : (finishPtyExit w.shared exitCode).replay = w.shared.replay := by simp [finishPtyExit,status]
    have gone : ∀ conn, w.shared.subscribers conn = none → (finishPtyExit w.shared exitCode).subscribers conn = none := by
      intro conn absent
      simp [finishPtyExit,status,absent]
    have unarmed : ∀ {session : PacedSession}, session.Reaches w.shared → session.Reaches (finishPtyExit w.shared exitCode) := by
      intro session reaches
      refine ⟨head ▸ reaches.target,?_⟩
      intro exitHead armed
      rw [(reaches.armed exitHead armed).1] at status
      cases status
    refine ⟨flowing.ring.congr replay head,?_,?_,?_⟩
    · rw [shared,head]
      exact flowing.next
    · intro conn sub present
      refine ⟨fun _ => exited,fun _ => ?_⟩
      have present : (finishPtyExit w.shared exitCode).subscribers conn = some sub := present
      simp only [finishPtyExit,status] at present
      obtain ⟨held,-,kept⟩ := Option.bind_eq_some_iff.mp present
      split at kept
      · obtain rfl := Option.some.inj kept
        rfl
      · cases kept
    · intro conn
      obtain ⟨busy,table,kept⟩ := fanOut_frame (s := w.shared) (exitFanOut w.shared exitCode) w.connections conn
      have mine := flowing.connections conn
      show (fanOut w.shared (exitFanOut w.shared exitCode) w.connections conn).Flowing (finishPtyExit w.shared exitCode) conn
      refine ⟨?_,?_,?_⟩
      · rw [busy,table]
        exact mine.alone
      · rw [busy]
        intro d there
        obtain ⟨reaches,flows⟩ := mine.busy d there
        have after := flows_exit status exited (oldestRetainedSeq_congr replay head) (gone conn) (fun _ => id)
          (timely status conn d there) flows
        exact ⟨unarmed reaches,flows_leads after leads_rfl (built_kept kept d.outbox)⟩
      · rw [table]
        intro sink session there
        obtain ⟨reaches,outstanding⟩ := mine.table sink session there
        exact ⟨unarmed reaches,outstanding.mono (kept _)⟩

/-- Whatever an attach makes of the subscriber, it has no exit staged and its
    terminal runs. -/
theorem attachToShared_subscriber (config : Config) (s : TerminalShared) (conn : ConnId) (sink : FrameSink) (req : AttachRequest) :
    ∃ sub, (attachToShared config s conn sink req).1 = s.setSubscriber conn sub ∧
      ∀ held, sub = some held → held.pacedExitPending = none ∧ s.status = .running := by
  unfold attachToShared
  cases path : pacedPath s req with
  | some arid =>
    refine ⟨_,rfl,?_⟩
    rintro held ⟨⟩
    exact ⟨rfl,(pacedPath_some path).2.1⟩
  | none =>
    simp only [inlineAttachToShared]
    cases status : s.status with
    | running => exact ⟨_,rfl,by rintro held ⟨⟩; exact ⟨rfl,rfl⟩⟩
    | exited => exact ⟨none,rfl,by rintro held ⟨⟩⟩

theorem attach_outstanding (config : Config) {s : TerminalShared} (ring : s.Sound) (sink : FrameSink) {req : AttachRequest}
    {start : PacedAttachStart} (started : (attachToShared config s conn sink req).2.2 = some start) :
    let session := PacedSession.fromDesc start.session
    (session.credited = session.pageEnd ∨ Outstanding start.firstPage session) ∧
      ∀ message ∈ start.firstPage, ∀ seq, pageLastSeq message = some seq →
        session.effectiveSince < session.pageEnd ∧ seq ≤ session.pageEnd := by
  unfold attachToShared at started
  cases path : pacedPath s req with
  | none =>
    rw [path] at started
    cases started
  | some arid =>
    rw [path] at started
    obtain rfl := Option.some.inj started
    obtain ⟨tiles,output,above,below⟩ := pacedFirstPage_spec config (subscriberOf sink req true) req ring
    by_cases room : baseline s req < s.headSeq
    · obtain ⟨advances,-⟩ := above room
      obtain ⟨before,page,split,ends⟩ := pageLastSeq_of_tiles output tiles advances
      refine ⟨.inr ⟨advances,page,?_,ends⟩,fun message member seq last => ⟨advances,pageLastSeq_le tiles member last⟩⟩
      show page ∈ pacedFirstPage config s _ req
      rw [split]
      exact List.mem_concat_self
    · obtain ⟨same,empty⟩ := below (Nat.le_of_not_lt room)
      refine ⟨.inl same.symm,?_⟩
      intro message member
      have member : message ∈ pacedFirstPage config s (subscriberOf sink req true) req := member
      rw [empty] at member
      cases member

theorem flowing_attach (flowing : w.Flowing) (req : AttachRequest) : (attach config w conn req).Flowing := by
  obtain ⟨sub,shared,fresh⟩ := attachToShared_subscriber config w.shared conn ⟨(w.connections conn).attaches⟩ req
  dsimp only [attach]
  rw [shared]
  refine flowing.local ?_ ⟨fun _ => rfl,?_,by rintro sink session ⟨⟩⟩
  · intro held present
    obtain ⟨unstaged,running⟩ := fresh held present
    rw [unstaged,running]
    simp
  · intro d started
    cases made : (attachToShared config w.shared conn ⟨(w.connections conn).attaches⟩ req).2.2 with
    | none =>
      rw [made] at started
      cases started
    | some start =>
      rw [made] at started
      obtain rfl := Option.some.inj started
      obtain ⟨flows,-⟩ := attach_outstanding config flowing.ring ⟨(w.connections conn).attaches⟩ made
      refine ⟨?_,flows.imp_right fun outstanding => outstanding.mono fun _ => List.mem_append_right _⟩
      unfold attachToShared at made
      cases path : pacedPath w.shared req with
      | none =>
        rw [path] at made
        cases made
      | some arid =>
        rw [path] at made
        obtain rfl := Option.some.inj made
        exact ⟨Nat.le_refl _,by rintro exitHead ⟨⟩⟩

/-- A turn of a drain leaves its connection's dispatcher and table alone, and keeps
    the staged exit of a subscriber that it leaves. -/
theorem drainTurn_frame (config : Config) (w : World) (conn : ConnId) (a : Nat) (d : Drain) :
    ∃ c sub, drainTurn config w conn a d = { w.setConnection conn c with shared := w.shared.setSubscriber conn sub } ∧
      (∀ held, sub = some held → ∃ before, w.shared.subscribers conn = some before ∧
        held.pacedExitPending = before.pacedExitPending) ∧
      c.busy = (w.connections conn).busy ∧ c.session = (w.connections conn).session ∧
      ∀ b, ∀ m ∈ (w.connections conn).sentFor b, m ∈ c.sentFor b := by
  have sunk : ∀ (sink : FrameSink) messages b, ∀ m ∈ (w.connections conn).sentFor b,
      m ∈ ((w.connections conn).sunk sink messages).sentFor b := by
    intro sink messages b m member
    rw [sentFor_sunk]
    exact List.mem_append_left _ member
  have own (c : Connection) : w.setConnection conn c =
      { w.setConnection conn c with shared := w.shared.setSubscriber conn (w.shared.subscribers conn) } := by
    rw [setSubscriber_self]
    rfl
  unfold drainTurn
  split
  · exact ⟨_,_,own _,fun held present => ⟨held,present,rfl⟩,rfl,rfl,sunk _ _⟩
  · split
    · exact ⟨_,_,own _,fun held present => ⟨held,present,rfl⟩,rfl,rfl,fun _ _ => id⟩
    · rename_i target captured
      obtain ⟨sub,shared,pending⟩ := drainHold_keeps config w.shared conn d target
      simp only
      rw [shared]
      refine ⟨_,sub,rfl,pending,?_,?_,?_⟩
      all_goals cases w.shared.subscribers conn
      any_goals rfl
      · exact fun _ _ => id
      · exact sunk _ _

theorem flowing_drain (flowing : w.Flowing) {a : Nat} (d : Drain) : (drainTurn config w conn a d).Flowing := by
  obtain ⟨c,sub,turn,pending,busy,table,kept⟩ := drainTurn_frame config w conn a d
  rw [turn]
  refine flowing.local ?_ ((flowing.connections conn).leads (leads_setSubscriber fun _ absent => ?_) busy table kept)
  · intro after there
    obtain ⟨before,present,same⟩ := pending after there
    rw [same]
    exact flowing.staged conn before present
  · cases there : sub with
    | none => rfl
    | some after =>
      obtain ⟨before,present,-⟩ := pending after there
      rw [absent] at present
      cases present

theorem flowing_step (flowing : w.Flowing) (label : Label) (timely : TimelyExit w label) : (step config w label).Flowing := by
  cases label with
  | output data scan => exact flowing_output flowing data scan
  | exit exitCode => exact flowing_exit flowing exitCode timely
  | attach conn req =>
    simp only [step]
    split
    · exact flowing_attach flowing req
    · exact flowing
  | credit conn credit =>
    simp only [step]
    split
    · exact flowing.setConnection (flowing_creditTurn flowing.ring flowing.staged (flowing.connections conn) credit)
    · exact flowing
  | exitNotify conn =>
    simp only [step]
    split
    · exact flowing.setConnection (flowing_exitNotifyTurn flowing.staged (flowing.connections conn))
    · exact flowing
  | detach conn | disconnect conn =>
    simp only [step]
    split
    · rename_i idle
      refine flowing.local (by rintro held ⟨⟩) ⟨fun _ => rfl,?_,by rintro sink session ⟨⟩⟩
      intro d busy
      have busy : (w.connections conn).busy = some d := busy
      rw [(idle_free idle).2] at busy
      cases busy
    · exact flowing
  | dispatch conn =>
    exact flowing.setConnection (flowing_dispatchTurn flowing.ring flowing.staged (flowing.connections conn))
  | drain conn a =>
    simp only [step]
    split
    · exact flowing
    · exact flowing_drain flowing _
  | cancelDrain conn a =>
    simp only [step]
    split
    · exact flowing
    · split
      · exact flowing.setConnection ((flowing.connections conn).leads leads_rfl rfl rfl fun _ _ => id)
      · exact flowing

end

/-- In every run in which no exit is processed while a dispatcher is stranded,
    each session in a table has a page outstanding. -/
theorem table_never_wedges (config : Config) (terminalId streamId : String) (maxReplayChars : Nat) {labels : List Label}
    (timely : Along (step config) TimelyExit (World.start terminalId streamId maxReplayChars) labels) (conn : ConnId)
    {sink : FrameSink} {session : PacedSession} :
    let c := (World.after config terminalId streamId maxReplayChars labels).connections conn
    c.session = some (sink,session) → Outstanding (c.sentFor sink.attach) session := by
  intro c held
  have kept : ∀ w label, World.Flowing w → TimelyExit w label → (step config w label).Flowing :=
    fun w label flowing timely => flowing_step flowing label timely
  have flowing := invariant_run kept (flowing_start terminalId streamId maxReplayChars) timely
  exact ((flowing.connections conn).table sink session held).2

/-- An exit that finds the first page outstanding, before its credit. -/
theorem table_never_wedges_exit :
    let scan : Scan := ⟨false,none,.ground,.ground,""⟩
    let waiting := [Label.output "a" scan,.output "b" scan,.output "c" scan,.attach 0 ⟨some "r",0,false,true,none,none⟩,
      .dispatch 0,.dispatch 0,.dispatch 0]
    Outstanding (((World.after pageByPage "t" "s" 3 (waiting ++ [.exit 0,.credit 0 ⟨"t","s","r",1⟩,.dispatch 0,.dispatch 0,
      .dispatch 0,.dispatch 0])).connections 0).sentFor 0) ⟨"t","s","r",3,0,1,2,5,some 3,2⟩ := by
  intro scan waiting
  have idle : ∀ conn, ((World.after pageByPage "t" "s" 3 waiting).connections conn).busy = none := by
    intro conn
    cases conn with
    | zero => decide
    | succ n => rfl
  have timely : Along (step pageByPage) TimelyExit (World.start "t" "s" 3) (waiting ++ [.exit 0,.credit 0 ⟨"t","s","r",1⟩,
      .dispatch 0,.dispatch 0,.dispatch 0,.dispatch 0]) := by
    refine (along_append (step pageByPage) TimelyExit _ waiting _).mpr ⟨?_,?_,trivial,trivial,trivial,trivial,trivial,trivial⟩
    · exact ⟨trivial,trivial,trivial,trivial,trivial,trivial,trivial,trivial⟩
    · intro _ conn d busy
      rw [show run (step pageByPage) (World.start "t" "s" 3) waiting = World.after pageByPage "t" "s" 3 waiting from rfl,idle]
        at busy
      cases busy
  have held : ((World.after pageByPage "t" "s" 3 (waiting ++ [.exit 0,.credit 0 ⟨"t","s","r",1⟩,.dispatch 0,.dispatch 0,
      .dispatch 0,.dispatch 0])).connections 0).session = some (⟨0⟩,⟨"t","s","r",3,0,1,2,5,some 3,2⟩) := by decide
  exact table_never_wedges pageByPage "t" "s" 3 timely 0 held

/-- A credit for the first page of three; before the drive reads on, the ring
    retains nothing below the fifth frame; and the exit comes before the
    settlement of that drive. -/
def strandedExit : List Label :=
  let scan : Scan := ⟨false,none,.ground,.ground,""⟩
  [.output "a" scan,.output "b" scan,.output "c" scan,.attach 0 ⟨some "r",0,false,true,none,none⟩,
    .dispatch 0,.dispatch 0,.dispatch 0,.credit 0 ⟨"t","s","r",1⟩,
    .output "d" scan,.output "e" scan,.output "f" scan,.output "g" scan,
    .dispatch 0,.dispatch 0,.dispatch 0,.exit 0,.dispatch 0,.dispatch 0]

/-- The table keeps a session whose cursor a gap moved to 4, beyond the page
    that ended at 1: no page is outstanding. -/
theorem strandedExit_wedges :
    let c := (World.after pageByPage "t" "s" 3 strandedExit).connections 0
    c.session = some (⟨0⟩,⟨"t","s","r",3,0,1,4,5,some 7,1⟩) ∧
      ¬ Outstanding (c.sentFor 0) ⟨"t","s","r",3,0,1,4,5,some 7,1⟩ := by
  have pages : ∀ page ∈ ((World.after pageByPage "t" "s" 3 strandedExit).connections 0).sentFor 0,
      pageLastSeq page ≠ some 4 := by decide
  refine ⟨by decide,?_⟩
  rintro ⟨-,page,sent,ends⟩
  exact pages page sent ends

end Freshell.Paced
