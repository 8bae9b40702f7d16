import Freshell.Paced.Drains

/-!
A session in the table waits for a credit, so a page of it must be outstanding.
The drive keeps this as long as it ends on a page; the settlement of an exit
takes the cursor's word for it, and the cursor may have been moved by a declared
loss alone.
-/
namespace Freshell.Paced
open Freshell.Terminal
set_option linter.unusedSimpArgs false

/-- A page was sent that ends at the cursor of the session and is not credited. -/
def Outstanding (messages : List ServerMessage) (session : PacedSession) : Prop :=
  session.credited < session.pageEnd ∧ ∃ page ∈ messages, pageLastSeq page = some session.pageEnd

/-- A declared loss moved the cursor of the session to where it is. -/
def Overrun (messages : List ServerMessage) (session : PacedSession) : Prop :=
  session.credited < session.pageEnd ∧
    ∃ gap : TerminalOutputGap, .terminalOutputGap gap ∈ messages ∧ gap.toSeq = session.pageEnd

/-- The dispatcher has accounted for the rest of the credited range by a loss, or
    will: its next read finds nothing of the range retained. -/
def Stranded (s : TerminalShared) (sent : List ServerMessage) (d : Dispatch) : Prop :=
  match d.task with
  | .drive _ => d.session.phaseTarget < s.oldestRetainedSeq
  | .settle .drainReady => Overrun (sent ++ d.outbox) d.session
  | _ => False

/-- No exit is processed while the dispatcher of a connection is stranded. -/
def TimelyExit (w : World) : Label → Prop
  | .exit _ => w.shared.status = .running → ∀ conn d, (w.connections conn).busy = some d →
      ¬ Stranded w.shared ((w.connections conn).sentFor d.sink.attach) d
  | _ => True

theorem Outstanding.mono {messages messages' : List ServerMessage} {session : PacedSession}
    (outstanding : Outstanding messages session) (kept : ∀ m ∈ messages, m ∈ messages') : Outstanding messages' session := by
  obtain ⟨uncredited,page,sent,ends⟩ := outstanding
  exact ⟨uncredited,page,kept page sent,ends⟩

theorem Overrun.mono {messages messages' : List ServerMessage} {session : PacedSession}
    (overrun : Overrun messages session) (kept : ∀ m ∈ messages, m ∈ messages') : Overrun messages' session := by
  obtain ⟨uncredited,gap,sent,ends⟩ := overrun
  exact ⟨uncredited,gap,kept _ sent,ends⟩

def Staged (s : TerminalShared) : Prop :=
  ∀ conn sub, s.subscribers conn = some sub → (sub.pacedExitPending.isSome ↔ s.status = .exited)

structure PacedSession.Reaches (s : TerminalShared) (session : PacedSession) : Prop where
  target : session.target ≤ s.headSeq
  armed : ∀ exitHead, session.exitHead = some exitHead → s.status = .exited ∧ exitHead = s.headSeq

section
variable {s : TerminalShared} {conn : ConnId} {session : PacedSession}

theorem PacedSession.Reaches.phaseTarget_of_armed (reaches : session.Reaches s) (armed : session.exitHead = some s.headSeq) :
    session.phaseTarget = s.headSeq := by
  rw [PacedSession.phaseTarget,armed]
  exact Nat.max_eq_right reaches.target

theorem PacedSession.Reaches.phaseTarget_le (reaches : session.Reaches s) : session.phaseTarget ≤ s.headSeq := by
  cases exitHead : session.exitHead with
  | none =>
    rw [PacedSession.phaseTarget,exitHead]
    exact reaches.target
  | some head =>
    obtain ⟨-,rfl⟩ := reaches.armed head exitHead
    exact Nat.le_of_eq (reaches.phaseTarget_of_armed exitHead)

theorem pacedExitTransition_staged (staged : Staged s) {exitHead : Nat} (transition : pacedExitTransition s conn = some exitHead) :
    s.status = .exited ∧ exitHead = s.headSeq := by
  unfold pacedExitTransition at transition
  obtain ⟨exitCode,pending,rfl⟩ := Option.map_eq_some_iff.mp transition
  obtain ⟨sub,present,code⟩ := Option.bind_eq_some_iff.mp pending
  exact ⟨(staged conn sub present).mp (by rw [code]; rfl),rfl⟩

theorem pacedExitTransition_none (staged : Staged s) (exited : s.status = .exited) (transition : pacedExitTransition s conn = none) :
    s.subscribers conn = none := by
  cases present : s.subscribers conn with
  | none => rfl
  | some sub =>
    obtain ⟨exitCode,pending⟩ := Option.isSome_iff_exists.mp ((staged conn sub present).mpr exited)
    simp [pacedExitTransition,present,pending] at transition

theorem PacedSession.Reaches.armStagedExit (reaches : session.Reaches s) (exited : s.status = .exited) :
    (session.armStagedExit s.headSeq).Reaches s ∧ (session.armStagedExit s.headSeq).exitHead = some s.headSeq := by
  have armed : (session.armStagedExit s.headSeq).exitHead = some s.headSeq := by
    unfold PacedSession.armStagedExit
    cases exitHead : session.exitHead with
    | none => rfl
    | some head =>
      obtain ⟨-,rfl⟩ := reaches.armed head exitHead
      simp
  refine ⟨⟨reaches.target,?_⟩,armed⟩
  intro exitHead same
  exact ⟨exited,Option.some.inj (same.symm.trans armed)⟩

theorem PacedSession.Reaches.armFromRegistry (conn : ConnId) (staged : Staged s) (reaches : session.Reaches s) :
    (armStagedExitFromRegistry s conn session).Reaches s ∧
      (s.status = .exited → s.subscribers conn = none ∨
        (armStagedExitFromRegistry s conn session).exitHead = some s.headSeq) := by
  obtain ⟨same,before⟩ | ⟨-,exitHead,transition,armed⟩ := armStagedExitFromRegistry_cases s conn session
  · rw [same]
    refine ⟨reaches,?_⟩
    intro exited
    obtain before | unstaged := before
    · obtain ⟨head,armed⟩ := Option.isSome_iff_exists.mp before
      obtain ⟨-,rfl⟩ := reaches.armed head armed
      exact .inr armed
    · exact .inl (pacedExitTransition_none staged exited unstaged)
  · rw [armed]
    obtain ⟨exited,rfl⟩ := pacedExitTransition_staged staged transition
    obtain ⟨within,head⟩ := reaches.armStagedExit exited
    exact ⟨within,fun _ => .inr head⟩

end

/-- Where the session under the dispatcher stands when its task comes up, with
    `built` all that was sent or is about to be: a read of the drive finds a page,
    or a loss first and then a page, unless the range is lost to its end while
    the terminal runs. -/
def Flows (s : TerminalShared) (conn : ConnId) (built : List ServerMessage) (session : PacedSession) : Task → Prop
  | .start => session.credited = session.pageEnd ∨ Outstanding built session
  | .drive guard => session.credited ≤ session.pageEnd ∧ (s.subscribers conn = none ∨
      (s.status = .running ∧ guard = false ∧ (session.pageEnd < session.phaseTarget ∨
        Overrun built session ∧ session.phaseTarget < s.oldestRetainedSeq)) ∨
      (s.status = .exited ∧ session.pageEnd < session.phaseTarget ∧ s.oldestRetainedSeq ≤ session.phaseTarget))
  | .settle .active | .dispose .stay => Outstanding built session
  | .settle .drainReady => Outstanding built session ∨ session.credited = session.pageEnd ∨
      s.status = .running ∧ Overrun built session
  | .settle .gone | .dispose .transfer | .dispose .gone => True

section
variable {config : Config} {s : TerminalShared} {conn : ConnId} {sent built : List ServerMessage} {session : PacedSession}

theorem flows_outstanding (outstanding : Outstanding built session) (guard : Bool) (outcome : DriveOutcome) :
    Flows s conn built session (afterDrive session guard outcome) := by
  cases guard with
  | false =>
    cases outcome with
    | active => exact outstanding
    | drainReady => exact .inl outstanding
    | gone => exact trivial
  | true =>
    cases outcome with
    | active => exact outstanding
    | drainReady =>
      show Flows s conn built session (.dispose (if _ then _ else _))
      rw [if_pos outstanding.1]
      exact outstanding
    | gone => exact trivial

theorem flows_gone (guard : Bool) : Flows s conn built session (afterDrive session guard .gone) := by
  cases guard <;> exact trivial

/-- The drive of a session that has nothing outstanding, or all that it had to send. -/
theorem flows_enterDrive (ring : s.Sound) (reaches : session.Reaches s)
    (armed : s.status = .exited → s.subscribers conn = none ∨ session.exitHead = some s.headSeq)
    (stands : session.credited = session.pageEnd ∨ session.phaseTarget ≤ session.pageEnd ∧ Outstanding built session) :
    Flows s conn built session (enterDrive session false) := by
  unfold enterDrive
  split
  · rename_i below
    have credited : session.credited = session.pageEnd := stands.resolve_right fun covered => by omega
    refine ⟨Nat.le_of_eq credited,?_⟩
    cases status : s.status with
    | running => exact .inr (.inl ⟨rfl,rfl,.inl below⟩)
    | exited =>
      refine (armed status).imp_right fun head => .inr ⟨rfl,below,?_⟩
      rw [reaches.phaseTarget_of_armed head] at below ⊢
      exact ring.oldest_le_head (by omega)
  · exact stands.elim (fun credited => .inr (.inl credited)) fun covered => .inl covered.2

theorem nextReplayPage_cases (config : Config) (conn : ConnId) (ring : s.Sound) (fromSeq budget : Nat) {target : Nat} (reachable : target ≤ s.headSeq) :
    nextReplayPage config s conn fromSeq target budget = .gone ∨
      s.subscribers conn ≠ none ∧
        ((target ≤ fromSeq ∧ nextReplayPage config s conn fromSeq target budget = .done) ∨
          (fromSeq < target ∧ fromSeq + 1 < s.oldestRetainedSeq ∧ nextReplayPage config s conn fromSeq target budget =
            .expired (fromSeq + 1) (s.oldestRetainedSeq - 1) (s.oldestRetainedSeq - 1) s.headSeq s.oldestRetainedSeq) ∨
          (∃ messages endSeq, nextReplayPage config s conn fromSeq target budget = .frames messages endSeq ∧
            fromSeq < endSeq ∧ (∀ message ∈ messages, ∀ seq, pageLastSeq message = some seq → seq ≤ endSeq) ∧
            ∃ page ∈ messages, pageLastSeq page = some endSeq)) := by
  cases present : s.subscribers conn with
  | none => exact .inl (by simp [nextReplayPage,present])
  | some sub =>
    cases paced : sub.pacedTerminalReplayV1 with
    | false => exact .inl (by simp [nextReplayPage,present,paced])
    | true =>
      refine .inr ⟨by simp,?_⟩
      obtain done | expired | ⟨messages,endSeq,frames,tiles,advances,-,output⟩ :=
        nextReplayPage_spec config fromSeq budget ring present paced reachable
      · exact .inl done
      · exact .inr (.inl expired)
      · obtain ⟨before,page,rfl,ends⟩ := pageLastSeq_of_tiles output tiles advances
        exact .inr (.inr ⟨_,endSeq,frames,advances,fun _ member _ => pageLastSeq_le tiles member,page,by simp,ends⟩)

/-- A page read keeps the flow: a page is outstanding, and a loss leaves room
    for one unless it took the rest of the range of a running terminal. -/
theorem flows_driveTurn (config : Config) (ring : s.Sound) {d : Dispatch} {guard : Bool} (task : d.task = .drive guard)
    (reaches : d.session.Reaches s) (empty : d.outbox = [])
    (flows : Flows s conn built d.session (.drive guard)) :
    (driveTurn config s conn d guard).session.Reaches s ∧
      Flows s conn (built ++ (driveTurn config s conn d guard).outbox) (driveTurn config s conn d guard).session
        (driveTurn config s conn d guard).task := by
  obtain ⟨credited,stands⟩ := flows
  unfold driveTurn
  obtain gone | ⟨present,⟨covered,done⟩ | ⟨below,lost,expired⟩ | ⟨messages,endSeq,frames,advances,-,page,member,ends⟩⟩ :=
    nextReplayPage_cases config conn ring d.session.pageEnd d.session.pageBudget reaches.phaseTarget_le
  · rw [gone]
    exact ⟨reaches,flows_gone guard⟩
  · rw [done]
    refine ⟨reaches,?_⟩
    obtain absent | ⟨running,rfl,below | ⟨overrun,-⟩⟩ | ⟨-,below,-⟩ := stands
    · exact absurd absent present
    · omega
    · simp only
      rw [empty,List.append_nil]
      exact .inr (.inr ⟨running,overrun⟩)
    · omega
  · rw [expired]
    refine ⟨⟨reaches.target,reaches.armed⟩,?_⟩
    have overrun : Overrun (built ++ [retentionGap d.session (d.session.pageEnd + 1) (s.oldestRetainedSeq - 1) s.headSeq
        s.oldestRetainedSeq]) (d.session.resumed (s.oldestRetainedSeq - 1)) := by
      refine ⟨?_,_,List.mem_append_right _ (List.mem_singleton.mpr rfl),rfl⟩
      show d.session.credited < s.oldestRetainedSeq - 1
      omega
    show Flows s conn _ _ d.task
    rw [task]
    refine ⟨Nat.le_of_lt overrun.1,.inr ?_⟩
    obtain absent | ⟨running,plain,-⟩ | ⟨exited,-,within⟩ := stands
    · exact absurd absent present
    · refine .inl ⟨running,plain,?_⟩
      by_cases inside : s.oldestRetainedSeq - 1 < d.session.phaseTarget
      · exact .inl inside
      · refine .inr ⟨overrun,?_⟩
        show d.session.phaseTarget < s.oldestRetainedSeq
        omega
    · refine .inr ⟨exited,?_,within⟩
      show s.oldestRetainedSeq - 1 < d.session.phaseTarget
      omega
  · rw [frames]
    refine ⟨⟨reaches.target,reaches.armed⟩,?_⟩
    apply flows_outstanding
    refine ⟨?_,page,List.mem_append_right _ member,ends⟩
    show d.session.credited < endSeq
    omega

/-- The settlement keeps the flow: an exited terminal has no drive that ended on a loss. -/
theorem flows_settleTurn (ring : s.Sound) (staged : Staged s) {d : Dispatch} {outcome : DriveOutcome}
    (reaches : d.session.Reaches s) (flows : Flows s conn built d.session (.settle outcome)) :
    (settleTurn s conn d outcome).session.Reaches s ∧
      Flows s conn built (settleTurn s conn d outcome).session (settleTurn s conn d outcome).task := by
  unfold settleTurn
  cases transition : pacedExitTransition s conn with
  | none =>
    refine ⟨reaches,?_⟩
    cases outcome with
    | active => exact flows
    | drainReady | gone => exact trivial
  | some exitHead =>
    obtain ⟨exited,rfl⟩ := pacedExitTransition_staged staged transition
    obtain ⟨reaches',armed⟩ := reaches.armStagedExit exited
    refine ⟨reaches',?_⟩
    have running : s.status ≠ .running := by simp [exited]
    simp only
    split
    · exact trivial
    · split
      · rename_i present uncredited
        have uncredited : d.session.credited < d.session.pageEnd := uncredited
        cases outcome with
        | gone => exact absurd rfl present
        | active => exact flows
        | drainReady =>
          obtain outstanding | credited | ⟨still,-⟩ := flows
          · exact outstanding
          · omega
          · exact absurd still running
      · rename_i present acknowledged
        have acknowledged : d.session.pageEnd ≤ d.session.credited := Nat.le_of_not_lt acknowledged
        split
        · rename_i below
          have below : d.session.pageEnd < s.headSeq := below
          have credited : d.session.credited ≤ d.session.pageEnd := by
            cases outcome with
            | gone => exact absurd rfl present
            | active =>
              have := flows.1
              omega
            | drainReady =>
              obtain outstanding | credited | ⟨still,-⟩ := flows
              · have := outstanding.1
                omega
              · omega
              · exact absurd still running
          unfold enterDrive
          rw [reaches'.phaseTarget_of_armed armed,armed_pageEnd,if_pos below]
          refine ⟨credited,.inr (.inr ⟨exited,?_⟩)⟩
          rw [reaches'.phaseTarget_of_armed armed]
          exact ⟨below,ring.oldest_le_head (by omega)⟩
        · exact trivial

/-- The session under the dispatcher flows; the one in the table has a page outstanding. -/
structure Connection.Flowing (s : TerminalShared) (conn : ConnId) (c : Connection) : Prop where
  alone : c.busy.isSome → c.session = none
  busy : ∀ d, c.busy = some d → d.session.Reaches s ∧
    Flows s conn (c.sentFor d.sink.attach ++ d.outbox) d.session d.task
  table : ∀ sink session, c.session = some (sink,session) → session.Reaches s ∧ Outstanding (c.sentFor sink.attach) session

variable {c : Connection}

theorem flowing_taken {d : Dispatch} (idle : c.session = none) (busy : c.busy = some d) (reaches : d.session.Reaches s)
    (flows : Flows s conn (c.sentFor d.sink.attach ++ d.outbox) d.session d.task) : c.Flowing s conn := by
  refine ⟨fun _ => idle,?_,by rw [idle]; rintro _ _ ⟨⟩⟩
  intro d' same
  obtain rfl := Option.some.inj (busy.symm.trans same)
  exact ⟨reaches,flows⟩

theorem flowing_startTurn (ring : s.Sound) (staged : Staged s) {d : Dispatch} (reaches : d.session.Reaches s)
    (flows : Flows s conn built d.session .start) :
    (startTurn s conn d).session.Reaches s ∧ Flows s conn built (startTurn s conn d).session (startTurn s conn d).task := by
  obtain ⟨reaches',armed⟩ := reaches.armFromRegistry conn staged
  refine ⟨reaches',?_⟩
  have stands : (armStagedExitFromRegistry s conn d.session).credited = (armStagedExitFromRegistry s conn d.session).pageEnd ∨
      Outstanding built (armStagedExitFromRegistry s conn d.session) := by
    unfold Outstanding
    rw [armFromRegistry_credited,armFromRegistry_pageEnd]
    exact flows
  unfold startTurn
  simp only
  split
  · rename_i waits
    exact stands.resolve_left (Nat.ne_of_lt waits.2)
  · rename_i free
    apply flows_enterDrive ring reaches' armed
    refine stands.imp_right fun outstanding => ⟨?_,outstanding⟩
    have := outstanding.1
    omega

theorem flowing_dispatchTurn (ring : s.Sound) (staged : Staged s) (flowing : c.Flowing s conn) : (dispatchTurn config s conn c).Flowing s conn := by
  unfold dispatchTurn
  cases busy : c.busy with
  | none => exact flowing
  | some d =>
    obtain ⟨reaches,flows⟩ := flowing.busy d busy
    have cleared : c.session = none := flowing.alone (by rw [busy]; rfl)
    simp only
    cases outbox : d.outbox with
    | cons message rest =>
      refine flowing_taken cleared rfl reaches ?_
      show Flows s conn ((c.sunk d.sink [message]).sentFor d.sink.attach ++ rest) d.session d.task
      rw [sentFor_sunk,if_pos rfl,List.append_assoc]
      rw [outbox] at flows
      exact flows
    | nil =>
      rw [outbox,List.append_nil] at flows
      simp only
      cases task : d.task with
      | start =>
        rw [task] at flows
        obtain ⟨reaches',flows'⟩ := flowing_startTurn ring staged reaches flows
        refine flowing_taken cleared rfl reaches' ?_
        show Flows s conn (c.sentFor d.sink.attach ++ d.outbox) _ _
        rw [outbox,List.append_nil]
        exact flows'
      | drive guard =>
        rw [task] at flows
        obtain ⟨reaches',flows'⟩ := flows_driveTurn config ring task reaches outbox flows
        refine flowing_taken cleared rfl reaches' ?_
        rw [show (driveTurn config s conn d guard).sink = d.sink by unfold driveTurn; split <;> rfl]
        exact flows'
      | settle outcome =>
        rw [task] at flows
        obtain ⟨reaches',flows'⟩ := flows_settleTurn ring staged reaches flows
        refine flowing_taken cleared rfl reaches' ?_
        rw [show (settleTurn s conn d outcome).sink = d.sink by unfold settleTurn; split <;> rfl,
          show (settleTurn s conn d outcome).outbox = [] by unfold settleTurn; split <;> exact outbox,List.append_nil]
        exact flows'
      | dispose disposition =>
        rw [task] at flows
        cases disposition with
        | stay =>
          refine ⟨by rintro ⟨⟩,by rintro _ ⟨⟩,?_⟩
          rintro sink session ⟨⟩
          exact ⟨reaches,flows⟩
        | transfer =>
          refine ⟨by rintro ⟨⟩,by rintro _ ⟨⟩,?_⟩
          rw [show (disposeTurn c d .transfer).session = none from cleared]
          rintro sink session ⟨⟩
        | gone =>
          refine ⟨by rintro ⟨⟩,by rintro _ ⟨⟩,?_⟩
          rw [show (disposeTurn c d .gone).session = none from cleared]
          rintro sink session ⟨⟩

theorem flowing_creditTurn (ring : s.Sound) (staged : Staged s) (flowing : c.Flowing s conn)
    (credit : TerminalReplayCredit) : (creditTurn s conn c credit).Flowing s conn := by
  unfold creditTurn
  cases held : c.session with
  | none => exact flowing
  | some entry =>
    obtain ⟨sink,session⟩ := entry
    simp only
    obtain ⟨accepted,granted⟩ | ⟨refused,-⟩ := validateCredit_session session credit
    · rw [if_pos accepted,granted]
      obtain ⟨reaches,-⟩ := flowing.table sink session held
      have reaches : (session.granted session.pageEnd).Reaches s := ⟨reaches.target,reaches.armed⟩
      obtain ⟨reaches',armed⟩ := reaches.armFromRegistry conn staged
      refine flowing_taken rfl rfl reaches' (flows_enterDrive ring reaches' armed (.inl ?_))
      rw [armFromRegistry_credited,armFromRegistry_pageEnd]
      rfl
    · rw [if_neg refused]
      exact flowing

theorem flowing_exitNotifyTurn (staged : Staged s) (flowing : c.Flowing s conn) : (exitNotifyTurn s conn c).Flowing s conn := by
  unfold exitNotifyTurn
  refine ⟨?_,flowing.busy,?_⟩
  · intro busy
    show c.session.map _ = none
    rw [flowing.alone busy]
    rfl
  · intro sink session there
    obtain ⟨⟨sink',before⟩,held,same⟩ := Option.map_eq_some_iff.mp (show c.session.map _ = _ from there)
    obtain ⟨rfl,rfl⟩ := Prod.mk.inj same
    obtain ⟨reaches,uncredited,page,sent,ends⟩ := flowing.table sink' before held
    refine ⟨(reaches.armFromRegistry conn staged).1,?_,page,sent,?_⟩
    · rw [armFromRegistry_credited,armFromRegistry_pageEnd]
      exact uncredited
    · rw [armFromRegistry_pageEnd]
      exact ends

end
end Freshell.Paced
