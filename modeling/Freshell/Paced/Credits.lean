import Freshell.Paced.NeverWedges
import Mathlib.Data.List.Chain

/-!
A book beside every connection of the pages that its session was granted, with the
credit that each was granted by. As long as no exit is processed while a dispatcher
is stranded, one page at most is unacknowledged, each later page was granted by the
credit for the end of the page before it, and no other credit is taken.
-/
namespace Freshell.Paced
open Freshell.Terminal Freshell.Library.Runs
set_option linter.unusedSimpArgs false

/-- A page of a session, and the credit that granted it. The first page comes with
    the attach. -/
structure Page where
  endSeq : Nat
  grantedBy : Option TerminalReplayCredit
deriving DecidableEq, Repr

/-- What was granted to the session of a connection: its pages, the messages built
    for it, and the credit that was accepted last. -/
structure Book where
  pages : List Page
  built : List ServerMessage
  credit : Option TerminalReplayCredit

namespace Book

def closed : Book := ⟨[],[],none⟩

/-- The book of a session that a paced attach starts. -/
def opened (firstPage : List ServerMessage) (session : PacedSession) : Book where
  pages := if session.effectiveSince < session.pageEnd then [⟨session.pageEnd,none⟩] else []
  built := firstPage
  credit := none

def attached (book : Book) (config : Config) (s : TerminalShared) (conn : ConnId) (sink : FrameSink) (req : AttachRequest) :
    Book :=
  match (attachToShared config s conn sink req).2.2 with
  | some start => opened start.firstPage (.fromDesc start.session)
  | none => book

def credited (book : Book) (c : Connection) (credit : TerminalReplayCredit) : Book :=
  match c.session with
  | some (_,session) => if (validateCredit session credit).2 = .accepted then { book with credit := some credit } else book
  | none => book

/-- A page read: a page is granted by the credit that the drive was for. -/
def driven (book : Book) (config : Config) (s : TerminalShared) (conn : ConnId) (d : Dispatch) (guard : Bool) : Book where
  pages :=
    match nextReplayPage config s conn d.session.pageEnd d.session.phaseTarget d.session.pageBudget with
    | .frames _ endSeq => book.pages ++ [⟨endSeq,book.credit⟩]
    | _ => book.pages
  built := book.built ++ (driveTurn config s conn d guard).outbox
  credit := book.credit

def dispatched (book : Book) (config : Config) (s : TerminalShared) (conn : ConnId) (c : Connection) : Book :=
  match c.busy with
  | none => book
  | some d =>
    match d.outbox, d.task with
    | [], .drive guard => book.driven config s conn d guard
    | _, _ => book

def after (book : Book) (config : Config) (w : World) (conn : ConnId) : Label → Book
  | .attach other req =>
    if other = conn ∧ (w.connections conn).idle then
      book.attached config w.shared conn ⟨(w.connections conn).attaches⟩ req
    else book
  | .credit other credit =>
    if other = conn ∧ (w.connections conn).idle then book.credited (w.connections conn) credit else book
  | .dispatch other => if other = conn then book.dispatched config w.shared conn (w.connections conn) else book
  | _ => book

end Book

structure Audit where
  world : World
  books : ConnId → Book

def Audit.step (config : Config) (a : Audit) (label : Label) : Audit where
  world := Paced.step config a.world label
  books conn := (a.books conn).after config a.world conn label

def Audit.after (config : Config) (terminalId streamId : String) (maxReplayChars : Nat) (labels : List Label) : Audit :=
  run (Audit.step config) ⟨.start terminalId streamId maxReplayChars,fun _ => .closed⟩ labels

def FollowsOn (attachRequestId streamId : String) (earlier later : Page) : Prop :=
  earlier.endSeq < later.endSeq ∧ ∃ credit, later.grantedBy = some credit ∧ credit.attachRequestId = attachRequestId ∧
    credit.streamId = streamId ∧ credit.consumedSeq = earlier.endSeq

/-- Of the pages of a session one at most is unacknowledged, the first came with the
    attach, and each later one by the credit for the one before it. -/
structure Book.Disciplined (book : Book) (session : PacedSession) : Prop where
  numbered : session.pages = book.pages.length
  single : (book.pages.filter fun page => session.credited < page.endSeq).length ≤ 1
  first : ∀ page, book.pages.head? = some page → page.grantedBy = none
  granted : book.pages.IsChain (FollowsOn session.attachRequestId session.streamId)

def Book.Awaits (book : Book) (session : PacedSession) (credit : TerminalReplayCredit) : Prop :=
  credit.attachRequestId = session.attachRequestId ∧ credit.streamId = session.streamId ∧
    ∃ page ∈ book.pages, session.credited < page.endSeq ∧ page.endSeq = credit.consumedSeq

/-- The session of a connection, in its table or under its dispatcher. -/
def Connection.Holds (c : Connection) (session : PacedSession) : Prop :=
  (∃ sink, c.session = some (sink,session)) ∨ ∃ d, c.busy = some d ∧ d.session = session

/-! ## The book of one session -/

namespace Book
variable {book : Book} {session session' : PacedSession}

structure Kept (book : Book) (session : PacedSession) : Prop where
  numbered : session.pages = book.pages.length
  first : ∀ page, book.pages.head? = some page → page.grantedBy = none
  granted : book.pages.IsChain (FollowsOn session.attachRequestId session.streamId)
  reach : ∀ page ∈ book.pages, page.endSeq ≤ session.pageEnd
  ends : ∀ message ∈ book.built, ∀ seq, pageLastSeq message = some seq → ∃ page ∈ book.pages, seq ≤ page.endSeq

structure Due (book : Book) (session : PacedSession) : Prop where
  acknowledged : ∀ page ∈ book.pages, page.endSeq ≤ session.credited
  uncredited : book.pages = [] → book.credit = none
  credited : ∀ page, book.pages.getLast? = some page → ∃ credit, book.credit = some credit ∧
    credit.attachRequestId = session.attachRequestId ∧ credit.streamId = session.streamId ∧ credit.consumedSeq = page.endSeq

def Open (book : Book) (session : PacedSession) : Prop :=
  ∃ before page, book.pages = before ++ [page] ∧ (∀ earlier ∈ before, earlier.endSeq ≤ session.credited) ∧
    session.credited < page.endSeq

/-- What a step that grants nothing leaves of a session. -/
structure Carries (session session' : PacedSession) : Prop where
  pages : session'.pages = session.pages
  attachRequestId : session'.attachRequestId = session.attachRequestId
  streamId : session'.streamId = session.streamId
  credited : session'.credited = session.credited
  pageEnd : session.pageEnd ≤ session'.pageEnd

theorem Kept.carries (kept : book.Kept session) (carries : Carries session session') : book.Kept session' where
  numbered := carries.pages.trans kept.numbered
  first := kept.first
  granted := by
    rw [carries.attachRequestId,carries.streamId]
    exact kept.granted
  reach page member := Nat.le_trans (kept.reach page member) carries.pageEnd
  ends := kept.ends

theorem Due.carries (due : book.Due session) (carries : Carries session session') : book.Due session' where
  acknowledged := by
    rw [carries.credited]
    exact due.acknowledged
  uncredited := due.uncredited
  credited := by
    rw [carries.attachRequestId,carries.streamId]
    exact due.credited

theorem Open.carries (open_ : book.Open session) (carries : Carries session session') : book.Open session' := by
  obtain ⟨before,page,pages,acknowledged,waits⟩ := open_
  rw [← carries.credited] at acknowledged waits
  exact ⟨before,page,pages,acknowledged,waits⟩

theorem Kept.open_lt (kept : book.Kept session) (open_ : book.Open session) : session.credited < session.pageEnd := by
  obtain ⟨before,page,pages,-,waits⟩ := open_
  have within_ := kept.reach page (by rw [pages]; exact List.mem_concat_self)
  omega

theorem Kept.outstanding (kept : book.Kept session) (stands : book.Due session ∨ book.Open session)
    (outstanding : Outstanding book.built session) : ∃ before page, book.pages = before ++ [page] ∧
      (∀ earlier ∈ before, earlier.endSeq ≤ session.credited) ∧ page.endSeq = session.pageEnd := by
  obtain ⟨uncredited,message,built,ends⟩ := outstanding
  obtain ⟨last,member,above⟩ := kept.ends message built _ ends
  have within_ := kept.reach last member
  obtain due | ⟨before,page,pages,acknowledged,waits⟩ := stands
  · have := due.acknowledged last member
    omega
  · refine ⟨before,page,pages,acknowledged,?_⟩
    rw [pages] at member
    obtain earlier | mine := List.mem_append.mp member
    · have := acknowledged last earlier
      omega
    · rw [List.mem_singleton] at mine
      subst mine
      omega

theorem Kept.granting (kept : book.Kept session) (due : book.Due session) {messages : List ServerMessage} {endSeq : Nat}
    (credited : session.credited ≤ session.pageEnd) (advances : session.pageEnd < endSeq)
    (within_ : ∀ message ∈ messages, ∀ seq, pageLastSeq message = some seq → seq ≤ endSeq) :
    let granted : Book := ⟨book.pages ++ [⟨endSeq,book.credit⟩],book.built ++ messages,book.credit⟩
    granted.Kept (session.paged endSeq) ∧ granted.Open (session.paged endSeq) := by
  intro granted
  refine ⟨⟨?_,?_,?_,?_,?_⟩,book.pages,⟨endSeq,book.credit⟩,rfl,due.acknowledged,?_⟩
  · show session.pages + 1 = (book.pages ++ [_]).length
    rw [kept.numbered,List.length_append]
    rfl
  · intro page leads
    cases pages : book.pages with
    | nil =>
      simp only [granted,pages,List.nil_append,List.head?_cons,Option.some.injEq] at leads
      rw [← leads]
      exact due.uncredited pages
    | cons earlier rest =>
      simp only [granted,pages,List.cons_append,List.head?_cons,Option.some.injEq] at leads
      exact kept.first page (by rw [pages,List.head?_cons,leads])
  · refine List.isChain_append.mpr ⟨kept.granted,List.isChain_singleton _,?_⟩
    intro earlier last page mine
    obtain rfl : (⟨endSeq,book.credit⟩ : Page) = page := by simpa using mine
    refine ⟨?_,due.credited earlier last⟩
    exact Nat.lt_of_le_of_lt (kept.reach earlier (List.mem_of_mem_getLast? last)) advances
  · intro page member
    obtain earlier | mine := List.mem_append.mp member
    · exact Nat.le_trans (kept.reach page earlier) (Nat.le_of_lt advances)
    · rw [List.mem_singleton.mp mine]
      exact Nat.le_refl _
  · intro message member seq ends
    obtain before | now := List.mem_append.mp member
    · obtain ⟨page,listed,above⟩ := kept.ends message before seq ends
      exact ⟨page,List.mem_append_left _ listed,above⟩
    · exact ⟨_,List.mem_append_right _ (List.mem_singleton.mpr rfl),within_ message now seq ends⟩
  · exact Nat.lt_of_le_of_lt credited advances

theorem Kept.disciplined (kept : book.Kept session) (stands : book.Due session ∨ book.Open session) :
    book.Disciplined session := by
  refine ⟨kept.numbered,?_,kept.first,kept.granted⟩
  obtain due | ⟨before,page,pages,acknowledged,-⟩ := stands
  · rw [List.filter_eq_nil_iff.mpr]
    · exact Nat.zero_le _
    · intro page member
      have := due.acknowledged page member
      simpa using this
  · have earlier : before.filter (fun page => session.credited < page.endSeq) = [] := by
      rw [List.filter_eq_nil_iff]
      intro page member
      have := acknowledged page member
      simpa using this
    rw [pages,List.filter_append,earlier,List.nil_append]
    exact List.length_filter_le _ _

end Book

/-! ## The dispatcher -/

structure Stands (s : TerminalShared) (conn : ConnId) (book : Book) (session : PacedSession) (task : Task) : Prop where
  flows : Flows s conn book.built session task
  kept : book.Kept session
  stands : book.Due session ∨ book.Open session
  due : ∀ guard, task = .drive guard → book.Due session

section
variable {config : Config} {s s' : TerminalShared} {conn : ConnId} {book : Book} {session session' : PacedSession} {task : Task}

theorem Stands.carries {before : Task} (stands : Stands s conn book session before) (carries : Book.Carries session session')
    (flows : Flows s conn book.built session' task)
    (drives : ∀ guard, task = .drive guard → session'.pageEnd ≤ session'.credited) : Stands s conn book session' task := by
  have kept := stands.kept.carries carries
  have either : book.Due session' ∨ book.Open session' :=
    stands.stands.imp (fun due => due.carries carries) fun open_ => open_.carries carries
  refine ⟨flows,kept,either,?_⟩
  intro guard drive
  refine either.resolve_right fun open_ => ?_
  have waits := kept.open_lt open_
  have covered := drives guard drive
  omega

theorem afterDrive_ne_drive (session : PacedSession) (guard guard' : Bool) (outcome : DriveOutcome) :
    afterDrive session guard outcome ≠ .drive guard' := by
  cases guard <;> simp [afterDrive]

theorem carries_arm (s : TerminalShared) (conn : ConnId) (session : PacedSession) :
    Book.Carries session (armStagedExitFromRegistry s conn session) := by
  obtain ⟨same,-⟩ | ⟨-,head,-,armed⟩ := armStagedExitFromRegistry_cases s conn session
  · rw [same]
    exact ⟨rfl,rfl,rfl,rfl,Nat.le_refl _⟩
  · rw [armed]
    exact ⟨rfl,rfl,rfl,rfl,Nat.le_refl _⟩

variable {d : Dispatch}

theorem stands_startTurn (ring : s.Sound) (staged : Staged s) (reaches : d.session.Reaches s)
    (stands : Stands s conn book d.session .start) :
    Stands s conn book (startTurn s conn d).session (startTurn s conn d).task := by
  refine stands.carries (carries_arm s conn d.session) (flowing_startTurn ring staged reaches stands.flows).2 ?_
  intro guard drive
  simp only [startTurn] at drive ⊢
  split at drive
  · cases drive
  · rename_i free
    unfold enterDrive at drive
    split at drive
    · rename_i below
      exact Nat.le_of_not_lt fun waits => free ⟨below,waits⟩
    · exact absurd drive (afterDrive_ne_drive _ _ _ _)

theorem stands_settleTurn (ring : s.Sound) (staged : Staged s) {outcome : DriveOutcome} (reaches : d.session.Reaches s)
    (stands : Stands s conn book d.session (.settle outcome)) :
    Stands s conn book (settleTurn s conn d outcome).session (settleTurn s conn d outcome).task := by
  have flows := (flows_settleTurn ring staged reaches stands.flows).2
  unfold settleTurn at flows ⊢
  cases transition : pacedExitTransition s conn with
  | none =>
    rw [transition] at flows
    exact stands.carries ⟨rfl,rfl,rfl,rfl,Nat.le_refl _⟩ flows (by rintro guard ⟨⟩)
  | some exitHead =>
    rw [transition] at flows
    refine stands.carries ⟨rfl,rfl,rfl,rfl,Nat.le_refl _⟩ flows ?_
    intro guard drive
    simp only at drive
    split at drive
    · cases drive
    · split at drive
      · cases drive
      · rename_i acknowledged
        exact Nat.le_of_not_lt acknowledged

theorem stands_driveTurn (config : Config) (ring : s.Sound) {guard : Bool} (task : d.task = .drive guard)
    (reaches : d.session.Reaches s) (empty : d.outbox = []) (stands : Stands s conn book d.session (.drive guard)) :
    Stands s conn (book.driven config s conn d guard) (driveTurn config s conn d guard).session
      (driveTurn config s conn d guard).task := by
  have flows := (flows_driveTurn config ring task reaches empty stands.flows).2
  have due := stands.due guard rfl
  have credited : d.session.credited ≤ d.session.pageEnd := stands.flows.1
  unfold Book.driven driveTurn at *
  obtain gone | ⟨-,⟨-,done⟩ | ⟨below,lost,expired⟩ | ⟨messages,endSeq,frames,advances,within_,-⟩⟩ :=
    nextReplayPage_cases config conn ring d.session.pageEnd d.session.pageBudget reaches.phaseTarget_le
  · simp only [gone,empty,List.append_nil] at flows ⊢
    exact ⟨flows,stands.kept,.inl due,fun _ _ => due⟩
  · simp only [done,empty,List.append_nil] at flows ⊢
    exact ⟨flows,stands.kept,.inl due,fun _ _ => due⟩
  · simp only [expired] at flows ⊢
    have carries : Book.Carries d.session (d.session.resumed (s.oldestRetainedSeq - 1)) :=
      ⟨rfl,rfl,rfl,rfl,by simp only [resumed_pageEnd]; omega⟩
    have kept := stands.kept.carries carries
    have due' := due.carries carries
    refine ⟨flows,⟨kept.numbered,kept.first,kept.granted,kept.reach,?_⟩,.inl ⟨due'.1,due'.2,due'.3⟩,fun _ _ => ⟨due'.1,due'.2,due'.3⟩⟩
    intro message member seq ends
    obtain before | gap := List.mem_append.mp member
    · exact kept.ends message before seq ends
    · rw [List.mem_singleton.mp gap] at ends
      cases ends
  · simp only [frames] at flows ⊢
    obtain ⟨kept,open_⟩ := stands.kept.granting due credited advances within_
    exact ⟨flows,kept,.inr open_,fun _ drive => absurd drive (afterDrive_ne_drive _ _ _ _)⟩

theorem stands_opened (config : Config) (ring : s.Sound) (sink : FrameSink) {req : AttachRequest} {start : PacedAttachStart}
    (started : (attachToShared config s conn sink req).2.2 = some start) (s' : TerminalShared) :
    Stands s' conn (.opened start.firstPage (.fromDesc start.session)) (.fromDesc start.session) .start := by
  obtain ⟨flows,within_⟩ := attach_outstanding config ring sink started
  have numbered : (PacedSession.fromDesc start.session).pages =
      (Book.opened start.firstPage (.fromDesc start.session)).pages.length := by
    by_cases advances : start.session.effectiveSince < start.session.pageEnd
    · simp [PacedSession.fromDesc,Book.opened,advances]
    · simp [PacedSession.fromDesc,Book.opened,advances]
  refine ⟨flows,⟨numbered,?_,?_,?_,?_⟩,?_,by rintro guard ⟨⟩⟩
  · intro page leads
    simp only [Book.opened] at leads
    split at leads
    · obtain rfl := Option.some.inj leads
      rfl
    · cases leads
  · simp only [Book.opened]
    split
    · exact List.isChain_singleton _
    · exact List.isChain_nil
  · intro page member
    simp only [Book.opened] at member
    split at member
    · rw [List.mem_singleton.mp member]
    · cases member
  · intro message member seq ends
    obtain ⟨advances,above⟩ := within_ message member seq ends
    refine ⟨⟨(PacedSession.fromDesc start.session).pageEnd,none⟩,?_,above⟩
    simp only [Book.opened,if_pos advances]
    exact List.mem_singleton.mpr rfl
  · by_cases advances : (PacedSession.fromDesc start.session).effectiveSince < (PacedSession.fromDesc start.session).pageEnd
    · refine .inr ⟨[],⟨_,none⟩,if_pos advances,?_,advances⟩
      rintro earlier ⟨⟩
    · have none_ : (Book.opened start.firstPage (.fromDesc start.session)).pages = [] := if_neg advances
      refine .inl ⟨?_,fun _ => rfl,?_⟩
      · rw [none_]
        rintro page ⟨⟩
      · rw [none_]
        rintro page ⟨⟩

/-! ## A connection -/

/-- Where the session of a connection stands with its book, of which every message
    has been sunk or is about to be. -/
structure Connection.Booked (s : TerminalShared) (conn : ConnId) (c : Connection) (book : Book) : Prop where
  busy : ∀ d, c.busy = some d →
    Stands s conn book d.session d.task ∧ ∀ m ∈ book.built, m ∈ c.sentFor d.sink.attach ++ d.outbox
  table : ∀ sink session, c.session = some (sink,session) →
    Stands s conn book session (.dispose .stay) ∧ ∀ m ∈ book.built, m ∈ c.sentFor sink.attach

variable {c c' : Connection}

theorem booked_taken (idle : c.session = none) (busy : c.busy = some d) (stands : Stands s conn book d.session d.task)
    (built : ∀ m ∈ book.built, m ∈ c.sentFor d.sink.attach ++ d.outbox) : c.Booked s conn book := by
  refine ⟨?_,by rw [idle]; rintro _ _ ⟨⟩⟩
  intro d' same
  obtain rfl := Option.some.inj (busy.symm.trans same)
  exact ⟨stands,built⟩

theorem booked_free (idle : c.session = none) (free : c.busy = none) : c.Booked s conn book := by
  refine ⟨?_,?_⟩
  · rw [free]
    rintro _ ⟨⟩
  · rw [idle]
    rintro _ _ ⟨⟩

theorem booked_dispatchTurn (ring : s.Sound) (staged : Staged s) (flowing : c.Flowing s conn) (booked : c.Booked s conn book) :
    (dispatchTurn config s conn c).Booked s conn (book.dispatched config s conn c) := by
  unfold dispatchTurn Book.dispatched
  cases busy : c.busy with
  | none => exact booked
  | some d =>
    obtain ⟨reaches,-⟩ := flowing.busy d busy
    obtain ⟨stands,built⟩ := booked.busy d busy
    have cleared : c.session = none := flowing.alone (by rw [busy]; rfl)
    simp only
    cases outbox : d.outbox with
    | cons message rest =>
      refine booked_taken cleared rfl stands ?_
      intro m member
      show m ∈ (c.sunk d.sink [message]).sentFor d.sink.attach ++ rest
      rw [sentFor_sunk,if_pos rfl,List.append_assoc]
      have there := built m member
      rwa [outbox] at there
    | nil =>
      rw [outbox,List.append_nil] at built
      simp only
      cases task : d.task with
      | start =>
        rw [task] at stands
        exact booked_taken cleared rfl (stands_startTurn ring staged reaches stands) fun m member =>
          List.mem_append_left _ (built m member)
      | drive guard =>
        rw [task] at stands
        refine booked_taken cleared rfl (stands_driveTurn config ring task reaches outbox stands) ?_
        rw [show (driveTurn config s conn d guard).sink = d.sink by unfold driveTurn; split <;> rfl]
        intro m member
        obtain before | now := List.mem_append.mp member
        · exact List.mem_append_left _ (built m before)
        · exact List.mem_append_right _ now
      | settle outcome =>
        rw [task] at stands
        refine booked_taken cleared rfl (stands_settleTurn ring staged reaches stands) ?_
        rw [show (settleTurn s conn d outcome).sink = d.sink by unfold settleTurn; split <;> rfl]
        exact fun m member => List.mem_append_left _ (built m member)
      | dispose disposition =>
        rw [task] at stands
        cases disposition with
        | stay =>
          refine ⟨by rintro _ ⟨⟩,?_⟩
          rintro sink session ⟨⟩
          exact ⟨stands,built⟩
        | transfer | gone => exact booked_free cleared rfl

theorem booked_creditTurn (ring : s.Sound) (staged : Staged s) (flowing : c.Flowing s conn) (booked : c.Booked s conn book)
    (credit : TerminalReplayCredit) : (creditTurn s conn c credit).Booked s conn (book.credited c credit) := by
  unfold creditTurn Book.credited
  cases held : c.session with
  | none => exact booked
  | some entry =>
    obtain ⟨sink,session⟩ := entry
    simp only
    obtain ⟨accepted,granted⟩ | ⟨refused,-⟩ := validateCredit_session session credit
    · rw [if_pos accepted,if_pos accepted,granted]
      obtain ⟨generation,stream,consumed,-⟩ := validateCredit_accepted.mp accepted
      obtain ⟨reaches,-⟩ := flowing.table sink session held
      obtain ⟨stands,built⟩ := booked.table sink session held
      obtain ⟨before,page,pages,-,last⟩ := stands.kept.outstanding stands.stands stands.flows
      have reaches : (session.granted session.pageEnd).Reaches s := ⟨reaches.target,reaches.armed⟩
      obtain ⟨reaches',armed⟩ := reaches.armFromRegistry conn staged
      let credited : Book := { book with credit := some credit }
      have due : credited.Due (session.granted session.pageEnd) := by
        refine ⟨stands.kept.reach,?_,?_⟩
        · intro none_
          have none_ : book.pages = [] := none_
          rw [pages] at none_
          simp at none_
        · intro page' ends
          have ends : book.pages.getLast? = some page' := ends
          rw [pages,List.getLast?_concat] at ends
          obtain rfl := Option.some.inj ends
          exact ⟨credit,rfl,generation,stream,consumed.trans last.symm⟩
      have kept : credited.Kept (session.granted session.pageEnd) :=
        ⟨stands.kept.numbered,stands.kept.first,stands.kept.granted,stands.kept.reach,stands.kept.ends⟩
      have free : Stands s conn credited (session.granted session.pageEnd) (.dispose .transfer) :=
        ⟨trivial,kept,.inl due,by rintro guard ⟨⟩⟩
      refine booked_taken rfl rfl (free.carries (carries_arm s conn _) (flows_enterDrive ring reaches' armed (.inl ?_)) ?_) ?_
      · rw [armFromRegistry_credited,armFromRegistry_pageEnd]
        rfl
      · intro guard drive
        rw [armFromRegistry_credited,armFromRegistry_pageEnd]
        exact Nat.le_refl _
      · exact fun m member => List.mem_append_left _ (built m member)
    · rw [if_neg refused,if_neg refused]
      exact booked

theorem booked_exitNotifyTurn (booked : c.Booked s conn book) : (exitNotifyTurn s conn c).Booked s conn book := by
  refine ⟨booked.busy,?_⟩
  intro sink session there
  obtain ⟨⟨sink',before⟩,held,same⟩ := Option.map_eq_some_iff.mp (show c.session.map _ = _ from there)
  obtain ⟨rfl,rfl⟩ := Prod.mk.inj same
  obtain ⟨stands,built⟩ := booked.table sink' before held
  refine ⟨stands.carries (carries_arm s conn before) ?_ (by rintro guard ⟨⟩),built⟩
  obtain ⟨uncredited,page,sent,ends⟩ := stands.flows
  refine ⟨?_,page,sent,?_⟩
  · rw [armFromRegistry_credited,armFromRegistry_pageEnd]
    exact uncredited
  · rw [armFromRegistry_pageEnd]
    exact ends

theorem Connection.Booked.leads (booked : c.Booked s conn book) (leads : Leads conn s s') (busy : c'.busy = c.busy)
    (table : c'.session = c.session) (kept : ∀ a, ∀ m ∈ c.sentFor a, m ∈ c'.sentFor a) : c'.Booked s' conn book := by
  have moved {session : PacedSession} {task : Task} (stands : Stands s conn book session task) :
      Stands s' conn book session task :=
    ⟨flows_leads stands.flows leads fun _ => id,stands.kept,stands.stands,stands.due⟩
  refine ⟨?_,?_⟩
  · rw [busy]
    intro d there
    obtain ⟨stands,built⟩ := booked.busy d there
    exact ⟨moved stands,fun m member => built_kept kept d.outbox m (built m member)⟩
  · rw [table]
    intro sink session there
    obtain ⟨stands,built⟩ := booked.table sink session there
    exact ⟨moved stands,fun m member => kept _ m (built m member)⟩

end

/-! ## The system -/

def Label.Apart (conn : ConnId) : Label → Prop
  | .output .. | .drain .. | .cancelDrain .. => True
  | .exit _ => False
  | .attach other _ | .credit other _ | .exitNotify other | .detach other | .disconnect other | .dispatch other => other ≠ conn

instance (conn : ConnId) (label : Label) : Decidable (label.Apart conn) := by
  cases label <;> unfold Label.Apart <;> infer_instance

section
variable {config : Config} {w : World} {conn : ConnId} {book : Book}

/-- What a connection keeps when another one, or one of its drains, takes the step. -/
structure Untouched (w w' : World) (conn : ConnId) : Prop where
  leads : Leads conn w.shared w'.shared
  busy : (w'.connections conn).busy = (w.connections conn).busy
  table : (w'.connections conn).session = (w.connections conn).session
  kept : ∀ a, ∀ m ∈ (w.connections conn).sentFor a, m ∈ (w'.connections conn).sentFor a

theorem Untouched.refl (w : World) (conn : ConnId) : Untouched w w conn := ⟨leads_rfl,rfl,rfl,fun _ _ => id⟩

variable {other : ConnId}

theorem untouched_other (apart : other ≠ conn) (c : Connection) (sub : Option Subscriber) :
    Untouched w { w.setConnection other c with shared := w.shared.setSubscriber other sub } conn := by
  have same : (w.setConnection other c).connections conn = w.connections conn := setConnection_other w c (Ne.symm apart)
  exact ⟨leads_setSubscriber fun is => absurd is apart,by rw [same],by rw [same],fun a m member => by rwa [same]⟩

theorem untouched_local (apart : other ≠ conn) (c : Connection) : Untouched w (w.setConnection other c) conn := by
  have same : (w.setConnection other c).connections conn = w.connections conn := setConnection_other w c (Ne.symm apart)
  exact ⟨leads_rfl,by rw [same],by rw [same],fun a m member => by rwa [same]⟩

variable {label : Label}

theorem step_apart (flowing : w.Flowing) (apart : label.Apart conn) : Untouched w (step config w label) conn := by
  cases label with
  | output data scan =>
    simp only [step,output]
    cases status : w.shared.status with
    | exited => exact .refl w conn
    | running =>
      obtain ⟨busy,table,kept⟩ := fanOut_frame (fun sub => liveMessages config w.shared.terminalId sub (readerFrame w data scan))
        w.connections conn
      exact ⟨(leads_output conn flowing status data scan).2.2,busy,table,kept⟩
  | exit exitCode => exact absurd apart id
  | attach other req =>
    simp only [step]
    split
    · obtain ⟨sub,shared,-⟩ := attachToShared_subscriber config w.shared other ⟨(w.connections other).attaches⟩ req
      dsimp only [attach]
      rw [shared]
      exact untouched_other apart _ sub
    · exact .refl w conn
  | credit other credit | exitNotify other =>
    simp only [step]
    split
    · exact untouched_local apart _
    · exact .refl w conn
  | detach other | disconnect other =>
    simp only [step]
    split
    · exact untouched_other apart _ none
    · exact .refl w conn
  | dispatch other => exact untouched_local apart _
  | drain other a =>
    simp only [step]
    split
    · exact .refl w conn
    · rename_i d _
      obtain ⟨c,sub,turn,pending,busy,table,kept⟩ := drainTurn_frame config w other a d
      rw [turn]
      by_cases mine : other = conn
      · subst mine
        refine ⟨leads_setSubscriber fun _ absent => ?_,?_,?_,?_⟩
        · cases there : sub with
          | none => rfl
          | some after =>
            obtain ⟨before,present,-⟩ := pending after there
            rw [absent] at present
            cases present
        · simpa using busy
        · simpa using table
        · simpa using kept
      · exact untouched_other mine c sub
  | cancelDrain other a =>
    simp only [step]
    split
    · exact .refl w conn
    · split
      · by_cases mine : other = conn
        · subst mine
          refine ⟨leads_rfl,?_,?_,?_⟩
          · simp [Connection.setDrain]
          · simp [Connection.setDrain]
          · simp
        · exact untouched_local mine _
      · exact .refl w conn

theorem after_apart (config : Config) (w : World) (book : Book) (apart : label.Apart conn) :
    book.after config w conn label = book := by
  cases label with
  | attach other req | credit other credit => exact if_neg fun both => apart both.1
  | dispatch other => exact if_neg apart
  | _ => rfl

theorem booked_exit (running : w.shared.status = .running) (booked : (w.connections conn).Booked w.shared conn book)
    {exitCode : Int} (timely : TimelyExit w (.exit exitCode)) :
    ((exit w exitCode).connections conn).Booked (exit w exitCode).shared conn book := by
  have exited : (finishPtyExit w.shared exitCode).status = .exited := by simp [finishPtyExit,running]
  have head : (finishPtyExit w.shared exitCode).headSeq = w.shared.headSeq := by simp [finishPtyExit,running]
  have replay : (finishPtyExit w.shared exitCode).replay = w.shared.replay := by simp [finishPtyExit,running]
  have gone : w.shared.subscribers conn = none → (finishPtyExit w.shared exitCode).subscribers conn = none := by
    intro absent
    simp [finishPtyExit,running,absent]
  obtain ⟨busy,table,kept⟩ := fanOut_frame (s := w.shared) (exitFanOut w.shared exitCode) w.connections conn
  show (fanOut w.shared (exitFanOut w.shared exitCode) w.connections conn).Booked (finishPtyExit w.shared exitCode) conn book
  refine ⟨?_,?_⟩
  · rw [busy]
    intro d there
    obtain ⟨stands,built⟩ := booked.busy d there
    have after := flows_exit running exited (oldestRetainedSeq_congr replay head) gone built (timely running conn d there)
      stands.flows
    exact ⟨⟨after,stands.kept,stands.stands,stands.due⟩,fun m member => built_kept kept d.outbox m (built m member)⟩
  · rw [table]
    intro sink session there
    obtain ⟨stands,built⟩ := booked.table sink session there
    exact ⟨⟨stands.flows,stands.kept,stands.stands,stands.due⟩,fun m member => kept _ m (built m member)⟩

theorem booked_step (flowing : w.Flowing) (booked : (w.connections conn).Booked w.shared conn book) (label : Label)
    (timely : TimelyExit w label) :
    ((step config w label).connections conn).Booked (step config w label).shared conn (book.after config w conn label) := by
  by_cases apart : label.Apart conn
  · have untouched : Untouched w (step config w label) conn := step_apart flowing apart
    rw [after_apart config w book apart]
    exact booked.leads untouched.leads untouched.busy untouched.table untouched.kept
  · have mine := flowing.connections conn
    cases label with
    | output data scan | drain other a | cancelDrain other a => exact absurd trivial apart
    | exit exitCode =>
      cases status : w.shared.status with
      | running => exact booked_exit status booked timely
      | exited => rwa [show step config w (.exit exitCode) = w from exit_exited status]
    | attach other req =>
      obtain rfl : other = conn := not_not.mp apart
      by_cases idle : (w.connections other).idle = true
      · have free := (idle_free idle).2
        simp only [step,Book.after,if_pos idle,idle,and_self,if_true,attach,setConnection_same]
        unfold Book.attached
        cases started : (attachToShared config w.shared other ⟨(w.connections other).attaches⟩ req).2.2 with
        | none => exact booked_free rfl rfl
        | some start =>
          exact booked_taken rfl rfl (stands_opened config flowing.ring _ started _) fun m member =>
            List.mem_append_right _ member
      · simp only [step,Book.after,if_neg idle,idle,and_false,if_false]
        exact booked
    | credit other credit =>
      obtain rfl : other = conn := not_not.mp apart
      by_cases idle : (w.connections other).idle = true
      · simp only [step,Book.after,if_pos idle,idle,and_self,if_true]
        rw [setConnection_same]
        exact booked_creditTurn flowing.ring flowing.staged mine booked credit
      · simp only [step,Book.after,if_neg idle,idle,and_false,if_false]
        exact booked
    | exitNotify other =>
      obtain rfl : other = conn := not_not.mp apart
      simp only [step,Book.after]
      split
      · rw [setConnection_same]
        exact booked_exitNotifyTurn booked
      · exact booked
    | detach other | disconnect other =>
      obtain rfl : other = conn := not_not.mp apart
      simp only [step,Book.after]
      split
      · rename_i idle
        simp only [setConnection_same]
        exact booked_free rfl (idle_free idle).2
      · exact booked
    | dispatch other =>
      obtain rfl : other = conn := not_not.mp apart
      simp only [step,Book.after,if_true]
      rw [setConnection_same]
      exact booked_dispatchTurn flowing.ring flowing.staged mine booked

variable {sink : FrameSink} {session : PacedSession} {credit : TerminalReplayCredit}

theorem credit_refused (booked : (w.connections conn).Booked w.shared conn book)
    (held : (w.connections conn).session = some (sink,session)) (refused : ¬book.Awaits session credit) :
    step config w (.credit conn credit) = w := by
  obtain ⟨stands,-⟩ := booked.table sink session held
  obtain ⟨before,page,pages,-,last⟩ := stands.kept.outstanding stands.stands stands.flows
  have rejected : (validateCredit session credit).2 ≠ .accepted := by
    intro accepted
    obtain ⟨generation,stream,consumed,waits⟩ := validateCredit_accepted.mp accepted
    refine refused ⟨generation,stream,page,?_,?_,?_⟩
    · rw [pages]
      exact List.mem_concat_self
    · omega
    · omega
  have same : creditTurn w.shared conn (w.connections conn) credit = w.connections conn := by
    simp only [creditTurn,held,if_neg rejected]
  simp only [step,same]
  split
  · simp [World.setConnection]
  · rfl

theorem credit_awaited (booked : (w.connections conn).Booked w.shared conn book)
    (held : (w.connections conn).session = some (sink,session)) (awaited : book.Awaits session credit) :
    (validateCredit session credit).2 = .accepted := by
  obtain ⟨generation,stream,page,listed,waits,ends⟩ := awaited
  obtain ⟨stands,-⟩ := booked.table sink session held
  obtain ⟨before,last,pages,acknowledged,reached⟩ := stands.kept.outstanding stands.stands stands.flows
  rw [pages] at listed
  obtain earlier | mine := List.mem_append.mp listed
  · have := acknowledged page earlier
    omega
  · rw [List.mem_singleton] at mine
    subst mine
    exact validateCredit_accepted.mpr ⟨generation,stream,by omega,by omega⟩

end

theorem booked_run (config : Config) (terminalId streamId : String) (maxReplayChars : Nat) {labels : List Label}
    (timely : Along (step config) TimelyExit (World.start terminalId streamId maxReplayChars) labels) :
    let a := Audit.after config terminalId streamId maxReplayChars labels
    ∀ conn, (a.world.connections conn).Booked a.world.shared conn (a.books conn) := by
  let Invariant (a : Audit) : Prop :=
    a.world.Flowing ∧ ∀ conn, (a.world.connections conn).Booked a.world.shared conn (a.books conn)
  have kept : ∀ (a : Audit) (label : Label), Invariant a → TimelyExit a.world label → Invariant (a.step config label) :=
    fun a label holds timely => ⟨flowing_step holds.1 label timely,fun conn => booked_step holds.1 (holds.2 conn) label timely⟩
  have initial : Invariant ⟨.start terminalId streamId maxReplayChars,fun _ => .closed⟩ :=
    ⟨flowing_start terminalId streamId maxReplayChars,fun _ => booked_free rfl rfl⟩
  have audited : Along (Audit.step config) (fun a => TimelyExit a.world)
      ⟨.start terminalId streamId maxReplayChars,fun _ => .closed⟩ labels := along_view (fun _ _ => rfl) timely
  exact (invariant_run kept initial audited).2

/-- In every run in which no exit is processed while a dispatcher is stranded, of the
    pages of each session one at most is unacknowledged, each after the first was
    granted by the credit for the one before it, and a credit is taken exactly if it
    is for the unacknowledged page; any other one changes nothing. -/
theorem credits_disciplined (config : Config) (terminalId streamId : String) (maxReplayChars : Nat) {labels : List Label}
    (timely : Along (step config) TimelyExit (World.start terminalId streamId maxReplayChars) labels) (conn : ConnId) :
    let a := Audit.after config terminalId streamId maxReplayChars labels
    let c := a.world.connections conn
    a.world = World.after config terminalId streamId maxReplayChars labels ∧
      (∀ session, c.Holds session → (a.books conn).Disciplined session) ∧
      ∀ sink session credit, c.session = some (sink,session) →
        ((validateCredit session credit).2 = .accepted ↔ (a.books conn).Awaits session credit) ∧
          (¬(a.books conn).Awaits session credit → step config a.world (.credit conn credit) = a.world) := by
  intro a c
  have booked : c.Booked a.world.shared conn (a.books conn) := booked_run config terminalId streamId maxReplayChars timely conn
  refine ⟨run_view (fun _ _ => rfl) _ labels,?_,?_⟩
  · rintro session (⟨sink,held⟩ | ⟨d,busy,rfl⟩)
    · obtain ⟨stands,-⟩ := booked.table sink session held
      exact stands.kept.disciplined stands.stands
    · obtain ⟨stands,-⟩ := booked.busy d busy
      exact stands.kept.disciplined stands.stands
  · intro sink session credit held
    refine ⟨⟨?_,credit_awaited booked held⟩,credit_refused booked held⟩
    intro accepted
    obtain ⟨stands,-⟩ := booked.table sink session held
    obtain ⟨generation,stream,consumed,waits⟩ := validateCredit_accepted.mp accepted
    obtain ⟨before,page,pages,-,last⟩ := stands.kept.outstanding stands.stands stands.flows
    refine ⟨generation,stream,page,?_,by omega,by omega⟩
    rw [pages]
    exact List.mem_concat_self

/-- The credit for the first page of three grants the second one. -/
theorem credits_disciplined_paged :
    let scan : Scan := ⟨false,none,.ground,.ground,""⟩
    let credited := [Label.output "a" scan,.output "b" scan,.output "c" scan,.attach 0 ⟨some "r",0,false,true,none,none⟩,
      .dispatch 0,.dispatch 0,.dispatch 0,.credit 0 ⟨"t","s","r",1⟩,.dispatch 0,.dispatch 0,.dispatch 0,.dispatch 0]
    ((Audit.after pageByPage "t" "s" 3 credited).books 0).Disciplined ⟨"t","s","r",3,0,1,2,5,none,2⟩ := by
  intro scan credited
  have timely : Along (step pageByPage) TimelyExit (World.start "t" "s" 3) credited := by
    simp [credited,TimelyExit]
  have held : ((Audit.after pageByPage "t" "s" 3 credited).world.connections 0).session =
      some (⟨0⟩,⟨"t","s","r",3,0,1,2,5,none,2⟩) := by decide
  exact (credits_disciplined pageByPage "t" "s" 3 timely 0).2.1 _ (.inl ⟨⟨0⟩,held⟩)

/-- After `strandedExit` a credit for the end of a gap is accepted and grants a page,
    though every page that was granted is acknowledged. -/
theorem strandedExit_grants :
    let a := Audit.after pageByPage "t" "s" 3 strandedExit
    let session : PacedSession := ⟨"t","s","r",3,0,1,4,5,some 7,1⟩
    let credit : TerminalReplayCredit := ⟨"t","s","r",4⟩
    (a.world.connections 0).session = some (⟨0⟩,session) ∧ ¬(a.books 0).Awaits session credit ∧
      (validateCredit session credit).2 = .accepted ∧
      ((Audit.after pageByPage "t" "s" 3 (strandedExit ++ [.credit 0 credit,.dispatch 0])).books 0).pages =
        [⟨1,none⟩,⟨5,some credit⟩] := by
  intro a session credit
  have acknowledged : ∀ page ∈ (a.books 0).pages, page.endSeq ≤ session.credited := by decide
  refine ⟨by decide,?_,by decide,by decide⟩
  rintro ⟨-,-,page,listed,waits,-⟩
  have := acknowledged page listed
  omega

end Freshell.Paced
