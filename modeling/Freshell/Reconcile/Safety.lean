import Freshell.Reconcile.Verdicts
import Freshell.Registry.Bindings

/-!
What the verdicts may be relied on for: an attachment is to a live terminal, a session is
respawned only where no live terminal has it and the index or the launcher vouches for it,
and it is given up only on knowledge. The liveness check of a respawn is made on the session
that the pane claims, and the session that is answered may be another one.
-/
namespace Freshell.Reconcile
open Freshell.Library.Tables
open Freshell.PaneLedger (SessionLocator)
open Freshell.Registry (newest)

section
variable {view : RegistryView}

theorem RegistryView.isLive_of_mem {handle : TerminalHandle} (listed : handle ∈ view.terminals.values)
    (running : handle.row.status = .running) : view.isLive handle.row.terminalId := by
  have found : view.terminals.lookup handle.row.terminalId = some handle := KeyedTable.mem_values.mp listed
  simp [isLive,probe,found,running]

theorem RegistryView.isLive_of_row {row : RegistryRow} (listed : row ∈ view.rows) (running : row.status = .running) :
    view.isLive row.terminalId := by
  obtain ⟨handle,held,rfl⟩ := List.mem_map.mp listed
  exact isLive_of_mem held running

theorem RegistryView.isLive_newest {key terminalId : String} (found : view.newestLiveByCreateRequestId key = some terminalId) :
    view.isLive terminalId := by
  obtain ⟨row,first,rfl⟩ := Option.map_eq_some_iff.mp found
  have running : row.status = .running := by simpa using List.find?_some first
  have listed : row ∈ view.rows := by
    have sorted := List.mem_of_find?_eq_some first
    rw [terminalsByCreateRequestId,List.mem_insertionSort] at sorted
    exact List.mem_of_mem_filter sorted
  exact isLive_of_row listed running

theorem newest_eq_none {live : List (Int × String)} : newest live = none ↔ live = [] := by
  simp only [newest,Option.map_eq_none_iff,List.head?_eq_none_iff]
  constructor
  · intro sorted
    have size := List.length_insertionSort Registry.Newer live
    rw [sorted] at size
    exact List.length_eq_zero_iff.mp size.symm
  · rintro rfl
    rfl

variable {sref : SessionLocator}

theorem RegistryView.liveTerminal_spec {terminalId : String}
    (found : view.liveTerminalForSessionRef sref = some terminalId) : view.isLive terminalId := by
  obtain ⟨entry,listed,rfl⟩ := Registry.History.mem_newest found
  obtain ⟨row,held,rfl⟩ := List.mem_map.mp listed
  obtain ⟨inside,carries⟩ := List.mem_filter.mp held
  exact isLive_of_row inside (of_decide_eq_true carries).1

theorem RegistryView.liveTerminal_none :
    view.liveTerminalForSessionRef sref = none ↔ ∀ row ∈ view.rows, ¬row.Carries sref := by
  simp [liveTerminalForSessionRef,newest_eq_none]

end

section
variable {Payload : Type} (deps : ReconcileDeps Payload) (pane : ReconcilePane)

/-- A live terminal has the session, in one of the two identity stores. -/
def Carried (sref : SessionLocator) : Prop :=
  (∃ entry ∈ deps.list, entry.Names sref ∧ deps.registry.isLive entry.terminalId) ∨
    ∃ row ∈ deps.registry.rows, row.Carries sref

def Shadowed (sref : SessionLocator) : Prop :=
  (∃ first, deps.findBySession sref = some first ∧ deps.registry.isLive first.terminalId = false) ∧
    ∃ entry ∈ deps.list, entry.Names sref ∧ deps.registry.isLive entry.terminalId

def Superseded (sref : SessionLocator) : Prop :=
  ∃ index row, deps.paneLedger = some index ∧ index.bindings.lookup (sref.provider,sref.sessionId) = some row ∧
    row.state = .retired ∧ row.supersededBy.isSome

/-- A running facade of a managed soul that resumes the session. -/
def Managed (sref : SessionLocator) : Prop :=
  ∃ handle ∈ deps.registry.terminals.values, ∃ descriptor ∈ handle.managed,
    descriptor.mode = sref.provider ∧ descriptor.resumeSessionId = some sref.sessionId ∧ handle.row.status = .running

/-- The index has the session, or the launcher that assigned its id answers for it. -/
def Vouched (sref : SessionLocator) : Prop :=
  deps.existence.exists_ sref.provider sref.sessionId = .present ∨
    deps.existence.exists_ sref.provider sref.sessionId = .absent ∧
      (sref.provider = "amplifier" ∨ neverConversed deps sref)

structure Resumable (key : String) (sref : SessionLocator) : Prop where
  unmanaged : ¬Managed deps sref
  known : deps.isIndeterminate pane.paneKey = false
  vouched : Vouched deps sref
  budget : deps.registry.respawnExhausted key = false

structure Unattached (key : String) : Prop where
  claim : ∀ claim, effectiveClaim pane = some claim → liveTerminalForClaimedRef deps claim = none
  key : deps.registry.newestLiveByCreateRequestId key = none
  held : ∀ terminalId, pane.terminalId = some terminalId → deps.registry.isLive terminalId = false

/-- The session is the newest one of its chain and no live terminal has it. For a claimed one
    only an entry that hides another can keep a live terminal from the check. -/
structure Current (sref : SessionLocator) : Prop where
  claimed : effectiveClaim pane = some sref → ¬Shadowed deps sref
  other : effectiveClaim pane ≠ some sref → ¬Carried deps sref
  newest : ¬Superseded deps sref

/-- A pane that nothing live is found for resolves to a session that is current, where it
    resolves to one that can be resumed. -/
def Answerable : Prop :=
  pane.paneKey ≠ "" → pane.kind = some "terminal" → ∀ key sref, nonEmpty pane.createRequestId = some key →
    Unattached deps pane key → resolveAuthoritativeRef deps pane key = some sref → Resumable deps pane key sref →
    Current deps pane sref

structure SafeVerdict (answer : PaneVerdict) : Prop where
  attach : answer.verdict = .attach → ∃ terminalId, answer.terminalId = some terminalId ∧ deps.registry.isLive terminalId
  respawn : answer.verdict = .respawn → ∃ key sref, pane.createRequestId = some key ∧ answer.sessionRef = some sref ∧
    Resumable deps pane key sref ∧ ¬Carried deps sref ∧ ¬Superseded deps sref
  deadSession : answer.verdict = .deadSession → ∃ key sref, pane.createRequestId = some key ∧
    answer.sessionRef = some sref ∧ deps.existence.exists_ sref.provider sref.sessionId ≠ .unknown ∧
    deps.isIndeterminate pane.paneKey = false ∧
    (deps.existence.everObserved sref.provider sref.sessionId ∨ deps.registry.respawnExhausted key)

end

section
variable {Payload : Type} {deps : ReconcileDeps Payload} {pane : ReconcilePane} {key : String} {sref : SessionLocator}

theorem managed_iff : deps.registry.liveManagedOwnerForSession sref = none ↔ ¬Managed deps sref := by
  simp only [Managed,RegistryView.liveManagedOwnerForSession,List.findSome?_eq_none_iff,Option.filter_eq_none_iff]
  simp

theorem carried_unreached (unreached : liveTerminalForClaimedRef deps sref = none) :
    Carried deps sref ↔ Shadowed deps sref := by
  obtain ⟨reached,joined⟩ := Option.or_eq_none_iff.mp unreached
  constructor
  · rintro (⟨entry,listed,names,live⟩ | ⟨row,listed,carries⟩)
    · cases first : deps.findBySession sref with
      | none =>
        have absent := List.find?_eq_none.mp first entry listed
        exact absurd (decide_eq_true names) absent
      | some found =>
        refine ⟨⟨found,first,?_⟩,entry,listed,names,live⟩
        simpa [first] using reached
    · exact absurd carries (RegistryView.liveTerminal_none.mp joined row listed)
  · rintro ⟨_,entry,listed,names,live⟩
    exact .inl ⟨entry,listed,names,live⟩

theorem respawnVerdict_fresh (budget : deps.registry.respawnExhausted key = false) :
    respawnVerdict deps pane key sref = { base pane .respawn with
      sessionRef := some sref, corrected := correctedFlag pane.sessionRef (some sref) } := by
  simp [respawnVerdict,budget]

theorem identifiedVerdict_resumable (resumable : Resumable deps pane key sref) :
    identifiedVerdict deps pane key sref = { base pane .respawn with
      sessionRef := some sref, corrected := correctedFlag pane.sessionRef (some sref) } := by
  have answer : respawnVerdict deps pane key sref = _ := respawnVerdict_fresh resumable.budget
  simp only [identifiedVerdict,managed_iff.mpr resumable.unmanaged,resumable.known,existenceVerdict]
  rcases resumable.vouched with present | ⟨absent,assigned | never⟩
  · simp [present,answer]
  · simp only [absent,if_pos assigned,answer]
    rfl
  · simp [absent,never,answer]

theorem claimedVerdict_none : claimedVerdict deps pane = none ↔
    ∀ claim, effectiveClaim pane = some claim → liveTerminalForClaimedRef deps claim = none := by
  simp only [claimedVerdict,Option.bind_eq_bind,Option.pure_def]
  cases effectiveClaim pane with
  | none => simp
  | some claim => cases found : liveTerminalForClaimedRef deps claim <;> simp [found]

theorem liveVerdict_none : liveVerdict deps pane key = none ↔
    deps.registry.newestLiveByCreateRequestId key = none ∧
      ∀ terminalId, pane.terminalId = some terminalId → deps.registry.isLive terminalId = false := by
  have held : pane.terminalId.filter deps.registry.isLive = none ↔
      ∀ terminalId, pane.terminalId = some terminalId → deps.registry.isLive terminalId = false := by
    simp [Option.filter_eq_none_iff]
  rw [←held]
  simp only [liveVerdict]
  cases deps.registry.newestLiveByCreateRequestId key <;> cases pane.terminalId.filter deps.registry.isLive <;> simp

theorem unattached_iff :
    (claimedVerdict deps pane).or (liveVerdict deps pane key) = none ↔ Unattached deps pane key := by
  rw [Option.or_eq_none_iff,claimedVerdict_none,liveVerdict_none]
  constructor
  · rintro ⟨claim,key,held⟩
    exact ⟨claim,key,held⟩
  · rintro ⟨claim,key,held⟩
    exact ⟨claim,key,held⟩

inductive Answered (deps : ReconcileDeps Payload) (pane : ReconcilePane) (key : String) : PaneVerdict → Prop
  | attached (answer : PaneVerdict) (terminalId : String) (attach : answer.verdict = .attach)
      (named : answer.terminalId = some terminalId) (live : deps.registry.isLive terminalId) : Answered deps pane key answer
  | respawned (answer : PaneVerdict) (sref : SessionLocator) (respawn : answer.verdict = .respawn)
      (named : answer.sessionRef = some sref) (unattached : Unattached deps pane key)
      (resolved : resolveAuthoritativeRef deps pane key = some sref) (resumable : Resumable deps pane key sref) :
      Answered deps pane key answer
  | dead (answer : PaneVerdict) (sref : SessionLocator) (dead : answer.verdict = .deadSession)
      (named : answer.sessionRef = some sref)
      (indexed : deps.existence.exists_ sref.provider sref.sessionId ≠ .unknown)
      (known : deps.isIndeterminate pane.paneKey = false)
      (lost : deps.existence.everObserved sref.provider sref.sessionId ∨ deps.registry.respawnExhausted key) :
      Answered deps pane key answer
  | other (answer : PaneVerdict) (passive : answer.verdict = .fresh ∨ answer.verdict = .error) :
      Answered deps pane key answer

theorem liveTerminalForClaimedRef_live {terminalId : String}
    (found : liveTerminalForClaimedRef deps sref = some terminalId) : deps.registry.isLive terminalId := by
  rcases Option.or_eq_some_iff.mp found with known | ⟨_,joined⟩
  · exact (Option.filter_eq_some_iff.mp known).2
  · exact RegistryView.liveTerminal_spec joined

variable {answer : PaneVerdict}

theorem answered_attached (found : (claimedVerdict deps pane).or (liveVerdict deps pane key) = some answer) :
    Answered deps pane key answer := by
  rcases Option.or_eq_some_iff.mp found with claimed | ⟨_,live⟩
  · simp only [claimedVerdict,Option.bind_eq_bind,Option.bind_eq_some_iff,Option.pure_def,Option.some.injEq] at claimed
    obtain ⟨claim,_,terminalId,carrier,rfl⟩ := claimed
    exact .attached _ terminalId rfl rfl (liveTerminalForClaimedRef_live carrier)
  · have heldLive : ∀ held, pane.terminalId.filter deps.registry.isLive = some held → deps.registry.isLive held :=
      fun held kept => (Option.filter_eq_some_iff.mp kept).2
    simp only [liveVerdict] at live
    split at live
    · next newest held first kept =>
      obtain rfl := Option.some.inj live
      split
      · exact .attached _ held rfl rfl (heldLive held kept)
      · exact .attached _ newest rfl rfl (RegistryView.isLive_newest first)
    · next newest first _ =>
      obtain rfl := Option.some.inj live
      exact .attached _ newest rfl rfl (RegistryView.isLive_newest first)
    · next held _ kept =>
      obtain rfl := Option.some.inj live
      exact .attached _ held rfl rfl (heldLive held kept)
    · cases live

theorem managedOwner_live {descriptor : ManagedTerminalDescriptor}
    (found : deps.registry.liveManagedOwnerForSession sref = some descriptor) :
    deps.registry.isLive descriptor.terminalId := by
  obtain ⟨handle,listed,kept⟩ := List.exists_of_findSome?_eq_some found
  obtain ⟨own,matches_⟩ := Option.filter_eq_some_iff.mp kept
  rw [handle.owned descriptor own]
  exact RegistryView.isLive_of_mem listed (of_decide_eq_true matches_).2.2

theorem answered_vouched (unattached : Unattached deps pane key)
    (resolved : resolveAuthoritativeRef deps pane key = some sref) (unmanaged : ¬Managed deps sref)
    (known : deps.isIndeterminate pane.paneKey = false) (vouched : Vouched deps sref) :
    Answered deps pane key (respawnVerdict deps pane key sref) := by
  have indexed : deps.existence.exists_ sref.provider sref.sessionId ≠ .unknown := by
    rcases vouched with present | ⟨absent,_⟩
    · simp [present]
    · simp [absent]
  cases budget : deps.registry.respawnExhausted key with
  | true =>
    simp only [respawnVerdict,budget,if_true]
    exact .dead _ sref rfl rfl indexed known (.inr budget)
  | false =>
    rw [respawnVerdict_fresh budget]
    exact .respawned _ sref rfl rfl unattached resolved ⟨unmanaged,known,vouched,budget⟩

theorem answered_identified (unattached : Unattached deps pane key)
    (resolved : resolveAuthoritativeRef deps pane key = some sref) :
    Answered deps pane key (identifiedVerdict deps pane key sref) := by
  simp only [identifiedVerdict]
  cases owner : deps.registry.liveManagedOwnerForSession sref with
  | some descriptor => exact .attached _ descriptor.terminalId rfl rfl (managedOwner_live owner)
  | none =>
    have unmanaged := managed_iff.mp owner
    by_cases indeterminate : deps.isIndeterminate pane.paneKey
    · simp only [indeterminate,if_true]
      exact .other _ (.inr rfl)
    · have known : deps.isIndeterminate pane.paneKey = false := by simpa using indeterminate
      simp only [known,existenceVerdict]
      cases existence : deps.existence.exists_ sref.provider sref.sessionId with
      | present => exact answered_vouched unattached resolved unmanaged known (.inl existence)
      | absent =>
        by_cases assigned : sref.provider = "amplifier"
        · simp only [if_pos assigned]
          exact answered_vouched unattached resolved unmanaged known (.inr ⟨existence,.inl assigned⟩)
        · by_cases never : neverConversed deps sref
          · simp only [assigned,never,if_true,if_false]
            exact answered_vouched unattached resolved unmanaged known (.inr ⟨existence,.inr never⟩)
          · by_cases observed : deps.existence.everObserved sref.provider sref.sessionId
            · simp only [assigned,never,observed,if_true,if_false]
              exact .dead _ sref rfl rfl (by simp [existence]) known (.inl observed)
            · simp only [assigned,never,observed,if_false]
              exact .other _ (.inl rfl)
      | unknown => exact .other _ (.inr rfl)
      | providerUnavailable => exact .other _ (.inr rfl)

theorem terminalVerdict_answered : Answered deps pane key (terminalVerdict deps pane key) := by
  simp only [terminalVerdict]
  cases attached : (claimedVerdict deps pane).or (liveVerdict deps pane key) with
  | some answer => exact answered_attached attached
  | none =>
    cases resolved : resolveAuthoritativeRef deps pane key with
    | none =>
      refine .other _ (.inl ?_)
      simp only [freshVerdict]
      split
      · rfl
      · split <;> rfl
    | some sref => exact answered_identified (unattached_iff.mp attached) resolved

theorem verdictForPane_terminal (named : pane.paneKey ≠ "") (terminal : pane.kind = some "terminal")
    (keyed : nonEmpty pane.createRequestId = some key) : verdictForPane deps pane = terminalVerdict deps pane key := by
  simp [verdictForPane,named,terminal,keyed]

theorem createRequestId_of_nonEmpty (keyed : nonEmpty pane.createRequestId = some key) :
    pane.createRequestId = some key := (Option.filter_eq_some_iff.mp keyed).1

theorem verdictForPane_cases (terminal : pane.kind ≠ some "fresh-agent") :
    (∃ key, pane.paneKey ≠ "" ∧ pane.kind = some "terminal" ∧ nonEmpty pane.createRequestId = some key ∧
      Answered deps pane key (verdictForPane deps pane)) ∨ (verdictForPane deps pane).verdict = .invalid := by
  by_cases named : pane.paneKey = ""
  · right
    simp only [verdictForPane,named,if_true]
    rfl
  · cases kind : pane.kind with
    | none =>
      right
      simp only [verdictForPane,named,if_false,kind]
      rfl
    | some kindOf =>
      by_cases isTerminal : kindOf = "terminal"
      · subst isTerminal
        cases keyed : nonEmpty pane.createRequestId with
        | none =>
          right
          simp only [verdictForPane,named,if_false,kind,if_true,keyed]
          rfl
        | some key =>
          left
          refine ⟨key,named,rfl,rfl,?_⟩
          rw [verdictForPane_terminal named kind keyed]
          exact terminalVerdict_answered
      · right
        have other : kindOf ≠ "fresh-agent" := by
          rintro rfl
          exact terminal kind
        simp only [verdictForPane,named,if_false,kind,isTerminal,other]
        rfl

theorem SafeVerdict.refused {answer : PaneVerdict} (refused : answer.verdict = .invalid) : SafeVerdict deps pane answer where
  attach := by simp [refused]
  respawn := by simp [refused]
  deadSession := by simp [refused]

theorem safeVerdict_iff (terminal : pane.kind ≠ some "fresh-agent") :
    SafeVerdict deps pane (verdictForPane deps pane) ↔ Answerable deps pane := by
  constructor
  · intro safe named isTerminal key sref keyed unattached resolved resumable
    have answer : verdictForPane deps pane = { base pane .respawn with
        sessionRef := some sref, corrected := correctedFlag pane.sessionRef (some sref) } := by
      rw [verdictForPane_terminal named isTerminal keyed,terminalVerdict,unattached_iff.mpr unattached]
      simp only [resolved]
      exact identifiedVerdict_resumable resumable
    obtain ⟨_,answered,_,same,_,uncarried,newest⟩ := safe.respawn (by rw [answer]; rfl)
    rw [answer] at same
    obtain rfl := Option.some.inj same
    refine ⟨?_,fun _ => uncarried,newest⟩
    intro claimed shadowed
    exact uncarried ((carried_unreached (unattached.claim _ claimed)).mpr shadowed)
  · intro answerable
    rcases @verdictForPane_cases _ deps _ terminal with ⟨key,named,isTerminal,keyed,answered⟩ | refused
    · have created := createRequestId_of_nonEmpty keyed
      cases answered with
      | attached terminalId attach held live =>
        exact ⟨fun _ => ⟨terminalId,held,live⟩,by simp [attach],by simp [attach]⟩
      | respawned sref respawn held unattached resolved resumable =>
        have current := answerable named isTerminal key sref keyed unattached resolved resumable
        have uncarried : ¬Carried deps sref := by
          by_cases claimed : effectiveClaim pane = some sref
          · rw [carried_unreached (unattached.claim sref claimed)]
            exact current.claimed claimed
          · exact current.other claimed
        exact ⟨by simp [respawn],fun _ => ⟨key,sref,created,held,resumable,uncarried,current.newest⟩,by simp [respawn]⟩
      | dead sref dead held indexed known lost =>
        exact ⟨by simp [dead],by simp [dead],fun _ => ⟨key,sref,created,held,indexed,known,lost⟩⟩
      | other passive =>
        rcases passive with fresh | failed
        · exact ⟨by simp [fresh],by simp [fresh],by simp [fresh]⟩
        · exact ⟨by simp [failed],by simp [failed],by simp [failed]⟩
    · exact .refused refused

theorem attached_paneKey (found : (claimedVerdict deps pane).or (liveVerdict deps pane key) = some answer) :
    answer.paneKey = pane.paneKey := by
  rcases Option.or_eq_some_iff.mp found with claimed | ⟨_,live⟩
  · simp only [claimedVerdict,Option.bind_eq_bind,Option.bind_eq_some_iff,Option.pure_def,Option.some.injEq] at claimed
    obtain ⟨claim,_,terminalId,_,rfl⟩ := claimed
    rfl
  · simp only [liveVerdict] at live
    split at live
    · obtain rfl := Option.some.inj live
      split <;> rfl
    · obtain rfl := Option.some.inj live
      rfl
    · obtain rfl := Option.some.inj live
      rfl
    · cases live

theorem respawnVerdict_paneKey : (respawnVerdict deps pane key sref).paneKey = pane.paneKey := by
  simp only [respawnVerdict]
  split <;> rfl

theorem existenceVerdict_paneKey : (existenceVerdict deps pane key sref).paneKey = pane.paneKey := by
  simp only [existenceVerdict]
  split
  · exact respawnVerdict_paneKey
  · split
    · exact respawnVerdict_paneKey
    · split
      · exact respawnVerdict_paneKey
      · split <;> rfl
  · rfl
  · rfl

theorem terminalVerdict_paneKey : (terminalVerdict deps pane key).paneKey = pane.paneKey := by
  simp only [terminalVerdict]
  split
  · next attached => exact attached_paneKey attached
  · split
    · simp only [freshVerdict]
      split
      · rfl
      · split <;> rfl
    · simp only [identifiedVerdict]
      split
      · rfl
      · split
        · rfl
        · exact existenceVerdict_paneKey

theorem freshAgentVerdict_paneKey (snapshot : Option (Table String FreshAgentPaneFacts)) :
    (freshAgentVerdict pane snapshot).paneKey = pane.paneKey := by
  simp only [freshAgentVerdict]
  split
  · rfl
  · split
    · split
      · rfl
      · split
        · rfl
        · split <;> rfl
        · split <;> rfl
        · rfl
        · rfl
    · rfl

theorem verdictForPane_paneKey : (verdictForPane deps pane).paneKey = pane.paneKey := by
  simp only [verdictForPane]
  split
  · rfl
  · split
    · rfl
    · split
      · split
        · rfl
        · exact terminalVerdict_paneKey
      · split
        · exact freshAgentVerdict_paneKey _
        · rfl

/-- The panes whose creation key no earlier pane had. -/
def unrepeated : List String → List ReconcilePane → List ReconcilePane
  | _, [] => []
  | seenKeys, pane :: rest =>
    match nonEmpty pane.createRequestId with
    | none => pane :: unrepeated seenKeys rest
    | some key => if key ∈ seenKeys then unrepeated seenKeys rest else pane :: unrepeated (key :: seenKeys) rest

structure Safe (deps : ReconcileDeps Payload) (panes : List ReconcilePane) : Prop where
  one : (deriveVerdicts deps panes).map (·.paneKey) = panes.map (·.paneKey)
  each : ∀ pane answer, (pane,answer) ∈ panes.zip (deriveVerdicts deps panes) → pane.kind ≠ some "fresh-agent" →
    SafeVerdict deps pane answer
  distinct : (panes.zip (deriveVerdicts deps panes)).Pairwise fun first second =>
    first.1.createRequestId = second.1.createRequestId → second.1.kind ≠ some "fresh-agent" →
    ¬(first.2.verdict ≠ .invalid ∧ second.2.verdict ≠ .invalid)

theorem deriveFrom_paneKeys (seenKeys : List String) (panes : List ReconcilePane) :
    (deriveFrom deps seenKeys panes).map (·.paneKey) = panes.map (·.paneKey) := by
  induction panes generalizing seenKeys with
  | nil => rfl
  | cons pane rest ih =>
    simp only [deriveFrom]
    split
    · simp only [List.map_cons,ih,verdictForPane_paneKey]
    · split
      · simp only [List.map_cons,ih]
        rfl
      · simp only [List.map_cons,ih,verdictForPane_paneKey]

variable {seenKeys : List String} {panes : List ReconcilePane}

theorem deriveFrom_answers (paired : (pane,answer) ∈ panes.zip (deriveFrom deps seenKeys panes)) :
    answer.verdict = .invalid ∨ pane ∈ unrepeated seenKeys panes ∧ answer = verdictForPane deps pane := by
  induction panes generalizing seenKeys with
  | nil => simp at paired
  | cons first rest ih =>
    simp only [deriveFrom] at paired
    simp only [unrepeated]
    cases keyed : nonEmpty first.createRequestId with
    | none =>
      simp only [keyed] at paired ⊢
      rcases List.mem_cons.mp paired with here | later
      · obtain ⟨rfl,rfl⟩ := Prod.mk.inj here
        exact .inr ⟨List.mem_cons_self,rfl⟩
      · rcases ih later with refused | ⟨listed,same⟩
        · exact .inl refused
        · exact .inr ⟨List.mem_cons_of_mem _ listed,same⟩
    | some key =>
      simp only [keyed] at paired ⊢
      split at paired
      · next repeated =>
        rw [if_pos repeated]
        rcases List.mem_cons.mp paired with here | later
        · obtain ⟨rfl,rfl⟩ := Prod.mk.inj here
          exact .inl rfl
        · exact ih later
      · next new =>
        rw [if_neg new]
        rcases List.mem_cons.mp paired with here | later
        · obtain ⟨rfl,rfl⟩ := Prod.mk.inj here
          exact .inr ⟨List.mem_cons_self,rfl⟩
        · rcases ih later with refused | ⟨listed,same⟩
          · exact .inl refused
          · exact .inr ⟨List.mem_cons_of_mem _ listed,same⟩

theorem answer_of_unrepeated (listed : pane ∈ unrepeated seenKeys panes) :
    (pane,verdictForPane deps pane) ∈ panes.zip (deriveFrom deps seenKeys panes) := by
  induction panes generalizing seenKeys with
  | nil => simp [unrepeated] at listed
  | cons first rest ih =>
    simp only [unrepeated] at listed
    simp only [deriveFrom]
    cases keyed : nonEmpty first.createRequestId with
    | none =>
      simp only [keyed,List.zip_cons_cons] at listed ⊢
      rcases List.mem_cons.mp listed with rfl | later
      · exact List.mem_cons_self
      · exact List.mem_cons_of_mem _ (ih later)
    | some key =>
      simp only [keyed] at listed ⊢
      split at listed
      · next repeated =>
        rw [if_pos repeated,List.zip_cons_cons]
        exact List.mem_cons_of_mem _ (ih listed)
      · next new =>
        rw [if_neg new,List.zip_cons_cons]
        rcases List.mem_cons.mp listed with rfl | later
        · exact List.mem_cons_self
        · exact List.mem_cons_of_mem _ (ih later)

theorem deriveFrom_seen (paired : (pane,answer) ∈ panes.zip (deriveFrom deps seenKeys panes))
    (keyed : nonEmpty pane.createRequestId = some key) (seen : key ∈ seenKeys) : answer.verdict = .invalid := by
  induction panes generalizing seenKeys with
  | nil => simp at paired
  | cons first rest ih =>
    simp only [deriveFrom] at paired
    split at paired
    · next keyless =>
      rcases List.mem_cons.mp paired with here | later
      · obtain ⟨rfl,rfl⟩ := Prod.mk.inj here
        rw [keyless] at keyed
        cases keyed
      · exact ih later seen
    · next own keyedFirst =>
      split at paired
      · rcases List.mem_cons.mp paired with here | later
        · obtain ⟨rfl,rfl⟩ := Prod.mk.inj here
          rfl
        · exact ih later seen
      · next new =>
        rcases List.mem_cons.mp paired with here | later
        · obtain ⟨rfl,rfl⟩ := Prod.mk.inj here
          obtain rfl := Option.some.inj (keyedFirst.symm.trans keyed)
          exact absurd seen new
        · exact ih later (List.mem_cons_of_mem _ seen)

theorem keyless_refused (terminal : pane.kind ≠ some "fresh-agent") (keyless : nonEmpty pane.createRequestId = none) :
    (verdictForPane deps pane).verdict = .invalid := by
  rcases @verdictForPane_cases _ deps _ terminal with ⟨key,_,_,keyed,_⟩ | refused
  · rw [keyless] at keyed
    cases keyed
  · exact refused

theorem deriveFrom_distinct (seenKeys : List String) (panes : List ReconcilePane) :
    (panes.zip (deriveFrom deps seenKeys panes)).Pairwise fun first second =>
      first.1.createRequestId = second.1.createRequestId → second.1.kind ≠ some "fresh-agent" →
      ¬(first.2.verdict ≠ .invalid ∧ second.2.verdict ≠ .invalid) := by
  have keylessLater : ∀ (seenKeys : List String) (rest : List ReconcilePane) (second : ReconcilePane × PaneVerdict),
      second ∈ rest.zip (deriveFrom deps seenKeys rest) → second.1.kind ≠ some "fresh-agent" →
      nonEmpty second.1.createRequestId = none → second.2.verdict = .invalid := by
    intro seenKeys rest second paired terminal keyless
    rcases deriveFrom_answers paired with refused | ⟨_,same⟩
    · exact refused
    · rw [same]
      exact keyless_refused terminal keyless
  induction panes generalizing seenKeys with
  | nil => exact List.Pairwise.nil
  | cons pane rest ih =>
    simp only [deriveFrom]
    split
    · next keyless =>
      refine List.pairwise_cons.mpr ⟨?_,ih _⟩
      intro second paired same terminal both
      exact both.2 (keylessLater _ _ second paired terminal (by rw [←same]; exact keyless))
    · next key keyed =>
      split
      · refine List.pairwise_cons.mpr ⟨?_,ih _⟩
        intro second _ _ _ both
        exact both.1 rfl
      · refine List.pairwise_cons.mpr ⟨?_,ih _⟩
        intro second paired same _ both
        exact both.2 (deriveFrom_seen paired (by rw [←same]; exact keyed) List.mem_cons_self)

end
/-- The row of a session that was superseded by another one. -/
def forkedRow : PaneLedger.BindingRow where
  ledgerVersion := 1
  provider := "claude"
  sessionId := "parent"
  mode := "claude"
  cwd := none
  liveTerminalId := none
  createRequestId := none
  originCreateRequestId := none
  createdAt := 1
  updatedAt := 2
  lastObservedAt := 2
  state := .retired
  retiredReason := some .superseded
  supersededBy := some ⟨"claude","child"⟩
  paneKind := none
  ownerEpoch := none
  ownerGeneration := none
  model := none
  sandbox := none
  permissionMode := none
  effort := none
  clientInstanceId := none
  deviceId := none
  tabKey := none
  lastAttributedAt := none

def childRow : PaneLedger.BindingRow :=
  { forkedRow with sessionId := "child", state := .bound, retiredReason := none, supersededBy := none }

/-- A live terminal resumes the child of a session that the ledger has superseded; both are on disk. -/
def forkedDeps : ReconcileDeps Unit where
  registry := ⟨(∅ : KeyedTable TerminalHandle.terminalId).put
    ⟨⟨"t","claude",.running,1,some "child",some "other"⟩,none,by simp⟩,∅,3⟩
  identity := ∅
  existence := ⟨fun _ _ => .present,fun _ _ => true,fun _ _ => true⟩
  paneLedger := some { bindings := ((∅ : KeyedTable PaneLedger.BindingRow.key).put forkedRow).put childRow }
  freshAgent := none
  managed := none

def parentPane : ReconcilePane := ⟨"p",some "terminal",some "claude",some "key",none,some ⟨"claude","parent"⟩,none⟩

def legacyPane : ReconcilePane := ⟨"p",some "terminal",some "claude",some "key",none,none,some "parent"⟩

end Freshell.Reconcile
