import Freshell.Library.Histories
import Freshell.Library.Runs

/-!
The queue that hydrates background panes one after the other, those of the nearest tabs
first. Each operation calls a trigger last, if it does, so what a trigger calls back is what
happens next. No pane is forgotten as long as the orders list the tabs that are pending.
-/
namespace Freshell.Client
open Freshell.Library.Runs Freshell.Library.Histories

structure HydrationEntry (Trigger : Type) where
  tabId : String
  paneId : String
  trigger : Trigger
deriving DecidableEq, Repr

inductive HydrationMark (Trigger : Type) where
  | registered (entry : HydrationEntry Trigger)
  | triggered (entry : HydrationEntry Trigger)
  | removed (paneId : String)
  | disposed
deriving DecidableEq, Repr

structure HydrationQueue (Trigger : Type) where
  /-- In the order in which the panes were first registered. -/
  entries : List (HydrationEntry Trigger)
  queue : List String
  activePane : Option String
  started : Bool
  disposed : Bool
  log : List (HydrationMark Trigger)
deriving DecidableEq, Repr

/-- The tabs that are pending, by their distance from the active one; all of them, as they
    come, where the active one has no place in the order. -/
def neighborFirstOrder (activeTabId : String) (tabOrder pendingTabIds : List String) : List String :=
  if activeTabId ∉ tabOrder then pendingTabIds
  else
    let activeIndex := tabOrder.idxOf activeTabId
    (List.range (max activeIndex (tabOrder.length - 1 - activeIndex))).flatMap fun earlier =>
      let d := earlier + 1
      (if d ≤ activeIndex then tabOrder[activeIndex - d]?.toList.filter (· ∈ pendingTabIds) else []) ++
        tabOrder[activeIndex + d]?.toList.filter (· ∈ pendingTabIds)

namespace HydrationQueue
variable {Trigger : Type}

def create : HydrationQueue Trigger where
  entries := []
  queue := []
  activePane := none
  started := false
  disposed := false
  log := []

def mark (state : HydrationQueue Trigger) (what : HydrationMark Trigger) : HydrationQueue Trigger :=
  { state with log := state.log ++ [what] }

def busy (state : HydrationQueue Trigger) : Bool := state.activePane.any (· ≠ "")

/-- The loop of `advance`. -/
def advanceFrom (state : HydrationQueue Trigger) : List String → HydrationQueue Trigger
  | [] => { state with queue := [] }
  | nextPaneId :: rest =>
    match state.entries.find? (·.paneId = nextPaneId) with
    | none => state.advanceFrom rest
    | some entry => { state with queue := rest, activePane := some nextPaneId }.mark (.triggered entry)

def advance (state : HydrationQueue Trigger) : HydrationQueue Trigger :=
  if state.disposed || state.busy then state else state.advanceFrom state.queue

/-- `Map.set`. -/
def setEntry (state : HydrationQueue Trigger) (entry : HydrationEntry Trigger) : HydrationQueue Trigger :=
  if entry.paneId ∈ state.entries.map (·.paneId) then
    { state with entries := state.entries.map fun old => if old.paneId = entry.paneId then entry else old }
  else { state with entries := state.entries ++ [entry] }

/-- `Map.delete`. -/
def deleteEntry (state : HydrationQueue Trigger) (paneId : String) : HydrationQueue Trigger :=
  { state with entries := state.entries.filter (·.paneId ≠ paneId) }

def register (state : HydrationQueue Trigger) (entry : HydrationEntry Trigger) (queueIfStarted : Bool) :
    HydrationQueue Trigger :=
  if state.disposed then state
  else
    let state := (state.setEntry entry).mark (.registered entry)
    if queueIfStarted && state.started && state.activePane ≠ some entry.paneId && entry.paneId ∉ state.queue then
      { state with queue := state.queue ++ [entry.paneId] }.advance
    else state

/-- The pane is not the active one any more, and the next one is triggered. -/
def release (state : HydrationQueue Trigger) (paneId : String) : HydrationQueue Trigger :=
  if state.activePane = some paneId then { state with activePane := none }.advance else state

def unregister (state : HydrationQueue Trigger) (paneId : String) : HydrationQueue Trigger :=
  let state := (state.deleteEntry paneId).mark (.removed paneId)
  { state with queue := state.queue.filter (· ≠ paneId) }.release paneId

def onActiveTabReady (state : HydrationQueue Trigger) (activeTabId : String) (tabOrder : List String) : HydrationQueue Trigger :=
  if state.disposed || state.started then state
  else
    let pendingTabIds := (state.entries.map (·.tabId)).eraseDups.filter (· ≠ activeTabId)
    let orderedTabIds := neighborFirstOrder activeTabId tabOrder pendingTabIds
    let queue := orderedTabIds.flatMap fun tabId => (state.entries.filter (·.tabId = tabId)).map (·.paneId)
    { state with started := true, queue := queue }.advance

def onHydrationComplete (state : HydrationQueue Trigger) (paneId : String) : HydrationQueue Trigger :=
  if state.disposed then state else ((state.deleteEntry paneId).mark (.removed paneId)).release paneId

def pendingTabs (state : HydrationQueue Trigger) (activeTabId : String) : List String :=
  (state.queue.filterMap fun paneId => (state.entries.find? (·.paneId = paneId)).map (·.tabId)).eraseDups.filter
    (· ≠ activeTabId)

def onActiveTabChanged (state : HydrationQueue Trigger) (activeTabId : String) (tabOrder : List String) :
    HydrationQueue Trigger :=
  if state.disposed then state
  else
    let orderedTabIds := neighborFirstOrder activeTabId tabOrder (state.pendingTabs activeTabId)
    let newQueue := orderedTabIds.flatMap fun tabId =>
      (state.entries.filter fun entry => entry.tabId = tabId ∧ entry.paneId ∈ state.queue).map (·.paneId)
    { state with queue := newQueue }

def dispose (state : HydrationQueue Trigger) : HydrationQueue Trigger :=
  { state with disposed := true, entries := [], queue := [], activePane := none }.mark .disposed

end HydrationQueue

inductive HydrationEvent (Trigger : Type) where
  | register (entry : HydrationEntry Trigger) (queueIfStarted : Bool)
  | unregister (paneId : String)
  | onActiveTabReady (activeTabId : String) (tabOrder : List String)
  | onHydrationComplete (paneId : String)
  | onActiveTabChanged (activeTabId : String) (tabOrder : List String)
  | dispose
deriving DecidableEq, Repr

namespace HydrationQueue
variable {Trigger : Type}

def next (state : HydrationQueue Trigger) : HydrationEvent Trigger → HydrationQueue Trigger
  | .register entry queueIfStarted => state.register entry queueIfStarted
  | .unregister paneId => state.unregister paneId
  | .onActiveTabReady activeTabId tabOrder => state.onActiveTabReady activeTabId tabOrder
  | .onHydrationComplete paneId => state.onHydrationComplete paneId
  | .onActiveTabChanged activeTabId tabOrder => state.onActiveTabChanged activeTabId tabOrder
  | .dispose => state.dispose

theorem neighborFirstOrder_mem {activeTabId tab : String} {tabOrder pendingTabIds : List String} (pending : tab ∈ pendingTabIds)
    (other : tab ≠ activeTabId) (placed : activeTabId ∉ tabOrder ∨ tab ∈ tabOrder) :
    tab ∈ neighborFirstOrder activeTabId tabOrder pendingTabIds := by
  unfold neighborFirstOrder
  split
  · exact pending
  rename_i inOrder
  obtain unplaced | listed := placed
  · exact absurd unplaced inOrder
  have here : activeTabId ∈ tabOrder := by simpa using inOrder
  have inside := List.idxOf_lt_length_of_mem here
  obtain ⟨index,within,at_⟩ := List.getElem_of_mem listed
  have apart : index ≠ tabOrder.idxOf activeTabId := by
    rintro rfl
    exact other (at_.symm.trans (List.getElem_idxOf inside))
  obtain before | behind := Nat.lt_or_gt_of_ne apart
  · refine List.mem_flatMap.mpr ⟨tabOrder.idxOf activeTabId - index - 1,List.mem_range.mpr (by omega),List.mem_append_left _ ?_⟩
    rw [if_pos (by omega),show tabOrder.idxOf activeTabId - (tabOrder.idxOf activeTabId - index - 1 + 1) = index by omega,
      List.getElem?_eq_getElem within]
    simp [at_,pending]
  · refine List.mem_flatMap.mpr ⟨index - tabOrder.idxOf activeTabId - 1,List.mem_range.mpr (by omega),List.mem_append_right _ ?_⟩
    rw [show tabOrder.idxOf activeTabId + (index - tabOrder.idxOf activeTabId - 1 + 1) = index by omega,
      List.getElem?_eq_getElem within]
    simp [at_,pending]

def hydrating (log : List (HydrationMark Trigger)) : List String :=
  log.foldl (fun panes mark =>
    match mark with
    | .registered _ => panes
    | .triggered entry => panes ++ [entry.paneId]
    | .removed paneId => panes.filter (· ≠ paneId)
    | .disposed => []) []

theorem hydrating_concat (log : List (HydrationMark Trigger)) (mark : HydrationMark Trigger) :
    hydrating (log ++ [mark]) =
      match mark with
      | .registered _ => hydrating log
      | .triggered entry => hydrating log ++ [entry.paneId]
      | .removed paneId => (hydrating log).filter (· ≠ paneId)
      | .disposed => [] := by
  simp only [hydrating,List.foldl_append,List.foldl_cons,List.foldl_nil]

def Ends (paneId : String) : HydrationMark Trigger → Prop
  | .registered entry => entry.paneId = paneId
  | .triggered entry => entry.paneId = paneId
  | .removed removed => removed = paneId
  | .disposed => True

def Fresh (entry : HydrationEntry Trigger) (log : List (HydrationMark Trigger)) : Prop :=
  Since (fun _ mark => mark = .registered entry) (fun _ mark => ¬Ends entry.paneId mark) log

/-- Only what is registered is triggered, and once for each registration. -/
def OnceTriggered (log : List (HydrationMark Trigger)) : Prop :=
  ∀ before entry after, log = before ++ .triggered entry :: after → Fresh entry before

theorem onceTriggered_concat {log : List (HydrationMark Trigger)} {mark : HydrationMark Trigger} (once : OnceTriggered log)
    (newest : ∀ entry, mark = .triggered entry → Fresh entry log) : OnceTriggered (log ++ [mark]) := by
  intro before entry after split
  obtain rfl | ⟨older,last,rfl⟩ := after.eq_nil_or_concat'
  · obtain ⟨rfl,same⟩ := List.append_inj' split rfl
    exact newest entry (List.singleton_inj.mp same)
  · have regrouped : log ++ [mark] = (before ++ .triggered entry :: older) ++ [last] := by simpa using split
    exact once before entry older (List.append_inj' regrouped rfl).1

structure Tracked (state : HydrationQueue Trigger) : Prop where
  named : ∀ entry ∈ state.entries, entry.paneId ≠ ""
  active : ∀ paneId, state.activePane = some paneId → paneId ≠ ""
  fresh : ∀ entry ∈ state.entries, state.activePane = some entry.paneId ∨ Fresh entry state.log
  hydrating : hydrating state.log = state.activePane.toList
  once : OnceTriggered state.log

namespace Tracked
variable {state : HydrationQueue Trigger}

theorem create : Tracked (create : HydrationQueue Trigger) where
  named := by simp [HydrationQueue.create]
  active := by simp [HydrationQueue.create]
  fresh := by simp [HydrationQueue.create]
  hydrating := rfl
  once := by
    intro before entry after split
    simp [HydrationQueue.create] at split

theorem idle (tracked : Tracked state) (free : state.busy = false) : state.activePane = none := by
  cases active : state.activePane with
  | none => rfl
  | some paneId =>
    have some := tracked.active paneId active
    simp [busy,active,some] at free

theorem requeue (tracked : Tracked state) (queue : List String) (started : Bool) :
    Tracked { state with queue := queue, started := started } :=
  ⟨tracked.named,tracked.active,tracked.fresh,tracked.hydrating,tracked.once⟩

theorem advanceFrom (tracked : Tracked state) (free : state.activePane = none) (queue : List String) :
    Tracked (state.advanceFrom queue) := by
  induction queue with
  | nil => exact tracked.requeue [] state.started
  | cons paneId rest ih =>
    unfold HydrationQueue.advanceFrom
    cases found : state.entries.find? (·.paneId = paneId) with
    | none => exact ih
    | some entry =>
      have listed := List.mem_of_find?_eq_some found
      have own : entry.paneId = paneId := by simpa using List.find?_some found
      have fresh : Fresh entry state.log := by
        have fresh := tracked.fresh entry listed
        simpa [free] using fresh
      refine ⟨tracked.named,?_,?_,?_,?_⟩
      · intro other active
        obtain rfl := Option.some.inj active
        exact own ▸ tracked.named entry listed
      · intro other among
        by_cases same : other.paneId = paneId
        · exact .inl (congrArg some same.symm)
        · have kept : Fresh other state.log := by simpa [free] using tracked.fresh other among
          exact .inr (since_concat.mpr (.inr ⟨kept,fun ends => same (Eq.trans (Eq.symm ends) own)⟩))
      · simp [mark,hydrating_concat,tracked.hydrating,free,own]
      · refine onceTriggered_concat tracked.once fun other same => ?_
        obtain rfl := HydrationMark.triggered.inj same
        exact fresh

theorem advance (tracked : Tracked state) : Tracked state.advance := by
  unfold HydrationQueue.advance
  split
  · exact tracked
  · rename_i free
    exact tracked.advanceFrom (tracked.idle (by simpa using (Bool.or_eq_false_iff.mp (by simpa using free)).2)) state.queue

theorem remove (tracked : Tracked state) (paneId : String) (queue : List String) :
    Tracked ({ (state.deleteEntry paneId).mark (.removed paneId) with queue := queue }.release paneId) := by
  have others : ∀ entry ∈ (state.deleteEntry paneId).entries, entry ∈ state.entries ∧ entry.paneId ≠ paneId := by
    intro entry listed
    simpa [deleteEntry] using listed
  have kept : ∀ entry ∈ (state.deleteEntry paneId).entries, Fresh entry state.log →
      Fresh entry (state.log ++ [.removed paneId]) := fun entry listed fresh =>
    since_concat.mpr (.inr ⟨fresh,fun ends => (others entry listed).2 (Eq.symm ends)⟩)
  have once : OnceTriggered (state.log ++ [.removed paneId]) := onceTriggered_concat tracked.once (by simp)
  unfold HydrationQueue.release
  split
  · rename_i active
    change state.activePane = some paneId at active
    refine Tracked.advance ⟨fun entry listed => tracked.named entry (others entry listed).1,by simp,?_,?_,once⟩
    · intro entry listed
      obtain own | fresh := tracked.fresh entry (others entry listed).1
      · exact absurd (Option.some.inj (own.symm.trans active)) (others entry listed).2
      · exact .inr (kept entry listed fresh)
    · simp [mark,deleteEntry,hydrating_concat,tracked.hydrating,active]
  · rename_i other
    change ¬state.activePane = some paneId at other
    refine ⟨fun entry listed => tracked.named entry (others entry listed).1,tracked.active,?_,?_,once⟩
    · intro entry listed
      exact (tracked.fresh entry (others entry listed).1).imp_right (kept entry listed)
    · simp only [mark,deleteEntry,hydrating_concat,tracked.hydrating]
      cases active : state.activePane with
      | none => rfl
      | some own =>
        have apart : own ≠ paneId := fun same => other (same ▸ active)
        simp [apart]

theorem set (tracked : Tracked state) {entry : HydrationEntry Trigger} (named : entry.paneId ≠ "") :
    Tracked ((state.setEntry entry).mark (.registered entry)) := by
  have members : ∀ other ∈ (state.setEntry entry).entries,
      other = entry ∨ (other ∈ state.entries ∧ other.paneId ≠ entry.paneId) := by
    intro other listed
    unfold setEntry at listed
    split at listed
    · obtain ⟨old,among,same⟩ := List.mem_map.mp listed
      by_cases own : old.paneId = entry.paneId
      · exact .inl (same.symm.trans (if_pos own))
      · obtain rfl : old = other := (if_neg own).symm.trans same
        exact .inr ⟨among,own⟩
    · rename_i unknown
      obtain among | new := List.mem_append.mp listed
      · exact .inr ⟨among,fun own => unknown (List.mem_map.mpr ⟨other,among,own⟩)⟩
      · exact .inl (List.mem_singleton.mp new)
  have rest : (state.setEntry entry).activePane = state.activePane ∧ (state.setEntry entry).log = state.log := by
    unfold setEntry
    split <;> exact ⟨rfl,rfl⟩
  refine ⟨?_,?_,?_,?_,?_⟩
  · intro other listed
    obtain rfl | ⟨among,_⟩ := members other listed
    · exact named
    · exact tracked.named other among
  · intro paneId active
    exact tracked.active paneId (rest.1.symm.trans active)
  · intro other listed
    simp only [mark,rest]
    obtain rfl | ⟨among,apart⟩ := members other listed
    · exact .inr (since_concat.mpr (.inl rfl))
    · refine (tracked.fresh other among).imp_right fun fresh => ?_
      exact since_concat.mpr (.inr ⟨fresh,fun ends => apart (Eq.symm ends)⟩)
  · simp only [mark,rest,hydrating_concat,tracked.hydrating]
  · simp only [mark,rest]
    exact onceTriggered_concat tracked.once (by simp)

theorem dispose (tracked : Tracked state) : Tracked state.dispose where
  named := by simp [HydrationQueue.dispose,mark]
  active := by simp [HydrationQueue.dispose,mark]
  fresh := by simp [HydrationQueue.dispose,mark]
  hydrating := by simp [HydrationQueue.dispose,mark,hydrating_concat]
  once := onceTriggered_concat tracked.once (by simp)

theorem next (tracked : Tracked state) (event : HydrationEvent Trigger)
    (named : ∀ entry queueIfStarted, event = .register entry queueIfStarted → entry.paneId ≠ "") : Tracked (state.next event) := by
  cases event with
  | register entry queueIfStarted =>
    have set := tracked.set (named entry queueIfStarted rfl)
    simp only [HydrationQueue.next,register]
    split
    · exact tracked
    split
    · exact (set.requeue _ _).advance
    · exact set
  | unregister paneId => exact tracked.remove paneId _
  | onActiveTabReady activeTabId tabOrder =>
    simp only [HydrationQueue.next,onActiveTabReady]
    split
    · exact tracked
    · exact (tracked.requeue _ true).advance
  | onHydrationComplete paneId =>
    simp only [HydrationQueue.next,onHydrationComplete]
    split
    · exact tracked
    · exact tracked.remove paneId state.queue
  | onActiveTabChanged activeTabId tabOrder =>
    simp only [HydrationQueue.next,onActiveTabChanged]
    split
    · exact tracked
    · exact tracked.requeue _ state.started
  | dispose => exact tracked.dispose

end Tracked
structure Kept (paneId : String) (state : HydrationQueue Trigger) : Prop where
  started : state.started = true
  registered : paneId ∈ state.entries.map (·.paneId)
  pending : paneId ∈ state.queue ∨ state.activePane = some paneId

/-- What may take a pane out of the queue for good. -/
def Discharges (paneId : String) (state : HydrationQueue Trigger) : HydrationEvent Trigger → Prop
  | .unregister removed => removed = paneId
  | .onHydrationComplete complete => complete = paneId
  | .onActiveTabChanged activeTabId _ => ∃ entry ∈ state.entries, entry.paneId = paneId ∧ entry.tabId = activeTabId
  | .dispose => True
  | _ => False

/-- A pane has a name, and an order that lists the active tab lists those that are pending. -/
def Covering (state : HydrationQueue Trigger) : HydrationEvent Trigger → Prop
  | .register entry _ => entry.paneId ≠ ""
  | .onActiveTabReady activeTabId tabOrder => state.started = true ∨ activeTabId ∉ tabOrder ∨
      ∀ entry ∈ state.entries, entry.tabId = activeTabId ∨ entry.tabId ∈ tabOrder
  | .onActiveTabChanged activeTabId tabOrder => activeTabId ∉ tabOrder ∨
      ∀ entry ∈ state.entries, entry.paneId ∈ state.queue → entry.tabId = activeTabId ∨ entry.tabId ∈ tabOrder
  | _ => True

instance decidableCovering (state : HydrationQueue Trigger) : (event : HydrationEvent Trigger) → Decidable (Covering state event)
  | .register entry _ => inferInstanceAs (Decidable (entry.paneId ≠ ""))
  | .onActiveTabReady activeTabId tabOrder => inferInstanceAs (Decidable (state.started = true ∨ activeTabId ∉ tabOrder ∨
      ∀ entry ∈ state.entries, entry.tabId = activeTabId ∨ entry.tabId ∈ tabOrder))
  | .onActiveTabChanged activeTabId tabOrder => inferInstanceAs (Decidable (activeTabId ∉ tabOrder ∨
      ∀ entry ∈ state.entries, entry.paneId ∈ state.queue → entry.tabId = activeTabId ∨ entry.tabId ∈ tabOrder))
  | .unregister _ => .isTrue trivial
  | .onHydrationComplete _ => .isTrue trivial
  | .dispose => .isTrue trivial

section
variable {state : HydrationQueue Trigger} {paneId : String}

theorem advanceFrom_rest (state : HydrationQueue Trigger) (queue : List String) :
    (state.advanceFrom queue).entries = state.entries ∧ (state.advanceFrom queue).started = state.started := by
  induction queue with
  | nil => exact ⟨rfl,rfl⟩
  | cons first rest ih =>
    unfold advanceFrom
    split
    · exact ih
    · exact ⟨rfl,rfl⟩

theorem advanceFrom_pending (registered : paneId ∈ state.entries.map (·.paneId)) {queue : List String}
    (listed : paneId ∈ queue) :
    paneId ∈ (state.advanceFrom queue).queue ∨ (state.advanceFrom queue).activePane = some paneId := by
  induction queue with
  | nil => simp at listed
  | cons first rest ih =>
    unfold advanceFrom
    obtain rfl | later := List.mem_cons.mp listed
    · split
      · rename_i missing
        obtain ⟨entry,among,own⟩ := List.mem_map.mp registered
        exact absurd own (by simpa using List.find?_eq_none.mp missing entry among)
      · exact .inr rfl
    · split
      · exact ih later
      · exact .inl later

theorem Kept.advance (kept : Kept paneId state) (idle : state.busy = false → state.activePane = none) :
    Kept paneId state.advance := by
  unfold HydrationQueue.advance
  split
  · exact kept
  · rename_i free
    have none := idle (by simpa using (Bool.or_eq_false_iff.mp (by simpa using free)).2)
    obtain listed | active := kept.pending
    · obtain ⟨entries,started⟩ := advanceFrom_rest state state.queue
      exact ⟨started.trans kept.started,entries.symm ▸ kept.registered,advanceFrom_pending kept.registered listed⟩
    · simp [none] at active

/-- The removal of another pane leaves the pane where it is, or makes it the active one. -/
theorem Kept.remove (kept : Kept paneId state) {removed : String} (other : removed ≠ paneId) {queue : List String}
    (listed : paneId ∈ state.queue → paneId ∈ queue) :
    Kept paneId ({ (state.deleteEntry removed).mark (.removed removed) with queue := queue }.release removed) := by
  have registered : paneId ∈ (state.deleteEntry removed).entries.map (·.paneId) := by
    obtain ⟨entry,among,own⟩ := List.mem_map.mp kept.registered
    refine List.mem_map.mpr ⟨entry,List.mem_filter.mpr ⟨among,?_⟩,own⟩
    simpa [own] using fun same => other same.symm
  unfold release
  split
  · rename_i active
    change state.activePane = some removed at active
    refine Kept.advance ⟨kept.started,registered,.inl ?_⟩ fun _ => rfl
    obtain queued | own := kept.pending
    · exact listed queued
    · exact absurd (Option.some.inj (active.symm.trans own)) other
  · exact ⟨kept.started,registered,kept.pending.imp_left listed⟩

theorem setEntry_registered (state : HydrationQueue Trigger) (entry : HydrationEntry Trigger)
    (registered : paneId ∈ state.entries.map (·.paneId)) : paneId ∈ (state.setEntry entry).entries.map (·.paneId) := by
  unfold setEntry
  split
  · obtain ⟨old,among,own⟩ := List.mem_map.mp registered
    refine List.mem_map.mpr ⟨_,List.mem_map.mpr ⟨old,among,rfl⟩,?_⟩
    split
    · exact Eq.trans (Eq.symm ‹_›) own
    · exact own
  · rw [List.map_append]
    exact List.mem_append_left _ registered

theorem Kept.set (kept : Kept paneId state) (entry : HydrationEntry Trigger) :
    Kept paneId ((state.setEntry entry).mark (.registered entry)) := by
  have rest : (state.setEntry entry).started = state.started ∧ (state.setEntry entry).queue = state.queue ∧
      (state.setEntry entry).activePane = state.activePane := by
    unfold setEntry
    split <;> exact ⟨rfl,rfl,rfl⟩
  refine ⟨rest.1.trans kept.started,setEntry_registered state entry kept.registered,?_⟩
  simp only [mark,rest]
  exact kept.pending

theorem Kept.reordered (kept : Kept paneId state) (listed : paneId ∈ state.queue) {activeTabId : String}
    {tabOrder : List String} (covering : Covering state (.onActiveTabChanged activeTabId tabOrder))
    (background : ¬Discharges paneId state (.onActiveTabChanged activeTabId tabOrder)) :
    paneId ∈ (neighborFirstOrder activeTabId tabOrder (state.pendingTabs activeTabId)).flatMap fun tabId =>
      (state.entries.filter fun entry => entry.tabId = tabId ∧ entry.paneId ∈ state.queue).map (·.paneId) := by
  cases found : state.entries.find? (·.paneId = paneId) with
  | none =>
    obtain ⟨entry,among,own⟩ := List.mem_map.mp kept.registered
    exact absurd own (by simpa using List.find?_eq_none.mp found entry among)
  | some entry =>
    have among := List.mem_of_find?_eq_some found
    have own : entry.paneId = paneId := by simpa using List.find?_some found
    have other : entry.tabId ≠ activeTabId := fun same => background ⟨entry,among,own,same⟩
    have pending : entry.tabId ∈ state.pendingTabs activeTabId := by
      refine List.mem_filter.mpr ⟨List.mem_eraseDups.mpr (List.mem_filterMap.mpr ⟨paneId,listed,?_⟩),by simpa using other⟩
      rw [found]
      rfl
    refine List.mem_flatMap.mpr ⟨entry.tabId,neighborFirstOrder_mem pending other ?_,?_⟩
    · refine covering.imp_right fun covered => ?_
      exact (covered entry among (own ▸ listed)).resolve_left other
    · exact List.mem_map.mpr ⟨entry,List.mem_filter.mpr ⟨among,by simpa using own ▸ listed⟩,own⟩

theorem Kept.next (kept : Kept paneId state) (tracked : Tracked state) {event : HydrationEvent Trigger}
    (covering : Covering state event) : Discharges paneId state event ∨ Kept paneId (state.next event) := by
  cases event with
  | register entry queueIfStarted =>
    right
    have set := kept.set entry
    simp only [HydrationQueue.next,register]
    split
    · exact kept
    split
    · have tracks : Tracked ((state.setEntry entry).mark (.registered entry)) := tracked.set covering
      exact Kept.advance ⟨set.started,set.registered,set.pending.imp_left (List.mem_append_left _)⟩ tracks.idle
    · exact set
  | unregister removed =>
    by_cases own : removed = paneId
    · exact .inl own
    · exact .inr (kept.remove own fun listed => List.mem_filter.mpr ⟨listed,by simpa using fun same => own same.symm⟩)
  | onActiveTabReady activeTabId tabOrder =>
    right
    simpa [HydrationQueue.next,onActiveTabReady,kept.started] using kept
  | onHydrationComplete complete =>
    by_cases own : complete = paneId
    · exact .inl own
    · right
      simp only [HydrationQueue.next,onHydrationComplete]
      split
      · exact kept
      · exact kept.remove own id
  | onActiveTabChanged activeTabId tabOrder =>
    by_cases background : Discharges paneId state (.onActiveTabChanged activeTabId tabOrder)
    · exact .inl background
    · right
      simp only [HydrationQueue.next,onActiveTabChanged]
      split
      · exact kept
      · refine ⟨kept.started,kept.registered,?_⟩
        obtain listed | active := kept.pending
        · exact .inl (kept.reordered listed covering background)
        · exact .inr active
  | dispose => exact .inl trivial

theorem ready_keeps (tracked : Tracked state) {activeTabId : String} {tabOrder : List String}
    (undisposed : state.disposed = false) (unstarted : state.started = false)
    (covering : Covering state (.onActiveTabReady activeTabId tabOrder)) {entry : HydrationEntry Trigger}
    (listed : entry ∈ state.entries) (background : entry.tabId ≠ activeTabId) :
    Kept entry.paneId (state.next (.onActiveTabReady activeTabId tabOrder)) := by
  have registered : entry.paneId ∈ state.entries.map (·.paneId) := List.mem_map.mpr ⟨entry,listed,rfl⟩
  simp only [next,onActiveTabReady,undisposed,unstarted,Bool.or_self,Bool.false_eq_true,if_false]
  refine Kept.advance ⟨rfl,registered,.inl ?_⟩ tracked.idle
  have pending : entry.tabId ∈ (state.entries.map (·.tabId)).eraseDups.filter (· ≠ activeTabId) :=
    List.mem_filter.mpr ⟨List.mem_eraseDups.mpr (List.mem_map.mpr ⟨entry,listed,rfl⟩),by simpa using background⟩
  refine List.mem_flatMap.mpr ⟨entry.tabId,neighborFirstOrder_mem pending background ?_,?_⟩
  · exact (covering.resolve_left (by simp [unstarted])).imp_right fun covered => (covered entry listed).resolve_left background
  · exact List.mem_map.mpr ⟨entry,List.mem_filter.mpr ⟨listed,by simp⟩,rfl⟩

end

theorem tracked_run {events : List (HydrationEvent Trigger)} (covering : Along next Covering create events) :
    Tracked (run next create events) := by
  refine @invariant_run _ _ next Tracked Covering (fun state event tracked covered => ?_) create events Tracked.create covering
  refine tracked.next event fun entry queueIfStarted same => ?_
  subst same
  exact covered

/-- In every run with named panes and orders that list the tabs that are pending, one pane at
    most is hydrated; a pane is triggered only while registered and once for each registration;
    the queue starts with every background pane; and a pane that is registered and queued stays
    queued or active until it is unregistered, complete, of the tab that is made active, or the
    queue is disposed of. -/
theorem hydration_covers {before after : List (HydrationEvent Trigger)}
    (covering : Along next Covering create (before ++ after)) :
    let state := run next create before
    (hydrating state.log).length ≤ 1 ∧ OnceTriggered state.log ∧
      (∀ activeTabId tabOrder rest, after = .onActiveTabReady activeTabId tabOrder :: rest → state.disposed = false →
        state.started = false → ∀ entry ∈ state.entries, entry.tabId ≠ activeTabId →
        Kept entry.paneId (state.next (.onActiveTabReady activeTabId tabOrder))) ∧
      ∀ paneId, Kept paneId state → Until next (Kept paneId) (Discharges paneId) state after := by
  intro state
  obtain ⟨first,second⟩ := (along_append next Covering create before after).mp covering
  have tracked : Tracked state := tracked_run first
  refine ⟨?_,tracked.once,?_,?_⟩
  · rw [tracked.hydrating]
    cases state.activePane <;> simp
  · rintro activeTabId tabOrder rest rfl undisposed unstarted entry listed background
    exact ready_keeps tracked undisposed unstarted second.1 listed background
  · intro paneId kept
    refine @until_along _ _ next Tracked Covering (Kept paneId) (Discharges paneId) (fun state event tracked covered => ?_)
      (fun state event tracked covered kept => kept.next tracked covered) state after tracked second kept
    refine tracked.next event fun entry queueIfStarted same => ?_
    subst same
    exact covered

def threePanes (tabOrder : List String) : List (HydrationEvent Unit) :=
  [.register ⟨"t1","p1",()⟩ false,.register ⟨"t2","p2",()⟩ false,.register ⟨"t3","p3",()⟩ false,
    .onActiveTabReady "t0" tabOrder]

theorem hydration_covers_three : Until next (Kept "p3") (Discharges "p3") (run next create (threePanes ["t0","t1","t2","t3"]))
    [.onActiveTabChanged "t1" ["t0","t1","t2","t3"]] :=
  (hydration_covers (by decide +kernel)).2.2.2 "p3" ⟨by decide +kernel,by decide +kernel,by decide +kernel⟩

/-- An order without the third tab takes its pane out of the queue, for good. -/
theorem unlisted_tab_forgotten : ¬∀ (before after : List (HydrationEvent Unit)) (paneId : String),
    Kept paneId (run next create before) → Until next (Kept paneId) (Discharges paneId) (run next create before) after := by
  intro claimed
  have told := claimed (threePanes ["t0","t1","t2","t3"]) [.onActiveTabChanged "t1" ["t0","t1","t2"]] "p3"
    ⟨by decide +kernel,by decide +kernel,by decide +kernel⟩
  obtain ⟨entry,listed,own,same⟩ | kept := told.2
  · have tabs : ∀ entry ∈ (run next create (threePanes ["t0","t1","t2","t3"])).entries, entry.paneId = "p3" →
        entry.tabId ≠ "t1" := by decide +kernel
    exact tabs entry listed own same
  · have pending := Kept.pending kept
    revert pending
    decide +kernel

end HydrationQueue
end Freshell.Client
