import Freshell.Panes.Coherence

/-!
Sequences of layout actions. A reset keeps what the tables beside the tree say of the panes
it takes away, and so do some closes; every sequence without such a step stays coherent.
-/
namespace Freshell.Panes
open Freshell.Library.Runs Freshell.Library.Tables Freshell.Library.BinaryTrees

inductive LayoutAction (Content Input Size : Type) where
  | initLayout (tabId : String) (content : Input) (paneId : Option String)
  | restoreLayout (tabId : String) (layout : PaneNode Content Size) (paneTitles : Table String String)
      (paneTitleSetByUser : Option (Table String Bool)) (preserveCreateRequestIds : Bool)
  | resetLayout (tabId : String) (content : Input)
  | splitPane (tabId paneId : String) (direction : Direction) (newContent : Input) (newPaneId : Option String)
      (activate : Option Bool)
  | addPane (tabId : String) (newContent : Input) (newPaneId : Option String)
  | closePane (tabId paneId : String)
  | setActivePane (tabId paneId : String) (focusNudge : Bool)
  | toggleZoom (tabId paneId : String)
  | resizePanes (tabId splitId : String) (sizes : Size × Size)
  | resizeMultipleSplits (tabId : String) (resizes : List (String × (Size × Size)))
  | resetSplit (tabId splitId : String)
  | swapSplit (tabId splitId : String)
  | swapPanes (tabId paneId otherId : String)
  | replacePane (tabId paneId : String)

/-- An action with the ids that `nanoid` makes for it, a pane's and a split's. -/
structure Dispatch (Content Input Size : Type) where
  action : LayoutAction Content Input Size
  paneNanoid : String
  splitNanoid : String

variable {Content Input Size Target Attempt : Type}

def LayoutAction.tabId : LayoutAction Content Input Size → String
  | .initLayout tabId _ _ | .restoreLayout tabId _ _ _ _ | .resetLayout tabId _ | .splitPane tabId _ _ _ _ _
  | .addPane tabId _ _ | .closePane tabId _ | .setActivePane tabId _ _ | .toggleZoom tabId _ | .resizePanes tabId _ _
  | .resizeMultipleSplits tabId _ | .resetSplit tabId _ | .swapSplit tabId _ | .swapPanes tabId _ _
  | .replacePane tabId _ => tabId

namespace PanesState

def perform [OfNat Size 50] (rules : ContentRules Content Input Target) (state : PanesState Content Size Target Attempt)
    (dispatch : Dispatch Content Input Size) : PanesState Content Size Target Attempt :=
  match dispatch.action with
  | .initLayout tabId content paneId => state.initLayout rules tabId content (paneId.getD dispatch.paneNanoid)
  | .restoreLayout tabId layout paneTitles paneTitleSetByUser preserveCreateRequestIds =>
    state.restoreLayout rules tabId layout paneTitles paneTitleSetByUser preserveCreateRequestIds
  | .resetLayout tabId content => state.resetLayout rules tabId content dispatch.paneNanoid
  | .splitPane tabId paneId direction newContent newPaneId activate =>
    state.splitPane rules tabId paneId direction newContent (newPaneId.getD dispatch.paneNanoid) dispatch.splitNanoid activate
  | .addPane tabId newContent newPaneId =>
    state.addPane rules tabId newContent (newPaneId.getD dispatch.paneNanoid) dispatch.splitNanoid
  | .closePane tabId paneId => state.closePane rules tabId paneId
  | .setActivePane tabId paneId focusNudge => state.setActivePane tabId paneId focusNudge
  | .toggleZoom tabId paneId => state.toggleZoom tabId paneId
  | .resizePanes tabId splitId sizes => state.resizePanes tabId splitId sizes
  | .resizeMultipleSplits tabId resizes => state.resizeMultipleSplits tabId resizes
  | .resetSplit tabId splitId => state.resetSplit tabId splitId
  | .swapSplit tabId splitId => state.swapSplit tabId splitId
  | .swapPanes tabId paneId otherId => state.swapPanes rules tabId paneId otherId
  | .replacePane tabId paneId => state.replacePane rules tabId paneId

def Legal (state : PanesState Content Size Target Attempt) (dispatch : Dispatch Content Input Size) : Prop :=
  match dispatch.action with
  | .restoreLayout _ layout _ _ _ => (PaneNode.ids layout).Nodup
  | .splitPane tabId _ _ _ newPaneId _ | .addPane tabId _ newPaneId =>
    state.Fresh tabId (newPaneId.getD dispatch.paneNanoid) dispatch.splitNanoid
  | .setActivePane tabId paneId _ | .toggleZoom tabId paneId => state.Shows tabId paneId
  | _ => True

/-- What is brought is well-shaped and titles its own leaves; no tab is reset with a zoom,
    a flag or an epoch on it; what is closed is no split, and its title and flag, if it
    has them, are neither empty nor false. -/
def Sound (rules : ContentRules Content Input Target) (state : PanesState Content Size Target Attempt)
    (dispatch : Dispatch Content Input Size) : Prop :=
  match dispatch.action with
  | .initLayout _ content _ | .splitPane _ _ _ content _ _ | .addPane _ content _ =>
    rules.isPaneContentShape (rules.normalizePaneContent content) = true
  | .restoreLayout _ layout titles flags preserve =>
    (∀ paneId, (titles.lookup paneId).isSome → paneId ∈ PaneNode.leafIds layout) ∧
      (∀ table, flags = some table → ∀ paneId, (table.lookup paneId).isSome → paneId ∈ PaneNode.leafIds layout) ∧
      PaneNode.isWellFormedPaneTree rules.isPaneContentShape (normalizeRestoredTree rules preserve layout) = true
  | .resetLayout tabId content =>
    state.Plain tabId ∧ rules.isPaneContentShape (rules.normalizePaneContent content) = true
  | .closePane tabId paneId =>
    (∀ tree, state.layouts.lookup tabId = some tree → paneId ∉ PaneNode.splitIds tree) ∧
      find state.paneTitles tabId paneId ≠ some "" ∧ find state.paneTitleSetByUser tabId paneId ≠ some false
  | _ => True

/-- The one leaf that an action adds, removes or resets, in terms of what the leaves hold. -/
def Changes (rules : ContentRules Content Input Target) (state after : PanesState Content Size Target Attempt)
    (action : LayoutAction Content Input Size) : Prop :=
  match action with
  | .initLayout tabId content _ =>
    state.contents tabId = 0 ∧ after.contents tabId = {rules.normalizePaneContent content}
  | .restoreLayout tabId layout _ _ preserve =>
    state.contents tabId = 0 ∧ after.contents tabId = PaneNode.contents (normalizeRestoredTree rules preserve layout)
  | .resetLayout tabId content => after.contents tabId = {rules.normalizePaneContent content}
  | .splitPane tabId _ _ content _ _ | .addPane tabId content _ =>
    after.contents tabId = rules.normalizePaneContent content ::ₘ state.contents tabId
  | .closePane tabId paneId =>
    ∃ root pane, state.layouts.lookup tabId = some root ∧ PaneNode.findLeaf paneId root = some pane ∧
      state.contents tabId = pane.content ::ₘ after.contents tabId
  | .replacePane tabId paneId =>
    ∃ root pane, state.layouts.lookup tabId = some root ∧ PaneNode.findLeaf paneId root = some pane ∧
      pane.content ::ₘ after.contents tabId = rules.pickerContent ::ₘ state.contents tabId
  | _ => False

/-- Closing the pane that an action has just split off gives the trees from before it. -/
def Restores (rules : ContentRules Content Input Target) (state after : PanesState Content Size Target Attempt)
    (dispatch : Dispatch Content Input Size) : Prop :=
  match dispatch.action with
  | .splitPane tabId _ _ _ newPaneId _ | .addPane tabId _ newPaneId =>
    ∀ other, (after.closePane rules tabId (newPaneId.getD dispatch.paneNanoid)).layouts.lookup other =
      state.layouts.lookup other
  | _ => True

def Faithful [OfNat Size 50] (rules : ContentRules Content Input Target) (state : PanesState Content Size Target Attempt)
    (dispatch : Dispatch Content Input Size) : Prop :=
  let after := state.perform rules dispatch
  (∀ other, other ≠ dispatch.action.tabId → after.layouts.lookup other = state.layouts.lookup other) ∧
    (after.contents dispatch.action.tabId = state.contents dispatch.action.tabId ∨
      Changes rules state after dispatch.action) ∧ Restores rules state after dispatch

variable {rules : ContentRules Content Input Target} {state : PanesState Content Size Target Attempt}
  {dispatch : Dispatch Content Input Size}

theorem Coherent.perform [OfNat Size 50] (coherent : state.Coherent rules) (legal : state.Legal dispatch)
    (sound : state.Sound rules dispatch) : (state.perform rules dispatch).Coherent rules := by
  obtain ⟨action,paneNanoid,splitNanoid⟩ := dispatch
  cases action with
  | initLayout tabId content paneId =>
    simp only [PanesState.perform,PanesState.initLayout]
    split
    · exact coherent
    split
    · exact coherent
    next absent => exact coherent.showLeaf (plain_of_absent coherent (Option.not_isSome_iff_eq_none.mp absent)) sound
  | restoreLayout tabId layout titles flags preserve =>
    obtain ⟨titled,flagged,shaped⟩ := sound
    exact coherent.restoreLayout legal titled flagged shaped
  | resetLayout tabId content =>
    simp only [PanesState.perform,PanesState.resetLayout]
    split
    · exact coherent
    · exact coherent.showLeaf sound.1 sound.2
  | splitPane tabId paneId direction newContent newPaneId activate =>
    exact (splitPane_adds coherent tabId paneId direction newContent _ _ activate).coherent coherent legal sound
  | addPane tabId newContent newPaneId =>
    exact (addPane_adds coherent tabId newContent _ _).coherent coherent legal sound
  | closePane tabId paneId => exact coherent.closePane sound.1 sound.2.1 sound.2.2
  | setActivePane tabId paneId focusNudge => exact coherent.setActivePane focusNudge legal
  | toggleZoom tabId paneId => exact coherent.toggleZoom legal
  | resizePanes tabId splitId sizes => exact coherent.walkLayout tabId (PaneNode.rearranged_updateSizes splitId sizes)
  | resizeMultipleSplits tabId resizes => exact coherent.walkLayout tabId (PaneNode.rearranged_applySizes resizes)
  | resetSplit tabId splitId => exact coherent.walkLayout tabId (PaneNode.rearranged_updateSizes splitId _)
  | swapSplit tabId splitId => exact coherent.walkLayout tabId (PaneNode.rearranged_swapSplit splitId)
  | swapPanes tabId paneId otherId => exact coherent.swapPanes tabId paneId otherId
  | replacePane tabId paneId => exact coherent.replacePane tabId paneId

@[simp] theorem layouts_reconcile (rules : ContentRules Content Input Target)
    (state : PanesState Content Size Target Attempt) (tabId : String) :
    (reconcileRefreshRequestsForTab rules state tabId).layouts = state.layouts := by
  obtain ⟨_,same,_⟩ := reconcile_spec rules state tabId
  rw [same]

theorem layouts_showLeaf (rules : ContentRules Content Input Target) (state : PanesState Content Size Target Attempt)
    (tabId paneId : String) (content : Input) : (state.showLeaf rules tabId paneId content).layouts =
      state.layouts.insert tabId (.leaf ⟨paneId,rules.normalizePaneContent content⟩) := layouts_reconcile _ _ _

theorem layouts_restoreLayout (rules : ContentRules Content Input Target)
    (state : PanesState Content Size Target Attempt) (tabId : String) (layout : PaneNode Content Size)
    (titles : Table String String) (flags : Option (Table String Bool)) (preserve : Bool) :
    (state.restoreLayout rules tabId layout titles flags preserve).layouts = state.layouts ∨
      ¬ (state.layouts.lookup tabId).isSome ∧ (state.restoreLayout rules tabId layout titles flags preserve).layouts =
        state.layouts.insert tabId (normalizeRestoredTree rules preserve layout) := by
  unfold restoreLayout
  split
  · exact .inl rfl
  split
  · exact .inl rfl
  next absent => exact .inr ⟨absent,layouts_reconcile _ _ _⟩

theorem layouts_addedPane (rules : ContentRules Content Input Target) (state : PanesState Content Size Target Attempt)
    (tabId newPaneId : String) (newRoot : PaneNode Content Size) (content : Content) (activate : Bool) :
    (state.addedPane rules tabId newPaneId newRoot content activate).layouts = state.layouts.insert tabId newRoot :=
  layouts_reconcile _ _ _

theorem layouts_closedPane (rules : ContentRules Content Input Target) (state : PanesState Content Size Target Attempt)
    (tabId paneId : String) (newRoot sibling : PaneNode Content Size) :
    (state.closedPane rules tabId paneId newRoot sibling).layouts = state.layouts.insert tabId newRoot :=
  layouts_reconcile _ _ _

variable {after : PanesState Content Size Target Attempt} {tree : PaneNode Content Size}

theorem contents_of_insert {tabId : String} (same : after.layouts = state.layouts.insert tabId tree) :
    (∀ other, other ≠ tabId → after.layouts.lookup other = state.layouts.lookup other) ∧
      after.contents tabId = PaneNode.contents tree := by
  refine ⟨fun other apart => by rw [same,lookup_insert,if_neg apart],?_⟩
  unfold contents
  rw [same,lookup_insert,if_pos rfl]

theorem contents_of_lookup {tabId : String} (found : state.layouts.lookup tabId = some tree) :
    state.contents tabId = PaneNode.contents tree := by
  unfold contents
  rw [found]

theorem contents_of_absent {tabId : String} (absent : ¬ (state.layouts.lookup tabId).isSome) :
    state.contents tabId = 0 := by
  unfold contents
  rw [Option.not_isSome_iff_eq_none.mp absent]

/-- A tree that changes in one tab only, in the way that an action says. -/
def Confined (rules : ContentRules Content Input Target) (state after : PanesState Content Size Target Attempt)
    (action : LayoutAction Content Input Size) : Prop :=
  (∀ other, other ≠ action.tabId → after.layouts.lookup other = state.layouts.lookup other) ∧
    (after.contents action.tabId = state.contents action.tabId ∨ Changes rules state after action)

variable {action : LayoutAction Content Input Size}

theorem confined_same (same : after.layouts = state.layouts) : Confined rules state after action := by
  refine ⟨fun other _ => by rw [same],.inl ?_⟩
  unfold contents
  rw [same]

theorem confined_walk {walk : PaneNode Content Size → PaneNode Content Size}
    (rearranges : ∀ node, PaneNode.Rearranged node (walk node)) :
    Confined rules state (state.walkLayout action.tabId walk) action := by
  unfold walkLayout
  split
  · exact confined_same rfl
  next root found =>
  have changed : ({ state with layouts := state.layouts.insert action.tabId (walk root) } :
      PanesState Content Size Target Attempt).layouts = state.layouts.insert action.tabId (walk root) := rfl
  obtain ⟨others,here⟩ := contents_of_insert changed
  refine ⟨others,.inl ?_⟩
  rw [here,contents_of_lookup found]
  exact (rearranges root).contents

variable {content : Content}

theorem Adds.contents {tabId newPaneId splitId : String}
    (adds : Adds rules state after tabId newPaneId splitId content) :
    (∀ other, other ≠ tabId → after.layouts.lookup other = state.layouts.lookup other) ∧
      (after.contents tabId = state.contents tabId ∨ after.contents tabId = content ::ₘ state.contents tabId) := by
  obtain rfl | ⟨context,mark,pane,activate,_,found,rfl⟩ := adds
  · exact ⟨fun _ _ => rfl,.inl rfl⟩
  obtain ⟨others,here⟩ := contents_of_insert (layouts_addedPane rules state tabId newPaneId _ content activate)
  refine ⟨others,.inr ?_⟩
  rw [here,contents_of_lookup found]
  exact Multiset.coe_eq_coe.mpr ((PaneNode.collectLeaves_beside _ _ _ _).map _)

theorem Adds.restores {tabId newPaneId splitId : String}
    (adds : Adds rules state after tabId newPaneId splitId content) (fresh : state.Fresh tabId newPaneId splitId)
    (other : String) : (after.closePane rules tabId newPaneId).layouts.lookup other = state.layouts.lookup other := by
  obtain rfl | ⟨context,mark,pane,activate,rfl,found,rfl⟩ := adds
  · unfold closePane
    split
    · rfl
    · rfl
    next root _ found =>
    rw [PaneNode.removePane_none (fresh.2 root found).1]
  · have added := layouts_addedPane rules state tabId newPaneId
      (Context.plug context (PaneNode.beside mark pane ⟨newPaneId,content⟩)) content activate
    generalize state.addedPane rules tabId newPaneId _ content activate = after at added
    have removed : PaneNode.removePane newPaneId (Context.plug context (PaneNode.beside mark pane ⟨newPaneId,content⟩)) =
        some (Context.plug context (.leaf pane),.leaf pane) :=
      @PaneNode.removePane_beside _ _ context mark pane ⟨newPaneId,content⟩ fresh.1 (fresh.2 _ found).1
    have here : after.layouts.lookup tabId =
        some (Context.plug context (PaneNode.beside mark pane ⟨newPaneId,content⟩)) := by
      rw [added,lookup_insert,if_pos rfl]
    unfold closePane
    rw [here]
    split
    · next none_ => cases none_
    · next lone same => rw [Option.some.inj same] at removed; cases removed
    · next root _ same =>
      cases same
      rw [removed]
      simp only
      rw [layouts_closedPane,added,lookup_insert,lookup_insert]
      split
      · next same => rw [same,found]
      · rfl

theorem confined_closePane (coherent : state.Coherent rules) {tabId paneId : String}
    (leaf : ∀ tree, state.layouts.lookup tabId = some tree → paneId ∉ PaneNode.splitIds tree) :
    Confined rules state (state.closePane rules tabId paneId)
      (.closePane tabId paneId : LayoutAction Content Input Size) := by
  unfold closePane
  split
  · exact confined_same rfl
  · exact confined_same rfl
  next root _ found =>
  split
  · next newRoot sibling removed =>
    obtain ⟨splitId,pane,rfl,_,leaves,_⟩ := PaneNode.removePane_leaf (leaf root found) removed
    have listed : pane ∈ PaneNode.collectLeaves root := leaves.mem_iff.mpr List.mem_cons_self
    obtain ⟨others,here⟩ := contents_of_insert (layouts_closedPane rules state tabId pane.id newRoot sibling)
    refine ⟨others,.inr ⟨root,pane,found,PaneNode.findLeaf_of_mem (coherent.distinct tabId root found) listed,?_⟩⟩
    rw [here,contents_of_lookup found]
    exact Multiset.coe_eq_coe.mpr (leaves.map _)
  · exact confined_same rfl

theorem confined_swapPanes (coherent : state.Coherent rules) (tabId paneId otherId : String) :
    Confined rules state (state.swapPanes rules tabId paneId otherId)
      (.swapPanes tabId paneId otherId : LayoutAction Content Input Size) := by
  unfold swapPanes
  split
  · exact confined_same rfl
  next root found =>
  split
  · exact confined_same rfl
  split
  · next pane other first second =>
    obtain ⟨left,rfl⟩ := PaneNode.findLeaf_some first
    obtain ⟨right,rfl⟩ := PaneNode.findLeaf_some second
    obtain ⟨others,here⟩ := contents_of_insert (layouts_reconcile rules { state with
      layouts := state.layouts.insert tabId (PaneNode.swapContents pane.id other.id pane.content other.content root)
      paneTitles := swapEntries state.paneTitles tabId pane.id other.id
      paneTitleSetByUser := swapEntries state.paneTitleSetByUser tabId pane.id other.id } tabId)
    refine ⟨others,.inl (here.trans ?_)⟩
    rw [PaneNode.contents_swapContents (coherent.distinct tabId root found) left right]
    exact (contents_of_lookup found).symm
  · exact confined_same rfl

theorem confined_replacePane (coherent : state.Coherent rules) (tabId paneId : String) :
    Confined rules state (state.replacePane rules tabId paneId)
      (.replacePane tabId paneId : LayoutAction Content Input Size) := by
  unfold replacePane
  split
  · exact confined_same rfl
  next root found =>
  split
  · exact confined_same rfl
  simp only
  split
  · next absent =>
    rw [PaneNode.updateContent_absent absent]
    have changed : ({ state with layouts := state.layouts.insert tabId root } :
        PanesState Content Size Target Attempt).layouts = state.layouts.insert tabId root := rfl
    obtain ⟨others,here⟩ := contents_of_insert changed
    exact ⟨others,.inl (here.trans (contents_of_lookup found).symm)⟩
  next present =>
  rw [not_not] at present
  obtain ⟨pane,listed,rfl⟩ := List.mem_map.mp present
  have distinct := coherent.distinct tabId root found
  obtain ⟨others,here⟩ := contents_of_insert (layouts_reconcile rules { state with
    layouts := state.layouts.insert tabId (PaneNode.updateContent pane.id rules.pickerContent root)
    paneTitles := enter state.paneTitles tabId pane.id (rules.derivePaneTitle rules.pickerContent)
    paneTitleSetByUser := if find state.paneTitleSetByUser tabId pane.id = some true
      then strike state.paneTitleSetByUser tabId pane.id else state.paneTitleSetByUser } tabId)
  refine ⟨others,.inr ⟨root,pane,found,PaneNode.findLeaf_of_mem distinct listed,?_⟩⟩
  rw [contents_of_lookup found,← PaneNode.contents_updateContent distinct listed rules.pickerContent]
  exact congrArg _ here

theorem Coherent.faithful [OfNat Size 50] (coherent : state.Coherent rules) (legal : state.Legal dispatch)
    (sound : state.Sound rules dispatch) : state.Faithful rules dispatch := by
  obtain ⟨action,paneNanoid,splitNanoid⟩ := dispatch
  suffices confined : Confined rules state (state.perform rules ⟨action,paneNanoid,splitNanoid⟩) action ∧
      Restores rules state (state.perform rules ⟨action,paneNanoid,splitNanoid⟩) ⟨action,paneNanoid,splitNanoid⟩ from
    ⟨confined.1.1,confined.1.2,confined.2⟩
  cases action with
  | initLayout tabId content paneId =>
    refine ⟨?_,trivial⟩
    simp only [PanesState.perform,initLayout]
    split
    · exact confined_same rfl
    split
    · exact confined_same rfl
    next absent =>
    obtain ⟨others,here⟩ := contents_of_insert (layouts_showLeaf rules state tabId (paneId.getD paneNanoid) content)
    exact ⟨others,.inr ⟨contents_of_absent absent,here⟩⟩
  | restoreLayout tabId layout titles flags preserve =>
    refine ⟨?_,trivial⟩
    obtain same | ⟨absent,same⟩ := layouts_restoreLayout rules state tabId layout titles flags preserve
    · exact confined_same same
    · obtain ⟨others,here⟩ := contents_of_insert same
      exact ⟨others,.inr ⟨contents_of_absent absent,here⟩⟩
  | resetLayout tabId content =>
    refine ⟨?_,trivial⟩
    simp only [PanesState.perform,resetLayout]
    split
    · exact confined_same rfl
    · obtain ⟨others,here⟩ := contents_of_insert (layouts_showLeaf rules state tabId paneNanoid content)
      exact ⟨others,.inr here⟩
  | splitPane tabId paneId direction newContent newPaneId activate =>
    have adds := splitPane_adds coherent tabId paneId direction newContent (newPaneId.getD paneNanoid) splitNanoid activate
    exact ⟨adds.contents,adds.restores legal⟩
  | addPane tabId newContent newPaneId =>
    have adds := addPane_adds coherent tabId newContent (newPaneId.getD paneNanoid) splitNanoid
    exact ⟨adds.contents,adds.restores legal⟩
  | closePane tabId paneId => exact ⟨confined_closePane coherent sound.1,trivial⟩
  | setActivePane tabId paneId focusNudge => exact ⟨confined_same rfl,trivial⟩
  | toggleZoom tabId paneId => exact ⟨confined_same rfl,trivial⟩
  | resizePanes tabId splitId sizes => exact ⟨confined_walk (PaneNode.rearranged_updateSizes splitId sizes),trivial⟩
  | resizeMultipleSplits tabId resizes => exact ⟨confined_walk (PaneNode.rearranged_applySizes resizes),trivial⟩
  | resetSplit tabId splitId => exact ⟨confined_walk (PaneNode.rearranged_updateSizes splitId _),trivial⟩
  | swapSplit tabId splitId => exact ⟨confined_walk (PaneNode.rearranged_swapSplit splitId),trivial⟩
  | swapPanes tabId paneId otherId => exact ⟨confined_swapPanes coherent tabId paneId otherId,trivial⟩
  | replacePane tabId paneId => exact ⟨confined_replacePane coherent tabId paneId,trivial⟩

/-- Along every sequence of legal and sound actions the slice stays coherent and each
    action does to the trees what it is for. -/
theorem layouts_run [OfNat Size 50] (rules : ContentRules Content Input Target)
    {start : PanesState Content Size Target Attempt} {dispatches : List (Dispatch Content Input Size)}
    (coherent : start.Coherent rules) (legal : Along (perform rules) Legal start dispatches)
    (sound : Along (perform rules) (Sound rules) start dispatches) :
    (∀ before, before <+: dispatches → (run (perform rules) start before).Coherent rules) ∧
      Along (perform rules) (Faithful rules) start dispatches := by
  have both := along_and legal sound
  have preserved : ∀ (state : PanesState Content Size Target Attempt) (dispatch : Dispatch Content Input Size),
      state.Coherent rules → state.Legal dispatch ∧ state.Sound rules dispatch →
        (state.perform rules dispatch).Coherent rules := fun _ _ held conditions => held.perform conditions.1 conditions.2
  constructor
  · exact fun before isPrefix => invariant_run preserved coherent (along_before isPrefix both)
  · exact invariant_along preserved (fun _ _ held conditions => held.faithful conditions.1 conditions.2) coherent both

/-! Panes that show nothing but the picker. -/

def pickerRules : ContentRules Unit Unit Unit where
  normalizePaneContent := id
  stripStaleIds content _ := content
  derivePaneTitle _ := "New Tab"
  paneRefreshTargetMatchesContent _ _ := false
  isPaneContentShape _ := true
  pickerContent := ()
  picker_shape := rfl

/-- A pane is made, another is split off, zoomed, and closed. -/
def splitAndClose : List (Dispatch Unit Unit Nat) :=
  [⟨.initLayout "tab" () none,"first",""⟩,⟨.splitPane "tab" "first" .vertical () none none,"second","split"⟩,
    ⟨.toggleZoom "tab" "second","",""⟩,⟨.closePane "tab" "second","",""⟩]

theorem layouts_splitAndClose :
    (∀ before, before <+: splitAndClose →
      (run (perform pickerRules) (empty : PanesState Unit Nat Unit Unit) before).Coherent pickerRules) ∧
      Along (perform pickerRules) (Faithful pickerRules) (empty : PanesState Unit Nat Unit Unit) splitAndClose := by
  refine layouts_run pickerRules (coherent_empty _) ⟨trivial,⟨by decide,?_⟩,⟨_,rfl,by decide⟩,trivial,trivial⟩
    ⟨rfl,rfl,trivial,⟨?_,by decide,by decide⟩,trivial⟩
  · intro tree found
    cases found
    decide
  · intro tree found
    cases found
    decide

def zoomAndReset : List (Dispatch Unit Unit Nat) :=
  [⟨.initLayout "tab" () none,"first",""⟩,⟨.toggleZoom "tab" "first","",""⟩,⟨.resetLayout "tab" (),"second",""⟩]

/-- The zoom of the pane that is gone stays. -/
theorem reset_keeps_zoom : Along (perform pickerRules) Legal (empty : PanesState Unit Nat Unit Unit) zoomAndReset ∧
    ¬ (run (perform pickerRules) (empty : PanesState Unit Nat Unit Unit) zoomAndReset).Coherent pickerRules := by
  refine ⟨⟨trivial,⟨_,rfl,by decide⟩,trivial,trivial⟩,fun coherent => ?_⟩
  obtain ⟨tree,found,listed⟩ := coherent.mentioned "tab" "first" (.inl (.inr (.inl (by decide))))
  cases found
  exact absurd listed (by decide)

end PanesState
end Freshell.Panes
