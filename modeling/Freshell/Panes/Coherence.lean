import Freshell.Library.Runs
import Freshell.Panes.Layouts

/-!
The layout reducers keep the panes slice coherent: the trees have no id twice, and the
tables beside them mention panes that are shown. What they keep it under is `Sound`.
-/
namespace Freshell.Panes
open Freshell.Library.Tables Freshell.Library.BinaryTrees

variable {Content Input Size Target Attempt : Type}

namespace PanesState

def Shows (state : PanesState Content Size Target Attempt) (tabId paneId : String) : Prop :=
  ∃ tree, state.layouts.lookup tabId = some tree ∧ paneId ∈ PaneNode.leafIds tree

def Names (state : PanesState Content Size Target Attempt) (tabId paneId : String) : Prop :=
  state.activePane.lookup tabId = some paneId ∨ state.zoomedPane.lookup tabId = some paneId ∨
    (find state.paneTitles tabId paneId).isSome ∨ (find state.paneTitleSetByUser tabId paneId).isSome

def Mentions (state : PanesState Content Size Target Attempt) (tabId paneId : String) : Prop :=
  state.Names tabId paneId ∨ (find state.refreshRequestsByPane tabId paneId).isSome

structure Coherent (rules : ContentRules Content Input Target) (state : PanesState Content Size Target Attempt) :
    Prop where
  wellFormed : ∀ tabId tree, state.layouts.lookup tabId = some tree →
    PaneNode.isWellFormedPaneTree rules.isPaneContentShape tree = true
  distinct : ∀ tabId tree, state.layouts.lookup tabId = some tree → (PaneNode.ids tree).Nodup
  focused : ∀ tabId tree, state.layouts.lookup tabId = some tree → (state.activePane.lookup tabId).isSome
  mentioned : ∀ tabId paneId, state.Mentions tabId paneId → state.Shows tabId paneId
  nudged : ∀ paneId, (state.focusEpochByPaneId.lookup paneId).isSome → ∃ tabId, state.Shows tabId paneId

def contents (state : PanesState Content Size Target Attempt) (tabId : String) : Multiset Content :=
  match state.layouts.lookup tabId with
  | some tree => PaneNode.contents tree
  | none => 0

theorem coherent_empty (rules : ContentRules Content Input Target) :
    Coherent rules (empty : PanesState Content Size Target Attempt) where
  wellFormed tabId tree found := by simp [empty] at found
  distinct tabId tree found := by simp [empty] at found
  focused tabId tree found := by simp [empty] at found
  mentioned tabId paneId mentions := by simp [Mentions,Names,empty] at mentions
  nudged paneId nudged := by simp [empty] at nudged

end PanesState

variable (rules : ContentRules Content Input Target) (preserve : Bool) (layout : PaneNode Content Size)

theorem ids_normalizeRestoredTree :
    PaneNode.ids (normalizeRestoredTree rules preserve layout) = PaneNode.ids layout := by
  unfold normalizeRestoredTree
  rw [PaneNode.ids_mapLeaves]
  intro pane
  rfl

theorem leafIds_normalizeRestoredTree :
    PaneNode.leafIds (normalizeRestoredTree rules preserve layout) = PaneNode.leafIds layout := by
  unfold normalizeRestoredTree
  rw [PaneNode.leafIds_mapLeaves]
  intro pane
  rfl

namespace PanesState

variable {rules : ContentRules Content Input Target} {tabId : String} {tree : PaneNode Content Size}

theorem Coherent.of_tab {before after : PanesState Content Size Target Attempt} (coherent : before.Coherent rules)
    (layouts : after.layouts = before.layouts.insert tabId tree)
    (wellFormed : PaneNode.isWellFormedPaneTree rules.isPaneContentShape tree = true)
    (distinct : (PaneNode.ids tree).Nodup) (focused : (after.activePane.lookup tabId).isSome)
    (mentioned : ∀ paneId, after.Mentions tabId paneId → paneId ∈ PaneNode.leafIds tree)
    (elsewhere : ∀ other paneId, other ≠ tabId → after.Mentions other paneId → before.Mentions other paneId)
    (active : ∀ other, other ≠ tabId → after.activePane.lookup other = before.activePane.lookup other)
    (nudged : ∀ paneId, (after.focusEpochByPaneId.lookup paneId).isSome →
      (before.focusEpochByPaneId.lookup paneId).isSome ∧
        (before.Shows tabId paneId → paneId ∈ PaneNode.leafIds tree)) : after.Coherent rules := by
  have shown : ∀ other, other ≠ tabId → ∀ paneId, before.Shows other paneId → after.Shows other paneId := by
    rintro other apart paneId ⟨held,found,listed⟩
    exact ⟨held,by rw [layouts,lookup_insert,if_neg apart,found],listed⟩
  have here : after.layouts.lookup tabId = some tree := by rw [layouts,lookup_insert,if_pos rfl]
  have trees : ∀ other held, after.layouts.lookup other = some held →
      (other = tabId ∧ held = tree) ∨ (other ≠ tabId ∧ before.layouts.lookup other = some held) := by
    intro other held found
    rw [layouts,lookup_insert] at found
    split at found
    · next same => exact .inl ⟨same,(Option.some.inj found).symm⟩
    · next apart => exact .inr ⟨apart,found⟩
  constructor
  case wellFormed =>
    intro other held found
    obtain ⟨_,rfl⟩ | ⟨_,found⟩ := trees other held found
    · exact wellFormed
    · exact coherent.wellFormed other held found
  case distinct =>
    intro other held found
    obtain ⟨_,rfl⟩ | ⟨_,found⟩ := trees other held found
    · exact distinct
    · exact coherent.distinct other held found
  case focused =>
    intro other held found
    obtain ⟨rfl,_⟩ | ⟨apart,found⟩ := trees other held found
    · exact focused
    · rw [active other apart]
      exact coherent.focused other held found
  case mentioned =>
    intro other paneId mentions
    by_cases same : other = tabId
    · subst same
      exact ⟨tree,here,mentioned paneId mentions⟩
    · exact shown other same paneId (coherent.mentioned other paneId (elsewhere other paneId same mentions))
  case nudged =>
    intro paneId nudge
    obtain ⟨earlier,kept⟩ := nudged paneId nudge
    obtain ⟨other,shows⟩ := coherent.nudged paneId earlier
    by_cases same : other = tabId
    · subst same
      exact ⟨other,tree,here,kept shows⟩
    · exact ⟨other,shown other same paneId shows⟩

theorem reconcile_spec (rules : ContentRules Content Input Target) (state : PanesState Content Size Target Attempt)
    (tabId : String) : ∃ requests, reconcileRefreshRequestsForTab rules state tabId =
      { state with refreshRequestsByPane := requests } ∧
      ∀ other paneId, (find requests other paneId).isSome →
        (find state.refreshRequestsByPane other paneId).isSome ∧ (other = tabId → state.Shows tabId paneId) := by
  unfold reconcileRefreshRequestsForTab
  cases held : state.refreshRequestsByPane.lookup tabId with
  | none =>
    refine ⟨state.refreshRequestsByPane,rfl,?_⟩
    intro other paneId requested
    refine ⟨requested,fun same => ?_⟩
    subst same
    simp [find,tableAt,held] at requested
  | some tabRequests =>
    have erased : ∀ other paneId, (find (state.refreshRequestsByPane.erase tabId) other paneId).isSome →
        (find state.refreshRequestsByPane other paneId).isSome ∧ (other = tabId → state.Shows tabId paneId) := by
      intro other paneId requested
      rw [find_erase] at requested
      split at requested
      · cases requested
      · next apart => exact ⟨requested,fun same => absurd same apart⟩
    cases layout : state.layouts.lookup tabId with
    | none => exact ⟨_,rfl,erased⟩
    | some tree =>
      simp only
      split
      · exact ⟨_,rfl,erased⟩
      · refine ⟨_,rfl,?_⟩
        intro other paneId requested
        rw [find_insert] at requested
        split at requested
        · next same =>
          subst same
          rw [lookup_retain] at requested
          obtain ⟨request,kept⟩ := Option.isSome_iff_exists.mp requested
          obtain ⟨listed,matches_⟩ := Option.filter_eq_some_iff.mp kept
          refine ⟨by simp [find,tableAt,held,listed],fun _ => ⟨tree,layout,?_⟩⟩
          unfold stillMatches at matches_
          split at matches_
          · next pane found =>
            obtain ⟨member,same⟩ := PaneNode.findLeaf_some found
            exact same ▸ List.mem_map_of_mem member
          · cases matches_
        · next apart => exact ⟨requested,fun same => absurd same apart⟩

theorem Coherent.reconciled {before shown : PanesState Content Size Target Attempt} (coherent : before.Coherent rules)
    (layouts : shown.layouts = before.layouts.insert tabId tree)
    (requests : shown.refreshRequestsByPane = before.refreshRequestsByPane)
    (wellFormed : PaneNode.isWellFormedPaneTree rules.isPaneContentShape tree = true)
    (distinct : (PaneNode.ids tree).Nodup) (focused : (shown.activePane.lookup tabId).isSome)
    (named : ∀ paneId, shown.Names tabId paneId → paneId ∈ PaneNode.leafIds tree)
    (elsewhere : ∀ other paneId, other ≠ tabId → shown.Names other paneId → before.Names other paneId)
    (active : ∀ other, other ≠ tabId → shown.activePane.lookup other = before.activePane.lookup other)
    (nudged : ∀ paneId, (shown.focusEpochByPaneId.lookup paneId).isSome →
      (before.focusEpochByPaneId.lookup paneId).isSome ∧
        (before.Shows tabId paneId → paneId ∈ PaneNode.leafIds tree)) :
    (reconcileRefreshRequestsForTab rules shown tabId).Coherent rules := by
  obtain ⟨kept,same,spec⟩ := reconcile_spec rules shown tabId
  rw [same]
  refine coherent.of_tab layouts wellFormed distinct focused ?_ ?_ active nudged
  · rintro paneId (names | requested)
    · exact named paneId names
    · obtain ⟨held,found,listed⟩ := (spec tabId paneId requested).2 rfl
      rw [layouts,lookup_insert,if_pos rfl] at found
      exact Option.some.inj found ▸ listed
  · rintro other paneId apart (names | requested)
    · exact .inl (elsewhere other paneId apart names)
    · exact .inr (requests ▸ (spec other paneId requested).1)

variable {state : PanesState Content Size Target Attempt}

theorem Coherent.attempts (coherent : state.Coherent rules) (attempts : NestedTable String String Attempt) :
    Coherent rules { state with restoreFallbackAttemptsByPane := attempts } :=
  ⟨coherent.wellFormed,coherent.distinct,coherent.focused,coherent.mentioned,coherent.nudged⟩

variable {paneId : String}

theorem named_of_coherent (coherent : state.Coherent rules) (found : state.layouts.lookup tabId = some tree)
    (mentions : state.Mentions tabId paneId) : paneId ∈ PaneNode.leafIds tree := by
  obtain ⟨held,same,listed⟩ := coherent.mentioned tabId paneId mentions
  rw [found] at same
  exact Option.some.inj same ▸ listed

def Plain (state : PanesState Content Size Target Attempt) (tabId : String) : Prop :=
  state.zoomedPane.lookup tabId = none ∧ (∀ paneId, find state.paneTitleSetByUser tabId paneId = none) ∧
    ∀ paneId, state.Shows tabId paneId → state.focusEpochByPaneId.lookup paneId = none

theorem plain_of_absent (coherent : state.Coherent rules) (absent : state.layouts.lookup tabId = none) :
    state.Plain tabId := by
  have unshown : ∀ paneId, ¬ state.Shows tabId paneId := by
    rintro paneId ⟨tree,found,_⟩
    rw [absent] at found
    cases found
  refine ⟨?_,?_,fun paneId shows => absurd shows (unshown paneId)⟩
  · cases zoomed : state.zoomedPane.lookup tabId with
    | none => rfl
    | some paneId => exact absurd (coherent.mentioned tabId paneId (.inl (.inr (.inl zoomed)))) (unshown paneId)
  · intro paneId
    cases flagged : find state.paneTitleSetByUser tabId paneId with
    | none => rfl
    | some flag =>
      refine absurd (coherent.mentioned tabId paneId (.inl (.inr (.inr (.inr ?_))))) (unshown paneId)
      rw [flagged]
      rfl

theorem Coherent.showLeaf (coherent : state.Coherent rules) {content : Input} (plain : state.Plain tabId)
    (shaped : rules.isPaneContentShape (rules.normalizePaneContent content) = true) :
    (state.showLeaf rules tabId paneId content).Coherent rules := by
  obtain ⟨unzoomed,unflagged,unnudged⟩ := plain
  refine Coherent.attempts ?_ _
  refine coherent.reconciled rfl rfl shaped (by simp) (by simp) ?_ ?_ ?_ ?_
  · rintro other (active | zoomed | titled | flagged)
    · simp only [lookup_insert,if_pos] at active
      simp [PaneNode.leafIds,Option.some.inj active]
    · rw [unzoomed] at zoomed
      cases zoomed
    · simp only [find_insert,if_pos,lookup_singleton] at titled
      by_cases same : other = paneId
      · simp [PaneNode.leafIds,same]
      · simp [same] at titled
    · rw [unflagged] at flagged
      cases flagged
  · intro other pane apart names
    unfold Names at names ⊢
    simpa [apart] using names
  · intro other apart
    simp [apart]
  · intro pane nudge
    refine ⟨nudge,fun shows => ?_⟩
    rw [unnudged pane shows] at nudge
    cases nudge

theorem Coherent.restoreLayout (coherent : state.Coherent rules) {layout : PaneNode Content Size}
    {titles : Table String String} {flags : Option (Table String Bool)} {preserve : Bool}
    (distinct : (PaneNode.ids layout).Nodup)
    (titled : ∀ paneId, (titles.lookup paneId).isSome → paneId ∈ PaneNode.leafIds layout)
    (flagged : ∀ table, flags = some table → ∀ paneId, (table.lookup paneId).isSome → paneId ∈ PaneNode.leafIds layout)
    (shaped : PaneNode.isWellFormedPaneTree rules.isPaneContentShape (normalizeRestoredTree rules preserve layout) = true) :
    (state.restoreLayout rules tabId layout titles flags preserve).Coherent rules := by
  unfold PanesState.restoreLayout
  split
  · exact coherent
  split
  · exact coherent
  next absent =>
  rw [Option.not_isSome_iff_eq_none] at absent
  obtain ⟨unzoomed,unflagged,unnudged⟩ := plain_of_absent coherent absent
  have leaves := leafIds_normalizeRestoredTree rules preserve layout
  have first := PaneNode.findFirstLeafId_mem (normalizeRestoredTree rules preserve layout)
  refine Coherent.attempts ?_ _
  refine coherent.reconciled rfl rfl shaped ?_ (by simp) ?_ ?_ ?_ ?_
  · rw [ids_normalizeRestoredTree]
    exact distinct
  · rintro other (active | zoomed | named | user)
    · simp only [lookup_insert,if_pos] at active
      exact Option.some.inj active ▸ first
    · rw [unzoomed] at zoomed
      cases zoomed
    · simp only [find_insert,if_pos] at named
      rw [leaves]
      exact titled other named
    · rw [leaves]
      split at user
      · next table =>
        split at user
        · rw [unflagged] at user
          cases user
        · simp only [find_insert,if_pos] at user
          exact flagged table rfl other user
      · rw [unflagged] at user
        cases user
  · intro other pane apart names
    unfold Names at names ⊢
    refine names.imp (fun active => by simpa [apart] using active) (Or.imp id (Or.imp ?_ ?_))
    · intro named
      simpa [apart] using named
    · intro user
      split at user
      · split at user
        · exact user
        · simpa [apart] using user
      · exact user
  · intro other apart
    simp [apart]
  · intro pane nudge
    refine ⟨nudge,fun shows => ?_⟩
    rw [unnudged pane shows] at nudge
    cases nudge

variable {root : PaneNode Content Size}

theorem Coherent.addedPane (coherent : state.Coherent rules) {newPaneId : String} {newRoot : PaneNode Content Size}
    {content : Content} {activate : Bool} {splitId : String} (found : state.layouts.lookup tabId = some root)
    (ids : (PaneNode.ids newRoot).Perm (splitId :: newPaneId :: PaneNode.ids root))
    (leaves : (PaneNode.collectLeaves newRoot).Perm (⟨newPaneId,content⟩ :: PaneNode.collectLeaves root))
    (fresh : newPaneId ∉ PaneNode.ids root) (freshSplit : splitId ∉ PaneNode.ids root) (apart : splitId ≠ newPaneId)
    (shaped : rules.isPaneContentShape content = true) :
    (state.addedPane rules tabId newPaneId newRoot content activate).Coherent rules := by
  have listed : ∀ paneId, paneId ∈ PaneNode.leafIds newRoot ↔ paneId = newPaneId ∨ paneId ∈ PaneNode.leafIds root := by
    intro paneId
    unfold PaneNode.leafIds
    rw [(leaves.map _).mem_iff,List.map_cons,List.mem_cons]
  have old : ∀ paneId, state.Names tabId paneId → paneId ∈ PaneNode.leafIds newRoot := fun paneId names =>
    (listed paneId).mpr (.inr (named_of_coherent coherent found (.inl names)))
  refine coherent.reconciled rfl rfl ?_ ?_ ?_ ?_ ?_ ?_ ?_
  · rw [PaneNode.isWellFormed_iff]
    intro pane member
    obtain rfl | member := List.mem_cons.mp (leaves.mem_iff.mp member)
    · exact shaped
    · exact (PaneNode.isWellFormed_iff _ _).mp (coherent.wellFormed tabId root found) pane member
  · rw [ids.nodup_iff,List.nodup_cons,List.nodup_cons]
    exact ⟨by simp [apart,freshSplit],fresh,coherent.distinct tabId root found⟩
  · simp only
    split
    · simp
    · exact coherent.focused tabId root found
  · rintro other (active | zoomed | titled | flagged)
    · simp only at active
      split at active
      · simp only [lookup_insert,if_pos] at active
        exact (listed other).mpr (.inl (Option.some.inj active).symm)
      · exact old other (.inl active)
    · simp only at zoomed
      split at zoomed
      · simp at zoomed
      · exact old other (.inr (.inl zoomed))
    · simp only [find_enter,true_and] at titled
      split at titled
      · next same => exact (listed other).mpr (.inl same)
      · exact old other (.inr (.inr (.inl titled)))
    · exact old other (.inr (.inr (.inr flagged)))
  · intro other pane away names
    unfold Names at names ⊢
    refine names.imp ?_ (Or.imp ?_ (Or.imp (fun titled => by simpa [away] using titled) id))
    · intro active
      simp only at active
      split at active
      · simpa [away] using active
      · exact active
    · intro zoomed
      simp only at zoomed
      split at zoomed
      · simpa [away] using zoomed
      · exact zoomed
  · intro other away
    simp only
    split
    · simp [away]
    · rfl
  · intro pane nudge
    refine ⟨nudge,?_⟩
    rintro ⟨held,same,shown⟩
    rw [found] at same
    exact (listed pane).mpr (.inr (Option.some.inj same ▸ shown))

/-- What `splitPane` and `addPane` do: nothing, or a leaf of the tab gets a new leaf beside it. -/
def Adds (rules : ContentRules Content Input Target) (state after : PanesState Content Size Target Attempt)
    (tabId newPaneId splitId : String) (content : Content) : Prop :=
  after = state ∨ ∃ context mark pane activate, mark.id = splitId ∧
    state.layouts.lookup tabId = some (Context.plug context (.leaf pane)) ∧
    after = state.addedPane rules tabId newPaneId
      (Context.plug context (PaneNode.beside mark pane ⟨newPaneId,content⟩)) content activate

theorem splitPane_adds [OfNat Size 50] (coherent : state.Coherent rules) (tabId paneId : String)
    (direction : Direction) (newContent : Input) (newPaneId splitId : String) (activate : Option Bool) :
    Adds rules state (state.splitPane rules tabId paneId direction newContent newPaneId splitId activate) tabId newPaneId
      splitId (rules.normalizePaneContent newContent) := by
  unfold splitPane
  split
  · exact .inl rfl
  next root found =>
  split
  · exact .inl rfl
  simp only
  split
  · exact .inl rfl
  next pane target =>
  split
  · next newRoot replaced =>
    obtain ⟨listed,rfl⟩ := PaneNode.findLeaf_some target
    obtain ⟨context,rfl,rfl⟩ := PaneNode.findAndReplace_beside (coherent.distinct tabId root found) listed replaced
    exact .inr ⟨context,_,pane,_,rfl,found,rfl⟩
  · exact .inl rfl

theorem splitTarget_listed {pane : PaneLeaf Content} (target : state.splitTarget tabId root = some pane) :
    pane ∈ PaneNode.collectLeaves root := by
  unfold splitTarget at target
  simp only [Option.or_eq_some_iff] at target
  obtain active | ⟨_,first⟩ := target
  · split at active
    · split at active
      · exact (PaneNode.findLeaf_some active).1
      · cases active
    · cases active
  · exact List.mem_of_head? first

theorem addPane_adds [OfNat Size 50] (coherent : state.Coherent rules) (tabId : String) (newContent : Input)
    (newPaneId splitId : String) :
    Adds rules state (state.addPane rules tabId newContent newPaneId splitId) tabId newPaneId
      splitId (rules.normalizePaneContent newContent) := by
  unfold addPane
  split
  · exact .inl rfl
  next root found =>
  split
  · exact .inl rfl
  split
  · exact .inl rfl
  next pane target =>
  simp only
  split
  · next newRoot replaced =>
    obtain ⟨context,rfl,rfl⟩ := PaneNode.findAndReplace_beside (coherent.distinct tabId root found)
      (splitTarget_listed target) replaced
    exact .inr ⟨context,_,pane,_,rfl,found,rfl⟩
  · exact .inl rfl

/-- The new ids are none of the tab's and differ. -/
def Fresh (state : PanesState Content Size Target Attempt) (tabId newPaneId splitId : String) : Prop :=
  splitId ≠ newPaneId ∧ ∀ tree, state.layouts.lookup tabId = some tree →
    newPaneId ∉ PaneNode.ids tree ∧ splitId ∉ PaneNode.ids tree

theorem Adds.coherent {rules : ContentRules Content Input Target} {state after : PanesState Content Size Target Attempt}
    {tabId newPaneId splitId : String} {content : Content} (adds : Adds rules state after tabId newPaneId splitId content)
    (coherent : state.Coherent rules) (fresh : state.Fresh tabId newPaneId splitId)
    (shaped : rules.isPaneContentShape content = true) : after.Coherent rules := by
  obtain rfl | ⟨context,mark,pane,activate,rfl,found,rfl⟩ := adds
  · exact coherent
  obtain ⟨apart,unused⟩ := fresh
  obtain ⟨newPane,newSplit⟩ := unused _ found
  exact coherent.addedPane found (PaneNode.ids_beside _ _ _ _) (PaneNode.collectLeaves_beside _ _ _ _) newPane newSplit
    apart shaped

theorem Coherent.closePane (coherent : state.Coherent rules)
    (leaf : ∀ tree, state.layouts.lookup tabId = some tree → paneId ∉ PaneNode.splitIds tree)
    (titled : find state.paneTitles tabId paneId ≠ some "")
    (flagged : find state.paneTitleSetByUser tabId paneId ≠ some false) :
    (state.closePane rules tabId paneId).Coherent rules := by
  unfold PanesState.closePane
  split
  · exact coherent
  · exact coherent
  next root _ found =>
  split
  · next newRoot sibling removed =>
    obtain ⟨splitId,pane,same,ids,leaves,below⟩ := PaneNode.removePane_leaf (leaf root found) removed
    have distinct := ids.nodup_iff.mp (coherent.distinct tabId root found)
    rw [List.nodup_cons,List.nodup_cons] at distinct
    have gone : paneId ∉ PaneNode.leafIds newRoot := fun listed => distinct.2.1 (PaneNode.mem_ids_of_leaf listed)
    have kept : ∀ other, other ∈ PaneNode.leafIds root → other ≠ paneId → other ∈ PaneNode.leafIds newRoot := by
      intro other listed apart
      unfold PaneNode.leafIds at listed ⊢
      rw [(leaves.map _).mem_iff,List.map_cons,List.mem_cons] at listed
      obtain rfl | listed := listed
      · exact absurd same apart
      · exact listed
    have old : ∀ other, state.Names tabId other → other ≠ paneId → other ∈ PaneNode.leafIds newRoot :=
      fun other names => kept other (named_of_coherent coherent found (.inl names))
    obtain ⟨first,rest,nonempty⟩ := List.exists_cons_of_ne_nil (PaneNode.collectLeaves_ne_nil sibling)
    have promoted : first.id ∈ PaneNode.leafIds newRoot :=
      List.mem_map_of_mem (below first (by rw [nonempty]; exact List.mem_cons_self))
    unfold closedPane
    rw [nonempty]
    refine coherent.reconciled rfl rfl ?_ distinct.2.2 ?_ ?_ ?_ ?_ ?_
    · rw [PaneNode.isWellFormed_iff]
      intro held member
      exact (PaneNode.isWellFormed_iff _ _).mp (coherent.wellFormed tabId root found) held
        (leaves.mem_iff.mpr (List.mem_cons_of_mem _ member))
    · simp only [List.head?_cons]
      split
      · simp
      · exact coherent.focused tabId root found
    · rintro other (active | zoomed | named | user)
      · simp only [List.head?_cons] at active
        split at active
        · simp only [lookup_insert,if_pos] at active
          exact Option.some.inj active ▸ promoted
        · next apart => exact old other (.inl active) fun same => apart (same ▸ active)
      · simp only at zoomed
        split at zoomed
        · simp at zoomed
        · next apart => exact old other (.inr (.inl zoomed)) fun same => apart (same ▸ zoomed)
      · simp only at named
        split at named
        · simp only [find_strike,true_and] at named
          split at named
          · cases named
          · next apart => exact old other (.inr (.inr (.inl named))) apart
        · next untitled =>
          refine old other (.inr (.inr (.inl named))) fun same => untitled ?_
          subst same
          obtain ⟨title,held⟩ := Option.isSome_iff_exists.mp named
          rw [held] at titled ⊢
          simpa [truthy] using titled
      · simp only at user
        split at user
        · simp only [find_strike,true_and] at user
          split at user
          · cases user
          · next apart => exact old other (.inr (.inr (.inr user))) apart
        · next unset =>
          refine old other (.inr (.inr (.inr user))) fun same => unset ?_
          subst same
          obtain ⟨flag,held⟩ := Option.isSome_iff_exists.mp user
          rw [held] at flagged ⊢
          cases flag with
          | true => rfl
          | false => exact absurd rfl flagged
    · intro other held away names
      unfold Names at names ⊢
      refine names.imp ?_ (Or.imp ?_ (Or.imp ?_ ?_))
      · intro active
        simp only [List.head?_cons] at active
        split at active
        · simpa [away] using active
        · exact active
      · intro zoomed
        simp only at zoomed
        split at zoomed
        · simpa [away] using zoomed
        · exact zoomed
      · intro named
        simp only at named
        split at named
        · simpa [away] using named
        · exact named
      · intro user
        simp only at user
        split at user
        · simpa [away] using user
        · exact user
    · intro other away
      simp only [List.head?_cons]
      split
      · simp [away]
      · rfl
    · intro other nudge
      simp only [lookup_erase] at nudge
      split at nudge
      · cases nudge
      · next apart =>
        refine ⟨nudge,?_⟩
        rintro ⟨held,same,shown⟩
        rw [found] at same
        exact kept other (Option.some.inj same ▸ shown) apart
  · exact coherent

theorem Coherent.setActivePane (coherent : state.Coherent rules) (focusNudge : Bool) (shows : state.Shows tabId paneId) :
    (state.setActivePane tabId paneId focusNudge).Coherent rules := by
  refine ⟨coherent.wellFormed,coherent.distinct,?_,?_,?_⟩
  · intro other tree found
    simp only [PanesState.setActivePane,lookup_insert]
    split
    · rfl
    · exact coherent.focused other tree found
  · rintro other pane ((active | named) | requested)
    · simp only [PanesState.setActivePane,lookup_insert] at active
      split at active
      · next same =>
        subst same
        exact Option.some.inj active ▸ shows
      · exact coherent.mentioned other pane (.inl (.inl active))
    · exact coherent.mentioned other pane (.inl (.inr named))
    · exact coherent.mentioned other pane (.inr requested)
  · intro pane nudge
    simp only [PanesState.setActivePane] at nudge
    split at nudge
    · rw [lookup_insert] at nudge
      split at nudge
      · next same => exact ⟨tabId,same ▸ shows⟩
      · exact coherent.nudged pane nudge
    · exact coherent.nudged pane nudge

theorem Coherent.toggleZoom (coherent : state.Coherent rules) (shows : state.Shows tabId paneId) :
    (state.toggleZoom tabId paneId).Coherent rules := by
  refine ⟨coherent.wellFormed,coherent.distinct,coherent.focused,?_,coherent.nudged⟩
  rintro other pane ((active | zoomed | named) | requested)
  · exact coherent.mentioned other pane (.inl (.inl active))
  · simp only [PanesState.toggleZoom] at zoomed
    split at zoomed
    · rw [lookup_erase] at zoomed
      split at zoomed
      · cases zoomed
      · exact coherent.mentioned other pane (.inl (.inr (.inl zoomed)))
    · rw [lookup_insert] at zoomed
      split at zoomed
      · next same =>
        subst same
        exact Option.some.inj zoomed ▸ shows
      · exact coherent.mentioned other pane (.inl (.inr (.inl zoomed)))
  · exact coherent.mentioned other pane (.inl (.inr (.inr named)))
  · exact coherent.mentioned other pane (.inr requested)

theorem Coherent.of_walk (coherent : state.Coherent rules) (found : state.layouts.lookup tabId = some root)
    (distinct : (PaneNode.ids tree).Nodup)
    (leaves : ∀ paneId, paneId ∈ PaneNode.leafIds root → paneId ∈ PaneNode.leafIds tree)
    (shaped : PaneNode.isWellFormedPaneTree rules.isPaneContentShape tree = true) :
    Coherent rules { state with layouts := state.layouts.insert tabId tree } := by
  refine coherent.of_tab rfl shaped distinct (coherent.focused tabId root found) ?_ (fun _ _ _ mentions => mentions)
    (fun _ _ => rfl) ?_
  · exact fun paneId mentions => leaves paneId (named_of_coherent coherent found mentions)
  · intro paneId nudge
    refine ⟨nudge,?_⟩
    rintro ⟨held,same,shown⟩
    rw [found] at same
    exact leaves paneId (Option.some.inj same ▸ shown)

theorem Coherent.walkLayout (coherent : state.Coherent rules) (tabId : String)
    {walk : PaneNode Content Size → PaneNode Content Size} (rearranges : ∀ node, PaneNode.Rearranged node (walk node)) :
    (state.walkLayout tabId walk).Coherent rules := by
  unfold PanesState.walkLayout
  split
  · exact coherent
  next root found =>
  obtain ⟨ids,leaves⟩ := rearranges root
  refine coherent.of_walk found (ids.nodup_iff.mpr (coherent.distinct tabId root found)) ?_ ?_
  · exact fun paneId listed => (leaves.map _).mem_iff.mpr listed
  · rw [PaneNode.isWellFormed_iff_contents,PaneNode.Rearranged.contents ⟨ids,leaves⟩,← PaneNode.isWellFormed_iff_contents]
    exact coherent.wellFormed tabId root found

theorem find_swapEntries {Value : Type} {tables : NestedTable String String Value} {otherId key name : String}
    (held : (find (swapEntries tables tabId paneId otherId) key name).isSome) :
    (find tables key name).isSome ∨ (key = tabId ∧ (name = paneId ∨ name = otherId)) := by
  unfold swapEntries at held
  split at held
  · exact .inl held
  next table found =>
  rw [find_insert,lookup_assign,lookup_assign] at held
  split at held
  · next same =>
    subst same
    split at held
    · next at_ => exact .inr ⟨rfl,.inr at_⟩
    · split at held
      · next at_ => exact .inr ⟨rfl,.inl at_⟩
      · exact .inl (by simpa [find,tableAt,found] using held)
  · exact .inl held

theorem Coherent.swapPanes (coherent : state.Coherent rules) (tabId paneId otherId : String) :
    (state.swapPanes rules tabId paneId otherId).Coherent rules := by
  unfold PanesState.swapPanes
  split
  · exact coherent
  next root found =>
  split
  · exact coherent
  split
  · next pane other first second =>
    obtain ⟨left,rfl⟩ := PaneNode.findLeaf_some first
    obtain ⟨right,rfl⟩ := PaneNode.findLeaf_some second
    have kept : ∀ held : PaneLeaf Content, (if held.id = pane.id then { held with content := other.content }
        else if held.id = other.id then { held with content := pane.content } else held).id = held.id := by
      intro held
      split
      · rfl
      · split
        · rfl
        · rfl
    have leaves : PaneNode.leafIds (PaneNode.swapContents pane.id other.id pane.content other.content root) =
        PaneNode.leafIds root := PaneNode.leafIds_mapLeaves kept root
    have distinct := coherent.distinct tabId root found
    have titled : ∀ {Value : Type} (tables : NestedTable String String Value),
        (∀ held, (find tables tabId held).isSome → held ∈ PaneNode.leafIds root) →
          ∀ held, (find (swapEntries tables tabId pane.id other.id) tabId held).isSome → held ∈ PaneNode.leafIds root := by
      intro Value tables earlier held entry
      obtain before | ⟨_,rfl | rfl⟩ := find_swapEntries entry
      · exact earlier held before
      · exact List.mem_map_of_mem left
      · exact List.mem_map_of_mem right
    refine coherent.reconciled rfl rfl ?_ ?_ (coherent.focused tabId root found) ?_ ?_ (fun _ _ => rfl) ?_
    · rw [PaneNode.isWellFormed_iff_contents,PaneNode.contents_swapContents distinct left right,
        ← PaneNode.isWellFormed_iff_contents]
      exact coherent.wellFormed tabId root found
    · unfold PaneNode.swapContents
      rw [PaneNode.ids_mapLeaves kept]
      exact distinct
    · rw [leaves]
      have old : ∀ held, state.Names tabId held → held ∈ PaneNode.leafIds root := fun held names =>
        named_of_coherent coherent found (.inl names)
      rintro held (active | zoomed | named | user)
      · exact old held (.inl active)
      · exact old held (.inr (.inl zoomed))
      · exact titled state.paneTitles (fun name entry => old name (.inr (.inr (.inl entry)))) held named
      · exact titled state.paneTitleSetByUser (fun name entry => old name (.inr (.inr (.inr entry)))) held user
    · intro tab held away names
      have same : ∀ {Value : Type} (tables : NestedTable String String Value),
          (find (swapEntries tables tabId pane.id other.id) tab held).isSome → (find tables tab held).isSome := by
        intro Value tables entry
        obtain before | ⟨at_,_⟩ := find_swapEntries entry
        · exact before
        · exact absurd at_ away
      exact names.imp id (Or.imp id (Or.imp (same _) (same _)))
    · intro held nudge
      refine ⟨nudge,?_⟩
      rintro ⟨tree,same,shown⟩
      rw [found] at same
      rw [leaves]
      exact Option.some.inj same ▸ shown
  · exact coherent

theorem leafIds_updateContent (paneId : String) (content : Content) (node : PaneNode Content Size) :
    PaneNode.leafIds (PaneNode.updateContent paneId content node) = PaneNode.leafIds node ∧
      PaneNode.ids (PaneNode.updateContent paneId content node) = PaneNode.ids node := by
  have kept : ∀ held : PaneLeaf Content, (if held.id = paneId then { held with content } else held).id = held.id := by
    intro held
    split
    · rfl
    · rfl
  exact ⟨PaneNode.leafIds_mapLeaves kept node,PaneNode.ids_mapLeaves kept node⟩

theorem Coherent.replacePane (coherent : state.Coherent rules) (tabId paneId : String) :
    (state.replacePane rules tabId paneId).Coherent rules := by
  unfold PanesState.replacePane
  split
  · exact coherent
  next root found =>
  split
  · exact coherent
  obtain ⟨leaves,ids⟩ := leafIds_updateContent paneId rules.pickerContent root
  have distinct := coherent.distinct tabId root found
  simp only
  split
  · next absent =>
    rw [PaneNode.updateContent_absent absent]
    exact coherent.of_walk found distinct (fun _ listed => listed) (coherent.wellFormed tabId root found)
  next present =>
  rw [not_not] at present
  have old : ∀ held, state.Names tabId held → held ∈ PaneNode.leafIds root := fun held names =>
    named_of_coherent coherent found (.inl names)
  obtain ⟨pane,member,rfl⟩ := List.mem_map.mp present
  refine coherent.reconciled rfl rfl ?_ (ids ▸ distinct) (coherent.focused tabId root found) ?_ ?_ (fun _ _ => rfl) ?_
  · rw [PaneNode.isWellFormed_iff_contents]
    have shaped := (PaneNode.isWellFormed_iff_contents _ _).mp (coherent.wellFormed tabId root found)
    intro content held
    have moved : content ∈ rules.pickerContent ::ₘ PaneNode.contents root := by
      rw [← PaneNode.contents_updateContent distinct member]
      exact Multiset.mem_cons_of_mem held
    obtain rfl | earlier := Multiset.mem_cons.mp moved
    · exact rules.picker_shape
    · exact shaped content earlier
  · rw [leaves]
    rintro held (active | zoomed | named | user)
    · exact old held (.inl active)
    · exact old held (.inr (.inl zoomed))
    · simp only [find_enter,true_and] at named
      split at named
      · next same => exact same ▸ present
      · exact old held (.inr (.inr (.inl named)))
    · simp only at user
      split at user
      · simp only [find_strike,true_and] at user
        split at user
        · cases user
        · exact old held (.inr (.inr (.inr user)))
      · exact old held (.inr (.inr (.inr user)))
  · intro tab held away names
    refine names.imp id (Or.imp id (Or.imp (fun named => by simpa [away] using named) fun user => ?_))
    simp only at user
    split at user
    · simpa [away] using user
    · exact user
  · intro held nudge
    refine ⟨nudge,?_⟩
    rintro ⟨tree,same,shown⟩
    rw [found] at same
    rw [leaves]
    exact Option.some.inj same ▸ shown

end PanesState
end Freshell.Panes
