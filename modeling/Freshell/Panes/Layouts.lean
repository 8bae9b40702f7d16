import Freshell.Library.NestedTables
import Freshell.Panes.Tree

/-!
The layout reducers of the panes slice. A pane's content is opaque to them: they normalise
what they are given, title it, and match refresh requests against it. An entry that holds
`undefined` reads as no entry.
-/
namespace Freshell.Panes
open Freshell.Library.Tables

structure PaneRefreshRequest (Target : Type) where
  requestId : String
  target : Target
  deriving DecidableEq

structure ContentRules (Content Input Target : Type) where
  normalizePaneContent : Input → Content
  stripStaleIds : Content → Bool → Input
  derivePaneTitle : Content → String
  paneRefreshTargetMatchesContent : Target → Content → Bool
  isPaneContentShape : Content → Bool
  pickerContent : Content
  picker_shape : isPaneContentShape pickerContent = true

/-- The layouts and what is kept beside them for a tab or a pane. -/
structure PanesState (Content Size Target Attempt : Type) where
  layouts : Table String (PaneNode Content Size)
  activePane : Table String String
  paneTitles : NestedTable String String String
  paneTitleSetByUser : NestedTable String String Bool
  zoomedPane : Table String String
  refreshRequestsByPane : NestedTable String String (PaneRefreshRequest Target)
  focusEpochByPaneId : Table String Nat
  restoreFallbackAttemptsByPane : NestedTable String String Attempt
  closingTabs : Table String Bool
  closingPanes : Table String Bool

def truthy (text : Option String) : Bool := text.any (· ≠ "")

variable {Content Input Size Target Attempt : Type}

def normalizeRestoredTree (rules : ContentRules Content Input Target) (preserveCreateRequestIds : Bool)
    (node : PaneNode Content Size) : PaneNode Content Size :=
  PaneNode.mapLeaves (fun pane =>
    { pane with content := rules.normalizePaneContent (rules.stripStaleIds pane.content preserveCreateRequestIds) }) node

namespace PanesState

def empty : PanesState Content Size Target Attempt where
  layouts := ∅
  activePane := ∅
  paneTitles := ∅
  paneTitleSetByUser := ∅
  zoomedPane := ∅
  refreshRequestsByPane := ∅
  focusEpochByPaneId := ∅
  restoreFallbackAttemptsByPane := ∅
  closingTabs := ∅
  closingPanes := ∅

def isTabClosePending (state : PanesState Content Size Target Attempt) (tabId : String) : Bool :=
  state.closingTabs.lookup tabId = some true

def isPaneClosePending (state : PanesState Content Size Target Attempt) (tabId paneId : String) : Bool :=
  state.isTabClosePending tabId || state.closingPanes.lookup (tabId ++ ":" ++ paneId) = some true

def stillMatches (rules : ContentRules Content Input Target) (layout : PaneNode Content Size) (paneId : String)
    (request : PaneRefreshRequest Target) : Bool :=
  match PaneNode.findLeaf paneId layout with
  | some pane => rules.paneRefreshTargetMatchesContent request.target pane.content
  | none => false

def reconcileRefreshRequestsForTab (rules : ContentRules Content Input Target)
    (state : PanesState Content Size Target Attempt) (tabId : String) : PanesState Content Size Target Attempt :=
  match state.refreshRequestsByPane.lookup tabId with
  | none => state
  | some tabRequests =>
    match state.layouts.lookup tabId with
    | none => { state with refreshRequestsByPane := state.refreshRequestsByPane.erase tabId }
    | some layout =>
      let nextRequests := retain (stillMatches rules layout) tabRequests
      if nextRequests = ∅ then { state with refreshRequestsByPane := state.refreshRequestsByPane.erase tabId }
      else { state with refreshRequestsByPane := state.refreshRequestsByPane.insert tabId nextRequests }

/-- A tab that shows a single new pane, as `initLayout` and `resetLayout` leave it. -/
def showLeaf (rules : ContentRules Content Input Target) (state : PanesState Content Size Target Attempt)
    (tabId paneId : String) (content : Input) : PanesState Content Size Target Attempt :=
  let normalized := rules.normalizePaneContent content
  let shown := { state with
    layouts := state.layouts.insert tabId (.leaf { id := paneId, content := normalized })
    activePane := state.activePane.insert tabId paneId
    paneTitles := state.paneTitles.insert tabId (AList.singleton paneId (rules.derivePaneTitle normalized)) }
  let reconciled := reconcileRefreshRequestsForTab rules shown tabId
  { reconciled with restoreFallbackAttemptsByPane := reconciled.restoreFallbackAttemptsByPane.erase tabId }

def initLayout (rules : ContentRules Content Input Target) (state : PanesState Content Size Target Attempt)
    (tabId : String) (content : Input) (paneId : String) : PanesState Content Size Target Attempt :=
  if state.isTabClosePending tabId then state
  else if (state.layouts.lookup tabId).isSome then state
  else state.showLeaf rules tabId paneId content

def restoreLayout (rules : ContentRules Content Input Target) (state : PanesState Content Size Target Attempt)
    (tabId : String) (layout : PaneNode Content Size) (paneTitles : Table String String)
    (paneTitleSetByUser : Option (Table String Bool)) (preserveCreateRequestIds : Bool) :
    PanesState Content Size Target Attempt :=
  if state.isTabClosePending tabId then state
  else if (state.layouts.lookup tabId).isSome then state
  else
    let normalizedLayout := normalizeRestoredTree rules preserveCreateRequestIds layout
    let shown := { state with
      layouts := state.layouts.insert tabId normalizedLayout
      activePane := state.activePane.insert tabId (PaneNode.findFirstLeafId normalizedLayout)
      paneTitles := state.paneTitles.insert tabId paneTitles
      paneTitleSetByUser := match paneTitleSetByUser with
        | some flags => if flags = ∅ then state.paneTitleSetByUser else state.paneTitleSetByUser.insert tabId flags
        | none => state.paneTitleSetByUser }
    let reconciled := reconcileRefreshRequestsForTab rules shown tabId
    { reconciled with restoreFallbackAttemptsByPane := reconciled.restoreFallbackAttemptsByPane.erase tabId }

def resetLayout (rules : ContentRules Content Input Target) (state : PanesState Content Size Target Attempt)
    (tabId : String) (content : Input) (paneId : String) : PanesState Content Size Target Attempt :=
  if state.isTabClosePending tabId then state else state.showLeaf rules tabId paneId content

/-- The new pane is in the tree: the zoom ends and the pane gets its title. -/
def addedPane (rules : ContentRules Content Input Target) (state : PanesState Content Size Target Attempt)
    (tabId newPaneId : String) (newRoot : PaneNode Content Size) (normalizedContent : Content) (activate : Bool) :
    PanesState Content Size Target Attempt :=
  let shown := { state with
    layouts := state.layouts.insert tabId newRoot
    activePane := if activate then state.activePane.insert tabId newPaneId else state.activePane
    zoomedPane := if truthy (state.zoomedPane.lookup tabId) then state.zoomedPane.erase tabId else state.zoomedPane
    paneTitles := enter state.paneTitles tabId newPaneId (rules.derivePaneTitle normalizedContent) }
  reconcileRefreshRequestsForTab rules shown tabId

def splitPane [OfNat Size 50] (rules : ContentRules Content Input Target) (state : PanesState Content Size Target Attempt)
    (tabId paneId : String) (direction : Direction) (newContent : Input) (newPaneId splitId : String)
    (activate : Option Bool) : PanesState Content Size Target Attempt :=
  match state.layouts.lookup tabId with
  | none => state
  | some root =>
    if state.isTabClosePending tabId then state
    else
      let normalizedContent := rules.normalizePaneContent newContent
      match PaneNode.findLeaf paneId root with
      | none => state
      | some targetPane =>
        let splitNode : PaneNode Content Size := PaneNode.beside { id := splitId, direction, sizes := (50,50) } targetPane
          { id := newPaneId, content := normalizedContent }
        match PaneNode.findAndReplace paneId splitNode root with
        | some newRoot => state.addedPane rules tabId newPaneId newRoot normalizedContent (activate ≠ some false)
        | none => state

/-- The active pane, or the first leaf where there is none. -/
def splitTarget (state : PanesState Content Size Target Attempt) (tabId : String) (root : PaneNode Content Size) :
    Option (PaneLeaf Content) :=
  let activeLeaf := match state.activePane.lookup tabId with
    | some activePaneId => if activePaneId ≠ "" then PaneNode.findLeaf activePaneId root else none
    | none => none
  activeLeaf.or (PaneNode.collectLeaves root).head?

def addPane [OfNat Size 50] (rules : ContentRules Content Input Target) (state : PanesState Content Size Target Attempt)
    (tabId : String) (newContent : Input) (newPaneId splitId : String) : PanesState Content Size Target Attempt :=
  match state.layouts.lookup tabId with
  | none => state
  | some root =>
    if state.isTabClosePending tabId then state
    else match state.splitTarget tabId root with
      | none => state
      | some activeLeaf =>
        let normalizedContent := rules.normalizePaneContent newContent
        let replacement : PaneNode Content Size := PaneNode.beside { id := splitId, direction := .horizontal, sizes := (50,50) } activeLeaf
          { id := newPaneId, content := normalizedContent }
        match PaneNode.findAndReplace activeLeaf.id replacement root with
        | some newRoot => state.addedPane rules tabId newPaneId newRoot normalizedContent true
        | none => state

/-- What closing a pane leaves of the tables beside the tree. -/
def closedPane (rules : ContentRules Content Input Target) (state : PanesState Content Size Target Attempt)
    (tabId paneId : String) (newRoot sibling : PaneNode Content Size) : PanesState Content Size Target Attempt :=
  let shown := { state with
    layouts := state.layouts.insert tabId newRoot
    activePane :=
      if state.activePane.lookup tabId = some paneId then
        match (PaneNode.collectLeaves sibling).head? with
        | some first => state.activePane.insert tabId first.id
        | none => state.activePane
      else state.activePane
    paneTitles := if truthy (find state.paneTitles tabId paneId) then strike state.paneTitles tabId paneId
      else state.paneTitles
    paneTitleSetByUser := if find state.paneTitleSetByUser tabId paneId = some true
      then strike state.paneTitleSetByUser tabId paneId else state.paneTitleSetByUser
    zoomedPane := if state.zoomedPane.lookup tabId = some paneId then state.zoomedPane.erase tabId else state.zoomedPane
    focusEpochByPaneId := state.focusEpochByPaneId.erase paneId }
  reconcileRefreshRequestsForTab rules shown tabId

def closePane (rules : ContentRules Content Input Target) (state : PanesState Content Size Target Attempt)
    (tabId paneId : String) : PanesState Content Size Target Attempt :=
  match state.layouts.lookup tabId with
  | none => state
  -- the only pane stays
  | some (.leaf _) => state
  | some root =>
    match PaneNode.removePane paneId root with
    | some (newRoot,sibling) => state.closedPane rules tabId paneId newRoot sibling
    | none => state

def setActivePane (state : PanesState Content Size Target Attempt) (tabId paneId : String) (focusNudge : Bool) :
    PanesState Content Size Target Attempt :=
  { state with
    activePane := state.activePane.insert tabId paneId
    focusEpochByPaneId :=
      if focusNudge then state.focusEpochByPaneId.insert paneId ((state.focusEpochByPaneId.lookup paneId).getD 0 + 1)
      else state.focusEpochByPaneId }

def toggleZoom (state : PanesState Content Size Target Attempt) (tabId paneId : String) :
    PanesState Content Size Target Attempt :=
  { state with
    zoomedPane := if state.zoomedPane.lookup tabId = some paneId then state.zoomedPane.erase tabId
      else state.zoomedPane.insert tabId paneId }

def walkLayout (state : PanesState Content Size Target Attempt) (tabId : String)
    (walk : PaneNode Content Size → PaneNode Content Size) : PanesState Content Size Target Attempt :=
  match state.layouts.lookup tabId with
  | none => state
  | some root => { state with layouts := state.layouts.insert tabId (walk root) }

def resizePanes (state : PanesState Content Size Target Attempt) (tabId splitId : String) (sizes : Size × Size) :
    PanesState Content Size Target Attempt := state.walkLayout tabId (PaneNode.updateSizes splitId sizes)

def resizeMultipleSplits (state : PanesState Content Size Target Attempt) (tabId : String)
    (resizes : List (String × (Size × Size))) : PanesState Content Size Target Attempt :=
  state.walkLayout tabId (PaneNode.applySizes resizes)

def resetSplit [OfNat Size 50] (state : PanesState Content Size Target Attempt) (tabId splitId : String) :
    PanesState Content Size Target Attempt := state.walkLayout tabId (PaneNode.updateSizes splitId (50,50))

def swapSplit (state : PanesState Content Size Target Attempt) (tabId splitId : String) :
    PanesState Content Size Target Attempt := state.walkLayout tabId (PaneNode.swapSplit splitId)

def swapEntries {Value : Type} (tables : NestedTable String String Value) (tabId paneId otherId : String) :
    NestedTable String String Value :=
  match tables.lookup tabId with
  | none => tables
  | some table =>
    tables.insert tabId (assign (assign table paneId (table.lookup otherId)) otherId (table.lookup paneId))

def swapPanes (rules : ContentRules Content Input Target) (state : PanesState Content Size Target Attempt)
    (tabId paneId otherId : String) : PanesState Content Size Target Attempt :=
  match state.layouts.lookup tabId with
  | none => state
  | some root =>
    if state.isPaneClosePending tabId paneId || state.isPaneClosePending tabId otherId then state
    else match PaneNode.findLeaf paneId root,PaneNode.findLeaf otherId root with
      | some a,some b =>
        let shown := { state with
          layouts := state.layouts.insert tabId (PaneNode.swapContents paneId otherId a.content b.content root)
          paneTitles := swapEntries state.paneTitles tabId paneId otherId
          paneTitleSetByUser := swapEntries state.paneTitleSetByUser tabId paneId otherId }
        reconcileRefreshRequestsForTab rules shown tabId
      | _,_ => state

def replacePane (rules : ContentRules Content Input Target) (state : PanesState Content Size Target Attempt)
    (tabId paneId : String) : PanesState Content Size Target Attempt :=
  match state.layouts.lookup tabId with
  | none => state
  | some root =>
    if state.isPaneClosePending tabId paneId then state
    else
      let shown := { state with
        layouts := state.layouts.insert tabId (PaneNode.updateContent paneId rules.pickerContent root) }
      if paneId ∉ PaneNode.leafIds root then shown
      else
        let titled := { shown with
          paneTitles := enter shown.paneTitles tabId paneId (rules.derivePaneTitle rules.pickerContent)
          paneTitleSetByUser := if find shown.paneTitleSetByUser tabId paneId = some true
            then strike shown.paneTitleSetByUser tabId paneId else shown.paneTitleSetByUser }
        reconcileRefreshRequestsForTab rules titled tabId

end PanesState
end Freshell.Panes
