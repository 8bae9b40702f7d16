import Mathlib.Data.Multiset.Basic
import Freshell.Library.BinaryTrees

/-!
The tree of panes of one tab and the walks that the layout reducers make over it.
Each walk is related to the one-hole context of the node it changes.
-/
namespace Freshell.Panes
open Freshell.Library.BinaryTrees

inductive Direction where
  | horizontal
  | vertical
  deriving DecidableEq, Repr

structure PaneLeaf (Content : Type) where
  id : String
  content : Content
  deriving DecidableEq

structure PaneSplit (Size : Type) where
  id : String
  direction : Direction
  sizes : Size × Size
  deriving DecidableEq

abbrev PaneNode (Content Size : Type) := Tree (PaneLeaf Content) (PaneSplit Size)

variable {Content Size : Type}

namespace PaneNode

def id : PaneNode Content Size → String
  | .leaf pane => pane.id
  | .split mark _ _ => mark.id

def ids (node : PaneNode Content Size) : List String :=
  node.gather (fun pane => [pane.id]) fun mark => [mark.id]

/-- The leaf nodes, left to right and top to bottom. -/
def collectLeaves (node : PaneNode Content Size) : List (PaneLeaf Content) :=
  node.gather (fun pane => [pane]) fun _ => []

def leafIds (node : PaneNode Content Size) : List String := node.collectLeaves.map (·.id)

def splitIds (node : PaneNode Content Size) : List String := node.gather (fun _ => []) fun mark => [mark.id]

def contents (node : PaneNode Content Size) : Multiset Content := node.collectLeaves.map (·.content)

def isWellFormedPaneTree (isPaneContentShape : Content → Bool) : PaneNode Content Size → Bool
  | .leaf pane => isPaneContentShape pane.content
  | .split _ first second =>
    isWellFormedPaneTree isPaneContentShape first && isWellFormedPaneTree isPaneContentShape second

/-- The first node with the id, a leaf or a split, gives way to another. -/
def findAndReplace (targetId : String) (replacement : PaneNode Content Size) :
    PaneNode Content Size → Option (PaneNode Content Size)
  | .leaf pane => if pane.id = targetId then some replacement else none
  | .split mark first second =>
    if mark.id = targetId then some replacement
    else match findAndReplace targetId replacement first with
      | some result => some (.split mark result second)
      | none => (findAndReplace targetId replacement second).map fun result => .split mark first result

def findLeaf (id : String) : PaneNode Content Size → Option (PaneLeaf Content)
  | .leaf pane => if pane.id = id then some pane else none
  | .split _ first second => (findLeaf id first).or (findLeaf id second)

def findFirstLeafId : PaneNode Content Size → String
  | .leaf pane => pane.id
  | .split _ first _ => findFirstLeafId first

/-- The tree without the node, its sibling in the place of their parent; and the sibling. -/
def removePane (targetId : String) : PaneNode Content Size → Option (PaneNode Content Size × PaneNode Content Size)
  | .leaf _ => none
  | .split mark left right =>
    if PaneNode.id left = targetId then some (right,right)
    else if PaneNode.id right = targetId then some (left,left)
    else match removePane targetId left with
      | some (result,sibling) => some (.split mark result right,sibling)
      | none => (removePane targetId right).map fun (result,sibling) => (.split mark left result,sibling)

/-- `resizePanes`: the walk stops at the split it resizes. -/
def updateSizes (splitId : String) (sizes : Size × Size) : PaneNode Content Size → PaneNode Content Size
  | .leaf pane => .leaf pane
  | .split mark first second =>
    if mark.id = splitId then .split { mark with sizes } first second
    else .split mark (updateSizes splitId sizes first) (updateSizes splitId sizes second)

/-- `resizeMultipleSplits`: the first resize that names a split counts. -/
def applySizes (resizes : List (String × (Size × Size))) : PaneNode Content Size → PaneNode Content Size
  | .leaf pane => .leaf pane
  | .split mark first second =>
    let newSizes := match resizes.find? (·.1 = mark.id) with
      | some resize => resize.2
      | none => mark.sizes
    .split { mark with sizes := newSizes } (applySizes resizes first) (applySizes resizes second)

/-- `swapSplit`: children and sizes of a split change sides. -/
def swapSplit (splitId : String) : PaneNode Content Size → PaneNode Content Size
  | .leaf pane => .leaf pane
  | .split mark first second =>
    if mark.id = splitId then .split { mark with sizes := mark.sizes.swap } second first
    else .split mark (swapSplit splitId first) (swapSplit splitId second)

def mapLeaves {Other : Type} (change : PaneLeaf Content → PaneLeaf Other) : PaneNode Content Size → PaneNode Other Size
  | .leaf pane => .leaf (change pane)
  | .split mark first second => .split mark (mapLeaves change first) (mapLeaves change second)

/-- `swapPanes`: each of two panes takes the other's content. -/
def swapContents (paneId otherId : String) (paneContent otherContent : Content) (node : PaneNode Content Size) :
    PaneNode Content Size :=
  mapLeaves (fun pane =>
    if pane.id = paneId then { pane with content := otherContent }
    else if pane.id = otherId then { pane with content := paneContent }
    else pane) node

/-- `replacePane`: what the panes with the id show from now on. -/
def updateContent (paneId : String) (content : Content) (node : PaneNode Content Size) : PaneNode Content Size :=
  mapLeaves (fun pane => if pane.id = paneId then { pane with content } else pane) node

@[simp] theorem ids_leaf (pane : PaneLeaf Content) : ids (.leaf pane : PaneNode Content Size) = [pane.id] := rfl

@[simp] theorem collectLeaves_leaf (pane : PaneLeaf Content) :
    collectLeaves (.leaf pane : PaneNode Content Size) = [pane] := rfl

variable (mark : PaneSplit Size)

@[simp] theorem collectLeaves_split (first second : PaneNode Content Size) :
    collectLeaves (.split mark first second) = collectLeaves first ++ collectLeaves second := rfl

@[simp] theorem ids_split (first second : PaneNode Content Size) :
    ids (.split mark first second) = mark.id :: (ids first ++ ids second) := rfl

theorem leafIds_eq (node : PaneNode Content Size) : leafIds node = node.gather (fun pane => [pane.id]) fun _ => [] :=
  Tree.gather_map _ _ _ node

theorem leafIds_sublist (node : PaneNode Content Size) : (leafIds node).Sublist (ids node) := by
  rw [leafIds_eq]
  exact Tree.gather_sublist (fun _ => List.nil_sublist _) node

variable {node : PaneNode Content Size}

theorem mem_ids_of_leaf {id : String} (listed : id ∈ leafIds node) : id ∈ ids node :=
  (leafIds_sublist node).subset listed

theorem id_mem_ids (node : PaneNode Content Size) : PaneNode.id node ∈ ids node := by
  cases node with
  | leaf pane => exact List.mem_singleton_self _
  | split mark first second => exact List.mem_cons_self

theorem collectLeaves_ne_nil (node : PaneNode Content Size) : collectLeaves node ≠ [] :=
  Tree.gather_ne_nil (fun _ => by simp) node

theorem findFirstLeafId_mem (node : PaneNode Content Size) : findFirstLeafId node ∈ leafIds node := by
  induction node with
  | leaf pane => exact List.mem_singleton_self _
  | split mark first second ihFirst ihSecond =>
    unfold leafIds at ihFirst ⊢
    rw [collectLeaves_split,List.map_append]
    exact List.mem_append_left _ ihFirst

variable (shape : Content → Bool)

theorem isWellFormed_iff (node : PaneNode Content Size) :
    isWellFormedPaneTree shape node = true ↔ ∀ pane ∈ collectLeaves node, shape pane.content = true := by
  induction node with
  | leaf pane => simp [isWellFormedPaneTree]
  | split mark first second ihFirst ihSecond =>
    rw [isWellFormedPaneTree,Bool.and_eq_true,ihFirst,ihSecond]
    simp only [collectLeaves_split,List.mem_append]
    constructor
    · rintro ⟨first,second⟩ pane (listed | listed)
      · exact first pane listed
      · exact second pane listed
    · intro both
      exact ⟨fun pane listed => both pane (.inl listed),fun pane listed => both pane (.inr listed)⟩

variable {pane : PaneLeaf Content}

theorem findLeaf_some {id : String} (found : findLeaf id node = some pane) :
    pane ∈ collectLeaves node ∧ pane.id = id := by
  induction node with
  | leaf held =>
    unfold findLeaf at found
    split at found
    · next same =>
      cases found
      exact ⟨List.mem_singleton_self _,same⟩
    · cases found
  | split mark first second ihFirst ihSecond =>
    rw [collectLeaves_split,List.mem_append]
    obtain ahead | ⟨_,behind⟩ := Option.or_eq_some_iff.mp found
    · exact ⟨.inl (ihFirst ahead).1,(ihFirst ahead).2⟩
    · exact ⟨.inr (ihSecond behind).1,(ihSecond behind).2⟩

theorem findLeaf_isSome {id : String} (listed : id ∈ leafIds node) : ∃ pane, findLeaf id node = some pane := by
  induction node with
  | leaf held => exact ⟨held,if_pos (List.mem_singleton.mp listed).symm⟩
  | split mark first second ihFirst ihSecond =>
    unfold leafIds at listed
    rw [collectLeaves_split,List.map_append,List.mem_append] at listed
    unfold findLeaf
    obtain listed | listed := listed
    · obtain ⟨pane,found⟩ := ihFirst listed
      exact ⟨pane,by rw [found]; rfl⟩
    · obtain ⟨pane,found⟩ := ihSecond listed
      cases ahead : findLeaf id first with
      | none => exact ⟨pane,by rw [found]; rfl⟩
      | some other => exact ⟨other,rfl⟩

variable {targetId : String}

theorem findAndReplace_plug {replacement result : PaneNode Content Size}
    (replaced : findAndReplace targetId replacement node = some result) :
    ∃ context part, node = Context.plug context part ∧ PaneNode.id part = targetId ∧
      result = Context.plug context replacement := by
  induction node generalizing result with
  | leaf pane =>
    unfold findAndReplace at replaced
    split at replaced
    · next same =>
      cases replaced
      exact ⟨[],.leaf pane,rfl,same,rfl⟩
    · cases replaced
  | split mark first second ihFirst ihSecond =>
    unfold findAndReplace at replaced
    split at replaced
    · next same =>
      cases replaced
      exact ⟨[],.split mark first second,rfl,same,rfl⟩
    · split at replaced
      · next inner found =>
        cases replaced
        obtain ⟨context,part,rfl,same,rfl⟩ := ihFirst found
        exact ⟨.first mark second :: context,part,rfl,same,rfl⟩
      · obtain ⟨inner,found,rfl⟩ := Option.map_eq_some_iff.mp replaced
        obtain ⟨context,part,rfl,same,rfl⟩ := ihSecond found
        exact ⟨.second mark first :: context,part,rfl,same,rfl⟩

/-- What is removed is one child of a split in the hole of some context, and the
    other child takes the split's place. -/
theorem removePane_plug {result sibling : PaneNode Content Size}
    (removed : removePane targetId node = some (result,sibling)) :
    ∃ context mark gone, result = Context.plug context sibling ∧ PaneNode.id gone = targetId ∧
      (node = Context.plug context (.split mark gone sibling) ∨
        node = Context.plug context (.split mark sibling gone)) := by
  induction node generalizing result sibling with
  | leaf pane => cases removed
  | split mark left right ihLeft ihRight =>
    unfold removePane at removed
    split at removed
    · next same =>
      cases removed
      exact ⟨[],mark,left,rfl,same,.inl rfl⟩
    · split at removed
      · next same =>
        cases removed
        exact ⟨[],mark,right,rfl,same,.inr rfl⟩
      · split at removed
        · next inner found =>
          cases removed
          obtain ⟨context,at_,gone,rfl,same,rfl | rfl⟩ := ihLeft found
          · exact ⟨.first mark right :: context,at_,gone,rfl,same,.inl rfl⟩
          · exact ⟨.first mark right :: context,at_,gone,rfl,same,.inr rfl⟩
        · obtain ⟨⟨inner,other⟩,found,same⟩ := Option.map_eq_some_iff.mp removed
          cases same
          obtain ⟨context,at_,gone,rfl,same,rfl | rfl⟩ := ihRight found
          · exact ⟨.second mark left :: context,at_,gone,rfl,same,.inl rfl⟩
          · exact ⟨.second mark left :: context,at_,gone,rfl,same,.inr rfl⟩

variable (context : Context (PaneLeaf Content) (PaneSplit Size))

theorem collectLeaves_plug (part : PaneNode Content Size) : (collectLeaves (Context.plug context part)).Perm
      (Context.gather (fun pane => [pane]) (fun _ => []) context ++ collectLeaves part) := Context.gather_plug _ _ _ _

theorem id_mem_ids_of_mem (listed : pane ∈ collectLeaves node) :
    pane.id ∈ ids node := mem_ids_of_leaf (List.mem_map_of_mem listed)

theorem id_mem_around {context : Context (PaneLeaf Content) (PaneSplit Size)}
    (listed : pane ∈ Context.gather (fun pane => [pane]) (fun _ => []) context) :
    pane.id ∈ Context.gather (fun pane => [pane.id]) (fun mark => [mark.id]) context := by
  induction context with
  | nil => cases listed
  | cons frame rest ih =>
    cases frame with
    | first mark second =>
      simp only [Context.gather,List.nil_append,List.mem_append] at listed ⊢
      exact .inr (listed.imp ih id_mem_ids_of_mem)
    | second mark first =>
      simp only [Context.gather,List.nil_append,List.mem_append] at listed ⊢
      exact .inr (listed.imp id_mem_ids_of_mem ih)

theorem part_of_leaf {context : Context (PaneLeaf Content) (PaneSplit Size)} {part : PaneNode Content Size}
    (nodup : (ids (Context.plug context part)).Nodup) (listed : pane ∈ collectLeaves (Context.plug context part))
    (same : PaneNode.id part = pane.id) : part = .leaf pane := by
  obtain ⟨_,inside,apart⟩ := Context.disjoint_of_nodup nodup
  obtain around | within_ := List.mem_append.mp ((collectLeaves_plug context part).mem_iff.mp listed)
  · exact absurd (same ▸ id_mem_ids part) (apart (id_mem_around around))
  · cases part with
    | leaf held => rw [List.mem_singleton.mp within_]
    | split mark first second =>
      rw [collectLeaves_split] at within_
      have below : pane.id ∈ ids first ++ ids second :=
        List.mem_append.mpr ((List.mem_append.mp within_).imp id_mem_ids_of_mem id_mem_ids_of_mem)
      have top : mark.id = pane.id := same
      rw [← top] at below
      exact absurd below (List.nodup_cons.mp inside).1

/-- The split that a reducer puts in the place of a leaf. -/
def beside (mark : PaneSplit Size) (pane added : PaneLeaf Content) : PaneNode Content Size :=
  .split mark (.leaf pane) (.leaf added)

theorem findAndReplace_beside {result : PaneNode Content Size} (nodup : (ids node).Nodup) {added : PaneLeaf Content}
    (listed : pane ∈ collectLeaves node) {mark : PaneSplit Size}
    (replaced : findAndReplace pane.id (beside mark pane added) node = some result) :
    ∃ context, node = Context.plug context (.leaf pane) ∧ result = Context.plug context (beside mark pane added) := by
  obtain ⟨context,part,rfl,same,rfl⟩ := findAndReplace_plug replaced
  cases part_of_leaf nodup listed same
  exact ⟨context,rfl,rfl⟩

theorem ids_beside (mark : PaneSplit Size) (pane added : PaneLeaf Content) :
    (ids (Context.plug context (beside mark pane added))).Perm
      (mark.id :: added.id :: ids (Context.plug context (.leaf pane))) := Context.gather_split_first _ _ _ _ _ _

theorem collectLeaves_beside (mark : PaneSplit Size) (pane added : PaneLeaf Content) :
    (collectLeaves (Context.plug context (beside mark pane added))).Perm
      (added :: collectLeaves (Context.plug context (.leaf pane))) := Context.gather_split_first _ _ _ _ _ _

theorem removePane_leaf {result sibling : PaneNode Content Size} (leaf : targetId ∉ splitIds node)
    (removed : removePane targetId node = some (result,sibling)) :
    ∃ splitId pane, pane.id = targetId ∧ (ids node).Perm (splitId :: targetId :: ids result) ∧
      (collectLeaves node).Perm (pane :: collectLeaves result) ∧
      ∀ held, held ∈ collectLeaves sibling → held ∈ collectLeaves result := by
  obtain ⟨context,mark,gone,rfl,same,shape⟩ := removePane_plug removed
  have below : ∀ held, held ∈ collectLeaves sibling → held ∈ collectLeaves (Context.plug context sibling) :=
    fun held listed => (collectLeaves_plug _ _).mem_iff.mpr (List.mem_append_right _ listed)
  have gathered : ∀ {Item : Type} (ofLeaf : PaneLeaf Content → List Item) (ofSplit : PaneSplit Size → List Item),
      (node.gather ofLeaf ofSplit).Perm
        (ofSplit mark ++ (gone.gather ofLeaf ofSplit ++ (Context.plug context sibling).gather ofLeaf ofSplit)) := by
    intro Item ofLeaf ofSplit
    obtain rfl | rfl := shape
    · exact Context.gather_split_second _ _ _ _ _ _
    · exact Context.gather_split_first _ _ _ _ _ _
  cases gone with
  | leaf pane =>
    refine ⟨mark.id,pane,same,?_,gathered _ _,below⟩
    rw [← same]
    exact gathered _ _
  | split inner first second =>
    refine absurd ((gathered (fun _ => []) fun mark => [mark.id]).mem_iff.mpr ?_) leaf
    have top : inner.id = targetId := same
    simp [Tree.gather,top]

theorem removePane_none (absent : targetId ∉ ids node) : removePane targetId node = none := by
  induction node with
  | leaf pane => rfl
  | split mark left right ihLeft ihRight =>
    simp only [ids_split,List.mem_cons,List.mem_append,not_or] at absent
    have other : PaneNode.id left ≠ targetId := fun same => absent.2.1 (same ▸ id_mem_ids left)
    have another : PaneNode.id right ≠ targetId := fun same => absent.2.2 (same ▸ id_mem_ids right)
    unfold removePane
    rw [if_neg other,if_neg another,ihLeft absent.2.1,ihRight absent.2.2]
    rfl

theorem removePane_beside {context : Context (PaneLeaf Content) (PaneSplit Size)} {mark : PaneSplit Size}
    {pane added : PaneLeaf Content} (apart : mark.id ≠ added.id)
    (fresh : added.id ∉ ids (Context.plug context (.leaf pane))) :
    removePane added.id (Context.plug context (beside mark pane added)) =
      some (Context.plug context (.leaf pane),.leaf pane) := by
  induction context with
  | nil =>
    have other : pane.id ≠ added.id := fun same => fresh (by simp [Context.plug,same])
    simp [Context.plug,beside,removePane,PaneNode.id,other]
  | cons frame rest ih =>
    have root : PaneNode.id (Context.plug rest (beside mark pane added)) ≠ added.id := by
      cases rest with
      | nil => exact apart
      | cons inner below =>
        cases frame with
        | first outer second =>
          cases inner with
          | first split other => exact fun same => fresh (by simp [Context.plug,← same,PaneNode.id])
          | second split other => exact fun same => fresh (by simp [Context.plug,← same,PaneNode.id])
        | second outer first =>
          cases inner with
          | first split other => exact fun same => fresh (by simp [Context.plug,← same,PaneNode.id])
          | second split other => exact fun same => fresh (by simp [Context.plug,← same,PaneNode.id])
    cases frame with
    | first split second =>
      simp only [Context.plug,ids_split,List.mem_cons,List.mem_append,not_or] at fresh
      have other : PaneNode.id second ≠ added.id := fun same => fresh.2.2 (same ▸ id_mem_ids second)
      simp only [Context.plug,removePane]
      rw [if_neg root,if_neg other,ih fresh.2.1]
    | second split first =>
      simp only [Context.plug,ids_split,List.mem_cons,List.mem_append,not_or] at fresh
      have other : PaneNode.id first ≠ added.id := fun same => fresh.2.1 (same ▸ id_mem_ids first)
      simp only [Context.plug,removePane]
      rw [if_neg other,if_neg root,removePane_none fresh.2.1,ih fresh.2.2]
      rfl

/-- The same nodes, perhaps in another place or of another size. -/
def Rearranged (before after : PaneNode Content Size) : Prop :=
  (ids after).Perm (ids before) ∧ (collectLeaves after).Perm (collectLeaves before)

theorem Rearranged.refl (node : PaneNode Content Size) : Rearranged node node := ⟨.refl _,.refl _⟩

theorem Rearranged.split {mark marked : PaneSplit Size} (same : marked.id = mark.id)
    {first second first' second' : PaneNode Content Size} (ahead : Rearranged first first')
    (behind : Rearranged second second') : Rearranged (.split mark first second) (.split marked first' second') := by
  constructor
  · rw [ids_split,ids_split,same]
    exact (ahead.1.append behind.1).cons _
  · exact ahead.2.append behind.2

variable (splitId : String)

theorem rearranged_updateSizes (sizes : Size × Size) (node : PaneNode Content Size) :
    Rearranged node (updateSizes splitId sizes node) := by
  induction node with
  | leaf pane => exact .refl _
  | split mark first second ihFirst ihSecond =>
    unfold updateSizes
    split
    · exact .split rfl (.refl _) (.refl _)
    · exact .split rfl ihFirst ihSecond

theorem rearranged_applySizes (resizes : List (String × (Size × Size))) (node : PaneNode Content Size) :
    Rearranged node (applySizes resizes node) := by
  induction node with
  | leaf pane => exact .refl _
  | split mark first second ihFirst ihSecond => exact .split rfl ihFirst ihSecond

theorem rearranged_swapSplit (node : PaneNode Content Size) : Rearranged node (swapSplit splitId node) := by
  induction node with
  | leaf pane => exact .refl _
  | split mark first second ihFirst ihSecond =>
    unfold swapSplit
    split
    · constructor
      · rw [ids_split,ids_split]
        exact List.Perm.cons _ List.perm_append_comm
      · rw [collectLeaves_split,collectLeaves_split]
        exact List.perm_append_comm
    · exact .split rfl ihFirst ihSecond

variable {Other : Type}

theorem collectLeaves_mapLeaves (change : PaneLeaf Content → PaneLeaf Other) (node : PaneNode Content Size) :
    collectLeaves (mapLeaves change node) = (collectLeaves node).map change := by
  induction node with
  | leaf pane => rfl
  | split mark first second ihFirst ihSecond =>
    rw [mapLeaves,collectLeaves_split,collectLeaves_split,List.map_append,ihFirst,ihSecond]

theorem ids_mapLeaves {change : PaneLeaf Content → PaneLeaf Other} (kept : ∀ pane, (change pane).id = pane.id)
    (node : PaneNode Content Size) : ids (mapLeaves change node) = ids node := by
  induction node with
  | leaf pane => simp [mapLeaves,kept]
  | split mark first second ihFirst ihSecond => rw [mapLeaves,ids_split,ids_split,ihFirst,ihSecond]

theorem leafIds_mapLeaves {change : PaneLeaf Content → PaneLeaf Other} (kept : ∀ pane, (change pane).id = pane.id)
    (node : PaneNode Content Size) : leafIds (mapLeaves change node) = leafIds node := by
  unfold leafIds
  rw [collectLeaves_mapLeaves,List.map_map]
  exact List.map_congr_left fun pane _ => kept pane

theorem isWellFormed_iff_contents (node : PaneNode Content Size) :
    isWellFormedPaneTree shape node = true ↔ ∀ content ∈ contents node, shape content = true := by
  rw [isWellFormed_iff]
  simp [contents]

theorem Rearranged.contents {before after : PaneNode Content Size} (same : Rearranged before after) :
    contents after = contents before := Multiset.coe_eq_coe.mpr (same.2.map _)

theorem eq_of_id_eq (nodup : (ids node).Nodup) {first second : PaneLeaf Content} (left : first ∈ collectLeaves node)
    (right : second ∈ collectLeaves node) (same : first.id = second.id) : first = second := by
  have distinct : (leafIds node).Nodup := nodup.sublist (leafIds_sublist node)
  exact List.inj_on_of_nodup_map distinct left right same

theorem findLeaf_of_mem (nodup : (ids node).Nodup) (listed : pane ∈ collectLeaves node) :
    findLeaf pane.id node = some pane := by
  obtain ⟨held,found⟩ := findLeaf_isSome (List.mem_map_of_mem listed)
  obtain ⟨member,same⟩ := findLeaf_some found
  rw [found,eq_of_id_eq nodup member listed same]

theorem leaf_ahead (nodup : (ids node).Nodup) (listed : pane ∈ collectLeaves node) :
    ∃ rest, (collectLeaves node).Perm (pane :: rest) ∧ (rest.map (·.id)).Nodup ∧ ∀ other ∈ rest, other.id ≠ pane.id := by
  obtain ⟨before,after,split⟩ := List.append_of_mem listed
  have ahead : (collectLeaves node).Perm (pane :: (before ++ after)) := by
    rw [split]
    exact List.perm_middle
  have whole : (leafIds node).Nodup := nodup.sublist (leafIds_sublist node)
  have apart : ((pane :: (before ++ after)).map (·.id)).Nodup := (ahead.map _).nodup_iff.mp whole
  rw [List.map_cons,List.nodup_cons] at apart
  refine ⟨before ++ after,ahead,apart.2,fun other member same => apart.1 ?_⟩
  rw [← same]
  exact List.mem_map_of_mem member

theorem contents_swapContents (nodup : (ids node).Nodup) {other : PaneLeaf Content} (left : pane ∈ collectLeaves node)
    (right : other ∈ collectLeaves node) :
    contents (swapContents pane.id other.id pane.content other.content node) = contents node := by
  unfold contents swapContents
  rw [collectLeaves_mapLeaves]
  by_cases same : pane.id = other.id
  · cases eq_of_id_eq nodup left right same
    rw [List.map_map]
    refine congrArg _ (List.map_congr_left fun held member => ?_)
    by_cases at_ : held.id = pane.id
    · simp [eq_of_id_eq nodup member left at_]
    · simp [at_]
  · obtain ⟨rest,ahead,distinct,others⟩ := leaf_ahead nodup left
    have second : other ∈ rest := by
      obtain equal | member := List.mem_cons.mp (ahead.mem_iff.mp right)
      · exact absurd (by rw [equal]) same
      · exact member
    obtain ⟨before,after,rfl⟩ := List.append_of_mem second
    have both : (collectLeaves node).Perm (pane :: other :: (before ++ after)) :=
      ahead.trans (List.perm_middle.cons _)
    have twice : ((other :: (before ++ after)).map (·.id)).Nodup :=
      (List.perm_middle.map _).nodup_iff.mp distinct
    rw [List.map_cons,List.nodup_cons] at twice
    have untouched : ∀ held ∈ before ++ after, held.id ≠ pane.id ∧ held.id ≠ other.id := by
      intro held member
      refine ⟨others held ?_,fun equal => twice.1 (equal ▸ List.mem_map_of_mem member)⟩
      exact List.perm_middle.mem_iff.mpr (List.mem_cons_of_mem _ member)
    refine Multiset.coe_eq_coe.mpr (((both.map _).map _).trans (List.Perm.trans ?_ (both.map _).symm))
    simp only [List.map_cons,if_pos,if_neg (Ne.symm same),List.map_map]
    rw [List.map_congr_left (g := fun held : PaneLeaf Content => held.content)]
    · exact List.Perm.swap _ _ _
    · intro held member
      obtain ⟨away,apart⟩ := untouched held member
      simp [away,apart]

/-- A leaf that shows something else gives up what it held, and nothing else changes. -/
theorem contents_updateContent (nodup : (ids node).Nodup) (listed : pane ∈ collectLeaves node) (content : Content) :
    pane.content ::ₘ contents (updateContent pane.id content node) = content ::ₘ contents node := by
  obtain ⟨rest,ahead,_,others⟩ := leaf_ahead nodup listed
  unfold contents updateContent
  rw [collectLeaves_mapLeaves]
  refine Multiset.coe_eq_coe.mpr ?_
  refine (((ahead.map _).map _).cons _).trans (List.Perm.trans ?_ ((ahead.map _).symm.cons _))
  simp only [List.map_cons,if_pos,List.map_map]
  rw [List.map_congr_left (g := fun held : PaneLeaf Content => held.content)]
  · exact List.Perm.swap _ _ _
  · intro held member
    simp [others held member]

theorem updateContent_absent {paneId : String} (absent : paneId ∉ leafIds node) (content : Content) :
    updateContent paneId content node = node := by
  induction node with
  | leaf pane =>
    have apart : pane.id ≠ paneId := fun same => absent (List.mem_singleton.mpr same.symm)
    simp [updateContent,mapLeaves,apart]
  | split mark first second ihFirst ihSecond =>
    unfold leafIds at absent
    rw [collectLeaves_split,List.map_append,List.mem_append,not_or] at absent
    have ahead := ihFirst absent.1
    have behind := ihSecond absent.2
    unfold updateContent at ahead behind ⊢
    rw [mapLeaves,ahead,behind]

end PaneNode
end Freshell.Panes
