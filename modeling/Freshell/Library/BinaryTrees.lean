import Mathlib.Data.List.Nodup

/-!
Binary trees with data at the leaves and at the splits, and their one-hole
contexts. What a tree gathers from its nodes is, up to order, what its context
gathers and what the part in the hole does, so that replacing the part says by
itself what becomes of the whole.
-/
namespace Freshell.Library.BinaryTrees
universe u v w

inductive Tree (Leaf : Type u) (Split : Type v) where
  | leaf (leaf : Leaf)
  | split (split : Split) (first second : Tree Leaf Split)
  deriving DecidableEq

variable {Leaf : Type u} {Split : Type v} {Item : Type w}

namespace Tree

/-- What the nodes give, each split ahead of its children. -/
def gather (ofLeaf : Leaf → List Item) (ofSplit : Split → List Item) : Tree Leaf Split → List Item
  | .leaf value => ofLeaf value
  | .split mark first second => ofSplit mark ++ (first.gather ofLeaf ofSplit ++ second.gather ofLeaf ofSplit)

theorem gather_ne_nil {ofLeaf : Leaf → List Item} {ofSplit : Split → List Item} (some_ : ∀ leaf, ofLeaf leaf ≠ [])
    (tree : Tree Leaf Split) : tree.gather ofLeaf ofSplit ≠ [] := by
  induction tree with
  | leaf value => exact some_ value
  | split mark first second ihFirst ihSecond => simp [gather,ihFirst]

theorem gather_map {Other : Type*} (change : Item → Other) (ofLeaf : Leaf → List Item) (ofSplit : Split → List Item)
    (tree : Tree Leaf Split) : (tree.gather ofLeaf ofSplit).map change =
      tree.gather (fun leaf => (ofLeaf leaf).map change) fun split => (ofSplit split).map change := by
  induction tree with
  | leaf value => rfl
  | split mark first second ihFirst ihSecond => simp only [gather,List.map_append,ihFirst,ihSecond]

theorem gather_sublist {ofLeaf : Leaf → List Item} {fewer more : Split → List Item}
    (sublist : ∀ split, (fewer split).Sublist (more split)) (tree : Tree Leaf Split) :
    (tree.gather ofLeaf fewer).Sublist (tree.gather ofLeaf more) := by
  induction tree with
  | leaf value => exact .refl _
  | split mark first second ihFirst ihSecond => exact (sublist mark).append (ihFirst.append ihSecond)

end Tree

/-- One step down into a tree: the split passed and the child left aside. -/
inductive Frame (Leaf : Type u) (Split : Type v) where
  | first (split : Split) (second : Tree Leaf Split)
  | second (split : Split) (first : Tree Leaf Split)

abbrev Context (Leaf : Type u) (Split : Type v) := List (Frame Leaf Split)

namespace Context

def plug : Context Leaf Split → Tree Leaf Split → Tree Leaf Split
  | [], part => part
  | .first split second :: rest, part => .split split (plug rest part) second
  | .second split first :: rest, part => .split split first (plug rest part)

def gather (ofLeaf : Leaf → List Item) (ofSplit : Split → List Item) : Context Leaf Split → List Item
  | [] => []
  | .first split second :: rest => ofSplit split ++ (gather ofLeaf ofSplit rest ++ second.gather ofLeaf ofSplit)
  | .second split first :: rest => ofSplit split ++ (first.gather ofLeaf ofSplit ++ gather ofLeaf ofSplit rest)

theorem gather_plug (ofLeaf : Leaf → List Item) (ofSplit : Split → List Item) (context : Context Leaf Split)
    (part : Tree Leaf Split) : ((plug context part).gather ofLeaf ofSplit).Perm
      (gather ofLeaf ofSplit context ++ part.gather ofLeaf ofSplit) := by
  induction context with
  | nil => exact .refl _
  | cons frame rest ih =>
    cases frame with
    | first split second =>
      simp only [plug,Tree.gather,gather,List.append_assoc]
      refine List.Perm.append_left _ ?_
      calc (plug rest part).gather ofLeaf ofSplit ++ second.gather ofLeaf ofSplit
        _ |>.Perm ((gather ofLeaf ofSplit rest ++ part.gather ofLeaf ofSplit) ++ second.gather ofLeaf ofSplit) :=
            ih.append_right _
        _ |>.Perm (gather ofLeaf ofSplit rest ++ (second.gather ofLeaf ofSplit ++ part.gather ofLeaf ofSplit)) := by
            rw [List.append_assoc]
            exact List.Perm.append_left _ List.perm_append_comm
    | second split first =>
      simp only [plug,Tree.gather,gather,List.append_assoc]
      exact List.Perm.append_left _ (List.Perm.append_left _ ih)

/-- A split in the hole gives what either child gives beside the tree with the other
    child in the split's place. -/
theorem gather_split_first (ofLeaf : Leaf → List Item) (ofSplit : Split → List Item) (context : Context Leaf Split)
    (split : Split) (first second : Tree Leaf Split) : ((plug context (.split split first second)).gather ofLeaf ofSplit).Perm
      (ofSplit split ++ (second.gather ofLeaf ofSplit ++ (plug context first).gather ofLeaf ofSplit)) := by
  have whole := gather_plug ofLeaf ofSplit context (.split split first second)
  have part := gather_plug ofLeaf ofSplit context first
  refine whole.trans (List.Perm.trans ?_ ((part.symm.append_left _).append_left _))
  simp only [Tree.gather]
  refine List.perm_append_comm.trans ?_
  simp only [List.append_assoc]
  refine List.Perm.append_left _ ?_
  rw [← List.append_assoc (second.gather ofLeaf ofSplit)]
  refine List.perm_append_comm.trans ?_
  simp only [List.append_assoc]
  exact .refl _

theorem gather_split_second (ofLeaf : Leaf → List Item) (ofSplit : Split → List Item) (context : Context Leaf Split)
    (split : Split) (first second : Tree Leaf Split) : ((plug context (.split split first second)).gather ofLeaf ofSplit).Perm
      (ofSplit split ++ (first.gather ofLeaf ofSplit ++ (plug context second).gather ofLeaf ofSplit)) := by
  refine List.Perm.trans ?_ (gather_split_first ofLeaf ofSplit context split second first)
  have either := gather_plug ofLeaf ofSplit context
  refine (either _).trans (List.Perm.trans ?_ (either _).symm)
  exact List.Perm.append_left _ (List.Perm.append_left _ List.perm_append_comm)

theorem disjoint_of_nodup {ofLeaf : Leaf → List Item} {ofSplit : Split → List Item} {context : Context Leaf Split}
    {part : Tree Leaf Split} (nodup : ((plug context part).gather ofLeaf ofSplit).Nodup) :
    (gather ofLeaf ofSplit context).Nodup ∧ (part.gather ofLeaf ofSplit).Nodup ∧
      (gather ofLeaf ofSplit context).Disjoint (part.gather ofLeaf ofSplit) := by
  have apart := (gather_plug ofLeaf ofSplit context part).nodup_iff.mp nodup
  exact ⟨apart.of_append_left,apart.of_append_right,List.disjoint_of_nodup_append apart⟩

end Context
end Freshell.Library.BinaryTrees
