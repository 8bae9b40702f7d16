import Mathlib.Logic.Relation
import Mathlib.Data.List.Nodup

/-!
Nodes that each point to at most one other. In a forest the chain from every
node ends at one root; a walk finds it in as many turns as there are pointing
nodes, and a root that is pointed into another tree joins its tree to that one.
-/
namespace Freshell.Library.Forests
open Relation
universe u

section
variable {Node : Type u} (parent : Node → Option Node)

def Points (node above : Node) : Prop := parent node = some above

def RootOf (node root : Node) : Prop := ReflTransGen (Points parent) node root ∧ parent root = none

def Forest : Prop := ∀ node, ∃ root, RootOf parent node root

/-- Follow the chain until a node points nowhere or was visited before. -/
def walk [DecidableEq Node] : Nat → List Node → Node → Node
  | 0, _, current => current
  | fuel+1, visited, current =>
    if visited.contains current then current
    else
      match parent current with
      | some above => walk fuel (current :: visited) above
      | none => current

variable {parent}

theorem rootOf_self {node : Node} (root : parent node = none) : RootOf parent node node := ⟨.refl,root⟩

theorem reaches_root {root node : Node} (isRoot : parent root = none) (chain : ReflTransGen (Points parent) root node) :
    node = root := by
  rcases chain.cases_head with same | ⟨above,points,_⟩
  · exact same.symm
  · rw [Points,isRoot] at points
    cases points

theorem rootOf_unique {node root other : Node} (first : RootOf parent node root) (second : RootOf parent node other) :
    root = other := by
  have functional : Relator.RightUnique (Points parent) := by
    intro a b c left right
    exact Option.some.inj (left.symm.trans right)
  rcases ReflTransGen.total_of_right_unique functional first.1 second.1 with onward | onward
  · exact (reaches_root first.2 onward).symm
  · exact reaches_root second.2 onward

theorem rootOf_above {node above root : Node} (points : parent node = some above) :
    RootOf parent node root ↔ RootOf parent above root := by
  constructor
  · rintro ⟨chain,isRoot⟩
    refine ⟨?_,isRoot⟩
    rcases chain.cases_head with rfl | ⟨next,first,rest⟩
    · rw [isRoot] at points
      cases points
    · obtain rfl := Option.some.inj (points.symm.trans first)
      exact rest
  · rintro ⟨chain,isRoot⟩
    exact ⟨.head points chain,isRoot⟩

theorem cycle_onward {node other : Node} (cycle : TransGen (Points parent) node node)
    (chain : ReflTransGen (Points parent) node other) : TransGen (Points parent) other other := by
  induction chain with
  | refl => exact cycle
  | @tail before after chain points ih =>
    obtain ⟨next,first,rest⟩ := TransGen.head'_iff.mp ih
    obtain rfl := Option.some.inj (points.symm.trans first)
    exact .tail' rest points

theorem Forest.acyclic (forest : Forest parent) (node : Node) : ¬TransGen (Points parent) node node := by
  intro cycle
  obtain ⟨root,chain,isRoot⟩ := forest node
  obtain ⟨above,points,_⟩ := TransGen.head'_iff.mp (cycle_onward cycle chain)
  rw [Points,isRoot] at points
  cases points

/-- The walk ends at the root where it has more turns than there are nodes left
    to visit. -/
theorem walk_rootOf [DecidableEq Node] {bound : Nat} (forest : Forest parent)
    (bounded : ∀ nodes : List Node, nodes.Nodup → (∀ node ∈ nodes, (parent node).isSome) → nodes.length ≤ bound)
    (fuel : Nat) (visited : List Node) (current : Node) (nodup : visited.Nodup)
    (led : ∀ node ∈ visited, TransGen (Points parent) node current) (enough : bound < fuel + visited.length) :
    RootOf parent current (walk parent fuel visited current) := by
  induction fuel generalizing visited current with
  | zero =>
    have pointing : ∀ node ∈ visited, (parent node).isSome := by
      intro node member
      obtain ⟨above,points,_⟩ := TransGen.head'_iff.mp (led node member)
      exact Option.isSome_iff_exists.mpr ⟨above,points⟩
    have few := bounded visited nodup pointing
    omega
  | succ fuel ih =>
    have fresh : current ∉ visited := fun member => forest.acyclic current (led current member)
    simp only [walk,List.contains_eq_mem,fresh,decide_false,Bool.false_eq_true,if_false]
    cases points : parent current with
    | none => exact rootOf_self points
    | some above =>
      apply (rootOf_above points).mpr
      apply ih
      · exact List.nodup_cons.mpr ⟨fresh,nodup⟩
      · intro node member
        rcases List.mem_cons.mp member with rfl | earlier
        · exact .single points
        · exact (led node earlier).tail points
      · simp only [List.length_cons]
        omega

variable [DecidableEq Node] {old above : Node}

theorem rootOf_update_of_ne {node root : Node} (free : parent old = none) (before : RootOf parent node root)
    (apart : root ≠ old) : RootOf (Function.update parent old (some above)) node root := by
  obtain ⟨chain,isRoot⟩ := before
  induction chain using ReflTransGen.head_induction_on with
  | refl => exact rootOf_self (by rw [Function.update_of_ne apart,isRoot])
  | @head node next points chain ih =>
    have moved : node ≠ old := by
      rintro rfl
      rw [Points,free] at points
      cases points
    exact (rootOf_above (by rw [Function.update_of_ne moved,points])).mpr ih

theorem rootOf_update_of_old {node root : Node} (free : parent old = none) (before : RootOf parent node old)
    (joined : RootOf parent above root) (apart : root ≠ old) :
    RootOf (Function.update parent old (some above)) node root := by
  obtain ⟨chain,_⟩ := before
  induction chain using ReflTransGen.head_induction_on with
  | refl =>
    apply (rootOf_above (Function.update_self ..)).mpr
    exact rootOf_update_of_ne free joined apart
  | @head node next points chain ih =>
    have moved : node ≠ old := by
      rintro rfl
      rw [Points,free] at points
      cases points
    exact (rootOf_above (by rw [Function.update_of_ne moved,points])).mpr ih

/-- A node that is cut off is a root, also of what stood below it. -/
theorem Forest.cut (forest : Forest parent) (old : Node) : Forest (Function.update parent old none) := by
  intro node
  obtain ⟨root,chain,isRoot⟩ := forest node
  induction chain using ReflTransGen.head_induction_on with
  | refl => exact ⟨root,rootOf_self (by rw [Function.update_apply,isRoot,ite_self])⟩
  | @head node next points chain ih =>
    by_cases same : node = old
    · exact ⟨node,rootOf_self (by rw [same,Function.update_self])⟩
    · obtain ⟨root,below⟩ := ih
      exact ⟨root,(rootOf_above (by rw [Function.update_of_ne same,points])).mpr below⟩

theorem Forest.update (forest : Forest parent) (free : parent old = none) (apart : ¬RootOf parent above old) :
    Forest (Function.update parent old (some above)) := by
  intro node
  obtain ⟨root,joined⟩ := forest above
  have distinct : root ≠ old := fun same => apart (same ▸ joined)
  obtain ⟨before,chain⟩ := forest node
  by_cases same : before = old
  · subst same
    exact ⟨root,rootOf_update_of_old free chain joined distinct⟩
  · exact ⟨before,rootOf_update_of_ne free chain same⟩

end
end Freshell.Library.Forests
