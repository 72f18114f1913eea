import Convergence.Ordered.Map

/-!
# `Convergence.Lists`: comparing lists without regard to order

Devices report members and neighbors in any order.  The comparisons differ in how they count
repeated elements: `unorderedEq` counts them, the others do not.
-/

set_option autoImplicit false

namespace Convergence.Lists

variable {α : Type} [DecidableEq α]

/-- The list without an element, wherever it stands. -/
def without (a : List α) (x : α) : List α := a.filter (· ≠ x)

variable [Ord α]

/-- The list in increasing order. -/
def sort (a : List α) : List α := a.mergeSort fun x y => (compare x y).isLE

/-- The same elements, each as often in one list as in the other. -/
def unorderedEq (a b : List α) : Bool := sort a = sort b

variable [Std.TransOrd α] [Std.LawfulEqOrd α]

/-- The same distinct elements. -/
def sameMembers (a b : List α) : Bool := OrderedSet.ofList a = OrderedSet.ofList b

/-- Every element of the first list is in the second. -/
def containsAll (expected actual : List α) : Bool :=
  let members := OrderedSet.ofList actual
  expected.all members.contains

end Convergence.Lists
