import Convergence.Number.Binary
import Convergence.Ordered.Entries

/-!
# `Convergence.Value`: trees of telemetry data

The values that telemetry, configuration and expectations are written in: null, booleans, whole
numbers, 64-bit floats, text, arrays and objects.  `Value.Ordered` says that every object inside
lists its members by increasing key, each once; `Value.normalize` brings a tree as it was written
into that form, the last of several members with one key being kept.
-/

set_option autoImplicit false

namespace Convergence

/-- A tree of data. -/
inductive Value where
  | null
  | bool (b : Bool)
  | int (n : Int)
  | float (x : BinaryFloat)
  | string (s : String)
  | array (items : List Value)
  | object (members : List (String × Value))
  deriving Repr, Inhabited

namespace Value

mutual

/-- Every object lists its members by increasing key. -/
def Ordered : Value → Prop
  | array items => AllOrdered items
  | object members => Entries.Sorted members ∧ MembersOrdered members
  | null | bool _ | int _ | float _ | string _ => True

/-- Every value of the list is ordered. -/
def AllOrdered : List Value → Prop
  | [] => True
  | v :: vs => Ordered v ∧ AllOrdered vs

/-- Every member's value is ordered. -/
def MembersOrdered : List (String × Value) → Prop
  | [] => True
  | (_, v) :: ms => Ordered v ∧ MembersOrdered ms

end

mutual

/-- The tree with the members of every object by increasing key. -/
def normalize : Value → Value
  | array items => array (normalizeAll items)
  | object members => object (Entries.ofList (normalizeMembers members))
  | null => null
  | bool b => bool b
  | int n => int n
  | float x => float x
  | string s => string s

/-- Normalizes the values of a list. -/
def normalizeAll : List Value → List Value
  | [] => []
  | v :: vs => normalize v :: normalizeAll vs

/-- Normalizes the values of members, which keep their places. -/
def normalizeMembers : List (String × Value) → List (String × Value)
  | [] => []
  | (k, v) :: ms => (k, normalize v) :: normalizeMembers ms

end

theorem allOrdered_iff {vs : List Value} : AllOrdered vs ↔ ∀ v ∈ vs, v.Ordered := by
  induction vs with
  | nil => simp [AllOrdered]
  | cons v vs ih => simp [AllOrdered, ih]

theorem membersOrdered_iff {ms : List (String × Value)} :
    MembersOrdered ms ↔ ∀ m ∈ ms, m.2.Ordered := by
  induction ms with
  | nil => simp [MembersOrdered]
  | cons m ms ih => simp [MembersOrdered, ih]

theorem membersOrdered_insert {ms : List (String × Value)} (h : MembersOrdered ms) (k : String)
    {v : Value} (hv : v.Ordered) : MembersOrdered (Entries.insert k v ms) := by
  refine membersOrdered_iff.2 fun m hm => ?_
  rcases Entries.mem_insert hm with rfl | hm
  · exact hv
  · exact membersOrdered_iff.1 h m hm

theorem membersOrdered_erase {ms : List (String × Value)} (h : MembersOrdered ms) (k : String) :
    MembersOrdered (Entries.erase k ms) :=
  membersOrdered_iff.2 fun m hm =>
    membersOrdered_iff.1 h m ((Entries.erase_sublist k ms).subset hm)

theorem membersOrdered_ofList {ms : List (String × Value)} (h : MembersOrdered ms) :
    MembersOrdered (Entries.ofList ms) := by
  suffices step : ∀ acc, MembersOrdered acc →
      MembersOrdered (ms.foldl (fun acc m => Entries.insert m.1 m.2 acc) acc) from step [] trivial
  induction ms with
  | nil => exact fun acc hacc => hacc
  | cons m ms ih => exact fun acc hacc => ih h.2 _ (membersOrdered_insert hacc m.1 h.1)

theorem Ordered.find? {ms : List (String × Value)} (h : MembersOrdered ms) {k : String} {v : Value}
    (hv : Entries.find? k ms = some v) : v.Ordered := by
  induction ms with
  | nil => simp [Entries.find?] at hv
  | cons m ms ih =>
    simp only [Entries.find?] at hv
    split at hv
    · cases hv
      exact h.1
    · exact ih h.2 hv

mutual

theorem ordered_normalize (v : Value) : (normalize v).Ordered := by
  match v with
  | array items => simpa [normalize, Ordered] using allOrdered_normalizeAll items
  | object members =>
    simp only [normalize, Ordered]
    exact ⟨Entries.sorted_ofList _,
      membersOrdered_ofList (membersOrdered_normalizeMembers members)⟩
  | null => simp [normalize, Ordered]
  | bool _ => simp [normalize, Ordered]
  | int _ => simp [normalize, Ordered]
  | float _ => simp [normalize, Ordered]
  | string _ => simp [normalize, Ordered]

theorem allOrdered_normalizeAll (vs : List Value) : AllOrdered (normalizeAll vs) := by
  match vs with
  | [] => trivial
  | v :: vs =>
    simp only [normalizeAll, AllOrdered]
    exact ⟨ordered_normalize v, allOrdered_normalizeAll vs⟩

theorem membersOrdered_normalizeMembers (ms : List (String × Value)) :
    MembersOrdered (normalizeMembers ms) := by
  match ms with
  | [] => trivial
  | (k, v) :: ms =>
    simp only [normalizeMembers, MembersOrdered]
    exact ⟨ordered_normalize v, membersOrdered_normalizeMembers ms⟩

end

end Value

end Convergence
