import Convergence.Path
import Convergence.Value

/-!
# `Convergence.Document`: the telemetry document and its updates

A document is an ordered value.  `get?` follows a path through objects, `set` stores a value and
makes the objects that lead to it, `remove` takes a value out and answers it.
-/

set_option autoImplicit false

namespace Convergence

namespace Value

/-- The members of an object; other values have none. -/
def members : Value → List (String × Value)
  | object ms => ms
  | _ => []

/-- The value that the keys lead to, through objects only. -/
def find? : List String → Value → Option Value
  | [], v => some v
  | k :: ks, v => (Entries.find? k v.members).bind (find? ks)

/-- Stores `new` where the keys lead.  What is not an object on the way becomes one. -/
def put (new : Value) : List String → Value → Value
  | [], _ => new
  | k :: ks, v =>
    object (Entries.insert k (put new ks ((Entries.find? k v.members).getD null)) v.members)

/-- Takes out the member that the keys lead to.  Without a key, or with nothing there, the value
stays as it is. -/
def take : List String → Value → Option Value × Value
  | [], v => (none, v)
  | [k], v =>
    match Entries.find? k v.members with
    | none => (none, v)
    | some old => (some old, object (Entries.erase k v.members))
  | k :: ks, v =>
    match Entries.find? k v.members with
    | none => (none, v)
    | some child =>
      let (old, rest) := take ks child
      (old, object (Entries.insert k rest v.members))

/-! ### Order is kept -/

theorem Ordered.members {v : Value} (h : v.Ordered) :
    Entries.Sorted v.members ∧ MembersOrdered v.members := by
  cases v with
  | object ms => exact h
  | _ => exact ⟨Entries.sorted_nil, trivial⟩

theorem Ordered.find {ks : List String} {v w : Value} (h : v.Ordered)
    (hw : Value.find? ks v = some w) : w.Ordered := by
  induction ks generalizing v with
  | nil => cases hw; exact h
  | cons k ks ih =>
    obtain ⟨c, hc, hw⟩ := Option.bind_eq_some_iff.1 hw
    exact ih (Ordered.find? h.members.2 hc) hw

theorem ordered_put {new : Value} (hn : new.Ordered) {v : Value} (h : v.Ordered)
    (ks : List String) : (put new ks v).Ordered := by
  induction ks generalizing v with
  | nil => exact hn
  | cons k ks ih =>
    refine ⟨h.members.1.insert k _, membersOrdered_insert h.members.2 k (ih ?_)⟩
    cases hc : Entries.find? k v.members with
    | none => exact trivial
    | some c => exact Ordered.find? h.members.2 hc

theorem ordered_take {v : Value} (h : v.Ordered) (ks : List String) :
    (take ks v).2.Ordered ∧ ∀ old ∈ (take ks v).1, old.Ordered := by
  fun_induction take ks v with
  | case1 v => exact ⟨h, nofun⟩
  | case2 k v hk => exact ⟨h, nofun⟩
  | case3 k v old hk =>
    refine ⟨⟨h.members.1.erase k, membersOrdered_erase h.members.2 k⟩, fun o ho => ?_⟩
    cases ho
    exact Ordered.find? h.members.2 hk
  | case4 k ks v _ hk => exact ⟨h, nofun⟩
  | case5 k ks v _ child hk old rest heq ih =>
    have hc := ih (Ordered.find? h.members.2 hk)
    rw [heq] at hc
    exact ⟨⟨h.members.1.insert k _, membersOrdered_insert h.members.2 k hc.1⟩, hc.2⟩

end Value

/-- A value whose objects list their members by increasing key. -/
structure Document where
  value : Value
  ordered : value.Ordered

namespace Document

/-- The empty document. -/
def null : Document := ⟨.null, trivial⟩

instance : Inhabited Document := ⟨null⟩

/-- The document of a tree as it was written. -/
def ofValue (v : Value) : Document := ⟨v.normalize, Value.ordered_normalize v⟩

/-- What stands at the path. -/
def get? (d : Document) (p : Path) : Option Document :=
  match h : d.value.find? p.keys with
  | none => none
  | some v => some ⟨v, d.ordered.find h⟩

/-- The document with another one stored at the path. -/
def set (d : Document) (p : Path) (new : Document) : Document :=
  ⟨Value.put new.value p.keys d.value, Value.ordered_put new.ordered d.ordered p.keys⟩

/-- What stood at the path, and the document without it. -/
def remove (d : Document) (p : Path) : Option Document × Document :=
  let r := Value.take p.keys d.value
  have h : r.2.Ordered ∧ ∀ old ∈ r.1, old.Ordered := Value.ordered_take d.ordered p.keys
  (match hr : r.1 with
    | none => none
    | some old => some ⟨old, h.2 old hr⟩,
   ⟨r.2, h.1⟩)

end Document

end Convergence
