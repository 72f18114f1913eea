import Convergence.Proofs.Document.Remove
import Mathlib.Logic.Relation

/-!
# `Convergence.Proofs.Document.Updates`: updates of a document, in any order

Several writers may update one document, each below a path of its own.  An update is a write or a
removal; both are edits (`some_snd_apply`), and edits at paths that part from each other may change
places.  So it does not matter in which order such updates come (`snd_apply_comm`), nor do they
see each other (`fst_apply_comm`), even if one makes the objects on a way where the other finds
none, and what lies on no path of theirs stays as it is (`get?_applyAll_of_apart`).  A write, on the
other hand, undoes an update right before it that was at its path or below (`set_snd_apply`).

`apply_comm_absorb` says this of two updates and of lists of them.
-/

set_option autoImplicit false

namespace Convergence

/-- A write to a document, or a removal from it. -/
inductive Update where
  | set (p : Path) (new : Document)
  | remove (p : Path)

namespace Update

/-- Where the update takes place. -/
def path : Update → Path
  | set p _ => p
  | remove p => p

/-- What the update answers, which for a write is nothing, and the document after it. -/
def apply : Update → Document → Option Document × Document
  | set p new, d => (none, d.set p new)
  | remove p, d => d.remove p

/-- The document after one update after the other. -/
def applyAll (us : List Update) (d : Document) : Document :=
  us.foldl (fun d u => (u.apply d).2) d

/-- The lists are the same but for two neighbouring updates at paths that part from each other,
which have changed places. -/
inductive Swapped : List Update → List Update → Prop
  | intro (before : List Update) {a b : Update} (h : a.path.Apart b.path) (after : List Update) :
      Swapped (before ++ a :: b :: after) (before ++ b :: a :: after)

/-- What the update makes of what stands at its path. -/
def change : Update → Option Document → Option Document
  | set _ new => fun _ => some new
  | remove _ => fun _ => none

variable {a b : Update}

/-- An update at a path with at least one key is an edit. -/
theorem some_snd_apply (u : Update) (hu : u.path.keys ≠ []) (d : Document) :
    some (u.apply d).2 = Document.edit u.change u.path.keys (some d) := by
  cases u with
  | set p new => exact d.some_set new p
  | remove p => exact Document.some_snd_remove d hu

/-- On a path that parts from that of the update nothing changes. -/
theorem get?_snd_apply_of_apart {u : Update} {q : Path} (h : u.path.Apart q) (d : Document) :
    (u.apply d).2.get? q = d.get? q := by
  cases u with
  | set p new => exact Document.get?_set_of_apart h d new
  | remove p => exact Document.get?_snd_remove_of_apart h d

/-- A path that parts from the paths of all updates reads as before them. -/
theorem get?_applyAll_of_apart {us : List Update} {q : Path} (h : ∀ u ∈ us, u.path.Apart q)
    (d : Document) : (applyAll us d).get? q = d.get? q := by
  induction us generalizing d with
  | nil => rfl
  | cons u us ih =>
      have hu : u.path.Apart q := h u (by simp)
      have hus : ∀ w ∈ us, w.path.Apart q := fun w hw => h w (by simp [hw])
      calc (applyAll (u :: us) d).get? q
          = (applyAll us (u.apply d).2).get? q := rfl
        _ = (u.apply d).2.get? q := ih hus _
        _ = d.get? q := get?_snd_apply_of_apart hu d

/-- What an update answers is seen from what stands at its path. -/
theorem fst_apply_eq_of_get?_eq (u : Update) {d e : Document}
    (h : d.get? u.path = e.get? u.path) : (u.apply d).1 = (u.apply e).1 := by
  cases u with
  | set p new => rfl
  | remove p =>
      obtain ⟨ps⟩ := p
      cases ps with
      | nil => rfl
      | cons k ks =>
          -- A removal answers what stands at its path.
          show (d.remove ⟨k :: ks⟩).1 = (e.remove ⟨k :: ks⟩).1
          rw [Document.fst_remove_cons, Document.fst_remove_cons]
          exact h

/-- Updates at paths that part from each other lead to the same document in both orders. -/
theorem snd_apply_comm (h : a.path.Apart b.path) (d : Document) :
    (b.apply (a.apply d).2).2 = (a.apply (b.apply d).2).2 := by
  have ha : a.path.keys ≠ [] := h.keys_ne_nil
  have hb : b.path.keys ≠ [] := h.symm.keys_ne_nil
  refine Option.some.inj ?_
  rw [some_snd_apply b hb, some_snd_apply a ha, some_snd_apply a ha, some_snd_apply b hb]
  exact Document.edit_comm h.symm b.change a.change (some d)

/-- An update answers the same before and after one at a path that parts from its own. -/
theorem fst_apply_comm (h : a.path.Apart b.path) (d : Document) :
    (b.apply (a.apply d).2).1 = (b.apply d).1 :=
  b.fst_apply_eq_of_get?_eq (get?_snd_apply_of_apart h d)

/-- One change of places in a list of updates leads to the same document. -/
theorem Swapped.applyAll_eq {us vs : List Update} (h : Swapped us vs) (d : Document) :
    applyAll us d = applyAll vs d := by
  obtain ⟨before, hapart, after⟩ := h
  simp only [applyAll, List.foldl_append, List.foldl_cons]
  rw [snd_apply_comm hapart]

/-- A write undoes the update before it, if that was at its path or below. -/
theorem set_snd_apply {p : Path} (u : Update) (h : p.keys <+: u.path.keys) (d new : Document) :
    (u.apply d).2.set p new = d.set p new := by
  obtain ⟨ps⟩ := p
  by_cases hu : u.path.keys = []
  · -- Without a key the write replaces the document.
    obtain rfl : ps = [] := List.prefix_nil.mp (hu ▸ h)
    rw [Document.set_nil, Document.set_nil]
  · -- The update is an edit below the path of the write, whatever it leaves there.
    obtain ⟨r, hr⟩ := h
    have hkeeps : ∀ x : Option Document, some new = none → x = none := fun _ => nofun
    refine Option.some.inj ?_
    rw [Document.some_set, some_snd_apply u hu, ← hr, Document.edit_append,
      Document.edit_edit hkeeps, ← Document.some_set]

/-- **Independent and absorbed updates.**  Two updates at paths of which neither leads on from the
other may come in either order: the document is the same in the end, and each answers the same.  So
lists of updates lead to the same document if one comes from the other by changes of places between
such neighbours.  And a write undoes an update right before it that was at its path or below. -/
theorem apply_comm_absorb :
    (∀ (a b : Update) (d : Document), a.path.Apart b.path →
      (b.apply (a.apply d).2).2 = (a.apply (b.apply d).2).2 ∧
      (b.apply (a.apply d).2).1 = (b.apply d).1 ∧
      (a.apply (b.apply d).2).1 = (a.apply d).1) ∧
    (∀ (us vs : List Update) (d : Document), Relation.ReflTransGen Swapped us vs →
      applyAll us d = applyAll vs d) ∧
    (∀ (p : Path) (u : Update) (d new : Document), p.keys <+: u.path.keys →
      (u.apply d).2.set p new = d.set p new) := by
  refine ⟨fun a b d h => ?_, fun us vs d h => ?_, fun p u d new h => set_snd_apply u h d new⟩
  · exact ⟨snd_apply_comm h d, fst_apply_comm h d, fst_apply_comm h.symm d⟩
  · induction h with
    | refl => rfl
    | tail _ hswap ih => rw [ih, hswap.applyAll_eq]

/-- Where a number stands, one writer stores a link below it, and another removes a port that is
not there.  They may come in either order, also between other updates; and when the first has
replaced everything, it does not matter that the second came before. -/
theorem apply_comm_absorb_number :
    let d : Document := .ofValue (.object [("otg", .int 5)])
    let link : Update := .set ⟨["otg", "lag", "lag1"]⟩ ⟨.bool true, trivial⟩
    let port : Update := .remove ⟨["otg", "port", "eth1"]⟩
    let all : Update := .set ⟨["otg"]⟩ .null
    link.path.Apart port.path ∧ ["otg"] <+: port.path.keys ∧
      (port.apply (link.apply d).2).2 = (link.apply (port.apply d).2).2 ∧
      (port.apply (link.apply d).2).1 = none ∧
      applyAll [all, link, port] d = applyAll [all, port, link] d ∧
      (port.apply d).2.set ⟨["otg"]⟩ .null = d.set ⟨["otg"]⟩ .null := by
  intro d link port all
  have hapart : link.path.Apart port.path := by
    constructor
    · decide
    · decide
  obtain ⟨hcomm, hlists, habsorb⟩ := apply_comm_absorb
  have hswap : Swapped [all, link, port] [all, port, link] := .intro [all] hapart []
  refine ⟨hapart, by decide, (hcomm link port d hapart).1, ?_, hlists _ _ d (.single hswap),
    habsorb ⟨["otg"]⟩ port d .null (by decide)⟩
  exact (hcomm link port d hapart).2.1

end Update

end Convergence
