import Convergence.Proofs.Document.Members

/-!
# `Convergence.Proofs.Document.Edit`: changing a document at a path

Writing and removing do the same thing along the way and differ only at its end.  Both are `edit`:
what stands at the path, or nothing, is replaced by what a function makes of it, and the way there
is kept as it is needed.  A place that may hold nothing is an `Option Document`, so that writing is
the constant function to the new value (`edit_const_some`) and removing the one to nothing
(`edit_const_none`).

The laws of `edit`:

* `edit_append`: to edit at a longer path is to edit an editing of the rest.
* `look_edit`: at the path stands what the function makes of what stood there.
* `look_edit_of_apart`: nothing else changes off the path.
* `edit_eq_self`: an edit that changes nothing at the path changes nothing at all.
* `edit_edit`: two edits at one path are one.
* `edit_comm`: two edits at paths that part from each other may change places.

The one step is `enter`, which makes something the member of a place under a key; its laws carry
the inductions along the path.  `eq_of_get?_eq` says how far a document is fixed by reading it at
a path, above it and beside it.
-/

set_option autoImplicit false

namespace Convergence

/-! ### Paths that part -/

/-- Neither path leads on from the other. -/
def Path.Apart (p q : Path) : Prop := ¬p.keys <+: q.keys ∧ ¬q.keys <+: p.keys

namespace Path

theorem Apart.symm {p q : Path} (h : p.Apart q) : q.Apart p := ⟨h.2, h.1⟩

/-- Every path leads on from the one without a key. -/
theorem Apart.keys_ne_nil {p q : Path} (h : p.Apart q) : p.keys ≠ [] := by
  intro hnil
  exact h.1 (hnil ▸ List.nil_prefix)

/-- Paths with different first keys are apart. -/
theorem apart_of_ne {s t : List String} {j k : String} (hne : j ≠ k) :
    Apart ⟨j :: s⟩ ⟨k :: t⟩ := by
  constructor
  · intro h
    exact hne (List.cons_prefix_cons.mp h).1
  · intro h
    exact hne (List.cons_prefix_cons.mp h).1.symm

/-- Paths that are apart remain so behind one key. -/
theorem apart_cons_iff {s t : List String} {k : String} :
    Apart ⟨k :: s⟩ ⟨k :: t⟩ ↔ Apart ⟨s⟩ ⟨t⟩ := by
  simp only [Apart, List.cons_prefix_cons, true_and]

/-- A path that goes on further remains apart. -/
theorem Apart.push {p q : Path} (h : p.Apart q) (k : String) : (p.push k).Apart q := by
  constructor
  · intro hpush
    exact h.1 ((List.prefix_append p.keys [k]).trans hpush)
  · intro hpush
    rcases List.prefix_concat_iff.mp hpush with heq | hprefix
    · exact h.1 (heq ▸ List.prefix_append p.keys [k])
    · exact h.2 hprefix

/-- Paths that are apart go the same way up to where they part. -/
theorem Apart.exists_fork {p q : Path} (h : p.Apart q) :
    ∃ way j k s t, j ≠ k ∧ p.keys = way ++ j :: s ∧ q.keys = way ++ k :: t := by
  obtain ⟨ps⟩ := p
  obtain ⟨qs⟩ := q
  induction ps generalizing qs with
  | nil => exact absurd List.nil_prefix h.1
  | cons j s ih =>
      cases qs with
      | nil => exact absurd List.nil_prefix h.2
      | cons k t =>
          by_cases hjk : j = k
          · subst hjk
            obtain ⟨way, i, l, s', t', hne, hs, ht⟩ := ih t (apart_cons_iff.mp h)
            exact ⟨j :: way, i, l, s', t', hne, congrArg (j :: ·) hs, congrArg (j :: ·) ht⟩
          · exact ⟨[], j, k, s, t, hjk, rfl, rfl⟩

end Path

namespace Document

/-- What stands at a path from a place. -/
def look (ks : List String) (c : Option Document) : Option Document := c.bind (·.get? ⟨ks⟩)

/-- The place with something, or nothing, as its member under a key.  A place without a value is
filled only if there is something to enter. -/
def enter (k : String) (x c : Option Document) : Option Document :=
  match x with
  | some new => some ((c.getD null).set ⟨[k]⟩ new)
  | none => c.map (·.without k)

/-- The place with what stands at a path from it replaced by what the function makes of it. -/
def edit (f : Option Document → Option Document) :
    List String → Option Document → Option Document
  | [], c => f c
  | k :: ks, c => enter k (edit f ks (look [k] c)) c

variable {f g : Option Document → Option Document} {p q : List String} {j k : String}
  {x y c : Option Document}

/-! ### One key -/

@[simp]
theorem look_nil (c : Option Document) : look [] c = c := by
  cases c <;> rfl

@[simp]
theorem look_none (ks : List String) : look ks none = none := rfl

theorem look_singleton_some (k : String) (d : Document) : look [k] (some d) = d.member? k := rfl

theorem look_cons (k : String) (ks : List String) (c : Option Document) :
    look (k :: ks) c = look ks (look [k] c) := by
  cases c with
  | none => rfl
  | some d => exact get?_cons d k ks

theorem look_append (p q : List String) (c : Option Document) :
    look (p ++ q) c = look q (look p c) := by
  induction p generalizing c with
  | nil => rw [List.nil_append, look_nil]
  | cons k p ih => rw [List.cons_append, look_cons, ih, look_cons k p]

/-- Nothing stands below nothing, and below an empty document. -/
theorem member?_getD_null (k : String) (c : Option Document) :
    (c.getD null).member? k = look [k] c := by
  cases c <;> rfl

/-- What was entered stands there. -/
theorem look_enter_self (k : String) (x c : Option Document) : look [k] (enter k x c) = x := by
  cases x with
  | some new =>
      show ((c.getD null).set ⟨[k]⟩ new).member? k = some new
      rw [member?_set_singleton, if_pos rfl]
  | none =>
      cases c with
      | none => rfl
      | some d =>
          show (d.without k).member? k = none
          rw [member?_without, if_pos rfl]

/-- Nothing changes under another key. -/
theorem look_enter_of_ne (hne : j ≠ k) (x c : Option Document) :
    look [j] (enter k x c) = look [j] c := by
  cases x with
  | some new =>
      show ((c.getD null).set ⟨[k]⟩ new).member? j = _
      rw [member?_set_singleton, if_neg hne, member?_getD_null]
  | none =>
      cases c with
      | none => rfl
      | some d =>
          show (d.without k).member? j = d.member? j
          rw [member?_without, if_neg hne]

/-- A place stays empty only if it was, and nothing was entered. -/
theorem enter_eq_none (h : enter k x c = none) : x = none ∧ c = none := by
  cases x with
  | some new => cases h
  | none =>
      cases c with
      | none => exact ⟨rfl, rfl⟩
      | some d => cases h

/-- To enter what stands there changes nothing. -/
theorem enter_look_self (k : String) (c : Option Document) : enter k (look [k] c) c = c := by
  cases c with
  | none => rfl
  | some d =>
      cases hm : d.member? k with
      | none =>
          rw [look_singleton_some, hm]
          exact congrArg some (without_of_member?_eq_none hm)
      | some m =>
          rw [look_singleton_some, hm]
          exact congrArg some (set_singleton_of_member? hm)

/-- Only the last of two entries under one key counts.  An entry that leaves nothing where there
was something leaves an object behind, so the first of the two must not be the one that put it
there. -/
theorem enter_enter (h : x = none → y = none) : enter k x (enter k y c) = enter k x c := by
  cases x with
  | some new =>
      refine congrArg some (ext_member? (isObject_set_singleton _ k new)
        (isObject_set_singleton _ k new) fun i => ?_)
      rw [member?_set_singleton, member?_set_singleton]
      split
      · rfl
      · rename_i hi
        rw [member?_getD_null, member?_getD_null, look_enter_of_ne hi]
  | none =>
      obtain rfl := h rfl
      cases c with
      | none => rfl
      | some d =>
          -- The second time there is nothing left to take out.
          refine congrArg some (without_of_member?_eq_none ?_)
          rw [member?_without, if_pos rfl]

/-- What is entered into an object leaves an object. -/
theorem exists_isObject_enter {d : Document} (h : d.IsObject) (k : String)
    (x : Option Document) : ∃ e, enter k x (some d) = some e ∧ e.IsObject := by
  cases x with
  | some new => exact ⟨_, rfl, isObject_set_singleton d k new⟩
  | none => exact ⟨_, rfl, h.without k⟩

/-- The order of entries under different keys cannot be told from the members. -/
theorem look_enter_comm (hne : j ≠ k) (x y c : Option Document) (i : String) :
    look [i] (enter j x (enter k y c)) = look [i] (enter k y (enter j x c)) := by
  by_cases hj : i = j
  · subst hj
    rw [look_enter_self, look_enter_of_ne hne, look_enter_self]
  · rw [look_enter_of_ne hj]
    by_cases hk : i = k
    · subst hk
      rw [look_enter_self, look_enter_self]
    · rw [look_enter_of_ne hk, look_enter_of_ne hk, look_enter_of_ne hj]

/-- A value that is entered makes an object, whatever else is entered. -/
theorem enter_some_comm (hne : j ≠ k) (new : Document) (y c : Option Document) :
    enter j (some new) (enter k y c) = enter k y (enter j (some new) c) := by
  have hobject : ((c.getD null).set ⟨[j]⟩ new).IsObject := isObject_set_singleton _ j new
  obtain ⟨e, he, heobject⟩ := exists_isObject_enter hobject k y
  have hlook := look_enter_comm hne (some new) y c
  rw [show enter k y (enter j (some new) c) = some e from he] at hlook ⊢
  exact congrArg some (ext_member? (isObject_set_singleton _ j new) heobject hlook)

/-- Entries under different keys may change places. -/
theorem enter_comm (hne : j ≠ k) (x y c : Option Document) :
    enter j x (enter k y c) = enter k y (enter j x c) := by
  cases x with
  | some new => exact enter_some_comm hne new y c
  | none =>
      cases y with
      | some new => exact (enter_some_comm hne.symm new none c).symm
      | none =>
          cases c with
          | none => rfl
          | some d =>
              by_cases hd : d.IsObject
              · refine congrArg some (ext_member? ((hd.without k).without j)
                  ((hd.without j).without k) fun i => ?_)
                exact look_enter_comm hne none none (some d) i
              · -- What is no object loses nothing.
                show some ((d.without k).without j) = some ((d.without j).without k)
                rw [without_of_not_isObject hd k, without_of_not_isObject hd j,
                  without_of_not_isObject hd k]

/-! ### Along a path -/

/-- To edit at a longer path is to edit an editing of the rest. -/
theorem edit_append (f : Option Document → Option Document) (p q : List String)
    (c : Option Document) : edit f (p ++ q) c = edit (edit f q) p c := by
  induction p generalizing c with
  | nil => rfl
  | cons k p ih =>
      show enter k (edit f (p ++ q) (look [k] c)) c = enter k (edit (edit f q) p (look [k] c)) c
      rw [ih]

/-- At the path stands what the function makes of what stood there. -/
theorem look_edit (f : Option Document → Option Document) (p : List String)
    (c : Option Document) : look p (edit f p c) = f (look p c) := by
  induction p generalizing c with
  | nil => rw [look_nil, look_nil]; rfl
  | cons k p ih =>
      rw [look_cons, edit, look_enter_self, ih, look_cons k p c]

/-- Above the path stands what the function makes of it at the rest of the way. -/
theorem look_edit_append (f : Option Document → Option Document) (p q : List String)
    (c : Option Document) : look p (edit f (p ++ q) c) = edit f q (look p c) := by
  rw [edit_append, look_edit]

/-- Nothing changes on a path that parts from this one. -/
theorem look_edit_of_apart (f : Option Document → Option Document) (c : Option Document)
    (h : Path.Apart ⟨p⟩ ⟨q⟩) : look q (edit f p c) = look q c := by
  obtain ⟨way, j, k, s, t, hne, hp, hq⟩ := h.exists_fork
  obtain rfl : p = way ++ j :: s := hp
  obtain rfl : q = way ++ k :: t := hq
  rw [look_append, look_edit_append, look_cons, edit, look_enter_of_ne hne.symm, ← look_cons,
    ← look_append]

/-- An edit that changes nothing at the path changes nothing. -/
theorem edit_eq_self (h : f (look p c) = look p c) : edit f p c = c := by
  induction p generalizing c with
  | nil =>
      rw [look_nil] at h
      exact h
  | cons k p ih =>
      rw [look_cons] at h
      rw [edit, ih h, enter_look_self]

/-- An edit at a path with at least one key never leaves nothing where there was something. -/
theorem eq_none_of_edit_cons_eq_none (k : String) (p : List String) (x : Option Document)
    (h : edit f (k :: p) x = none) : x = none :=
  (enter_eq_none h).2

/-- Nor does one without a key whose function does not. -/
theorem eq_none_of_edit_eq_none (hf : ∀ x, f x = none → x = none) (h : edit f p c = none) :
    c = none := by
  cases p with
  | nil => exact hf c h
  | cons k p => exact eq_none_of_edit_cons_eq_none k p c h

/-- Two edits at one path are one, unless the second leaves nothing of what the first has put
there: the way that the first has made would stay. -/
theorem edit_edit (hf : ∀ x, f x = none → x = none) (g : Option Document → Option Document)
    (p : List String) (c : Option Document) :
    edit f p (edit g p c) = edit (fun x => f (g x)) p c := by
  induction p generalizing c with
  | nil => rfl
  | cons k p ih =>
      show enter k (edit f p (look [k] (edit g (k :: p) c))) (edit g (k :: p) c)
        = enter k (edit (fun x => f (g x)) p (look [k] c)) c
      -- Further down the two edits are one; what is left are two entries under the first key.
      rw [edit, look_enter_self, ← ih]
      exact enter_enter (eq_none_of_edit_eq_none hf)

/-- Edits at paths that part from each other may change places. -/
theorem edit_comm (h : Path.Apart ⟨p⟩ ⟨q⟩) (f g : Option Document → Option Document)
    (c : Option Document) : edit f p (edit g q c) = edit g q (edit f p c) := by
  obtain ⟨way, j, k, s, t, hne, hp, hq⟩ := h.exists_fork
  obtain rfl : p = way ++ j :: s := hp
  obtain rfl : q = way ++ k :: t := hq
  -- Where the paths part, the two edits enter something under different keys.
  have hfork : ∀ x, edit f (j :: s) (edit g (k :: t) x) = edit g (k :: t) (edit f (j :: s) x) := by
    intro x
    rw [edit, edit, look_enter_of_ne hne, edit, edit, look_enter_of_ne hne.symm, enter_comm hne]
  rw [edit_append, edit_append, edit_append, edit_append,
    edit_edit (eq_none_of_edit_cons_eq_none j s), edit_edit (eq_none_of_edit_cons_eq_none k t)]
  exact congrArg (fun e => edit e way c) (funext hfork)

/-! ### Writing and removing -/

/-- Reading a document is looking from it. -/
theorem get?_eq_look (d : Document) (p : Path) : d.get? p = look p.keys (some d) := rfl

/-- What stands one key further down is a member. -/
theorem get?_push (d : Document) (p : Path) (k : String) :
    d.get? (p.push k) = (d.get? p).bind (·.member? k) := by
  rw [get?_eq_look, get?_eq_look, Path.push, look_append]
  rfl

/-- Writing is an edit that leaves the new value, whatever stood there. -/
theorem edit_const_some (new : Document) (ks : List String) (c : Option Document) :
    edit (fun _ => some new) ks c = some ((c.getD null).set ⟨ks⟩ new) := by
  induction ks generalizing c with
  | nil => rw [edit, set_nil]
  | cons k ks ih =>
      rw [edit, ih, set_cons (c.getD null), member?_getD_null]
      rfl

/-- What a document is after a write, as an edit of it. -/
theorem some_set (d new : Document) (p : Path) :
    some (d.set p new) = edit (fun _ => some new) p.keys (some d) :=
  (edit_const_some new p.keys (some d)).symm

/-- Removing is an edit that leaves nothing.  Without a key there is nothing to remove from. -/
theorem edit_const_none (k : String) (ks : List String) (c : Option Document) :
    edit (fun _ => none) (k :: ks) c = c.map fun d => (d.remove ⟨k :: ks⟩).2 := by
  induction ks generalizing k c with
  | nil => rfl
  | cons j ks ih =>
      cases c with
      | none =>
          rw [edit, look_none, ih]
          rfl
      | some d =>
          rw [edit, ih, look_singleton_some, Option.map_some]
          cases hm : d.member? k with
          | none =>
              -- The edit goes on below nothing, and enters nothing where there was nothing.
              rw [remove_cons_cons_of_none hm]
              exact congrArg some (without_of_member?_eq_none hm)
          | some m =>
              rw [remove_cons_cons_of_some hm]
              rfl

/-- What a document is after a removal, as an edit of it. -/
theorem some_snd_remove (d : Document) {p : Path} (hp : p.keys ≠ []) :
    some (d.remove p).2 = edit (fun _ => none) p.keys (some d) := by
  obtain ⟨ps⟩ := p
  obtain ⟨k, ks, rfl⟩ := List.exists_cons_of_ne_nil hp
  exact (edit_const_none k ks (some d)).symm

/-- What is removed is what stood there. -/
theorem fst_remove_cons (d : Document) (k : String) (ks : List String) :
    (d.remove ⟨k :: ks⟩).1 = d.get? ⟨k :: ks⟩ := by
  induction ks generalizing d k with
  | nil => exact fst_remove_singleton d k
  | cons j ks ih =>
      rw [get?_cons]
      cases hm : d.member? k with
      | none =>
          rw [remove_cons_cons_of_none hm]
          rfl
      | some m =>
          rw [remove_cons_cons_of_some hm]
          exact ih m j

/-! ### Documents that read alike -/

/-- Two documents are the same if they have the same at a path and on every path that parts from
it, and objects all the way there. -/
theorem eq_of_get?_eq {d e : Document} (hat : d.get? ⟨p⟩ = e.get? ⟨p⟩)
    (habove : ∀ q k r, p = q ++ k :: r →
      ∃ u w, d.get? ⟨q⟩ = some u ∧ e.get? ⟨q⟩ = some w ∧ u.IsObject ∧ w.IsObject)
    (hbeside : ∀ q, Path.Apart ⟨p⟩ ⟨q⟩ → d.get? ⟨q⟩ = e.get? ⟨q⟩) : d = e := by
  induction p generalizing d e with
  | nil =>
      rw [get?_nil, get?_nil] at hat
      exact Option.some.inj hat
  | cons k p ih =>
      obtain ⟨u, w, hu, hw, huobject, hwobject⟩ := habove [] k p rfl
      obtain rfl : d = u := Option.some.inj hu
      obtain rfl : e = w := Option.some.inj hw
      refine ext_member? huobject hwobject fun j => ?_
      by_cases hj : k = j
      · subst hj
        cases p with
        | nil => exact hat
        | cons i is =>
            -- The way goes on, so both have a member under the key, and these read alike.
            obtain ⟨u, w, hu, hw, -, -⟩ := habove [k] i is rfl
            have hd : ∀ q, d.get? ⟨k :: q⟩ = u.get? ⟨q⟩ := get?_cons_of_member? hu
            have he : ∀ q, e.get? ⟨k :: q⟩ = w.get? ⟨q⟩ := get?_cons_of_member? hw
            have huw : u = w := by
              refine ih ?_ (fun q l r hq => ?_) fun q hq => ?_
              · rw [← hd, ← he, hat]
              · rw [← hd, ← he]
                exact habove (k :: q) l r (congrArg (k :: ·) hq)
              · rw [← hd, ← he]
                exact hbeside (k :: q) (Path.apart_cons_iff.mpr hq)
            rw [show d.member? k = some u from hu, show e.member? k = some w from hw, huw]
      · exact hbeside [j] (Path.apart_of_ne hj)

end Document

end Convergence
