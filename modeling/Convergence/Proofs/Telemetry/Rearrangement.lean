import Convergence.Proofs.Decode.Rearrangement
import Convergence.Proofs.Decode.Record
import Convergence.Proofs.Document.Set
import Convergence.Proofs.Telemetry.Items

/-!
# `Convergence.Proofs.Telemetry.Rearrangement`: lists in telemetry that are reported in no order

Devices report the members of a bundle and the neighbors in a cache in any order.
`Document.Rearranged R` says that one of these lists has been replaced in a document by another one,
related to it by `R`.  The readers of these lists then come to lists that are rearranged in the same
way, and whatever else is read is the same (`Document.Rearranged.answeredAlike`).
-/

set_option autoImplicit false

namespace Convergence

/-! ### Readers of lists -/

namespace Telemetry

variable {ρ : Rearrangement} {s t : Source}

/-- What two sources say of an item: of a list, the same but for a rearrangement, and of everything
else the same. -/
def Item.AnsweredAlike (ρ : Rearrangement) (s t : Source) : Item → Prop
  | .ipv4Neighbors =>
    Alike ρ.strict ρ.Rel (Telemetry.ipv4Neighbors.run s).result
      (Telemetry.ipv4Neighbors.run t).result
  | .ipv6Neighbors =>
    Alike ρ.strict ρ.Rel (Telemetry.ipv6Neighbors.run s).result
      (Telemetry.ipv6Neighbors.run t).result
  | .bundleMembers bundle =>
    Alike ρ.strict ρ.Rel ((Telemetry.bundleMembers bundle).run s).result
      ((Telemetry.bundleMembers bundle).run t).result
  | i => s i.path = t i.path

/-- The same answer is alike under every rearrangement. -/
theorem Item.answeredAlike_of_eq {i : Item} (h : s i.path = t i.path) :
    i.AnsweredAlike ρ s t := by
  have hread : i.read.run s = i.read.run t := by
    refine i.asksWithin_read.run_eq fun p hp => ?_
    rw [hp, h]
  -- A reader of a list comes to the same list, which is a rearrangement of itself.
  have hlist : ∀ {α : Type} {x : Inspection (List α)}, x.run s = x.run t →
      Alike ρ.strict ρ.Rel (x.run s).result (x.run t).result := by
    intro α x hx
    rw [hx]
    exact .refl ρ.refl _
  cases i with
  | ipv4Neighbors | ipv6Neighbors | bundleMembers _ => exact hlist hread
  | port _ | flow _ | bgp4 _ | bgp6 _ | bgpPrefixes _ | isis _ | lag _ | lacp _
  | deviceInterface _ => exact h

/-- From a rearranged list a cache answers its neighbors rearranged. -/
theorem alike_neighbors {cache : String} {items items' : List Value}
    (hs : s (.generator "neighbors" cache) = .ok (some (.array items)))
    (ht : t (.generator "neighbors" cache) = .ok (some (.array items')))
    (h : ρ.Rel items items') :
    Alike ρ.strict ρ.Rel ((neighbors cache).run s).result ((neighbors cache).run t).result :=
  Inspection.alike_record_getD (f := id) hs ht (ρ.mapM h _) fun _ _ hxy => hxy

/-- Bundles that decode alike answer alike members. -/
theorem alike_bundleMembers {bundle : String} {v w : Value}
    (hs : s (.device "lacp" bundle) = .ok (some v))
    (ht : t (.device "lacp" bundle) = .ok (some w))
    (h : Alike ρ.strict (fun b b' => ρ.Rel b.members b'.members) (Bundle.schema.decode .json v)
      (Bundle.schema.decode .json w)) :
    Alike ρ.strict ρ.Rel ((bundleMembers bundle).run s).result
      ((bundleMembers bundle).run t).result :=
  Inspection.alike_record_getD hs ht h fun _ _ hxy => hxy

end Telemetry

/-! ### Bundles -/

namespace Bundle

/-- The bundle that a list of members makes, if they all decode. -/
def ofItems (items : List Value) : Except DecodeError Bundle :=
  (items.mapM (BundleMember.schema.decode .json)).map fun members => { members }

/-- A bundle has its members and nothing else. -/
theorem hasOnly_schema : schema.HasOnly
    (.optional "members" (.list BundleMember.schema.decode) fun x _ => { members := x }) :=
  ⟨rfl, rfl, rfl⟩

/-- A bundle that is written as an object lists its members under their name. -/
theorem decode_of_member? {d c : Document} {items : List Value}
    (hc : d.member? "members" = some c) (hitems : c.value = .array items) :
    schema.decode .json d.value = ofItems items := by
  -- Documents are ordered, so the look-up among the members finds what the decoder takes.
  obtain ⟨ms, hms⟩ := Document.isObject_of_member? hc
  have hmember := Document.map_value_member? d "members"
  have hordered := d.ordered
  rw [hms] at hmember hordered ⊢
  rw [hc, Option.map_some, hitems] at hmember
  exact hasOnly_schema.decode_object hordered.1 hmember.symm

/-- One that is written as an array lists them first. -/
theorem decode_array (items rest : List Value) :
    schema.decode .json (.array (.array items :: rest)) =
      ofItems items >>= schema.readItems .json 1 [] rest :=
  hasOnly_schema.decode_array_cons rest

variable {ρ : Rearrangement} {items items' : List Value}

theorem alike_ofItems (h : ρ.Rel items items') :
    Alike ρ.strict (fun b b' => ρ.Rel b.members b'.members) (ofItems items) (ofItems items') :=
  (ρ.mapM h _).map fun _ _ hxy => hxy

/-- What follows the members is one element too many, whatever they are. -/
theorem alike_decode_array (h : ρ.Rel items items') (rest : List Value) :
    Alike ρ.strict (fun b b' => ρ.Rel b.members b'.members)
      (schema.decode .json (.array (.array items :: rest)))
      (schema.decode .json (.array (.array items' :: rest))) := by
  rw [decode_array, decode_array]
  refine (alike_ofItems h).bind fun b b' hb => ?_
  rw [Schema.readItems, Schema.readItems]
  split
  · exact .error fun _ => rfl
  · exact .ok hb

end Bundle

/-! ### Documents -/

/-- Where a list lies that is reported in no order. -/
inductive Path.Unordered : Path → Prop
  | ipv4Neighbors : Unordered (.generator "neighbors" "ipv4")
  | ipv6Neighbors : Unordered (.generator "neighbors" "ipv6")
  | members (bundle : String) : Unordered ((Path.device "lacp" bundle).push "members")

namespace Document

/-- The document with one of these lists replaced by another one, which `R` relates to it. -/
inductive Rearranged (R : List Value → List Value → Prop) (d : Document) : Document → Prop
  | list {p : Path} {old new : Document} {items items' : List Value} (hp : p.Unordered)
      (hold : d.get? p = some old) (hitems : old.value = .array items)
      (hitems' : new.value = .array items') (h : R items items') : Rearranged R d (d.set p new)
  /-- A bundle may also be written as an array, which lists the members first. -/
  | positional {bundle : String} {old new : Document} {items items' rest : List Value}
      (hold : d.get? (.device "lacp" bundle) = some old)
      (hitems : old.value = .array (.array items :: rest))
      (hitems' : new.value = .array (.array items' :: rest)) (h : R items items') :
      Rearranged R d (d.set (.device "lacp" bundle) new)

variable {ρ : Rearrangement} {R : List Value → List Value → Prop} {d d' : Document}

/-- A write leaves all items alike if it does so with the one that it is made at. -/
theorem answeredAlike_set {i : Telemetry.Item} {p : Path} {new : Document}
    (hp : ∀ j : Telemetry.Item, j ≠ i → p.Apart j.path)
    (hi : i.AnsweredAlike ρ d.source (d.set p new).source) (j : Telemetry.Item) :
    j.AnsweredAlike ρ d.source (d.set p new).source := by
  by_cases hj : j = i
  · rw [hj]
    exact hi
  · have hsame : (d.set p new).get? j.path = d.get? j.path := get?_set_of_apart (hp j hj) d new
    exact Telemetry.Item.answeredAlike_of_eq (source_eq_of_get?_eq hsame.symm)

variable {old new : Document} {items items' rest : List Value}

/-- Neighbors are rearranged where their list is. -/
theorem alike_neighbors_set {cache : String}
    (hold : d.get? (.generator "neighbors" cache) = some old)
    (hitems : old.value = .array items) (hitems' : new.value = .array items')
    (h : ρ.Rel items items') :
    Alike ρ.strict ρ.Rel ((Telemetry.neighbors cache).run d.source).result
      ((Telemetry.neighbors cache).run
        (d.set (.generator "neighbors" cache) new).source).result := by
  have hs := source_of_get? hold
  have ht := source_of_get? (get?_set_self d new (.generator "neighbors" cache))
  rw [hitems] at hs
  rw [hitems'] at ht
  exact Telemetry.alike_neighbors hs ht h

/-- Members are rearranged where their list is, in the bundle above it. -/
theorem alike_members_set {bundle : String}
    (hold : d.get? ((Path.device "lacp" bundle).push "members") = some old)
    (hitems : old.value = .array items) (hitems' : new.value = .array items')
    (h : ρ.Rel items items') :
    Alike ρ.strict ρ.Rel ((Telemetry.bundleMembers bundle).run d.source).result
      ((Telemetry.bundleMembers bundle).run
        (d.set ((Path.device "lacp" bundle).push "members") new).source).result := by
  -- The bundle has the list as its member, before the write and after it.
  rw [get?_push] at hold
  obtain ⟨b, hb, hmember⟩ := Option.bind_eq_some_iff.mp hold
  have hset := get?_set_append_self d new (Path.device "lacp" bundle).keys ["members"]
  rw [hb, Option.getD_some] at hset
  have hmember' : (b.set ⟨["members"]⟩ new).member? "members" = some new := by
    rw [member?_set_singleton, if_pos rfl]
  refine Telemetry.alike_bundleMembers (source_of_get? hb) (source_of_get? hset) ?_
  rw [Bundle.decode_of_member? hmember hitems, Bundle.decode_of_member? hmember' hitems']
  exact Bundle.alike_ofItems h

/-- So they are in a bundle that is written as an array. -/
theorem alike_positional_set {bundle : String} (hold : d.get? (.device "lacp" bundle) = some old)
    (hitems : old.value = .array (.array items :: rest))
    (hitems' : new.value = .array (.array items' :: rest)) (h : ρ.Rel items items') :
    Alike ρ.strict ρ.Rel ((Telemetry.bundleMembers bundle).run d.source).result
      ((Telemetry.bundleMembers bundle).run
        (d.set (.device "lacp" bundle) new).source).result := by
  have hset := get?_set_self d new (.device "lacp" bundle)
  refine Telemetry.alike_bundleMembers (source_of_get? hold) (source_of_get? hset) ?_
  rw [hitems, hitems']
  exact Bundle.alike_decode_array h rest

/-- Wherever one of the lists is rearranged, all items are answered alike. -/
theorem Rearranged.answeredAlike (hR : ∀ items items', R items items' → ρ.Rel items items')
    (h : Rearranged R d d') (i : Telemetry.Item) : i.AnsweredAlike ρ d.source d'.source := by
  have hapart : ∀ {j k : Telemetry.Item}, k ≠ j → j.path.Apart k.path := fun hne =>
    (Telemetry.Item.path_apart hne).symm
  cases h with
  | list hp hold hitems hitems' h =>
      cases hp with
      | ipv4Neighbors =>
          exact answeredAlike_set (i := .ipv4Neighbors) (fun _ => hapart)
            (alike_neighbors_set hold hitems hitems' (hR _ _ h)) i
      | ipv6Neighbors =>
          exact answeredAlike_set (i := .ipv6Neighbors) (fun _ => hapart)
            (alike_neighbors_set hold hitems hitems' (hR _ _ h)) i
      | members bundle =>
          -- The list lies below the bundle, and so apart from everything that the bundle does.
          exact answeredAlike_set (i := .bundleMembers bundle) (fun _ hj => (hapart hj).push _)
            (alike_members_set hold hitems hitems' (hR _ _ h)) i
  | @positional bundle _ _ _ _ _ hold hitems hitems' h =>
      exact answeredAlike_set (i := .bundleMembers bundle) (fun _ => hapart)
        (alike_positional_set hold hitems hitems' (hR _ _ h)) i

end Document

end Convergence
