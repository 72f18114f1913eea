import Convergence.Proofs.Document.Updates
import Convergence.Proofs.Inspection.Asks
import Convergence.Proofs.Inspection.Result
import Convergence.Telemetry.Reader

/-!
# `Convergence.Proofs.Telemetry.Items`: the items of telemetry lie apart

`Telemetry.Item` names everything that can be read: each reader with the name that it is given.  An
item is read at one path (`Item.asksWithin_read`).  The paths of different items part from each
other (`Item.path_apart`), because names are keys of their own and never mixed with the keys around
them: whatever characters a name holds, no other item is found below it.  So what is done to a
document at the path of one item is not seen by any other (`Item.run_read_set`).
-/

set_option autoImplicit false

namespace Convergence

/-- What stands at a path is what the document answers there. -/
theorem Document.source_of_get? {d x : Document} {p : Path} (h : d.get? p = some x) :
    d.source p = .ok (some x.value) := by
  have hvalue := map_value_get? d p
  rw [h] at hvalue
  exact congrArg Except.ok hvalue.symm

/-- A record that is written at a path is found there. -/
theorem Document.record?_set {α : Type} {decoder : Decoder α} {new : Document} {x : α}
    (h : decoder .json new.value = .ok x) (d : Document) (p : Path) :
    (d.set p new).source.record? p decoder = some x := by
  rw [Source.record?, source_of_get? (get?_set_self d new p)]
  show (decoder .json new.value).toOption = some x
  rw [h]
  rfl

/-- Documents that have the same at a path answer the same for it. -/
theorem Document.source_eq_of_get?_eq {d e : Document} {p : Path} (h : d.get? p = e.get? p) :
    d.source p = e.source p := by
  have hvalue := congrArg (Option.map value) h
  rw [map_value_get?, map_value_get?] at hvalue
  exact congrArg Except.ok hvalue

namespace Telemetry

/-- What can be read, each reader with the name that it is given. -/
inductive Item where
  | port (name : String)
  | flow (name : String)
  | bgp4 (peer : String)
  | bgp6 (peer : String)
  | bgpPrefixes (peer : String)
  | isis (router : String)
  | lag (name : String)
  | lacp (name : String)
  | ipv4Neighbors
  | ipv6Neighbors
  | deviceInterface (name : String)
  | bundleMembers (bundle : String)
  deriving DecidableEq

namespace Item

/-- Where the item is found. -/
def path : Item → Path
  | port name => .generator "port" name
  | flow name => .generator "flow" name
  | bgp4 peer => .generator "bgp4" peer
  | bgp6 peer => .generator "bgp6" peer
  | bgpPrefixes peer => .generator "bgp-prefixes" peer
  | isis router => .generator "isis" router
  | lag name => .generator "lag" name
  | lacp name => .generator "lacp" name
  | ipv4Neighbors => .generator "neighbors" "ipv4"
  | ipv6Neighbors => .generator "neighbors" "ipv6"
  | deviceInterface name => .device "interface" name
  | bundleMembers bundle => .device "lacp" bundle

/-- What the reader of the item answers. -/
def Answer : Item → Type
  | port _ => Option PortMetric
  | flow _ => Option FlowMetric
  | bgp4 _ | bgp6 _ => Option BgpMetric
  | bgpPrefixes _ => Option BgpPrefixes
  | isis _ => Option IsisMetric
  | lag _ => Option LagMetric
  | lacp _ => Option LacpMetric
  | ipv4Neighbors | ipv6Neighbors => List Neighbor
  | deviceInterface _ => Option InterfaceState
  | bundleMembers _ => List BundleMember

/-- Reads the item. -/
def read : (i : Item) → Inspection i.Answer
  | port name => Telemetry.port name
  | flow name => Telemetry.flow name
  | bgp4 peer => Telemetry.bgp4 peer
  | bgp6 peer => Telemetry.bgp6 peer
  | bgpPrefixes peer => Telemetry.bgpPrefixes peer
  | isis router => Telemetry.isis router
  | lag name => Telemetry.lag name
  | lacp name => Telemetry.lacp name
  | ipv4Neighbors => Telemetry.ipv4Neighbors
  | ipv6Neighbors => Telemetry.ipv6Neighbors
  | deviceInterface name => Telemetry.deviceInterface name
  | bundleMembers bundle => Telemetry.bundleMembers bundle

/-- Every item lies three keys deep. -/
theorem length_path (i : Item) : i.path.keys.length = 3 := by
  cases i <;> rfl

/-- An item is known by its path. -/
theorem path_injective : Function.Injective path := by
  intro i j h
  cases i <;> cases j <;> simp_all [path, Path.generator, Path.device]

/-- Different items lie on paths that part. -/
theorem path_apart {i j : Item} (hne : i ≠ j) : i.path.Apart j.path := by
  -- All paths are of one length, so one that leads on from another is that path.
  have hsame : ∀ {a b : Item}, a.path.keys <+: b.path.keys → a = b := by
    intro a b h
    have hkeys : a.path.keys = b.path.keys :=
      h.eq_of_length (by rw [length_path, length_path])
    exact path_injective (congrArg Path.mk hkeys)
  constructor
  · intro h
    exact hne (hsame h)
  · intro h
    exact hne (hsame h).symm

/-- An item is read at its path, and nothing else is looked at. -/
theorem asksWithin_read (i : Item) : i.read.AsksWithin (· = i.path) := by
  have hrecord : ∀ {τ : Type} (p : Path) (d : Decoder τ),
      (Inspection.record p d).AsksWithin (· = p) := by
    intro τ p d
    refine (Inspection.reads_record p d).asksWithin fun r hr => ?_
    rw [List.mem_singleton] at hr
    rw [hr]
    rfl
  cases i with
  | ipv4Neighbors | ipv6Neighbors | bundleMembers _ =>
      exact (hrecord _ _).bind fun _ => Inspection.asksWithin_pure _
  | port _ | flow _ | bgp4 _ | bgp6 _ | bgpPrefixes _ | isis _ | lag _ | lacp _
  | deviceInterface _ => exact hrecord _ _

/-- Whatever is stored where one item lies, every other item is read as before. -/
theorem run_read_set {i j : Item} (hne : i ≠ j) (d new : Document) :
    j.read.run (d.set i.path new).source = j.read.run d.source := by
  refine j.asksWithin_read.run_eq fun p hp => ?_
  subst hp
  exact Document.source_eq_of_get?_eq (Document.get?_set_of_apart (path_apart hne) d new)

end Item

end Telemetry

end Convergence
