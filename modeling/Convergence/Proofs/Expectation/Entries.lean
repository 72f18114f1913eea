import Convergence.Proofs.Check.Guards
import Convergence.Proofs.Expectation.Additions

/-!
# `Convergence.Proofs.Expectation.Entries`: an expectation is its entries

An entry of an expectation stands at a place: in a section, under a key (`Expectation.Place`).  What
stands there is given as the addition that puts it there (`Expectation.entryAt`), so that one law
says what an addition does, whichever it is: it stands at its place afterwards, and every other
place has what it had (`entryAt_apply`).

An expectation is known by its entries, but for one thing.  A bundle whose members are not to be
checked has no entry, and yet it is in the section of bundle members.  So two expectations are equal
if they have the same entries and list the same bundles (`ext_entries`).

With this the order of additions is settled place by place.  The last addition at a place is the one
that counts (`entryAt_addAll`), and additions at different places may change places (`apply_comm`).
So the additions of an expectation, one for each entry, build it again from nothing in any order
(`addAll_eq_of_mem_iff`, `built_in_any_order`).
-/

set_option autoImplicit false

namespace Convergence

/-- A map is known by what is made of its values, if different values make different things. -/
theorem OrderedMap.ext_map {κ α β : Type} [Ord κ] [Std.TransOrd κ] [Std.LawfulEqOrd κ]
    {m n : OrderedMap κ α} {f : κ → α → β} (hf : ∀ k, Function.Injective (f k))
    (h : ∀ k, (m.get? k).map (f k) = (n.get? k).map (f k)) : m = n :=
  ext_get? fun k => Option.map_injective (hf k) (h k)

namespace Expectation

/-! ### Sections and places -/

/-- A section of an expectation. -/
inductive Section where
  | ports
  | flows
  | traffic
  | bgp4
  | bgp6
  | bgpPrefixes
  | isis
  | lags
  | lacp
  | interfaces
  | bundles
  | bundleMembers
  | ipv4Neighbors
  | ipv6Neighbors
  deriving DecidableEq

/-- What a section is made of. -/
abbrev Section.Content : Section → Type
  | ports => OrderedMap String PortExpectation
  | flows => OrderedMap String FlowExpectation
  | traffic => Option TrafficExpectation
  | bgp4 | bgp6 => OrderedMap String BgpExpectation
  | bgpPrefixes => OrderedMap String PrefixExpectation
  | isis => OrderedMap String IsisExpectation
  | lags => OrderedMap String LagExpectation
  | lacp => OrderedMap String LacpExpectation
  | interfaces => OrderedMap String OperStatus
  | bundles => OrderedMap String (List String)
  | bundleMembers => OrderedMap String (OrderedMap String MemberExpectation)
  | ipv4Neighbors | ipv6Neighbors => OrderedSet Mac

/-- The section of the expectation. -/
def part (e : Expectation) : (s : Section) → s.Content
  | .ports => e.ports
  | .flows => e.flows
  | .traffic => e.traffic
  | .bgp4 => e.bgp4
  | .bgp6 => e.bgp6
  | .bgpPrefixes => e.bgpPrefixes
  | .isis => e.isis
  | .lags => e.lags
  | .lacp => e.lacp
  | .interfaces => e.interfaces
  | .bundles => e.bundles
  | .bundleMembers => e.bundleMembers
  | .ipv4Neighbors => e.ipv4Neighbors
  | .ipv6Neighbors => e.ipv6Neighbors

/-- Where an entry can stand. -/
inductive Place where
  | port (name : String)
  | flow (name : String)
  | traffic
  | bgp4 (peer : String)
  | bgp6 (peer : String)
  | bgpPrefixes (peer : String)
  | isis (router : String)
  | lag (name : String)
  | lacp (name : String)
  | interface (name : String)
  | bundle (name : String)
  | bundleMember (name member : String)
  | ipv4Neighbor (m : Mac)
  | ipv6Neighbor (m : Mac)
  deriving DecidableEq

/-- The section that the place is in. -/
def Place.home : Place → Section
  | port _ => .ports
  | flow _ => .flows
  | traffic => .traffic
  | bgp4 _ => .bgp4
  | bgp6 _ => .bgp6
  | bgpPrefixes _ => .bgpPrefixes
  | isis _ => .isis
  | lag _ => .lags
  | lacp _ => .lacp
  | interface _ => .interfaces
  | bundle _ => .bundles
  | bundleMember _ _ => .bundleMembers
  | ipv4Neighbor _ => .ipv4Neighbors
  | ipv6Neighbor _ => .ipv6Neighbors

/-- The bundle whose member is at the place. -/
def Place.bundle? : Place → Option String
  | bundleMember name _ => some name
  | _ => none

/-- The place that the addition goes to. -/
def Addition.place : Addition → Place
  | port name _ => .port name
  | flow name _ => .flow name
  | traffic _ => .traffic
  | bgp4 peer _ => .bgp4 peer
  | bgp6 peer _ => .bgp6 peer
  | bgpPrefixes peer _ => .bgpPrefixes peer
  | isis router _ => .isis router
  | lag name _ => .lag name
  | lacp name _ => .lacp name
  | interface name _ => .interface name
  | bundle name _ => .bundle name
  | bundleMember name member _ => .bundleMember name member
  | ipv4Neighbor m => .ipv4Neighbor m
  | ipv6Neighbor m => .ipv6Neighbor m

/-- The members of the bundle that are to be checked. -/
def membersOf (e : Expectation) (bundle : String) : OrderedMap String MemberExpectation :=
  (e.bundleMembers.get? bundle).getD ∅

/-- The entry at the place, as the addition that puts it there. -/
def entryAt (e : Expectation) : Place → Option Addition
  | .port name => (e.ports.get? name).map (.port name)
  | .flow name => (e.flows.get? name).map (.flow name)
  | .traffic => e.traffic.map .traffic
  | .bgp4 peer => (e.bgp4.get? peer).map (.bgp4 peer)
  | .bgp6 peer => (e.bgp6.get? peer).map (.bgp6 peer)
  | .bgpPrefixes peer => (e.bgpPrefixes.get? peer).map (.bgpPrefixes peer)
  | .isis router => (e.isis.get? router).map (.isis router)
  | .lag name => (e.lags.get? name).map (.lag name)
  | .lacp port => (e.lacp.get? port).map (.lacp port)
  | .interface name => (e.interfaces.get? name).map (.interface name)
  | .bundle name => (e.bundles.get? name).map (.bundle name)
  | .bundleMember name member => ((e.membersOf name).get? member).map (.bundleMember name member)
  | .ipv4Neighbor m => if e.ipv4Neighbors.contains m then some (.ipv4Neighbor m) else none
  | .ipv6Neighbor m => if e.ipv6Neighbors.contains m then some (.ipv6Neighbor m) else none

/-- The entries of the expectation, as the additions that put them there. -/
def additions (e : Expectation) : List Addition :=
  e.ports.toList.map (fun x => .port x.1 x.2) ++
  e.flows.toList.map (fun x => .flow x.1 x.2) ++
  e.traffic.toList.map .traffic ++
  e.bgp4.toList.map (fun x => .bgp4 x.1 x.2) ++
  e.bgp6.toList.map (fun x => .bgp6 x.1 x.2) ++
  e.bgpPrefixes.toList.map (fun x => .bgpPrefixes x.1 x.2) ++
  e.isis.toList.map (fun x => .isis x.1 x.2) ++
  e.lags.toList.map (fun x => .lag x.1 x.2) ++
  e.lacp.toList.map (fun x => .lacp x.1 x.2) ++
  e.interfaces.toList.map (fun x => .interface x.1 x.2) ++
  e.bundles.toList.map (fun x => .bundle x.1 x.2) ++
  e.bundleMembers.toList.flatMap (fun b => b.2.toList.map fun x => .bundleMember b.1 x.1 x.2) ++
  e.ipv4Neighbors.toList.map .ipv4Neighbor ++
  e.ipv6Neighbors.toList.map .ipv6Neighbor

/-- The expectation with additions made one after the other. -/
def addAll (e : Expectation) (as : List Addition) : Expectation :=
  as.foldl (fun e a => a.apply e) e

variable {e e' : Expectation} {a b : Addition} {p : Place}

/-! ### What one addition does -/

/-- An addition goes to one section and leaves all others as they are. -/
theorem part_apply_of_ne {s : Section} (h : s ≠ a.place.home) :
    (a.apply e).part s = e.part s := by
  -- A section that is not the one of the addition is handed on as it is.
  cases a <;> cases s <;> first | rfl | exact absurd rfl h

/-- The members of other bundles are not touched either. -/
theorem get?_bundleMembers_apply {bundle : String} (h : a.place.bundle? ≠ some bundle) :
    (a.apply e).bundleMembers.get? bundle = e.bundleMembers.get? bundle := by
  cases a with
  | bundleMember name member x =>
      exact OrderedMap.get?_insert_of_ne fun heq => h (congrArg some heq.symm)
  | _ => rfl

/-- An entry is seen from its section alone. -/
theorem entryAt_congr (h : e.part p.home = e'.part p.home) : e.entryAt p = e'.entryAt p := by
  cases e
  cases e'
  cases p <;> cases h <;> rfl

/-- A member goes to those of its bundle that are there already. -/
theorem membersOf_withBundleMember (name member : String) (x : MemberExpectation) :
    (e.withBundleMember name member x).membersOf name = (e.membersOf name).insert member x := by
  rw [membersOf, withBundleMember, OrderedMap.get?_insert_self]
  rfl

/-- Those of another bundle stay as they are. -/
theorem membersOf_withBundleMember_of_ne {name other member : String} {x : MemberExpectation}
    (h : other ≠ name) :
    (e.withBundleMember name member x).membersOf other = e.membersOf other := by
  rw [membersOf, withBundleMember, OrderedMap.get?_insert_of_ne h]
  rfl

/-- The addition stands at its place. -/
theorem entryAt_apply_place (e : Expectation) (a : Addition) :
    (a.apply e).entryAt a.place = some a := by
  have hmap : ∀ {χ : Type} {m : OrderedMap String χ} {name : String} {x : χ} {f : χ → Addition},
      ((m.insert name x).get? name).map f = some (f x) := by
    intro χ m name x f
    rw [OrderedMap.get?_insert_self]
    rfl
  cases a with
  | traffic => rfl
  | ipv4Neighbor | ipv6Neighbor => exact if_pos OrderedSet.contains_insert_self
  | bundleMember name member x =>
      show (((e.withBundleMember name member x).membersOf name).get? member).map _ = _
      rw [membersOf_withBundleMember]
      exact hmap
  | _ => exact hmap

/-- Under another key of its section there is what there was. -/
theorem entryAt_apply_of_home_eq (hhome : p.home = a.place.home) (h : p ≠ a.place) :
    (a.apply e).entryAt p = e.entryAt p := by
  have hmap : ∀ {χ : Type} {m : OrderedMap String χ} {name other : String} {x : χ}
      {f : χ → Addition}, other ≠ name →
      ((m.insert name x).get? other).map f = (m.get? other).map f := by
    intro χ m name other x f hne
    rw [OrderedMap.get?_insert_of_ne hne]
  have hset : ∀ {s : OrderedSet Mac} {m other : Mac} {x : Addition}, other ≠ m →
      (if (s.insert m).contains other then some x else none) =
        if s.contains other then some x else none := by
    intro s m other x hne
    rw [OrderedSet.contains_insert_of_ne hne]
  -- Places in one section are of one kind, so fourteen of all pairs are left.
  cases a <;> cases p <;> try (cases hhome; done)
  case traffic.traffic => exact absurd rfl h
  case bundleMember.bundleMember name member x other otherMember =>
    show (((e.withBundleMember name member x).membersOf other).get? otherMember).map _ = _
    -- The key has two parts: the place may be in another bundle, or in the same one.
    by_cases hname : other = name
    · subst hname
      rw [membersOf_withBundleMember]
      exact hmap fun heq => h (by rw [heq]; rfl)
    · rw [membersOf_withBundleMember_of_ne hname]
      rfl
  case ipv4Neighbor.ipv4Neighbor | ipv6Neighbor.ipv6Neighbor =>
    exact hset fun heq => h (by rw [heq]; rfl)
  all_goals exact hmap fun heq => h (by rw [heq]; rfl)

/-- Every other place has what it had. -/
theorem entryAt_apply_of_ne (h : p ≠ a.place) : (a.apply e).entryAt p = e.entryAt p := by
  by_cases hhome : p.home = a.place.home
  · exact entryAt_apply_of_home_eq hhome h
  · exact entryAt_congr (part_apply_of_ne hhome)

/-- What stands at a place after an addition. -/
theorem entryAt_apply (e : Expectation) (a : Addition) (p : Place) :
    (a.apply e).entryAt p = if p = a.place then some a else e.entryAt p := by
  split
  · rename_i hp
    rw [hp, entryAt_apply_place]
  · rename_i hp
    exact entryAt_apply_of_ne hp

/-- The members of the bundle are listed, though there may be none. -/
def lists (e : Expectation) (bundle : String) : Bool := (e.bundleMembers.get? bundle).isSome

/-- A bundle is listed after an addition if it was before, or if one of its members is added. -/
theorem lists_apply (e : Expectation) (a : Addition) (bundle : String) :
    (a.apply e).lists bundle = (e.lists bundle || a.place.bundle? == some bundle) := by
  by_cases h : a.place.bundle? = some bundle
  · rw [beq_iff_eq.mpr h, Bool.or_true]
    cases a with
    | bundleMember name member x =>
        cases h
        rw [lists, Addition.apply, withBundleMember, OrderedMap.get?_insert_self]
        rfl
    | _ => cases h
  · rw [beq_false_of_ne h, Bool.or_false, lists, get?_bundleMembers_apply h]
    rfl

/-! ### Expectations with the same entries -/

/-- An expectation is made of its sections. -/
theorem ext_part (h : ∀ s, e.part s = e'.part s) : e = e' := by
  cases e
  cases e'
  rw [mk.injEq]
  exact ⟨h .ports, h .flows, h .traffic, h .bgp4, h .bgp6, h .bgpPrefixes, h .isis, h .lags,
    h .lacp, h .interfaces, h .bundles, h .bundleMembers, h .ipv4Neighbors, h .ipv6Neighbors⟩

/-- The section of bundle members is known by the members and by the bundles that it lists. -/
theorem bundleMembers_ext (hmembers : ∀ bundle, e.membersOf bundle = e'.membersOf bundle)
    (hlists : ∀ bundle, e.lists bundle = e'.lists bundle) : e.bundleMembers = e'.bundleMembers := by
  have hoption : ∀ {m m' : Option (OrderedMap String MemberExpectation)},
      m.getD ∅ = m'.getD ∅ → m.isSome = m'.isSome → m = m'
    | none, none, _, _ => rfl
    | some _, some _, h, _ => congrArg some h
  exact OrderedMap.ext_get? fun bundle => hoption (hmembers bundle) (hlists bundle)

/-- Two expectations are equal if they have the same entries and list the same bundles. -/
theorem ext_entries (hentries : ∀ p, e.entryAt p = e'.entryAt p)
    (hlists : ∀ bundle, e.lists bundle = e'.lists bundle) : e = e' := by
  have hset : ∀ {s s' : OrderedSet Mac} {f : Mac → Addition},
      (∀ m, (if s.contains m then some (f m) else none) =
        if s'.contains m then some (f m) else none) → s = s' := by
    intro s s' f h
    refine OrderedSet.ext_mem fun m => ?_
    rw [← OrderedSet.contains_iff, ← OrderedSet.contains_iff]
    have hm := h m
    cases hs : s.contains m <;> cases hs' : s'.contains m <;> simp [hs, hs'] at hm ⊢
  refine ext_part fun s => ?_
  cases s with
  | ports =>
      exact OrderedMap.ext_map (fun _ _ _ heq => (Addition.port.inj heq).2)
        fun name => hentries (.port name)
  | flows =>
      exact OrderedMap.ext_map (fun _ _ _ heq => (Addition.flow.inj heq).2)
        fun name => hentries (.flow name)
  | traffic => exact Option.map_injective (fun _ _ => Addition.traffic.inj) (hentries .traffic)
  | bgp4 =>
      exact OrderedMap.ext_map (fun _ _ _ heq => (Addition.bgp4.inj heq).2)
        fun peer => hentries (.bgp4 peer)
  | bgp6 =>
      exact OrderedMap.ext_map (fun _ _ _ heq => (Addition.bgp6.inj heq).2)
        fun peer => hentries (.bgp6 peer)
  | bgpPrefixes =>
      exact OrderedMap.ext_map (fun _ _ _ heq => (Addition.bgpPrefixes.inj heq).2)
        fun peer => hentries (.bgpPrefixes peer)
  | isis =>
      exact OrderedMap.ext_map (fun _ _ _ heq => (Addition.isis.inj heq).2)
        fun router => hentries (.isis router)
  | lags =>
      exact OrderedMap.ext_map (fun _ _ _ heq => (Addition.lag.inj heq).2)
        fun name => hentries (.lag name)
  | lacp =>
      exact OrderedMap.ext_map (fun _ _ _ heq => (Addition.lacp.inj heq).2)
        fun name => hentries (.lacp name)
  | interfaces =>
      exact OrderedMap.ext_map (fun _ _ _ heq => (Addition.interface.inj heq).2)
        fun name => hentries (.interface name)
  | bundles =>
      exact OrderedMap.ext_map (fun _ _ _ heq => (Addition.bundle.inj heq).2)
        fun name => hentries (.bundle name)
  | bundleMembers =>
      refine bundleMembers_ext (fun name => ?_) hlists
      exact OrderedMap.ext_map (fun _ _ _ heq => (Addition.bundleMember.inj heq).2.2)
        fun member => hentries (.bundleMember name member)
  | ipv4Neighbors => exact hset fun m => hentries (.ipv4Neighbor m)
  | ipv6Neighbors => exact hset fun m => hentries (.ipv6Neighbor m)

/-! ### Additions one after the other -/

/-- Additions at different places may change places. -/
theorem apply_comm (h : a.place ≠ b.place) :
    b.apply (a.apply e) = a.apply (b.apply e) := by
  refine ext_entries (fun p => ?_) fun bundle => ?_
  · simp only [entryAt_apply]
    -- The place is at most one of the two.
    split <;> split <;> first | rfl | exact absurd (.trans (.symm ‹_›) ‹_›) h
  · simp only [lists_apply]
    exact Bool.or_right_comm _ _ _

/-- The later one of two additions at one place counts, as if there had been no other. -/
theorem apply_apply_of_place_eq (h : b.place = a.place) :
    b.apply (a.apply e) = b.apply e := by
  refine ext_entries (fun p => ?_) fun bundle => ?_
  · simp only [entryAt_apply, h]
    split <;> rfl
  · simp only [lists_apply, h, Bool.or_assoc, Bool.or_self]

/-- There is something to wait for after an addition. -/
theorem isEmpty_apply : (a.apply e).isEmpty = false := by
  rw [Bool.eq_false_iff]
  intro h
  have hplace := entryAt_apply_place e a
  rw [isEmpty_iff.mp h] at hplace
  -- In the empty expectation nothing stands anywhere.
  cases a <;> cases hplace

/-- The last addition at a place is the one that stands there. -/
theorem entryAt_addAll (e : Expectation) (as : List Addition) (p : Place) :
    (e.addAll as).entryAt p = (as.reverse.find? fun a => p = a.place).or (e.entryAt p) := by
  induction as generalizing e with
  | nil => rfl
  | cons a as ih =>
      have hstep : (e.addAll (a :: as)) = (a.apply e).addAll as := rfl
      rw [hstep, ih, entryAt_apply, List.reverse_cons, List.find?_append, Option.or_assoc]
      by_cases hp : p = a.place <;> simp [hp]

/-- A bundle is listed in the end if it was at first, or if one of its members is added. -/
theorem lists_addAll (e : Expectation) (as : List Addition) (bundle : String) :
    (e.addAll as).lists bundle =
      (e.lists bundle || as.any fun a => a.place.bundle? == some bundle) := by
  induction as generalizing e with
  | nil => exact (Bool.or_false _).symm
  | cons a as ih =>
      have hstep : (e.addAll (a :: as)) = (a.apply e).addAll as := rfl
      rw [hstep, ih, lists_apply, Bool.or_assoc, List.any_cons]

/-- What stands at a place is an addition that goes there. -/
theorem place_of_entryAt_eq_some (h : e.entryAt p = some a) : a.place = p := by
  cases p with
  | ipv4Neighbor | ipv6Neighbor =>
      rw [entryAt] at h
      split at h
      · cases h
        rfl
      · cases h
  | _ =>
      obtain ⟨x, -, rfl⟩ := Option.map_eq_some_iff.mp h
      rfl

/-- A member is one of those under the name of its bundle. -/
theorem get?_membersOf_eq_some_iff {bundle member : String} {x : MemberExpectation} :
    (e.membersOf bundle).get? member = some x ↔
      ∃ members, e.bundleMembers.get? bundle = some members ∧ members.get? member = some x := by
  rw [membersOf]
  cases e.bundleMembers.get? bundle with
  | none => exact ⟨nofun, nofun⟩
  | some members => simp

theorem entryAt_bundleMember_eq_some_iff {bundle member : String} {x : MemberExpectation} :
    e.entryAt (.bundleMember bundle member) = some (.bundleMember bundle member x) ↔
      (e.membersOf bundle).get? member = some x := by
  simp [entryAt]

/-- The additions of an expectation are its entries. -/
theorem mem_additions : a ∈ e.additions ↔ e.entryAt a.place = some a := by
  cases a with
  | bundleMember name member x =>
      rw [Addition.place, entryAt_bundleMember_eq_some_iff, get?_membersOf_eq_some_iff]
      simp only [OrderedMap.get?_eq_some_iff]
      have hadded : .bundleMember name member x ∈ e.additions ↔
          ∃ b ∈ e.bundleMembers.toList, ∃ y ∈ b.2.toList,
            Addition.bundleMember b.1 y.1 y.2 = .bundleMember name member x := by
        simp [additions]
      rw [hadded]
      constructor
      · rintro ⟨⟨_, members⟩, hb, ⟨_, _⟩, hy, heq⟩
        cases heq
        exact ⟨members, hb, hy⟩
      · rintro ⟨members, hb, hx⟩
        exact ⟨(name, members), hb, (member, x), hx, rfl⟩
  | ipv4Neighbor m =>
      have hadded : .ipv4Neighbor m ∈ e.additions ↔ m ∈ e.ipv4Neighbors.toList := by
        simp [additions]
      have hentry : e.entryAt (.ipv4Neighbor m) = some (.ipv4Neighbor m) ↔
          e.ipv4Neighbors.contains m = true := by
        simp [entryAt]
      exact hadded.trans (OrderedSet.contains_iff.symm.trans hentry.symm)
  | ipv6Neighbor m =>
      have hadded : .ipv6Neighbor m ∈ e.additions ↔ m ∈ e.ipv6Neighbors.toList := by
        simp [additions]
      have hentry : e.entryAt (.ipv6Neighbor m) = some (.ipv6Neighbor m) ↔
          e.ipv6Neighbors.contains m = true := by
        simp [entryAt]
      exact hadded.trans (OrderedSet.contains_iff.symm.trans hentry.symm)
  | _ => simp [additions, entryAt, Addition.place, OrderedMap.get?_eq_some_iff]

/-- If every bundle has members, then those are listed that have a member among the entries. -/
theorem lists_iff_exists_entryAt {bundle : String}
    (hfull : e.lists bundle = true → (e.membersOf bundle).isEmpty = false) :
    e.lists bundle = true ↔
      ∃ a : Addition, e.entryAt a.place = some a ∧ a.place.bundle? = some bundle := by
  constructor
  · intro hlisted
    have hne : (e.membersOf bundle).toList ≠ [] := by
      intro hnil
      have hempty : (e.membersOf bundle).isEmpty = true := List.isEmpty_iff.mpr hnil
      rw [hfull hlisted] at hempty
      cases hempty
    obtain ⟨⟨member, x⟩, hx⟩ := List.exists_mem_of_ne_nil _ hne
    exact ⟨.bundleMember bundle member x,
      entryAt_bundleMember_eq_some_iff.mpr (OrderedMap.get?_eq_some_iff.mpr hx), rfl⟩
  · rintro ⟨a, ha, hbundle⟩
    cases a with
    | bundleMember name member x =>
        cases hbundle
        obtain ⟨members, hmembers, -⟩ :=
          get?_membersOf_eq_some_iff.mp (entryAt_bundleMember_eq_some_iff.mp ha)
        rw [lists, hmembers]
        rfl
    | _ => cases hbundle

/-- An expectation in which every listed bundle has members is built again by its additions, in any
order and however often each is made. -/
theorem addAll_eq_of_mem_iff {as : List Addition}
    (hfull : ∀ bundle, e.lists bundle = true → (e.membersOf bundle).isEmpty = false)
    (has : ∀ a, a ∈ as ↔ e.entryAt a.place = some a) : ({} : Expectation).addAll as = e := by
  refine ext_entries (fun p => ?_) fun bundle => ?_
  · have hnone : ({} : Expectation).entryAt p = none := by cases p <;> rfl
    rw [entryAt_addAll, hnone, Option.or_none]
    cases hfind : as.reverse.find? fun a => p = a.place with
    | some a =>
        -- An addition that is made at the place is the entry there.
        have hp : p = a.place := by simpa using List.find?_some hfind
        have ha : a ∈ as := List.mem_reverse.mp (List.mem_of_find?_eq_some hfind)
        rw [hp, (has a).mp ha]
    | none =>
        -- An entry there would be among the additions.
        refine (Option.eq_none_iff_forall_ne_some.mpr fun a ha => ?_).symm
        have hplace : a.place = p := place_of_entryAt_eq_some ha
        have hmem : a ∈ as := (has a).mpr (by rw [hplace, ha])
        have hne := List.find?_eq_none.mp hfind a (List.mem_reverse.mpr hmem)
        exact hne (decide_eq_true hplace.symm)
  · -- A bundle that is listed has a member, which is among the additions.
    have hnone : ({} : Expectation).lists bundle = false := rfl
    rw [lists_addAll, hnone, Bool.false_or, Bool.eq_iff_iff, List.any_eq_true,
      lists_iff_exists_entryAt (hfull bundle)]
    simp only [has, beq_iff_eq]

/-- An expectation in which every listed bundle has members is built from nothing by its additions,
in any order.  This is so because an addition, whichever it is, makes a difference to its place
alone: additions at different places may change places, of two at one place the later one counts,
and other sections, other entries, other members of a bundle and other bundles are left as they are.
And whatever is added, there is something to wait for then. -/
theorem built_in_any_order :
    (∀ (e : Expectation) (as : List Addition),
      (∀ bundle members, e.bundleMembers.get? bundle = some members → members.isEmpty = false) →
        as.Perm e.additions → ({} : Expectation).addAll as = e) ∧
    ∀ (e : Expectation) (a : Addition),
      (∀ b : Addition, a.place ≠ b.place → b.apply (a.apply e) = a.apply (b.apply e)) ∧
      (∀ b : Addition, b.place = a.place → b.apply (a.apply e) = b.apply e) ∧
      (∀ p, (a.apply e).entryAt p = if p = a.place then some a else e.entryAt p) ∧
      (∀ s, s ≠ a.place.home → (a.apply e).part s = e.part s) ∧
      (∀ bundle, a.place.bundle? ≠ some bundle →
        (a.apply e).bundleMembers.get? bundle = e.bundleMembers.get? bundle) ∧
      (∀ name member x, a = .bundleMember name member x →
        (a.apply e).bundleMembers.get? name = some ((e.membersOf name).insert member x)) ∧
      (a.apply e).isEmpty = false := by
  constructor
  · intro e as hfull hperm
    refine addAll_eq_of_mem_iff (fun bundle hlisted => ?_) fun a => ?_
    · obtain ⟨members, hmembers⟩ := Option.isSome_iff_exists.mp hlisted
      rw [membersOf, hmembers]
      exact hfull bundle members hmembers
    · rw [hperm.mem_iff, mem_additions]
  · intro e a
    refine ⟨fun b => apply_comm, fun b => apply_apply_of_place_eq, entryAt_apply e a,
      fun s => part_apply_of_ne, fun bundle => get?_bundleMembers_apply, ?_, isEmpty_apply⟩
    rintro name member x rfl
    exact OrderedMap.get?_insert_self

/-- The members of a bundle may be added last one first. -/
theorem built_in_any_order_last_first :
    (({} : Expectation).withBundleMember "po1" "eth2" ⟨true, false⟩).withBundleMember "po1" "eth1"
        ⟨true, true⟩ =
      { bundleMembers :=
          ⟨[("po1", ⟨[("eth1", ⟨true, true⟩), ("eth2", ⟨true, false⟩)], by decide⟩)],
            by decide⟩ } := by
  refine built_in_any_order.1 _
    [.bundleMember "po1" "eth2" ⟨true, false⟩, .bundleMember "po1" "eth1" ⟨true, true⟩] ?_
    (.swap _ _ _)
  exact OrderedMap.forall_mem_iff.mp (by decide)

end Expectation

end Convergence
