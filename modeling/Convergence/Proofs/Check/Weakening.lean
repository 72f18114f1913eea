import Convergence.Proofs.Check.Guards
import Convergence.Proofs.Check.Satisfaction
import Convergence.Proofs.Expectation.Additions

/-!
# `Convergence.Proofs.Check.Weakening`: who expects less is content with more

An expectation is weaker than another one if everything that it says is said by the other, too: the
same entries or fewer, of these the same fields or fewer (`Expectation.Weaker`).  Where the stronger
one is met, the weaker one is.  In particular it reads nothing that the stronger one does not read,
so no failed read can come in between.

What a check stands for is inherited field by field and section by section
(`Check.Holds.of_weaker`).  The total of the traffic is added up in words and so may hold for a sum
that only looks right; it is inherited because a weaker expectation has the same total or none.

`outcome_of_weaker` says this of any two expectations, and of one that has been added to.
-/

set_option autoImplicit false

namespace Convergence

/-! ### What it is to say less -/

/-- The field says the same, or is left out. -/
def Relaxed {α : Type} (x y : Option α) : Prop := x = none ∨ x = y

namespace Relaxed

variable {α : Type} {x y : Option α}

theorem refl (x : Option α) : Relaxed x x := .inr rfl

/-- What is asked of the value of a field is asked of no more values if the field is relaxed. -/
theorem forall_mem {motive : α → Prop} (h : Relaxed x y) (hy : ∀ a ∈ y, motive a) :
    ∀ a ∈ x, motive a := by
  rcases h with rfl | rfl
  · nofun
  · exact hy

end Relaxed

/-- Some fields of the port may be left out. -/
structure PortExpectation.Weaker (x y : PortExpectation) : Prop where
  framesRx : Relaxed x.framesRx y.framesRx
  link : Relaxed x.link y.link

/-- Some fields of the flow may be left out. -/
structure FlowExpectation.Weaker (x y : FlowExpectation) : Prop where
  framesRx : Relaxed x.framesRx y.framesRx
  framesRxRate : Relaxed x.framesRxRate y.framesRxRate

/-- The session is in the same state, and some route counts may be left out. -/
structure BgpExpectation.Weaker (x y : BgpExpectation) : Prop where
  state : x.state = y.state
  routesAdvertised : Relaxed x.routesAdvertised y.routesAdvertised
  routesReceived : Relaxed x.routesReceived y.routesReceived

/-- Some fields of the router may be left out. -/
structure IsisExpectation.Weaker (x y : IsisExpectation) : Prop where
  l1SessionsUp : Relaxed x.l1SessionsUp y.l1SessionsUp
  l2SessionsUp : Relaxed x.l2SessionsUp y.l2SessionsUp
  l1DatabaseSize : Relaxed x.l1DatabaseSize y.l1DatabaseSize
  l2DatabaseSize : Relaxed x.l2DatabaseSize y.l2DatabaseSize

/-- The port is in the same state, and its synchronization may be left out. -/
structure LacpExpectation.Weaker (x y : LacpExpectation) : Prop where
  lag : x.lag = y.lag
  collecting : x.collecting = y.collecting
  distributing : x.distributing = y.distributing
  synchronization : Relaxed x.synchronization y.synchronization

/-- Every entry of the first map has a counterpart of the same name in the second. -/
def OrderedMap.WeakerBy {χ : Type} (weaker : χ → χ → Prop) (m n : OrderedMap String χ) : Prop :=
  ∀ name x, m.get? name = some x → ∃ y, n.get? name = some y ∧ weaker x y

/-- Everything that the first expectation says is said by the second, too. -/
structure Expectation.Weaker (e e' : Expectation) : Prop where
  ports : e.ports.WeakerBy PortExpectation.Weaker e'.ports
  flows : e.flows.WeakerBy FlowExpectation.Weaker e'.flows
  traffic : Relaxed e.traffic e'.traffic
  bgp4 : e.bgp4.WeakerBy BgpExpectation.Weaker e'.bgp4
  bgp6 : e.bgp6.WeakerBy BgpExpectation.Weaker e'.bgp6
  bgpPrefixes : e.bgpPrefixes.WeakerBy (· = ·) e'.bgpPrefixes
  isis : e.isis.WeakerBy IsisExpectation.Weaker e'.isis
  lags : e.lags.WeakerBy (· = ·) e'.lags
  lacp : e.lacp.WeakerBy LacpExpectation.Weaker e'.lacp
  interfaces : e.interfaces.WeakerBy (· = ·) e'.interfaces
  /-- The members of a bundle may be listed in another order. -/
  bundles : e.bundles.WeakerBy List.Perm e'.bundles
  /-- Of a bundle, fewer members may be spoken of. -/
  bundleMembers : e.bundleMembers.WeakerBy (OrderedMap.WeakerBy (· = ·)) e'.bundleMembers
  ipv4Neighbors : ∀ a ∈ e.ipv4Neighbors, a ∈ e'.ipv4Neighbors
  ipv6Neighbors : ∀ a ∈ e.ipv6Neighbors, a ∈ e'.ipv6Neighbors

/-! ### What is met by a record -/

theorem PortExpectation.Weaker.metBy {x y : PortExpectation} {m : PortMetric} (h : x.Weaker y)
    (hy : y.MetBy m) : x.MetBy m where
  framesRx := h.framesRx.forall_mem hy.framesRx
  link := h.link.forall_mem hy.link

theorem FlowExpectation.Weaker.metBy {x y : FlowExpectation} {m : FlowMetric} (h : x.Weaker y)
    (hy : y.MetBy m) : x.MetBy m where
  framesRx := h.framesRx.forall_mem hy.framesRx
  framesRxRate := h.framesRxRate.forall_mem hy.framesRxRate

theorem BgpExpectation.Weaker.metBy {x y : BgpExpectation} {m : BgpMetric} (h : x.Weaker y)
    (hy : y.MetBy m) : x.MetBy m where
  state := hy.state.trans h.state.symm
  routesAdvertised := h.routesAdvertised.forall_mem hy.routesAdvertised
  routesReceived := h.routesReceived.forall_mem hy.routesReceived

theorem IsisExpectation.Weaker.metBy {x y : IsisExpectation} {m : IsisMetric} (h : x.Weaker y)
    (hy : y.MetBy m) : x.MetBy m where
  l1SessionsUp := h.l1SessionsUp.forall_mem hy.l1SessionsUp
  l2SessionsUp := h.l2SessionsUp.forall_mem hy.l2SessionsUp
  l1DatabaseSize := h.l1DatabaseSize.forall_mem hy.l1DatabaseSize
  l2DatabaseSize := h.l2DatabaseSize.forall_mem hy.l2DatabaseSize

theorem LacpExpectation.Weaker.metBy {x y : LacpExpectation} {m : LacpMetric} (h : x.Weaker y)
    (hy : y.MetBy m) : x.MetBy m where
  lag := hy.lag.trans h.lag.symm
  collecting := hy.collecting.trans h.collecting.symm
  distributing := hy.distributing.trans h.distributing.symm
  synchronization := h.synchronization.forall_mem hy.synchronization

/-! ### Sections -/

namespace OrderedMap

variable {χ : Type} {weaker : χ → χ → Prop} {m n : OrderedMap String χ}

/-- What holds of every entry of a map holds of every entry of a weaker one, if it is inherited by
single entries. -/
theorem WeakerBy.forall {motive : String → χ → Prop} (h : m.WeakerBy weaker n)
    (hentry : ∀ name x y, weaker x y → motive name y → motive name x)
    (hn : ∀ name y, n.get? name = some y → motive name y) :
    ∀ name x, m.get? name = some x → motive name x := by
  intro name x hx
  obtain ⟨y, hy, hxy⟩ := h name x hx
  exact hentry name x y hxy (hn name y hy)

theorem WeakerBy.refl (hrefl : ∀ x, weaker x x) (m : OrderedMap String χ) :
    m.WeakerBy weaker m := by
  intro name x hx
  exact ⟨x, hx, hrefl x⟩

/-- A map is weaker than with one more entry, if the entry says no less than one that it takes the
place of. -/
theorem WeakerBy.insert (hrefl : ∀ x, weaker x x) {k : String} {v : χ}
    (h : ∀ x, m.get? k = some x → weaker x v) : m.WeakerBy weaker (m.insert k v) := by
  intro name x hx
  rw [get?_insert]
  split
  · rename_i hname
    obtain rfl := Std.LawfulEqOrd.eq_of_compare hname
    exact ⟨v, rfl, h x hx⟩
  · exact ⟨x, hx, hrefl x⟩

/-- In particular if there is none. -/
theorem WeakerBy.insert_of_none (hrefl : ∀ x, weaker x x) {k : String} (v : χ)
    (h : m.get? k = none) : m.WeakerBy weaker (m.insert k v) := by
  refine WeakerBy.insert hrefl fun x hx => ?_
  rw [h] at hx
  cases hx

end OrderedMap

namespace Source

variable {source : Source} {τ χ : Type} {path : String → Path} {d : Decoder τ}

/-- A record that is as one entry says is as a weaker one says. -/
theorem Meets.imp {met : χ → τ → Prop} {name : String} {x y : χ} (h : ∀ m, met y m → met x m)
    (hy : source.Meets path d met name y) : source.Meets path d met name x := by
  obtain ⟨m, hrecord, hm⟩ := hy
  exact ⟨m, hrecord, h m hm⟩

/-- A bundle has its members in any order. -/
theorem HasMembers.of_perm {bundle : String} {xs ys : List String} (h : xs.Perm ys)
    (hys : source.HasMembers bundle ys) : source.HasMembers bundle xs := by
  obtain ⟨b, hb, hmembers⟩ := hys
  exact ⟨b, hb, hmembers.trans h.symm⟩

/-- A bundle that has all members in their state has some of them. -/
theorem HasMembersIn.of_weaker {bundle : String} {xs ys : OrderedMap String MemberExpectation}
    (h : xs.WeakerBy (· = ·) ys) (hys : source.HasMembersIn bundle ys) :
    source.HasMembersIn bundle xs := by
  obtain ⟨b, hb, hmembers⟩ := hys
  refine ⟨b, hb, fun name x hx => ?_⟩
  obtain ⟨y, hy, rfl⟩ := h name x hx
  exact hmembers name x hy

/-- A cache that resolves all addresses resolves some of them. -/
theorem Resolves.of_subset {cache : String} {as bs : OrderedSet Mac} (h : ∀ a ∈ as, a ∈ bs)
    (hbs : source.Resolves cache bs) : source.Resolves cache as := by
  intro hsome
  have hmore : bs.isEmpty = false := by
    rw [← Bool.not_eq_true, OrderedSet.isEmpty_iff]
    rintro rfl
    -- Without an address to choose from there is none to be chosen.
    obtain ⟨a, ha⟩ : ∃ a, a ∈ as.toList := List.exists_mem_of_ne_nil _ fun hnil => by
      simp [OrderedSet.isEmpty, hnil] at hsome
    exact absurd (h a ha) nofun
  obtain ⟨neighbors, hneighbors, hresolved⟩ := hbs hmore
  exact ⟨neighbors, hneighbors, fun a ha => hresolved a (h a ha)⟩

end Source

/-! ### Checks -/

namespace Check

variable {source : Source} {e e' : Expectation}

/-- What a check stands for is inherited by a weaker expectation. -/
theorem Holds.of_weaker (h : e.Weaker e') {c : Check} (hc : c.Holds source e') :
    c.Holds source e := by
  -- A section is inherited entry by entry, and an entry by what its record has to be like.
  cases c with
  | ports => exact h.ports.forall (fun _ _ _ hxy => .imp fun _ => hxy.metBy) hc
  | flows => exact h.flows.forall (fun _ _ _ hxy => .imp fun _ => hxy.metBy) hc
  | traffic => exact h.traffic.forall_mem hc
  | bgp4 => exact h.bgp4.forall (fun _ _ _ hxy => .imp fun _ => hxy.metBy) hc
  | bgp6 => exact h.bgp6.forall (fun _ _ _ hxy => .imp fun _ => hxy.metBy) hc
  | bgpPrefixes => exact h.bgpPrefixes.forall (fun _ _ _ hxy hy => hxy ▸ hy) hc
  | isis => exact h.isis.forall (fun _ _ _ hxy => .imp fun _ => hxy.metBy) hc
  | lags => exact h.lags.forall (fun _ _ _ hxy hy => hxy ▸ hy) hc
  | lacp => exact h.lacp.forall (fun _ _ _ hxy => .imp fun _ => hxy.metBy) hc
  | interfaces => exact h.interfaces.forall (fun _ _ _ hxy hy => hxy ▸ hy) hc
  | bundles => exact h.bundles.forall (fun _ _ _ hxy => .of_perm hxy) hc
  | bundleMembers => exact h.bundleMembers.forall (fun _ _ _ hxy => .of_weaker hxy) hc
  | neighbors => exact ⟨.of_subset h.ipv4Neighbors hc.1, .of_subset h.ipv6Neighbors hc.2⟩

/-- A check that says yes says yes to a weaker expectation. -/
theorem outcome_of_weaker_of_ok_true (h : e.Weaker e') {c : Check}
    (hc : c.outcome source e' = .ok true) : c.outcome source e = .ok true := by
  by_cases htraffic : c = .traffic
  · subst htraffic
    -- The total is the same or not asked for, so nothing need be known of how it is added up.
    rcases h.traffic with hnone | hsame
    · have hoff : Check.traffic.isOn e = false := by simp [isOn, hnone]
      rw [outcome, inspect_of_isOn_eq_false hoff]
      rfl
    · rw [outcome, inspect] at hc ⊢
      rwa [hsame]
  · rw [outcome_eq_ok_true_iff_holds_of_ne htraffic] at hc ⊢
    exact hc.of_weaker h

end Check

namespace Expectation

theorem Weaker.refl (e : Expectation) : e.Weaker e where
  ports := .refl (fun _ => ⟨.refl _, .refl _⟩) _
  flows := .refl (fun _ => ⟨.refl _, .refl _⟩) _
  traffic := .refl _
  bgp4 := .refl (fun _ => ⟨rfl, .refl _, .refl _⟩) _
  bgp6 := .refl (fun _ => ⟨rfl, .refl _, .refl _⟩) _
  bgpPrefixes := .refl (fun _ => rfl) _
  isis := .refl (fun _ => ⟨.refl _, .refl _, .refl _, .refl _⟩) _
  lags := .refl (fun _ => rfl) _
  lacp := .refl (fun _ => ⟨rfl, rfl, rfl, .refl _⟩) _
  interfaces := .refl (fun _ => rfl) _
  bundles := .refl List.Perm.refl _
  bundleMembers := .refl (.refl fun _ => rfl) _
  ipv4Neighbors := fun _ ha => ha
  ipv6Neighbors := fun _ ha => ha

/-- An expectation is weaker than with something new added. -/
theorem Addition.weaker_apply {e : Expectation} {a : Addition} (h : a.IsNew e) :
    e.Weaker (a.apply e) := by
  -- All sections but the one that is added to stay as they are.
  have hrefl := Weaker.refl e
  cases a with
  | port name x =>
      exact { hrefl with ports := .insert_of_none (fun _ => ⟨.refl _, .refl _⟩) x h }
  | flow name x =>
      exact { hrefl with flows := .insert_of_none (fun _ => ⟨.refl _, .refl _⟩) x h }
  | traffic x => exact { hrefl with traffic := .inl h }
  | bgp4 peer x =>
      exact { hrefl with bgp4 := .insert_of_none (fun _ => ⟨rfl, .refl _, .refl _⟩) x h }
  | bgp6 peer x =>
      exact { hrefl with bgp6 := .insert_of_none (fun _ => ⟨rfl, .refl _, .refl _⟩) x h }
  | bgpPrefixes peer x =>
      exact { hrefl with bgpPrefixes := .insert_of_none (fun _ => rfl) x h }
  | isis router x =>
      exact { hrefl with
        isis := .insert_of_none (fun _ => ⟨.refl _, .refl _, .refl _, .refl _⟩) x h }
  | lag name x => exact { hrefl with lags := .insert_of_none (fun _ => rfl) x h }
  | lacp port x =>
      exact { hrefl with lacp := .insert_of_none (fun _ => ⟨rfl, rfl, rfl, .refl _⟩) x h }
  | interface name x => exact { hrefl with interfaces := .insert_of_none (fun _ => rfl) x h }
  | bundle name members =>
      exact { hrefl with bundles := .insert_of_none List.Perm.refl members h }
  | bundleMember bundle member x =>
      -- The bundle keeps the members that it has, and gets one that it has not.
      refine { hrefl with bundleMembers := .insert (.refl fun _ => rfl) fun members hmembers => ?_ }
      rw [hmembers]
      exact .insert_of_none (fun _ => rfl) x (h members hmembers)
  | ipv4Neighbor m =>
      exact { hrefl with ipv4Neighbors := fun _ ha => OrderedSet.mem_insert.mpr (.inr ha) }
  | ipv6Neighbor m =>
      exact { hrefl with ipv6Neighbors := fun _ ha => OrderedSet.mem_insert.mpr (.inr ha) }

/-- Everything is as expected exactly if all checks say yes, those that are off included. -/
theorem outcome_eq_ok_true_iff_forall {source : Source} {e : Expectation} :
    e.outcome source = .ok true ↔ ∀ c : Check, c.outcome source e = .ok true := by
  rw [outcome, inspect_eq, Check.result_inspectAll_eq_ok_true_iff]
  exact ⟨fun h c => h c (Check.mem_all c), fun h c _ => h c⟩

/-- **Expecting less.**  Where telemetry is as one expectation says, it is as every weaker one says;
so if it is as expected after something new has been added to an expectation, it was before. -/
theorem outcome_of_weaker :
    (∀ (source : Source) (e e' : Expectation), e.Weaker e' →
      e'.outcome source = .ok true → e.outcome source = .ok true) ∧
    (∀ (source : Source) (e : Expectation) (a : Addition), a.IsNew e →
      (a.apply e).outcome source = .ok true → e.outcome source = .ok true) := by
  have hweaker : ∀ (source : Source) (e e' : Expectation), e.Weaker e' →
      e'.outcome source = .ok true → e.outcome source = .ok true := by
    intro source e e' h h'
    rw [outcome_eq_ok_true_iff_forall] at h' ⊢
    exact fun c => Check.outcome_of_weaker_of_ok_true h (h' c)
  refine ⟨hweaker, fun source e a hnew h => ?_⟩
  exact hweaker source e (a.apply e) (Addition.weaker_apply hnew) h

/-- A port is expected up after ten frames, over a link with two members.  Without the link and the
number of frames less is expected, and without the link alone, too. -/
theorem outcome_of_weaker_link :
    let d := Document.ofValue (.object [("otg", .object [
      ("port", .object [("eth1", .object [("link", .string "up"), ("frames-rx", .int 10)])]),
      ("lag", .object [("lag1", .object [("oper-status", .string "up"),
        ("member-ports-up", .int 2)])])])])
    let weak := ({} : Expectation).withPort "eth1" { link := some .up }
    let port := ({} : Expectation).withPort "eth1" { framesRx := some 10, link := some .up }
    let link : Addition := .lag "lag1" (.up 2)
    weak.Weaker (link.apply port) ∧ link.IsNew port ∧
      (link.apply port).outcome d.source = .ok true ∧ weak.outcome d.source = .ok true ∧
      port.outcome d.source = .ok true := by
  intro d weak port link
  have hweaker : weak.Weaker (link.apply port) := by
    refine { Weaker.refl weak with ports := ?_, lags := .insert_of_none (fun _ => rfl) _ rfl }
    intro name x hx
    have hinsert := (OrderedMap.get?_insert ∅ "eth1" name _).symm.trans hx
    split at hinsert
    · rename_i hname
      obtain rfl := Std.LawfulEqOrd.eq_of_compare hname
      cases hinsert
      exact ⟨⟨some 10, some .up⟩, rfl, ⟨.inl rfl, .inr rfl⟩⟩
    · cases hinsert
  have hnew : link.IsNew port := rfl
  have hstrong : (link.apply port).outcome d.source = .ok true := rfl
  exact ⟨hweaker, hnew, hstrong, outcome_of_weaker.1 d.source weak _ hweaker hstrong,
    outcome_of_weaker.2 d.source port link hnew hstrong⟩

end Expectation

end Convergence
