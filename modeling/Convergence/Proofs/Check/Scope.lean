import Convergence.Proofs.Check.Failure
import Convergence.Proofs.Collections
import Convergence.Proofs.Telemetry.Items

/-!
# `Convergence.Proofs.Check.Scope`: checks look at nothing but what is named

`Expectation.Names` lists the items that the sections of an expectation speak of.  Every check asks
only for paths of these (`Check.asksWithin_inspect`), whatever telemetry answers, and so do all
checks together.  So telemetry may differ in everything else, between two sources or between two
states of a document, and no check comes to another result or reports anything else.

`inspect_depends_on_named` says this of two sources, of two ways to ask that may change their
answers on the way, of a document and its updates, and of the readers of single items.
-/

set_option autoImplicit false

namespace Convergence

open Telemetry (Item)

namespace Expectation

/-- The items that the expectation speaks of. -/
def Names (e : Expectation) : Item → Prop
  | .port name => ∃ x, e.ports.get? name = some x
  | .flow name => (∃ x, e.flows.get? name = some x) ∨ ∃ t ∈ e.traffic, name ∈ t.flows
  | .bgp4 peer => ∃ x, e.bgp4.get? peer = some x
  | .bgp6 peer => ∃ x, e.bgp6.get? peer = some x
  | .bgpPrefixes peer => ∃ x, e.bgpPrefixes.get? peer = some x
  | .isis router => ∃ x, e.isis.get? router = some x
  | .lag name => ∃ x, e.lags.get? name = some x
  | .lacp port => ∃ x, e.lacp.get? port = some x
  | .ipv4Neighbors => e.ipv4Neighbors.isEmpty = false
  | .ipv6Neighbors => e.ipv6Neighbors.isEmpty = false
  | .deviceInterface name => ∃ x, e.interfaces.get? name = some x
  | .bundleMembers bundle =>
    (∃ x, e.bundles.get? bundle = some x) ∨ ∃ x, e.bundleMembers.get? bundle = some x

/-- The path is that of an item that the expectation speaks of. -/
def NamesPath (e : Expectation) (p : Path) : Prop := ∃ i, e.Names i ∧ i.path = p

end Expectation

namespace Check

variable {e : Expectation}

/-- The reads of a section are at the items of its names. -/
theorem namesPath_of_mem_map {χ : Type} {m : OrderedMap String χ}
    {reading : String × χ → Reading} (item : String → Item)
    (hpath : ∀ entry, (item entry.1).path = (reading entry).path)
    (hnames : ∀ name x, m.get? name = some x → e.Names (item name)) :
    ∀ r ∈ m.toList.map reading, e.NamesPath r.path := by
  intro r hr
  obtain ⟨⟨name, x⟩, hx, rfl⟩ := List.mem_map.mp hr
  have hget : m.get? name = some x := OrderedMap.get?_eq_some_iff.mpr hx
  exact ⟨item name, hnames name x hget, hpath (name, x)⟩

/-- A neighbor cache is read only if an address is expected in it. -/
theorem namesPath_of_mem_ite {expected : OrderedSet Mac} {cache : String} {i : Item}
    (hpath : i.path = (neighborsReading cache).path)
    (hnames : expected.isEmpty = false → e.Names i) :
    ∀ r ∈ (if expected.isEmpty then [] else [neighborsReading cache]), e.NamesPath r.path := by
  intro r hr
  cases hempty : expected.isEmpty with
  | true => simp [hempty] at hr
  | false =>
      obtain rfl : r = neighborsReading cache := by simpa [hempty] using hr
      exact ⟨i, hnames hempty, hpath⟩

/-- A check reads nothing but items that the expectation names. -/
theorem namesPath_of_mem_readings (c : Check) : ∀ r ∈ c.readings e, e.NamesPath r.path := by
  cases c with
  | ports => exact namesPath_of_mem_map .port (fun _ => rfl) fun _ x hx => ⟨x, hx⟩
  | flows => exact namesPath_of_mem_map .flow (fun _ => rfl) fun _ x hx => .inl ⟨x, hx⟩
  | traffic =>
      intro r hr
      cases htraffic : e.traffic with
      | none => simp [readings, htraffic] at hr
      | some t =>
          obtain ⟨name, hname, rfl⟩ : ∃ name ∈ t.flows.toList, flowReading name = r := by
            simpa [readings, htraffic] using hr
          exact ⟨.flow name, .inr ⟨t, htraffic, hname⟩, rfl⟩
  | bgp4 => exact namesPath_of_mem_map .bgp4 (fun _ => rfl) fun _ x hx => ⟨x, hx⟩
  | bgp6 => exact namesPath_of_mem_map .bgp6 (fun _ => rfl) fun _ x hx => ⟨x, hx⟩
  | bgpPrefixes => exact namesPath_of_mem_map .bgpPrefixes (fun _ => rfl) fun _ x hx => ⟨x, hx⟩
  | isis => exact namesPath_of_mem_map .isis (fun _ => rfl) fun _ x hx => ⟨x, hx⟩
  | lags => exact namesPath_of_mem_map .lag (fun _ => rfl) fun _ x hx => ⟨x, hx⟩
  | lacp => exact namesPath_of_mem_map .lacp (fun _ => rfl) fun _ x hx => ⟨x, hx⟩
  | interfaces =>
      exact namesPath_of_mem_map .deviceInterface (fun _ => rfl) fun _ x hx => ⟨x, hx⟩
  | bundles =>
      exact namesPath_of_mem_map .bundleMembers (fun _ => rfl) fun _ x hx => .inl ⟨x, hx⟩
  | bundleMembers =>
      exact namesPath_of_mem_map .bundleMembers (fun _ => rfl) fun _ x hx => .inr ⟨x, hx⟩
  | neighbors =>
      intro r hr
      rcases List.mem_append.mp hr with hr | hr
      · exact namesPath_of_mem_ite (i := .ipv4Neighbors) rfl id r hr
      · exact namesPath_of_mem_ite (i := .ipv6Neighbors) rfl id r hr

/-- A check asks for nothing but items that the expectation names. -/
theorem asksWithin_inspect (c : Check) : (c.inspect e).AsksWithin e.NamesPath :=
  (reads_inspect e c).asksWithin (namesPath_of_mem_readings c)

/-- So do checks one after the other. -/
theorem asksWithin_inspectAll (cs : List Check) : (inspectAll e cs).AsksWithin e.NamesPath := by
  induction cs with
  | nil => exact Inspection.asksWithin_pure true
  | cons c cs ih =>
      refine (asksWithin_inspect c).bind fun holds => ?_
      cases holds with
      | true => exact ih
      | false => exact Inspection.asksWithin_pure false

end Check

namespace Expectation

/-- **Only what is named matters.**  Two sources that answer alike for every item which the
expectation names lead to the same results and events, of every check and of all together; also
where the answers change while they are asked for.  So updates of a document at paths that part from
those of all named items make no difference.  The paths of different items always part, so whatever
is stored where one lies, every other one is read as before. -/
theorem inspect_depends_on_named (e : Expectation) :
    (∀ s t : Source, (∀ i, e.Names i → s i.path = t i.path) →
      e.inspect.run s = e.inspect.run t ∧ ∀ c : Check, (c.inspect e).run s = (c.inspect e).run t) ∧
    (∀ (m : Type → Type) [Monad m] (get get' : Path → m (Except ReadError (Option Value))),
      (∀ i, e.Names i → get i.path = get' i.path) →
      e.inspect.runM get = e.inspect.runM get' ∧
        ∀ c : Check, (c.inspect e).runM get = (c.inspect e).runM get') ∧
    (∀ (d : Document) (us : List Update),
      (∀ u ∈ us, ∀ i, e.Names i → u.path.Apart i.path) →
      e.inspect.run (Update.applyAll us d).source = e.inspect.run d.source ∧
        ∀ c : Check, (c.inspect e).run (Update.applyAll us d).source = (c.inspect e).run d.source) ∧
    (∀ i j : Item, i ≠ j → i.path.Apart j.path ∧
      ∀ d new : Document, j.read.run (d.set i.path new).source = j.read.run d.source) := by
  have hall : e.inspect.AsksWithin e.NamesPath := Check.asksWithin_inspectAll _
  have hsources : ∀ s t : Source, (∀ i, e.Names i → s i.path = t i.path) →
      e.inspect.run s = e.inspect.run t ∧
        ∀ c : Check, (c.inspect e).run s = (c.inspect e).run t := by
    intro s t h
    have hpaths : ∀ p, e.NamesPath p → s p = t p := by
      rintro p ⟨i, hi, rfl⟩
      exact h i hi
    exact ⟨hall.run_eq hpaths, fun c => (Check.asksWithin_inspect c).run_eq hpaths⟩
  refine ⟨hsources, fun m _ get get' h => ?_, fun d us h => ?_, fun i j hne => ?_⟩
  · have hpaths : ∀ p, e.NamesPath p → get p = get' p := by
      rintro p ⟨i, hi, rfl⟩
      exact h i hi
    exact ⟨hall.runM_eq hpaths, fun c => (Check.asksWithin_inspect c).runM_eq hpaths⟩
  · refine hsources _ _ fun i hi => Document.source_eq_of_get?_eq ?_
    exact Update.get?_applyAll_of_apart (fun u hu => h u hu i hi) d
  · exact ⟨Item.path_apart hne, fun d new => Item.run_read_set hne d new⟩

/-- One port is expected, with a slash in its name.  A source that knows nothing else, and fails
everywhere else, comes to the same; so does the document after a port of a similar name has been
stored and a bundle removed. -/
theorem inspect_depends_on_named_port :
    let e := ({} : Expectation).withPort "Ethernet1/1" { link := some .up }
    let d := Document.ofValue (.object [("otg", .object [("port", .object [
      ("Ethernet1/1", .object [("link", .string "up")])])])])
    let broken : Source := fun p =>
      if p = .generator "port" "Ethernet1/1" then d.source p else .error (.file "state" .missing)
    let asking (s : Source) (p : Path) : StateM Nat (Except ReadError (Option Value)) :=
      fun count => (s p, count + 1)
    let us : List Update := [.set (.generator "port" "Ethernet1") .null,
      .remove (.device "lacp" "agg1")]
    (∀ i, e.Names i → d.source i.path = broken i.path) ∧
      e.inspect.run d.source = e.inspect.run broken ∧
      e.inspect.runM (asking d.source) = e.inspect.runM (asking broken) ∧
      (∀ u ∈ us, ∀ i, e.Names i → u.path.Apart i.path) ∧
      e.inspect.run (Update.applyAll us d).source = e.inspect.run d.source ∧
      Item.port "Ethernet1" ≠ Item.port "Ethernet1/1" ∧
      (Telemetry.port "Ethernet1/1").run (d.set (.generator "port" "Ethernet1") .null).source =
        (Telemetry.port "Ethernet1/1").run d.source := by
  intro e d broken asking us
  obtain ⟨hsources, hasking, hupdates, hitems⟩ := inspect_depends_on_named e
  -- The port is the only item that is named.
  have hnames : ∀ i, e.Names i → i = .port "Ethernet1/1" := by
    intro i hi
    cases i with
    | port name =>
        obtain ⟨x, hx⟩ := hi
        have hget := (OrderedMap.get?_insert ∅ "Ethernet1/1" name _).symm.trans hx
        split at hget
        · rename_i hname
          rw [Std.LawfulEqOrd.eq_of_compare hname]
        · cases hget
    | flow name =>
        rcases hi with ⟨x, hx⟩ | ⟨t, ht, -⟩
        · cases hx
        · cases ht
    | bundleMembers bundle =>
        rcases hi with ⟨x, hx⟩ | ⟨x, hx⟩
        · cases hx
        · cases hx
    | ipv4Neighbors | ipv6Neighbors => cases hi
    | bgp4 _ | bgp6 _ | bgpPrefixes _ | isis _ | lag _ | lacp _ | deviceInterface _ =>
        obtain ⟨x, hx⟩ := hi
        cases hx
  have hsame : ∀ i, e.Names i → d.source i.path = broken i.path := by
    intro i hi
    rw [hnames i hi]
    rfl
  have hcounted : ∀ i, e.Names i → asking d.source i.path = asking broken i.path := by
    intro i hi
    funext count
    exact congrArg (·, count + 1) (hsame i hi)
  have hapart : ∀ u ∈ us, ∀ i, e.Names i → u.path.Apart i.path := by
    intro u hu i hi
    rw [hnames i hi]
    rcases List.mem_cons.mp hu with rfl | hu
    · exact Item.path_apart (i := .port "Ethernet1") (by decide)
    · obtain rfl := List.mem_singleton.mp hu
      exact Item.path_apart (i := .bundleMembers "agg1") (by decide)
  have hne : Item.port "Ethernet1" ≠ Item.port "Ethernet1/1" := by decide
  exact ⟨hsame, (hsources _ _ hsame).1, (hasking _ _ _ hcounted).1, hapart,
    (hupdates d us hapart).1, hne, (hitems _ _ hne).2 d .null⟩

end Expectation

end Convergence
