import Convergence.Proofs.Check.Guards
import Convergence.Proofs.Check.Satisfaction
import Convergence.Proofs.Check.Scope
import Convergence.Proofs.Telemetry.Rearrangement
import Mathlib.Logic.Relation

/-!
# `Convergence.Proofs.Check.Rearrangement`: checks do not mind the order of lists

The checks are asked of two sources that report the same lists in another order, or some of their
elements more often.  The two runs are followed side by side: a reader of a list answers lists that
are rearranged, or fails in both (`Item.AnsweredAlike`); what a check makes of such lists is the
same (`Lists.unorderedEq_congr`, `Lists.any_congr`, `Lists.containsAll_congr`); and so the checks
agree (`Check.alike_outcome`), one after the other as well (`Check.alike_result_inspectAll`).

Only the check on bundles counts how often a member is listed, so it takes a permutation; the other
checks take any list with the same elements.

`Document.outcome_of_rearranged` says what this means for documents and for expectations.
-/

set_option autoImplicit false

namespace Convergence

/-- The expectation without what is looked up in lists. -/
def Expectation.withoutLists (e : Expectation) : Expectation :=
  { e with bundles := ∅, bundleMembers := ∅, ipv4Neighbors := ∅, ipv6Neighbors := ∅ }

namespace Check

open Inspection
open Telemetry (Item)

variable {ρ : Rearrangement} {s t : Source} {e : Expectation}

/-! ### One check -/

/-- Bundles compare the same if their members are permuted. -/
theorem alike_inspectBundles (hρ : ∀ xs ys : List BundleMember, ρ.Rel xs ys → xs.Perm ys)
    (h : ∀ i : Item, i.AnsweredAlike ρ s t) (entries : List (String × List String)) :
    Alike ρ.strict (· = ·) ((inspectBundles entries).run s).result
      ((inspectBundles entries).run t).result := by
  induction entries with
  | nil => exact .ok rfl
  | cons entry entries ih =>
      obtain ⟨bundle, expected⟩ := entry
      rw [inspectBundles]
      refine alike_bind (h (.bundleMembers bundle)) fun members members' hmembers => ?_
      have hnames : (members.map (·.interface)).Perm (members'.map (·.interface)) :=
        (hρ _ _ hmembers).map _
      -- The two runs report their members in different orders, which no result depends on.
      rw [result_report_bind, result_report_bind]
      refine alike_bind ih fun ok ok' hok => .ok ?_
      rw [hok, Lists.unorderedEq_congr (.refl expected) hnames]

/-- The state of members is looked up alike if they are the same, however often they are listed. -/
theorem alike_inspectBundleMembers (h : ∀ i : Item, i.AnsweredAlike ρ s t)
    (entries : List (String × OrderedMap String MemberExpectation)) :
    Alike ρ.strict (· = ·) ((inspectBundleMembers entries).run s).result
      ((inspectBundleMembers entries).run t).result := by
  induction entries with
  | nil => exact .ok rfl
  | cons entry entries ih =>
      obtain ⟨bundle, expected⟩ := entry
      rw [inspectBundleMembers]
      refine alike_bind (h (.bundleMembers bundle)) fun members members' hmembers => ?_
      have hany : ∀ p : BundleMember → Bool, members.any p = members'.any p :=
        Lists.any_congr (ρ.mem_iff hmembers)
      rw [result_bind_of_eq_ok (result_reportTable _), result_bind_of_eq_ok (result_reportTable _)]
      refine alike_bind ih fun ok ok' hok => .ok ?_
      simp only [hok, hany]

/-- Addresses are looked up alike among the same neighbors, however often they are listed. -/
theorem alike_inspectNeighbors {read : Inspection (List Neighbor)} {message : String}
    (h : Alike ρ.strict ρ.Rel (read.run s).result (read.run t).result) (expected : OrderedSet Mac) :
    Alike ρ.strict (· = ·) ((inspectNeighbors read message expected).run s).result
      ((inspectNeighbors read message expected).run t).result := by
  unfold inspectNeighbors
  split
  · exact .ok rfl
  · refine alike_bind h fun neighbors neighbors' hneighbors => ?_
    have hmacs : ∀ a, a ∈ neighbors.filterMap (·.mac) ↔ a ∈ neighbors'.filterMap (·.mac) := by
      intro a
      rw [List.mem_filterMap, List.mem_filterMap]
      exact exists_congr fun n => and_congr_left' (ρ.mem_iff hneighbors n)
    rw [result_report_bind, result_report_bind]
    exact .ok (Lists.containsAll_congr hmacs expected.toList)

/-- Without lists, an expectation names only items that are answered the same. -/
theorem eq_of_namesPath_withoutLists (h : ∀ i : Item, i.AnsweredAlike ρ s t) {p : Path}
    (hp : e.withoutLists.NamesPath p) : s p = t p := by
  obtain ⟨i, hi, rfl⟩ := hp
  have hanswered := h i
  cases i with
  | ipv4Neighbors | ipv6Neighbors => cases hi
  | bundleMembers bundle =>
      rcases hi with ⟨x, hx⟩ | ⟨x, hx⟩
      · cases hx
      · cases hx
  | port _ | flow _ | bgp4 _ | bgp6 _ | bgpPrefixes _ | isis _ | lag _ | lacp _
  | deviceInterface _ => exact hanswered

/-- A check comes to the same from both sources, the one on bundles if their members are
permuted. -/
theorem alike_outcome (h : ∀ i : Item, i.AnsweredAlike ρ s t) (c : Check)
    (hρ : c = .bundles → ∀ xs ys : List BundleMember, ρ.Rel xs ys → xs.Perm ys) :
    Alike ρ.strict (· = ·) (c.outcome s e) (c.outcome t e) := by
  -- The other checks say the same of an expectation without lists, and read only records.
  have hrecords : (c.inspect e.withoutLists).run s = (c.inspect e.withoutLists).run t :=
    (asksWithin_inspect c).run_eq fun _ hp => eq_of_namesPath_withoutLists h hp
  have hresult := congrArg Report.result hrecords
  cases c with
  | bundles => exact alike_inspectBundles (hρ rfl) h e.bundles.toList
  | bundleMembers => exact alike_inspectBundleMembers h e.bundleMembers.toList
  | neighbors =>
      refine alike_bind (alike_inspectNeighbors (h .ipv4Neighbors) e.ipv4Neighbors) ?_
      intro ipv4 ipv4' hipv4
      refine alike_bind (alike_inspectNeighbors (h .ipv6Neighbors) e.ipv6Neighbors) ?_
      intro ipv6 ipv6' hipv6
      exact .ok (by rw [hipv4, hipv6])
  | ports | flows | traffic | bgp4 | bgp6 | bgpPrefixes | isis | lags | lacp | interfaces =>
      exact Eq.subst (motive := Alike ρ.strict (· = ·) _) hresult (.refl (fun _ => rfl) _)

/-! ### All checks -/

/-- Checks that agree one by one agree when they are run one after the other. -/
theorem alike_result_inspectAll {strict : Prop} {cs : List Check}
    (h : ∀ c ∈ cs, Alike strict (· = ·) (c.outcome s e) (c.outcome t e)) :
    Alike strict (· = ·) ((inspectAll e cs).run s).result ((inspectAll e cs).run t).result := by
  induction cs with
  | nil => exact .ok rfl
  | cons c cs ih =>
      rw [List.forall_mem_cons] at h
      rw [inspectAll]
      -- The first check says the same in both runs, so both go on or neither does.
      refine alike_bind h.1 fun holds holds' heq => ?_
      subst heq
      cases holds with
      | true => exact ih h.2
      | false => exact .ok rfl

/-! ### The order of expected members -/

/-- Expected members may be listed in another order. -/
theorem inspectBundles_insert {entries : List (String × List String)} {bundle : String}
    {members members' : List String} (hsorted : Entries.Sorted entries)
    (hmembers : Entries.find? bundle entries = some members) (hperm : members.Perm members') :
    inspectBundles (Entries.insert bundle members' entries) = inspectBundles entries := by
  induction entries with
  | nil => cases hmembers
  | cons entry entries ih =>
      obtain ⟨name, listed⟩ := entry
      obtain ⟨hlater, hsorted⟩ := List.pairwise_cons.mp hsorted
      cases hcompare : compare bundle name with
      | lt =>
          -- The bundle would stand in front of all that are expected, and so is not expected.
          have hnone : Entries.find? bundle entries = none :=
            Entries.find?_eq_none_of_lt fun entry hentry =>
              Std.TransCmp.lt_trans hcompare (hlater entry hentry)
          simp [Entries.find?, hcompare, hnone] at hmembers
      | eq =>
          obtain rfl := Std.LawfulEqOrd.eq_of_compare hcompare
          obtain rfl : listed = members := by simpa [Entries.find?] using hmembers
          have hcompares : ∀ actual : List String,
              Lists.unorderedEq members' actual = Lists.unorderedEq listed actual := fun actual =>
            Lists.unorderedEq_congr hperm.symm (.refl actual)
          simp only [Entries.insert, hcompare, inspectBundles, hcompares]
      | gt =>
          have hrest : Entries.find? bundle entries = some members := by
            simpa [Entries.find?, hcompare] using hmembers
          simp only [Entries.insert, hcompare, inspectBundles, ih hsorted hrest]

end Check

/-- The expectation with the members of one bundle listed in another order. -/
inductive Expectation.Reordered (e : Expectation) : Expectation → Prop
  | bundle {bundle : String} {members members' : List String}
      (hmembers : e.bundles.get? bundle = some members) (hperm : members.Perm members') :
      Reordered e (e.withBundle bundle members')

/-- No check sees the difference. -/
theorem Expectation.Reordered.inspect_eq {e e' : Expectation} (h : e.Reordered e') (c : Check) :
    c.inspect e = c.inspect e' := by
  obtain ⟨hmembers, hperm⟩ := h
  cases c with
  | bundles => exact (Check.inspectBundles_insert e.bundles.sorted hmembers hperm).symm
  | ports | flows | traffic | bgp4 | bgp6 | bgpPrefixes | isis | lags | lacp | interfaces
  | bundleMembers | neighbors => rfl

/-- Expectations that no check tells apart make one inspection. -/
theorem Expectation.inspect_congr {e e' : Expectation}
    (h : ∀ c : Check, c.inspect e = c.inspect e') : e.inspect = e'.inspect := by
  rw [inspect_eq, inspect_eq]
  have hall : ∀ cs : List Check, Check.inspectAll e cs = Check.inspectAll e' cs := by
    intro cs
    induction cs with
    | nil => rfl
    | cons c cs ih => rw [Check.inspectAll, Check.inspectAll, h c, ih]
  exact hall _

namespace Document

open Relation (ReflTransGen)

variable {ρ : Rearrangement} {R : List Value → List Value → Prop} {d d' : Document}
  {e : Expectation}

/-- To rearrange one list makes no difference to the checks that look up members and addresses. -/
theorem Rearranged.alike_outcome (hR : ∀ items items', R items items' → ρ.Rel items items')
    (h : Rearranged R d d') {c : Check} (hc : c = .neighbors ∨ c = .bundleMembers) :
    Alike ρ.strict (· = ·) (c.outcome d.source e) (c.outcome d'.source e) := by
  refine Check.alike_outcome (h.answeredAlike hR) c fun hbundles => ?_
  rcases hc with rfl | rfl <;> cases hbundles

/-- To permute one list makes none to any check, nor to all of them together. -/
theorem Rearranged.sameAnswer_of_perm (h : Rearranged List.Perm d d') :
    (∀ c : Check, SameAnswer (c.outcome d.source e) (c.outcome d'.source e)) ∧
      SameAnswer (e.outcome d.source) (e.outcome d'.source) := by
  have hitems := h.answeredAlike (ρ := .permuted) fun _ _ hperm => hperm
  have hchecks : ∀ c : Check,
      Alike False (· = ·) (c.outcome d.source e) (c.outcome d'.source e) := fun c =>
    Check.alike_outcome hitems c fun _ _ _ hperm => hperm
  refine ⟨fun c => (hchecks c).sameAnswer, ?_⟩
  exact (Check.alike_result_inspectAll fun c _ => hchecks c).sameAnswer

/-- **The order of reported lists does not matter.**  Neighbors and members of bundles may be
permuted in a document, any number of times, and every check comes to the same answer or fails as
before, and so do all checks together.  The members that are expected of a bundle may be permuted,
and the inspections are the same.  Neighbors and members may also be listed more than once, which
makes no difference to the checks that look them up; if a copy stands behind what it is a copy of,
they even fail in the same way. -/
theorem outcome_of_rearranged :
    (∀ d d' : Document, ReflTransGen (Rearranged List.Perm) d d' → ∀ e : Expectation,
      (∀ c : Check, SameAnswer (c.outcome d.source e) (c.outcome d'.source e)) ∧
        SameAnswer (e.outcome d.source) (e.outcome d'.source)) ∧
    (∀ e e' : Expectation, ReflTransGen Expectation.Reordered e e' →
      (∀ c : Check, c.inspect e = c.inspect e') ∧ e.inspect = e'.inspect) ∧
    (∀ d d' : Document, ReflTransGen (Rearranged Repeats) d d' → ∀ (e : Expectation) (c : Check),
      c = .neighbors ∨ c = .bundleMembers →
        SameAnswer (c.outcome d.source e) (c.outcome d'.source e)) ∧
    (∀ d d' : Document, ReflTransGen (Rearranged Echoes) d d' → ∀ (e : Expectation) (c : Check),
      c = .neighbors ∨ c = .bundleMembers → c.outcome d.source e = c.outcome d'.source e) := by
  -- Each part is an induction on the steps: one step makes no difference, so a run makes none.
  refine ⟨fun d d' h e => ?_, fun e e' h => ?_, fun d d' h e c hc => ?_, fun d d' h e c hc => ?_⟩
  · induction h with
    | refl => exact ⟨fun _ => .refl _, .refl _⟩
    | tail _ hlast ih =>
        obtain ⟨hchecks, hall⟩ := hlast.sameAnswer_of_perm (e := e)
        exact ⟨fun c => (ih.1 c).trans (hchecks c), ih.2.trans hall⟩
  · have hchecks : ∀ c : Check, c.inspect e = c.inspect e' := by
      intro c
      induction h with
      | refl => rfl
      | tail _ hlast ih => exact ih.trans (hlast.inspect_eq c)
    exact ⟨hchecks, Expectation.inspect_congr hchecks⟩
  · induction h with
    | refl => exact .refl _
    | tail _ hlast ih =>
        have hstep := hlast.alike_outcome (ρ := .sameElements) (e := e)
          (fun _ _ hrepeats => hrepeats.mem_iff) hc
        exact ih.trans hstep.sameAnswer
  · induction h with
    | refl => rfl
    | tail _ hlast ih =>
        have hstep := hlast.alike_outcome (ρ := .echoed) (e := e) (fun _ _ => .inr) hc
        exact ih.trans hstep.eq

/-- Two members of a bundle in the other order, and then one of them twice.  To the check on bundles
a permutation makes no difference, but a copy does; the check on the state of members does not see
the copy.  A member that does not decode fails both, wherever it stands. -/
theorem outcome_of_rearranged_members :
    let member (name : String) : Value := .object [("interface", .string name)]
    let place := (Path.device "lacp" "agg1").push "members"
    let listing (items : List Value) : Document := null.set place (.ofValue (.array items))
    let d := listing [member "eth1", member "eth2"]
    let permuted := d.set place (.ofValue (.array [member "eth2", member "eth1"]))
    let copied := d.set place (.ofValue (.array [member "eth1", member "eth2", member "eth1"]))
    let bad := listing [.null, member "eth1"]
    let badCopied := bad.set place (.ofValue (.array [.null, member "eth1", .null]))
    let e := (({} : Expectation).withBundle "agg1" ["eth1", "eth2"]).withBundleMember "agg1" "eth1"
      ⟨false, false⟩
    ReflTransGen (Rearranged List.Perm) d permuted ∧ e.outcome d.source = .ok true ∧
      e.outcome permuted.source = .ok true ∧
      ReflTransGen Expectation.Reordered e (e.withBundle "agg1" ["eth2", "eth1"]) ∧
      (e.withBundle "agg1" ["eth2", "eth1"]).inspect = e.inspect ∧
      ReflTransGen (Rearranged Repeats) d copied ∧
      Check.bundleMembers.outcome copied.source e = .ok true ∧
      Check.bundles.outcome copied.source e = .ok false ∧
      ReflTransGen (Rearranged Echoes) bad badCopied ∧
      Check.bundleMembers.outcome badCopied.source e = Check.bundleMembers.outcome bad.source e ∧
      Check.bundleMembers.outcome bad.source e = .error (.undecodable (.device "lacp" "agg1")
        (.wrongType .null "struct LacpMember")) := by
  intro member place listing d permuted copied bad badCopied e
  obtain ⟨hpermuted, hreordered, hrepeats, hechoes⟩ := outcome_of_rearranged
  have hplace : place.Unordered := .members "agg1"
  have hd : d.get? place = some (.ofValue (.array [member "eth1", member "eth2"])) := rfl
  have hbad : bad.get? place = some (.ofValue (.array [.null, member "eth1"])) := rfl
  have hp : ReflTransGen (Rearranged List.Perm) d permuted :=
    .single (.list hplace hd rfl rfl (.swap _ _ _))
  have hexpected : e.bundles.get? "agg1" = some ["eth1", "eth2"] := rfl
  have he : ReflTransGen Expectation.Reordered e (e.withBundle "agg1" ["eth2", "eth1"]) :=
    .single (.bundle hexpected (.swap _ _ _))
  have hc : ReflTransGen (Rearranged Repeats) d copied :=
    .single (.list hplace hd rfl rfl ⟨[_, _], _, [], List.mem_cons_self, rfl, rfl⟩)
  have hb : ReflTransGen (Rearranged Echoes) bad badCopied :=
    .single (.list hplace hbad rfl rfl ⟨[_, _], _, [], List.mem_cons_self, rfl, rfl⟩)
  have hmet : e.outcome d.source = .ok true := by cbv
  have hcounted : Check.bundles.outcome copied.source e = .ok false := by cbv
  have hmembers : Check.bundleMembers.outcome d.source e = .ok true := rfl
  refine ⟨hp, hmet, ((hpermuted _ _ hp e).2.answer true).mp hmet, he, ((hreordered _ _ he).2).symm,
    hc, ((hrepeats _ _ hc e _ (.inr rfl)).answer true).mp hmembers, hcounted, hb,
    (hechoes _ _ hb e _ (.inr rfl)).symm, rfl⟩

end Document

end Convergence
