import Convergence.Check
import Mathlib.Tactic.MkIffOfInductiveProp

/-!
# `Convergence.Proofs.Check.Agreement`: when a record is as expected

Each kind of entry says something about a few fields of its record.  `MetBy` states, field by
field, what that is: a field of the entry that may be left out constrains the record only if it is
there.  The comparisons of `Convergence.Check` decide exactly these conditions (`agrees_iff`).
-/

set_option autoImplicit false

namespace Convergence

/-- What is expected must be there; what is left out may be anything. -/
theorem agreesOn_iff {α : Type} [BEq α] [LawfulBEq α] {expected : Option α} {actual : α} :
    agreesOn expected actual = true ↔ ∀ x ∈ expected, actual = x := by
  cases expected with
  | none => exact ⟨fun _ => nofun, fun _ => rfl⟩
  | some y =>
      rw [agreesOn, beq_iff_eq]
      constructor
      · rintro rfl x hx
        exact Option.some.inj hx
      · intro h
        exact h y rfl

/-- The port has received so many frames, and its link is in this state. -/
@[mk_iff]
structure PortExpectation.MetBy (x : PortExpectation) (m : PortMetric) : Prop where
  framesRx : ∀ n ∈ x.framesRx, m.framesRx = n
  link : ∀ s ∈ x.link, m.link = s

theorem PortExpectation.agrees_iff {x : PortExpectation} {m : PortMetric} :
    x.agrees m = true ↔ x.MetBy m := by
  rw [agrees, Bool.and_eq_true, agreesOn_iff, agreesOn_iff, metBy_iff]

/-- The flow has received so many frames, at this rate.  Rates are compared as numbers. -/
@[mk_iff]
structure FlowExpectation.MetBy (x : FlowExpectation) (m : FlowMetric) : Prop where
  framesRx : ∀ n ∈ x.framesRx, m.framesRx = n
  framesRxRate : ∀ r ∈ x.framesRxRate, m.framesRxRate.eqv r = true

theorem FlowExpectation.agrees_iff {x : FlowExpectation} {m : FlowMetric} :
    x.agrees m = true ↔ x.MetBy m := by
  rw [agrees, Bool.and_eq_true, agreesOn_iff, Option.all_eq_true, metBy_iff]
  exact Iff.rfl

/-- The session is in this state, with so many routes each way. -/
@[mk_iff]
structure BgpExpectation.MetBy (x : BgpExpectation) (m : BgpMetric) : Prop where
  state : m.sessionState = x.state
  routesAdvertised : ∀ n ∈ x.routesAdvertised, m.routesAdvertised = n
  routesReceived : ∀ n ∈ x.routesReceived, m.routesReceived = n

theorem BgpExpectation.agrees_iff {x : BgpExpectation} {m : BgpMetric} :
    x.agrees m = true ↔ x.MetBy m := by
  rw [agrees, Bool.and_eq_true, Bool.and_eq_true, beq_iff_eq, agreesOn_iff, agreesOn_iff,
    and_assoc, metBy_iff]

/-- The peer has learned so many prefixes of each family. -/
@[mk_iff]
structure PrefixExpectation.MetBy (x : PrefixExpectation) (m : BgpPrefixes) : Prop where
  ipv4 : m.ipv4Unicast.length = x.ipv4.toNat
  ipv6 : m.ipv6Unicast.length = x.ipv6.toNat

theorem PrefixExpectation.agrees_iff {x : PrefixExpectation} {m : BgpPrefixes} :
    x.agrees m = true ↔ x.MetBy m := by
  rw [agrees, Bool.and_eq_true, beq_iff_eq, beq_iff_eq, metBy_iff]

/-- The router has so many sessions and database entries on each level. -/
@[mk_iff]
structure IsisExpectation.MetBy (x : IsisExpectation) (m : IsisMetric) : Prop where
  l1SessionsUp : ∀ n ∈ x.l1SessionsUp, m.l1SessionsUp = n
  l2SessionsUp : ∀ n ∈ x.l2SessionsUp, m.l2SessionsUp = n
  l1DatabaseSize : ∀ n ∈ x.l1DatabaseSize, m.l1DatabaseSize = n
  l2DatabaseSize : ∀ n ∈ x.l2DatabaseSize, m.l2DatabaseSize = n

theorem IsisExpectation.agrees_iff {x : IsisExpectation} {m : IsisMetric} :
    x.agrees m = true ↔ x.MetBy m := by
  rw [agrees, Bool.and_eq_true, Bool.and_eq_true, Bool.and_eq_true, agreesOn_iff, agreesOn_iff,
    agreesOn_iff, agreesOn_iff, and_assoc, and_assoc, metBy_iff]

/-- The link is in this state, over so many members. -/
@[mk_iff]
structure LagExpectation.MetBy (x : LagExpectation) (m : LagMetric) : Prop where
  operStatus : m.operStatus = x.operStatus
  memberPortsUp : m.memberPortsUp = x.memberPortsUp

theorem LagExpectation.agrees_iff {x : LagExpectation} {m : LagMetric} :
    x.agrees m = true ↔ x.MetBy m := by
  rw [agrees, Bool.and_eq_true, beq_iff_eq, beq_iff_eq, metBy_iff]

/-- The port belongs to the link and is in this state. -/
@[mk_iff]
structure LacpExpectation.MetBy (x : LacpExpectation) (m : LacpMetric) : Prop where
  lag : m.lagName = x.lag
  collecting : m.collecting = x.collecting
  distributing : m.distributing = x.distributing
  synchronization : ∀ s ∈ x.synchronization, m.synchronization = s

theorem LacpExpectation.agrees_iff {x : LacpExpectation} {m : LacpMetric} :
    x.agrees m = true ↔ x.MetBy m := by
  rw [agrees, Bool.and_eq_true, Bool.and_eq_true, Bool.and_eq_true, beq_iff_eq, beq_iff_eq,
    beq_iff_eq, agreesOn_iff, and_assoc, and_assoc, metBy_iff]

/-- The member is in this state. -/
@[mk_iff]
structure MemberExpectation.MetBy (x : MemberExpectation) (m : BundleMember) : Prop where
  collecting : m.collecting = x.collecting
  distributing : m.distributing = x.distributing

theorem MemberExpectation.agrees_iff {x : MemberExpectation} {m : BundleMember} :
    x.agrees m = true ↔ x.MetBy m := by
  rw [agrees, Bool.and_eq_true, beq_iff_eq, beq_iff_eq, metBy_iff]

end Convergence
