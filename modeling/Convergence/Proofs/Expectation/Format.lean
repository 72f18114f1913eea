import Convergence.Expectation.Codec
import Convergence.Proofs.Decode.Grammar

/-!
# `Convergence.Proofs.Expectation.Format`: the entries of an expectation as they are written

For each kind of entry, `Grammar` says which objects are taken for one: which fields there are,
which of them must be written, and what may stand in each.  `WrittenAs` says what the entry is that
such an object writes; a field that is left out is empty.  That the decoder keeps to both is
`PortExpectation.follows`, and so on for the other kinds.
-/

set_option autoImplicit false

namespace Convergence

open Value Decoder

/-! ### Ports -/

namespace PortExpectation

/-- The objects that write a port. -/
def Grammar : Value → Prop := IsRecord [
  .optional "frames-rx" (IsNullOr (Writable WritesWord64)),
  .optional "link" (IsNullOr (Writable (WritesName LinkState.name)))]

/-- The port that an object writes. -/
structure WrittenAs (v : Value) (x : PortExpectation) : Prop where
  framesRx : IsSet (WritesOptional WritesWord64) none x.framesRx (v.find? ["frames-rx"])
  link : IsSet (WritesOptional (WritesName LinkState.name)) none x.link (v.find? ["link"])

theorem independent : schema.Independent := ⟨by decide, by simp [schema]⟩

theorem follows : schema.decode.Follows .json NoArray Grammar WrittenAs := by
  have hframes := reads_uint64 (f := .json).follows.optional
  have hlink := LinkState.reads.follows.optional
  refine Schema.follows independent rfl (fun ms => ?_) fun ms r hms _ hread => ?_
  -- The first goal is what the fields take, the second one what is read from them.
  · exact .cons (hframes.fits_optional fun _ _ => trivial) <|
      .cons (hlink.fits_optional fun _ _ => trivial) .nil
  · obtain ⟨_, hframes, hread⟩ :=
      hframes.readFields_optional framesRx rfl hms (fun _ _ => trivial) hread
    obtain ⟨_, hlink, hread⟩ :=
      hlink.readFields_optional link rfl hms (fun _ _ => trivial) hread
    cases hread
    exact ⟨hframes, hlink⟩

end PortExpectation

/-! ### Flows -/

namespace FlowExpectation

/-- The objects that write a flow. -/
def Grammar : Value → Prop := IsRecord [
  .optional "frames-rx" (IsNullOr (Writable WritesWord64)),
  .optional "frames-rx-rate" (IsNullOr (Writable WritesRate))]

/-- The flow that an object writes. -/
structure WrittenAs (v : Value) (x : FlowExpectation) : Prop where
  framesRx : IsSet (WritesOptional WritesWord64) none x.framesRx (v.find? ["frames-rx"])
  framesRxRate :
    IsSet (WritesOptional WritesRate) none x.framesRxRate (v.find? ["frames-rx-rate"])

theorem independent : schema.Independent := ⟨by decide, by simp [schema]⟩

theorem follows : schema.decode.Follows .json NoArray Grammar WrittenAs := by
  have hframes := reads_uint64 (f := .json).follows.optional
  have hrate := reads_rate (f := .json).follows.optional
  refine Schema.follows independent rfl (fun ms => ?_) fun ms r hms _ hread => ?_
  · exact .cons (hframes.fits_optional fun _ _ => trivial) <|
      .cons (hrate.fits_optional fun _ _ => trivial) .nil
  · obtain ⟨_, hframes, hread⟩ :=
      hframes.readFields_optional framesRx rfl hms (fun _ _ => trivial) hread
    obtain ⟨_, hrate, hread⟩ :=
      hrate.readFields_optional framesRxRate rfl hms (fun _ _ => trivial) hread
    cases hread
    exact ⟨hframes, hrate⟩

end FlowExpectation

/-! ### Totals of frames -/

namespace TrafficExpectation

/-- The objects that write a total. -/
def Grammar : Value → Prop := IsRecord [
  .mandatory "flows" (IsListOf (Writable WritesString)),
  .mandatory "frames-rx" (Writable WritesWord64)]

/-- The total that an object writes. -/
structure WrittenAs (v : Value) (x : TrafficExpectation) : Prop where
  flows : ∃ w, v.find? ["flows"] = some w ∧ w.WritesSet WritesString x.flows
  framesRx : ∃ w, v.find? ["frames-rx"] = some w ∧ w.WritesWord64 x.framesRx

theorem independent : schema.Independent := ⟨by decide, by simp [schema]⟩

theorem follows : schema.decode.Follows .json NoArray Grammar WrittenAs := by
  have hflows := Follows.set (reads_string (f := .json))
  have hframes := reads_uint64 (f := .json).follows
  refine Schema.follows independent rfl (fun ms => ?_) fun ms r hms hadmits hread => ?_
  · exact .cons (hflows.fits_mandatory fun _ _ => trivial) <|
      .cons (hframes.fits_mandatory fun _ _ => trivial) .nil
  · -- Both fields are there, because they must be.
    have hpresent := hadmits.required
    simp only [schema, List.forall_mem_cons] at hpresent
    obtain ⟨_, hflows, hread⟩ :=
      hflows.readFields_mandatory (hpresent.1 rfl) hms (fun _ _ => trivial) hread
    obtain ⟨_, hframes, hread⟩ :=
      hframes.readFields_mandatory (hpresent.2.1 rfl) hms (fun _ _ => trivial) hread
    cases hread
    exact ⟨hflows, hframes⟩

end TrafficExpectation

/-! ### BGP sessions -/

namespace BgpExpectation

/-- The objects that write a session. -/
def Grammar : Value → Prop := IsRecord [
  .mandatory "state" (Writable (WritesName SessionState.name)),
  .optional "routes-advertised" (IsNullOr (Writable WritesWord64)),
  .optional "routes-received" (IsNullOr (Writable WritesWord64))]

/-- The session that an object writes. -/
structure WrittenAs (v : Value) (x : BgpExpectation) : Prop where
  state : ∃ w, v.find? ["state"] = some w ∧ w.WritesName SessionState.name x.state
  routesAdvertised :
    IsSet (WritesOptional WritesWord64) none x.routesAdvertised (v.find? ["routes-advertised"])
  routesReceived :
    IsSet (WritesOptional WritesWord64) none x.routesReceived (v.find? ["routes-received"])

theorem independent : schema.Independent := ⟨by decide, by simp [schema]⟩

theorem follows : schema.decode.Follows .json NoArray Grammar WrittenAs := by
  have hstate := SessionState.reads.follows
  have hroutes := reads_uint64 (f := .json).follows.optional
  refine Schema.follows independent rfl (fun ms => ?_) fun ms r hms hadmits hread => ?_
  · exact .cons (hstate.fits_mandatory fun _ _ => trivial) <|
      .cons (hroutes.fits_optional fun _ _ => trivial) <|
      .cons (hroutes.fits_optional fun _ _ => trivial) .nil
  · have hpresent := hadmits.required
    simp only [schema, List.forall_mem_cons] at hpresent
    obtain ⟨_, hstate, hread⟩ :=
      hstate.readFields_mandatory (hpresent.1 rfl) hms (fun _ _ => trivial) hread
    obtain ⟨_, hroutesAdvertised, hread⟩ :=
      hroutes.readFields_optional routesAdvertised rfl hms (fun _ _ => trivial) hread
    obtain ⟨_, hroutesReceived, hread⟩ :=
      hroutes.readFields_optional routesReceived rfl hms (fun _ _ => trivial) hread
    cases hread
    exact ⟨hstate, hroutesAdvertised, hroutesReceived⟩

end BgpExpectation

/-! ### Numbers of prefixes -/

namespace PrefixExpectation

/-- The objects that write numbers of prefixes. -/
def Grammar : Value → Prop := IsRecord [
  .optional "ipv4" (Writable WritesWord64),
  .optional "ipv6" (Writable WritesWord64)]

/-- The numbers of prefixes that an object writes. -/
structure WrittenAs (v : Value) (x : PrefixExpectation) : Prop where
  ipv4 : IsSet WritesWord64 0 x.ipv4 (v.find? ["ipv4"])
  ipv6 : IsSet WritesWord64 0 x.ipv6 (v.find? ["ipv6"])

theorem independent : schema.Independent := ⟨by decide, by simp [schema]⟩

theorem follows : schema.decode.Follows .json NoArray Grammar WrittenAs := by
  have hsize := reads_size (f := .json).follows
  refine Schema.follows independent rfl (fun ms => ?_) fun ms r hms _ hread => ?_
  · exact .cons (hsize.fits_optional fun _ _ => trivial) <|
      .cons (hsize.fits_optional fun _ _ => trivial) .nil
  · obtain ⟨_, hipv4, hread⟩ := hsize.readFields_optional ipv4 rfl hms (fun _ _ => trivial) hread
    obtain ⟨_, hipv6, hread⟩ := hsize.readFields_optional ipv6 rfl hms (fun _ _ => trivial) hread
    cases hread
    exact ⟨hipv4, hipv6⟩

end PrefixExpectation

/-! ### ISIS routers -/

namespace IsisExpectation

/-- The objects that write a router. -/
def Grammar : Value → Prop := IsRecord [
  .optional "l1-sessions-up" (IsNullOr (Writable WritesWord32)),
  .optional "l2-sessions-up" (IsNullOr (Writable WritesWord32)),
  .optional "l1-database-size" (IsNullOr (Writable WritesWord32)),
  .optional "l2-database-size" (IsNullOr (Writable WritesWord32))]

/-- The router that an object writes. -/
structure WrittenAs (v : Value) (x : IsisExpectation) : Prop where
  l1SessionsUp :
    IsSet (WritesOptional WritesWord32) none x.l1SessionsUp (v.find? ["l1-sessions-up"])
  l2SessionsUp :
    IsSet (WritesOptional WritesWord32) none x.l2SessionsUp (v.find? ["l2-sessions-up"])
  l1DatabaseSize :
    IsSet (WritesOptional WritesWord32) none x.l1DatabaseSize (v.find? ["l1-database-size"])
  l2DatabaseSize :
    IsSet (WritesOptional WritesWord32) none x.l2DatabaseSize (v.find? ["l2-database-size"])

theorem independent : schema.Independent := ⟨by decide, by simp [schema]⟩

theorem follows : schema.decode.Follows .json NoArray Grammar WrittenAs := by
  have hcount := reads_uint32 (f := .json).follows.optional
  refine Schema.follows independent rfl (fun ms => ?_) fun ms r hms _ hread => ?_
  · exact .cons (hcount.fits_optional fun _ _ => trivial) <|
      .cons (hcount.fits_optional fun _ _ => trivial) <|
      .cons (hcount.fits_optional fun _ _ => trivial) <|
      .cons (hcount.fits_optional fun _ _ => trivial) .nil
  · obtain ⟨_, hl1SessionsUp, hread⟩ :=
      hcount.readFields_optional l1SessionsUp rfl hms (fun _ _ => trivial) hread
    obtain ⟨_, hl2SessionsUp, hread⟩ :=
      hcount.readFields_optional l2SessionsUp rfl hms (fun _ _ => trivial) hread
    obtain ⟨_, hl1DatabaseSize, hread⟩ :=
      hcount.readFields_optional l1DatabaseSize rfl hms (fun _ _ => trivial) hread
    obtain ⟨_, hl2DatabaseSize, hread⟩ :=
      hcount.readFields_optional l2DatabaseSize rfl hms (fun _ _ => trivial) hread
    cases hread
    exact ⟨hl1SessionsUp, hl2SessionsUp, hl1DatabaseSize, hl2DatabaseSize⟩

end IsisExpectation

/-! ### Aggregated links -/

namespace LagExpectation

/-- The objects that write a link. -/
def Grammar : Value → Prop := IsRecord [
  .mandatory "oper-status" (Writable (WritesName OperStatus.name)),
  .mandatory "member-ports-up" (Writable WritesWord32)]

/-- The link that an object writes. -/
structure WrittenAs (v : Value) (x : LagExpectation) : Prop where
  operStatus : ∃ w, v.find? ["oper-status"] = some w ∧ w.WritesName OperStatus.name x.operStatus
  memberPortsUp : ∃ w, v.find? ["member-ports-up"] = some w ∧ w.WritesWord32 x.memberPortsUp

theorem independent : schema.Independent := ⟨by decide, by simp [schema]⟩

theorem follows : schema.decode.Follows .json NoArray Grammar WrittenAs := by
  have hstatus := OperStatus.reads.follows
  have hports := reads_uint32 (f := .json).follows
  refine Schema.follows independent rfl (fun ms => ?_) fun ms r hms hadmits hread => ?_
  · exact .cons (hstatus.fits_mandatory fun _ _ => trivial) <|
      .cons (hports.fits_mandatory fun _ _ => trivial) .nil
  · have hpresent := hadmits.required
    simp only [schema, List.forall_mem_cons] at hpresent
    obtain ⟨_, hoperStatus, hread⟩ :=
      hstatus.readFields_mandatory (hpresent.1 rfl) hms (fun _ _ => trivial) hread
    obtain ⟨_, hmemberPortsUp, hread⟩ :=
      hports.readFields_mandatory (hpresent.2.1 rfl) hms (fun _ _ => trivial) hread
    cases hread
    exact ⟨hoperStatus, hmemberPortsUp⟩

end LagExpectation

/-! ### LACP state of ports -/

namespace LacpExpectation

/-- The objects that write the state of a port. -/
def Grammar : Value → Prop := IsRecord [
  .mandatory "lag" (Writable WritesString),
  .mandatory "collecting" (Writable WritesBool),
  .mandatory "distributing" (Writable WritesBool),
  .optional "synchronization" (IsNullOr (Writable (WritesName Synchronization.name)))]

/-- The state of a port that an object writes. -/
structure WrittenAs (v : Value) (x : LacpExpectation) : Prop where
  lag : ∃ w, v.find? ["lag"] = some w ∧ w.WritesString x.lag
  collecting : ∃ w, v.find? ["collecting"] = some w ∧ w.WritesBool x.collecting
  distributing : ∃ w, v.find? ["distributing"] = some w ∧ w.WritesBool x.distributing
  synchronization :
    IsSet (WritesOptional (WritesName Synchronization.name)) none x.synchronization
      (v.find? ["synchronization"])

theorem independent : schema.Independent := ⟨by decide, by simp [schema]⟩

theorem follows : schema.decode.Follows .json NoArray Grammar WrittenAs := by
  have hlag := reads_string (f := .json).follows
  have hflag := reads_bool (f := .json).follows
  have hsynchronization := Synchronization.reads.follows.optional
  refine Schema.follows independent rfl (fun ms => ?_) fun ms r hms hadmits hread => ?_
  · exact .cons (hlag.fits_mandatory fun _ _ => trivial) <|
      .cons (hflag.fits_mandatory fun _ _ => trivial) <|
      .cons (hflag.fits_mandatory fun _ _ => trivial) <|
      .cons (hsynchronization.fits_optional fun _ _ => trivial) .nil
  · have hpresent := hadmits.required
    simp only [schema, List.forall_mem_cons] at hpresent
    obtain ⟨_, hlag, hread⟩ :=
      hlag.readFields_mandatory (hpresent.1 rfl) hms (fun _ _ => trivial) hread
    obtain ⟨_, hcollecting, hread⟩ :=
      hflag.readFields_mandatory (hpresent.2.1 rfl) hms (fun _ _ => trivial) hread
    obtain ⟨_, hdistributing, hread⟩ :=
      hflag.readFields_mandatory (hpresent.2.2.1 rfl) hms (fun _ _ => trivial) hread
    obtain ⟨_, hsynchronization, hread⟩ :=
      hsynchronization.readFields_optional synchronization rfl hms (fun _ _ => trivial) hread
    cases hread
    exact ⟨hlag, hcollecting, hdistributing, hsynchronization⟩

end LacpExpectation

/-! ### LACP state of bundle members -/

namespace MemberExpectation

/-- The objects that write the state of a member. -/
def Grammar : Value → Prop := IsRecord [
  .mandatory "collecting" (Writable WritesBool),
  .mandatory "distributing" (Writable WritesBool)]

/-- The state of a member that an object writes. -/
structure WrittenAs (v : Value) (x : MemberExpectation) : Prop where
  collecting : ∃ w, v.find? ["collecting"] = some w ∧ w.WritesBool x.collecting
  distributing : ∃ w, v.find? ["distributing"] = some w ∧ w.WritesBool x.distributing

theorem independent : schema.Independent := ⟨by decide, by simp [schema]⟩

theorem follows : schema.decode.Follows .json NoArray Grammar WrittenAs := by
  have hflag := reads_bool (f := .json).follows
  refine Schema.follows independent rfl (fun ms => ?_) fun ms r hms hadmits hread => ?_
  · exact .cons (hflag.fits_mandatory fun _ _ => trivial) <|
      .cons (hflag.fits_mandatory fun _ _ => trivial) .nil
  · have hpresent := hadmits.required
    simp only [schema, List.forall_mem_cons] at hpresent
    obtain ⟨_, hcollecting, hread⟩ :=
      hflag.readFields_mandatory (hpresent.1 rfl) hms (fun _ _ => trivial) hread
    obtain ⟨_, hdistributing, hread⟩ :=
      hflag.readFields_mandatory (hpresent.2.1 rfl) hms (fun _ _ => trivial) hread
    cases hread
    exact ⟨hcollecting, hdistributing⟩

end MemberExpectation

end Convergence
