import Convergence.Expectation.Codec
import Convergence.Proofs.Address
import Convergence.Proofs.Collections
import Convergence.Proofs.Decode.Reads
import Convergence.Proofs.Decode.Rearrangement
import Convergence.Proofs.Mac

/-!
# `Convergence.Proofs.Decode.RoundTrip`: what is written reads back

Decoders read the data that they are written for back from what is written of them: single data, and
data made of others (`Decoder.optional_optional`, `Decoder.list_map`, `Decoder.set_toList` and
`Decoder.map_encode`).  A record reads back if every member that is written sets its own field
(`Schema.decode_object_eq_ok`): the members are read one after the other, in the order in which they
are written, and what they put into the record adds up to it.

Rates that are no number are written as null, so they are left out (`Decoder.rate_encode`).
-/

set_option autoImplicit false

namespace Convergence

variable {ρ α : Type} {f : Dialect}

namespace Decoder

variable {d : Decoder α} {encode : α → Value}

/-! ### Single data -/

theorem uint64_word64 (n : UInt64) : uint64 f (.word64 n) = .ok n := (reads_uint64 _ n).mpr rfl

theorem size_word64 (n : UInt64) : size f (.word64 n) = .ok n := (reads_size _ n).mpr rfl

theorem uint32_word32 (n : UInt32) : uint32 f (.word32 n) = .ok n := (reads_uint32 _ n).mpr rfl

theorem mac_mac (m : Mac) : mac f (.mac m) = .ok m :=
  (reads_mac _ m).mpr ⟨m.text, rfl, m.parse_text⟩

theorem address_text (a : Address) : address f (.string a.text) = .ok a := by
  rw [address, a.parse?_text]

/-- A rate that is a number is written as that number. -/
theorem rate_encode {r : Rate} (h : r.value.isFinite = true) : rate f r.encode = .ok r := by
  rw [Rate.encode, if_pos h]
  exact congrArg Except.ok r.ofFloat_value

/-! ### Data made of others -/

/-- None is written as null, which no datum is. -/
theorem optional_optional {x : Option α} (h : ∀ y ∈ x, d f (encode y) = .ok y)
    (hnull : ∀ y ∈ x, encode y ≠ .null) : d.optional f (.optional encode x) = .ok x := by
  cases x with
  | none => rfl
  | some y =>
      have hsome : ∀ {v}, v ≠ .null → d f v = .ok y → d.optional f v = .ok (some y) := by
        intro v hv hread
        cases v with
        | null => exact absurd rfl hv
        | _ => exact map_eq_ok_iff.mpr ⟨y, hread, rfl⟩
      exact hsome (hnull y rfl) (h y rfl)

theorem optional_word64 (x : Option UInt64) :
    uint64.optional f (.optional .word64 x) = .ok x :=
  optional_optional (fun n _ => uint64_word64 n) fun _ _ => nofun

theorem optional_word32 (x : Option UInt32) :
    uint32.optional f (.optional .word32 x) = .ok x :=
  optional_optional (fun n _ => uint32_word32 n) fun _ _ => nofun

theorem optional_mac (x : Option Mac) : mac.optional f (.optional .mac x) = .ok x :=
  optional_optional (fun m _ => mac_mac m) fun _ _ => nofun

theorem list_map {xs : List α} (h : ∀ x ∈ xs, d f (encode x) = .ok x) :
    d.list f (.array (xs.map encode)) = .ok xs := by
  show (xs.map encode).mapM (d f) = .ok xs
  rw [mapM_eq_ok_iff, List.forall₂_map_left_iff, List.forall₂_same]
  exact h

theorem set_toList [Ord α] [Std.TransOrd α] [Std.LawfulEqOrd α] {s : OrderedSet α}
    (h : ∀ x ∈ s, d f (encode x) = .ok x) : d.set f (.array (s.toList.map encode)) = .ok s := by
  rw [set, list_map h]
  -- The elements come from a set, so adding them one by one gives the set again.
  exact congrArg Except.ok s.ofList_toList

theorem map_encode {m : OrderedMap String α} (h : ∀ e ∈ m.toList, d f (encode e.2) = .ok e.2) :
    d.map f (m.encode encode) = .ok m := by
  have hentries : (m.toList.map fun e => (e.1, encode e.2)).mapM
      (fun member => (d f member.2).map fun x => (member.1, x)) = .ok m.toList := by
    rw [mapM_eq_ok_iff, List.forall₂_map_left_iff, List.forall₂_same]
    intro e he
    exact map_eq_ok_iff.mpr ⟨e.2, h e he, rfl⟩
  rw [OrderedMap.encode, map, hentries]
  exact congrArg Except.ok m.ofList_toList

end Decoder

/-! ### Choices -/

theorem LinkState.decode_name (s : LinkState) : decode .json (.string s.name) = .ok s :=
  (reads _ s).mpr (.inl rfl)

theorem OperStatus.decode_name (s : OperStatus) : decode .json (.string s.name) = .ok s :=
  (reads _ s).mpr (.inl rfl)

theorem SessionState.decode_name (s : SessionState) : decode .json (.string s.name) = .ok s :=
  (reads _ s).mpr (.inl rfl)

theorem Synchronization.decode_name (s : Synchronization) :
    decode .json (.string s.name) = .ok s :=
  (reads _ s).mpr (.inl rfl)

/-! ### Records -/

namespace Schema

variable {s : Schema ρ} {ms : List (String × Value)} {m : String × Value} {steps : List (ρ → ρ)}

/-- The member is one of the fields and changes every record in this way. -/
def Takes (s : Schema ρ) (f : Dialect) (m : String × Value) (step : ρ → ρ) : Prop :=
  ∃ x, s.field? m.1 = some x ∧ ∀ r, x.read f m.2 r = .ok (step r)

theorem takes_optional {key name : String} {v : Value} {d : Decoder α} {put : α → ρ → ρ} {a : α}
    (hx : s.field? key = some (.optional name d put)) (ha : d f v = .ok a) :
    s.Takes f (key, v) (put a) :=
  ⟨_, hx, fun _ => map_eq_ok_iff.mpr ⟨a, ha, rfl⟩⟩

theorem takes_mandatory {key name : String} {v : Value} {d : Decoder α} {put : α → ρ → ρ} {a : α}
    (hx : s.field? key = some (.mandatory name d put)) (ha : d f v = .ok a) :
    s.Takes f (key, v) (put a) :=
  ⟨_, hx, fun _ => map_eq_ok_iff.mpr ⟨a, ha, rfl⟩⟩

/-- Members change the record one after the other. -/
theorem readMembers_eq_ok (h : List.Forall₂ (s.Takes f) ms steps) (r : ρ) :
    s.readMembers f ms r = .ok (steps.foldl (fun r step => step r) r) := by
  induction h generalizing r with
  | nil => rfl
  | @cons m step ms steps hm _ ih =>
      obtain ⟨x, hx, hread⟩ := hm
      rw [readMembers, hx]
      show x.read f m.2 r >>= s.readMembers f ms = _
      rw [hread]
      exact ih (step r)

/-- So a record is read from members that change the initial record into it. -/
theorem decode_object_eq_ok (h : List.Forall₂ (s.Takes f) ms steps)
    (hmissing : s.missing? ms = none) {r : ρ}
    (hr : steps.foldl (fun r step => step r) s.initial = r) :
    s.decode f (.object ms) = .ok r := by
  refine bind_eq_ok_iff.mpr ⟨_, readMembers_eq_ok h s.initial, ?_⟩
  rw [hmissing, hr]
  rfl

end Schema

/-! ### Order -/

namespace Value

variable {encode : α → Value}

/-- An object is ordered if its keys are and the values of its members. -/
theorem ordered_object {ms : List (String × Value)} (keys : List String)
    (hkeys : keys.Pairwise fun a b => compare a b = .lt) (hms : ms.map Prod.fst = keys)
    (h : MembersOrdered ms) : (object ms).Ordered :=
  ⟨.of_keys (hms ▸ hkeys), h⟩

theorem ordered_array_map (h : ∀ x, (encode x).Ordered) (xs : List α) :
    (array (xs.map encode)).Ordered := by
  show AllOrdered (xs.map encode)
  rw [allOrdered_iff, List.forall_mem_map]
  exact fun x _ => h x

theorem ordered_texts (xs : List String) : (array (xs.map string)).Ordered :=
  ordered_array_map (show ∀ s, (string s).Ordered from fun _ => trivial) xs

theorem ordered_optional_mac (x : Option Mac) : (optional mac x).Ordered := by
  cases x <;> exact trivial

theorem ordered_rate (r : Rate) : r.encode.Ordered := by
  rw [Rate.encode]
  split <;> exact trivial

end Value

end Convergence
