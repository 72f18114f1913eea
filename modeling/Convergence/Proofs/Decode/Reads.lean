import Convergence.Proofs.Decode.Written
import Convergence.Telemetry.Rate
import Convergence.Telemetry.Status

/-!
# `Convergence.Proofs.Decode.Reads`: what decoders read, and what they refuse

`Decoder.Reads` says that a decoder reads a datum from exactly those values that write it, so that
every other value is refused.  What writes a datum is said without the decoder: a counter is written
as the whole number it is (`Value.WritesWord64`), a choice by its name (`Value.WritesName`), a rate
as a number that it is nearest to (`Value.WritesRate`).
-/

set_option autoImplicit false

namespace Convergence

/-! ### What writes a datum -/

namespace Value

variable {α : Type}

/-- The value writes the counter of 64 bits. -/
def WritesWord64 (v : Value) (n : UInt64) : Prop := v = .int n.toNat

/-- The value writes the counter of 32 bits. -/
def WritesWord32 (v : Value) (n : UInt32) : Prop := v = .int n.toNat

/-- The value is a number, and the rate is the nearest one to it. -/
def WritesRate (v : Value) (r : Rate) : Prop :=
  (∃ n, v = .int n ∧ r = .ofInt n) ∨ ∃ x, v = .float x ∧ r = .ofFloat x

/-- The value writes the choice by its name, which may also be the only key of an object that holds
null. -/
def WritesName (name : α → String) (v : Value) (x : α) : Prop :=
  v = .string (name x) ∨ v = .object [(name x, .null)]

/-- The value is a text that can be read as the link-layer address. -/
def WritesMac (v : Value) (m : Mac) : Prop := ∃ s, v = .string s ∧ Mac.parse s = .ok m

end Value

namespace Decoder

variable {α : Type} {f : Dialect} {d : Decoder α} {writes : Value → α → Prop} {v : Value}

/-- The decoder reads a datum from the values that write it, and from no others. -/
def Reads (d : Decoder α) (f : Dialect) (writes : Value → α → Prop) : Prop :=
  ∀ v x, d f v = .ok x ↔ writes v x

/-! ### Numbers, texts and truth values -/

theorem reads_bool : bool.Reads f Value.WritesBool := by
  intro v b
  refine ⟨writesBool_of_bool, ?_⟩
  rintro rfl
  rfl

theorem reads_string : string.Reads f Value.WritesString := by
  intro v s
  refine ⟨writesString_of_string, ?_⟩
  rintro rfl
  rfl

/-- A whole number is read if it lies between the bounds. -/
theorem int_eq_ok_iff {low high n : Int} {expected : String} :
    int low high expected f v = .ok n ↔ v = .int n ∧ low ≤ n ∧ n ≤ high := by
  refine ⟨eq_int_of_int, ?_⟩
  rintro ⟨rfl, hrange⟩
  exact if_pos hrange

theorem reads_word64 (expected : String) : (word64 expected).Reads f Value.WritesWord64 := by
  intro v n
  rw [word64, map_eq_ok_iff]
  simp only [int_eq_ok_iff]
  constructor
  · rintro ⟨m, ⟨rfl, hlow, hhigh⟩, rfl⟩
    refine congrArg Value.int ?_
    rw [UInt64.toNat_ofNat_of_lt' (by rw [UInt64.size]; omega), Int.toNat_of_nonneg hlow]
  · -- The bounds are those of the type, so no counter lies outside.
    rintro rfl
    have hlt := n.toNat_lt
    exact ⟨_, ⟨rfl, by omega, by omega⟩, UInt64.ofNat_toNat⟩

theorem reads_uint64 : uint64.Reads f Value.WritesWord64 := reads_word64 _

theorem reads_size : size.Reads f Value.WritesWord64 := reads_word64 _

theorem reads_uint32 : uint32.Reads f Value.WritesWord32 := by
  intro v n
  rw [uint32, map_eq_ok_iff]
  simp only [int_eq_ok_iff]
  constructor
  · rintro ⟨m, ⟨rfl, hlow, hhigh⟩, rfl⟩
    refine congrArg Value.int ?_
    rw [UInt32.toNat_ofNat_of_lt' (by rw [UInt32.size]; omega), Int.toNat_of_nonneg hlow]
  · rintro rfl
    have hlt := n.toNat_lt
    exact ⟨_, ⟨rfl, by omega, by omega⟩, UInt32.ofNat_toNat⟩

theorem reads_rate : rate.Reads f Value.WritesRate := by
  intro v r
  constructor
  · intro h
    cases v with
    | int n => cases h; exact .inl ⟨n, rfl, rfl⟩
    | float x => cases h; exact .inr ⟨x, rfl, rfl⟩
    | _ => cases h
  · rintro (⟨n, rfl, rfl⟩ | ⟨x, rfl, rfl⟩) <;> rfl

theorem reads_mac : mac.Reads f Value.WritesMac := by
  intro v m
  rw [mac, bind_eq_ok_iff]
  simp only [mapError_eq_ok_iff, reads_string v]
  rfl

/-! ### Choices -/

/-- A choice is read if every name stands for one choice. -/
theorem reads_choice {choices : List (String × α)} {name : α → String}
    (hnames : ∀ e ∈ choices, name e.2 = e.1) (hchoices : ∀ x, choices.lookup (name x) = some x) :
    (choice choices).Reads .json (Value.WritesName name) := by
  intro v x
  constructor
  · intro h
    rcases writesChoice_of_choice hnames h with rfl | ⟨content, rfl⟩
    · exact .inl rfl
    · refine .inr ?_
      -- The only content that is taken is null.
      obtain ⟨y, -, hunit⟩ := bind_eq_ok_iff.mp h
      cases content with
      | null => rfl
      | _ => cases hunit
  · rintro (rfl | rfl)
    · simp only [choice, hchoices]
    · simp only [choice, hchoices]
      rfl

end Decoder

theorem LinkState.reads : decode.Reads .json (Value.WritesName name) :=
  Decoder.reads_choice (by decide) fun x => by cases x <;> rfl

theorem OperStatus.reads : decode.Reads .json (Value.WritesName name) :=
  Decoder.reads_choice (by decide) fun x => by cases x <;> rfl

theorem SessionState.reads : decode.Reads .json (Value.WritesName name) :=
  Decoder.reads_choice (by decide) fun x => by cases x <;> rfl

theorem Synchronization.reads : decode.Reads .json (Value.WritesName name) :=
  Decoder.reads_choice (by decide) fun x => by cases x <;> rfl

end Convergence
