import Convergence.Decode.Basic

/-!
# `Convergence.Telemetry.Rate`: frame rates

Rates are 32-bit floats.  They are read from any number, which is rounded to the nearest rate, and
written as the number they are; NaN and the infinities have no number and are written as null.
-/

set_option autoImplicit false

namespace Convergence

/-- Frames per second. -/
structure Rate where
  value : BinaryFloat
  fits : value.Fits .single
  deriving DecidableEq

namespace Rate

/-- No frames. -/
def zero : Rate := ⟨.zero, .inl ⟨rfl, rfl⟩⟩

instance : Inhabited Rate := ⟨zero⟩

/-- The rate nearest to a number. -/
def ofFloat (x : BinaryFloat) : Rate :=
  ⟨x.narrow .single, BinaryFloat.narrow_fits .single (by decide) x⟩

/-- The rate nearest to a whole number. -/
def ofInt (n : Int) : Rate :=
  ⟨.ofInt .single n, BinaryFloat.round_fits .single (by decide) _ _ _⟩

/-- The rates are the same number. -/
def eqv (r s : Rate) : Bool := r.value.eqv s.value

/-- The fewest digits that read back, never with an exponent. -/
def text (r : Rate) : String := r.value.plainText .single

/-- The rate as a number. -/
def encode (r : Rate) : Value := if r.value.isFinite then .float r.value else .null

/-- The rate as a text. -/
def spell (r : Rate) : Value := .string r.text

theorem ofFloat_value (r : Rate) : ofFloat r.value = r := by
  cases r with
  | mk x h => simp [ofFloat, BinaryFloat.narrow_of_fits .single h]

end Rate

/-- Reads a rate from any number. -/
def Decoder.rate : Decoder Rate := fun _ v =>
  match v with
  | .int n => .ok (.ofInt n)
  | .float x => .ok (.ofFloat x)
  | v => .error (.wrongType v.found "f32")

end Convergence
