import Convergence.Address
import Convergence.Decode.Error
import Convergence.Ordered.Map

/-!
# `Convergence.Decode.Basic`: decoding the parts of records

A decoder turns a value into a datum of a type or says why it cannot.  The data formats differ in
two liberties, which a `Dialect` names.
-/

set_option autoImplicit false

namespace Convergence

/-- The liberties of a data format. -/
structure Dialect where
  /-- An array may hold more elements than the record it stands for has fields. -/
  surplus : Bool
  /-- What the single member that names a choice may hold. -/
  isUnit : Value → Bool

namespace Dialect

/-- Values of JSON documents. -/
def json : Dialect where
  surplus := false
  isUnit
    | .null => true
    | _ => false

/-- Values of TOML documents, which have no null. -/
def toml : Dialect where
  surplus := true
  isUnit
    | .array [] | .object [] => true
    | _ => false

/-- Values of TOML tables whose keys belong to two records at once. -/
def shared : Dialect where
  surplus := true
  isUnit
    | .object [] => true
    | _ => false

end Dialect

/-- Reads a datum from a value of a data format. -/
abbrev Decoder (α : Type) := Dialect → Value → Except DecodeError α

namespace Decoder

variable {α : Type}

/-- A whole number from `low` up to `high`. -/
def int (low high : Int) (expected : String) : Decoder Int := fun _ v =>
  match v with
  | .int n => if low ≤ n ∧ n ≤ high then .ok n else .error (.outOfRange n expected)
  | v => .error (.wrongType v.found expected)

/-- An unsigned number of 64 bits. -/
def word64 (expected : String) : Decoder UInt64 := fun f v =>
  (int 0 18446744073709551615 expected f v).map fun n => UInt64.ofNat n.toNat

/-- A counter of 64 bits. -/
def uint64 : Decoder UInt64 := word64 "u64"

/-- A number of entries. -/
def size : Decoder UInt64 := word64 "usize"

/-- A counter of 32 bits. -/
def uint32 : Decoder UInt32 := fun f v =>
  (int 0 4294967295 "u32" f v).map fun n => UInt32.ofNat n.toNat

/-- A truth value. -/
def bool : Decoder Bool := fun _ v =>
  match v with
  | .bool b => .ok b
  | v => .error (.wrongType v.found "a boolean")

/-- A text. -/
def string : Decoder String := fun _ v =>
  match v with
  | .string s => .ok s
  | v => .error (.wrongType v.found "a string")

/-- A link-layer address in its written form. -/
def mac : Decoder Mac := fun f v => do
  (Mac.parse (← string f v)).mapError .invalidMac

/-- A network address in its written form. -/
def address : Decoder Address := fun _ v =>
  match v with
  | .string s =>
    match Address.parse? s with
    | some a => .ok a
    | none => .error .invalidAddress
  | v => .error (.wrongType v.found "IP address")

/-- A datum, or null for none. -/
def optional (d : Decoder α) : Decoder (Option α) := fun f v =>
  match v with
  | .null => .ok none
  | v => (d f v).map some

/-- The elements of an array, in order. -/
def list (d : Decoder α) : Decoder (List α) := fun f v =>
  match v with
  | .array items => items.mapM (d f)
  | v => .error (.wrongType v.found "a sequence")

/-- The distinct elements of an array. -/
def set [Ord α] [Std.TransOrd α] [Std.LawfulEqOrd α] (d : Decoder α) : Decoder (OrderedSet α) :=
  fun f v => (list d f v).map OrderedSet.ofList

/-- The members of an object, by key. -/
def map (d : Decoder α) : Decoder (OrderedMap String α) := fun f v =>
  match v with
  | .object ms =>
    (ms.mapM fun m => (d f m.2).map fun x => (m.1, x)).map OrderedMap.ofList
  | v => .error (.wrongType v.found "a map")

/-- One of several choices, by name.  The name may also be the only key of an object that holds
nothing more. -/
def choice (choices : List (String × α)) : Decoder α := fun f v =>
  let named (name : String) : Except DecodeError α :=
    match choices.lookup name with
    | some x => .ok x
    | none => .error (.unknownVariant name (choices.map (·.1)))
  match v with
  | .string name => named name
  | .object [(name, content)] => do
    let x ← named name
    if f.isUnit content then return x
    else throw (.wrongType content.found "unit")
  | .object _ => .error .notSingleKey
  | v => .error (.wrongType v.found "string or map")

end Decoder

end Convergence
