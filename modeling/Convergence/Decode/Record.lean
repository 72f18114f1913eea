import Convergence.Decode.Basic

/-!
# `Convergence.Decode.Record`: decoding records

A `Schema` lists the fields of a record type in the order of their declaration.  A record stands
as an object with its fields as members, or as an array with its fields in order.  Fields that are
not written keep the value they have in the initial record, unless they are required.
-/

set_option autoImplicit false

namespace Convergence

/-- A field of a record: how a value that stands for it changes the record. -/
structure Field (ρ : Type) where
  name : String
  required : Bool
  read : Dialect → Value → ρ → Except DecodeError ρ

namespace Field

variable {ρ α : Type}

/-- A field that keeps its initial value when it is not written. -/
def optional (name : String) (d : Decoder α) (put : α → ρ → ρ) : Field ρ where
  name
  required := false
  read f v r := (d f v).map fun x => put x r

/-- A field that must be written. -/
def mandatory (name : String) (d : Decoder α) (put : α → ρ → ρ) : Field ρ where
  name
  required := true
  read f v r := (d f v).map fun x => put x r

end Field

/-- The layout of a record type. -/
structure Schema (ρ : Type) where
  name : String
  fields : List (Field ρ)
  initial : ρ
  /-- Members that are no field are refused. -/
  strict : Bool

namespace Schema

variable {ρ : Type}

/-- The field of that name. -/
def field? (s : Schema ρ) (name : String) : Option (Field ρ) :=
  s.fields.find? fun x => x.name == name

/-- The names of the fields, in order. -/
def names (s : Schema ρ) : List String := s.fields.map (·.name)

/-- Reads members one after the other. -/
def readMembers (s : Schema ρ) (f : Dialect) : List (String × Value) → ρ → Except DecodeError ρ
  | [], r => .ok r
  | (k, v) :: ms, r =>
    match s.field? k with
    | some x => do s.readMembers f ms (← x.read f v r)
    | none => if s.strict then .error (.unknownField k s.names) else s.readMembers f ms r

/-- The first required field that is not among the members. -/
def missing? (s : Schema ρ) (ms : List (String × Value)) : Option (Field ρ) :=
  s.fields.find? fun x => x.required && !ms.any fun m => m.1 == x.name

/-- The record that an object stands for. -/
def ofMembers (s : Schema ρ) (f : Dialect) (ms : List (String × Value)) : Except DecodeError ρ := do
  let r ← s.readMembers f ms s.initial
  match s.missing? ms with
  | some x => throw (.missingField x.name)
  | none => return r

/-- Reads elements into the fields from place `i` on. -/
def readItems (s : Schema ρ) (f : Dialect) :
    (i : Nat) → List (Field ρ) → List Value → ρ → Except DecodeError ρ
  | i, [], items, r =>
    if items ≠ [] ∧ ¬f.surplus then .error (.tooManyElements (i + items.length)) else .ok r
  | i, x :: xs, [], r =>
    if x.required then
      .error (.tooFewElements i
        ("struct " ++ s.name ++ " with " ++ natText s.fields.length ++ " elements"))
    else s.readItems f (i + 1) xs [] r
  | i, x :: xs, v :: vs, r => do s.readItems f (i + 1) xs vs (← x.read f v r)

/-- Reads a record. -/
def decode (s : Schema ρ) : Decoder ρ := fun f v =>
  match v with
  | .object ms => s.ofMembers f ms
  | .array items => s.readItems f 0 s.fields items s.initial
  | v => .error (.wrongType v.found ("struct " ++ s.name))

end Schema

end Convergence
