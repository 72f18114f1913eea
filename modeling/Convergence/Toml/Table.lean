import Convergence.Toml.Scalar

/-!
# `Convergence.Toml.Table`: tables that grow line by line

A document enters values into a tree of tables.  The rules on what may be defined twice depend on
how a table came to be: a table under a header may be opened once, a table that dotted keys have
made is closed to headers, and a value is never extended.  `assign`, `openTable` and `openItem` are
the three kinds of entry; each refuses a key that is taken.
-/

set_option autoImplicit false

namespace Convergence.Toml

/-- How a table came to be. -/
inductive Origin where
  /-- On the way to a table with a header. -/
  | implied
  /-- By a header of its own. -/
  | header
  /-- By dotted keys. -/
  | dotted
  deriving DecidableEq, Repr

/-- What stands under a key while the document is read. -/
inductive Node where
  | leaf (v : Value)
  | table (origin : Origin) (members : List (String × Node))
  /-- An array of tables, the last one first. -/
  | tables (items : List (List (String × Node)))
  deriving Inhabited

/-- The members of a table. -/
abbrev Members := List (String × Node)

/-- A dotted key. -/
structure Key where
  parents : List String
  name : String
  deriving DecidableEq, Repr

/-- Changes the members of the table that the keys lead to.  Tables that are not there are made on
the way; the last table of an array stands for the array.  Dotted keys do not lead into a table
with a header. -/
def alter (dotted : Bool) (change : Origin → Members → Except Error Members) :
    List String → Origin → Members → Except Error Members
  | [], origin, ms => change origin ms
  | k :: ks, _, ms =>
    match Entries.find? k ms with
    | none => do
      let origin := if dotted then .dotted else .implied
      return Entries.insert k (.table origin (← alter dotted change ks origin [])) ms
    | some (.table origin child) =>
      if dotted ∧ origin = .header then throw (.duplicateKey k)
      else do return Entries.insert k (.table origin (← alter dotted change ks origin child)) ms
    | some (.tables (child :: others)) => do
      return Entries.insert k (.tables ((← alter dotted change ks .header child) :: others)) ms
    | some _ => throw (.notTable k)

/-- Enters a value.  Dotted keys extend only tables that dotted keys have made. -/
def assign (key : Key) (v : Value) (ms : Members) : Except Error Members :=
  alter true (fun origin ms =>
    if key.parents ≠ [] ∧ origin ≠ .dotted ∨ (Entries.find? key.name ms).isSome then
      throw (.duplicateKey key.name)
    else return Entries.insert key.name (.leaf v) ms) key.parents .header ms

/-- Opens the table of a header. -/
def openTable (key : Key) (ms : Members) : Except Error Members :=
  alter false (fun _ ms =>
    match Entries.find? key.name ms with
    | none => return Entries.insert key.name (.table .header []) ms
    | some (.table .implied child) => return Entries.insert key.name (.table .header child) ms
    | some _ => throw (.duplicateKey key.name)) key.parents .header ms

/-- Opens the next table of an array. -/
def openItem (key : Key) (ms : Members) : Except Error Members :=
  alter false (fun _ ms =>
    match Entries.find? key.name ms with
    | none => return Entries.insert key.name (.tables [[]]) ms
    | some (.tables items) => return Entries.insert key.name (.tables ([] :: items)) ms
    | some _ => throw (.duplicateKey key.name)) key.parents .header ms

mutual

/-- The value of a finished tree. -/
def Node.value : Node → Value
  | .leaf v => v
  | .table _ members => .object (memberValues members)
  | .tables items => .array (tableValues items).reverse

/-- The values of members, under their keys. -/
def memberValues : Members → List (String × Value)
  | [] => []
  | (k, n) :: ms => (k, n.value) :: memberValues ms

/-- The values of tables. -/
def tableValues : List Members → List Value
  | [] => []
  | ms :: items => .object (memberValues ms) :: tableValues items

end

end Convergence.Toml
