import Convergence.Number.Decimal
import Convergence.Text.Split

/-!
# `Convergence.Address`: network addresses

Version 4 addresses are four decimal numbers between points, version 6 addresses eight groups of
up to four hexadecimal digits between colons.  Two colons stand for at least one group of zeros,
and the last two groups may be written as a version 4 address.
-/

set_option autoImplicit false

namespace Convergence

/-- A network address: four octets or eight groups of sixteen bits. -/
inductive Address where
  | v4 (octets : Vector UInt8 4)
  | v6 (groups : Vector UInt16 8)
  deriving DecidableEq, Repr

namespace Address

instance : Inhabited Address := ⟨v4 (.replicate 4 0)⟩

/-! ### Reading -/

/-- The digits at the front of a text and what follows them. -/
def span (value? : Char → Option Nat) : List Char → List Nat × List Char
  | [] => ([], [])
  | c :: cs =>
    match value? c with
    | none => ([], c :: cs)
    | some d =>
      let (ds, rest) := span value? cs
      (d :: ds, rest)

/-- A decimal number of one to three digits up to 255, without a leading zero. -/
def octet? (cs : List Char) : Option (UInt8 × List Char) :=
  let (ds, rest) := span digit? cs
  let n := ofDigits 10 ds
  if ds = [] ∨ 3 < ds.length ∨ (ds.head? = some 0 ∧ 1 < ds.length) ∨ 255 < n then none
  else some (UInt8.ofNat n, rest)

/-- A hexadecimal number of one to four digits. -/
def group? (cs : List Char) : Option (UInt16 × List Char) :=
  let (ds, rest) := span hexDigit? cs
  if ds = [] ∨ 4 < ds.length then none else some (UInt16.ofNat (ofDigits 16 ds), rest)

/-- A character that has to stand at the front. -/
def expect? (c : Char) : List Char → Option (List Char)
  | [] => none
  | d :: cs => if d = c then some cs else none

/-- Four numbers between points. -/
def readV4? (cs : List Char) : Option (Vector UInt8 4 × List Char) := do
  let (a, cs) ← octet? cs
  let (b, cs) ← octet? (← expect? '.' cs)
  let (c, cs) ← octet? (← expect? '.' cs)
  let (d, cs) ← octet? (← expect? '.' cs)
  return (#v[a, b, c, d], cs)

/-- The two groups that hold four octets. -/
def groupsOf (o : Vector UInt8 4) : List UInt16 :=
  [.ofNat (256 * o[0].toNat + o[1].toNat), .ofNat (256 * o[2].toNat + o[3].toNat)]

/-- Groups as they were read. -/
structure Groups where
  groups : List UInt16
  /-- The last two were written as a version 4 address. -/
  mixed : Bool
  rest : List Char

/-- At most `limit` groups between colons, the first of them without a colon before it if
`first`.  A version 4 address counts as two and ends them. -/
def readGroups : (limit : Nat) → (first : Bool) → List Char → Groups
  | 0, _, cs => ⟨[], false, cs⟩
  | limit + 1, first, cs =>
    match if first then some cs else expect? ':' cs with
    | none => ⟨[], false, cs⟩
    | some after =>
      match if limit = 0 then none else readV4? after with
      | some (o, rest) => ⟨groupsOf o, true, rest⟩
      | none =>
        match group? after with
        | none => ⟨[], false, cs⟩
        | some (g, rest) =>
          let more := readGroups limit false rest
          ⟨g :: more.groups, more.mixed, more.rest⟩

/-- Exactly eight groups. -/
def ofGroups? (gs : List UInt16) : Option (Vector UInt16 8) :=
  if h : gs.length = 8 then some ⟨gs.toArray, by simpa using h⟩ else none

/-- Eight groups, or groups with two colons in the place of one or more zeros. -/
def readV6? (cs : List Char) : Option (Vector UInt16 8 × List Char) := do
  let head := readGroups 8 true cs
  match ofGroups? head.groups with
  | some gs => return (gs, head.rest)
  | none =>
    guard (¬head.mixed)
    let after ← expect? ':' (← expect? ':' head.rest)
    let tail := readGroups (7 - head.groups.length) true after
    let zeros := List.replicate (8 - head.groups.length - tail.groups.length) 0
    return (← ofGroups? (head.groups ++ zeros ++ tail.groups), tail.rest)

/-- The address that a text writes, of either version. -/
def parse? (s : String) : Option Address := do
  let (address, rest) ← match readV4? s.toList with
    | some (o, rest) => some (v4 o, rest)
    | none => (readV6? s.toList).map fun (gs, rest) => (v6 gs, rest)
  guard (rest = [])
  return address

/-! ### Writing -/

/-- Four numbers between points. -/
def octetsText (o : List UInt8) : List Char :=
  Text.joinWith '.' (o.map fun x => decimalDigits x.toNat)

/-- Groups between colons, in lower case and without leading zeros. -/
def groupsText (gs : List UInt16) : List Char :=
  Text.joinWith ':' (gs.map fun g => Nat.toDigits 16 g.toNat)

/-- The first of the longest runs of zeros: its start and its length.  `current` is the length of
the run that ends before place `i`. -/
def longestZeros : (gs : List UInt16) → (i current : Nat) → (best : Nat × Nat) → Nat × Nat
  | [], _, _, best => best
  | g :: gs, i, current, best =>
    if g = 0 then
      let n := current + 1
      longestZeros gs (i + 1) n (if best.2 < n then (i + 1 - n, n) else best)
    else longestZeros gs (i + 1) 0 best

/-- The written form.  Two colons replace the longest run of zeros, if it has two groups or more;
an address of version 4 inside one of version 6 keeps its points. -/
def text : Address → String
  | v4 o => String.ofList (octetsText o.toList)
  | v6 gs =>
    String.ofList <| match gs.toList with
      | [0, 0, 0, 0, 0, 0xFFFF, x, y] =>
        "::ffff:".toList ++
          octetsText [(x / 256).toUInt8, x.toUInt8, (y / 256).toUInt8, y.toUInt8]
      | gs =>
        let (start, n) := longestZeros gs 0 0 (0, 0)
        if 1 < n then
          groupsText (gs.take start) ++ [':', ':'] ++ groupsText (gs.drop (start + n))
        else groupsText gs

end Address

end Convergence
