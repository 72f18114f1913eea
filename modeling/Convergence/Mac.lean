import Convergence.Number.Decimal
import Convergence.Text.Split

/-!
# `Convergence.Mac`: link-layer addresses

Six octets, written as six groups of two hexadecimal digits between colons, in lower case.
Reading also takes hyphens and upper case, but one kind of separator throughout.
-/

set_option autoImplicit false

namespace Convergence

/-- A 48-bit link-layer address, its first octet first. -/
structure Mac where
  a : UInt8
  b : UInt8
  c : UInt8
  d : UInt8
  e : UInt8
  f : UInt8
  deriving DecidableEq, Repr, Inhabited

/-- The text is not a link-layer address. -/
structure InvalidMac where
  text : String
  deriving DecidableEq, Repr

/-- The text of the error. -/
def InvalidMac.message (e : InvalidMac) : String := "invalid MAC address: " ++ e.text

namespace Mac

/-- The octets in order. -/
def octets (m : Mac) : List UInt8 := [m.a, m.b, m.c, m.d, m.e, m.f]

/-- The address of six octets. -/
def ofOctets? : List UInt8 → Option Mac
  | [a, b, c, d, e, f] => some ⟨a, b, c, d, e, f⟩
  | _ => none

theorem octets_inj {m n : Mac} (h : m.octets = n.octets) : m = n := by
  cases m
  cases n
  simpa [octets] using h

/-- Addresses are compared octet by octet. -/
instance : Ord Mac := ⟨fun m n => compare m.octets n.octets⟩

instance : Std.TransOrd Mac where
  eq_swap {m n} := show compare m.octets n.octets = (compare n.octets m.octets).swap from
    Std.OrientedCmp.eq_swap
  isLE_trans {l _ n} h k := show (compare l.octets n.octets).isLE from Std.TransCmp.isLE_trans h k

instance : Std.LawfulEqOrd Mac where
  compare_self {m} := show compare m.octets m.octets = .eq from Std.ReflCmp.compare_self
  eq_of_compare h := octets_inj (Std.LawfulEqOrd.eq_of_compare h)

/-- One octet in two digits. -/
def group (o : UInt8) : List Char := paddedDigits 16 2 o.toNat

/-- The written form. -/
def text (m : Mac) : String :=
  String.ofList (Text.joinWith ':' (m.octets.map group))

/-- The byte is an ASCII hexadecimal digit. -/
def isHexByte (b : UInt8) : Bool := (hexDigit? (Char.ofUInt8 b)).isSome

/-- The octet that a group writes.  A group is two bytes long, and each of them is a digit, so that
the sign is refused which a number may have. -/
def ofGroup? (group : List Char) : Option UInt8 :=
  let bytes := group.flatMap String.utf8EncodeChar
  if bytes.length = 2 && bytes.all isHexByte then
    (unsigned? hexDigit? 16 256 group).map UInt8.ofNat
  else none

/-- The separator that a text uses: a colon if it holds one, else a hyphen. -/
def separator? (cs : List Char) : Option Char :=
  if ':' ∈ cs then some ':' else if '-' ∈ cs then some '-' else none

/-- The address that the characters write. -/
def ofChars? (cs : List Char) : Option Mac := do
  let sep ← separator? cs
  ofOctets? (← (Text.splitAt sep cs).mapM ofGroup?)

/-- Reads an address; a text that is none comes back in the error. -/
def parse (s : String) : Except InvalidMac Mac :=
  match ofChars? s.toList with
  | some m => .ok m
  | none => .error ⟨s⟩

end Mac

end Convergence
