import Convergence.Document
import Convergence.Expectation.Codec
import Convergence.Proofs.Collections
import Convergence.Proofs.Mac.Grammar
import Convergence.Proofs.Number.Digits
import Mathlib.Data.String.Basic

/-!
# `Convergence.Proofs.Mac.Canonical`: the written form is canonical and keeps the order

Of all texts that are read as an address, the written form is the one with colons and small letters
(`Mac.text_eq_canonical`).  Addresses are compared octet by octet, their written forms character by
character, and their values as numbers; it is the same order each time (`Mac.compare_text`,
`Mac.compare_value`), because every octet is written in two digits and the digits stand in the order
of their values among the characters.  `Mac.canonical_and_ordered` puts both together and draws the
conclusion for the sets of an expectation.
-/

set_option autoImplicit false

namespace Convergence

/-! ### Order -/

/-- What keeps the strict order keeps the order. -/
theorem compare_of_lt {α β : Type} [Ord α] [Std.OrientedOrd α] [Std.LawfulEqOrd α] [Ord β]
    [Std.OrientedOrd β] {g : α → β} (h : ∀ a b, compare a b = .lt → compare (g a) (g b) = .lt)
    (a b : α) : compare (g a) (g b) = compare a b := by
  cases hab : compare a b with
  | lt => exact h a b hab
  | eq =>
      rw [Std.LawfulEqOrd.eq_of_compare hab]
      exact Std.ReflCmp.compare_self
  | gt => exact Std.OrientedCmp.gt_of_lt (h b a (Std.OrientedCmp.lt_of_gt hab))

/-- The first digit counts for as many units as there are numbers that the other digits write. -/
theorem ofDigits_cons (base d : Nat) (ds : List Nat) :
    ofDigits base (d :: ds) = d * base ^ ds.length + ofDigits base ds := by
  rw [ofDigits_eq, ofDigits_eq, List.reverse_cons, Nat.ofDigits_append, Nat.ofDigits_singleton,
    List.length_reverse, Nat.add_comm, Nat.mul_comm]

/-- Digits write less than there are such digits. -/
theorem ofDigits_lt_pow {base : Nat} (hbase : 1 < base) {ds : List Nat} (h : ∀ d ∈ ds, d < base) :
    ofDigits base ds < base ^ ds.length := by
  rw [ofDigits_eq, ← List.length_reverse]
  exact Nat.ofDigits_lt_base_pow_length hbase fun d hd => h d (List.mem_reverse.mp hd)

namespace Mac

/-- Octet by octet, the first difference decides. -/
theorem compare_octets_cons (o p : UInt8) (os ps : List UInt8) :
    compare (o :: os) (p :: ps) = .lt ↔ o < p ∨ o = p ∧ compare os ps = .lt := by
  show List.compareLex compare (o :: os) (p :: ps) = .lt ↔ _
  rw [List.compareLex_cons_cons, Ordering.then_eq_lt, Std.LawfulLTCmp.eq_lt_iff_lt,
    Std.LawfulEqOrd.compare_eq_iff_eq]
  rfl

/-! ### Numbers -/

/-- The address as one number of 48 bits, its first octet being the highest. -/
def value (m : Mac) : Nat := ofDigits 256 (m.octets.map UInt8.toNat)

/-- Octets that come first make up the smaller number. -/
theorem ofDigits_octets_lt {os ps : List UInt8} (hlength : os.length = ps.length)
    (h : compare os ps = .lt) :
    ofDigits 256 (os.map UInt8.toNat) < ofDigits 256 (ps.map UInt8.toNat) := by
  induction os generalizing ps with
  | nil =>
      rw [List.length_eq_zero_iff.mp hlength.symm] at h
      cases h
  | cons o os ih =>
      obtain ⟨p, ps, rfl⟩ := List.exists_cons_of_length_eq_add_one hlength.symm
      replace hlength : os.length = ps.length := Nat.succ.inj hlength
      rw [List.map_cons, List.map_cons, ofDigits_cons, ofDigits_cons, List.length_map,
        List.length_map, hlength]
      rcases (compare_octets_cons o p os ps).mp h with hlt | ⟨rfl, hlt⟩
      · -- What the other octets write does not make up for one unit of the first one.
        have hrest : ofDigits 256 (os.map UInt8.toNat) < 256 ^ ps.length := by
          rw [← hlength, ← List.length_map UInt8.toNat]
          refine ofDigits_lt_pow (by decide) ?_
          rw [List.forall_mem_map]
          exact fun o _ => o.toNat_lt
        calc
          o.toNat * 256 ^ ps.length + ofDigits 256 (os.map UInt8.toNat)
            < (o.toNat + 1) * 256 ^ ps.length := by
              rw [Nat.succ_mul]
              exact Nat.add_lt_add_left hrest _
          _ ≤ p.toNat * 256 ^ ps.length :=
              Nat.mul_le_mul_right _ (UInt8.lt_iff_toNat_lt.mp hlt)
          _ ≤ p.toNat * 256 ^ ps.length + ofDigits 256 (ps.map UInt8.toNat) :=
              Nat.le_add_right _ _
      · exact Nat.add_lt_add_left (ih hlength hlt) _

/-- The order of addresses is that of their numbers. -/
theorem compare_value (m n : Mac) : compare m.value n.value = compare m n :=
  compare_of_lt (g := value) (fun _ _ h => Nat.compare_eq_lt.mpr (ofDigits_octets_lt rfl h)) m n

/-! ### Texts -/

/-- The two digits of an octet. -/
theorem group_eq (o : UInt8) :
    group o = [Nat.digitChar (o.toNat / 16), Nat.digitChar (o.toNat % 16)] := by
  have hall : ∀ n < 256,
      paddedDigits 16 2 n = [Nat.digitChar (n / 16), Nat.digitChar (n % 16)] := by decide +kernel
  exact hall o.toNat o.toNat_lt

/-- Letters come after digits, and each of them in the order of its value. -/
theorem digitChar_lt {a b : Nat} (hb : b < 16) (h : a < b) : Nat.digitChar a < Nat.digitChar b := by
  have hall : ∀ b < 16, ∀ a < b, Nat.digitChar a < Nat.digitChar b := by decide
  exact hall b hb a h

/-- The digits of the smaller octet come first, whatever stands behind them. -/
theorem group_append_lt {o p : UInt8} (h : o < p) (cs ds : List Char) :
    group o ++ cs < group p ++ ds := by
  rw [group_eq, group_eq]
  show _ :: _ :: cs < _ :: _ :: ds
  rw [List.cons_lt_cons_iff, List.cons_lt_cons_iff]
  have hlt := UInt8.lt_iff_toNat_lt.mp h
  have hp := p.toNat_lt
  rcases Nat.lt_or_ge (o.toNat / 16) (p.toNat / 16) with hhigh | hhigh
  · exact .inl (digitChar_lt (by omega) hhigh)
  · -- With the same first digit, the second one decides.
    have heq : o.toNat / 16 = p.toNat / 16 := by omega
    refine .inr ⟨congrArg Nat.digitChar heq, .inl (digitChar_lt (by omega) ?_)⟩
    omega

/-- Octets that come first are written as the smaller text. -/
theorem joinWith_groups_lt {os ps : List UInt8} (hlength : os.length = ps.length)
    (h : compare os ps = .lt) :
    Text.joinWith ':' (os.map group) < Text.joinWith ':' (ps.map group) := by
  induction os generalizing ps with
  | nil =>
      rw [List.length_eq_zero_iff.mp hlength.symm] at h
      cases h
  | cons o os ih =>
      obtain ⟨p, ps, rfl⟩ := List.exists_cons_of_length_eq_add_one hlength.symm
      replace hlength : os.length = ps.length := Nat.succ.inj hlength
      have hcases := (compare_octets_cons o p os ps).mp h
      cases os with
      | nil =>
          -- The last group has no colon behind it.
          obtain rfl := List.length_eq_zero_iff.mp hlength.symm
          rcases hcases with hlt | ⟨-, hlt⟩
          · show group o < group p
            rw [← List.append_nil (group o), ← List.append_nil (group p)]
            exact group_append_lt hlt [] []
          · cases hlt
      | cons o' os =>
          obtain ⟨p', ps, rfl⟩ := List.exists_cons_of_length_eq_add_one hlength.symm
          show group o ++ ':' :: Text.joinWith ':' ((o' :: os).map group) <
            group p ++ ':' :: Text.joinWith ':' ((p' :: ps).map group)
          rcases hcases with hlt | ⟨rfl, hlt⟩
          · exact group_append_lt hlt _ _
          · refine List.append_left_lt (List.cons_lt_cons_iff.mpr (.inr ⟨rfl, ?_⟩))
            exact ih hlength hlt

/-- The order of addresses is that of their written forms. -/
theorem compare_text (m n : Mac) : compare m.text n.text = compare m n := by
  refine compare_of_lt (g := text) (fun m n h => ?_) m n
  rw [Std.LawfulLTCmp.eq_lt_iff_lt, String.lt_iff_toList_lt, text, text, String.toList_ofList,
    String.toList_ofList]
  exact joinWith_groups_lt rfl h

/-! ### Canonical form -/

/-- A colon for a hyphen, and the small letter for a capital one. -/
def canonicalChar (c : Char) : Char := if c = '-' then ':' else c.toLower

/-- The text with colons for hyphens and small letters for capital ones. -/
def canonical (s : String) : String := String.ofList (s.toList.map canonicalChar)

/-- A digit of either case becomes the digit that its value is written as. -/
theorem canonicalChar_of_writesHexDigit {c : Char} {n : Nat} (h : WritesHexDigit c n) :
    canonicalChar c = Nat.digitChar n := by
  have hall : ∀ k < 128, ∀ n < 16, hexDigit? (Char.ofNat k) = some n →
      canonicalChar (Char.ofNat k) = Nat.digitChar n := by decide +kernel
  have hc := hall c.toNat h.lt.2 n h.lt.1
  rw [Char.ofNat_toNat] at hc
  exact hc (hexDigit?_eq_some_iff.mpr h)

/-- So a group becomes the one that its octet is written as. -/
theorem WritesOctet.map_canonicalChar {group : List Char} {o : UInt8} (h : WritesOctet group o) :
    group.map canonicalChar = Mac.group o := by
  obtain ⟨x, y, high, low, rfl, hx, hy, ho⟩ := h
  have hlow := hy.lt.1
  rw [group_eq, show o.toNat / 16 = high by omega, show o.toNat % 16 = low by omega]
  show [canonicalChar x, canonicalChar y] = _
  rw [canonicalChar_of_writesHexDigit hx, canonicalChar_of_writesHexDigit hy]

/-- Changing the characters of a text changes those of its parts and the separators. -/
theorem map_joinWith (g : Char → Char) (sep : Char) (parts : List (List Char)) :
    (Text.joinWith sep parts).map g = Text.joinWith (g sep) (parts.map (List.map g)) := by
  induction parts with
  | nil => rfl
  | cons part parts ih =>
      cases parts with
      | nil => rfl
      | cons next parts =>
          show (part ++ sep :: Text.joinWith sep (next :: parts)).map g = _
          rw [List.map_append, List.map_cons, ih]
          rfl

/-- An address is written as the canonical form of every text that it is read from. -/
theorem text_eq_canonical {s : String} {m : Mac} (h : IsWritten s m) : m.text = canonical s := by
  obtain ⟨sep, groups, hsep, htext, hgroups⟩ := h
  have hcolon : canonicalChar sep = ':' := by rcases hsep with rfl | rfl <;> rfl
  have hmap : groups.map (List.map canonicalChar) = m.octets.map group := by
    rw [← List.forall₂_eq_eq_eq, List.forall₂_map_left_iff, List.forall₂_map_right_iff]
    exact hgroups.imp fun _ _ ho => ho.map_canonicalChar
  rw [canonical, htext, map_joinWith, hcolon, hmap, text]

/-- **Canonical and in order.**  An address reads back from its written form, which is the canonical
form of every text that is read as the address, so two such texts mean the same address exactly if
they have the same canonical form.  Addresses, their written forms and their numbers have one order,
so it makes no difference whether addresses are put in order and then written, or written and then
put in order; the addresses of an expectation are written in that order. -/
theorem canonical_and_ordered :
    (∀ m, parse m.text = .ok m) ∧
      (∀ s m, parse s = .ok m → m.text = canonical s) ∧
      (∀ s t m n, parse s = .ok m → parse t = .ok n → (m = n ↔ canonical s = canonical t)) ∧
      (∀ m n : Mac, compare m.text n.text = compare m n ∧ compare m.value n.value = compare m n) ∧
      (∀ ms : List Mac,
        (OrderedSet.ofList (ms.map text)).toList = (OrderedSet.ofList ms).toList.map text) ∧
      ∀ (rate : Rate → Value) (e : Expectation),
        (e.encode rate).find? ["ipv4-neighbor-macs"] = some (.array
          ((OrderedSet.ofList (e.ipv4Neighbors.toList.map text)).toList.map .string)) ∧
        (e.encode rate).find? ["ipv6-neighbor-macs"] = some (.array
          ((OrderedSet.ofList (e.ipv6Neighbors.toList.map text)).toList.map .string)) := by
  have hcanonical : ∀ s m, parse s = .ok m → m.text = canonical s := fun s m h =>
    text_eq_canonical (((parse_eq_iff s).1 m).mp h)
  have hsets : ∀ ms : List Mac,
      (OrderedSet.ofList (ms.map text)).toList = (OrderedSet.ofList ms).toList.map text :=
    OrderedSet.toList_ofList_map compare_text
  refine ⟨parse_text, hcanonical, fun s t m n hs ht => ?_, fun m n => ?_, hsets, fun rate e => ?_⟩
  · rw [← hcanonical s m hs, ← hcanonical t n ht]
    constructor
    · intro h
      rw [h]
    · intro h
      -- The written form tells which address it is.
      exact Except.ok.inj ((parse_text m).symm.trans (h ▸ parse_text n))
  · exact ⟨compare_text m n, compare_value m n⟩
  · rw [hsets, hsets, OrderedSet.ofList_toList, OrderedSet.ofList_toList, List.map_map,
      List.map_map]
    exact ⟨rfl, rfl⟩

/-- Hyphens and capital letters. -/
theorem canonical_and_ordered_hyphens :
    parse "00-11-22-AA-bb-CC" = .ok ⟨0x00, 0x11, 0x22, 0xaa, 0xbb, 0xcc⟩ ∧
      (⟨0x00, 0x11, 0x22, 0xaa, 0xbb, 0xcc⟩ : Mac).text = canonical "00-11-22-AA-bb-CC" ∧
      canonical "00-11-22-AA-bb-CC" = "00:11:22:aa:bb:cc" :=
  ⟨rfl, canonical_and_ordered.2.1 _ _ rfl, rfl⟩

end Mac

end Convergence
