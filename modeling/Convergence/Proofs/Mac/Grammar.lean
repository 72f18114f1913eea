import Convergence.Proofs.Mac
import Mathlib.Data.List.Forall2

/-!
# `Convergence.Proofs.Mac.Grammar`: which texts are link-layer addresses

A text is an address exactly if it consists of six groups of two hexadecimal digits with colons
between them, or with hyphens (`Mac.IsWritten`).  Reading does not say so in so many words.  It
looks for a colon before it looks for a hyphen, counts a group in bytes and not in characters, and
leaves the value of a group to a reader of numbers that would take a sign.

* `Mac.ofGroup?_eq_some_iff`: two bytes that are digits are two characters, neither a sign.
* `Mac.separator?_joinWith`: the digits are no separators, so the separator found is the one used.
* `Mac.parse_eq_iff`: what is read, and that every other text comes back in the error.
-/

set_option autoImplicit false

namespace Convergence

/-! ### Characters -/

/-- The character is an ASCII hexadecimal digit, of either case, with this value. -/
def WritesHexDigit (c : Char) (n : Nat) : Prop :=
  ('0' ≤ c ∧ c ≤ '9') ∧ n = c.toNat - '0'.toNat ∨
    ('a' ≤ c ∧ c ≤ 'f') ∧ n = c.toNat - 'a'.toNat + 10 ∨
    ('A' ≤ c ∧ c ≤ 'F') ∧ n = c.toNat - 'A'.toNat + 10

/-- Characters are compared by their numbers. -/
theorem char_between_iff {a b c : Char} :
    (a ≤ c ∧ c ≤ b) ↔ a.toNat ≤ c.toNat ∧ c.toNat ≤ b.toNat := Iff.rfl

theorem hexDigit?_eq_some_iff {c : Char} {n : Nat} :
    hexDigit? c = some n ↔ WritesHexDigit c n := by
  -- The three ranges do not meet, so it does not matter which is tried first.
  simp only [hexDigit?, WritesHexDigit, char_between_iff, Char.reduceToNat]
  split
  · rw [Option.some.injEq]
    omega
  · split
    · rw [Option.some.injEq]
      omega
    · split
      · rw [Option.some.injEq]
        omega
      · simp only [reduceCtorEq, false_iff]
        omega

theorem WritesHexDigit.lt {c : Char} {n : Nat} (h : WritesHexDigit c n) :
    n < 16 ∧ c.toNat < 128 := by
  simp only [WritesHexDigit, char_between_iff, Char.reduceToNat] at h
  omega

/-- No separator and no sign is a digit. -/
theorem WritesHexDigit.ne {c d : Char} {n : Nat} (h : WritesHexDigit c n)
    (hd : hexDigit? d = none) : c ≠ d := by
  rintro rfl
  rw [hexDigit?_eq_some_iff.mpr h] at hd
  cases hd

/-- A character is there twice, as it is or between the parts. -/
theorem Text.mem_joinWith {sep c : Char} {parts : List (List Char)} :
    c ∈ joinWith sep parts ↔ (∃ part ∈ parts, c ∈ part) ∨ c = sep ∧ 1 < parts.length := by
  induction parts with
  | nil => simp [joinWith]
  | cons part parts ih =>
      cases parts with
      | nil => simp [joinWith]
      | cons next parts =>
          have hlength : 1 < (part :: next :: parts).length := by simp
          show c ∈ part ++ sep :: joinWith sep (next :: parts) ↔ _
          rw [List.mem_append, List.mem_cons, ih]
          simp only [List.exists_mem_cons_iff, hlength, and_true]
          constructor
          · rintro (h | h | (h | h) | ⟨h, -⟩) <;> simp [h]
          · rintro ((h | h | h) | h) <;> simp [h]

/-- The elements are read one by one. -/
theorem mapM_eq_some_iff {α β : Type} {f : α → Option β} {xs : List α} {ys : List β} :
    xs.mapM f = some ys ↔ List.Forall₂ (fun x y => f x = some y) xs ys := by
  induction xs generalizing ys with
  | nil => simp [eq_comm]
  | cons x xs ih =>
      simp only [List.mapM_cons, bind, pure, Option.bind_eq_some_iff, ih, Option.some.injEq,
        List.forall₂_cons_left_iff]
      constructor
      · rintro ⟨y, hx, ys, hxs, rfl⟩
        exact ⟨y, ys, hx, hxs, rfl⟩
      · rintro ⟨y, ys, hx, hxs, rfl⟩
        exact ⟨y, hx, ys, hxs, rfl⟩

namespace Mac

/-! ### Groups -/

/-- The group consists of two hexadecimal digits that write the octet. -/
def WritesOctet (group : List Char) (o : UInt8) : Prop :=
  ∃ x y h l, group = [x, y] ∧ WritesHexDigit x h ∧ WritesHexDigit y l ∧ o.toNat = 16 * h + l

/-- An ASCII character is its only byte. -/
theorem ofUInt8_ofNat {c : Char} (h : c.val.toNat ≤ 127) :
    Char.ofUInt8 (UInt8.ofNat c.val.toNat) = c := by
  refine Char.ext (UInt32.toNat_inj.mp ?_)
  show (UInt8.ofNat c.val.toNat).toUInt32.toNat = _
  rw [UInt8.toNat_toUInt32, UInt8.toNat_ofNat']
  omega

/-- A digit is one byte, which is a digit. -/
theorem bytes_of_writesHexDigit {c : Char} {n : Nat} (h : WritesHexDigit c n) :
    ∃ b, String.utf8EncodeChar c = [b] ∧ isHexByte b = true := by
  have hsmall : c.val.toNat ≤ 127 := Nat.le_of_lt_succ h.lt.2
  refine ⟨UInt8.ofNat c.val.toNat, if_pos hsmall, ?_⟩
  rw [isHexByte, ofUInt8_ofNat hsmall, hexDigit?_eq_some_iff.mpr h]
  rfl

/-- A byte beyond ASCII is no digit. -/
theorem isHexByte_eq_false {n : Nat} (hlow : 128 ≤ n) (hhigh : n < 256) :
    isHexByte (UInt8.ofNat n) = false := by
  have hall : ∀ m < 128, isHexByte (UInt8.ofNat (128 + m)) = false := by decide +kernel
  have hm := hall (n - 128) (by omega)
  rwa [Nat.add_sub_cancel' hlow] at hm

/-- A character whose bytes are digits is a digit: the bytes of a character beyond ASCII lie beyond
ASCII, too. -/
theorem exists_writesHexDigit_of_bytes {c : Char}
    (h : ∀ b ∈ String.utf8EncodeChar c, isHexByte b = true) : ∃ n, WritesHexDigit c n := by
  have hfirst : ∀ {n : Nat} {bs : List UInt8}, String.utf8EncodeChar c = UInt8.ofNat n :: bs →
      n < 256 → n < 128 := by
    intro n bs hc hhigh
    by_contra hlow
    have hdigit := h (UInt8.ofNat n) (by rw [hc]; exact List.mem_cons_self)
    rw [isHexByte_eq_false (Nat.le_of_not_lt hlow) hhigh] at hdigit
    cases hdigit
  have hsmall : c.val.toNat ≤ 127 := by
    by_contra hlarge
    have hc : String.utf8EncodeChar c = _ := if_neg hlarge
    -- The first byte has its two highest bits set, however many bytes follow.
    split at hc
    · have := hfirst hc (by omega)
      omega
    · split at hc
      · have := hfirst hc (by omega)
        omega
      · have := hfirst hc (by omega)
        omega
  have hc : String.utf8EncodeChar c = [UInt8.ofNat c.val.toNat] := if_pos hsmall
  have hdigit := h (UInt8.ofNat c.val.toNat) (by rw [hc]; exact List.mem_cons_self)
  rw [isHexByte, ofUInt8_ofNat hsmall, Option.isSome_iff_exists] at hdigit
  obtain ⟨n, hn⟩ := hdigit
  exact ⟨n, hexDigit?_eq_some_iff.mp hn⟩

/-- Digits have as many bytes as they are characters. -/
theorem bytes_of_forall_writesHexDigit {cs : List Char} (h : ∀ c ∈ cs, ∃ n, WritesHexDigit c n) :
    (cs.flatMap String.utf8EncodeChar).length = cs.length ∧
      (cs.flatMap String.utf8EncodeChar).all isHexByte = true := by
  induction cs with
  | nil => exact ⟨rfl, rfl⟩
  | cons c cs ih =>
      obtain ⟨⟨n, hc⟩, hcs⟩ := List.forall_mem_cons.mp h
      obtain ⟨b, hbytes, hb⟩ := bytes_of_writesHexDigit hc
      obtain ⟨hlength, hall⟩ := ih hcs
      rw [List.flatMap_cons, hbytes, List.singleton_append, List.length_cons, List.all_cons,
        hlength, hall, hb]
      exact ⟨rfl, rfl⟩

/-- Two digits are read as the octet that they write. -/
theorem unsigned?_pair {x y : Char} {h l : Nat} (hx : WritesHexDigit x h)
    (hy : WritesHexDigit y l) : unsigned? hexDigit? 16 256 [x, y] = some (16 * h + l) := by
  have hplus : x ≠ '+' := hx.ne rfl
  have hbound : 16 * h + l < 256 := by
    have := hx.lt
    have := hy.lt
    omega
  have hdigits : [x, y].mapM hexDigit? = some [h, l] := by
    rw [mapM_eq_some_iff]
    exact .cons (hexDigit?_eq_some_iff.mpr hx) (.cons (hexDigit?_eq_some_iff.mpr hy) .nil)
  have hunsigned : unsigned? hexDigit? 16 256 [x, y] = digits? hexDigit? 16 256 [x, y] := by
    unfold unsigned?
    split
    · rename_i hds
      exact absurd (List.cons.inj hds).1 hplus
    · rfl
  rw [hunsigned, digits?, if_neg (List.cons_ne_nil _ _), hdigits]
  simp [ofDigits, hbound]

/-- A group is read if it consists of two digits, and as the octet that they write. -/
theorem ofGroup?_eq_some_iff {group : List Char} {o : UInt8} :
    ofGroup? group = some o ↔ WritesOctet group o := by
  rw [ofGroup?, Option.ite_none_right_eq_some, Bool.and_eq_true, decide_eq_true_eq, WritesOctet]
  constructor
  · rintro ⟨⟨hlength, hall⟩, hvalue⟩
    have hdigits : ∀ c ∈ group, ∃ n, WritesHexDigit c n := fun c hc =>
      exists_writesHexDigit_of_bytes fun b hb =>
        List.all_eq_true.mp hall b (List.mem_flatMap.mpr ⟨c, hc, hb⟩)
    rw [(bytes_of_forall_writesHexDigit hdigits).1] at hlength
    obtain ⟨x, y, rfl⟩ := List.length_eq_two.mp hlength
    obtain ⟨h, hx⟩ := hdigits x (by simp)
    obtain ⟨l, hy⟩ := hdigits y (by simp)
    rw [unsigned?_pair hx hy, Option.map_some, Option.some.injEq] at hvalue
    refine ⟨x, y, h, l, rfl, hx, hy, ?_⟩
    have := hx.lt
    have := hy.lt
    rw [← hvalue, UInt8.toNat_ofNat']
    omega
  · rintro ⟨x, y, h, l, rfl, hx, hy, ho⟩
    have hdigits : ∀ c ∈ [x, y], ∃ n, WritesHexDigit c n := by
      simpa using ⟨⟨h, hx⟩, l, hy⟩
    refine ⟨bytes_of_forall_writesHexDigit hdigits, ?_⟩
    rw [unsigned?_pair hx hy, Option.map_some, ← ho, UInt8.ofNat_toNat]

/-! ### Addresses -/

/-- The text consists of the six groups that write the octets of the address, with colons between
them or with hyphens. -/
def IsWritten (s : String) (m : Mac) : Prop :=
  ∃ sep groups, (sep = ':' ∨ sep = '-') ∧ s.toList = Text.joinWith sep groups ∧
    List.Forall₂ WritesOctet groups m.octets

theorem ofOctets?_eq_some_iff {os : List UInt8} {m : Mac} :
    ofOctets? os = some m ↔ os = m.octets := by
  constructor
  · intro h
    unfold ofOctets? at h
    split at h
    · cases h
      rfl
    · cases h
  · rintro rfl
    rfl

/-- No separator is found in a group. -/
theorem WritesOctet.not_mem {group : List Char} {o : UInt8} (h : WritesOctet group o) {sep : Char}
    (hsep : hexDigit? sep = none) : sep ∉ group := by
  obtain ⟨x, y, _, _, rfl, hx, hy, -⟩ := h
  simp [Ne.symm (hx.ne hsep), Ne.symm (hy.ne hsep)]

/-- The separator that is found is the one that stands between the groups. -/
theorem separator?_joinWith {sep : Char} {groups : List (List Char)}
    (hsep : sep = ':' ∨ sep = '-') (hlength : 1 < groups.length)
    (hgroups : ∀ group ∈ groups, ∃ o, WritesOctet group o) :
    separator? (Text.joinWith sep groups) = some sep := by
  have hno : ∀ c, hexDigit? c = none → ¬∃ group ∈ groups, c ∈ group := by
    rintro c hc ⟨group, hgroup, hmem⟩
    obtain ⟨o, ho⟩ := hgroups group hgroup
    exact ho.not_mem hc hmem
  rw [separator?]
  simp only [Text.mem_joinWith, hno ':' rfl, hno '-' rfl, hlength, false_or, and_true]
  rcases hsep with rfl | rfl <;> rfl

/-- The address is read exactly from the texts that write it. -/
theorem ofChars?_eq_some_iff {s : String} {m : Mac} :
    ofChars? s.toList = some m ↔ IsWritten s m := by
  simp only [ofChars?, bind, Option.bind_eq_some_iff, mapM_eq_some_iff, ofGroup?_eq_some_iff,
    ofOctets?_eq_some_iff]
  constructor
  · rintro ⟨sep, hsep, os, hos, rfl⟩
    refine ⟨sep, _, ?_, (Text.joinWith_splitAt sep s.toList).symm, hos⟩
    rw [separator?] at hsep
    split at hsep
    · exact .inl (Option.some.inj hsep).symm
    · split at hsep
      · exact .inr (Option.some.inj hsep).symm
      · cases hsep
  · rintro ⟨sep, groups, hsep, htext, hgroups⟩
    have hlength : groups.length = 6 := hgroups.length_eq
    have hwrites : ∀ group ∈ groups, ∃ o, WritesOctet group o :=
      ((List.forall₂_and_left _ _).mp (hgroups.imp fun _ o ho => ⟨⟨o, ho⟩, ho⟩)).1
    have hdigit : hexDigit? sep = none := by rcases hsep with rfl | rfl <;> rfl
    have hsplit : Text.splitAt sep (Text.joinWith sep groups) = groups := by
      refine Text.splitAt_joinWith (fun hnil => by simp [hnil] at hlength) fun group hgroup => ?_
      obtain ⟨o, ho⟩ := hwrites group hgroup
      exact ho.not_mem hdigit
    rw [htext]
    exact ⟨sep, separator?_joinWith hsep (by omega) hwrites, m.octets, by rwa [hsplit], rfl⟩

/-- **The texts that are addresses.**  A text is read as an address exactly if it consists of the
six groups of two hexadecimal digits that write the octets of the address, with a colon between any
two of them or with a hyphen between any two of them.  Every other text is refused, and comes back
as it is in the error. -/
theorem parse_eq_iff (s : String) :
    (∀ m, parse s = .ok m ↔ IsWritten s m) ∧
      ∀ e, parse s = .error e ↔ (¬∃ m, IsWritten s m) ∧ e = ⟨s⟩ := by
  have hread := fun m => ofChars?_eq_some_iff (s := s) (m := m)
  rw [parse]
  cases hchars : ofChars? s.toList with
  | some m =>
      have hm : IsWritten s m := (hread m).mp hchars
      constructor
      · intro m'
        rw [← hread, hchars, Except.ok.injEq, Option.some.injEq]
      · intro e
        constructor
        · intro h
          cases h
        · intro h
          exact absurd ⟨m, hm⟩ h.1
  | none =>
      have hno : ¬∃ m, IsWritten s m := by
        rintro ⟨m, hm⟩
        rw [(hread m).mpr hm] at hchars
        cases hchars
      constructor
      · intro m
        constructor
        · intro h
          cases h
        · intro hm
          exact absurd ⟨m, hm⟩ hno
      · intro e
        rw [Except.error.injEq, eq_comm]
        exact ⟨fun he => ⟨hno, he⟩, And.right⟩

/-- A sign would do for a reader of numbers.  It is no digit. -/
example : parse "+1:22:33:44:55:66" = .error ⟨"+1:22:33:44:55:66"⟩ := by rfl

end Mac

end Convergence
