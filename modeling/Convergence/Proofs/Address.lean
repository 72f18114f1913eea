import Convergence.Address
import Convergence.Proofs.Number.Digits

/-!
# `Convergence.Proofs.Address`: network addresses as text

An address of either version reads back from its written form (`Address.parse?_text`).  Numbers and
groups are read up to the first character that is no digit (`span_toDigits`).  Groups between colons
are read one after the other, up to the end or to two colons (`readGroups_groupsText`).  Two colons
stand for a run of zeros (`exists_longestZeros`), and reading fills in as many zeros as are missing
from eight groups.
-/

set_option autoImplicit false

namespace Convergence.Address

/-! ### Numbers -/

/-- Digits are taken up to the first character that is none. -/
theorem span_toDigits {value? : Char → Option Nat} {base : Nat} (hvalue : ReadsDigits value? base)
    (hbase : 1 < base) (n : Nat) {rest : List Char} (hrest : ∀ c ∈ rest.head?, value? c = none) :
    span value? (Nat.toDigits base n ++ rest) = (digitsOf base n, rest) := by
  rw [toDigits_eq_map hbase]
  have hdigits : ∀ d ∈ digitsOf base n, value? (Nat.digitChar d) = some d := fun d hd =>
    hvalue d (lt_of_mem_digitsOf hbase hd)
  -- The induction is on the digits, of whatever number they are.
  generalize digitsOf base n = ds at hdigits
  induction ds with
  | nil =>
      cases rest with
      | nil => rfl
      | cons c rest =>
          rw [List.map_nil, List.nil_append, span, hrest c rfl]
  | cons d ds ih =>
      obtain ⟨hd, hds⟩ := List.forall_mem_cons.mp hdigits
      rw [List.map_cons, List.cons_append, span, hd, ih hds]

/-- An octet is read from its decimal digits. -/
theorem octet?_append (x : UInt8) {rest : List Char} (hrest : ∀ c ∈ rest.head?, digit? c = none) :
    octet? (decimalDigits x.toNat ++ rest) = some (x, rest) := by
  have hlt := x.toNat_lt
  have hlength : (digitsOf 10 x.toNat).length ≤ 3 :=
    length_digitsOf_le (by decide) (by decide) (by omega)
  have hzero : (digitsOf 10 x.toNat).head? = some 0 → (digitsOf 10 x.toNat).length = 1 := by
    intro h
    rw [digitsOf_of_head?_eq_zero h]
    rfl
  rw [octet?, decimalDigits, span_toDigits readsDigits_digit? (by decide) _ hrest]
  simp only [ofDigits_digitsOf]
  rw [if_neg, UInt8.ofNat_toNat]
  -- None of the four reasons to refuse the digits holds.
  rintro (h | h | ⟨h, h'⟩ | h)
  · exact digitsOf_ne_nil 10 _ h
  · omega
  · have := hzero h
    omega
  · omega

/-- A group is read from its hexadecimal digits. -/
theorem group?_append (g : UInt16) {rest : List Char}
    (hrest : ∀ c ∈ rest.head?, hexDigit? c = none) :
    group? (Nat.toDigits 16 g.toNat ++ rest) = some (g, rest) := by
  have hlt := g.toNat_lt
  have hlength : (digitsOf 16 g.toNat).length ≤ 4 :=
    length_digitsOf_le (by decide) (by decide) (by omega)
  rw [group?, span_toDigits readsDigits_hexDigit? (by decide) _ hrest]
  simp only [ofDigits_digitsOf]
  rw [if_neg, UInt16.ofNat_toNat]
  rintro (h | h)
  · exact digitsOf_ne_nil 16 _ h
  · omega

/-! ### Four numbers between points -/

/-- Four numbers are read from their text. -/
theorem readV4?_append (a b c d : UInt8) {rest : List Char}
    (hrest : ∀ ch ∈ rest.head?, digit? ch = none) :
    readV4? (octetsText [a, b, c, d] ++ rest) = some (#v[a, b, c, d], rest) := by
  -- Each number but the last ends at the point behind it.
  have hpoint : ∀ {cs : List Char}, ∀ ch ∈ ('.' :: cs).head?, digit? ch = none := by
    rintro cs ch ⟨⟩
    rfl
  have htext : octetsText [a, b, c, d] ++ rest =
      decimalDigits a.toNat ++ '.' :: (decimalDigits b.toNat ++ '.' :: (decimalDigits c.toNat ++
        '.' :: (decimalDigits d.toNat ++ rest))) := by
    simp [octetsText, Text.joinWith]
  rw [htext, readV4?, octet?_append a hpoint]
  simp only [Option.bind_eq_bind, Option.bind_some, expect?, ↓reduceIte, octet?_append b hpoint,
    octet?_append c hpoint, octet?_append d hrest]
  rfl

/-- The same where nothing follows. -/
theorem readV4?_octetsText (a b c d : UInt8) :
    readV4? (octetsText [a, b, c, d]) = some (#v[a, b, c, d], []) := by
  have hnone : ∀ ch ∈ ([] : List Char).head?, digit? ch = none := by simp
  have hread := readV4?_append a b c d hnone
  rwa [List.append_nil] at hread

/-- Without a point there is no version 4 address. -/
theorem readV4?_eq_none {cs : List Char} (h : '.' ∉ cs) : readV4? cs = none := by
  -- What follows the first number is a part of the text, and so holds no point either.
  have hsuffix : ∀ value?, (span value? cs).2 <:+ cs := by
    intro value?
    clear h
    induction cs with
    | nil => exact List.suffix_refl []
    | cons c cs ih =>
        rw [span]
        split
        · exact List.suffix_refl (c :: cs)
        · exact ih.trans (List.suffix_cons c cs)
  have hexpect : ∀ {rest : List Char}, '.' ∉ rest → expect? '.' rest = none := by
    intro rest hrest
    cases rest with
    | nil => rfl
    | cons c rest =>
        rw [expect?, if_neg]
        rintro rfl
        exact hrest List.mem_cons_self
  cases ho : octet? cs with
  | none => rw [readV4?, ho]; rfl
  | some found =>
      obtain ⟨x, rest⟩ := found
      have hrest : rest = (span digit? cs).2 := by
        simp only [octet?] at ho
        split at ho
        · cases ho
        · cases ho
          rfl
      have hpoint : expect? '.' rest = none :=
        hexpect fun hmem => h ((hrest ▸ hsuffix digit?).mem hmem)
      rw [readV4?, ho]
      simp only [Option.bind_eq_bind, Option.bind_some, hpoint, Option.bind_none]

/-! ### Groups between colons -/

/-- What may stand behind the groups that are read: nothing, or two colons. -/
def EndsGroups (cs : List Char) : Prop := cs = [] ∨ ∃ rest, cs = ':' :: ':' :: rest

/-- The digits of a group are no points. -/
theorem not_mem_toDigits (g : UInt16) : '.' ∉ Nat.toDigits 16 g.toNat := by
  have hdigits : ∀ d < 16, Nat.digitChar d ≠ '.' := by decide
  rw [toDigits_eq_map (by decide), List.mem_map]
  rintro ⟨d, hd, hpoint⟩
  exact hdigits d (lt_of_mem_digitsOf (by decide) hd) hpoint

/-- The first group stands without a colon before it, every other one with a colon. -/
def separated (first : Bool) (cs : List Char) : List Char := if first then cs else ':' :: cs

/-- A group is read, and then the groups that follow. -/
theorem readGroups_cons {limit : Nat} {first : Bool} (g : UInt16) {rest : List Char}
    (hpoint : '.' ∉ rest) (hrest : ∀ c ∈ rest.head?, hexDigit? c = none) :
    readGroups (limit + 1) first (separated first (Nat.toDigits 16 g.toNat ++ rest)) =
      ⟨g :: (readGroups limit false rest).groups, (readGroups limit false rest).mixed,
        (readGroups limit false rest).rest⟩ := by
  have hafter : (if first then some (separated first (Nat.toDigits 16 g.toNat ++ rest))
      else expect? ':' (separated first (Nat.toDigits 16 g.toNat ++ rest))) =
      some (Nat.toDigits 16 g.toNat ++ rest) := by
    cases first <;> rfl
  -- A version 4 address is tried first, and needs a point.
  have hv4 : (if limit = 0 then none else readV4? (Nat.toDigits 16 g.toNat ++ rest)) = none := by
    split
    · rfl
    · refine readV4?_eq_none ?_
      rw [List.mem_append, not_or]
      exact ⟨not_mem_toDigits g, hpoint⟩
  rw [readGroups, hafter]
  simp only [hv4, group?_append g hrest]

/-- Where groups end, none is read. -/
theorem readGroups_of_endsGroups {cs : List Char} (h : EndsGroups cs) (hpoint : '.' ∉ cs)
    (limit : Nat) (first : Bool) : readGroups limit first cs = ⟨[], false, cs⟩ := by
  cases limit with
  | zero => rfl
  | succ limit =>
      have hnone : ∀ {after : List Char}, '.' ∉ after →
          (if limit = 0 then none else readV4? after) = none := by
        intro after hafter
        split
        · rfl
        · exact readV4?_eq_none hafter
      rcases h with rfl | ⟨rest, rfl⟩
      · cases first
        · rfl
        · rw [readGroups]
          simp only [↓reduceIte, hnone hpoint]
          rfl
      · have hrest : '.' ∉ ':' :: rest := fun hmem => hpoint (List.mem_cons_of_mem _ hmem)
        cases first
        · rw [readGroups]
          simp only [Bool.false_eq_true, expect?, ↓reduceIte, hnone hrest]
          rfl
        · rw [readGroups]
          simp only [↓reduceIte, hnone hpoint]
          rfl

/-- The text of groups that follow another one. -/
def followingText (gs : List UInt16) : List Char :=
  gs.flatMap fun g => ':' :: Nat.toDigits 16 g.toNat

theorem groupsText_cons (g : UInt16) (gs : List UInt16) :
    groupsText (g :: gs) = Nat.toDigits 16 g.toNat ++ followingText gs := by
  induction gs generalizing g with
  | nil => exact (List.append_nil _).symm
  | cons g' gs ih =>
      show Nat.toDigits 16 g.toNat ++ ':' :: groupsText (g' :: gs) = _
      rw [ih]
      rfl

theorem not_mem_followingText (gs : List UInt16) : '.' ∉ followingText gs := by
  rw [followingText, List.mem_flatMap]
  rintro ⟨g, -, hmem⟩
  cases hmem with
  | tail _ hmem => exact not_mem_toDigits g hmem

theorem not_mem_groupsText (gs : List UInt16) : '.' ∉ groupsText gs := by
  cases gs with
  | nil => exact List.not_mem_nil
  | cons g gs =>
      rw [groupsText_cons, List.mem_append, not_or]
      exact ⟨not_mem_toDigits g, not_mem_followingText gs⟩

/-- Behind a group stands a colon, if anything does. -/
theorem hexDigit?_of_mem_head? {gs : List UInt16} {rest : List Char} (h : EndsGroups rest) :
    ∀ c ∈ (followingText gs ++ rest).head?, hexDigit? c = none := by
  cases gs with
  | nil =>
      rcases h with rfl | ⟨rest, rfl⟩
      · rintro c ⟨⟩
      · rintro c ⟨⟩
        rfl
  | cons g gs =>
      rintro c ⟨⟩
      rfl

/-- Groups that follow another one are read from their text. -/
theorem readGroups_followingText {gs : List UInt16} {limit : Nat} (hlimit : gs.length ≤ limit)
    {rest : List Char} (hends : EndsGroups rest) (hpoint : '.' ∉ rest) :
    readGroups limit false (followingText gs ++ rest) = ⟨gs, false, rest⟩ := by
  induction gs generalizing limit with
  | nil => exact readGroups_of_endsGroups hends hpoint limit false
  | cons g gs ih =>
      obtain ⟨limit, rfl⟩ := Nat.exists_eq_add_one.mpr (Nat.lt_of_lt_of_le (Nat.succ_pos _) hlimit)
      have htext : followingText (g :: gs) ++ rest =
          separated false (Nat.toDigits 16 g.toNat ++ (followingText gs ++ rest)) := by
        simp [followingText, separated]
      have hpoint' : '.' ∉ followingText gs ++ rest := by
        rw [List.mem_append, not_or]
        exact ⟨not_mem_followingText gs, hpoint⟩
      rw [htext, readGroups_cons g hpoint' (hexDigit?_of_mem_head? hends),
        ih (Nat.le_of_succ_le_succ hlimit)]

/-- Groups are read from their text, up to where groups end. -/
theorem readGroups_groupsText {gs : List UInt16} {limit : Nat} (hlimit : gs.length ≤ limit)
    {rest : List Char} (hends : EndsGroups rest) (hpoint : '.' ∉ rest) :
    readGroups limit true (groupsText gs ++ rest) = ⟨gs, false, rest⟩ := by
  cases gs with
  | nil => exact readGroups_of_endsGroups hends hpoint limit true
  | cons g gs =>
      obtain ⟨limit, rfl⟩ := Nat.exists_eq_add_one.mpr (Nat.lt_of_lt_of_le (Nat.succ_pos _) hlimit)
      have htext : groupsText (g :: gs) ++ rest =
          separated true (Nat.toDigits 16 g.toNat ++ (followingText gs ++ rest)) := by
        rw [groupsText_cons, List.append_assoc]
        rfl
      have hpoint' : '.' ∉ followingText gs ++ rest := by
        rw [List.mem_append, not_or]
        exact ⟨not_mem_followingText gs, hpoint⟩
      rw [htext, readGroups_cons g hpoint' (hexDigit?_of_mem_head? hends),
        readGroups_followingText (Nat.le_of_succ_le_succ hlimit) hends hpoint]

/-- The same where nothing follows. -/
theorem readGroups_groupsText_nil {gs : List UInt16} {limit : Nat} (hlimit : gs.length ≤ limit) :
    readGroups limit true (groupsText gs) = ⟨gs, false, []⟩ := by
  have hread := readGroups_groupsText hlimit (.inl rfl) List.not_mem_nil
  rwa [List.append_nil] at hread

/-! ### Runs of zeros -/

/-- The run that is found is a run of zeros in its place. -/
theorem exists_longestZeros (gs : List UInt16) :
    ∃ before after, gs = before ++ List.replicate (longestZeros gs 0 0 (0, 0)).2 0 ++ after ∧
      before.length = (longestZeros gs 0 0 (0, 0)).1 := by
  -- Of the groups that have been looked at, the last ones are the current run of zeros, and the
  -- best run is somewhere among them.
  suffices hrun : ∀ (gs seen : List UInt16) (current : Nat) (best : Nat × Nat),
      (∃ front, seen = front ++ List.replicate current 0) →
      (∃ before after, seen = before ++ List.replicate best.2 0 ++ after ∧
        before.length = best.1) →
      ∃ before after, seen ++ gs = before ++
          List.replicate (longestZeros gs seen.length current best).2 0 ++ after ∧
        before.length = (longestZeros gs seen.length current best).1 from
    hrun gs [] 0 (0, 0) ⟨[], rfl⟩ ⟨[], [], rfl, rfl⟩
  intro gs
  induction gs with
  | nil =>
      rintro seen current best - hbest
      rwa [List.append_nil]
  | cons g gs ih =>
      rintro seen current best ⟨front, hfront⟩ ⟨before, after, hbefore, hlength⟩
      have hseen : seen ++ g :: gs = (seen ++ [g]) ++ gs := by simp
      have hcount : (seen ++ [g]).length = seen.length + 1 := by simp
      have hbest : ∃ before after, seen ++ [g] = before ++ List.replicate best.2 0 ++ after ∧
          before.length = best.1 := ⟨before, after ++ [g], by simp [hbefore], hlength⟩
      rw [longestZeros, hseen, ← hcount]
      split
      · rename_i hzero
        subst hzero
        have hcurrent : seen ++ [0] = front ++ List.replicate (current + 1) 0 := by
          rw [hfront, List.append_assoc, ← List.replicate_succ']
        refine ih (seen ++ [0]) (current + 1) _ ⟨front, hcurrent⟩ ?_
        split
        · refine ⟨front, [], by simpa using hcurrent, ?_⟩
          show front.length = (seen ++ [0]).length - (current + 1)
          rw [hcurrent, List.length_append, List.length_replicate, Nat.add_sub_cancel]
        · exact hbest
      · exact ih (seen ++ [g]) 0 best ⟨seen ++ [g], (List.append_nil _).symm⟩ hbest

/-! ### Addresses -/

/-- Eight groups are what they are. -/
theorem ofGroups?_toList (gs : Vector UInt16 8) : ofGroups? gs.toList = some gs := by
  rw [ofGroups?, dif_pos gs.length_toList]
  exact congrArg some (Vector.toList_inj.mp (by simp))

/-- Eight groups between colons are read as they are. -/
theorem readV6?_groupsText (gs : Vector UInt16 8) :
    readV6? (groupsText gs.toList) = some (gs, []) := by
  have hhead : readGroups 8 true (groupsText gs.toList) = ⟨gs.toList, false, []⟩ :=
    readGroups_groupsText_nil (by simp)
  rw [readV6?, hhead]
  simp only [ofGroups?_toList]
  rfl

/-- Two colons are read as the zeros that are missing between the groups before and after them. -/
theorem readV6?_of_colons {cs rest rest' : List Char} {before after : List UInt16} {mixed : Bool}
    (hhead : readGroups 8 true cs = ⟨before, false, ':' :: ':' :: rest⟩)
    (hbefore : before.length ≠ 8)
    (htail : readGroups (7 - before.length) true rest = ⟨after, mixed, rest'⟩) :
    readV6? cs = (ofGroups? (before ++ List.replicate (8 - before.length - after.length) 0 ++
      after)).map fun gs => (gs, rest') := by
  have hincomplete : ofGroups? before = none := dif_neg hbefore
  rw [readV6?, hhead]
  simp only [hincomplete]
  show (do
    let tail := readGroups (7 - before.length) true rest
    let zeros := List.replicate (8 - before.length - tail.groups.length) 0
    return (← ofGroups? (before ++ zeros ++ tail.groups), tail.rest)) = _
  rw [htail, Option.map_eq_bind]
  rfl

/-- So a run of zeros in the place of which they stand is read back. -/
theorem readV6?_compressed {gs : Vector UInt16 8} {before after : List UInt16} {n : Nat}
    (hn : 1 < n) (hgs : gs.toList = before ++ List.replicate n 0 ++ after) :
    readV6? (groupsText before ++ [':', ':'] ++ groupsText after) = some (gs, []) := by
  have hlength : before.length + n + after.length = 8 := by
    rw [← gs.length_toList, hgs, List.length_append, List.length_append, List.length_replicate]
  have hhead : readGroups 8 true (groupsText before ++ [':', ':'] ++ groupsText after) =
      ⟨before, false, ':' :: ':' :: groupsText after⟩ := by
    rw [List.append_assoc]
    refine readGroups_groupsText (by omega) (.inr ⟨groupsText after, rfl⟩) ?_
    simp [not_mem_groupsText after]
  have htail : readGroups (7 - before.length) true (groupsText after) = ⟨after, false, []⟩ :=
    readGroups_groupsText_nil (by omega)
  -- As many zeros are filled in as the run has.
  have hzeros : 8 - before.length - after.length = n := by omega
  rw [readV6?_of_colons hhead (by omega) htail, hzeros, ← hgs, ofGroups?_toList]
  rfl

/-- A version 4 address that is the end of one of version 6 is read as its last two groups. -/
theorem readV6?_mapped (x y : UInt16) :
    readV6? ("::ffff:".toList ++
      octetsText [(x / 256).toUInt8, x.toUInt8, (y / 256).toUInt8, y.toUInt8]) =
      some (#v[0, 0, 0, 0, 0, 0xFFFF, x, y], []) := by
  -- The digits of the octets play no part in what comes before them.
  generalize htext : octetsText [(x / 256).toUInt8, x.toUInt8, (y / 256).toUInt8, y.toUInt8] = cs
  have hv4 : readV4? cs =
      some (#v[(x / 256).toUInt8, x.toUInt8, (y / 256).toUInt8, y.toUInt8], []) :=
    htext ▸ readV4?_octetsText (x / 256).toUInt8 x.toUInt8 (y / 256).toUInt8 y.toUInt8
  have hgroups : groupsOf #v[(x / 256).toUInt8, x.toUInt8, (y / 256).toUInt8, y.toUInt8] =
      [x, y] := by
    have hword : ∀ z : UInt16,
        UInt16.ofNat (256 * (z / 256).toUInt8.toNat + z.toUInt8.toNat) = z := by
      intro z
      have hz := z.toNat_lt
      have hsum : 256 * (z / 256).toUInt8.toNat + z.toUInt8.toNat = z.toNat := by
        rw [UInt16.toNat_toUInt8, UInt16.toNat_toUInt8, UInt16.toNat_div]
        show 256 * (z.toNat / 256 % 256) + z.toNat % 256 = z.toNat
        omega
      rw [hsum, UInt16.ofNat_toNat]
    exact congr (congrArg List.cons (hword x)) (congrArg (fun z => [z]) (hword y))
  have hhead : readGroups 8 true ("::ffff:".toList ++ cs) =
      ⟨[], false, ':' :: ':' :: ("ffff:".toList ++ cs)⟩ := rfl
  have htail : readGroups 7 true ("ffff:".toList ++ cs) = ⟨[0xFFFF, x, y], true, []⟩ := by
    have hmore : readGroups 6 false (':' :: cs) = ⟨[x, y], true, []⟩ := by
      rw [readGroups]
      simp only [Bool.false_eq_true, expect?, ↓reduceIte, hv4, OfNat.ofNat_ne_zero, hgroups]
    show Groups.mk (0xFFFF :: (readGroups 6 false (':' :: cs)).groups)
      (readGroups 6 false (':' :: cs)).mixed (readGroups 6 false (':' :: cs)).rest = _
    rw [hmore]
  rw [readV6?_of_colons hhead (by decide) htail]
  rfl

/-- **Reading back.**  The written form of an address is read as the address. -/
theorem parse?_text (a : Address) : parse? a.text = some a := by
  cases a with
  | v4 o =>
      have hread : readV4? (octetsText o.toList) = some (o, []) := by
        obtain ⟨⟨octets⟩, hlength⟩ := o
        match octets, hlength with
        | [a, b, c, d], _ => exact readV4?_octetsText a b c d
      rw [text, parse?, String.toList_ofList, hread]
      rfl
  | v6 gs =>
      -- Unless it has the form of a version 4 address, it is no such address.
      have hread : ∀ {cs}, readV4? cs = none → readV6? cs = some (gs, []) →
          parse? (String.ofList cs) = some (v6 gs) := by
        intro cs hv4 hv6
        rw [parse?, String.toList_ofList, hv4, hv6]
        rfl
      rw [text]
      split
      · rename_i x y hgs
        have hmapped : gs = #v[0, 0, 0, 0, 0, 0xFFFF, x, y] := Vector.toList_inj.mp hgs
        subst hmapped
        exact hread rfl (readV6?_mapped x y)
      · obtain ⟨before, after, hgs, hlength⟩ := exists_longestZeros gs.toList
        generalize longestZeros gs.toList 0 0 (0, 0) = run at hgs hlength ⊢
        obtain ⟨start, n⟩ := run
        obtain rfl : before.length = start := hlength
        simp only at hgs ⊢
        split
        · rename_i hn
          have htake : gs.toList.take before.length = before := by
            rw [hgs, List.append_assoc, List.take_left]
          have hdrop : gs.toList.drop (before.length + n) = after := by
            rw [hgs]
            exact List.drop_left' (by simp)
          rw [htake, hdrop]
          refine hread (readV4?_eq_none ?_) (readV6?_compressed hn hgs)
          simp [not_mem_groupsText]
        · exact hread (readV4?_eq_none (not_mem_groupsText _)) (readV6?_groupsText gs)

end Convergence.Address
