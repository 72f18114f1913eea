import Convergence.CommandLine
import Convergence.Proofs.Except
import Convergence.Proofs.Number.Digits

/-!
# `Convergence.Proofs.CommandLine.Policy`: the policy that a command line asks for

Two options of the command line stand before what is configured, the interval and the timeout, each
for itself.  Their values are numbers of milliseconds: decimal digits, with or without a plus sign,
that write a number of 64 bits (`Arguments.number?_eq_some_iff`).  `Arguments.HasPolicy` says which
policy is in force; there is one exactly if each of the two options is left out or is a number
(`Arguments.policy_eq_ok_iff`), and otherwise the first one that is not is refused
(`Arguments.policy_eq_error_iff`).
-/

set_option autoImplicit false

namespace Convergence

/-! ### Numbers -/

theorem digit?_eq_some_iff {c : Char} {n : Nat} :
    digit? c = some n ↔ ('0' ≤ c ∧ c ≤ '9') ∧ c.toNat - '0'.toNat = n := by
  rw [digit?]
  split
  · rename_i h
    simp [h]
  · rename_i h
    simp [h]

/-- Characters are read as digits if all of them are. -/
theorem mapM_digit?_eq_some_iff {cs : List Char} {ds : List Nat} :
    cs.mapM digit? = some ds ↔
      (∀ c ∈ cs, '0' ≤ c ∧ c ≤ '9') ∧ cs.map (fun c => c.toNat - '0'.toNat) = ds := by
  induction cs generalizing ds with
  | nil => simp [eq_comm]
  | cons c cs ih =>
      simp only [List.mapM_cons, bind, pure, Option.bind_eq_some_iff, digit?_eq_some_iff, ih,
        List.forall_mem_cons, List.map_cons, Option.some.injEq]
      constructor
      · rintro ⟨n, ⟨hc, rfl⟩, ns, ⟨hcs, rfl⟩, rfl⟩
        exact ⟨⟨hc, hcs⟩, rfl⟩
      · rintro ⟨⟨hc, hcs⟩, rfl⟩
        exact ⟨_, ⟨hc, rfl⟩, _, ⟨hcs, rfl⟩, rfl⟩

/-- The characters write the number in decimal digits. -/
def WritesDigits (cs : List Char) (n : Nat) : Prop :=
  cs ≠ [] ∧ (∀ c ∈ cs, '0' ≤ c ∧ c ≤ '9') ∧
    Nat.ofDigits 10 (cs.map fun c => c.toNat - '0'.toNat).reverse = n

/-- A plus sign is no digit. -/
theorem not_writesDigits_plus {cs : List Char} {n : Nat} : ¬WritesDigits ('+' :: cs) n := by
  rintro ⟨-, hdigits, -⟩
  exact absurd (hdigits '+' List.mem_cons_self).1 (by decide)

namespace Arguments

/-- The text is a number that fits 64 bits, with or without a plus sign before its digits. -/
def IsNumber (text : String) (n : Nat) : Prop :=
  n < UInt64.size ∧
    (WritesDigits text.toList n ∨ ∃ cs, text.toList = '+' :: cs ∧ WritesDigits cs n)

/-- What is read of a text is the number that it is. -/
theorem number?_eq_some_iff {text : String} {n : Nat} :
    number? text = some n ↔ IsNumber text n := by
  -- Behind the sign, what decides are the digits.
  have hdigits : ∀ cs : List Char,
      digits? digit? 10 18446744073709551616 cs = some n ↔ n < UInt64.size ∧ WritesDigits cs n := by
    intro cs
    rw [digits?, WritesDigits]
    split
    · rename_i hnil
      simp [hnil]
    · rename_i hcons
      simp only [Option.filter_eq_some_iff, Option.map_eq_some_iff, mapM_digit?_eq_some_iff,
        ofDigits_eq, decide_eq_true_eq]
      constructor
      · rintro ⟨⟨ds, ⟨hcs, rfl⟩, rfl⟩, hfits⟩
        exact ⟨hfits, hcons, hcs, rfl⟩
      · rintro ⟨hfits, -, hcs, rfl⟩
        exact ⟨⟨_, ⟨hcs, rfl⟩, rfl⟩, hfits⟩
  rw [number?, IsNumber]
  unfold unsigned?
  split
  · rename_i cs hplus
    refine (hdigits cs).trans (and_congr_right' ?_)
    rw [hplus]
    -- With the sign among them, the characters write no number.
    simp [not_writesDigits_plus]
  · rename_i cs hplain
    refine (hdigits text.toList).trans (and_congr_right' ?_)
    exact (or_iff_left fun ⟨cs, hcs, _⟩ => hplain cs hcs).symm

/-- A text is not read exactly if it is no number. -/
theorem number?_eq_none_iff {text : String} :
    number? text = none ↔ ¬∃ n, IsNumber text n := by
  simp only [Option.eq_none_iff_forall_ne_some, Ne, number?_eq_some_iff, not_exists]

/-- A text is no two numbers. -/
theorem IsNumber.unique {text : String} {m n : Nat} (hm : IsNumber text m) (hn : IsNumber text n) :
    m = n := by
  rw [← number?_eq_some_iff] at hm hn
  exact Option.some.inj (hm.symm.trans hn)

/-! ### The options -/

/-- The length of time that an option gives in milliseconds, or the configured one if the option is
not given. -/
def IsInForce (configured d : Duration) : Option String → Prop
  | none => d = configured
  | some text => ∃ n, IsNumber text n ∧ d = .ofMillis n

/-- What the option gives is no number. -/
def IsBad (given : Option String) : Prop := ∃ text, given = some text ∧ ¬∃ n, IsNumber text n

/-- A length of time is in force unless the option is bad. -/
theorem exists_isInForce_iff {configured : Duration} {given : Option String} :
    (∃ d, IsInForce configured d given) ↔ ¬IsBad given := by
  cases given with
  | none => simp [IsInForce, IsBad]
  | some text =>
      simp only [IsInForce, IsBad, Option.some.injEq, exists_eq_left', not_not]
      constructor
      · rintro ⟨_, n, hn, -⟩
        exact ⟨n, hn⟩
      · rintro ⟨n, hn⟩
        exact ⟨_, n, hn, rfl⟩

/-- The policy that is in force, each of its parts for itself. -/
structure HasPolicy (a : Arguments) (configured p : Policy) : Prop where
  interval : IsInForce configured.interval p.interval a.interval
  timeout : IsInForce configured.timeout p.timeout a.timeout

variable {a : Arguments} {configured p : Policy} {err : InputError}

/-- There is a policy unless one of the two options is bad. -/
theorem exists_hasPolicy_iff (configured : Policy) :
    (∃ p, a.HasPolicy configured p) ↔ ¬IsBad a.interval ∧ ¬IsBad a.timeout := by
  rw [← exists_isInForce_iff, ← exists_isInForce_iff]
  constructor
  · rintro ⟨p, hinterval, htimeout⟩
    exact ⟨⟨p.interval, hinterval⟩, ⟨p.timeout, htimeout⟩⟩
  · rintro ⟨⟨interval, hinterval⟩, ⟨timeout, htimeout⟩⟩
    exact ⟨⟨interval, timeout⟩, hinterval, htimeout⟩

/-- An option is read if it is not given or a number. -/
theorem millis_getD_iff {setting : Setting} {c d : Duration} :
    (∃ x, a.millis setting = .ok x ∧ x.getD c = d) ↔ IsInForce c d (a.value? setting) := by
  rw [millis]
  cases a.value? setting with
  | none => simp [IsInForce, eq_comm]
  | some text =>
      cases hn : number? text with
      | none =>
          have hno := number?_eq_none_iff.mp hn
          rw [not_exists] at hno
          simp [IsInForce, hno, hn]
      | some n =>
          have hnumber := number?_eq_some_iff.mp hn
          simp only [IsInForce, hn]
          constructor
          · rintro ⟨x, hx, rfl⟩
            cases hx
            exact ⟨n, hnumber, rfl⟩
          · rintro ⟨m, hm, rfl⟩
            exact ⟨_, rfl, by rw [hm.unique hnumber]; rfl⟩

/-- An option is refused if what it gives is no number. -/
theorem millis_eq_error_iff {setting : Setting} :
    a.millis setting = .error err ↔
      ∃ text, a.value? setting = some text ∧ (¬∃ n, IsNumber text n) ∧
        err = .invalidArgument setting.long text := by
  rw [millis]
  cases a.value? setting with
  | none => simp
  | some text =>
      simp only [Option.some.injEq, exists_eq_left', ← number?_eq_none_iff]
      cases number? text <;> simp [eq_comm]

/-- So it is refused exactly if it is bad. -/
theorem exists_millis_eq_error_iff {setting : Setting} :
    (∃ err, a.millis setting = .error err) ↔ IsBad (a.value? setting) := by
  simp only [millis_eq_error_iff]
  constructor
  · rintro ⟨err, text, htext, hno, -⟩
    exact ⟨text, htext, hno⟩
  · rintro ⟨text, htext, hno⟩
    exact ⟨_, text, htext, hno, rfl⟩

/-- A policy is made exactly if it is in force. -/
theorem policy_eq_ok_iff : a.policy configured = .ok p ↔ a.HasPolicy configured p := by
  simp only [policy, bind_eq_ok_iff]
  constructor
  · rintro ⟨x, hx, y, hy, hp⟩
    cases hp
    exact ⟨millis_getD_iff.mp ⟨x, hx, rfl⟩, millis_getD_iff.mp ⟨y, hy, rfl⟩⟩
  · rintro ⟨hinterval, htimeout⟩
    have hx : ∃ x, a.millis .interval = .ok x ∧ x.getD configured.interval = p.interval :=
      millis_getD_iff.mpr hinterval
    have hy : ∃ y, a.millis .timeout = .ok y ∧ y.getD configured.timeout = p.timeout :=
      millis_getD_iff.mpr htimeout
    obtain ⟨x, hx, hi⟩ := hx
    obtain ⟨y, hy, ht⟩ := hy
    exact ⟨x, hx, y, hy, by rw [hi, ht]; rfl⟩

/-- Otherwise one of the options is bad.  The interval is looked at first. -/
theorem policy_eq_error_iff :
    a.policy configured = .error err ↔
      a.millis .interval = .error err ∨
        ¬IsBad a.interval ∧ a.millis .timeout = .error err := by
  have hinterval : (∃ x, a.millis .interval = .ok x) ↔ ¬IsBad a.interval := by
    rw [exists_eq_ok_iff, exists_millis_eq_error_iff]
    rfl
  simp only [policy, bind_eq_error_iff, ← hinterval]
  refine or_congr_right ⟨?_, ?_⟩
  · rintro ⟨x, hx, h | ⟨y, -, h⟩⟩
    · exact ⟨⟨x, hx⟩, h⟩
    · cases h
  · rintro ⟨⟨x, hx⟩, h⟩
    exact ⟨x, hx, .inl h⟩

end Arguments

end Convergence
