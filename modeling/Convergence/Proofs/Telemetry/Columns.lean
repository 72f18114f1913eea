import Convergence.Proofs.Decode.Grammar
import Convergence.Telemetry.Record

/-!
# `Convergence.Proofs.Telemetry.Columns`: records seen as columns

A record type is a list of columns, each of which has a name, a type and a place in the record
(`Telemetry.Column`).  What may be written for a column, and what it stands for, is said by its type
(`Telemetry.FieldType.Writes`), which is what the decoder of the type reads
(`Telemetry.FieldType.decoder_reads`).

`Telemetry.HasColumns` ties the columns to a schema.  What follows from it for reading an object:

* `HasColumns.exists_readMembers_iff`: the members must be taken by their columns, and other members
  do not matter.
* `HasColumns.readMembers_eq_error_iff`: the first member that is not taken is complained of.
* `HasColumns.isSet_of_readMembers`: what each column has in the end.
* `HasColumns.decode_object_congr`: members of other names make no difference at all.
-/

set_option autoImplicit false

namespace Convergence

open Value Decoder

/-- There is no answer for a key if no entry has it. -/
theorem Entries.isNone_find? {α : Type} (k : String) (es : List (String × α)) :
    (find? k es).isNone = !es.any fun e => e.1 == k := by
  induction es with
  | nil => rfl
  | cons e es ih =>
      rw [List.any_cons, find?]
      by_cases hk : e.1 = k
      · rw [hk, if_pos Std.ReflCmp.compare_self, BEq.rfl]
        rfl
      · rw [beq_false_of_ne hk, if_neg fun heq => hk (Std.LawfulEqOrd.eq_of_compare heq).symm]
        exact ih

/-- Among the entries with keys of some kind, the answers are those for keys of that kind. -/
theorem Entries.find?_filter_keys {α : Type} (p : String → Bool) (k : String)
    (es : List (String × α)) :
    find? k (es.filter fun e => p e.1) = if p k then find? k es else none := by
  induction es with
  | nil => simp [find?]
  | cons e es ih =>
      by_cases hk : k = e.1
      · subst hk
        cases hp : p e.1 <;> simp [hp, find?, ih]
      · have hne : ¬compare k e.1 = .eq := fun heq => hk (Std.LawfulEqOrd.eq_of_compare heq)
        cases hp : p e.1 <;> simp [hp, find?, hne, ih]

/-! ### Decoders of data made of others -/

namespace Value

/-- The value is a text that can be read as the network address. -/
def WritesAddress (v : Value) (a : Address) : Prop := ∃ s, v = .string s ∧ Address.parse? s = some a

end Value

namespace Decoder

variable {α : Type} {f : Dialect} {d : Decoder α} {writes : Value → α → Prop}

theorem reads_address : address.Reads f WritesAddress := by
  intro v a
  cases v with
  | string s => cases h : Address.parse? s <;> simp [address, WritesAddress, h]
  | _ => simp [address, WritesAddress]

/-- Null is none, unless the datum itself may be written as null. -/
theorem Reads.optional (h : d.Reads f writes) (hnull : ∀ x, ¬writes .null x) :
    d.optional.Reads f (WritesOptional writes) := by
  intro v x
  have hsome : v ≠ .null → ((d f v).map some = .ok x ↔ WritesOptional writes v x) := by
    intro hv
    rw [map_eq_ok_iff]
    cases x with
    | none => simp [WritesOptional, hv]
    | some y => simp [WritesOptional, h v]
  cases v with
  | null =>
      show Except.ok none = .ok x ↔ _
      cases x with
      | none => simp [WritesOptional]
      | some y => simp [WritesOptional, hnull]
  | _ => exact hsome (by simp)

/-- Lists are written element by element. -/
theorem Reads.list (h : d.Reads f writes) : d.list.Reads f (WritesList writes) := by
  intro v xs
  rw [list_ok_iff, WritesList]
  refine exists_congr fun items => and_congr_right' ?_
  rw [mapM_eq_ok_iff]
  simp only [h _]

end Decoder

namespace Telemetry

/-! ### Types of fields -/

/-- What a field of a record holds. -/
inductive FieldType where
  | word64
  | word32
  | rate
  | flag
  | text
  | texts
  | link
  | operStatus
  | session
  | synchronization
  | address
  | mac
  | members
  deriving DecidableEq

namespace FieldType

/-- The data of the type. -/
abbrev Datum : FieldType → Type
  | word64 => UInt64
  | word32 => UInt32
  | rate => Rate
  | flag => Bool
  | text => String
  | texts => List String
  | link => LinkState
  | operStatus => OperStatus
  | session => SessionState
  | synchronization => Synchronization
  | address => Address
  | mac => Option Mac
  | members => List BundleMember

/-- What a field has if it is not written. -/
def preset : (t : FieldType) → t.Datum
  | word64 => (0 : UInt64)
  | word32 => (0 : UInt32)
  | rate => Rate.zero
  | flag => false
  | text => ""
  | texts => ([] : List String)
  | link => LinkState.down
  | operStatus => OperStatus.down
  | session => SessionState.down
  | synchronization => Synchronization.outSync
  | address => (default : Address)
  | mac => (none : Option Mac)
  | members => ([] : List BundleMember)

/-- The value writes the datum.  A list of members is written as an array of values that can be read
as one member each. -/
def Writes : (t : FieldType) → Value → t.Datum → Prop
  | word64 => WritesWord64
  | word32 => WritesWord32
  | rate => WritesRate
  | flag => WritesBool
  | text => WritesString
  | texts => WritesList WritesString
  | link => WritesName LinkState.name
  | operStatus => WritesName OperStatus.name
  | session => WritesName SessionState.name
  | synchronization => WritesName Synchronization.name
  | address => WritesAddress
  | mac => WritesOptional WritesMac
  | members => WritesList fun v m => BundleMember.schema.decode .json v = .ok m

/-- Reads a datum of the type. -/
def decoder : (t : FieldType) → Decoder t.Datum
  | word64 => Decoder.uint64
  | word32 => Decoder.uint32
  | rate => Decoder.rate
  | flag => Decoder.bool
  | text => Decoder.string
  | texts => Decoder.list .string
  | link => LinkState.decode
  | operStatus => OperStatus.decode
  | session => SessionState.decode
  | synchronization => Synchronization.decode
  | address => Decoder.address
  | mac => Decoder.optional .mac
  | members => Decoder.list BundleMember.schema.decode

/-- A datum is read from the values that write it, and from no others. -/
theorem decoder_reads (t : FieldType) : t.decoder.Reads .json t.Writes := by
  cases t with
  | word64 => exact reads_uint64
  | word32 => exact reads_uint32
  | rate => exact reads_rate
  | flag => exact reads_bool
  | text => exact reads_string
  | texts => exact reads_string.list
  | link => exact LinkState.reads
  | operStatus => exact OperStatus.reads
  | session => exact SessionState.reads
  | synchronization => exact Synchronization.reads
  | address => exact reads_address
  | mac => exact reads_mac.optional fun m => by simp [WritesMac]
  | members => exact Reads.list fun _ _ => Iff.rfl

/-- The values that write a datum of the type. -/
def Takes (t : FieldType) (v : Value) : Prop := ∃ x, t.Writes v x

/-- The error with which a value is refused that writes no datum of the type. -/
def Refuses (t : FieldType) (v : Value) (e : DecodeError) : Prop := t.decoder .json v = .error e

theorem takes_iff {t : FieldType} {v : Value} : t.Takes v ↔ ∃ x, t.decoder .json v = .ok x :=
  exists_congr fun x => (t.decoder_reads v x).symm

/-- A value is taken or refused. -/
theorem takes_iff_not_refuses {t : FieldType} {v : Value} : t.Takes v ↔ ¬∃ e, t.Refuses v e :=
  takes_iff.trans exists_eq_ok_iff

/-- A value writes one datum at most. -/
theorem Writes.unique {t : FieldType} {v : Value} {x y : t.Datum} (hx : t.Writes v x)
    (hy : t.Writes v y) : x = y :=
  Except.ok.inj (((t.decoder_reads v x).mpr hx).symm.trans ((t.decoder_reads v y).mpr hy))

/-- For a type of whole numbers, how many there are, and the number that a datum is. -/
def counter? : (t : FieldType) → Option (Nat × (t.Datum → Nat))
  | word64 => some (18446744073709551616, UInt64.toNat)
  | word32 => some (4294967296, UInt32.toNat)
  | rate | flag | text | texts | link | operStatus | session | synchronization | address | mac
  | members => none

/-- A whole number is written as it is. -/
theorem eq_int_of_writes {t : FieldType} {bound : Nat} {number : t.Datum → Nat}
    (h : t.counter? = some (bound, number)) {v : Value} {x : t.Datum} (hx : t.Writes v x) :
    v = .int (number x) ∧ number x < bound := by
  cases t with
  | word64 =>
      cases h
      exact ⟨hx, UInt64.toNat_lt x⟩
  | word32 =>
      cases h
      exact ⟨hx, UInt32.toNat_lt x⟩
  | _ => cases h

/-- The numbers below the bound are taken, and nothing else is. -/
theorem takes_counter_iff {t : FieldType} {bound : Nat} {number : t.Datum → Nat}
    (h : t.counter? = some (bound, number)) {v : Value} :
    t.Takes v ↔ ∃ n : Nat, v = .int n ∧ n < bound := by
  constructor
  · rintro ⟨x, hx⟩
    exact ⟨number x, eq_int_of_writes h hx⟩
  · rintro ⟨n, rfl, hn⟩
    cases t with
    | word64 =>
        cases h
        exact ⟨UInt64.ofNat n, congrArg Value.int (by rw [UInt64.toNat_ofNat_of_lt' hn])⟩
    | word32 =>
        cases h
        exact ⟨UInt32.ofNat n, congrArg Value.int (by rw [UInt32.toNat_ofNat_of_lt' hn])⟩
    | _ => cases h

end FieldType

/-! ### Columns -/

/-- A field of a record type, and where it is in a record. -/
structure Column (ρ : Type) where
  name : String
  required : Bool
  type : FieldType
  get : ρ → type.Datum

variable {ρ : Type}

/-- A column that has its preset datum if it is not written. -/
def Column.optional (name : String) (type : FieldType) (get : ρ → type.Datum) : Column ρ :=
  ⟨name, false, type, get⟩

/-- A column that must be written. -/
def Column.mandatory (name : String) (type : FieldType) (get : ρ → type.Datum) : Column ρ :=
  ⟨name, true, type, get⟩

/-- The column takes the member, if the member is its own. -/
def Column.TakesMember (c : Column ρ) (m : String × Value) : Prop := c.name = m.1 → c.type.Takes m.2

/-- The first member that is not taken by the column of its name is refused with the error. -/
inductive FirstRefusal (cs : List (Column ρ)) : List (String × Value) → DecodeError → Prop
  | here {c : Column ρ} {m : String × Value} {ms : List (String × Value)} {e : DecodeError}
      (hc : c ∈ cs) (hname : c.name = m.1) (h : c.type.Refuses m.2 e) : FirstRefusal cs (m :: ms) e
  | later {m : String × Value} {ms : List (String × Value)} {e : DecodeError}
      (hm : ∀ c ∈ cs, c.TakesMember m) (h : FirstRefusal cs ms e) : FirstRefusal cs (m :: ms) e

/-- The field reads the type of the column and puts what it reads into the place of the column,
where it is in the way of no other column. -/
structure Column.IsFilledBy (c : Column ρ) (cs : List (Column ρ)) (x : Field ρ) : Prop where
  name : x.name = c.name
  required : x.required = c.required
  fills : ∃ put : c.type.Datum → ρ → ρ,
    (∀ v r, x.read .json v r = (c.type.decoder .json v).map fun a => put a r) ∧
      (∀ a r, c.get (put a r) = a) ∧
      ∀ c' ∈ cs, c'.name ≠ c.name → ∀ a r, c'.get (put a r) = c'.get r

section
variable {cs : List (Column ρ)} {name : String} {type : FieldType} {get : ρ → type.Datum}
  {put : type.Datum → ρ → ρ}

/-- A field that may be left out fills such a column, if what it puts into a record is found there
and changes nothing else. -/
theorem Column.IsFilledBy.optional (hget : ∀ a r, get (put a r) = a)
    (hothers : ∀ c ∈ cs, c.name ≠ name → ∀ a r, c.get (put a r) = c.get r) :
    (Column.optional name type get).IsFilledBy cs (.optional name type.decoder put) :=
  ⟨rfl, rfl, put, fun _ _ => rfl, hget, hothers⟩

/-- So does a field that must be written. -/
theorem Column.IsFilledBy.mandatory (hget : ∀ a r, get (put a r) = a)
    (hothers : ∀ c ∈ cs, c.name ≠ name → ∀ a r, c.get (put a r) = c.get r) :
    (Column.mandatory name type get).IsFilledBy cs (.mandatory name type.decoder put) :=
  ⟨rfl, rfl, put, fun _ _ => rfl, hget, hothers⟩

end

/-- The record type has these columns and no more, and takes no notice of other members. -/
structure HasColumns (s : Schema ρ) (cs : List (Column ρ)) : Prop where
  fields : List.Forall₂ (fun x c => c.IsFilledBy cs x) s.fields cs
  nodup : (cs.map (·.name)).Nodup
  lenient : s.strict = false
  preset : ∀ c ∈ cs, c.get s.initial = c.type.preset
  ext : ∀ r r', (∀ c ∈ cs, c.get r = c.get r') → r = r'

/-- The key is the name of a column. -/
def isColumn (cs : List (Column ρ)) (k : String) : Bool := cs.any fun c => c.name == k

theorem isColumn_iff {cs : List (Column ρ)} {k : String} :
    isColumn cs k = true ↔ ∃ c ∈ cs, c.name = k := by
  simp [isColumn]

/-- The first column that must be written and is not. -/
def missing? (cs : List (Column ρ)) (ms : List (String × Value)) : Option (Column ρ) :=
  cs.find? fun c => c.required && (Entries.find? c.name ms).isNone

theorem missing?_eq_none_iff {cs : List (Column ρ)} {ms : List (String × Value)} :
    missing? cs ms = none ↔ ∀ c ∈ cs, c.required = true → (Entries.find? c.name ms).isSome := by
  rw [missing?, List.find?_eq_none]
  refine forall₂_congr fun c _ => ?_
  cases c.required <;> cases Entries.find? c.name ms <;> simp

namespace HasColumns

variable {s : Schema ρ} {cs : List (Column ρ)} {c : Column ρ} {ms ms' : List (String × Value)}
  {k : String} {v : Value} {r r' : ρ} {e : DecodeError}

/-! ### Members one after the other -/

/-- A column is known by its name. -/
theorem eq_of_name_eq (h : HasColumns s cs) {c' : Column ρ} (hc : c ∈ cs) (hc' : c' ∈ cs)
    (hname : c.name = c'.name) : c = c' :=
  List.inj_on_of_nodup_map h.nodup hc hc' hname

/-- A name is that of a column, and of the field that fills it, or of neither. -/
theorem field?_cases (h : HasColumns s cs) (k : String) :
    (∃ c ∈ cs, c.name = k ∧ ∃ x, s.field? k = some x ∧ c.IsFilledBy cs x) ∨
      (∀ c ∈ cs, c.name ≠ k) ∧ s.field? k = none := by
  suffices hfields : ∀ {xs : List (Field ρ)} {cs' : List (Column ρ)},
      List.Forall₂ (fun x c => c.IsFilledBy cs x) xs cs' →
      (∃ c ∈ cs', c.name = k ∧ ∃ x, xs.find? (·.name == k) = some x ∧ c.IsFilledBy cs x) ∨
        (∀ c ∈ cs', c.name ≠ k) ∧ xs.find? (·.name == k) = none from hfields h.fields
  intro xs cs' hfields
  induction hfields with
  | nil => exact .inr ⟨fun _ hc => absurd hc List.not_mem_nil, rfl⟩
  | @cons x c xs cs' hx _ ih =>
      rw [List.find?_cons]
      by_cases hk : c.name = k
      · have hfound : (x.name == k) = true := beq_iff_eq.mpr (hx.name.trans hk)
        rw [hfound]
        exact .inl ⟨c, List.mem_cons_self, hk, x, rfl, hx⟩
      · have hskip : (x.name == k) = false := beq_false_of_ne fun heq => hk (hx.name.symm.trans heq)
        rw [hskip]
        rcases ih with ⟨c', hc', hrest⟩ | ⟨hnames, hnone⟩
        · exact .inl ⟨c', List.mem_cons_of_mem c hc', hrest⟩
        · exact .inr ⟨List.forall_mem_cons.mpr ⟨hk, hnames⟩, hnone⟩

/-- A member that no column has the name of is passed over. -/
theorem readMembers_cons_of_ne (h : HasColumns s cs) (hk : ∀ c ∈ cs, c.name ≠ k) :
    s.readMembers .json ((k, v) :: ms) r = s.readMembers .json ms r := by
  rcases h.field?_cases k with ⟨c, hc, hname, -⟩ | ⟨-, hnone⟩
  · exact absurd hname (hk c hc)
  · rw [Schema.readMembers, hnone, h.lenient]
    rfl

/-- A member of a column is read by its type and put into its place. -/
theorem exists_put (h : HasColumns s cs) (hc : c ∈ cs) :
    ∃ put : c.type.Datum → ρ → ρ,
      (∀ v ms r, s.readMembers .json ((c.name, v) :: ms) r =
        c.type.decoder .json v >>= fun a => s.readMembers .json ms (put a r)) ∧
      (∀ a r, c.get (put a r) = a) ∧
      ∀ c' ∈ cs, c' ≠ c → ∀ a r, c'.get (put a r) = c'.get r := by
  rcases h.field?_cases c.name with ⟨c', hc', hname, x, hx, hfilled⟩ | ⟨hnames, -⟩
  · obtain rfl := h.eq_of_name_eq hc' hc hname
    obtain ⟨put, hread, hget, hothers⟩ := hfilled.fills
    refine ⟨put, fun v ms r => ?_, hget, fun c'' hc'' hne =>
      hothers c'' hc'' fun heq => hne (h.eq_of_name_eq hc'' hc heq)⟩
    rw [Schema.readMembers, hx]
    show x.read .json v r >>= s.readMembers .json ms = _
    rw [hread]
    cases c'.type.decoder .json v <;> rfl
  · exact absurd rfl (hnames c hc)

/-- Only the column of its name can refuse a member. -/
theorem forall_takesMember_iff (h : HasColumns s cs) (hc : c ∈ cs) :
    (∀ c' ∈ cs, c'.TakesMember (c.name, v)) ↔ c.type.Takes v := by
  constructor
  · intro htakes
    exact htakes c hc rfl
  · intro htakes c' hc' hname
    obtain rfl := h.eq_of_name_eq hc' hc hname
    exact htakes

/-- The members are read if every one of them is taken, whatever the record is so far. -/
theorem exists_readMembers_iff (h : HasColumns s cs) :
    (∃ r', s.readMembers .json ms r = .ok r') ↔ ∀ m ∈ ms, ∀ c ∈ cs, c.TakesMember m := by
  induction ms generalizing r with
  | nil => exact ⟨fun _ m hm => absurd hm List.not_mem_nil, fun _ => ⟨r, rfl⟩⟩
  | cons m ms ih =>
      obtain ⟨k, v⟩ := m
      rw [List.forall_mem_cons]
      by_cases hk : ∃ c ∈ cs, c.name = k
      · obtain ⟨c, hc, rfl⟩ := hk
        obtain ⟨put, hread, -⟩ := h.exists_put hc
        rw [hread, h.forall_takesMember_iff hc, FieldType.takes_iff]
        cases c.type.decoder .json v with
        | ok a =>
            show (∃ r', s.readMembers .json ms (put a r) = .ok r') ↔ _
            rw [ih]
            simp
        | error e =>
            show (∃ r', Except.error e = .ok r') ↔ _
            simp
      · have hne : ∀ c ∈ cs, c.name ≠ k := fun c hc heq => hk ⟨c, hc, heq⟩
        rw [h.readMembers_cons_of_ne hne, ih]
        exact (and_iff_right fun c hc heq => absurd heq (hne c hc)).symm

/-- Otherwise the first one that is not taken is complained of. -/
theorem readMembers_eq_error_iff (h : HasColumns s cs) :
    s.readMembers .json ms r = .error e ↔ FirstRefusal cs ms e := by
  induction ms generalizing r with
  | nil =>
      constructor
      · intro hread
        cases hread
      · intro hfirst
        cases hfirst
  | cons m ms ih =>
      obtain ⟨k, v⟩ := m
      by_cases hk : ∃ c ∈ cs, c.name = k
      · obtain ⟨c, hc, rfl⟩ := hk
        obtain ⟨put, hread, -⟩ := h.exists_put hc
        rw [hread]
        cases hv : c.type.decoder .json v with
        | ok a =>
            have htakes : c.type.Takes v := FieldType.takes_iff.mpr ⟨a, hv⟩
            show s.readMembers .json ms (put a r) = .error e ↔ _
            rw [ih]
            constructor
            · exact .later ((h.forall_takesMember_iff hc).mpr htakes)
            · rintro (⟨hc', hname, hrefuses⟩ | ⟨-, hrest⟩)
              · obtain rfl := h.eq_of_name_eq hc' hc hname
                exact absurd ⟨e, hrefuses⟩ (FieldType.takes_iff_not_refuses.mp htakes)
              · exact hrest
        | error e' =>
            show Except.error e' = .error e ↔ _
            rw [Except.error.injEq]
            constructor
            · rintro rfl
              exact .here hc rfl hv
            · rintro (⟨hc', hname, hrefuses⟩ | ⟨htakes, -⟩)
              · obtain rfl := h.eq_of_name_eq hc' hc hname
                exact Except.error.inj (hv.symm.trans hrefuses)
              · exact absurd ⟨e', hv⟩ (FieldType.takes_iff_not_refuses.mp (htakes c hc rfl))
      · have hne : ∀ c ∈ cs, c.name ≠ k := fun c hc heq => hk ⟨c, hc, heq⟩
        rw [h.readMembers_cons_of_ne hne, ih]
        constructor
        · exact .later fun c hc heq => absurd heq (hne c hc)
        · rintro (⟨hc', hname, -⟩ | ⟨-, hrest⟩)
          · exact absurd hname (hne _ hc')
          · exact hrest

/-- In the end each column has what its member writes, or else what it had before. -/
theorem isSet_of_readMembers (h : HasColumns s cs) (hms : Entries.Sorted ms)
    (hread : s.readMembers .json ms r = .ok r') (hc : c ∈ cs) :
    IsSet c.type.Writes (c.get r) (c.get r') (Entries.find? c.name ms) := by
  induction ms generalizing r with
  | nil =>
      cases hread
      rfl
  | cons m ms ih =>
      obtain ⟨k, v⟩ := m
      obtain ⟨hlater, hrest⟩ := List.pairwise_cons.mp hms
      replace ih := fun {r} => ih (r := r) hrest
      by_cases hk : ∃ c' ∈ cs, c'.name = k
      · obtain ⟨c', hc', rfl⟩ := hk
        obtain ⟨put, hput, hget, hothers⟩ := h.exists_put hc'
        rw [hput] at hread
        obtain ⟨a, ha, hread⟩ := bind_eq_ok_iff.mp hread
        have hset := ih hread
        rw [Entries.find?]
        by_cases heq : c = c'
        · -- Keys increase, so the column has no second member that could change it again.
          subst heq
          rw [Entries.find?_eq_none_of_lt hlater] at hset
          rw [if_pos Std.ReflCmp.compare_self]
          show c.type.Writes v (c.get r')
          rw [show c.get r' = c.get (put a r) from hset, hget]
          exact (c.type.decoder_reads v a).mp ha
        · have hname : ¬compare c.name c'.name = .eq := fun hname =>
            heq (h.eq_of_name_eq hc hc' (Std.LawfulEqOrd.eq_of_compare hname))
          rw [if_neg hname]
          rwa [hothers c hc heq] at hset
      · have hne : ∀ c ∈ cs, c.name ≠ k := fun c hc heq => hk ⟨c, hc, heq⟩
        rw [h.readMembers_cons_of_ne hne] at hread
        rw [Entries.find?, if_neg fun hname => hne c hc (Std.LawfulEqOrd.eq_of_compare hname)]
        exact ih hread

/-! ### Objects -/

/-- The column that is missing is that of the field that is missing. -/
theorem map_name_missing? (h : HasColumns s cs) :
    (s.missing? ms).map (·.name) = (missing? cs ms).map (·.name) := by
  suffices hfields : ∀ {xs : List (Field ρ)} {cs' : List (Column ρ)},
      List.Forall₂ (fun x c => c.IsFilledBy cs x) xs cs' →
      (xs.find? fun x => x.required && !ms.any fun m => m.1 == x.name).map (·.name) =
        (missing? cs' ms).map (·.name) from hfields h.fields
  intro xs cs' hfields
  induction hfields with
  | nil => rfl
  | @cons x c xs cs' hx _ ih =>
      rw [missing?, List.find?_cons, List.find?_cons, hx.required, hx.name,
        Entries.isNone_find?]
      cases c.required && !ms.any fun m => m.1 == c.name with
      | true => exact congrArg some hx.name
      | false => exact ih

/-- An object is read in two steps: its members, and whether a column is missing. -/
theorem decode_object (h : HasColumns s cs) :
    s.decode .json (.object ms) = s.readMembers .json ms s.initial >>= fun r =>
      match missing? cs ms with
      | some c => .error (.missingField c.name)
      | none => .ok r := by
  have hmissing : (s.missing? ms).map (·.name) = (missing? cs ms).map (·.name) :=
    h.map_name_missing?
  rw [Schema.decode, Schema.ofMembers]
  cases hx : s.missing? ms <;> cases hc : missing? cs ms <;> rw [hx, hc] at hmissing
  · rfl
  · cases hmissing
  · cases hmissing
  · rename_i x c
    have hname : x.name = c.name := Option.some.inj hmissing
    simp only [← hname]
    rfl

/-- A record is read exactly if every member is taken and no column is missing. -/
theorem exists_decode_object_iff (h : HasColumns s cs) :
    (∃ r, s.decode .json (.object ms) = .ok r) ↔
      (∀ m ∈ ms, ∀ c ∈ cs, c.TakesMember m) ∧
        ∀ c ∈ cs, c.required = true → (Entries.find? c.name ms).isSome := by
  rw [h.decode_object, ← missing?_eq_none_iff, ← h.exists_readMembers_iff (r := s.initial)]
  simp only [bind_eq_ok_iff]
  cases missing? cs ms <;> simp

/-- If none is read, the first member that is not taken is complained of, and a missing column only
if every member is taken. -/
theorem decode_object_eq_error_iff (h : HasColumns s cs) :
    s.decode .json (.object ms) = .error e ↔
      FirstRefusal cs ms e ∨ (∀ m ∈ ms, ∀ c ∈ cs, c.TakesMember m) ∧
        ∃ c, missing? cs ms = some c ∧ e = .missingField c.name := by
  rw [h.decode_object, bind_eq_error_iff, h.readMembers_eq_error_iff,
    ← h.exists_readMembers_iff (r := s.initial)]
  refine or_congr_right ?_
  cases missing? cs ms <;> simp [eq_comm]

/-- The record that is read is the only one in which every column has what its member writes, or its
preset datum. -/
theorem decode_object_eq_ok_iff (h : HasColumns s cs) (hms : Entries.Sorted ms) :
    s.decode .json (.object ms) = .ok r ↔
      (∀ c ∈ cs, IsSet c.type.Writes c.type.preset (c.get r) (Entries.find? c.name ms)) ∧
        ∀ c ∈ cs, c.required = true → (Entries.find? c.name ms).isSome := by
  have hset : ∀ {r}, s.decode .json (.object ms) = .ok r → ∀ c ∈ cs,
      IsSet c.type.Writes c.type.preset (c.get r) (Entries.find? c.name ms) := by
    intro r hread c hc
    rw [h.decode_object] at hread
    obtain ⟨r₁, hr₁, hread⟩ := bind_eq_ok_iff.mp hread
    split at hread
    · cases hread
    · cases hread
      rw [← h.preset c hc]
      exact h.isSet_of_readMembers hms hr₁ hc
  constructor
  · intro hread
    exact ⟨hset hread, (h.exists_decode_object_iff.mp ⟨r, hread⟩).2⟩
  · rintro ⟨hr, hrequired⟩
    have htaken : ∀ m ∈ ms, ∀ c ∈ cs, c.TakesMember m := by
      intro m hm c hc hname
      have hwrites := hr c hc
      rw [hname, hms.find?_eq_some_iff.mpr hm] at hwrites
      exact ⟨c.get r, hwrites⟩
    obtain ⟨r', hr'⟩ := h.exists_decode_object_iff.mpr ⟨htaken, hrequired⟩
    -- Both records have the same in every column, as a member writes one datum only.
    have heq : r' = r := by
      refine h.ext r' r fun c hc => ?_
      have hleft := hset hr' c hc
      have hright := hr c hc
      cases hv : Entries.find? c.name ms with
      | none =>
          rw [hv] at hleft hright
          exact Eq.trans hleft (Eq.symm hright)
      | some v =>
          rw [hv] at hleft hright
          exact FieldType.Writes.unique hleft hright
    rw [hr', heq]

/-- Members that no column has the name of make no difference. -/
theorem readMembers_filter (h : HasColumns s cs) :
    s.readMembers .json (ms.filter fun m => isColumn cs m.1) r = s.readMembers .json ms r := by
  induction ms generalizing r with
  | nil => rfl
  | cons m ms ih =>
      obtain ⟨k, v⟩ := m
      by_cases hk : isColumn cs k = true
      · rw [List.filter_cons, if_pos hk]
        obtain ⟨c, hc, rfl⟩ := isColumn_iff.mp hk
        obtain ⟨put, hput, -⟩ := h.exists_put hc
        rw [hput, hput]
        exact congrArg _ (funext fun _ => ih)
      · have hne : ∀ c ∈ cs, c.name ≠ k := fun c hc heq => hk (isColumn_iff.mpr ⟨c, hc, heq⟩)
        rw [List.filter_cons, if_neg hk, h.readMembers_cons_of_ne hne, ih]

/-- So objects that have the same under the names of the columns are read alike. -/
theorem decode_object_congr (h : HasColumns s cs) (hms : Entries.Sorted ms)
    (hms' : Entries.Sorted ms')
    (heq : ∀ c ∈ cs, Entries.find? c.name ms' = Entries.find? c.name ms) :
    s.decode .json (.object ms') = s.decode .json (.object ms) := by
  have hfilter : (ms'.filter fun m => isColumn cs m.1) = ms.filter fun m => isColumn cs m.1 := by
    refine Entries.Sorted.ext (hms'.sublist List.filter_sublist)
      (hms.sublist List.filter_sublist) fun k => ?_
    rw [Entries.find?_filter_keys, Entries.find?_filter_keys]
    split
    · rename_i hk
      obtain ⟨c, hc, rfl⟩ := isColumn_iff.mp hk
      exact heq c hc
    · rfl
  have hmissing : missing? cs ms' = missing? cs ms := by
    rw [missing?, missing?, ← List.head?_filter, ← List.head?_filter]
    exact congrArg _ (List.filter_congr fun c hc => by rw [heq c hc])
  rw [h.decode_object, h.decode_object, ← h.readMembers_filter, hfilter, h.readMembers_filter,
    hmissing]

end HasColumns

end Telemetry

end Convergence
