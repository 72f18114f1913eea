import Convergence.Proofs.Text.Split
import Convergence.Table
import Mathlib

/-!
# `Convergence.Proofs.Table`: how tables are laid out, and that they can be read back

A table is read back from its text and the widths of its columns alone.  Three facts carry this:

* `hasLines_text`: where no title, column name or cell holds a line break, the lines of the text are
  those of the table.
* `shows_line`: a line is made of its cells in order, as many as there are columns, each with blanks
  behind it up to the width of its column (`Shows`).  A cell that is wider than its column is there
  in full, and moves those behind it.
* `Shows.readLine_eq`: so where every cell fits its column, the cells stand at fixed places, and
  what is cut out there is the cell and blanks.  A cell that ends with a blank does not fit: where
  it ends cannot be seen.

Nothing here looks at what a table is about.  `RecordTable` lists the tables that show records:
each has one row for each record, in the order of the records.
-/

set_option autoImplicit false

namespace Convergence

namespace Table

/-! ### What a table consists of -/

/-- The widths of the columns. -/
def widths (t : Table) : List Nat := t.columns.map (·.2)

/-- The names of the columns. -/
def names (t : Table) : List String := t.columns.map (·.1)

/-- A rule. -/
def rule (t : Table) : List Char := List.replicate t.width '-'

/-- No text in the table goes on to another line. -/
structure Unbroken (t : Table) : Prop where
  title : '\n' ∉ t.title.toList
  names : ∀ name ∈ t.names, '\n' ∉ name.toList
  cells : ∀ row ∈ t.rows, ∀ cell ∈ row, '\n' ∉ cell.toList

/-- The text has no more characters than its column is wide, and it is seen where it ends. -/
structure FitsIn (width : Nat) (s : String) : Prop where
  length_le : s.length ≤ width
  getLast?_ne : s.toList.getLast? ≠ some ' '

instance (width : Nat) (s : String) : Decidable (FitsIn width s) :=
  decidable_of_iff (s.length ≤ width ∧ s.toList.getLast? ≠ some ' ')
    ⟨fun h => ⟨h.1, h.2⟩, fun h => ⟨h.1, h.2⟩⟩

/-- The names of the columns and all cells fit, and every row has a cell for each column. -/
structure Fits (t : Table) : Prop where
  names : ∀ column ∈ t.columns, FitsIn column.2 column.1
  rows : ∀ row ∈ t.rows, List.Forall₂ FitsIn t.widths row

/-! ### Lines -/

/-- The part of a line that shows a text: the whole text, and blanks behind it up to the width. -/
structure IsPadded (width : Nat) (s : String) (part : List Char) : Prop where
  blanks : ∃ n, part = s.toList ++ List.replicate n ' '
  length : part.length = max width s.length

/-- The line shows the cells in order, the first ones of them if there are fewer columns. -/
def Shows (widths : List Nat) (cells : List String) (line : List Char) : Prop :=
  ∃ parts : List (List Char), line = parts.flatten ∧
    parts.length = min cells.length widths.length ∧
    ∀ (i width : Nat) (cell : String) (part : List Char), widths[i]? = some width →
      cells[i]? = some cell → parts[i]? = some part → IsPadded width cell part

theorem isPadded_pad (width : Nat) (s : String) : IsPadded width s (pad width s) where
  blanks := ⟨_, rfl⟩
  length := by
    rw [pad, List.length_append, List.length_replicate, String.length_toList]
    omega

/-- A line of a table shows its cells. -/
theorem shows_line (t : Table) (cells : List String) : Shows t.widths cells (t.line cells) := by
  refine ⟨List.zipWith (fun c s => pad c.2 s) t.columns cells, rfl, ?_, ?_⟩
  · rw [List.length_zipWith, widths, List.length_map, Nat.min_comm]
  · intro i width cell part hwidth hcell hpart
    obtain ⟨column, s, hcolumn, hs, rfl⟩ := List.getElem?_zipWith_eq_some.mp hpart
    rw [widths, List.getElem?_map, hcolumn] at hwidth
    obtain rfl : column.2 = width := Option.some.inj hwidth
    obtain rfl : s = cell := Option.some.inj (hs.symm.trans hcell)
    exact isPadded_pad _ _

namespace Shows

variable {width : Nat} {widths : List Nat} {cell : String} {cells : List String}
  {line : List Char}

/-- Without columns there is nothing on the line. -/
theorem eq_nil (h : Shows [] cells line) : line = [] := by
  obtain ⟨parts, rfl, hlength, -⟩ := h
  rw [List.length_nil, Nat.min_zero, List.length_eq_zero_iff] at hlength
  rw [hlength]
  rfl

/-- The first cell comes first. -/
theorem cons_inv (h : Shows (width :: widths) (cell :: cells) line) :
    ∃ part rest, line = part ++ rest ∧ IsPadded width cell part ∧ Shows widths cells rest := by
  obtain ⟨parts, rfl, hlength, hparts⟩ := h
  rw [List.length_cons, List.length_cons, Nat.add_min_add_right] at hlength
  cases parts with
  | nil => cases hlength
  | cons part parts =>
      refine ⟨part, parts.flatten, rfl, hparts 0 width cell part rfl rfl rfl, parts, rfl, ?_, ?_⟩
      · exact Nat.succ.inj hlength
      · exact fun i => hparts (i + 1)

/-- A line holds the characters of its cells, and blanks. -/
theorem not_mem (h : Shows widths cells line) {c : Char} (hc : c ≠ ' ')
    (hcells : ∀ cell ∈ cells, c ∉ cell.toList) : c ∉ line := by
  obtain ⟨parts, rfl, hlength, hparts⟩ := h
  intro hmem
  obtain ⟨part, hpart, hmem⟩ := List.mem_flatten.mp hmem
  obtain ⟨i, hi, rfl⟩ := List.getElem_of_mem hpart
  rw [hlength, Nat.lt_min] at hi
  obtain ⟨n, hn⟩ := (hparts i widths[i] cells[i] _ (List.getElem?_eq_getElem hi.2)
    (List.getElem?_eq_getElem hi.1) (List.getElem?_eq_getElem _)).blanks
  rw [hn, List.mem_append] at hmem
  obtain hmem | hmem := hmem
  · exact hcells _ (List.getElem_mem hi.1) hmem
  · exact hc (List.eq_of_mem_replicate hmem)

end Shows

/-! ### Reading -/

/-- What stands on a line in columns of these widths, without the blanks behind it. -/
def readLine (widths : List Nat) (line : List Char) : List String :=
  (widths.splitLengths line).map fun part => String.ofList (part.rdropWhile (· == ' '))

/-- The table that has been written as this text, with columns of these widths. -/
def read? (widths : List Nat) (text : String) : Option Table :=
  match Text.lines text.toList with
  | [] :: title :: rule :: header :: rest => some {
      title := String.ofList title
      width := rule.length
      columns := (readLine widths header).zip widths
      rows := rest.dropLast.map (readLine widths) }
  | _ => none

/-- Blanks behind a text that does not end with one can be told from it. -/
theorem rdropWhile_append_replicate {cs : List Char} (h : cs.getLast? ≠ some ' ') (n : Nat) :
    (cs ++ List.replicate n ' ').rdropWhile (· == ' ') = cs := by
  -- The blanks go one by one, from the end; the last character of the text is not one of them.
  induction n with
  | zero =>
      rw [List.replicate_zero, List.append_nil, List.rdropWhile_eq_self_iff]
      intro hne hlast
      rw [List.getLast?_eq_some_getLast hne, beq_iff_eq.mp hlast] at h
      exact h rfl
  | succ n ih =>
      rw [List.replicate_succ', ← List.append_assoc, List.rdropWhile_concat_pos _ _ _ rfl, ih]

/-- A text that fits is padded to the width, neither more nor less. -/
theorem IsPadded.length_eq {width : Nat} {s : String} {part : List Char}
    (h : IsPadded width s part) (hfit : FitsIn width s) : part.length = width := by
  rw [h.length, Nat.max_eq_left hfit.length_le]

/-- Cells that fit stand at fixed places. -/
theorem Shows.length_eq {widths : List Nat} {cells : List String} {line : List Char}
    (h : Shows widths cells line) (hfit : List.Forall₂ FitsIn widths cells) :
    line.length = widths.sum := by
  induction hfit generalizing line with
  | nil => rw [h.eq_nil, List.length_nil, List.sum_nil]
  | cons hcell _ ih =>
      obtain ⟨part, rest, rfl, hpart, hrest⟩ := h.cons_inv
      rw [List.length_append, hpart.length_eq hcell, ih hrest, List.sum_cons]

/-- So they are found there. -/
theorem Shows.readLine_eq {widths : List Nat} {cells : List String} {line : List Char}
    (h : Shows widths cells line) (hfit : List.Forall₂ FitsIn widths cells) :
    readLine widths line = cells := by
  induction hfit generalizing line with
  | nil => rfl
  | @cons width cell widths cells hcell _ ih =>
      obtain ⟨part, rest, rfl, hpart, hrest⟩ := h.cons_inv
      obtain ⟨n, hblanks⟩ := hpart.blanks
      have hlength : part.length = width := hpart.length_eq hcell
      rw [readLine, List.splitLengths_cons, List.map_cons, List.take_left' hlength,
        List.drop_left' hlength, hblanks, rdropWhile_append_replicate hcell.getLast?_ne,
        String.ofList_toList]
      exact congrArg _ (ih hrest)

-- A cell that is wider than its column moves what is behind it.
example : readLine [1, 1] (line ⟨"", 0, [("a", 1), ("b", 1)], []⟩ ["xy", "z"]) = ["x", "y"] := by
  decide

/-! ### The text -/

/-- The lines of a table, one by one. -/
theorem lines_eq (t : Table) :
    t.lines = [] :: t.title.toList :: t.rule :: t.line t.names :: (t.rows.map t.line ++ [t.rule]) :=
  rfl

/-- The text shows the table: an empty line, the title, a rule, the names of the columns, the cells
of each row and the rule again, each of them ended by a line break. -/
def IsShownBy (t : Table) (text : String) : Prop :=
  ∃ header body, text.toList =
      ([] :: t.title.toList :: t.rule :: header :: (body ++ [t.rule])).flatMap (· ++ ['\n']) ∧
    Shows t.widths t.names header ∧ List.Forall₂ (Shows t.widths) t.rows body

/-- The text of a table shows it, whatever its cells hold. -/
theorem isShownBy_text (t : Table) : t.IsShownBy t.text := by
  refine ⟨t.line t.names, t.rows.map t.line, String.toList_ofList, shows_line t t.names, ?_⟩
  rw [List.forall₂_map_right_iff, List.forall₂_same]
  exact fun row _ => shows_line t row

/-- Unless something in the table goes on to another line, its lines are those of the text. -/
theorem hasLines_text {t : Table} (h : t.Unbroken) : Text.HasLines t.text.toList t.lines where
  ended := String.toList_ofList
  unbroken := by
    have hrule : '\n' ∉ t.rule := fun hmem => absurd (List.eq_of_mem_replicate hmem) (by decide)
    have hline : ∀ cells : List String,
        (∀ cell ∈ cells, '\n' ∉ cell.toList) → '\n' ∉ t.line cells :=
      fun cells hcells => (shows_line t cells).not_mem (by decide) hcells
    intro l hl
    simp only [lines_eq, List.mem_cons, List.mem_append, List.mem_map, List.not_mem_nil,
      or_false] at hl
    rcases hl with rfl | rfl | rfl | rfl | ⟨row, hrow, rfl⟩ | rfl
    · exact List.not_mem_nil
    · exact h.title
    · exact hrule
    · exact hline _ h.names
    · exact hline _ (h.cells row hrow)
    · exact hrule

/-- The names of the columns are a row of cells that fits. -/
theorem Fits.forall₂_names {t : Table} (h : t.Fits) : List.Forall₂ FitsIn t.widths t.names := by
  rw [widths, Table.names, List.forall₂_map_left_iff, List.forall₂_map_right_iff, List.forall₂_same]
  exact h.names

/-- The rows are read back line by line. -/
theorem Fits.map_readLine {t : Table} (h : t.Fits) :
    (t.rows.map t.line).map (readLine t.widths) = t.rows := by
  rw [List.map_map]
  refine (List.map_congr_left fun row hrow => ?_).trans (List.map_id _)
  exact (shows_line t row).readLine_eq (h.rows row hrow)

/-- A table whose cells fit is read back from its text. -/
theorem read?_text {t : Table} (hunbroken : t.Unbroken) (hfits : t.Fits) :
    read? t.widths t.text = some t := by
  have hnames : readLine t.widths (t.line t.names) = t.names :=
    (shows_line t t.names).readLine_eq hfits.forall₂_names
  have hcolumns : t.names.zip t.widths = t.columns := by
    rw [names, widths, List.zip_map', List.map_id']
  rw [read?, (hasLines_text hunbroken).lines_eq, lines_eq]
  simp only [hnames, hcolumns, List.dropLast_concat, hfits.map_readLine, rule,
    List.length_replicate, String.ofList_toList]

end Table

/-! ### Tables of records -/

/-- The tables that show records. -/
inductive RecordTable where
  | ports
  | flows
  | bgp (title : String)
  | isis
  | lags
  | lacp
  | bundle (name : String)

namespace RecordTable

/-- What is shown in a row. -/
def Record : RecordTable → Type
  | ports => String × PortMetric
  | flows => String × FlowMetric
  | bgp _ => String × BgpMetric
  | isis => String × IsisMetric
  | lags => String × LagMetric
  | lacp => String × LacpMetric
  | bundle _ => BundleMember

/-- The table of some records. -/
def table : (k : RecordTable) → List k.Record → Table
  | ports => Table.ofPorts
  | flows => Table.ofFlows
  | bgp title => Table.ofBgp title
  | isis => Table.ofIsis
  | lags => Table.ofLags
  | lacp => Table.ofLacp
  | bundle name => Table.ofBundle name

/-- Whose record it is. -/
def owner : (k : RecordTable) → k.Record → String
  | ports => Prod.fst
  | flows => Prod.fst
  | bgp _ => Prod.fst
  | isis => Prod.fst
  | lags => Prod.fst
  | lacp => Prod.fst
  | bundle _ => BundleMember.interface

/-- The column that says so. -/
def ownerColumn : RecordTable → Nat
  | ports | flows | bgp _ | isis | lags => 0
  | lacp | bundle _ => 1

/-- The names of the columns fit, whatever is shown below them. -/
theorem fitsIn_columns (k : RecordTable) (records : List k.Record) :
    ∀ column ∈ (k.table records).columns, Table.FitsIn column.2 column.1 := by
  cases k <;> exact of_decide_eq_true rfl

/-- Each record makes one row, which does not depend on the others, says whose record it is, and has
a cell for each column. -/
theorem exists_row (k : RecordTable) :
    ∃ row : k.Record → List String, ∀ records, (k.table records).rows = records.map row ∧
      ∀ r, (row r).length = (k.table records).columns.length ∧
        (row r)[k.ownerColumn]? = some (k.owner r) := by
  -- The row of a record is the one that it has in a table of its own.
  refine ⟨fun r => (k.table [r]).rows.headD [], fun records => ?_⟩
  cases k <;> exact ⟨rfl, fun _ => ⟨rfl, rfl⟩⟩

end RecordTable

namespace Table

/-- **A table can be read back.**  Where nothing in a table goes on to another line, its text has
five lines more than the table has rows: an empty line, the title, a rule, the names of the columns,
the rows in order and the rule again.  The names and each row are shown on their line as far as
there are columns, each cell with blanks up to the width of its column, and never cut.  Where the
names and cells fit the columns, these lines are all of the same length, and cutting each of them at
the widths of the columns gives the names and cells back, so the whole table is found again.  The
tables of records have one row for each record, in order, with a cell for each column. -/
theorem laid_out_and_read_back :
    (∀ t : Table, t.Unbroken → ∃ header body,
      Text.HasLines t.text.toList
        ([] :: t.title.toList :: t.rule :: header :: (body ++ [t.rule])) ∧
      (Text.lines t.text.toList).length = t.rows.length + 5 ∧
      Shows t.widths t.names header ∧ List.Forall₂ (Shows t.widths) t.rows body ∧
      (t.Fits →
        (∀ line ∈ header :: body, line.length = t.widths.sum) ∧
        readLine t.widths header = t.names ∧ body.map (readLine t.widths) = t.rows ∧
        read? t.widths t.text = some t)) ∧
    ∀ k : RecordTable, ∃ row : k.Record → List String, ∀ records,
      (k.table records).rows = records.map row ∧
      ∀ r, (row r).length = (k.table records).columns.length ∧
        (row r)[k.ownerColumn]? = some (k.owner r) := by
  refine ⟨fun t hunbroken => ?_, RecordTable.exists_row⟩
  have hlines : Text.HasLines t.text.toList t.lines := hasLines_text hunbroken
  have hheader : Shows t.widths t.names (t.line t.names) := shows_line t t.names
  have hbody : List.Forall₂ (Shows t.widths) t.rows (t.rows.map t.line) := by
    rw [List.forall₂_map_right_iff, List.forall₂_same]
    exact fun row _ => shows_line t row
  refine ⟨t.line t.names, t.rows.map t.line, hlines, ?_, hheader, hbody, fun hfits => ?_⟩
  · rw [hlines.lines_eq, lines_eq]
    simp
  · refine ⟨?_, hheader.readLine_eq hfits.forall₂_names, hfits.map_readLine,
      read?_text hunbroken hfits⟩
    rw [List.forall_mem_cons, List.forall_mem_map]
    exact ⟨hheader.length_eq hfits.forall₂_names,
      fun row hrow => (shows_line t row).length_eq (hfits.rows row hrow)⟩

/-- A link whose name is not ASCII is read back, and a table of it has six lines. -/
theorem laid_out_and_read_back_lag :
    let lag : LagMetric := { operStatus := .up, memberPortsUp := 2, framesTx := 10, framesRx := 20 }
    let t := Table.ofLags [("Brücke", lag)]
    t.Unbroken ∧ t.Fits ∧ (Text.lines t.text.toList).length = 6 ∧
      read? [25, 15, 20, 15, 15] t.text = some t := by
  intro lag t
  have hunbroken : t.Unbroken := ⟨by decide, by decide, by decide⟩
  have hfits : t.Fits := ⟨RecordTable.lags.fitsIn_columns _, by decide⟩
  obtain ⟨header, body, -, hlength, -, -, hread⟩ := laid_out_and_read_back.1 t hunbroken
  exact ⟨hunbroken, hfits, hlength, (hread hfits).2.2.2⟩

end Table

end Convergence
