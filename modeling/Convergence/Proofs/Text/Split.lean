import Convergence.Text.Split

/-!
# `Convergence.Proofs.Text.Split`: the parts of a text, and its lines

Cutting a text undoes joining parts: parts that do not hold the separator come out as they went in
(`splitAt_joinWith`).

A text of lines is another matter than parts with line breaks between them, since each line is ended
by a line break, the last one too.  `HasLines` says so, and `HasLines.lines_eq` that the lines of
such a text are what is found by cutting at the line breaks, so that a text has no other lines.
-/

set_option autoImplicit false

namespace Convergence.Text

/-! ### Parts -/

/-- A part without the separator is cut off whole. -/
theorem splitAt_append_cons {sep : Char} {part : List Char} (h : sep ∉ part)
    (cs : List Char) : splitAt sep (part ++ sep :: cs) = part :: splitAt sep cs := by
  induction part with
  | nil => rw [List.nil_append, splitAt, if_pos rfl]
  | cons c part ih =>
      rw [List.mem_cons, not_or] at h
      obtain ⟨hc, hpart⟩ := h
      rw [List.cons_append, splitAt, if_neg (Ne.symm hc), ih hpart]

/-- Parts without the separator are what a text is cut into that joins them. -/
theorem splitAt_joinWith {sep : Char} {parts : List (List Char)} (hne : parts ≠ [])
    (h : ∀ part ∈ parts, sep ∉ part) : splitAt sep (joinWith sep parts) = parts := by
  induction parts with
  | nil => exact absurd rfl hne
  | cons part parts ih =>
      obtain ⟨hpart, hparts⟩ := List.forall_mem_cons.mp h
      cases parts with
      | nil =>
          -- The last part has no separator behind it.
          clear ih hne h
          show splitAt sep part = [part]
          induction part with
          | nil => rfl
          | cons c cs ih =>
              rw [List.mem_cons, not_or] at hpart
              obtain ⟨hc, hcs⟩ := hpart
              rw [splitAt, if_neg (Ne.symm hc), ih hcs]
      | cons next parts =>
          show splitAt sep (part ++ sep :: joinWith sep (next :: parts)) = _
          rw [splitAt_append_cons hpart, ih (List.cons_ne_nil _ _) hparts]

/-! ### Lines -/

/-- The lines of a text whose lines are all ended by a line break. -/
def lines (cs : List Char) : List (List Char) := (splitAt '\n' cs).dropLast

/-- The text consists of these lines, each ended by one line break. -/
structure HasLines (cs : List Char) (ls : List (List Char)) : Prop where
  ended : cs = ls.flatMap fun l => l ++ ['\n']
  unbroken : ∀ l ∈ ls, '\n' ∉ l

/-- What is behind the last line break is empty. -/
theorem splitAt_flatMap_lines {ls : List (List Char)} (h : ∀ l ∈ ls, '\n' ∉ l) :
    splitAt '\n' (ls.flatMap fun l => l ++ ['\n']) = ls ++ [[]] := by
  induction ls with
  | nil => rfl
  | cons l ls ih =>
      obtain ⟨hl, hls⟩ := List.forall_mem_cons.mp h
      rw [List.flatMap_cons, List.append_assoc, List.singleton_append, splitAt_append_cons hl,
        ih hls]
      rfl

/-- The lines of a text are found at its line breaks. -/
theorem HasLines.lines_eq {cs : List Char} {ls : List (List Char)} (h : HasLines cs ls) :
    lines cs = ls := by
  rw [lines, h.ended, splitAt_flatMap_lines h.unbroken, List.dropLast_concat]

end Convergence.Text
