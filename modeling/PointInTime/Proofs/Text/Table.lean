import Mathlib.Algebra.GroupWithZero.Nat
import Mathlib.Data.List.Forall2
import PointInTime.Proofs.Text.Blank
import PointInTime.Text.Table

/-!
# Columns

A width counts bytes and padding counts characters.  No text has more characters than bytes, so that
every cell fits into its column, and what stands before a column is as long in one line as in
another.

Main statement: in every line of a table the cells of a column begin at the same place and stand
there in full, up to the white space at the end of the line.
-/

namespace PointInTime
namespace Text
namespace Table

variable {headers : List String} {rows : List (List String)} {column width : Nat}

/-!
## Widths
-/

/-- The largest number of bytes that a cell of a column has. -/
structure IsWidth (rows : List (List String)) (column width : Nat) : Prop where
  reached : ∃ row ∈ rows, ∃ cell, row[column]? = some cell ∧ cell.utf8ByteSize = width
  bound : ∀ row ∈ rows, ∀ cell, row[column]? = some cell → cell.utf8ByteSize ≤ width

theorem IsWidth.unique {width' : Nat} (h : IsWidth rows column width)
    (h' : IsWidth rows column width') : width = width' := by
  rcases h.reached with ⟨row, hrow, cell, hcell, hsize⟩
  rcases h'.reached with ⟨row', hrow', cell', hcell', hsize'⟩
  apply Nat.le_antisymm
  · rw [← hsize]
    exact h'.bound row hrow cell hcell
  · rw [← hsize']
    exact h.bound row' hrow' cell' hcell'

/-- Every character takes a byte at least. -/
theorem length_le_utf8ByteSize (s : List Char) : s.length ≤ (String.ofList s).utf8ByteSize := by
  induction s with
  | nil => exact Nat.zero_le _
  | cons c s ih =>
      have hc : 0 < c.utf8Size := c.utf8Size_pos
      rw [String.ofList_cons, String.utf8ByteSize_append, String.utf8ByteSize_singleton,
        List.length_cons]
      omega

theorem columnWidth_eq (rows : List (List String)) (column : Nat) :
    columnWidth rows column = ((rows.map (cellWidth column)).max?).getD 0 := by
  unfold columnWidth
  rw [← List.foldl_map, List.foldl_max, Nat.zero_max]

theorem isWidth_columnWidth (hcolumn : column < headers.length) :
    IsWidth (headers :: rows) column (columnWidth (headers :: rows) column) := by
  have hsome : ∃ width, ((headers :: rows).map (cellWidth column)).max? = some width :=
    ⟨_, List.max?_cons'⟩
  rcases hsome with ⟨width, hwidth⟩
  rw [columnWidth_eq, hwidth, Option.getD_some]
  rcases List.max?_eq_some_iff.mp hwidth with ⟨hmem, hle⟩
  have hbound : ∀ row ∈ headers :: rows, ∀ cell, row[column]? = some cell →
      cell.utf8ByteSize ≤ width := by
    intro row hrow cell hcell
    have hcellWidth := hle _ (List.mem_map_of_mem hrow)
    rw [cellWidth, hcell] at hcellWidth
    exact hcellWidth
  refine ⟨?_, hbound⟩
  rcases List.mem_map.mp hmem with ⟨row, hrow, hreached⟩
  unfold cellWidth at hreached
  cases hcell : row[column]? with
  | some cell =>
      rw [hcell] at hreached
      exact ⟨row, hrow, cell, hcell, hreached⟩
  | none =>
      -- Where the widest cell is one that is missing, the header is empty.
      rw [hcell] at hreached
      have hheader : headers[column]? = some headers[column] := List.getElem?_eq_getElem hcolumn
      have hempty := hbound headers List.mem_cons_self _ hheader
      rw [← show 0 = width from hreached] at hempty ⊢
      exact ⟨headers, List.mem_cons_self, _, hheader, Nat.le_zero.mp hempty⟩

/-!
## Cells in their places
-/

/-- A cell stands in a text between two places: it begins at the first one, and nothing but blanks
follow it up to the other one or to the end. -/
def Stands (s : List Char) (first next : Nat) (cell : String) : Prop :=
  ∃ before blanks after, s = before ++ cell.toList ++ blanks ++ after ∧
    before.length = first ∧ (∀ c ∈ blanks, c = ' ') ∧
    (after = [] ∨ (before ++ cell.toList ++ blanks).length = next)

theorem Stands.prepend {s : List Char} {first next : Nat} {cell : String}
    (h : Stands s first next cell) (before : List Char) :
    Stands (before ++ s) (before.length + first) (before.length + next) cell := by
  rcases h with ⟨earlier, blanks, after, rfl, hfirst, hblanks, hnext⟩
  refine ⟨before ++ earlier, blanks, after, by simp, by simp [hfirst], hblanks, ?_⟩
  rcases hnext with hend | hnext
  · exact Or.inl hend
  · right
    rw [← hnext]
    simp

/-- Where a column begins: behind all columns before it, and two blanks behind each of them. -/
def start (widths : List Nat) (column : Nat) : Nat :=
  ((widths.take column).map (· + 2)).sum

@[simp] theorem start_zero (widths : List Nat) : start widths 0 = 0 := rfl

@[simp] theorem start_succ (width : Nat) (widths : List Nat) (column : Nat) :
    start (width :: widths) (column + 1) = width + 2 + start widths column := by
  simp [start]

theorem padEnd_eq (width : Nat) (cell : String) :
    ∃ blanks, padEnd width cell.toList = cell.toList ++ blanks ∧ ∀ c ∈ blanks, c = ' ' :=
  ⟨_, rfl, fun _ hc => List.eq_of_mem_replicate hc⟩

theorem intercalate_paddedCells (width : Nat) (widths : List Nat) (cell : String)
    (cells : List String) :
    gap.intercalate (paddedCells (width :: widths) (cell :: cells)) =
      padEnd width cell.toList ++
        if cells = [] then [] else gap ++ gap.intercalate (paddedCells widths cells) := by
  cases cells with
  | nil => simp [paddedCells, List.intercalate_singleton]
  | cons next rest =>
      cases widths <;> simp [paddedCells, List.intercalate_cons_cons]

theorem length_padEnd_of_le {cell : List Char} (hfits : cell.length ≤ width) :
    (padEnd width cell).length = width := by
  rw [length_padEnd, Nat.max_eq_left hfits]

theorem stands_first {widths : List Nat} {cells : List String} {cell : String}
    (hfits : cell.toList.length ≤ width) :
    Stands (gap.intercalate (paddedCells (width :: widths) (cell :: cells))) 0 (width + 2)
      cell := by
  have hlength := length_padEnd_of_le hfits
  rcases padEnd_eq width cell with ⟨blanks, hpad, hblanks⟩
  rw [intercalate_paddedCells, hpad]
  rw [hpad] at hlength
  by_cases hcells : cells = []
  · exact ⟨[], blanks, [], by simp [hcells], rfl, hblanks, Or.inl rfl⟩
  · refine ⟨[], blanks ++ gap, gap.intercalate (paddedCells widths cells), ?_, rfl, ?_, ?_⟩
    · simp [hcells]
    · intro c hc
      rcases List.mem_append.mp hc with hblank | hgap
      · exact hblanks c hblank
      · exact List.eq_of_mem_replicate (n := 2) hgap
    · right
      rw [List.nil_append, ← List.append_assoc, List.length_append, hlength]
      rfl

/-- By induction on the column: what stands before it is as long as the first column with its gap
and what stands before it in the others. -/
theorem stands_intercalate {widths : List Nat} {cells : List String} {cell : String}
    (hfits : ∀ (i w : Nat) (c : String), widths[i]? = some w → cells[i]? = some c →
      c.toList.length ≤ w)
    (hcolumn : column < widths.length) (hcell : cells[column]? = some cell) :
    Stands (gap.intercalate (paddedCells widths cells)) (start widths column)
      (start widths (column + 1)) cell := by
  induction column generalizing widths cells with
  | zero =>
      rcases List.exists_cons_of_length_pos hcolumn with ⟨w, ws, rfl⟩
      cases cells with
      | nil => cases hcell
      | cons c rest =>
          cases hcell
          rw [start_succ, start_zero]
          exact stands_first (hfits 0 w cell rfl rfl)
  | succ column ih =>
      cases widths with
      | nil => cases hcolumn
      | cons w ws =>
          cases cells with
          | nil => cases hcell
          | cons c rest =>
              have hrest : rest ≠ [] := by
                intro hnil
                rw [hnil] at hcell
                cases hcell
              have hlater := ih (fun i => hfits (i + 1)) (Nat.lt_of_succ_lt_succ hcolumn) hcell
              have hbefore : (padEnd w c.toList ++ gap).length = w + 2 := by
                rw [List.length_append, length_padEnd_of_le (hfits 0 w c rfl rfl)]
                rfl
              rw [intercalate_paddedCells, if_neg hrest, ← List.append_assoc, start_succ,
                start_succ, ← hbefore]
              exact hlater.prepend _

/-!
## Lines
-/

theorem length_widths (headers : List String) (rows : List (List String)) :
    (widths headers rows).length = headers.length := by
  simp [widths]

theorem isWidth_of_widths (hwidth : (widths headers rows)[column]? = some width) :
    IsWidth (headers :: rows) column width := by
  rcases List.getElem?_eq_some_iff.mp hwidth with ⟨hcolumn, rfl⟩
  rw [length_widths] at hcolumn
  simpa [widths] using isWidth_columnWidth hcolumn

/-- The cells of a row stand in their columns, once the line has back the white space that it lost
at its end; it has lost all of it. -/
structure Aligned (widths : List Nat) (cells : List String) (line : String) : Prop where
  trimmed : ∀ c, line.toList.getLast? = some c → isBlank c = false
  stands : ∃ blanks, (∀ c ∈ blanks, isBlank c = true) ∧
    ∀ column cell, column < widths.length → cells[column]? = some cell →
      Stands (line.toList ++ blanks) (start widths column) (start widths (column + 1)) cell

theorem aligned_line {cells : List String} (hcells : cells ∈ headers :: rows) :
    Aligned (widths headers rows) cells (line (widths headers rows) cells) where
  trimmed := by
    intro c hc
    rw [line, String.toList_ofList] at hc
    exact isBlank_of_getLast?_trimEnd hc
  stands := by
    rw [line, String.toList_ofList]
    rcases exists_trimEnd_append (gap.intercalate (paddedCells (widths headers rows) cells)) with
      ⟨blanks, hblanks, hline⟩
    refine ⟨blanks, hblanks, ?_⟩
    intro column cell hcolumn hcell
    rw [← hline]
    apply stands_intercalate _ hcolumn hcell
    intro i w c hw hc
    have hchars := length_le_utf8ByteSize c.toList
    rw [String.ofList_toList] at hchars
    exact Nat.le_trans hchars ((isWidth_of_widths hw).bound cells hcells c hc)

theorem columns_aligned (headers : List String) (rows : List (List String)) :
    ∃ widths : List Nat, widths.length = headers.length ∧
      (∀ column width, widths[column]? = some width →
        IsWidth (headers :: rows) column width) ∧
      List.Forall₂ (Aligned widths) (headers :: rows) (render headers rows) := by
  refine ⟨widths headers rows, length_widths headers rows, ?_, ?_⟩
  · intro column width hwidth
    exact isWidth_of_widths hwidth
  · unfold render
    rw [List.forall₂_map_right_iff, List.forall₂_same]
    intro cells hcells
    exact aligned_line hcells

def exampleHeaders : List String :=
  ["NAME", "STATE"]

/-- One row has a cell for each header, one is shorter and one is longer. -/
def exampleRows : List (List String) :=
  [["größe", "läuft "], ["b1"], ["b2", "", "late"]]

/-- The first column is seven bytes wide, though no cell of it has more than five characters. -/
theorem columns_of_umlauts_aligned :
    ∃ widths, start widths 1 = 9 ∧
      List.Forall₂ (Aligned widths) (exampleHeaders :: exampleRows)
        ["NAME     STATE", "größe    läuft", "b1", "b2                late"] := by
  have hlines : render exampleHeaders exampleRows =
      ["NAME     STATE", "größe    läuft", "b1", "b2                late"] := by
    decide +kernel
  have hseven : IsWidth (exampleHeaders :: exampleRows) 0 7 := by
    have hcolumn : 0 < exampleHeaders.length := by
      decide
    have hwidth : columnWidth (exampleHeaders :: exampleRows) 0 = 7 := by
      decide +kernel
    rw [← hwidth]
    exact isWidth_columnWidth hcolumn
  rcases columns_aligned exampleHeaders exampleRows with ⟨widths, hlength, hwidths, haligned⟩
  rw [hlines] at haligned
  cases widths with
  | nil => cases hlength
  | cons width rest =>
      have hfirst := (hwidths 0 width rfl).unique hseven
      subst hfirst
      exact ⟨7 :: rest, rfl, haligned⟩

end Table
end Text
end PointInTime
