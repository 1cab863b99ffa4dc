import PointInTime.Text.Blank

/-!
# Tables

Rows of cells are shown in columns, each as wide as its widest cell, with two blanks in between and
no blanks at the end of a line.  A width is a number of bytes and padding counts characters, so a
column with a letter that takes several bytes is wider than it has to be.
-/

namespace PointInTime
namespace Text
namespace Table

/-- The bytes of the cell of a row in a column; a row that is too short has none there. -/
def cellWidth (column : Nat) (row : List String) : Nat :=
  (row[column]?.map String.utf8ByteSize).getD 0

def columnWidth (rows : List (List String)) (column : Nat) : Nat :=
  rows.foldl (fun width row => max width (cellWidth column row)) 0

def widths (headers : List String) (rows : List (List String)) : List Nat :=
  (List.range headers.length).map (columnWidth (headers :: rows))

def padEnd (width : Nat) (s : List Char) : List Char :=
  s ++ List.replicate (width - s.length) ' '

theorem length_padEnd (width : Nat) (s : List Char) :
    (padEnd width s).length = max width s.length := by
  simp only [padEnd, List.length_append, List.length_replicate]
  omega

def gap : List Char := [' ', ' ']

/-- The padded cells of a row; cells without a header are as wide as they are. -/
def paddedCells : List Nat → List String → List (List Char)
  | _, [] => []
  | [], cell :: cells => padEnd 0 cell.toList :: paddedCells [] cells
  | width :: widths, cell :: cells => padEnd width cell.toList :: paddedCells widths cells

def line (widths : List Nat) (cells : List String) : String :=
  String.ofList (trimEnd (gap.intercalate (paddedCells widths cells)))

def render (headers : List String) (rows : List (List String)) : List String :=
  (headers :: rows).map (line (widths headers rows))

end Table
end Text
end PointInTime
