/-
Rows of cells as aligned columns. Every cell but the last of its row is filled up with blanks to two
more than the widest cell of its column, counted in characters; the last one is left as it is.
-/
import StackTypes.Text.Utf8

namespace StackTypes.Columns

/-- The blanks that keep two columns apart. -/
def gap : Nat := 2

/-- Position by position the larger number; the longer list decides the length. -/
def widest : List Nat → List Nat → List Nat
  | [], ws => ws
  | vs, [] => vs
  | v :: vs, w :: ws => max v w :: widest vs ws

/-- The width of each column: the widest cell in it. -/
def widths (rows : List (List Bytes)) : List Nat :=
  rows.foldr (fun cells ws => widest (cells.map Utf8.count) ws) []

/-- One row, its cells filled up to the widths. -/
def row : List Nat → List Bytes → Bytes
  | _, [] => []
  | _, [cell] => cell
  | [], cell :: cells => cell ++ row [] cells
  | w :: ws, cell :: cells =>
    cell ++ List.replicate (w + gap - Utf8.count cell) 0x20 ++ row ws cells

/-- All rows, each with a line end. -/
def layout (rows : List (List Bytes)) : Bytes :=
  let ws := widths rows
  rows.flatMap fun cells => row ws cells ++ [0x0A]

end StackTypes.Columns
