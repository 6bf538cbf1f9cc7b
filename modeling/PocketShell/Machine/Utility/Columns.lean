import PocketShell.Machine.Script.ByteText

/-!
# Columns

How short texts are laid out together in lines of a width, each in a cell: in columns that are as
wide as they have to be, or one behind the other.
-/

namespace PocketShell.Machine.Utility

open Text (Bytes)

/-- A text that is laid out, and how many places it takes. -/
structure Cell where
  text : Bytes
  width : Nat

/-- The size of a page: that of a line, of which zero stands for any, and the distance between two
stops of a tabulator, of which zero stands for none. -/
structure Page where
  width : Nat
  tab : Nat

namespace Cell

/-- The cell for a name. -/
def ofName (name : Bytes) : Cell :=
  ⟨name, (Script.charactersOf (Script.byteText name)).length⟩

/-- Blanks from one place in a line to another: tabulators as far as they lead there. -/
def blanks (tab : Nat) : (count : Nat) → (start goal : Nat) → Bytes
  | 0, _, _ => []
  | count + 1, start, goal =>
    if goal ≤ start then []
    else if tab ≠ 0 && (start + 1) / tab < goal / tab then
      0x09 :: blanks tab count (start + (tab - start % tab)) goal
    else 0x20 :: blanks tab count (start + 1) goal

/-- The widths of columns, if the cell with a number comes into the column that `place` says. All
but the last are parted from the next by two places. -/
def columnWidths (cells : List Cell) (count : Nat) (place : Nat → Nat) : List Nat :=
  (List.range count).map fun column =>
    let widths := cells.zipIdx.filterMap fun (cell, n) =>
      if place n = column then some cell.width else none
    widths.foldl max 1 + if column + 1 = count then 0 else 2

/-- How many lines a number of cells needs in a number of columns. -/
def lineCount (cells columns : Nat) : Nat := (cells + columns - 1) / columns

/-- The column of the cell with a number: cells follow one another down or across. -/
def columnOf (goesDown : Bool) (cells columns n : Nat) : Nat :=
  if goesDown then n / lineCount cells columns else n % columns

/-- The widths of as many columns as a line has room for. -/
def fittingWidths (page : Page) (goesDown : Bool) (cells : List Cell) : List Nat :=
  let bound := min cells.length ((page.width + 2) / 3)
  let widths (count : Nat) : List Nat :=
    columnWidths cells count (columnOf goesDown cells.length count)
  let fits (count : Nat) : Bool :=
    count ≤ 1 || ((widths count).map (max 3)).foldl (· + ·) 0 < page.width
  widths (((List.range (bound + 1)).reverse.find? fits).getD 1 |> max 1)

/-- A line of cells in columns of the given widths. -/
def line (page : Page) : (start : Nat) → List (Cell × Nat) → Bytes
  | _, [] => [0x0A]
  | _, [(cell, _)] => cell.text ++ [0x0A]
  | start, (cell, width) :: rest =>
    cell.text ++ blanks page.tab width (start + cell.width) (start + width) ++
      line page (start + width) rest

/-- Cells one behind the other, parted by a sign and a blank, or by a sign and the end of a line
where the next one would not fit. -/
def inRow (page : Page) (sign : UInt8) (cells : List Cell) : Bytes :=
  let join (done : Bytes × Nat) (cell : Cell) : Bytes × Nat :=
    let (text, position) := done
    if text.isEmpty then (cell.text, cell.width)
    else if page.width = 0 || position + cell.width + 2 < page.width then
      (text ++ [sign, 0x20] ++ cell.text, position + 2 + cell.width)
    else (text ++ [sign, 0x0A] ++ cell.text, cell.width)
  (cells.foldl join ([], 0)).1 ++ [0x0A]

/-- Cells in columns. -/
def inColumns (page : Page) (goesDown : Bool) (cells : List Cell) : Bytes :=
  if page.width = 0 then inRow page 0x20 cells
  else
    let widths := fittingWidths page goesDown cells
    let rows := lineCount cells.length widths.length
    let row (n : Nat) : List Cell :=
      if goesDown then
        cells.zipIdx.filterMap fun (cell, i) => if i % rows = n then some cell else none
      else (cells.drop (n * widths.length)).take widths.length
    ((List.range rows).map fun n => line page 0 ((row n).zip widths)).flatten

end Cell

end PocketShell.Machine.Utility
