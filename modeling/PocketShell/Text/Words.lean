import PocketShell.Text.Blank

/-!
# Words of a line

A line is seen through its words: the maximal runs of characters that are not blank.
-/

namespace PocketShell.Text

/-- The pieces between blanks, the empty ones left out. -/
def runs (cs : List Char) : List (List Char) := (cs.splitOnP isBlank).filter (· ≠ [])

/-- The words of a line, in order. -/
def words (line : String) : List String := (runs line.toList).map String.ofList

end PocketShell.Text
