/-!
# Cutting a text

A text is cut at every separator (`pieces`), at the first one (`cutAtFirst`), or into lines.
`joinPieces` puts pieces together again.
-/

namespace Callpoint.Text

/-- The parts of a text between the characters `sep`.  There is always at least one part, and one
more than there are separators. -/
def pieces (sep : Char) : List Char → List (List Char)
  | [] => [[]]
  | c :: cs =>
    if c = sep then [] :: pieces sep cs
    else match pieces sep cs with
      | [] => [[c]]
      | p :: ps => (c :: p) :: ps

theorem pieces_ne_nil (sep : Char) (cs : List Char) : pieces sep cs ≠ [] := by
  cases cs with
  | nil => simp [pieces]
  | cons c cs =>
    rw [pieces]
    split
    · simp
    · split <;> simp

/-- Separated parts put together again. -/
def joinPieces (sep : Char) : List (List Char) → List Char
  | [] => []
  | [p] => p
  | p :: q :: ps => p ++ sep :: joinPieces sep (q :: ps)

/-- What stands before the first `sep` and what stands behind it; `none` without a separator. -/
def cutAtFirst (sep : Char) : List Char → Option (List Char × List Char)
  | [] => none
  | c :: cs =>
    if c = sep then some ([], cs)
    else (cutAtFirst sep cs).map fun (before, behind) => (c :: before, behind)

/-- A line without the carriage return that ends it. -/
def dropReturn (line : List Char) : List Char :=
  if line.getLast? = some '\r' then line.dropLast else line

/-- Lines of the pieces between line feeds: the last piece is no line when it is empty, and it keeps
its carriage return because no line feed follows it. -/
def linesOfPieces : List (List Char) → List (List Char)
  | [] => []
  | [p] => if p.isEmpty then [] else [p]
  | p :: q :: ps => dropReturn p :: linesOfPieces (q :: ps)

/-- The lines of a text.  A line ends in a line feed, alone or behind a carriage return, or with the
text. -/
def lines (cs : List Char) : List (List Char) :=
  linesOfPieces (pieces '\n' cs)

/-- `cutAtFirst` on strings. -/
def cutOnce (sep : Char) (s : String) : Option (String × String) :=
  (cutAtFirst sep s.toList).map fun (a, b) => (String.ofList a, String.ofList b)

end Callpoint.Text
