/-
Character sets as grids.

The sets of the East Asian standards are grids of rows and cells.  A grid is
given by the rows that have characters; U+FFFD stands where a cell has none.
-/

namespace RepoFeed
namespace Charset

structure Grid where
  /-- The rows by their numbers. -/
  rows : Array (Array Char)

namespace Grid

/-- Row numbers are octets. -/
def rowCount : Nat := 256

def ofRows (rows : List (Nat × String)) : Grid :=
  ⟨rows.foldl (fun grid (row, text) => grid.setIfInBounds row text.toList.toArray)
    (Array.replicate rowCount #[])⟩

/-- The character of a cell. -/
def char? (grid : Grid) (row cell : Nat) : Option Char :=
  (grid.rows[row]?.bind (·[cell]?)).filter (· != '\uFFFD')

end Grid
end Charset
end RepoFeed
