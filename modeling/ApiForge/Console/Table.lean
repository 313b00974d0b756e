import ApiForge.Console.Basic

/-!
# Tables

A table is a row of headers and rows of cells. As a document it is a list of
records, one for each row; otherwise it is one line for the headers and one for
each row, with tabs between cells.
-/

namespace ApiForge

structure Table where
  headers : List Text
  rows : List (List Text)
  deriving DecidableEq, Repr

namespace Table

/-- The cells of a row by the headers above them; the last cell counts where headers are equal. -/
def rowRecord (headers row : List Text) : Value :=
  .map ((Keyed.ofList (headers.zip row)).map fun (header, cell) => (.str header, .str cell))

def toRecord (table : Table) : Value :=
  .list (table.rows.map (rowRecord table.headers))

/-- One line of cells. -/
def rowLine (cells : List Text) : Printed :=
  Console.printText (Text.join ['\t'] cells)

/-- All lines in order. -/
def plainLines (table : Table) : Printed :=
  (table.headers :: table.rows).foldl (fun printed cells => printed ++ rowLine cells) .nothing

/-- The table as a console shows it. -/
def print (console : Console) (table : Table) : Printed :=
  match console.format with
  | .json => Console.printRecord table.toRecord
  | _ => table.plainLines

end Table

end ApiForge
