set_option autoImplicit false

namespace Glossary

structure Sheet where
  columns : List String
  rows : List (List (Option String))
  deriving DecidableEq, Repr

namespace Sheet

def place? (columns : List String) (name : String) : Option Nat := columns.findIdx? (· == name)

def repeats (columns : List String) (name : String) : Bool := decide (1 < columns.count name)

def cell (row : List (Option String)) (place : Nat) : Option String := (row[place]?).join

/-- The rows as they are read under `columns` names: short rows end in absent cells, and no row may
be longer or be all that there is and shorter. Gives the sheet, or the number of cells of the
longest row. -/
def ofRows (columns : List String) (rows : List (List (Option String))) : Except Nat Sheet :=
  let width := rows.foldl (fun n row => max n row.length) 0
  if rows.isEmpty || width = columns.length then
    .ok ⟨columns, rows.map fun row => row ++ List.replicate (width - row.length) none⟩
  else .error width

end Sheet

end Glossary
