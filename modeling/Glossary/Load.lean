import Glossary.Csv
import Glossary.Database.Basic
import Glossary.Distinct
import Glossary.Load.Columns
import Glossary.Notice
import Glossary.Text.Pieces

set_option autoImplicit false

namespace Glossary

inductive LoadFault where
  /-- There is no file to load. -/
  | noFile (path : String)
  /-- The file is no sheet. -/
  | unreadable (fault : Csv.Fault)
  /-- The rows have another number of cells than there are columns. -/
  | rowWidth (columns cells : Nat)
  /-- Required columns are missing. -/
  | missingColumns (columns : List Column)
  /-- The file to load into is unusable. -/
  | unusable (text : String)
  /-- Two columns answer to one name. -/
  | repeatedColumn
  /-- The tables were gone before they were filled. -/
  | tablesGone (alike : String)
  /-- The tables could not be written for want of a log. -/
  | unlogged (log : String)
  deriving DecidableEq, Repr

def LoadFault.message : LoadFault → String
  | noFile path => "Glossary file not found: " ++ path
  | unreadable fault => fault.message
  | rowWidth columns cells =>
    toString columns ++ " columns passed, passed data had " ++ toString cells ++ " columns"
  | missingColumns columns =>
    "Glossary is missing required columns: " ++ Text.join ", " (columns.map (·.name))
  | unusable text => text
  | repeatedColumn => "'DataFrame' object has no attribute 'str'"
  | tablesGone alike => TableName.entries.absentText ++ "\nDid you mean \"" ++ alike ++ "\"?"
  | unlogged log =>
    "TransactionContext Error: Failed to commit: Cannot open file \"" ++ log ++ "\": " ++
      Hindrance.longName.text

structure Statistics where
  entries : Nat
  tags : Nat
  locales : Nat
  source : String
  deriving DecidableEq, Repr

/-- The outcome of a load: the file as it is now, what came of the load, and its notices. -/
structure Loaded where
  file : DatabaseFile
  result : Except LoadFault Statistics
  notices : List Notice := []

/-- A row of a sheet as the load reads it. -/
structure SourceRow where
  id : Option String
  term : String
  definition : String
  rank : Option String
  tags : Option String
  locales : Option String
  deriving DecidableEq, Repr

namespace SourceRow

/-- Reads a row by the standard names of the columns. Without a column for it the rank is 0. -/
def ofCells (columns : List String) (row : List (Option String)) : SourceRow :=
  let cell (c : Column) : Option String := (Sheet.place? columns c.name).bind (Sheet.cell row)
  { id := (cell .id).map Text.trim
    term := Text.trim ((cell .term).getD "")
    definition := (cell .definition).getD ""
    rank := if columns.contains Column.rank.name then cell .rank else some "0"
    tags := cell .tags
    locales := cell .locales }

def labels (r : SourceRow) : LabelKind → Option String
  | .tag => r.tags
  | .locale => r.locales

def toEntryRow (r : SourceRow) : EntryRow := ⟨r.id, some r.term, some r.definition, r.rank⟩

end SourceRow

/-- The items of a list written in one cell: separated by semicolons, without white space around
them, blank ones left out. -/
def listItems (cell : String) : List String :=
  ((Text.pieces (· == ';') cell.toList).map fun item =>
    String.ofList (Text.trimChars Text.isBlank item)).filter (· != "")

namespace Load

/-- The rows that have an id or none at all, but no blank one. -/
def withId (rows : List SourceRow) : List SourceRow := rows.filter fun r => decide (r.id ≠ some "")

def withTerm (rows : List SourceRow) : List SourceRow := rows.filter fun r => decide (r.term ≠ "")

/-- The entries of rows: of those with one id the first. -/
def entryRows (rows : List SourceRow) : List EntryRow :=
  distinctOn (·.id) (rows.map (·.toEntryRow))

/-- The labels of rows, each pair of id and label once. -/
def labelRows (kind : LabelKind) (rows : List SourceRow) : List LabelRow :=
  distinctOn (fun l => l) (rows.flatMap fun r =>
    (listItems ((r.labels kind).getD "")).map fun item => ⟨r.id, some item⟩)

def tablesOf (rows : List SourceRow) : Tables :=
  ⟨some (entryRows rows), some (labelRows .tag rows), some (labelRows .locale rows)⟩

/-- Fills the emptied tables of a file. A repeated column among those that are read as text ends
the load with the tables empty. The four indexes that filled tables get, on the terms and on the ids
in each table, are left out: no lookup answers otherwise for them. -/
def fill (file : DatabaseFile) (columns : List String) (rows : List (List (Option String)))
    (source : String) : Loaded :=
  let emptied := { file with contents := .holding Database.emptyTables }
  let repeated (c : Column) : Bool := Sheet.repeats columns c.name
  if repeated .id || repeated .term then ⟨emptied, .error .repeatedColumn, []⟩
  else
    let known := withId (rows.map (SourceRow.ofCells columns))
    let kept := withTerm known
    let skipped := known.length - kept.length
    let notices := if skipped = 0 then [] else [.rowsWithoutTerm skipped]
    if repeated .tags || repeated .locales then ⟨emptied, .error .repeatedColumn, notices⟩
    else
      { file := { file with contents := .holding (tablesOf kept) }
        result := .ok
          { entries := (entryRows kept).length
            tags := (labelRows .tag kept).length
            locales := (labelRows .locale kept).length
            source }
        notices }

/-- Loads a sheet in place of the tables of a file. Without the required columns, and where the
file is unusable, it stays as it is. -/
def sheet (file : DatabaseFile) (s : Sheet) (source : String) : Loaded :=
  let columns := standardColumns s.columns
  let missing := Column.required.filter fun c => !columns.contains c.name
  if !missing.isEmpty then ⟨file, .error (.missingColumns missing), []⟩
  else
    match file.contents with
    | .unusable why => ⟨file, .error (.unusable (file.unusableText why)), []⟩
    | _ => fill file columns s.rows source

/-- Loads text by a way to read it into a sheet. The text is absent if there is no such file. -/
def textBy (read : String → Except Csv.Fault Sheet) (file : DatabaseFile) (path : String)
    (text : Option String) : Loaded :=
  match text with
  | none => ⟨file, .error (.noFile path), []⟩
  | some text =>
    match read text with
    | .error fault => ⟨file, .error (.unreadable fault), []⟩
    | .ok s => sheet file s path

def csv (file : DatabaseFile) (path : String) (text : Option String) : Loaded :=
  textBy Csv.read file path text

def rows (file : DatabaseFile) (columns : List String) (cells : List (List (Option String)))
    (source : String) : Loaded :=
  match Sheet.ofRows columns cells with
  | .error width => ⟨file, .error (.rowWidth columns.length width), []⟩
  | .ok s => sheet file s source

def isAvailable (file : DatabaseFile) : Except LoadFault Bool :=
  match file.contents with
  | .missing => .ok false
  | .unusable why => .error (.unusable (file.unusableText why))
  | .holding tables => .ok tables.entries.isSome

end Load

end Glossary
