import Glossary.Sheet

set_option autoImplicit false

/- Reading comma separated text into a sheet.

A field that begins with a double quote runs to the next quote that is not doubled, across commas
and line ends; what follows that quote is still part of the field. Lines end in a line feed, a
carriage return or both. Lines of spaces and tabs alone are skipped. The first line names the
columns. If the first row after it has more fields than there are names, its leading fields are
row names without a column. Shorter rows end in empty fields; a row longer than the first one is
refused.

A carriage return alone makes two exceptions for skipped lines. A comma right behind a skipped
line that it ends is skipped as well. And if the next line with more than blanks begins with a
blank, then the lines before it that it ends are not skipped after all: each of them is a row with
its blanks as the only field, and reading it counts the ones behind it once more. -/

namespace Glossary.Csv

inductive Fault where
  /-- There is no line that could name the columns. -/
  | noColumns
  /-- A row on the given line has more fields than the row before it. -/
  | tooManyFields (expected line found : Nat)
  /-- The text ends inside a quoted field that began on the given line, counted from 0. -/
  | openQuote (line : Nat)
  deriving DecidableEq, Repr

def Fault.message : Fault → String
  | noColumns => "No columns to parse from file"
  | tooManyFields expected line found =>
    "Error tokenizing data. C error: Expected " ++ toString expected ++ " fields in line " ++
      toString line ++ ", saw " ++ toString found ++ "\n"
  | openQuote line =>
    "Error tokenizing data. C error: EOF inside string starting at row " ++ toString line

/-- Where the reader stands in a line. -/
inductive Place where
  | lineStart
  /-- Behind a skipped line that a carriage return alone has ended. -/
  | afterSkipped
  | fieldStart
  | plain
  | quoted
  /-- After a quote in a quoted field: it ends the field or is the first of a doubled quote. -/
  | afterQuote
  deriving DecidableEq, Repr

def isLineBlank (c : Char) : Bool := c == ' ' || c == '\t'

def isLineEnd (c : Char) : Bool := c == '\n' || c == '\r'

/-- What stands in front of the first line with more than blanks: so many lines that end in a
carriage return alone, and whether the line then begins with a blank. -/
structure Lead where
  lines : Nat
  isIndented : Bool
  deriving DecidableEq, Repr

def Lead.oneMore (l : Lead) : Lead := { l with lines := l.lines + 1 }

/-- Looks ahead from a place in a line that has begun with a blank or not. A line feed and the end
of the text leave no such line to look for. -/
def lead (isIndented : Bool) : List Char → Lead
  | [] => ⟨0, false⟩
  | '\n' :: _ => ⟨0, false⟩
  | '\r' :: ',' :: rest => (lead false rest).oneMore
  | '\r' :: rest => (lead false rest).oneMore
  | c :: rest => if isLineBlank c then lead true rest else ⟨0, isIndented⟩

/-- Where a character leads that ends neither a line nor a field, and whether it belongs to the
field: blanks of a skipped line do not, nor do quotes that open or close a quoted field. -/
def Place.step : Place → Char → Place × Bool
  | .lineStart, c | .afterSkipped, c =>
    if isLineBlank c then (.lineStart, false)
    else if c = '"' then (.quoted, false) else (.plain, true)
  | .fieldStart, c => if c = '"' then (.quoted, false) else (.plain, true)
  | .plain, _ => (.plain, true)
  | .quoted, c => if c = '"' then (.afterQuote, false) else (.quoted, true)
  | .afterQuote, c => if c = '"' then (.quoted, true) else (.plain, true)

/-- No part of the line was read that counts. -/
def Place.isFresh : Place → Bool
  | .lineStart => true
  | .afterSkipped => true
  | _ => false

/-- What was read of a line so far: the finished fields and the characters of the open one, latest
first. -/
structure Pending where
  fields : List String := []
  field : List Char := []

namespace Pending

def push (p : Pending) (c : Char) : Pending := { p with field := c :: p.field }

def close (p : Pending) : Pending := ⟨String.ofList p.field.reverse :: p.fields, []⟩

/-- The line that ends here, nothing if no more than blanks were read. -/
def finish (p : Pending) (place : Place) : Option (List String) :=
  if place.isFresh then none else some p.close.fields.reverse

end Pending

/-- The lines of a text: the fields of each line, nothing for a skipped one. The flag tells that
the text ends inside a quoted field. -/
structure Lines where
  lines : List (Option (List String))
  isOpen : Bool

def Lines.after (line : Option (List String)) (rest : Lines) : Lines :=
  { rest with lines := line :: rest.lines }

def Lines.afterSkipped (n : Nat) (rest : Lines) : Lines :=
  { rest with lines := List.replicate n none ++ rest.lines }

def Place.next (place : Place) (c : Char) : Place :=
  if place.isFresh && c == '\r' then .afterSkipped else .lineStart

def scan (place : Place) (p : Pending) : List Char → Lines
  | [] =>
    match place with
    | .quoted => ⟨[], true⟩
    | _ => ⟨(p.finish place).toList.map some, false⟩
  | '\r' :: '\n' :: rest =>
    if place = .quoted then scan .quoted ((p.push '\r').push '\n') rest
    else (scan .lineStart {} rest).after (p.finish place)
  | c :: rest =>
    if place = .afterSkipped ∧ c = ',' then scan .lineStart {} rest
    else
      let ahead := lead false (c :: rest)
      let isKept := place.isFresh && ahead.isIndented
      let place := if isKept then .fieldStart else place
      let lines :=
        if isLineEnd c && place != .quoted then
          (scan (place.next c) {} rest).after (p.finish place)
        else if c = ',' ∧ place ≠ .quoted then scan .fieldStart p.close rest
        else scan (place.step c).1 (if (place.step c).2 then p.push c else p) rest
      lines.afterSkipped (if isKept then ahead.lines else 0)

/-- The first name of the form `name.1`, `name.2`, ... that is not taken. -/
def freshName (taken : List String) (name : String) : String :=
  (((List.range (taken.length + 1)).map fun n => name ++ "." ++ toString (n + 1)).find?
    fun candidate => !taken.contains candidate).getD name

/-- Names for columns, all different: an empty name is replaced by its place, and a name that was
used before gets a number. -/
def columnNames (header : List String) : List String :=
  let named := header.zipIdx.map fun (name, place) =>
    if name = "" then "Unnamed: " ++ toString place else name
  (named.foldl (fun used name =>
      (if used.contains name then freshName (named ++ used) name else name) :: used) []).reverse

/-- The fields of a row, filled up with empty ones. -/
def padded (width : Nat) (row : List String) : List String :=
  row ++ List.replicate (width - row.length) ""

/-- The rows of the given width; each comes with the number of its line. -/
def rowsOf (width : Nat) : List (Nat × List String) → Except Fault (List (List String))
  | [] => .ok []
  | (line, row) :: rest =>
    if width < row.length then .error (.tooManyFields width line row.length)
    else (rowsOf width rest).map (padded width row :: ·)

def numbered (n : Nat) : List (Option (List String)) → List (Nat × List String)
  | [] => []
  | none :: rest => numbered (n + 1) rest
  | some row :: rest => (n, row) :: numbered (n + 1) rest

/-- The fault of a text that ends inside a quoted field. -/
def Lines.openFault (l : Lines) : Except Fault Unit :=
  if l.isOpen then .error (.openQuote l.lines.length) else .ok ()

/-- Reads comma separated text. A mark of byte order in front is dropped. -/
def read (text : String) : Except Fault Sheet :=
  let body := match text.toList with
    | '\ufeff' :: rest => rest
    | all => all
  let read := scan .lineStart {} body
  match numbered 1 read.lines with
  | [] => read.openFault.bind fun _ => .error .noColumns
  | (_, header) :: rows =>
    let width := max header.length ((rows.head?.map (·.2.length)).getD 0)
    (rowsOf width rows).bind fun rows => read.openFault.map fun _ =>
      ⟨columnNames header, rows.map fun row => (row.drop (width - header.length)).map some⟩

end Glossary.Csv
