import Glossary.Database.Basic
import Glossary.EditDistance
import Glossary.Store.Basic
import Glossary.Text.Lower
import Glossary.Text.Occurrence
import Glossary.Text.Utf8

set_option autoImplicit false

namespace Glossary

/-- A comparison that holds only of two values that are there. -/
def bothHold (compare : String → String → Bool) : Option String → Option String → Bool
  | some a, some b => compare a b
  | _, _ => false

/-- In the order of cells, absent ones last. -/
def cellBefore : Option String → Option String → Bool
  | some a, some b => decide (a ≤ b)
  | some _, none => true
  | none, some _ => false
  | none, none => true

/-- How many bytes have to be inserted, deleted or replaced to turn one text into the other. -/
def byteDistance (a b : String) : Nat :=
  editDistance (Text.utf8 a.toList) (Text.utf8 b.toList)

/-- Two names that differ at most in the case of single characters. -/
def sameLowered (a b : String) : Bool := decide (Text.lowerEach a = Text.lowerEach b)

/-- A row as an entry: absent texts are empty, an absent rank is 0. -/
def EntryRow.toEntry (r : EntryRow) : Entry where
  id := r.id.getD "None"
  term := r.term.getD ""
  definition := r.definition.getD ""
  rank := r.rank.getD "0"

/-- Distances below this one, and not below it with the sign changed, can be asked for. -/
def distanceLimit : Int := 2147483648

/-- The widths of the numbers that a distance may be given in, each with its limit. -/
def wideLimits : List (String × Int × Int) :=
  [("INT64", -9223372036854775808, 9223372036854775808),
   ("UINT64", 0, 18446744073709551616),
   ("INT128", -170141183460469231731687303715884105728, 170141183460469231731687303715884105728),
   ("UINT128", 0, 340282366920938463463374607431768211456)]

/-- The first width that holds the number. -/
def width? (n : Int) : Option String :=
  (wideLimits.find? fun w => decide (w.2.1 ≤ n) && decide (n < w.2.2)).map (·.1)

def tooWideText (n : Int) : String :=
  "Invalid Input Error: Python integer too large for 128-bit integer type: " ++ toString n

def outOfRangeText (width : String) (n : Int) : String :=
  "Conversion Error: Type " ++ width ++ " with value " ++ toString n ++
    " can't be cast because the value is out of range for the destination type INT32"

namespace Tables

def labels (t : Tables) : LabelKind → Option (List LabelRow)
  | .tag => t.tags
  | .locale => t.locales

end Tables

def LabelKind.table : LabelKind → TableName
  | .tag => .tags
  | .locale => .locales

def orderedRows (rows : List EntryRow) : List EntryRow := sortBy (fun a b => cellBefore a.id b.id) rows

namespace DatabaseFile

/-- The tables of the file, or the reason why there are none. -/
def tables (file : DatabaseFile) : Except String Tables :=
  match file.contents with
  | .missing => .error ("glossary database not found: " ++ file.path)
  | .unusable why => .error (file.unusableText why)
  | .holding tables => .ok tables

/-- The rows of a table, or the reason why there are none. -/
def rowsOf {α : Type} (name : TableName) : Option (List α) → Except String (List α)
  | some rows => .ok rows
  | none => .error name.absentText

def entryRows (file : DatabaseFile) : Except String (List EntryRow) :=
  file.tables.bind fun t => rowsOf .entries t.entries

def labelRows (file : DatabaseFile) (kind : LabelKind) : Except String (List LabelRow) :=
  file.tables.bind fun t => rowsOf kind.table (t.labels kind)

/-- The answer to a lookup, any reason against it being an outage. -/
def outage {α : Type} (l : Lookup) : Except String α → Except Fault α
  | .ok answer => .ok answer
  | .error reason => .error (.outage l.name (some reason))

def byDefinition (file : DatabaseFile) (text : Option String) : Except Fault (List Entry) :=
  outage .byDefinition <| file.entryRows.map fun rows =>
    (orderedRows (rows.filter fun r => bothHold Text.contains r.definition text)).map (·.toEntry)

def withTerm (file : DatabaseFile) (text : Option String) : Except Fault (List Entry) :=
  outage .byTerm <| file.entryRows.map fun rows =>
    (orderedRows (rows.filter fun r => bothHold Text.contains r.term text)).map (·.toEntry)

def closeTerms (rows : List EntryRow) (text : Option String) (maxDistance : Int) : List String :=
  (rows.filter fun r =>
    bothHold (fun term t => decide ((byteDistance term t : Int) ≤ maxDistance)) r.term text).filterMap
      (·.term)

/-- The distinct terms of rows at most `maxDistance` bytes away from the text, in order. A distance
out of range matters only where there is a row to compare with the text. -/
def termsOf (rows : List EntryRow) (text : Option String) (maxDistance : Int) (width : String) :
    Except String (List String) :=
  if (-distanceLimit ≤ maxDistance ∧ maxDistance < distanceLimit) ∨ rows = [] ∨ text = none then
    .ok (sortBy (fun a b => decide (a ≤ b)) (distinctOn id (closeTerms rows text maxDistance)))
  else .error (outOfRangeText width maxDistance)

/-- The distinct terms at most `maxDistance` bytes away from the text, in order. A distance that
no width holds is refused before the table is looked for. -/
def termsWithin (file : DatabaseFile) (text : Option String) (maxDistance : Option Int) :
    Except Fault (List String) :=
  outage .termsWithin <| file.tables.bind fun t =>
    match maxDistance with
    | none => (rowsOf .entries t.entries).map fun _ => []
    | some n =>
      match width? n with
      | none => .error (tooWideText n)
      | some width => (rowsOf .entries t.entries).bind fun rows => termsOf rows text n width

/-- The first entry of the term in the order of ids. -/
def firstForTerm (file : DatabaseFile) (term : Option String) : Except Fault (Option Entry) :=
  outage .firstForTerm <| file.entryRows.map fun rows =>
    ((orderedRows (rows.filter fun r => bothHold (fun a b => decide (a = b)) r.term term)).map
      (·.toEntry)).head?

def holdsLabel (file : DatabaseFile) (kind : LabelKind) (name : Option String) :
    Except Fault Bool :=
  outage (.labelExists kind) <| (file.labelRows kind).map fun rows =>
    rows.any fun r => bothHold sameLowered r.name name

/-- The distinct names of the labels of an entry, in order. -/
def labelsOf (file : DatabaseFile) (kind : LabelKind) (id : Option String) :
    Except Fault (List (Option String)) :=
  outage (.labelsOf kind) <| (file.labelRows kind).map fun rows =>
    sortBy cellBefore (distinctOn (fun name => name)
      ((rows.filter fun r => bothHold (fun a b => decide (a = b)) r.id id).map (·.name)))

/-- The distinct entries that carry the label. The table of entries is asked for first. -/
def labelled (file : DatabaseFile) (kind : LabelKind) (name : Option String) :
    Except Fault (List Entry) :=
  outage (.labelled kind) <| file.entryRows.bind fun rows => (file.labelRows kind).map fun labels =>
    let carriers := (labels.filter fun l => bothHold sameLowered l.name name).map (·.id)
    (orderedRows (distinctOn (fun r => r)
      (rows.filter fun r => carriers.any fun id => bothHold (fun a b => decide (a = b)) id r.id))).map
        (·.toEntry)

def labelStore (file : DatabaseFile) (kind : LabelKind) : LabelStore where
  holds name := file.holdsLabel kind (some name)
  namesOf id := file.labelsOf kind (some id)
  entriesWith name := file.labelled kind (some name)

def toStore (file : DatabaseFile) : Store where
  definitions :=
    { byDefinition := fun text => file.byDefinition (some text)
      byTerm := fun text => file.withTerm (some text)
      termsWithin := fun text n => file.termsWithin (some text) (some n)
      firstForTerm := fun term => file.firstForTerm (some term) }
  tags := file.labelStore .tag
  locales := file.labelStore .locale

/-- Puts a lookup to the database; the text and the distance may be absent. -/
def answer (file : DatabaseFile) (text : Option String) (maxDistance : Option Int) :
    Lookup → Except Fault Answer
  | .byDefinition => (file.byDefinition text).map .entries
  | .byTerm => (file.withTerm text).map .entries
  | .termsWithin => (file.termsWithin text maxDistance).map .terms
  | .firstForTerm => (file.firstForTerm text).map .first
  | .labelExists kind => (file.holdsLabel kind text).map .holds
  | .labelsOf kind => (file.labelsOf kind text).map .names
  | .labelled kind => (file.labelled kind text).map .entries

end DatabaseFile

end Glossary
