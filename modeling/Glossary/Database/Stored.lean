import Glossary.Database.Basic
import Glossary.Text.Escaped
import Glossary.Text.Pieces

set_option autoImplicit false

namespace Glossary.Stored

abbrev Record := List (Option String)

/-- An absent cell is a minus sign, any other one a plus sign and its text. -/
def writeCell : Option String → List Char
  | none => ['-']
  | some s => '+' :: Text.escape s.toList

def readCell? : List Char → Option (Option String)
  | ['-'] => some none
  | '+' :: written => (Text.unescape written).map fun s => some (String.ofList s)
  | _ => none

theorem readCell_writeCell (cell : Option String) : readCell? (writeCell cell) = some cell := by
  cases cell with
  | none => rfl
  | some s =>
    simp only [writeCell, readCell?, Text.unescape_escape, Option.map_some, String.ofList_toList]

theorem writeCell_plain (cell : Option String) : ∀ c ∈ writeCell cell, Text.isEndMark c = false := by
  cases cell with
  | none =>
    intro c inside
    rw [List.mem_singleton.1 inside]
    rfl
  | some s =>
    intro c inside
    rcases List.mem_cons.1 inside with rfl | inside
    · rfl
    · exact Text.not_mem_escape s.toList c inside

def writeRecord (record : Record) : List Char := Text.ended '\t' (record.map writeCell)

def readRecord? (s : List Char) : Option Record :=
  (Text.unended? '\t' s).bind fun cells => cells.mapM readCell?

/-- Reading every written part gives all parts back if reading gives each one back. -/
theorem mapM_map {α β : Type} {write : α → β} {read? : β → Option α}
    (back : ∀ x, read? (write x) = some x) (xs : List α) :
    (xs.map write).mapM read? = some xs := by
  induction xs with
  | nil => rfl
  | cons x rest ih =>
    rw [List.map_cons, List.mapM_cons, back, ih]
    rfl

theorem readRecord_writeRecord (record : Record) :
    readRecord? (writeRecord record) = some record := by
  have plain : ∀ text ∈ record.map writeCell, ∀ c ∈ text, (c == '\t') = false := by
    intro text written c inside
    obtain ⟨cell, _, rfl⟩ := List.mem_map.1 written
    have notEnd := writeCell_plain cell c inside
    simp only [Text.isEndMark, Bool.or_eq_false_iff] at notEnd
    exact notEnd.1
  unfold readRecord? writeRecord
  rw [Text.unended_ended '\t' _ plain]
  exact mapM_map readCell_writeCell record

theorem writeRecord_plain (record : Record) : ∀ c ∈ writeRecord record, (c == '\n') = false := by
  intro c inside
  obtain ⟨text, written, inside⟩ := List.mem_flatMap.1 inside
  obtain ⟨cell, _, rfl⟩ := List.mem_map.1 written
  rcases List.mem_append.1 inside with inside | inside
  · have notEnd := writeCell_plain cell c inside
    simp only [Text.isEndMark, Bool.or_eq_false_iff] at notEnd
    exact notEnd.2
  · rw [List.mem_singleton.1 inside]
    rfl

def entryCells (r : EntryRow) : Record := [r.id, r.term, r.definition, r.rank]

def entryRow? : Record → Option EntryRow
  | [id, term, definition, rank] => some ⟨id, term, definition, rank⟩
  | _ => none

def labelCells (r : LabelRow) : Record := [r.id, r.name]

def labelRow? : Record → Option LabelRow
  | [id, name] => some ⟨id, name⟩
  | _ => none

def tableRecords {α : Type} (name : TableName) (cells : α → Record) :
    Option (List α) → List Record
  | none => []
  | some rows => ([] :: rows.map cells).map (some name.text :: ·)

/-- What follows the name of the table in one of its lines. -/
def lineOf? (name : TableName) : Record → Option Record
  | some n :: cells => if n = name.text then some cells else none
  | _ => none

def table? {α : Type} (name : TableName) (row? : Record → Option α) (records : List Record) :
    Option (Option (List α)) :=
  match records.filterMap (lineOf? name) with
  | [] => some none
  | _ :: rows => (rows.mapM row?).map some

theorem TableName.text_inj {a b : TableName} (same : a.text = b.text) : a = b := by
  cases a <;> cases b <;> simp_all [TableName.text]

/-- The lines of a table are those of no other table. -/
theorem filterMap_other {α : Type} {name other : TableName} (differ : other ≠ name)
    (cells : α → Record) (table : Option (List α)) :
    (tableRecords other cells table).filterMap (lineOf? name) = [] := by
  have foreign : other.text ≠ name.text := fun same => differ (TableName.text_inj same)
  cases table with
  | none => rfl
  | some rows =>
    rw [List.filterMap_eq_nil_iff]
    intro record inside
    obtain ⟨tail, _, rfl⟩ := List.mem_map.1 inside
    exact if_neg foreign

theorem filterMap_own {α : Type} (name : TableName) (cells : α → Record) (rows : List α) :
    (tableRecords name cells (some rows)).filterMap (lineOf? name) = [] :: rows.map cells := by
  unfold tableRecords
  rw [List.filterMap_map]
  have keeps : (lineOf? name ∘ (some name.text :: ·)) = some := by
    funext record
    exact if_pos rfl
  rw [keeps, List.filterMap_some]

/-- A table is found among the lines of others. -/
theorem table_tableRecords {α : Type} {name : TableName} {cells : α → Record}
    {row? : Record → Option α} (back : ∀ r, row? (cells r) = some r) (table : Option (List α))
    {before after : List Record} (noneBefore : before.filterMap (lineOf? name) = [])
    (noneAfter : after.filterMap (lineOf? name) = []) :
    table? name row? (before ++ tableRecords name cells table ++ after) = some table := by
  unfold table?
  rw [List.filterMap_append, List.filterMap_append, noneBefore, noneAfter, List.nil_append,
    List.append_nil]
  cases table with
  | none => rfl
  | some rows =>
    rw [filterMap_own]
    simp only [mapM_map back, Option.map_some]

def records (t : Tables) : List Record :=
  tableRecords .entries entryCells t.entries ++ tableRecords .tags labelCells t.tags ++
    tableRecords .locales labelCells t.locales

def tables? (records : List Record) : Option Tables :=
  match table? .entries entryRow? records, table? .tags labelRow? records,
      table? .locales labelRow? records with
  | some entries, some tags, some locales => some ⟨entries, tags, locales⟩
  | _, _, _ => none

theorem tables_records (t : Tables) : tables? (records t) = some t := by
  have entries : table? .entries entryRow? (records t) = some t.entries := by
    have found := @table_tableRecords _ .entries entryCells entryRow? (fun _ => rfl) t.entries []
      (tableRecords .tags labelCells t.tags ++ tableRecords .locales labelCells t.locales) rfl
    rw [List.nil_append, ← List.append_assoc] at found
    apply found
    rw [List.filterMap_append, filterMap_other (by decide), filterMap_other (by decide)]
    rfl
  have tags : table? .tags labelRow? (records t) = some t.tags :=
    @table_tableRecords _ .tags labelCells labelRow? (fun _ => rfl) t.tags _ _
      (filterMap_other (by decide) _ _) (filterMap_other (by decide) _ _)
  have locales : table? .locales labelRow? (records t) = some t.locales := by
    have found := @table_tableRecords _ .locales labelCells labelRow? (fun _ => rfl) t.locales
      (tableRecords .entries entryCells t.entries ++ tableRecords .tags labelCells t.tags) []
    rw [List.append_nil] at found
    apply found
    · rw [List.filterMap_append, filterMap_other (by decide), filterMap_other (by decide)]
      rfl
    · rfl
  unfold tables?
  rw [entries, tags, locales]

def title : Record := [some "glossary tables"]

/-- The text in which tables are kept. -/
def write (t : Tables) : String :=
  String.ofList (Text.ended '\n' ((title :: records t).map writeRecord))

/-- The tables that are kept in a text, or nothing if it is no such text. -/
def read? (text : String) : Option Tables :=
  match (Text.unended? '\n' text.toList).bind fun lines => lines.mapM readRecord? with
  | some (first :: rest) => if first = title then tables? rest else none
  | _ => none

theorem read_write (t : Tables) : read? (write t) = some t := by
  have plain : ∀ line ∈ (title :: records t).map writeRecord, ∀ c ∈ line, (c == '\n') = false := by
    intro line written
    obtain ⟨record, _, rfl⟩ := List.mem_map.1 written
    exact writeRecord_plain record
  unfold read? write
  rw [String.toList_ofList, Text.unended_ended '\n' _ plain, Option.bind_some,
    mapM_map readRecord_writeRecord]
  simp only [if_true, tables_records]

end Glossary.Stored
