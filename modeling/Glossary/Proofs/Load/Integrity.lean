import Glossary.Database.Opening
import Glossary.Proofs.Csv
import Glossary.Proofs.Load.Failure
import Glossary.Proofs.Text.Trimmed

set_option autoImplicit false

namespace Glossary

/-- The text has something in it, and no white space at its ends. -/
def Text.Proper (s : String) : Prop := s ≠ "" ∧ Trimmed s

/-- The tables are all there, and sound: entries have ids of their own, each label belongs to an
entry, which has it once, and its name could be written among others in one cell. -/
structure Tables.Sound (t : Tables) (entries : List EntryRow) (labels : LabelKind → List LabelRow) :
    Prop where
  present : t = ⟨some entries, some (labels .tag), some (labels .locale)⟩
  apart : (entries.map (·.id)).Nodup
  ids : ∀ r ∈ entries, ∃ id, r.id = some id ∧ Text.Proper id
  terms : ∀ r ∈ entries, ∃ term, r.term = some term ∧ Text.Proper term
  owned : ∀ kind, ∀ l ∈ labels kind, l.id ∈ entries.map (·.id)
  once : ∀ kind, (labels kind).Nodup
  names : ∀ kind, ∀ l ∈ labels kind,
    ∃ name, l.name = some name ∧ Text.Proper name ∧ ';' ∉ name.toList

namespace Database

/-- The tables that are there; without a file that can be used there are none. -/
def tables : Database → Tables
  | holding tables => tables
  | _ => {}

/-- There are no tables, or sound ones. -/
def Intact (d : Database) : Prop :=
  d.tables = {} ∨ ∃ entries labels, d.tables.Sound entries labels

theorem intact_emptyTables : (holding emptyTables).Intact :=
  Or.inr ⟨[], fun _ => [],
    { present := rfl
      apart := List.nodup_nil
      ids := nofun
      terms := nofun
      owned := nofun
      once := fun _ => List.nodup_nil
      names := nofun }⟩

end Database

namespace Sheet

variable {s : Sheet} {row : List (Option String)} {e : Entry}

theorem Gives.proper_id (gives : s.Gives row e) : Text.Proper e.id := by
  obtain ⟨text, -, trimmed⟩ := Option.map_eq_some_iff.1 gives.id
  exact ⟨gives.filledId, trimmed ▸ Text.trimmed_trim text⟩

theorem Gives.proper_term (gives : s.Gives row e) : Text.Proper e.term := by
  obtain ⟨text, -, trimmed⟩ := Option.map_eq_some_iff.1 gives.term
  exact ⟨gives.filledTerm, trimmed ▸ Text.trimmed_trim text⟩

/-- A label is trimmed from an item between two ends of items. -/
theorem Labels.proper {kind : LabelKind} {id name : String} (labels : s.Labels kind id name) :
    Text.Proper name ∧ ';' ∉ name.toList := by
  obtain ⟨row, -, e, list, item, -, -, -, ⟨uncut, -⟩, rfl, filled⟩ := labels
  refine ⟨⟨filled, Text.trimmed_trim _⟩, fun member => ?_⟩
  have inside := Text.mem_of_mem_trim member
  rw [String.toList_ofList] at inside
  exact absurd (uncut ';' inside) (by decide)

end Sheet

namespace Load

theorem sound_tablesOf {s : Sheet} (complete : s.Complete)
    (required : ∀ c ∈ Column.required, s.Has c) :
    (tablesOf (keptRows s)).Sound (entryRows (keptRows s)) fun kind =>
      labelRows kind (keptRows s) where
  present := rfl
  apart := nodup_map_distinctOn (fun r : EntryRow => r.id) _
  ids := by
    intro r member
    obtain ⟨e, ⟨_, row, _, -, gives, -⟩, rfl⟩ := (mem_entryRows_iff complete required r).1 member
    exact ⟨e.id, rfl, gives.proper_id⟩
  terms := by
    intro r member
    obtain ⟨e, ⟨_, row, _, -, gives, -⟩, rfl⟩ := (mem_entryRows_iff complete required r).1 member
    exact ⟨e.term, rfl, gives.proper_term⟩
  owned := by
    intro kind l member
    obtain ⟨id, name, listing, rfl⟩ := (mem_labelRows_iff complete required kind l).1 member
    obtain ⟨row, inside, e, -, -, gives, rfl, -⟩ := listing
    exact id_mem_entryRows complete required inside gives
  once := fun _ => pairwise_distinctOn _ _
  names := by
    intro kind l member
    obtain ⟨id, name, listing, rfl⟩ := (mem_labelRows_iff complete required kind l).1 member
    exact ⟨name, rfl, listing.proper⟩

/-- A load of a sheet leaves what was there, or empties the tables, or fills them. -/
theorem sheet_keeps_intact {file : DatabaseFile} (intact : file.contents.Intact) {s : Sheet}
    (complete : s.Complete) (source : String) : (sheet file s source).file.contents.Intact := by
  cases result : (sheet file s source).result with
  | error fault =>
      rcases sheet_failed result with ⟨kept, -⟩ | ⟨-, emptied, -⟩
      · rw [kept]
        exact intact
      · rw [emptied]
        exact Database.intact_emptyTables
  | ok stats =>
      obtain ⟨filled, -⟩ := sheet_of_ok result
      rw [filled]
      exact Or.inr ⟨_, _, sound_tablesOf complete (has_of_sheet_ok result)⟩

end Load

/-- A way to read text into sheets without absent cells. -/
structure SheetReader where
  read : String → Except Csv.Fault Sheet
  complete : ∀ {text : String} {s : Sheet}, read text = .ok s → s.Complete

def Csv.reader : SheetReader := ⟨Csv.read, Csv.complete_of_read⟩

theorem Load.textBy_keeps_intact (reader : SheetReader) {file : DatabaseFile}
    (intact : file.contents.Intact) (path : String) (text : Option String) :
    (textBy reader.read file path text).file.contents.Intact := by
  cases text with
  | none => exact intact
  | some text =>
      rw [textBy]
      cases read : reader.read text with
      | error fault => exact intact
      | ok s => exact sheet_keeps_intact intact (reader.complete read) path

theorem DatabaseFile.made_keeps_intact {file : DatabaseFile} (intact : file.contents.Intact) :
    file.made.contents.Intact := by
  unfold made
  split
  · exact Or.inl rfl
  · exact intact

namespace Opening

variable (reader : SheetReader)

theorem load_keeps_intact {o : Opening} (intact : o.file.contents.Intact) (path : String)
    (text : Option String) : (o.loadBy reader.read path text).file.contents.Intact := by
  have kept := Load.textBy_keeps_intact reader intact path text
  unfold loadBy
  simp only
  split
  · exact kept
  · exact intact
  · exact intact
  · exact DatabaseFile.made_keeps_intact intact
  · exact DatabaseFile.made_keeps_intact intact
  · exact kept

/-- The database after loads, one after another: each of a text, which is absent if there is no file
at its path. -/
def after (o : Opening) : List (String × Option String) → Opening
  | [] => o
  | (path, text) :: rest => { o with file := (o.loadBy reader.read path text).file }.after rest

theorem after_keeps_intact {o : Opening} (intact : o.file.contents.Intact)
    (loads : List (String × Option String)) : (o.after reader loads).file.contents.Intact := by
  induction loads generalizing o with
  | nil => exact intact
  | cons l rest ih => exact ih (load_keeps_intact reader intact l.1 l.2)

end Opening

/-- Whatever texts are loaded one after another into a file that was not there, however they are read
into sheets without absent cells and however each of the loads ends, there are no tables or sound
ones. Comma separated text is read in such a way (`Csv.reader`). -/
theorem loads_keep_intact (reader : SheetReader) (path fullPath : String) (place : Place)
    (lasting : Lasting) (loads : List (String × Option String)) :
    (Opening.after reader ⟨⟨path, fullPath, .missing⟩, place, lasting⟩
      loads).file.contents.Intact :=
  Opening.after_keeps_intact reader (Or.inl rfl) loads

/-- A second load that finds no term leaves the tables of the first one, a third with two columns of
ids leaves them empty. -/
example :
    let o : Opening := ⟨⟨"g.duckdb", "/g.duckdb", .missing⟩, ["g.duckdb"], .kept⟩
    let first := ("a.csv", some "id,term,definition,tags\n 1,dam ,A wall,sea;; sea\n1,dike,A bank,land\n")
    let second := ("b.csv", some "id,definition\n2,A dog\n")
    let third := ("c.csv", some "ID,id,term,definition\n2,2,hound,A dog\n")
    (o.after Csv.reader [first, second]).file.contents = .holding
      ⟨some [⟨some "1", some "dam", some "A wall", some "0"⟩],
        some [⟨some "1", some "sea"⟩, ⟨some "1", some "land"⟩], some []⟩ ∧
    (o.after Csv.reader [first, second, third]).file.contents = .holding ⟨some [], some [], some []⟩ := by
  exact ⟨by rfl, by rfl⟩

end Glossary
