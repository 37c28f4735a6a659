import Glossary.Proofs.Load.Replacement

set_option autoImplicit false

namespace Glossary

namespace Column

/-- The columns that a load reads as text, so that each of them must be one column. -/
def single : List Column := [id, term, tags, locales]

end Column

/-- A column that must be one column is repeated: several columns go by its chosen alias. -/
def Sheet.Ambiguous (s : Sheet) : Prop :=
  ∃ c ∈ Column.single, ∃ a, c.aliasIn? (s.columns.map plainName) = some a ∧
    1 < (s.columns.map plainName).count a

theorem Sheet.ambiguous_iff (s : Sheet) :
    s.Ambiguous ↔ ∃ c ∈ Column.single, repeats (standardColumns s.columns) c.name = true := by
  simp only [Ambiguous, repeats_standardColumns_iff]

namespace Load

/-- What is to be loaded: a sheet, or the text of a file, if there is such a file. -/
inductive Request where
  | sheet (s : Sheet) (source : String)
  | csv (path : String) (text : Option String)
  deriving DecidableEq, Repr

namespace Request

def load (file : DatabaseFile) : Request → Loaded
  | sheet s source => Load.sheet file s source
  | csv path text => Load.csv file path text

/-- The sheet of a request, if there is one that can be read. -/
def sheet? : Request → Option Sheet
  | sheet s _ => some s
  | csv _ text => text.bind fun text => (Csv.read text).toOption

theorem sheet?_csv_eq_some_iff {path : String} {text : Option String} {s : Sheet} :
    (csv path text).sheet? = some s ↔ ∃ given, text = some given ∧ Csv.read given = .ok s := by
  rw [sheet?, Option.bind_eq_some_iff]
  refine exists_congr fun given => and_congr_right fun _ => ?_
  cases Csv.read given with
  | error fault => exact iff_of_false nofun nofun
  | ok other => rw [Except.toOption, Option.some.injEq, Except.ok.injEq]

end Request

/-- Ids and terms are read first, labels only after rows without a term were left out. -/
theorem exists_single_iff (columns : List String) :
    (∃ c ∈ Column.single, Sheet.repeats columns c.name = true) ↔
      (Sheet.repeats columns Column.id.name || Sheet.repeats columns Column.term.name) = true ∨
      (Sheet.repeats columns Column.tags.name ||
        Sheet.repeats columns Column.locales.name) = true := by
  simp [Column.single, or_assoc]

/-- Tables are filled unless a column is repeated that must be one column; then they stay empty. -/
theorem fill_cases (file : DatabaseFile) (columns : List String)
    (rows : List (List (Option String))) (source : String) :
    ((∃ c ∈ Column.single, Sheet.repeats columns c.name = true) ∧
      (fill file columns rows source).result = .error .repeatedColumn ∧
      (fill file columns rows source).file =
        { file with contents := .holding Database.emptyTables }) ∨
    ((∀ c ∈ Column.single, Sheet.repeats columns c.name = false) ∧
      ∃ stats, (fill file columns rows source).result = .ok stats) := by
  by_cases early : (Sheet.repeats columns Column.id.name ||
      Sheet.repeats columns Column.term.name) = true
  · refine Or.inl ⟨(exists_single_iff columns).2 (Or.inl early), ?_, ?_⟩ <;>
      simp only [fill, early, ↓reduceIte]
  · by_cases late : (Sheet.repeats columns Column.tags.name ||
        Sheet.repeats columns Column.locales.name) = true
    · refine Or.inl ⟨(exists_single_iff columns).2 (Or.inr late), ?_, ?_⟩ <;>
        simp only [fill, early, late, Bool.false_eq_true, ↓reduceIte]
    · have none : ∀ c ∈ Column.single, Sheet.repeats columns c.name = false := by
        intro c member
        rw [← Bool.not_eq_true]
        intro repeated
        exact ((exists_single_iff columns).1 ⟨c, member, repeated⟩).elim early late
      refine Or.inr ⟨none, ?_⟩
      simp only [fill, early, late, Bool.false_eq_true, ↓reduceIte]
      exact ⟨_, rfl⟩

theorem sheet_of_missing {s : Sheet} (missing : ¬ ∀ c ∈ Column.required, s.Has c)
    (file : DatabaseFile) (source : String) :
    ∃ columns, sheet file s source = ⟨file, .error (.missingColumns columns), []⟩ := by
  rw [← s.filter_missing_eq_nil_iff] at missing
  rw [sheet, if_pos (by simpa using missing)]
  exact ⟨_, rfl⟩

theorem sheet_of_unusable {file : DatabaseFile} {why : Unusable}
    (unusable : file.contents = .unusable why) {s : Sheet}
    (required : ∀ c ∈ Column.required, s.Has c) (source : String) :
    sheet file s source = ⟨file, .error (.unusable (file.unusableText why)), []⟩ := by
  rw [sheet, s.filter_missing_eq_nil_iff.2 required, unusable]
  rfl

/-- How a load of a sheet fails. Without a required column or a usable file it changes nothing;
with both it fails on an ambiguous sheet, and leaves the tables empty. -/
theorem sheet_failed {file : DatabaseFile} {s : Sheet} {source : String} {fault : LoadFault}
    (failed : (sheet file s source).result = .error fault) :
    ((sheet file s source).file = file ∧ fault ≠ .repeatedColumn ∧
      ¬ ((∀ c ∈ Column.required, s.Has c) ∧ ∀ why, file.contents ≠ .unusable why)) ∨
    (fault = .repeatedColumn ∧
      (sheet file s source).file = { file with contents := .holding Database.emptyTables } ∧
      (∀ c ∈ Column.required, s.Has c) ∧ (∀ why, file.contents ≠ .unusable why) ∧
      s.Ambiguous) := by
  by_cases required : ∀ c ∈ Column.required, s.Has c
  · by_cases usable : ∀ why, file.contents ≠ .unusable why
    · right
      rw [sheet_eq_fill usable required] at failed ⊢
      rcases fill_cases file (standardColumns s.columns) s.rows source with
        ⟨repeated, result, emptied⟩ | ⟨-, stats, result⟩
      · rw [result] at failed
        cases failed
        exact ⟨rfl, emptied, required, usable, s.ambiguous_iff.2 repeated⟩
      · rw [result] at failed
        cases failed
    · left
      push Not at usable
      obtain ⟨why, unusable⟩ := usable
      rw [sheet_of_unusable unusable required] at failed ⊢
      cases failed
      exact ⟨rfl, nofun, fun both => both.2 why unusable⟩
  · left
    obtain ⟨columns, kept⟩ := sheet_of_missing required file source
    rw [kept] at failed ⊢
    cases failed
    exact ⟨rfl, nofun, fun both => required both.1⟩

theorem csv_of_none {path : String} {text : Option String}
    (none : (Request.csv path text).sheet? = none) (file : DatabaseFile) :
    ∃ fault, csv file path text = ⟨file, .error fault, []⟩ ∧ fault ≠ .repeatedColumn := by
  cases text with
  | none => exact ⟨.noFile path, rfl, nofun⟩
  | some text =>
      cases read : Csv.read text with
      | error fault => exact ⟨.unreadable fault, by rw [csv, textBy, read], nofun⟩
      | ok s =>
          rw [Request.sheet?_csv_eq_some_iff.2 ⟨text, rfl, read⟩] at none
          cases none

/-- Text that is a sheet is loaded as that sheet. -/
theorem csv_of_some {path : String} {text : Option String} {s : Sheet}
    (some : (Request.csv path text).sheet? = some s) (file : DatabaseFile) :
    csv file path text = sheet file s path := by
  obtain ⟨given, rfl, read⟩ := Request.sheet?_csv_eq_some_iff.1 some
  rw [csv, textBy, read]

/-- Every load is the load of a sheet, or leaves the file as it is for want of one. -/
theorem load_cases (file : DatabaseFile) (r : Request) :
    (r.sheet? = none ∧ ∃ fault, r.load file = ⟨file, .error fault, []⟩ ∧ fault ≠ .repeatedColumn) ∨
    ∃ s source, r.sheet? = some s ∧ r.load file = sheet file s source := by
  cases r with
  | sheet s source => exact Or.inr ⟨s, source, rfl, rfl⟩
  | csv path text =>
      cases read : (Request.csv path text).sheet? with
      | none => exact Or.inl ⟨rfl, csv_of_none read file⟩
      | some s => exact Or.inr ⟨s, path, rfl, csv_of_some read file⟩

theorem csv_file_of_error {file : DatabaseFile} {path : String} {text : Option String}
    {fault : LoadFault} (failed : (csv file path text).result = .error fault)
    (plain : fault ≠ .repeatedColumn) : (csv file path text).file = file := by
  rcases load_cases file (.csv path text) with ⟨-, other, kept, -⟩ | ⟨s, source, -, load⟩
  · exact congrArg Loaded.file kept
  · have same : csv file path text = sheet file s source := load
    rw [same] at failed ⊢
    rcases sheet_failed failed with ⟨kept, -⟩ | ⟨repeated, -⟩
    · exact kept
    · exact absurd repeated plain

theorem has_of_sheet_ok {file : DatabaseFile} {s : Sheet} {source : String} {stats : Statistics}
    (loaded : (sheet file s source).result = .ok stats) : ∀ c ∈ Column.required, s.Has c := by
  obtain ⟨-, -, required⟩ := sheet_of_ok loaded
  exact fun c member => (s.has_iff c).2 (required c member)

theorem fill_file (file : DatabaseFile) (columns : List String) (rows : List (List (Option String)))
    (source : String) : (fill file columns rows source).file =
      { file with contents := (fill file columns rows source).file.contents } := by
  unfold fill
  dsimp only
  split
  · rfl
  · split <;> rfl

theorem sheet_file (file : DatabaseFile) (s : Sheet) (source : String) :
    (sheet file s source).file = { file with contents := (sheet file s source).file.contents } := by
  unfold sheet
  dsimp only
  split
  · rfl
  · split
    · rfl
    · exact fill_file file _ _ _

/-- A load that comes to its end finds a file that can be used, and leaves tables in it. -/
theorem csv_of_ok {file : DatabaseFile} {path : String} {text : Option String}
    {statistics : Statistics} (loaded : (csv file path text).result = .ok statistics) :
    (∀ why, file.contents ≠ .unusable why) ∧
      ∃ tables, (csv file path text).file = { file with contents := .holding tables } := by
  rcases load_cases file (.csv path text) with ⟨-, fault, kept, -⟩ | ⟨s, source, -, load⟩
  · have same : csv file path text = ⟨file, .error fault, []⟩ := kept
    rw [same] at loaded
    cases loaded
  · have same : csv file path text = sheet file s source := load
    rw [same] at loaded ⊢
    have required := has_of_sheet_ok loaded
    obtain ⟨filled, -⟩ := sheet_of_ok loaded
    refine ⟨fun why unusable => ?_, _, filled ▸ sheet_file file s source⟩
    rw [sheet_of_unusable unusable required] at loaded
    cases loaded

/-- What a failed load leaves behind: the file as it was, unless two columns of one name stopped it.
Then the tables are there and empty. That happens exactly with a usable file and a sheet that has
the required columns, but one of those that must be one column more than once. -/
theorem failed_load_leaves (file : DatabaseFile) (r : Request) {fault : LoadFault}
    (failed : (r.load file).result = .error fault) :
    (fault ≠ .repeatedColumn → (r.load file).file = file) ∧
    (fault = .repeatedColumn →
      (r.load file).file = { file with contents := .holding Database.emptyTables }) ∧
    (fault = .repeatedColumn ↔ ∃ s, r.sheet? = some s ∧ (∀ c ∈ Column.required, s.Has c) ∧
      (∀ why, file.contents ≠ .unusable why) ∧ s.Ambiguous) := by
  rcases load_cases file r with ⟨none, other, kept, plain⟩ | ⟨s, source, some, load⟩
  · rw [kept] at failed ⊢
    cases failed
    refine ⟨fun _ => rfl, fun repeated => absurd repeated plain, ?_⟩
    refine iff_of_false plain ?_
    rintro ⟨s, some, -⟩
    rw [none] at some
    cases some
  · rw [load] at failed ⊢
    rcases sheet_failed failed with ⟨kept, plain, unfit⟩ | ⟨repeated, emptied, fit⟩
    · refine ⟨fun _ => kept, fun repeated => absurd repeated plain, iff_of_false plain ?_⟩
      rintro ⟨other, same, required, usable, -⟩
      rw [some] at same
      cases same
      exact unfit ⟨required, usable⟩
    · exact ⟨fun plain => absurd repeated plain, fun _ => emptied,
        iff_of_true repeated ⟨s, some, fit⟩⟩

def damFile : DatabaseFile where
  path := "g.duckdb"
  fullPath := "/g.duckdb"
  contents := .holding
    ⟨some [⟨some "1", some "dam", some "A barrier across a river", some "0"⟩],
      some [⟨some "1", some "water"⟩], some []⟩

/-- A sheet without a required column leaves the file as it is. -/
theorem failed_load_leaves_damFile :
    ((Request.csv "g.csv" (some "id,term\n2,hound\n")).load damFile).result =
      .error (.missingColumns [.definition]) ∧
    ((Request.csv "g.csv" (some "id,term\n2,hound\n")).load damFile).file = damFile := by
  have failed : ((Request.csv "g.csv" (some "id,term\n2,hound\n")).load damFile).result =
      .error (.missingColumns [.definition]) := by rfl
  exact ⟨failed, (failed_load_leaves damFile _ failed).1 nofun⟩

/-- A sheet with two columns of ids fails to load, and the entry in the file is lost. -/
theorem failed_load_loses_tables :
    ((Request.csv "g.csv" (some "ID,id,term,definition\n2,2,hound,A dog\n")).load damFile).result =
      .error .repeatedColumn ∧
    ((Request.csv "g.csv" (some "ID,id,term,definition\n2,2,hound,A dog\n")).load
      damFile).file.contents = .holding ⟨some [], some [], some []⟩ ∧
    damFile.contents ≠ .holding ⟨some [], some [], some []⟩ := by
  exact ⟨by rfl, by rfl, by decide⟩

end Load

end Glossary
