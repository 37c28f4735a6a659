import Glossary.Proofs.Load.Columns
import Glossary.Proofs.Load.Tables
import Glossary.Proofs.Text.Pieces

set_option autoImplicit false

namespace Glossary

def LabelKind.column : LabelKind → Column
  | .tag => .tags
  | .locale => .locales

/-- What stands between the items of a list in one cell. -/
def isItemEnd (c : Char) : Bool := c == ';'

namespace Sheet

/-- The header has the column under one of its aliases. -/
def Has (s : Sheet) (c : Column) : Prop := ∃ a ∈ c.aliases, a ∈ s.columns.map plainName

instance (s : Sheet) (c : Column) : Decidable (s.Has c) :=
  inferInstanceAs (Decidable (∃ a ∈ c.aliases, a ∈ s.columns.map plainName))

/-- What a row has in a column: the cell under the most wanted alias in the header. -/
def text? (s : Sheet) (c : Column) (row : List (Option String)) : Option String :=
  let names := s.columns.map plainName
  ((c.aliasIn? names).bind (place? names)).bind (cell row)

/-- The row gives the entry: neither its id nor its term is blank. -/
structure Gives (s : Sheet) (row : List (Option String)) (e : Entry) : Prop where
  id : (s.text? .id row).map Text.trim = some e.id
  filledId : e.id ≠ ""
  term : (s.text? .term row).map Text.trim = some e.term
  filledTerm : e.term ≠ ""
  definition : s.text? .definition row = some e.definition
  rank : s.Has .rank → s.text? .rank row = some e.rank
  unranked : ¬ s.Has .rank → e.rank = "0"

/-- The first row that gives an entry of its id gives the entry. -/
def FirstGives (s : Sheet) (e : Entry) : Prop :=
  ∃ before row after, s.rows = before ++ row :: after ∧ s.Gives row e ∧
    ∀ earlier ∈ before, ∀ d, s.Gives earlier d → d.id ≠ e.id

/-- Some row that gives an entry of the id lists the name among its labels, which is not blank. -/
def Labels (s : Sheet) (kind : LabelKind) (id name : String) : Prop :=
  ∃ row ∈ s.rows, ∃ e list item, s.Gives row e ∧ e.id = id ∧
    s.text? kind.column row = some list ∧ Text.IsPiece isItemEnd list.toList item ∧
    Text.trim (String.ofList item) = name ∧ name ≠ ""

theorem has_iff (s : Sheet) (c : Column) :
    s.Has c ↔ (standardColumns s.columns).contains c.name = true := by
  rw [List.contains_iff_mem, mem_standardColumns_iff, Column.isSome_aliasIn?_iff, Has]

theorem filter_missing_eq_nil_iff (s : Sheet) :
    (Column.required.filter fun c => !(standardColumns s.columns).contains c.name) = [] ↔
      ∀ c ∈ Column.required, s.Has c := by
  rw [List.filter_eq_nil_iff]
  refine forall_congr' fun c => imp_congr_right fun _ => ?_
  rw [has_iff, Bool.not_eq_true, Bool.not_eq_false']

theorem place?_eq (s : Sheet) (c : Column) (row : List (Option String)) :
    (place? (standardColumns s.columns) c.name).bind (cell row) = s.text? c row := by
  rw [place?_standardColumns, text?]

theorem exists_text?_of_complete {s : Sheet} (complete : s.Complete)
    {row : List (Option String)} (member : row ∈ s.rows) {c : Column} (has : s.Has c) :
    ∃ text, s.text? c row = some text := by
  obtain ⟨length, whole⟩ := complete row member
  rw [← place?_eq]
  refine cell_of_complete ?_ whole ((s.has_iff c).1 has)
  rw [length, standardColumns, List.length_map, List.length_map]

/-- A row with these texts gives one entry, unless its id or its term is blank. -/
theorem gives_iff {s : Sheet} {row : List (Option String)} {id term definition rank : String}
    (hasId : s.text? .id row = some id) (hasTerm : s.text? .term row = some term)
    (hasDefinition : s.text? .definition row = some definition)
    (ranked : s.Has .rank → s.text? .rank row = some rank)
    (unranked : ¬ s.Has .rank → rank = "0") (e : Entry) :
    s.Gives row e ↔ (Text.trim id ≠ "" ∧ Text.trim term ≠ "") ∧
      ⟨Text.trim id, Text.trim term, definition, rank⟩ = e := by
  constructor
  · intro gives
    have sameId : Text.trim id = e.id := by simpa [hasId] using gives.id
    have sameTerm : Text.trim term = e.term := by simpa [hasTerm] using gives.term
    have sameDefinition : definition = e.definition := by
      simpa [hasDefinition] using gives.definition
    have sameRank : rank = e.rank := by
      by_cases has : s.Has .rank
      · simpa [ranked has] using gives.rank has
      · rw [unranked has, gives.unranked has]
    rw [sameId, sameTerm, sameDefinition, sameRank]
    exact ⟨⟨gives.filledId, gives.filledTerm⟩, rfl⟩
  · rintro ⟨⟨filledId, filledTerm⟩, rfl⟩
    exact
      { id := by rw [hasId]; rfl
        filledId
        term := by rw [hasTerm]; rfl
        filledTerm
        definition := hasDefinition
        rank := ranked
        unranked }

end Sheet

theorem mem_listItems_iff {cell x : String} :
    x ∈ listItems cell ↔ ∃ item, Text.IsPiece isItemEnd cell.toList item ∧
      Text.trim (String.ofList item) = x ∧ x ≠ "" := by
  simp only [listItems, List.mem_filter, List.mem_map, Text.mem_pieces_iff, bne_iff_ne, Text.trim,
    String.toList_ofList, exists_and_right, ← and_assoc]
  rfl

theorem Entry.toRow_inj {d e : Entry} : d.toRow = e.toRow ↔ d = e := by
  cases d
  cases e
  simp [Entry.toRow]

namespace SourceRow

def Kept (r : SourceRow) : Prop := r.id ≠ some "" ∧ r.term ≠ ""

instance (r : SourceRow) : Decidable r.Kept := inferInstanceAs (Decidable (_ ∧ _))

/-- A row as a load reads it, told from the sheet. -/
theorem ofCells_standard (s : Sheet) (row : List (Option String)) :
    ofCells (standardColumns s.columns) row =
      { id := (s.text? .id row).map Text.trim
        term := Text.trim ((s.text? .term row).getD "")
        definition := (s.text? .definition row).getD ""
        rank := if (standardColumns s.columns).contains Column.rank.name then s.text? .rank row
          else some "0"
        tags := s.text? .tags row
        locales := s.text? .locales row } := by
  simp only [ofCells, Sheet.place?_eq]

theorem labels_ofCells (s : Sheet) (row : List (Option String)) (kind : LabelKind) :
    (ofCells (standardColumns s.columns) row).labels kind = s.text? kind.column row := by
  rw [ofCells_standard]
  cases kind <;> rfl

end SourceRow

namespace Load

variable {s : Sheet}

theorem keptRows_eq (s : Sheet) : keptRows s =
    (s.rows.filter fun row =>
      decide (SourceRow.ofCells (standardColumns s.columns) row).Kept).map
        (SourceRow.ofCells (standardColumns s.columns)) := by
  rw [keptRows, withTerm, withId, List.filter_map, List.filter_map, List.filter_filter]
  congr 2
  funext row
  rw [Bool.eq_iff_iff, Bool.and_eq_true, decide_eq_true_eq, and_comm]
  simp only [Function.comp_apply, decide_eq_true_eq, SourceRow.Kept]

/-- The rank of a row: what stands in its column, or 0 without one. -/
theorem exists_rank (complete : s.Complete) {row : List (Option String)} (member : row ∈ s.rows) :
    ∃ rank, (SourceRow.ofCells (standardColumns s.columns) row).rank = some rank ∧
      (s.Has .rank → s.text? .rank row = some rank) ∧ (¬ s.Has .rank → rank = "0") := by
  rw [SourceRow.ofCells_standard]
  by_cases ranked : s.Has .rank
  · obtain ⟨rank, has⟩ := Sheet.exists_text?_of_complete complete member ranked
    refine ⟨rank, ?_, fun _ => has, fun unranked => absurd ranked unranked⟩
    simp only [(s.has_iff .rank).1 ranked, ↓reduceIte, has]
  · refine ⟨"0", ?_, fun has => absurd has ranked, fun _ => rfl⟩
    simp only [(s.has_iff .rank).not.1 ranked, Bool.false_eq_true, ↓reduceIte]

/-- A row is read as one entry, and gives it if a load keeps the row. -/
theorem exists_entry (complete : s.Complete) (required : ∀ c ∈ Column.required, s.Has c)
    {row : List (Option String)} (member : row ∈ s.rows) :
    ∃ d : Entry, (SourceRow.ofCells (standardColumns s.columns) row).toEntryRow = d.toRow ∧
      ∀ e, s.Gives row e ↔ (SourceRow.ofCells (standardColumns s.columns) row).Kept ∧ d = e := by
  have present : ∀ c, s.Has c → ∃ text, s.text? c row = some text := fun _ has =>
    Sheet.exists_text?_of_complete complete member has
  obtain ⟨id, hasId⟩ := present .id (required .id (by decide))
  obtain ⟨term, hasTerm⟩ := present .term (required .term (by decide))
  obtain ⟨definition, hasDefinition⟩ := present .definition (required .definition (by decide))
  obtain ⟨rank, hasRank, ranked, unranked⟩ := exists_rank complete member
  have read : (SourceRow.ofCells (standardColumns s.columns) row).toEntryRow =
      (Entry.mk (Text.trim id) (Text.trim term) definition rank).toRow := by
    rw [SourceRow.toEntryRow, hasRank, SourceRow.ofCells_standard, hasId, hasTerm, hasDefinition]
    rfl
  have kept : (SourceRow.ofCells (standardColumns s.columns) row).Kept ↔
      Text.trim id ≠ "" ∧ Text.trim term ≠ "" := by
    rw [SourceRow.Kept, SourceRow.ofCells_standard, hasId, hasTerm]
    simp
  refine ⟨_, read, fun e => ?_⟩
  rw [kept]
  exact Sheet.gives_iff hasId hasTerm hasDefinition ranked unranked e

/-- The entry of a row is the one that is made of it, if the row is kept. -/
theorem gives_iff_kept (complete : s.Complete) (required : ∀ c ∈ Column.required, s.Has c)
    {row : List (Option String)} (member : row ∈ s.rows) (e : Entry) :
    s.Gives row e ↔ (SourceRow.ofCells (standardColumns s.columns) row).Kept ∧
      (SourceRow.ofCells (standardColumns s.columns) row).toEntryRow = e.toRow := by
  obtain ⟨d, read, gives⟩ := exists_entry complete required member
  rw [gives, read, Entry.toRow_inj]

/-- The table of entries has the row of an entry exactly if the first row of its id gives it. -/
theorem mem_entryRows_iff (complete : s.Complete) (required : ∀ c ∈ Column.required, s.Has c)
    (r : EntryRow) : r ∈ entryRows (keptRows s) ↔ ∃ e, s.FirstGives e ∧ e.toRow = r := by
  rw [entryRows, keptRows_eq, List.map_map, mem_distinctOn_map_filter_iff]
  simp only [decide_eq_true_eq, Function.comp_apply]
  constructor
  · rintro ⟨before, row, after, whole, ⟨kept, rfl⟩, none⟩
    have member : row ∈ s.rows := by simp [whole]
    obtain ⟨e, read, -⟩ := exists_entry complete required member
    have given := (gives_iff_kept complete required member e).2 ⟨kept, read⟩
    refine ⟨e, ⟨before, row, after, whole, given, ?_⟩, read.symm⟩
    intro earlier inside d givenEarlier same
    have above : earlier ∈ s.rows := by simp [whole, inside]
    obtain ⟨keptEarlier, readEarlier⟩ :=
      (gives_iff_kept complete required above d).1 givenEarlier
    refine none earlier inside keptEarlier ?_
    rw [read, readEarlier, Entry.toRow, Entry.toRow, same]
  · rintro ⟨e, ⟨before, row, after, whole, given, none⟩, rfl⟩
    have member : row ∈ s.rows := by simp [whole]
    refine ⟨before, row, after, whole, (gives_iff_kept complete required member e).1 given, ?_⟩
    intro earlier inside kept same
    have above : earlier ∈ s.rows := by simp [whole, inside]
    obtain ⟨d, read, -⟩ := exists_entry complete required above
    rw [read] at same
    have givenEarlier := (gives_iff_kept complete required above d).2 ⟨kept, read⟩
    exact none earlier inside d givenEarlier (Option.some.inj same)

/-- The table of labels has a row exactly if some row of the sheet lists its label. -/
theorem mem_labelRows_iff (complete : s.Complete) (required : ∀ c ∈ Column.required, s.Has c)
    (kind : LabelKind) (l : LabelRow) : l ∈ labelRows kind (keptRows s) ↔
      ∃ id name, s.Labels kind id name ∧ l = ⟨some id, some name⟩ := by
  rw [labelRows, mem_distinctOn_iff fun _ _ _ _ same => same, keptRows_eq]
  simp only [List.mem_flatMap, List.mem_map, List.mem_filter, decide_eq_true_eq,
    exists_exists_and_eq_and, SourceRow.labels_ofCells]
  constructor
  · rintro ⟨row, ⟨member, kept⟩, name, listed, rfl⟩
    obtain ⟨e, read, -⟩ := exists_entry complete required member
    have given := (gives_iff_kept complete required member e).2 ⟨kept, read⟩
    have sameId := congrArg EntryRow.id read
    cases found : s.text? kind.column row with
    | none =>
        rw [found] at listed
        cases listed
    | some list =>
        rw [found] at listed
        obtain ⟨item, place, trimmed, filled⟩ := mem_listItems_iff.1 listed
        exact ⟨e.id, name, ⟨row, member, e, list, item, given, rfl, found, place, trimmed, filled⟩,
          congrArg (LabelRow.mk · (some name)) sameId⟩
  · rintro ⟨id, name, listing, rfl⟩
    obtain ⟨row, member, e, list, item, given, rfl, hasList, place, trimmed, filled⟩ := listing
    obtain ⟨kept, read⟩ := (gives_iff_kept complete required member e).1 given
    have sameId := congrArg EntryRow.id read
    refine ⟨row, ⟨member, kept⟩, name, ?_, congrArg (LabelRow.mk · (some name)) sameId⟩
    rw [hasList]
    exact mem_listItems_iff.2 ⟨item, place, trimmed, filled⟩

theorem id_mem_entryRows (complete : s.Complete) (required : ∀ c ∈ Column.required, s.Has c)
    {row : List (Option String)} (member : row ∈ s.rows) {e : Entry} (given : s.Gives row e) :
    some e.id ∈ (entryRows (keptRows s)).map (·.id) := by
  obtain ⟨kept, read⟩ := (gives_iff_kept complete required member e).1 given
  have made : e.toRow ∈ (keptRows s).map (·.toEntryRow) := by
    rw [keptRows_eq, List.map_map, ← read]
    exact List.mem_map_of_mem (List.mem_filter.2 ⟨member, decide_eq_true kept⟩)
  obtain ⟨r, found, same⟩ := exists_mem_distinctOn (fun r : EntryRow => r.id) made
  exact List.mem_map.2 ⟨r, found, same⟩

theorem sheet_eq_fill {file : DatabaseFile} (usable : ∀ why, file.contents ≠ .unusable why)
    (required : ∀ c ∈ Column.required, s.Has c) (source : String) :
    sheet file s source = fill file (standardColumns s.columns) s.rows source := by
  rw [sheet, s.filter_missing_eq_nil_iff.2 required]
  cases contents : file.contents with
  | unusable why => exact absurd contents (usable why)
  | missing => rfl
  | holding tables => rfl

/-- Without repeated names the tables are filled with what is made of the rows that are kept. -/
theorem fill_of_apart (file : DatabaseFile) (apart : (s.columns.map plainName).Nodup)
    (source : String) :
    (fill file (standardColumns s.columns) s.rows source).file =
        { file with contents := .holding (tablesOf (keptRows s)) } ∧
      (fill file (standardColumns s.columns) s.rows source).result = .ok
        ⟨(entryRows (keptRows s)).length, (labelRows .tag (keptRows s)).length,
          (labelRows .locale (keptRows s)).length, source⟩ := by
  have single := repeats_standardColumns_of_nodup apart
  simp only [fill, single, Bool.or_self, Bool.false_eq_true, ↓reduceIte]
  exact ⟨rfl, rfl⟩

/-- What a load leaves in the file, whatever was there before: for each id the entry that the first
row gives, each label of an entry once, and nothing else. A search by the path of the file finds it
as the load left it (`CommandLine.found_loadText`). -/
theorem sheet_replaces_tables (file : DatabaseFile) (s : Sheet) (source : String)
    (usable : ∀ why, file.contents ≠ .unusable why) (complete : s.Complete)
    (apart : (s.columns.map plainName).Nodup) (required : ∀ c ∈ Column.required, s.Has c) :
    ∃ (entries : List EntryRow) (labels : LabelKind → List LabelRow),
      (sheet file s source).result = .ok
        ⟨entries.length, (labels .tag).length, (labels .locale).length, source⟩ ∧
      (sheet file s source).file = { file with
        contents := .holding ⟨some entries, some (labels .tag), some (labels .locale)⟩ } ∧
      (entries.map (·.id)).Nodup ∧
      (∀ r, r ∈ entries ↔ ∃ e, s.FirstGives e ∧ e.toRow = r) ∧
      (∀ row ∈ s.rows, ∀ e, s.Gives row e → some e.id ∈ entries.map (·.id)) ∧
      ∀ kind, (labels kind).Nodup ∧ ∀ l, l ∈ labels kind ↔
        ∃ id name, s.Labels kind id name ∧ l = ⟨some id, some name⟩ := by
  obtain ⟨contents, result⟩ := fill_of_apart file apart source
  rw [sheet_eq_fill usable required]
  exact ⟨entryRows (keptRows s), fun kind => labelRows kind (keptRows s), result, contents,
    List.pairwise_map.2 (pairwise_distinctOn _ _), mem_entryRows_iff complete required,
    fun row member e given => id_mem_entryRows complete required member given,
    fun kind => ⟨pairwise_distinctOn _ _, mem_labelRows_iff complete required kind⟩⟩

/-- A sheet that starts with a row without a term and has two more rows of the same id. -/
def dams : Sheet where
  columns := ["ID", " Word", "Meaning", "TAGS"]
  rows :=
    [[some "1", some "  ", some "no term", some "Lost"],
     [some " 1", some "dam ", some "a wall ", some "Sea; sea;;Sea"],
     [some "1", some "dyke", some "a bank", some "Land"]]

/-- A row without a term gives neither the entry of its id nor a label; a later row of an id gives
no entry, but labels. -/
theorem sheet_replaces_tables_dams :
    dams.Complete ∧ (dams.columns.map plainName).Nodup ∧ (∀ c ∈ Column.required, dams.Has c) ∧
    ∃ entries labels,
      (sheet ⟨"dams.db", "/dams.db", .holding ⟨some [], none, none⟩⟩ dams "dams").result =
        .ok ⟨1, 3, 0, "dams"⟩ ∧
      (sheet ⟨"dams.db", "/dams.db", .holding ⟨some [], none, none⟩⟩ dams "dams").file.contents =
        .holding ⟨some entries, some labels, some []⟩ ∧
      ⟨some "1", some "dam", some "a wall ", some "0"⟩ ∈ entries ∧
      ⟨some "1", some "sea"⟩ ∈ labels ∧ ⟨some "1", some "Land"⟩ ∈ labels ∧
      ⟨some "1", some "Lost"⟩ ∉ labels := by
  have complete : dams.Complete := by simp [Sheet.Complete, dams]
  have apart : (dams.columns.map plainName).Nodup := by decide
  have required : ∀ c ∈ Column.required, dams.Has c := by decide
  obtain ⟨entries, labels, result, written, -⟩ :=
    sheet_replaces_tables ⟨"dams.db", "/dams.db", .holding ⟨some [], none, none⟩⟩ dams "dams" nofun
      complete apart required
  have contents := congrArg DatabaseFile.contents written
  have loaded : (sheet ⟨"dams.db", "/dams.db", .holding ⟨some [], none, none⟩⟩ dams
      "dams").file.contents = .holding ⟨some [⟨some "1", some "dam", some "a wall ", some "0"⟩],
        some [⟨some "1", some "Sea"⟩, ⟨some "1", some "sea"⟩, ⟨some "1", some "Land"⟩],
        some []⟩ := by rfl
  rw [loaded] at contents
  simp only [Database.holding.injEq, Tables.mk.injEq, Option.some.injEq] at contents
  obtain ⟨sameEntries, sameTags, sameLocales⟩ := contents
  rw [← sameEntries, ← sameTags, ← sameLocales] at result
  exact ⟨complete, apart, required, _, _, result, loaded, by decide⟩

end Load

end Glossary
