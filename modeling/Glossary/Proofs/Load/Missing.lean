import Glossary.Proofs.Answers
import Glossary.Proofs.Database.Faults
import Glossary.Proofs.Load.Replacement

set_option autoImplicit false

namespace Glossary

namespace Text

theorem contains_empty (whole : String) : contains whole "" = true :=
  (occursIn_iff _ _).2 (List.nil_infix)

end Text

namespace Sheet

/-- The row has the id, which is not blank. -/
structure HasId (s : Sheet) (row : List (Option String)) (id : String) : Prop where
  cell : (s.text? .id row).map Text.trim = some id
  filled : id ≠ ""

def HasTerm (s : Sheet) (row : List (Option String)) : Prop :=
  ∃ term, s.text? .term row = some term ∧ Text.trim term ≠ ""

def LacksId (s : Sheet) (row : List (Option String)) : Prop := s.text? .id row = none

/-- The row lists the name, which is not blank, among its labels of a kind. -/
def Lists (s : Sheet) (kind : LabelKind) (row : List (Option String)) (name : String) : Prop :=
  ∃ list item, s.text? kind.column row = some list ∧ Text.IsPiece isItemEnd list.toList item ∧
    Text.trim (String.ofList item) = name ∧ name ≠ ""

variable {s : Sheet} {row : List (Option String)}

/-- A load keeps rows with a term that have an id or lack it. -/
theorem kept_iff : (SourceRow.ofCells (standardColumns s.columns) row).Kept ↔
    (s.LacksId row ∨ ∃ id, s.HasId row id) ∧ s.HasTerm row := by
  rw [SourceRow.Kept, SourceRow.ofCells_standard]
  refine and_congr ?_ ?_
  · rw [LacksId]
    constructor
    · intro filled
      cases cell : s.text? .id row with
      | none => exact Or.inl rfl
      | some text =>
          rw [cell, Option.map_some, Ne, Option.some.injEq] at filled
          exact Or.inr ⟨Text.trim text, by rw [cell, Option.map_some], filled⟩
    · rintro (lacks | ⟨id, has⟩) blank
      · rw [lacks] at blank
        cases blank
      · exact has.filled (Option.some.inj (has.cell.symm.trans blank))
  · cases cell : s.text? .term row with
    | none => exact iff_of_false (fun filled => filled rfl) (by simp [HasTerm, cell])
    | some term => simp [HasTerm, cell]

end Sheet

namespace Load

variable {s : Sheet}

theorem mem_keptRows_iff (r : SourceRow) : r ∈ keptRows s ↔
    ∃ row ∈ s.rows, ((s.LacksId row ∨ ∃ id, s.HasId row id) ∧ s.HasTerm row) ∧
      SourceRow.ofCells (standardColumns s.columns) row = r := by
  simp only [keptRows_eq, List.mem_map, List.mem_filter, decide_eq_true_eq, Sheet.kept_iff,
    and_assoc]

/-- Every row of the table of entries has a term, and its id is that of a row of the sheet. -/
theorem exists_row_of_mem_entryRows {r : EntryRow} (member : r ∈ entryRows (keptRows s)) :
    r.term ≠ none ∧ ∃ row ∈ s.rows, ((s.LacksId row ∨ ∃ id, s.HasId row id) ∧ s.HasTerm row) ∧
      (s.text? .id row).map Text.trim = r.id := by
  obtain ⟨q, inside, rfl⟩ := List.mem_map.1 (mem_of_mem_distinctOn member)
  obtain ⟨row, known, kept, rfl⟩ := (mem_keptRows_iff q).1 inside
  exact ⟨nofun, row, known, kept, by rw [SourceRow.ofCells_standard]; rfl⟩

theorem exists_entryRow {row : List (Option String)} (known : row ∈ s.rows)
    (kept : (s.LacksId row ∨ ∃ id, s.HasId row id) ∧ s.HasTerm row) :
    ∃ r ∈ entryRows (keptRows s), r.id = (s.text? .id row).map Text.trim := by
  have inside := (mem_keptRows_iff _).2 ⟨row, known, kept, rfl⟩
  obtain ⟨r, found, same⟩ := exists_mem_distinctOn (fun r : EntryRow => r.id)
    (List.mem_map_of_mem (f := (·.toEntryRow)) inside)
  exact ⟨r, found, same.trans (by rw [SourceRow.ofCells_standard]; rfl)⟩

/-- The labels that a kept row lists are in the table of labels. -/
theorem mem_labelRows_of_lists {row : List (Option String)} {id name : String} {kind : LabelKind}
    (known : row ∈ s.rows) (has : s.HasId row id) (term : s.HasTerm row)
    (lists : s.Lists kind row name) : ⟨some id, some name⟩ ∈ labelRows kind (keptRows s) := by
  obtain ⟨list, item, cell, piece, trimmed, filled⟩ := lists
  rw [labelRows, mem_distinctOn_iff fun _ _ _ _ same => same, List.mem_flatMap]
  refine ⟨_, (mem_keptRows_iff _).2 ⟨row, known, ⟨Or.inr ⟨id, has⟩, term⟩, rfl⟩, ?_⟩
  rw [SourceRow.labels_ofCells, cell]
  refine List.mem_map.2 ⟨name, mem_listItems_iff.2 ⟨item, piece, trimmed, filled⟩, ?_⟩
  rw [SourceRow.ofCells_standard, has.cell]

end Load

theorem EntryRow.id_toEntry {r : EntryRow} {id : String} (has : r.id = some id) :
    r.toEntry.id = id := by
  rw [toEntry, has, Option.getD_some]

/-- The rows that have an id, in order. -/
def identified (rows : List EntryRow) : List EntryRow := (orderedRows rows).filter (·.id.isSome)

/-- The rows that have none. -/
def unidentified (rows : List EntryRow) : List EntryRow :=
  (orderedRows rows).filter fun r => !r.id.isSome

variable {rows : List EntryRow} {r : EntryRow}

theorem mem_identified_iff : r ∈ identified rows ↔ r ∈ rows ∧ ∃ id, r.id = some id := by
  rw [identified, orderedRows, List.mem_filter, mem_sortBy, Option.isSome_iff_exists]

theorem mem_unidentified_iff : r ∈ unidentified rows ↔ r ∈ rows ∧ r.id = none := by
  rw [unidentified, orderedRows, List.mem_filter, mem_sortBy, Bool.not_eq_true',
    Option.isSome_eq_false_iff, Option.isNone_iff_eq_none]

/-- Rows that have an id come before the others. -/
theorem orderedRows_eq (rows : List EntryRow) :
    orderedRows rows = identified rows ++ unidentified rows := by
  refine (filter_append_filter_not ((pairwise_sortBy (fun a b => cellBefore_total a.id b.id)
    (fun a b c => cellBefore_trans a.id b.id c.id) rows).imp fun {a b} before there => ?_)).symm
  cases first : a.id with
  | some id => rfl
  | none =>
      -- A row without an id comes before none that has one.
      obtain ⟨id, second⟩ := Option.isSome_iff_exists.1 there
      rw [first, second] at before
      cases before

theorem nodup_orderedRows (apart : (rows.map (·.id)).Nodup) :
    ((orderedRows rows).map (·.id)).Nodup :=
  ((sortBy_perm _ rows).map _).nodup_iff.2 apart

/-- Rows with ids of their own are read as entries with ids of their own. -/
theorem nodup_identified (apart : (rows.map (·.id)).Nodup) :
    ((identified rows).map fun r => r.toEntry.id).Nodup := by
  have ids : (identified rows).map (·.id) =
      ((identified rows).map fun r => r.toEntry.id).map some := by
    rw [List.map_map]
    refine List.map_congr_left fun r member => ?_
    obtain ⟨-, id, has⟩ := mem_identified_iff.1 member
    rw [Function.comp_apply, EntryRow.id_toEntry has, has]
  have part : ((identified rows).map (·.id)).Nodup :=
    (List.filter_sublist.map _).nodup (nodup_orderedRows apart)
  rw [ids] at part
  exact part.of_map

/-- Where each id is there once, one row at most has none. -/
theorem length_unidentified_le (apart : (rows.map (·.id)).Nodup) :
    (unidentified rows).length ≤ 1 := by
  have none : (unidentified rows).map (·.id) = List.replicate (unidentified rows).length none :=
    List.map_eq_replicate_iff.2 fun r member => (mem_unidentified_iff.1 member).2
  have part : ((unidentified rows).map (·.id)).Nodup :=
    (List.filter_sublist.map _).nodup (nodup_orderedRows apart)
  rw [none, List.nodup_replicate] at part
  exact part

namespace DatabaseFile

variable {file : DatabaseFile} {rows : List EntryRow} {labels : List LabelRow} {kind : LabelKind}

theorem byTerm_empty (table : file.entryRows = .ok rows) (terms : ∀ r ∈ rows, r.term ≠ none) :
    file.toStore.definitions.byTerm "" = .ok ((orderedRows rows).map (·.toEntry)) := by
  have all : rows.filter (fun r => bothHold Text.contains r.term (some "")) = rows := by
    refine List.filter_eq_self.2 fun r member => ?_
    obtain ⟨term, there⟩ := Option.ne_none_iff_exists'.1 (terms r member)
    rw [there, bothHold_some, Text.contains_empty]
  simp only [toStore, withTerm, table, Except.map, all, outage]

theorem namesOf_of_mem {id name : String} (table : file.labelRows kind = .ok labels)
    (member : ⟨some id, some name⟩ ∈ labels) :
    ∃ names, (file.toStore.labels kind).namesOf id = .ok names ∧ some name ∈ names := by
  obtain ⟨names, answer⟩ := exists_labelsOf table (some id)
  obtain ⟨others, again, same, -⟩ := rows_of_labelsOf answer
  rw [table, Except.ok.injEq] at again
  subst again
  rw [labels_toStore]
  exact ⟨names, answer, (same (some name)).2 member⟩

theorem entriesWith_of_mem {r : EntryRow} {id name : String} (entries : file.entryRows = .ok rows)
    (table : file.labelRows kind = .ok labels) (inside : r ∈ rows) (same : r.id = some id)
    (member : ⟨some id, some name⟩ ∈ labels) :
    ∃ found, (file.toStore.labels kind).entriesWith name = .ok found ∧ r.toEntry ∈ found := by
  obtain ⟨found, answer⟩ := exists_labelled entries table (some name)
  rw [labels_toStore]
  refine ⟨found, answer, ?_⟩
  rw [labelled, entries, Except.bind, table] at answer
  cases answer
  refine List.mem_map_of_mem ((mem_sortBy _ _ r).2 ?_)
  rw [mem_distinctOn_iff fun _ _ _ _ same => same, List.mem_filter, List.any_eq_true]
  refine ⟨inside, some id, List.mem_map_of_mem (List.mem_filter.2 ⟨member, ?_⟩), ?_⟩
  · exact decide_eq_true rfl
  · rw [same, bothHold_some, decide_eq_true_eq]

end DatabaseFile

namespace Load

variable {s : Sheet}

theorem mem_ids_identified_iff (id : String) :
    id ∈ (identified (entryRows (keptRows s))).map (fun r => r.toEntry.id) ↔
      ∃ row ∈ s.rows, s.HasId row id ∧ s.HasTerm row := by
  rw [List.mem_map]
  constructor
  · intro held
    obtain ⟨r, member, rfl⟩ := held
    obtain ⟨inside, id, has⟩ := mem_identified_iff.1 member
    obtain ⟨-, row, known, ⟨lacks | ⟨id', has'⟩, term⟩, same⟩ := exists_row_of_mem_entryRows inside
    · rw [lacks, has] at same
      cases same
    · rw [has'.cell, has, Option.some.injEq] at same
      subst same
      exact ⟨row, known, by rwa [EntryRow.id_toEntry has], term⟩
  · intro held
    obtain ⟨row, known, has, term⟩ := held
    obtain ⟨r, inside, same⟩ := exists_entryRow known ⟨Or.inr ⟨id, has⟩, term⟩
    rw [has.cell] at same
    exact ⟨r, mem_identified_iff.2 ⟨inside, id, same⟩, EntryRow.id_toEntry same⟩

/-- There is an entry without an id exactly if a row without an id has a term. -/
theorem unidentified_ne_nil_iff :
    unidentified (entryRows (keptRows s)) ≠ [] ↔ ∃ row ∈ s.rows, s.LacksId row ∧ s.HasTerm row := by
  constructor
  · intro some
    obtain ⟨r, member⟩ := List.exists_mem_of_ne_nil _ some
    obtain ⟨inside, absent⟩ := mem_unidentified_iff.1 member
    obtain ⟨-, row, known, ⟨lacks | ⟨id, has⟩, term⟩, same⟩ := exists_row_of_mem_entryRows inside
    · exact ⟨row, known, lacks, term⟩
    · rw [has.cell, absent] at same
      cases same
  · intro held
    obtain ⟨row, known, lacks, term⟩ := held
    obtain ⟨r, inside, same⟩ := exists_entryRow known ⟨Or.inl lacks, term⟩
    rw [lacks] at same
    exact List.ne_nil_of_mem (mem_unidentified_iff.2 ⟨inside, same⟩)

/-- What can be looked up after a load that came to something, whichever cells of the sheet are
absent. The entries that have an id have one each, that of a row of the sheet; every row with an id
and a term has its entry; and each label that such a row lists is found under the id, and the entry
under the label. Behind these there is one entry more exactly if a row without an id has a term, and
it is read as if its id were `None`. -/
theorem load_keeps_ids_and_labels (file : DatabaseFile) (s : Sheet) (source : String)
    (stats : Statistics) (loaded : (sheet file s source).result = .ok stats) :
    ∃ known extra,
      (sheet file s source).file.toStore.definitions.byTerm "" = .ok (known ++ extra) ∧
      (known.map (·.id)).Nodup ∧
      (∀ id, id ∈ known.map (·.id) ↔ ∃ row ∈ s.rows, s.HasId row id ∧ s.HasTerm row) ∧
      (∀ e ∈ known, ∀ row ∈ s.rows, s.HasId row e.id → s.HasTerm row →
        ∀ kind name, s.Lists kind row name →
          (∃ names, ((sheet file s source).file.toStore.labels kind).namesOf e.id = .ok names ∧
            some name ∈ names) ∧
          ∃ found, ((sheet file s source).file.toStore.labels kind).entriesWith name = .ok found ∧
            e ∈ found) ∧
      extra.length ≤ 1 ∧ (∀ e ∈ extra, e.id = "None") ∧
      (extra ≠ [] ↔ ∃ row ∈ s.rows, s.LacksId row ∧ s.HasTerm row) := by
  obtain ⟨contents, -, -⟩ := sheet_of_ok loaded
  have entries : (sheet file s source).file.entryRows = .ok (entryRows (keptRows s)) :=
    DatabaseFile.entryRows_of_table contents rfl
  have labels : ∀ kind, (sheet file s source).file.labelRows kind =
      .ok (labelRows kind (keptRows s)) := fun kind =>
    DatabaseFile.labelRows_of_table contents (labels_tablesOf (keptRows s) kind)
  have apart : ((entryRows (keptRows s)).map (·.id)).Nodup :=
    List.pairwise_map.2 (pairwise_distinctOn _ _)
  refine ⟨(identified (entryRows (keptRows s))).map (·.toEntry),
    (unidentified (entryRows (keptRows s))).map (·.toEntry), ?_, ?_, fun id => ?_, ?_, ?_, ?_, ?_⟩
  · rw [DatabaseFile.byTerm_empty entries fun r member => (exists_row_of_mem_entryRows member).1,
      orderedRows_eq, List.map_append]
  · rw [List.map_map]
    exact nodup_identified apart
  · rw [List.map_map]
    exact mem_ids_identified_iff id
  · intro e member row known has term kind name lists
    obtain ⟨r, held, rfl⟩ := List.mem_map.1 member
    obtain ⟨inside, id, same⟩ := mem_identified_iff.1 held
    rw [EntryRow.id_toEntry same] at has ⊢
    have listed := mem_labelRows_of_lists known has term lists
    exact ⟨DatabaseFile.namesOf_of_mem (labels kind) listed,
      DatabaseFile.entriesWith_of_mem entries (labels kind) inside same listed⟩
  · rw [List.length_map]
    exact length_unidentified_le apart
  · intro e member
    obtain ⟨r, held, rfl⟩ := List.mem_map.1 member
    rw [EntryRow.toEntry, (mem_unidentified_iff.1 held).2, Option.getD_none]
  · rw [Ne, List.map_eq_nil_iff]
    exact unidentified_ne_nil_iff

/-- A sheet with a row of a blank id, one without an id and one without a term. -/
def gaps : Sheet where
  columns := ["ID", "Term", "Definition", "Tags"]
  rows :=
    [[some " 1", some "dam", none, some "Sea; sea;;"],
     [some "  ", some "hill", some "a small mountain", some "Land"],
     [some "1", some "dyke", some "a bank", some "Land"],
     [some "2", none, some "no term", some "Lost"],
     [none, some "wall", some "of stone", none]]

/-- The entry of the two rows of one id is found under the tag that the second row lists; behind it
stands the entry of the row without an id. -/
theorem load_keeps_ids_and_labels_gaps :
    (sheet ⟨"g.duckdb", "/g.duckdb", .missing⟩ gaps "dataframe").result =
      .ok ⟨2, 3, 0, "dataframe"⟩ ∧
    (sheet ⟨"g.duckdb", "/g.duckdb", .missing⟩ gaps "dataframe").file.toStore.definitions.byTerm
      "" = .ok [⟨"1", "dam", "", "0"⟩, ⟨"None", "wall", "of stone", "0"⟩] ∧
    ∃ found, (sheet ⟨"g.duckdb", "/g.duckdb", .missing⟩ gaps
      "dataframe").file.toStore.tags.entriesWith "Land" = .ok found ∧
        ⟨"1", "dam", "", "0"⟩ ∈ found := by
  have loaded : (sheet ⟨"g.duckdb", "/g.duckdb", .missing⟩ gaps "dataframe").result =
      .ok ⟨2, 3, 0, "dataframe"⟩ := by rfl
  have listed : (sheet ⟨"g.duckdb", "/g.duckdb", .missing⟩ gaps
      "dataframe").file.toStore.definitions.byTerm "" =
        .ok [⟨"1", "dam", "", "0"⟩, ⟨"None", "wall", "of stone", "0"⟩] := by rfl
  obtain ⟨known, extra, answer, -, ids, links, -⟩ :=
    load_keeps_ids_and_labels _ _ _ _ loaded
  have bank : [some "1", some "dyke", some "a bank", some "Land"] ∈ gaps.rows := by decide
  have has : gaps.HasId [some "1", some "dyke", some "a bank", some "Land"] "1" :=
    ⟨by rfl, by decide⟩
  have term : gaps.HasTerm [some "1", some "dyke", some "a bank", some "Land"] :=
    ⟨"dyke", by rfl, by decide⟩
  have lists : gaps.Lists .tag [some "1", some "dyke", some "a bank", some "Land"] "Land" := by
    have item : "Land" ∈ listItems "Land" := by decide
    obtain ⟨piece, place, trimmed, filled⟩ := mem_listItems_iff.1 item
    exact ⟨"Land", piece, by rfl, place, trimmed, filled⟩
  obtain ⟨e, member, same⟩ := List.mem_map.1 ((ids "1").2 ⟨_, bank, has, term⟩)
  obtain ⟨-, found, tagged, inside⟩ := links e member _ bank (same ▸ has) term .tag "Land" lists
  refine ⟨loaded, listed, found, tagged, ?_⟩
  rw [listed, Except.ok.injEq] at answer
  have one : e ∈ known ++ extra := List.mem_append_left _ member
  rw [← answer] at one
  rcases List.mem_cons.1 one with rfl | other
  · exact inside
  · rw [List.mem_singleton.1 other] at same
    exact absurd same (by decide)

/-- A sheet with one row, which has no id. -/
def unnumbered : Sheet where
  columns := ["entry_id", "term", "definition", "tags"]
  rows := [[none, some "dam", some "A wall", some "water"]]

/-- The load gives an entry although no row has an id. -/
theorem load_keeps_absent_id :
    (sheet ⟨"g.duckdb", "/g.duckdb", .missing⟩ unnumbered "dataframe").result =
      .ok ⟨1, 1, 0, "dataframe"⟩ ∧
    (sheet ⟨"g.duckdb", "/g.duckdb", .missing⟩ unnumbered
      "dataframe").file.toStore.definitions.byTerm "" = .ok [⟨"None", "dam", "A wall", "0"⟩] ∧
    ∀ row ∈ unnumbered.rows, ∀ id, ¬ unnumbered.HasId row id := by
  refine ⟨rfl, rfl, List.forall_mem_singleton.2 fun id has => ?_⟩
  cases has.cell

end Load

end Glossary
