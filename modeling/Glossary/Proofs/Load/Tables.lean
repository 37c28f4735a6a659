import Glossary.Load
import Glossary.Proofs.Database.Search

set_option autoImplicit false

namespace Glossary

/-- Every row has a cell for every column, and no cell is absent. -/
def Sheet.Complete (s : Sheet) : Prop :=
  ∀ row ∈ s.rows, row.length = s.columns.length ∧ none ∉ row

theorem Sheet.cell_of_complete {columns : List String} {row : List (Option String)}
    (length : row.length = columns.length) (complete : none ∉ row) {name : String}
    (known : columns.contains name = true) :
    ∃ text, (place? columns name).bind (cell row) = some text := by
  cases found : place? columns name with
  | none =>
      have missed := List.findIdx?_eq_none_iff.1 found name (List.contains_iff_mem.1 known)
      simp at missed
  | some place =>
      obtain ⟨inside, -⟩ := List.findIdx?_eq_some_iff_getElem.1 found
      rw [← length] at inside
      have present : row[place] ≠ none := fun absent =>
        complete (absent ▸ List.getElem_mem inside)
      obtain ⟨text, same⟩ := Option.ne_none_iff_exists'.1 present
      exact ⟨text, by simp [cell, inside, same]⟩

namespace Load

/-- The rows of a sheet that a load keeps. -/
def keptRows (s : Sheet) : List SourceRow :=
  withTerm (withId (s.rows.map (SourceRow.ofCells (standardColumns s.columns))))

def statistics (rows : List SourceRow) (source : String) : Statistics where
  entries := (entryRows rows).length
  tags := (labelRows .tag rows).length
  locales := (labelRows .locale rows).length
  source

theorem labels_tablesOf (rows : List SourceRow) (kind : LabelKind) :
    (tablesOf rows).labels kind = some (labelRows kind rows) := by
  cases kind <;> rfl

theorem fill_of_ok {file : DatabaseFile} {columns : List String}
    {rows : List (List (Option String))} {source : String} {stats : Statistics}
    (filled : (fill file columns rows source).result = .ok stats) :
    (fill file columns rows source).file.contents =
        .holding (tablesOf (withTerm (withId (rows.map (SourceRow.ofCells columns))))) ∧
      stats = statistics (withTerm (withId (rows.map (SourceRow.ofCells columns)))) source := by
  unfold fill at filled ⊢
  simp only at filled ⊢
  split at filled
  · cases filled
  · rename_i plain
    split at filled
    · cases filled
    · rename_i plainLabels
      rw [if_neg plain, if_neg plainLabels]
      cases filled
      exact ⟨rfl, rfl⟩

/-- A load that comes to something found the required columns and filled the tables. -/
theorem sheet_of_ok {file : DatabaseFile} {s : Sheet} {source : String} {stats : Statistics}
    (loaded : (sheet file s source).result = .ok stats) :
    (sheet file s source).file.contents = .holding (tablesOf (keptRows s)) ∧
      stats = statistics (keptRows s) source ∧
      ∀ c ∈ Column.required, (standardColumns s.columns).contains c.name = true := by
  unfold sheet at loaded ⊢
  simp only at loaded ⊢
  split at loaded
  · cases loaded
  · rename_i required
    rw [if_neg required, ← and_assoc]
    refine ⟨?_, ?_⟩
    · revert loaded
      cases file.contents with
      | unusable why => exact fun loaded => nomatch loaded
      | missing => exact fill_of_ok
      | holding tables => exact fill_of_ok
    · simpa using required

/-- Rows with an id and a rank make tables that hold their cards. -/
theorem holds_tablesOf {rows : List SourceRow}
    (ids : ∀ r ∈ rows, ∃ id, r.id = some id) (ranks : ∀ r ∈ rows, ∃ rank, r.rank = some rank) :
    (tablesOf rows).Holds (tablesOf rows).cards := by
  have source : ∀ r ∈ entryRows rows, ∃ q ∈ rows, q.toEntryRow = r := fun r member =>
    List.mem_map.1 (mem_of_mem_distinctOn member)
  have table : (tablesOf rows).entries = some (entryRows rows) := rfl
  refine Tables.holds_cards table ?_ ?_ ?_
  · intro r member
    obtain ⟨q, inside, rfl⟩ := source r member
    obtain ⟨id, hasId⟩ := ids q inside
    obtain ⟨rank, hasRank⟩ := ranks q inside
    simp [SourceRow.toEntryRow, EntryRow.toEntry, Entry.toRow, hasId, hasRank]
  · exact nodup_map_distinctOn (fun r : EntryRow => r.id) _
  · intro kind
    refine ⟨labelRows kind rows, labels_tablesOf rows kind, fun l member => ?_⟩
    obtain ⟨q, inside, listed⟩ := List.mem_flatMap.1 (mem_of_mem_distinctOn member)
    obtain ⟨item, -, rfl⟩ := List.mem_map.1 listed
    obtain ⟨r, kept, same⟩ := exists_mem_distinctOn (fun r : EntryRow => r.id)
      (List.mem_map_of_mem inside : q.toEntryRow ∈ rows.map (·.toEntryRow))
    exact ⟨⟨item, rfl⟩, r, kept, same⟩

/-- A sheet without absent cells is loaded into tables that hold their cards. -/
theorem holds_of_complete {file : DatabaseFile} {s : Sheet} {source : String} {stats : Statistics}
    (complete : s.Complete) (loaded : (sheet file s source).result = .ok stats) :
    ∃ t, (sheet file s source).file.contents = .holding t ∧ t.Holds t.cards := by
  obtain ⟨contents, -, required⟩ := sheet_of_ok loaded
  -- Every row that is kept was read from cells that are there.
  have source : ∀ r ∈ keptRows s, ∃ row ∈ s.rows,
      SourceRow.ofCells (standardColumns s.columns) row = r := fun r member =>
    List.mem_map.1 (List.mem_filter.1 (List.mem_filter.1 member).1).1
  have present : ∀ row ∈ s.rows, ∀ name, (standardColumns s.columns).contains name = true →
      ∃ text, (Sheet.place? (standardColumns s.columns) name).bind (Sheet.cell row) =
        some text := by
    intro row member name known
    obtain ⟨length, whole⟩ := complete row member
    refine Sheet.cell_of_complete ?_ whole known
    rw [length, standardColumns, List.length_map, List.length_map]
  refine ⟨_, contents, holds_tablesOf (fun r member => ?_) fun r member => ?_⟩
  · obtain ⟨row, inside, rfl⟩ := source r member
    obtain ⟨text, cell⟩ := present row inside Column.id.name (required .id (by decide))
    exact ⟨Text.trim text, by simp [SourceRow.ofCells, cell]⟩
  · obtain ⟨row, inside, rfl⟩ := source r member
    by_cases ranked : (standardColumns s.columns).contains Column.rank.name = true
    · obtain ⟨text, cell⟩ := present row inside _ ranked
      exact ⟨text, by simp only [SourceRow.ofCells, if_pos ranked, cell]⟩
    · exact ⟨"0", by simp only [SourceRow.ofCells, if_neg ranked]⟩

end Load

end Glossary
