import Glossary.Proofs.Database.Search
import Glossary.Proofs.Search.Faults

set_option autoImplicit false

namespace Glossary

namespace DatabaseFile

variable {file : DatabaseFile} {how : Matching} {filters : List Filter}

theorem isOutage_of_outage {α : Type} {l : Lookup} {answer : Except String α} {fault : Fault}
    (failed : outage l answer = .error fault) : fault.isOutage = true := by
  cases answer with
  | ok answer => cases failed
  | error reason =>
      cases failed
      rfl

theorem answering (file : DatabaseFile) : file.toStore.Answering where
  byDefinition _ _ failed := isOutage_of_outage failed
  byTerm _ _ failed := isOutage_of_outage failed
  termsWithin _ _ _ failed := isOutage_of_outage failed
  firstForTerm _ _ failed := isOutage_of_outage failed
  holds kind _ _ failed := isOutage_of_outage (labels_toStore file kind ▸ failed)
  namesOf kind _ _ failed := isOutage_of_outage (labels_toStore file kind ▸ failed)
  entriesWith kind _ _ failed := isOutage_of_outage (labels_toStore file kind ▸ failed)

/-- The names of an id are those of its rows, absent ones behind the others. -/
theorem rows_of_labelsOf {kind : LabelKind} {id : String} {names : List (Option String)}
    (answer : file.labelsOf kind (some id) = .ok names) :
    ∃ rows, file.labelRows kind = .ok rows ∧ (∀ name, name ∈ names ↔ ⟨some id, name⟩ ∈ rows) ∧
      names.Pairwise fun a b => a = none → b = none := by
  rw [labelsOf] at answer
  cases table : file.labelRows kind with
  | error reason =>
      rw [table] at answer
      cases answer
  | ok rows =>
      rw [table] at answer
      cases answer
      refine ⟨rows, rfl, fun name => ?_, ?_⟩
      · rw [mem_sortBy, mem_distinctOn_iff fun _ _ _ _ same => same, List.mem_map]
        constructor
        · intro held
          obtain ⟨⟨other, name⟩, inside, rfl⟩ := held
          obtain ⟨member, same⟩ := List.mem_filter.1 inside
          cases other with
          | none => cases same
          | some other =>
              rw [bothHold_some, decide_eq_true_eq] at same
              rwa [← same]
        · intro member
          exact ⟨_, List.mem_filter.2 ⟨member, by simp⟩, rfl⟩
      · refine (pairwise_sortBy cellBefore_total cellBefore_trans _).imp fun {a b} before absent => ?_
        subst absent
        cases b with
        | none => rfl
        | some b => cases before

/-- An entry has a label without a name, and none of the name that the filter asks for. -/
def Nameless (file : DatabaseFile) (e : Entry) (f : Filter) : Prop :=
  ∃ kind rows, f.kind = .label kind ∧ file.labelRows kind = .ok rows ∧
    ⟨some e.id, none⟩ ∈ rows ∧
    ∀ n, ⟨some e.id, some n⟩ ∈ rows → Text.lower n ≠ Text.lower f.text

/-- The test of the entry comes to a filter for which it is nameless. -/
def Stalls (file : DatabaseFile) (how : Matching) (filters : List Filter) (e : Entry) : Prop :=
  ∃ before f after, filters = before ++ f :: after ∧ file.Nameless e f ∧
    file.toStore.Keeps how before e

theorem passes_eq_error_iff_nameless {e : Entry} {c : Composite}
    (made : file.toStore.composite e = .ok c) (f : Filter) :
    how.passes c f = .error .absentName ↔ file.Nameless e f := by
  rw [Matching.passes_eq_error_iff, Nameless, eq_self, true_and]
  refine exists_congr fun kind => ?_
  have answer := Store.namesOf_of_composite made kind
  rw [labels_toStore] at answer
  obtain ⟨rows, table, member, sorted⟩ := rows_of_labelsOf answer
  simp [stops_iff_of_sorted sorted, table, member]

theorem passesAll_eq_error_iff_stalls {e : Entry} {c : Composite}
    (made : file.toStore.composite e = .ok c) :
    how.passesAll c filters = .error .absentName ↔ file.Stalls how filters e := by
  rw [Matching.passesAll_eq_error_iff, Stalls]
  refine exists_congr fun before => exists_congr fun f => exists_congr fun after => ?_
  simp [passes_eq_error_iff_nameless made, Store.Keeps, made]

/-- A search of a file records all failures of lookups, and ends in a fault only if the test of the
filters does. -/
theorem search_result (file : DatabaseFile) (how : Matching) (query : String) :
    (file.toStore.search how (some query)).result =
      (how.narrow (file.toStore.joined how (Query.parse query)) (Query.parse query)).map
        fun entries => ⟨query, (Query.parse query).map file.toStore.verify, entries,
          file.toStore.failed how ((Query.parse query).map file.toStore.verify)⟩ :=
  Store.search_of_recordable (file.answering.recordable (Query.parse query))

theorem search_eq_error_iff (file : DatabaseFile) (how : Matching) (query : String) (fault : Fault) :
    (file.toStore.search how (some query)).result = .error fault ↔ fault = .absentName ∧
      ∃ e ∈ file.toStore.offered how (Query.parse query),
        file.Stalls how (Query.parse query) e := by
  rw [search_result, map_eq_error_iff, Matching.narrow_eq_error_iff]
  refine and_congr_right fun _ => ?_
  simp only [Store.mem_joined_iff]
  constructor
  · intro held
    obtain ⟨c, ⟨e, offered, made⟩, stopped⟩ := held
    exact ⟨e, offered, (passesAll_eq_error_iff_stalls made).1 stopped⟩
  · intro held
    obtain ⟨e, offered, stalls⟩ := held
    obtain ⟨-, -, -, -, -, c, made, -⟩ := id stalls
    exact ⟨c, ⟨e, offered, made⟩, (passesAll_eq_error_iff_stalls made).2 stalls⟩

theorem outcome_of_search {query : String} {found : Outcome}
    (answer : (file.toStore.search how (some query)).result = .ok found) :
    found.filters = (Query.parse query).map file.toStore.verify ∧
      found.failures = file.toStore.failed how found.filters := by
  rw [search_result] at answer
  obtain ⟨entries, -, same⟩ := map_eq_ok_iff.1 answer
  subst same
  exact ⟨rfl, rfl⟩

theorem exists_search_of_named
    (named : ∀ kind rows, file.labelRows kind = .ok rows → ∀ l ∈ rows, l.name ≠ none)
    (how : Matching) (query : String) :
    ∃ found, (file.toStore.search how (some query)).result = .ok found := by
  cases answer : (file.toStore.search how (some query)).result with
  | ok found => exact ⟨found, rfl⟩
  | error fault =>
      obtain ⟨-, e, -, before, f, after, -, nameless, -⟩ :=
        (search_eq_error_iff file how query fault).1 answer
      obtain ⟨kind, rows, -, table, absent, -⟩ := nameless
      exact absurd rfl (named kind rows table _ absent)

end DatabaseFile

def namelessFile : DatabaseFile where
  path := "g.duckdb"
  fullPath := "/g.duckdb"
  contents := .holding
    ⟨some [⟨some "1", some "dam", some "A barrier across a river", some "0"⟩],
      some [⟨some "1", none⟩], some []⟩

end Glossary
