import Glossary.Proofs.Database.Faults
import Glossary.Proofs.Load.Failure

set_option autoImplicit false

namespace Glossary

def widthLimit : Int := 340282366920938463463374607431768211456

theorem width?_eq_none_iff {n : Int} (nonnegative : 0 ≤ n) :
    width? n = none ↔ widthLimit ≤ n := by
  simp only [width?, wideLimits, widthLimit, Option.map_eq_none_iff, List.find?_eq_none, List.mem_cons,
    List.not_mem_nil, or_false, forall_eq_or_imp, forall_eq, Bool.and_eq_true, decide_eq_true_eq]
  omega

theorem Outcome.isPartial_iff (o : Outcome) :
    o.isPartial = true ↔ ∃ failure, failure ∈ o.failures := by
  rw [isPartial]
  cases o.failures <;> simp

namespace DatabaseFile

variable {file : DatabaseFile} {how : Matching} {entries : List EntryRow}
  {tags locales : List LabelRow}

theorem exists_outage_iff {α : Type} {l : Lookup} {answer : Except String α} :
    (∃ fault, outage l answer = .error fault) ↔ ∃ reason, answer = .error reason := by
  cases answer <;> simp [outage]

variable (holding : file.contents = .holding ⟨some entries, some tags, some locales⟩)

include holding

theorem entryRows_of_holding : file.entryRows = .ok entries :=
  entryRows_of_table holding rfl

theorem exists_labelRows (kind : LabelKind) : ∃ rows, file.labelRows kind = .ok rows := by
  cases kind <;> exact ⟨_, labelRows_of_table holding rfl⟩

theorem exists_composite (e : Entry) : ∃ c, file.toStore.composite e = .ok c := by
  have named : ∀ kind, ∃ names, file.labelsOf kind (some e.id) = .ok names := by
    intro kind
    obtain ⟨rows, table⟩ := exists_labelRows holding kind
    exact exists_labelsOf table (some e.id)
  obtain ⟨tagNames, tagged⟩ := named .tag
  obtain ⟨localeNames, located⟩ := named .locale
  exact ⟨_, Store.composite_of_namesOf tagged located⟩

theorem exists_firstEntries (terms : List String) :
    ∃ found, file.toStore.firstEntries terms = .ok found := by
  have answers : ∀ term, ∃ first, file.toStore.definitions.firstForTerm term = .ok first := by
    intro term
    exact ⟨_, by simp only [toStore, firstForTerm, entryRows_of_holding holding]; rfl⟩
  choose first answer using answers
  exact ⟨_, Store.firstEntries_eq file.toStore answer terms⟩

/-- Close terms are refused for a distance out of range if there is a row to compare, and for one
that has no width even if there is none. -/
theorem exists_error_termsWithin_iff (text : String) {n : Int} (nonnegative : 0 ≤ n) :
    (∃ fault, file.termsWithin (some text) (some n) = .error fault) ↔
      distanceLimit ≤ n ∧ (entries ≠ [] ∨ widthLimit ≤ n) := by
  have wide : distanceLimit ≤ widthLimit := by decide
  have above : -distanceLimit ≤ n := Int.le_trans (by decide) nonnegative
  rw [termsWithin, exists_outage_iff, tables_eq holding]
  cases found : width? n with
  | none =>
      have past := (width?_eq_none_iff nonnegative).1 found
      simp only [Except.bind, found]
      exact iff_of_true ⟨_, rfl⟩ ⟨Int.le_trans wide past, Or.inr past⟩
  | some width =>
      have within : ¬ widthLimit ≤ n := by
        rw [← width?_eq_none_iff nonnegative, found]
        exact Option.some_ne_none width
      simp only [Except.bind, found, rowsOf, termsOf, above, true_and, reduceCtorEq, or_false, within]
      by_cases inRange : n < distanceLimit ∨ entries = []
      · rw [if_pos inRange]
        refine iff_of_false (by simp) fun refused => ?_
        exact inRange.elim (Int.not_lt.2 refused.1) refused.2
      · rw [if_neg inRange]
        rw [not_or, Int.not_lt] at inRange
        exact iff_of_true ⟨_, rfl⟩ inRange

/-- The only lookup of a filter that fails is one for terms at a distance that is refused. -/
theorem exists_error_yield_iff {f : Filter} (filled : f.text ≠ "")
    (nonnegative : 0 ≤ how.maxDistance) :
    (∃ fault, file.toStore.yield how f = .error fault) ↔
      (how.termMatch = .fuzzy ∧ f.kind = .term) ∧
        distanceLimit ≤ how.maxDistance ∧ (entries ≠ [] ∨ widthLimit ≤ how.maxDistance) := by
  unfold Store.yield
  cases kind : f.kind with
  | definition =>
      obtain ⟨found, answer⟩ : ∃ found, file.byDefinition (some f.text) = .ok found :=
        ⟨_, by rw [byDefinition, entryRows_of_holding holding]; rfl⟩
      simp [toStore, answer]
  | label label =>
      obtain ⟨rows, table⟩ := exists_labelRows holding label
      obtain ⟨found, answer⟩ := exists_labelled (entryRows_of_holding holding) table (some f.text)
      simp [labels_toStore, labelStore, answer]
  | term =>
      cases way : how.termMatch with
      | substring =>
          obtain ⟨found, answer⟩ : ∃ found, file.withTerm (some f.text) = .ok found :=
            ⟨_, by rw [withTerm, entryRows_of_holding holding]; rfl⟩
          simp [toStore, answer]
      | fuzzy =>
          rw [← exists_error_termsWithin_iff holding f.text nonnegative]
          simp only [Store.closeEntries, if_neg filled, true_and]
          cases close : file.termsWithin (some f.text) (some how.maxDistance) with
          | error fault => simp [toStore, close]
          | ok terms =>
              obtain ⟨found, answer⟩ := exists_firstEntries holding terms
              have asked : file.toStore.definitions.termsWithin f.text how.maxDistance = .ok terms :=
                close
              simp [asked, answer]

/-- Only lookups of filters fail, not those of labels for an entry. -/
theorem exists_mem_failed_iff (filters : List Filter) :
    (∃ failure, failure ∈ file.toStore.failed how (filters.map file.toStore.verify)) ↔
      ∃ f ∈ filters, ∃ fault, file.toStore.yield how f = .error fault := by
  simp only [Store.mem_failed_offered_iff]
  constructor
  · intro held
    obtain ⟨failure, ⟨f, member, fault, failed, -⟩ | ⟨e, -, fault, failed, -⟩⟩ := held
    · obtain ⟨g, inside, rfl⟩ := List.mem_map.1 member
      rw [Store.yield_verify] at failed
      exact ⟨g, inside, fault, failed⟩
    · obtain ⟨c, made⟩ := exists_composite holding e
      rw [made] at failed
      cases failed
  · intro held
    obtain ⟨f, member, fault, failed⟩ := held
    exact ⟨_, Or.inl ⟨_, List.mem_map_of_mem member, fault, by rwa [Store.yield_verify], rfl⟩⟩

/-- A search comes to an outcome. It is partial exactly if terms are fetched by distance, the query
has a filter for a term, and the distance is refused. -/
theorem search_of_holding (tagged : ∀ l ∈ tags, l.name ≠ none) (located : ∀ l ∈ locales, l.name ≠ none)
    (nonnegative : 0 ≤ how.maxDistance) (query : String) :
    ∃ found, (file.toStore.search how (some query)).result = .ok found ∧
      (found.isPartial = true ↔
        (how.termMatch = .fuzzy ∧ ∃ f ∈ Query.parse query, f.kind = .term) ∧
          distanceLimit ≤ how.maxDistance ∧ (entries ≠ [] ∨ widthLimit ≤ how.maxDistance)) := by
  have named : ∀ kind rows, file.labelRows kind = .ok rows → ∀ l ∈ rows, l.name ≠ none := by
    intro kind rows table
    rw [labelRows, tables_eq holding] at table
    cases kind with
    | tag =>
        cases table
        exact tagged
    | locale =>
        cases table
        exact located
  obtain ⟨found, answer⟩ := exists_search_of_named named how query
  obtain ⟨filters, failures⟩ := outcome_of_search answer
  refine ⟨found, answer, ?_⟩
  have refused : ∀ f ∈ Query.parse query, ((∃ fault, file.toStore.yield how f = .error fault) ↔
      (how.termMatch = .fuzzy ∧ f.kind = .term) ∧
        distanceLimit ≤ how.maxDistance ∧ (entries ≠ [] ∨ widthLimit ≤ how.maxDistance)) :=
    fun f member =>
      exists_error_yield_iff holding (Query.text_ne_of_mem_parse member) nonnegative
  rw [Outcome.isPartial_iff, failures, filters, exists_mem_failed_iff holding]
  constructor
  · intro held
    obtain ⟨f, member, failed⟩ := held
    obtain ⟨⟨fuzzy, term⟩, far⟩ := (refused f member).1 failed
    exact ⟨⟨fuzzy, f, member, term⟩, far⟩
  · intro held
    obtain ⟨⟨fuzzy, f, member, term⟩, far⟩ := held
    exact ⟨f, member, (refused f member).2 ⟨⟨fuzzy, term⟩, far⟩⟩

end DatabaseFile

namespace Load

theorem name_of_mem_labelRows {kind : LabelKind} {rows : List SourceRow} {l : LabelRow}
    (member : l ∈ labelRows kind rows) : l.name ≠ none := by
  obtain ⟨r, -, listed⟩ := List.mem_flatMap.1 (mem_of_mem_distinctOn member)
  obtain ⟨item, -, rfl⟩ := List.mem_map.1 listed
  exact nofun

/-- A load that comes to something fills all tables, and counts what it fills them with. -/
theorem Request.exists_rows {file : DatabaseFile} {r : Request} {stats : Statistics}
    (loaded : (r.load file).result = .ok stats) :
    ∃ rows source, (r.load file).file.contents = .holding (tablesOf rows) ∧
      stats = statistics rows source := by
  rcases load_cases file r with ⟨-, fault, failed, -⟩ | ⟨s, source, -, load⟩
  · rw [failed] at loaded
    cases loaded
  · rw [load] at loaded ⊢
    obtain ⟨contents, counts, -⟩ := sheet_of_ok loaded
    exact ⟨keptRows s, source, contents, counts⟩

end Load

end Glossary
