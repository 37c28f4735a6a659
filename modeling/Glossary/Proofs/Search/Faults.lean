import Glossary.Proofs.Answers
import Glossary.Proofs.Search.Stages

set_option autoImplicit false

namespace Glossary

/-- A comparison of the names stops at one that is absent, before one like `name` was met. -/
def Stops (name : String) (names : List (Option String)) : Prop :=
  ∃ before n after, names = before ++ n :: after ∧ n = none ∧
    ∀ m ∈ before, ∃ other, m = some other ∧ Text.lower other ≠ Text.lower name

theorem carries_eq_error_iff (name : String) (names : List (Option String)) (fault : Fault) :
    carries name names = .error fault ↔ fault = .absentName ∧ Stops name names := by
  induction names with
  | nil => simp [carries, Stops]
  | cons n rest ih =>
      unfold Stops at ih ⊢
      rw [exists_append_cons_iff]
      cases n with
      | none => simp [carries, eq_comm]
      | some other =>
          by_cases same : Text.lower other = Text.lower name
          · simp [carries, same]
          · simp [carries, same, ih]

/-- Where absent names stand behind all others, any one of them may be the one that stops. -/
theorem stops_iff_of_sorted {names : List (Option String)}
    (sorted : names.Pairwise fun a b => a = none → b = none) (name : String) :
    Stops name names ↔
      none ∈ names ∧ ∀ n, some n ∈ names → Text.lower n ≠ Text.lower name := by
  induction names with
  | nil => simp [Stops]
  | cons first rest ih =>
      obtain ⟨behind, later⟩ := List.pairwise_cons.1 sorted
      have inRest := ih later
      unfold Stops at inRest ⊢
      rw [exists_append_cons_iff, inRest]
      cases first with
      | none =>
          have none : ∀ n, some n ∉ rest := fun n member => nomatch behind _ member rfl
          simp [none]
      | some other => simp [and_left_comm]

namespace Matching

theorem passes_eq_error_iff (m : Matching) (c : Composite) (f : Filter) (fault : Fault) :
    m.passes c f = .error fault ↔ fault = .absentName ∧
      ∃ kind, f.kind = .label kind ∧ Stops f.text (c.labels kind) := by
  unfold passes
  cases f.kind with
  | definition => simp
  | label kind => simp [carries_eq_error_iff]
  | term => simp

/-- The test of an entry ends in a fault at a filter that stops it, if the entry passes the filters
before that one. -/
theorem passesAll_eq_error_iff (m : Matching) (c : Composite) (filters : List Filter)
    (fault : Fault) :
    m.passesAll c filters = .error fault ↔ ∃ before f after, filters = before ++ f :: after ∧
      m.passes c f = .error fault ∧ ∀ g ∈ before, m.passes c g = .ok true := by
  induction filters with
  | nil => simp [passesAll]
  | cons f rest ih =>
      rw [exists_append_cons_iff, ← ih, passesAll]
      cases m.passes c f with
      | error other => simp
      | ok passed => cases passed <;> simp

theorem absentName_of_passesAll {m : Matching} {c : Composite} {filters : List Filter}
    {fault : Fault} (failed : m.passesAll c filters = .error fault) : fault = .absentName := by
  obtain ⟨before, f, after, -, stopped, -⟩ := (m.passesAll_eq_error_iff c filters fault).1 failed
  exact ((m.passes_eq_error_iff c f fault).1 stopped).1

theorem survivors_eq_error_iff (m : Matching) (filters : List Filter) (composites : List Composite)
    (fault : Fault) :
    m.survivors filters composites = .error fault ↔
      fault = .absentName ∧ ∃ c ∈ composites, m.passesAll c filters = .error .absentName := by
  induction composites with
  | nil => simp [survivors]
  | cons c rest ih =>
      simp only [survivors, List.mem_cons, exists_eq_or_imp]
      cases test : m.passesAll c filters with
      | error other =>
          obtain rfl := absentName_of_passesAll test
          simp [eq_comm]
      | ok passed =>
          simp [map_eq_error_iff, ih]

theorem narrow_eq_error_iff (m : Matching) (composites : List Composite) (filters : List Filter)
    (fault : Fault) :
    m.narrow composites filters = .error fault ↔
      fault = .absentName ∧ ∃ c ∈ composites, m.passesAll c filters = .error .absentName := by
  rw [narrow, map_eq_error_iff, survivors_eq_error_iff]

theorem narrow_map_verify (s : Store) (m : Matching) (composites : List Composite)
    (filters : List Filter) :
    m.narrow composites (filters.map s.verify) = m.narrow composites filters := by
  have test : ∀ c, m.passesAll c (filters.map s.verify) = m.passesAll c filters := by
    intro c
    induction filters with
    | nil => rfl
    | cons f rest ih => simp only [List.map_cons, passesAll, Store.passes_verify, ih]
  have kept : m.survivors (filters.map s.verify) composites = m.survivors filters composites := by
    induction composites with
    | nil => rfl
    | cons c rest ih => simp only [survivors, test, ih]
  rw [narrow, kept, narrow]

end Matching

namespace Store

variable {s : Store} {m : Matching}

theorem namesOf_of_composite {e : Entry} {c : Composite} (made : s.composite e = .ok c)
    (kind : LabelKind) : (s.labels kind).namesOf e.id = .ok (c.labels kind) := by
  unfold composite at made
  cases tags : s.tags.namesOf e.id with
  | error fault => simp [tags] at made
  | ok names =>
      cases locales : s.locales.namesOf e.id with
      | error fault => simp [tags, locales] at made
      | ok codes =>
          simp only [tags, locales, Except.ok.injEq] at made
          subst made
          cases kind with
          | tag => exact tags
          | locale => exact locales

theorem Recordable.map_verify {filters : List Filter} (recordable : s.Recordable m filters)
    (t : Store) : s.Recordable m (filters.map t.verify) where
  checks := by simpa only [List.forall_mem_map, confirms_verify] using recordable.checks
  lookups := by simpa only [List.forall_mem_map, yield_verify] using recordable.lookups
  completes := by
    rw [offered_map_verify]
    exact recordable.completes

/-- Every call to the store comes to an answer or to an outage. -/
structure Answering (s : Store) : Prop where
  byDefinition : ∀ text fault,
    s.definitions.byDefinition text = .error fault → fault.isOutage = true
  byTerm : ∀ text fault, s.definitions.byTerm text = .error fault → fault.isOutage = true
  termsWithin : ∀ text n fault,
    s.definitions.termsWithin text n = .error fault → fault.isOutage = true
  firstForTerm : ∀ term fault,
    s.definitions.firstForTerm term = .error fault → fault.isOutage = true
  holds : ∀ kind name fault, (s.labels kind).holds name = .error fault → fault.isOutage = true
  namesOf : ∀ kind id fault, (s.labels kind).namesOf id = .error fault → fault.isOutage = true
  entriesWith : ∀ kind name fault,
    (s.labels kind).entriesWith name = .error fault → fault.isOutage = true

namespace Answering

variable (answering : s.Answering) {f : Filter} {fault : Fault}

include answering

theorem confirms (failed : s.confirms f = .error fault) : fault.isOutage = true := by
  unfold Store.confirms at failed
  cases kind : f.kind with
  | definition => simp [kind] at failed
  | term => simp [kind] at failed
  | label kind' =>
      rw [kind] at failed
      exact answering.holds kind' f.text fault failed

theorem firstEntries {terms : List String} (failed : s.firstEntries terms = .error fault) :
    fault.isOutage = true := by
  induction terms with
  | nil => cases failed
  | cons term rest ih =>
      rw [Store.firstEntries] at failed
      cases first : s.definitions.firstForTerm term with
      | error other =>
          rw [first] at failed
          cases failed
          exact answering.firstForTerm term fault first
      | ok found =>
          rw [first] at failed
          exact ih (map_eq_error_iff.1 failed)

/-- A search for close terms has one more fault: to be asked for nothing. -/
theorem closeEntries {text : String} {n : Int} (failed : s.closeEntries text n = .error fault) :
    fault.isOutage = true ∨ (text = "" ∧ fault = .emptyTerm) := by
  rw [Store.closeEntries] at failed
  by_cases empty : text = ""
  · rw [if_pos empty] at failed
    cases failed
    exact Or.inr ⟨empty, rfl⟩
  · rw [if_neg empty] at failed
    cases close : s.definitions.termsWithin text n with
    | error other =>
        rw [close] at failed
        cases failed
        exact Or.inl (answering.termsWithin text n fault close)
    | ok terms =>
        rw [close] at failed
        exact Or.inl (answering.firstEntries failed)

theorem yield (failed : s.yield m f = .error fault) :
    fault.isOutage = true ∨ (f.text = "" ∧ fault = .emptyTerm) := by
  unfold Store.yield at failed
  cases kind : f.kind with
  | definition =>
      rw [kind] at failed
      exact Or.inl (answering.byDefinition f.text fault failed)
  | label kind' =>
      rw [kind] at failed
      exact Or.inl (answering.entriesWith kind' f.text fault failed)
  | term =>
      rw [kind] at failed
      cases way : m.termMatch with
      | substring =>
          rw [way] at failed
          exact Or.inl (answering.byTerm f.text fault failed)
      | fuzzy =>
          rw [way] at failed
          exact answering.closeEntries failed

theorem isRecorded_of_yield (failed : s.yield m f = .error fault) : fault.isRecorded = true := by
  rcases answering.yield failed with outage | ⟨-, rfl⟩
  · exact Fault.isRecorded_of_isOutage outage
  · rfl

theorem composite {e : Entry} (failed : s.composite e = .error fault) :
    fault.isOutage = true := by
  rw [Store.composite] at failed
  cases tags : s.tags.namesOf e.id with
  | error other =>
      rw [tags] at failed
      cases failed
      exact answering.namesOf .tag e.id fault tags
  | ok names =>
      rw [tags] at failed
      cases locales : s.locales.namesOf e.id with
      | error other =>
          simp only [locales] at failed
          cases failed
          exact answering.namesOf .locale e.id fault locales
      | ok codes => simp [locales] at failed

theorem recordable (filters : List Filter) : s.Recordable m filters where
  checks _ _ _ failed := answering.confirms failed
  lookups _ _ _ failed := answering.isRecorded_of_yield failed
  completes _ _ _ failed := answering.composite failed

end Answering

/-- What a search comes to where all failures of lookups are recorded. -/
theorem search_of_recordable {query : String} (recordable : s.Recordable m (Query.parse query)) :
    (s.search m (some query)).result =
      (m.narrow (s.joined m (Query.parse query)) (Query.parse query)).map fun entries =>
        ⟨query, (Query.parse query).map s.verify, entries,
          s.failed m ((Query.parse query).map s.verify)⟩ := by
  have checked : (s.filtersOf (some query)).result = .ok ((Query.parse query).map s.verify) :=
    validate_eq s recordable.checks
  have joined : s.joined m ((Query.parse query).map s.verify) = s.joined m (Query.parse query) := by
    rw [Store.joined, offered_map_verify, Store.joined]
  simp only [search, checked, find_of_recordable (recordable.map_verify s), Option.getD_some,
    Matching.narrow_map_verify, joined]
  cases m.narrow (s.joined m (Query.parse query)) (Query.parse query) <;> rfl

end Store

end Glossary
