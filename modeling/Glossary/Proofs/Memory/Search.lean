import Glossary.Proofs.EditDistance
import Glossary.Proofs.Memory.Lookup
import Glossary.Proofs.Search.Shown

set_option autoImplicit false

namespace Glossary

def SameLower (a b : String) : Prop := Text.lower a = Text.lower b

/-- The term is at most `maxDistance` edits of characters away from the text. -/
def WithinEdits (maxDistance : Int) (text term : String) : Prop :=
  (textDistance text term : Int) ≤ maxDistance

namespace Memory.Holds

variable {m : Memory} {cards : List Card}

theorem firstForTerm_eq_some_iff (holds : m.Holds cards) (term : String) (e : Entry) :
    m.firstForTerm term = some e ↔
      ∃ c ∈ cards, c.entry.term = term ∧ Card.First cards c.entry ∧ c.entry = e := by
  rw [holds.firstForTerm, leastId_eq_some_iff]
  · simp only [Card.mem_ofTerm_iff]
    constructor
    · intro held
      rcases held with ⟨⟨c, member, rfl, same⟩, below⟩
      refine ⟨c, member, same, fun d inside alike => ?_, rfl⟩
      exact below d.entry ⟨d, inside, rfl, alike.trans same⟩
    · intro held
      rcases held with ⟨c, member, same, first, rfl⟩
      refine ⟨⟨c, member, rfl, same⟩, ?_⟩
      rintro e ⟨d, inside, rfl, alike⟩
      exact first d inside (alike.trans same.symm)
  · intro a first b second same
    obtain ⟨c, member, rfl, -⟩ := Card.mem_ofTerm_iff.1 first
    obtain ⟨d, inside, rfl, -⟩ := Card.mem_ofTerm_iff.1 second
    rw [holds.eq_of_id member inside same]

theorem closeEntries (holds : m.Holds cards) {text : String} (filled : text ≠ "")
    {maxDistance : Int} (nonnegative : 0 ≤ maxDistance) (below : maxDistance < distanceLimit) :
    Card.Listed cards
      (fun c => WithinEdits maxDistance text c.entry.term ∧ Card.First cards c.entry)
      (m.toStore.closeEntries text maxDistance) := by
  obtain ⟨terms, answer, close⟩ := m.mem_termsWithin_iff text nonnegative below
  refine Store.listed_closeEntries filled answer (fun term => ?_) (fun _ => rfl)
    holds.firstForTerm_eq_some_iff
  rw [close, holds.terms, WithinEdits]

/-- A glossary that holds cards shows them. -/
theorem shows (holds : m.Holds cards) {how : Matching} (nonnegative : 0 ≤ how.maxDistance)
    (below : how.maxDistance < distanceLimit) :
    m.toStore.Shows how SameLower (WithinEdits how.maxDistance) cards where
  ids := fun _ first _ second same => holds.eq_of_id first second same
  definitions := by
    intro text
    have answer : m.toStore.definitions.byDefinition text = .ok (m.byDefinition text) := rfl
    rw [answer, holds.byDefinition]
    exact Card.listed_filter fun _ _ => Iff.rfl
  terms := by
    intro text
    have answer : m.toStore.definitions.byTerm text = .ok (m.withTerm text) := rfl
    rw [answer, holds.withTerm]
    exact Card.listed_filter fun _ _ => Iff.rfl
  close := fun _ filled => holds.closeEntries filled nonnegative below
  holds := by
    intro kind name
    refine ⟨m.holdsLabel kind name, by cases kind <;> rfl, ?_⟩
    simp only [holds.holdsLabel, List.any_eq_true, sameLabel, decide_eq_true_eq, SameLower]
  labelled := by
    intro kind name
    have answer : (m.toStore.labels kind).entriesWith name = m.labelled kind name := by
      cases kind <;> rfl
    rw [answer, holds.labelled]
    refine Card.listed_filter fun c _ => ?_
    simp only [List.any_eq_true, sameLabel, decide_eq_true_eq, SameLower]
  composites := by
    intro c member
    refine ⟨m.composite c.entry, m.toStore_composite c.entry, fun kind => ?_, fun kind name => ?_⟩
    · simp [composite_labels]
    · simp [composite_labels, holds.labelsOf member]

theorem search (holds : m.Holds cards) {how : Matching} (nonnegative : 0 ≤ how.maxDistance)
    (below : how.maxDistance < distanceLimit) (query : String) :
    ∃ entries,
      (m.toStore.search how (some query)).result =
        .ok ⟨query, (Query.parse query).map m.toStore.verify, entries, []⟩ ∧
      (entries.map (·.id)).Nodup ∧
      ∀ e, e ∈ entries ↔ ∃ c ∈ cards, c.Answers how cards (Query.parse query) ∧ c.entry = e := by
  obtain ⟨entries, answer, nodup, found⟩ := (holds.shows nonnegative below).search query
  refine ⟨entries, answer, nodup, fun e => (found e).trans ?_⟩
  refine exists_congr fun c => and_congr_right fun _ => and_congr_left fun _ => ?_
  refine Card.fetched_and_passes_iff (fun _ _ _ _ _ _ same => same.symm) fun _ _ _ near => ?_
  rwa [WithinEdits, textDistance_comm]

/-- The stored entries that pass every filter are those of the cards that do. -/
theorem stored_and_passes_iff (holds : m.Holds cards) {how : Matching}
    (nonnegative : 0 ≤ how.maxDistance) (below : how.maxDistance < distanceLimit)
    (filters : List Filter) (e : Entry) :
    (e ∈ m.entries.values ∧ ∀ f ∈ filters, how.passes (m.composite e) f = .ok true) ↔
      ∃ c ∈ cards, (∀ f ∈ filters, c.Passes how f) ∧ c.entry = e := by
  have same : ∀ c ∈ cards, ∀ f, how.passes (m.composite c.entry) f = .ok true ↔ c.Passes how f :=
    fun c member => (holds.shows nonnegative below).passes_iff member (m.toStore_composite c.entry)
  rw [holds.values]
  constructor
  · intro held
    rcases held with ⟨stored, passes⟩
    obtain ⟨c, member, rfl⟩ := List.mem_map.1 stored
    exact ⟨c, member, fun f inside => (same c member f).1 (passes f inside), rfl⟩
  · intro held
    rcases held with ⟨c, member, passes, rfl⟩
    exact ⟨List.mem_map_of_mem member, fun f inside => (same c member f).2 (passes f inside)⟩

theorem first_iff (holds : m.Holds cards) (e : Entry) :
    Card.First cards e ↔ ∀ d ∈ m.entries.values, d.term = e.term → e.id ≤ d.id := by
  rw [holds.values, List.forall_mem_map, Card.First]

end Memory.Holds

namespace Memory

/-- What a search finds in a glossary, whatever changes were made to it: nothing for a query without
filters, otherwise the stored entries that pass every filter. If terms alone are asked for and
matched by distance, then of the entries of one term only that of the least id is found. -/
theorem search_finds_passing (changes : List Change) (how : Matching) (query : String)
    (nonnegative : 0 ≤ how.maxDistance) (below : how.maxDistance < distanceLimit) :
    ∃ m outcome, after changes = .ok m ∧
      (m.toStore.search how (some query)).result = .ok outcome ∧
      outcome.failures = [] ∧ (outcome.entries.map (·.id)).Nodup ∧
      (Query.parse query = [] → outcome.entries = []) ∧
      ((∃ f ∈ Query.parse query, f.kind ≠ .term) ∨
          (Query.parse query ≠ [] ∧ how.termMatch = .substring) →
        ∀ e, e ∈ outcome.entries ↔ e ∈ m.entries.values ∧
          ∀ f ∈ Query.parse query, how.passes (m.composite e) f = .ok true) ∧
      (Query.parse query ≠ [] ∧ (∀ f ∈ Query.parse query, f.kind = .term) ∧
          how.termMatch = .fuzzy →
        ∀ e, e ∈ outcome.entries ↔ (e ∈ m.entries.values ∧
          ∀ f ∈ Query.parse query, how.passes (m.composite e) f = .ok true) ∧
          ∀ d ∈ m.entries.values, d.term = e.term → e.id ≤ d.id) := by
  obtain ⟨m, made, holds⟩ := after_holds changes
  obtain ⟨entries, answer, nodup, found⟩ := holds.search nonnegative below query
  refine ⟨m, _, made, answer, rfl, nodup, fun none => ?_, fun wide e => ?_,
    fun ⟨filled, terms, fuzzy⟩ e => ?_⟩
  · refine List.eq_nil_iff_forall_not_mem.2 fun e member => ?_
    obtain ⟨c, -, ⟨filled, -⟩, -⟩ := (found e).1 member
    exact filled none
  · rw [found, holds.stored_and_passes_iff nonnegative below]
    refine exists_congr fun c => and_congr_right fun _ => and_congr_left fun _ => ?_
    refine ⟨fun answers => answers.2.1, fun passes => ?_⟩
    rcases wide with ⟨f, member, other⟩ | ⟨filled, substring⟩
    · exact ⟨List.ne_nil_of_mem member, passes, fun terms => absurd (terms f member) other⟩
    · refine ⟨filled, passes, fun _ fuzzy => ?_⟩
      rw [substring] at fuzzy
      cases fuzzy
  · rw [found, holds.stored_and_passes_iff nonnegative below, ← holds.first_iff]
    constructor
    · intro held
      rcases held with ⟨c, member, ⟨-, passes, first⟩, rfl⟩
      exact ⟨⟨c, member, passes, rfl⟩, first terms fuzzy⟩
    · intro held
      rcases held with ⟨⟨c, member, passes, rfl⟩, first⟩
      exact ⟨c, member, ⟨filled, passes, fun _ _ => first⟩, rfl⟩

/-- Of two meanings of a term the one with the lesser id is found, though it was added last. -/
theorem search_finds_least_meaning :
    (0 : Int) ≤ defaultDistance ∧ (defaultDistance : Int) < distanceLimit ∧
    ∃ m outcome, after [.add ⟨"2", "cat", "a whip", "0"⟩ ["Sea"] [],
        .add ⟨"1", "cat", "a pet", "0"⟩ [] ["en"]] = .ok m ∧
      (m.toStore.search {} (some "cat")).result = .ok outcome ∧ outcome.failures = [] ∧
      ⟨"1", "cat", "a pet", "0"⟩ ∈ outcome.entries ∧
      ⟨"2", "cat", "a whip", "0"⟩ ∉ outcome.entries := by
  obtain ⟨m, outcome, made, answer, complete, -, -, -, found⟩ :=
    search_finds_passing [.add ⟨"2", "cat", "a whip", "0"⟩ ["Sea"] [],
      .add ⟨"1", "cat", "a pet", "0"⟩ [] ["en"]] {} "cat" (by decide) (by decide)
  have stored : m.entries.values = [⟨"2", "cat", "a whip", "0"⟩, ⟨"1", "cat", "a pet", "0"⟩] := by
    cases made
    rfl
  have parsed : Query.parse "cat" = [⟨.term, "cat", false⟩] := by decide
  rw [stored, parsed] at found
  have meanings := found ⟨by simp, by simp, rfl⟩
  refine ⟨by decide, by decide, m, outcome, made, answer, complete, ?_, fun other => ?_⟩
  · refine (meanings _).2 ⟨⟨by simp, ?_⟩, by decide⟩
    have itself : (withinDistance "cat" "cat" defaultDistance &&
        Text.contains "cat" "cat") = true := by
      decide
    exact List.forall_mem_singleton.2 (congrArg Except.ok itself)
  · exact absurd ((meanings _).1 other).2 (by decide)

end Memory

end Glossary
