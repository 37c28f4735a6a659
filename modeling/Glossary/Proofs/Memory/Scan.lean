import Glossary.Proofs.Memory.Search

set_option autoImplicit false

namespace Glossary

namespace Change

def ofEntry (e : Entry) : Change := add e [] []

/-- The cards of a list of entries without labels, after changes. -/
def cardsFrom (start : List Entry) (changes : List Change) : List Card :=
  changes.foldl onCards (cards (start.map ofEntry))

theorem cardsFrom_eq (start : List Entry) (changes : List Change) :
    cardsFrom start changes = cards (start.map ofEntry ++ changes) := by
  rw [cardsFrom, cards, cards, List.foldl_append]

end Change

namespace Memory

/-- The glossary that was made of a list of entries, after changes. -/
def grown (start : List Entry) (changes : List Change) : Except Fault Memory :=
  (ofEntries start).bind fun m => changes.foldlM change m

theorem grown_eq (start : List Entry) (changes : List Change) :
    grown start changes = after (start.map Change.ofEntry ++ changes) := by
  have made : ofEntries start = after (start.map Change.ofEntry) := by
    rw [after, List.foldlM_map]
    rfl
  rw [grown, made, after, after, List.foldlM_append]
  rfl

/-- Making a glossary of entries and changing it never comes to a fault, and leaves a glossary that
holds the cards it should. -/
theorem grown_holds (start : List Entry) (changes : List Change) :
    ∃ m, grown start changes = .ok m ∧ m.Holds (Change.cardsFrom start changes) := by
  rw [grown_eq, Change.cardsFrom_eq]
  exact after_holds _

/-- Every lookup answers as a scan of the cards does. -/
structure Scans (m : Memory) (cards : List Card) : Prop where
  size : m.size = cards.length
  terms : ∀ term, term ∈ m.terms ↔ ∃ c ∈ cards, c.entry.term = term
  byDefinition : ∀ text, m.toStore.definitions.byDefinition text =
    .ok ((cards.filter fun c => Text.contains c.entry.definition text).map (·.entry))
  byTerm : ∀ text, m.toStore.definitions.byTerm text =
    .ok ((cards.filter fun c => Text.contains c.entry.term text).map (·.entry))
  labelled : ∀ kind name, (m.toStore.labels kind).entriesWith name =
    .ok ((cards.filter fun c => (c.labels kind).any (sameLabel name)).map (·.entry))
  namesOf : ∀ kind id, (m.toStore.labels kind).namesOf id =
    .ok ((((cards.find? fun c => decide (c.entry.id = id)).map (·.labels kind)).getD []).map some)
  inUse : ∀ kind name, (m.toStore.labels kind).holds name =
    .ok (cards.any fun c => (c.labels kind).any (sameLabel name))
  /-- The entry that stands for a term has the least id among those of the term. -/
  first : ∀ term e, m.toStore.definitions.firstForTerm term = .ok (some e) ↔
    ∃ c ∈ cards, c.entry = e ∧ e.term = term ∧ ∀ d ∈ cards, d.entry.term = term → e.id ≤ d.entry.id
  unknown : ∀ term, m.toStore.definitions.firstForTerm term = .ok none ↔
    ∀ c ∈ cards, c.entry.term ≠ term
  /-- Close terms come in strictly ascending order. -/
  close : ∀ text (maxDistance : Int), 0 ≤ maxDistance → maxDistance < distanceLimit →
    ∃ terms, m.toStore.definitions.termsWithin text maxDistance = .ok terms ∧
      terms.Pairwise (· < ·) ∧ ∀ term, term ∈ terms ↔ (∃ c ∈ cards, c.entry.term = term) ∧
        (distance text.toList term.toList : Int) ≤ maxDistance

theorem pairwise_termsWithin {m : Memory} (distinct : m.terms.Nodup) {text : String}
    {maxDistance : Int} {terms : List String}
    (answer : m.termsWithin text maxDistance = .ok terms) : terms.Pairwise (· < ·) := by
  unfold termsWithin at answer
  split at answer
  · cases answer
    exact List.Pairwise.nil
  · split at answer
    · cases answer
    · split at answer
      · cases answer
      · cases answer
        exact pairwise_lt_sortBy (distinct.filter _)

theorem toStore_firstForTerm (m : Memory) (term : String) :
    m.toStore.definitions.firstForTerm term = .ok (m.firstForTerm term) := rfl

namespace Holds

variable {m : Memory} {cards : List Card}

/-- The labels of an id, whether there is a card with it or not. -/
theorem labelsOf_eq (holds : m.Holds cards) (kind : LabelKind) (id : String) :
    m.labelsOf kind id =
      ((cards.find? fun c => decide (c.entry.id = id)).map (·.labels kind)).getD [] := by
  cases found : cards.find? fun c => decide (c.entry.id = id) with
  | some c =>
      obtain rfl : c.entry.id = id := by simpa using List.find?_some found
      exact holds.labelsOf (List.mem_of_find?_eq_some found) kind
  | none =>
      have absent : ∀ c ∈ cards, c.entry.id ≠ id := by simpa using List.find?_eq_none.1 found
      have unlinked := Index.find?_append (holds.absent_labels absent kind) []
      rw [List.append_nil] at unlinked
      rw [Memory.labelsOf, Index.get?, unlinked]
      rfl

theorem firstForTerm_eq_none_iff (holds : m.Holds cards) (term : String) :
    m.firstForTerm term = none ↔ ∀ c ∈ cards, c.entry.term ≠ term := by
  rw [holds.firstForTerm, leastId_eq_none, Card.ofTerm_eq_nil_iff]

/-- A glossary that holds cards answers as a scan of them does. -/
theorem scans (holds : m.Holds cards) : m.Scans cards where
  size := by rw [Memory.size, holds.entries, List.length_map]
  terms := holds.terms
  byDefinition := fun text => congrArg Except.ok (holds.byDefinition text)
  byTerm := fun text => congrArg Except.ok (holds.withTerm text)
  labelled := by
    intro kind name
    rw [← holds.labelled]
    cases kind <;> rfl
  namesOf := by
    intro kind id
    rw [← holds.labelsOf_eq]
    cases kind <;> rfl
  inUse := by
    intro kind name
    rw [← holds.holdsLabel]
    cases kind <;> rfl
  first := by
    intro term e
    rw [toStore_firstForTerm, Except.ok.injEq, holds.firstForTerm_eq_some_iff]
    constructor
    · rintro ⟨c, member, same, least, rfl⟩
      exact ⟨c, member, rfl, same, fun d inside alike => least d inside (alike.trans same.symm)⟩
    · rintro ⟨c, member, rfl, same, least⟩
      exact ⟨c, member, same, fun d inside alike => least d inside (alike.trans same), rfl⟩
  unknown := by
    intro term
    rw [toStore_firstForTerm, Except.ok.injEq, holds.firstForTerm_eq_none_iff]
  close := by
    intro text maxDistance nonnegative below
    obtain ⟨terms, answer, close⟩ := m.mem_termsWithin_iff text nonnegative below
    refine ⟨terms, answer, pairwise_termsWithin holds.distinctTerms answer, fun term => ?_⟩
    rw [close, holds.terms, textDistance, editDistance_eq_distance]

end Holds

/-- A glossary in memory answers every lookup as a scan of its cards does, whatever entries it was
made of and whatever changes were made to it. -/
theorem lookups_scan_cards (start : List Entry) (changes : List Change) :
    ∃ m, grown start changes = .ok m ∧ m.Scans (Change.cardsFrom start changes) := by
  obtain ⟨m, made, holds⟩ := grown_holds start changes
  exact ⟨m, made, holds.scans⟩

/-- An entry that was replaced under another term and one that was removed are found no more. -/
theorem lookups_scan_cards_replaced :
    (0 : Int) ≤ 1 ∧ (1 : Int) < distanceLimit ∧
    ∃ m terms, grown [⟨"1", "dam", "a wall", "0"⟩, ⟨"2", "dam", "a mare", "0"⟩]
        [.add ⟨"1", "dim", "not bright", "0"⟩ ["Light", "LIGHT"] [], .remove "2"] = .ok m ∧
      m.toStore.definitions.termsWithin "dam" 1 = .ok terms ∧ "dim" ∈ terms ∧ "dam" ∉ terms ∧
      m.toStore.definitions.firstForTerm "dam" = .ok none ∧
      m.toStore.tags.namesOf "1" = .ok [some "Light"] ∧
      m.toStore.tags.entriesWith "light" = .ok [⟨"1", "dim", "not bright", "0"⟩] := by
  obtain ⟨m, made, scans⟩ :=
    lookups_scan_cards [⟨"1", "dam", "a wall", "0"⟩, ⟨"2", "dam", "a mare", "0"⟩]
      [.add ⟨"1", "dim", "not bright", "0"⟩ ["Light", "LIGHT"] [], .remove "2"]
  have cards : Change.cardsFrom [⟨"1", "dam", "a wall", "0"⟩, ⟨"2", "dam", "a mare", "0"⟩]
      [.add ⟨"1", "dim", "not bright", "0"⟩ ["Light", "LIGHT"] [], .remove "2"] =
        [⟨⟨"1", "dim", "not bright", "0"⟩, ["Light"], []⟩] := by decide
  rw [cards] at scans
  obtain ⟨terms, answer, -, close⟩ := scans.close "dam" 1 (by decide) (by decide)
  have near : (distance "dam".toList "dim".toList : Int) ≤ 1 := by
    rw [← editDistance_eq_distance]
    decide
  refine ⟨by decide, by decide, m, terms, made, answer, ?_, ?_, ?_, ?_, ?_⟩
  · exact (close "dim").2 ⟨⟨_, List.mem_singleton_self _, rfl⟩, near⟩
  · intro found
    obtain ⟨c, member, same⟩ := ((close "dam").1 found).1
    rw [List.mem_singleton.1 member] at same
    exact absurd same (by decide)
  · exact (scans.unknown "dam").2 (List.forall_mem_singleton.2 (by decide))
  · exact scans.namesOf .tag "1"
  · exact scans.labelled .tag "light"

end Memory

end Glossary
