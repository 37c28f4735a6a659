import Mathlib.Data.List.Nodup
import Glossary.Proofs.Card
import Glossary.Store.Memory

set_option autoImplicit false

namespace Glossary

inductive Change where
  | add (entry : Entry) (tags locales : List String)
  | remove (id : String)
  deriving DecidableEq, Repr

namespace Change

/-- What a change does to a list of cards. -/
def onCards (cards : List Card) : Change → List Card
  | add entry tags locales => Card.put (Card.tidy ⟨entry, tags, locales⟩) cards
  | remove id => Card.drop id cards

/-- The cards after a list of changes. -/
def cards (changes : List Change) : List Card := changes.foldl onCards []

def ofCard (c : Card) : Change := add c.entry c.tags c.locales

theorem foldl_onCards_ofCard (before cards : List Card)
    (ids : ((before ++ cards).map (·.entry.id)).Nodup) :
    (cards.map ofCard).foldl onCards before = before ++ cards.map Card.tidy := by
  induction cards generalizing before with
  | nil => simp
  | cons c rest ih =>
      have absent : ∀ d ∈ before, d.entry.id ≠ c.entry.id := by
        rw [List.map_append, List.nodup_append] at ids
        exact fun d member => ids.2.2 _ (List.mem_map_of_mem member) _ (by simp)
      have added : onCards before (ofCard c) = before ++ [c.tidy] := by
        rw [ofCard, onCards, Card.put, Card.entry_tidy, Card.drop_of_absent absent]
      rw [List.map_cons, List.foldl_cons, added, ih, List.map_cons, List.append_assoc,
        List.singleton_append]
      simpa using ids

theorem cards_ofCard {cards : List Card} (ids : (cards.map (·.entry.id)).Nodup) :
    Change.cards (cards.map ofCard) = cards.map Card.tidy := by
  rw [Change.cards, foldl_onCards_ofCard [] cards (by simpa using ids), List.nil_append]

end Change

namespace Memory

def change (m : Memory) : Change → Except Fault Memory
  | .add entry tags locales => m.add entry tags locales
  | .remove id => m.remove id

/-- The glossary after a list of changes, the first of them made to an empty one. -/
def after (changes : List Change) : Except Fault Memory := changes.foldlM change {}

/-- The indexes are those of the cards. -/
structure Holds (m : Memory) (cards : List Card) : Prop where
  ids : (cards.map (·.entry.id)).Nodup
  entries : m.entries.rows = cards.map fun c => (c.entry.id, c.entry)
  labels : ∀ kind, (m.labels kind).rows =
    (cards.filter fun c => !(c.labels kind).isEmpty).map fun c => (c.entry.id, c.labels kind)
  byTerm : ∀ term, m.byTerm.get? term =
    if Card.ofTerm term cards = [] then none else some (Card.ofTerm term cards)
  terms : ∀ term, term ∈ m.terms ↔ ∃ c ∈ cards, c.entry.term = term
  distinctTerms : m.terms.Nodup

end Memory

theorem addLabel_eq_addOn : addLabel = addOn Text.lower := rfl

theorem addLabel_ne_nil (names : List String) (name : String) : addLabel names name ≠ [] := by
  unfold addLabel
  split
  · rename_i known
    rintro rfl
    simp at known
  · simp

namespace Memory

/-- Linking labels to a new id adds one row for it, or none without labels. -/
theorem link_of_absent {labels : Index (List String)} {id : String}
    (absent : ∀ r ∈ labels.rows, r.1 ≠ id) (names : List String) :
    (link labels id names).rows = labels.rows ++
      if (distinctOn Text.lower names).isEmpty then []
      else [(id, distinctOn Text.lower names)] := by
  -- The row for the id grows from the labels linked so far.
  have grows : ∀ (names kept : List String) (ix : Index (List String)),
      ix.rows = labels.rows ++ (if kept.isEmpty then [] else [(id, kept)]) →
        (link ix id names).rows = labels.rows ++
          (if (names.foldl addLabel kept).isEmpty then []
            else [(id, names.foldl addLabel kept)]) := by
    intro names
    induction names with
    | nil => exact fun kept ix rows => rows
    | cons n rest ih =>
        intro kept ix rows
        have linked : (ix.get? id).getD [] = kept := by
          rw [Index.get?, rows, Index.find?_append absent]
          cases kept <;> simp [Index.find?]
        have stored : (ix.put id (addLabel kept n)).rows = labels.rows ++
            (if (addLabel kept n).isEmpty then [] else [(id, addLabel kept n)]) := by
          have some : ¬ (addLabel kept n).isEmpty = true := by
            simpa using addLabel_ne_nil kept n
          rw [Index.put, rows, Index.update_append absent, if_neg some]
          cases kept <;> simp [Index.update]
        rw [List.foldl_cons, ← ih (addLabel kept n) _ stored]
        simp only [link, List.foldl_cons, linked]
  have whole := grows names [] labels (by simp)
  rwa [addLabel_eq_addOn, foldl_addOn_nil] at whole

namespace Holds

variable {m : Memory} {cards : List Card}

theorem get?_entries (holds : m.Holds cards) (id : String) :
    m.entries.get? id = (cards.find? fun c => decide (c.entry.id = id)).map (·.entry) := by
  rw [Index.get?, holds.entries, Index.find?_map]

theorem absent_entries (holds : m.Holds cards) {id : String}
    (absent : ∀ c ∈ cards, c.entry.id ≠ id) : ∀ r ∈ m.entries.rows, r.1 ≠ id := by
  rw [holds.entries]
  intro r member
  obtain ⟨c, inside, rfl⟩ := List.mem_map.1 member
  exact absent c inside

theorem absent_labels (holds : m.Holds cards) {id : String}
    (absent : ∀ c ∈ cards, c.entry.id ≠ id) (kind : LabelKind) :
    ∀ r ∈ (m.labels kind).rows, r.1 ≠ id := by
  rw [holds.labels]
  intro r member
  obtain ⟨c, inside, rfl⟩ := List.mem_map.1 member
  exact absent c (List.mem_filter.1 inside).1

theorem eq_of_id (holds : m.Holds cards) {c d : Card} (first : c ∈ cards) (second : d ∈ cards)
    (same : c.entry.id = d.entry.id) : c = d :=
  List.inj_on_of_nodup_map holds.ids first second same

theorem getD_byTerm (holds : m.Holds cards) (term : String) :
    (m.byTerm.get? term).getD [] = Card.ofTerm term cards := by
  rw [holds.byTerm]
  split
  · rename_i none
    rw [none]
    rfl
  · rfl

theorem has_byTerm_iff (holds : m.Holds cards) (term : String) :
    m.byTerm.has term = true ↔ term ∈ m.terms := by
  rw [Index.has, holds.byTerm, holds.terms]
  split
  · rename_i none
    simpa using Card.ofTerm_eq_nil_iff.1 none
  · rename_i some
    simpa using Card.ofTerm_eq_nil_iff.not.1 some

theorem insert (holds : m.Holds cards) {entry : Entry}
    (absent : ∀ c ∈ cards, c.entry.id ≠ entry.id) (tags locales : List String) :
    (m.insert entry tags locales).Holds (cards ++ [Card.tidy ⟨entry, tags, locales⟩]) where
  ids := by
    rw [List.map_append]
    refine List.nodup_append.2 ⟨holds.ids, by simp, ?_⟩
    intro id known other new
    obtain ⟨c, member, rfl⟩ := List.mem_map.1 known
    obtain rfl : other = entry.id := by simpa [Card.tidy] using new
    exact absent c member
  entries := by
    rw [Memory.insert, Index.put, Index.update_of_absent (holds.absent_entries absent),
      holds.entries, List.map_append]
    rfl
  labels := by
    intro kind
    have linked := link_of_absent (holds.absent_labels absent kind)
    rw [List.filter_append, List.map_append, ← holds.labels kind]
    cases kind with
    | tag =>
        refine (linked tags).trans (congrArg _ ?_)
        cases kept : distinctOn Text.lower tags <;> simp [Card.tidy, Card.labels, kept]
    | locale =>
        refine (linked locales).trans (congrArg _ ?_)
        cases kept : distinctOn Text.lower locales <;> simp [Card.tidy, Card.labels, kept]
  byTerm := by
    intro term
    have own : Card.ofTerm term [Card.tidy ⟨entry, tags, locales⟩] =
        if entry.term = term then [entry] else [] := by
      by_cases same : entry.term = term <;> simp [Card.ofTerm, Card.tidy, same]
    rw [Card.ofTerm_append, own, Memory.insert]
    by_cases same : entry.term = term
    · subst same
      rw [Index.get?_put_self, holds.getD_byTerm, if_pos rfl, if_neg (by simp)]
    · rw [Index.get?_put_other _ (Ne.symm same), holds.byTerm, if_neg same, List.append_nil]
  terms := by
    intro term
    have known := holds.terms entry.term
    simp only [Memory.insert, List.mem_append, List.mem_singleton, or_and_right, exists_or,
      exists_eq_left, ← holds.terms]
    split
    · rename_i has
      refine ⟨Or.inl, ?_⟩
      rintro (old | rfl)
      · exact old
      · exact (holds.has_byTerm_iff entry.term).1 has
    · rw [List.mem_append, List.mem_singleton]
      exact or_congr_right eq_comm
  distinctTerms := by
    rw [Memory.insert]
    split
    · exact holds.distinctTerms
    · rename_i new
      refine List.nodup_append.2 ⟨holds.distinctTerms, by simp, ?_⟩
      rintro term known other single rfl
      rw [List.mem_singleton.1 single] at known
      exact new ((holds.has_byTerm_iff entry.term).2 known)

theorem empty : ({} : Memory).Holds [] where
  ids := List.nodup_nil
  entries := rfl
  labels := by
    intro kind
    cases kind <;> rfl
  byTerm := fun _ => rfl
  terms := by simp
  distinctTerms := List.nodup_nil

theorem mem_terms_iff (holds : m.Holds cards) (term : String) :
    term ∈ m.terms ↔ Card.ofTerm term cards ≠ [] := by
  rw [holds.terms, Ne, Card.ofTerm_eq_nil_iff]
  push Not
  rfl

/-- What is left without an id, given the buckets and the list of terms. -/
theorem erase (holds : m.Holds cards) (id : String) {byTerm : Index (List Entry)}
    {terms : List String}
    (buckets : ∀ term, byTerm.get? term =
      if Card.ofTerm term (Card.drop id cards) = [] then none
      else some (Card.ofTerm term (Card.drop id cards)))
    (listed : ∀ term, term ∈ terms ↔ Card.ofTerm term (Card.drop id cards) ≠ [])
    (distinct : terms.Nodup) :
    Holds ⟨m.entries.erase id, byTerm, m.tags.erase id, m.locales.erase id, terms⟩
      (Card.drop id cards) where
  ids := holds.ids.sublist (List.filter_sublist.map _)
  entries := by
    rw [Index.erase, holds.entries, List.filter_map]
    rfl
  labels := by
    intro kind
    have rows : ((m.labels kind).erase id).rows =
        ((Card.drop id cards).filter fun c => !(c.labels kind).isEmpty).map
          fun c => (c.entry.id, c.labels kind) := by
      rw [Index.erase, holds.labels, List.filter_map, Card.drop, List.filter_filter,
        List.filter_filter]
      simp only [Function.comp_def, Bool.and_comm]
    cases kind <;> exact rows
  byTerm := buckets
  terms := by
    intro term
    rw [listed, Ne, Card.ofTerm_eq_nil_iff]
    push Not
    rfl
  distinctTerms := distinct

/-- The entries of a term change only if the term is that of the card that goes. -/
theorem ofTerm_drop_of_ne (holds : m.Holds cards) {card : Card} (member : card ∈ cards)
    {term : String} (other : term ≠ card.entry.term) :
    Card.ofTerm term (Card.drop card.entry.id cards) = Card.ofTerm term cards := by
  rw [Card.ofTerm_drop, List.filter_eq_self]
  intro e inside
  obtain ⟨c, known, rfl, ofTerm⟩ := Card.mem_ofTerm_iff.1 inside
  refine decide_eq_true fun same => other ?_
  rw [← ofTerm, holds.eq_of_id known member same]

/-- Removing an id drops its card, whether there is one or not. -/
theorem remove (holds : m.Holds cards) (id : String) :
    ∃ rest, m.remove id = .ok rest ∧ rest.Holds (Card.drop id cards) := by
  cases found : cards.find? fun c => decide (c.entry.id = id) with
  | none =>
      have absent : ∀ c ∈ cards, c.entry.id ≠ id := by simpa using List.find?_eq_none.1 found
      refine ⟨m, ?_, by rwa [Card.drop_of_absent absent]⟩
      rw [Memory.remove, holds.get?_entries, found]
      rfl
  | some card =>
      have member := List.mem_of_find?_eq_some found
      obtain rfl : card.entry.id = id := by simpa using List.find?_some found
      have stored : m.entries.get? card.entry.id = some card.entry := by
        rw [holds.get?_entries, found]
        rfl
      have unchanged : ∀ term, term ≠ card.entry.term →
          Card.ofTerm term (Card.drop card.entry.id cards) = Card.ofTerm term cards :=
        fun term => holds.ofTerm_drop_of_ne member
      simp only [Memory.remove, stored, holds.getD_byTerm, ← Card.ofTerm_drop]
      by_cases last : Card.ofTerm card.entry.term (Card.drop card.entry.id cards) = []
      · have listed : card.entry.term ∈ m.terms := (holds.terms _).2 ⟨card, member, rfl⟩
        simp only [last, List.isEmpty_nil, Bool.not_true, Bool.false_eq_true, ↓reduceIte, listed]
        refine ⟨_, rfl, holds.erase card.entry.id (fun term => ?_) (fun term => ?_)
          (holds.distinctTerms.erase _)⟩
        · by_cases same : term = card.entry.term
          · rw [same, Index.get?_erase_self, if_pos last]
          · rw [Index.get?_erase_other _ same, holds.byTerm, unchanged term same]
        · rw [holds.distinctTerms.mem_erase_iff, holds.mem_terms_iff]
          by_cases same : term = card.entry.term
          · simp [same, last]
          · simp [same, unchanged term same]
      · have some : (!(Card.ofTerm card.entry.term
            (Card.drop card.entry.id cards)).isEmpty) = true := by simpa using last
        simp only [some, ↓reduceIte]
        refine ⟨_, rfl, holds.erase card.entry.id (fun term => ?_) (fun term => ?_)
          holds.distinctTerms⟩
        · by_cases same : term = card.entry.term
          · rw [same, Index.get?_put_self, if_neg last]
          · rw [Index.get?_put_other _ same, holds.byTerm, unchanged term same]
        · rw [holds.mem_terms_iff]
          by_cases same : term = card.entry.term
          · refine iff_of_true ?_ (by rwa [same])
            rw [same, ← holds.mem_terms_iff, holds.terms]
            exact ⟨card, member, rfl⟩
          · rw [unchanged term same]

theorem has_entries_iff (holds : m.Holds cards) (id : String) :
    m.entries.has id = true ↔ ∃ c ∈ cards, c.entry.id = id := by
  rw [Index.has, holds.get?_entries, Option.isSome_map, List.find?_isSome]
  simp only [decide_eq_true_eq]

/-- Adding an entry puts its card at the end, in place of one with the same id. -/
theorem add (holds : m.Holds cards) (entry : Entry) (tags locales : List String) :
    ∃ next, m.add entry tags locales = .ok next ∧
      next.Holds (Card.put (Card.tidy ⟨entry, tags, locales⟩) cards) := by
  have absent : ∀ c ∈ Card.drop entry.id cards, c.entry.id ≠ entry.id := fun c member =>
    (Card.mem_drop_iff.1 member).2
  by_cases known : m.entries.has entry.id = true
  · obtain ⟨rest, removed, remains⟩ := holds.remove entry.id
    refine ⟨_, ?_, remains.insert absent tags locales⟩
    rw [Memory.add, if_pos known, removed]
    rfl
  · have new : ∀ c ∈ cards, c.entry.id ≠ entry.id := fun c member same =>
      known ((holds.has_entries_iff entry.id).2 ⟨c, member, same⟩)
    refine ⟨_, by rw [Memory.add, if_neg known], ?_⟩
    have placed := holds.insert new tags locales
    rwa [← Card.drop_of_absent new] at placed

theorem change (holds : m.Holds cards) (step : Change) :
    ∃ next, m.change step = .ok next ∧ next.Holds (step.onCards cards) := by
  cases step with
  | add entry tags locales => exact holds.add entry tags locales
  | remove id => exact holds.remove id

theorem foldlM_change (holds : m.Holds cards) (changes : List Change) :
    ∃ next, changes.foldlM Memory.change m = .ok next ∧
      next.Holds (changes.foldl Change.onCards cards) := by
  induction changes generalizing m cards with
  | nil => exact ⟨m, rfl, holds⟩
  | cons step rest ih =>
      obtain ⟨between, changed, holdsBetween⟩ := holds.change step
      obtain ⟨last, ran, holdsLast⟩ := ih holdsBetween
      refine ⟨last, ?_, holdsLast⟩
      rw [List.foldlM_cons, changed]
      exact ran

end Holds

/-- Every list of changes can be made, and leaves a glossary that holds the cards it should. -/
theorem after_holds (changes : List Change) :
    ∃ m, after changes = .ok m ∧ m.Holds (Change.cards changes) :=
  Holds.empty.foldlM_change changes

end Memory

end Glossary
