import Glossary.Proofs.Memory.Cards
import Glossary.Search.Retrieval

set_option autoImplicit false

namespace Glossary.Memory

def composite (m : Memory) (e : Entry) : Composite :=
  ⟨e, (m.labelsOf .tag e.id).map some, (m.labelsOf .locale e.id).map some⟩

theorem toStore_composite (m : Memory) (e : Entry) :
    m.toStore.composite e = .ok (m.composite e) := rfl

theorem composite_labels (m : Memory) (e : Entry) (kind : LabelKind) :
    (m.composite e).labels kind = (m.labelsOf kind e.id).map some := by
  cases kind <;> rfl

theorem leastId_eq_none {entries : List Entry} : leastId entries = none ↔ entries = [] := by
  cases entries with
  | nil => simp [leastId]
  | cons e rest =>
      simp only [leastId]
      split
      · simp
      · split <;> simp

/-- The entry that stands for others is one of them, and none has a lesser id. -/
theorem leastId_spec {entries : List Entry} {e : Entry} (least : leastId entries = some e) :
    e ∈ entries ∧ ∀ d ∈ entries, e.id ≤ d.id := by
  induction entries generalizing e with
  | nil => cases least
  | cons first rest ih =>
      simp only [leastId] at least
      split at least
      · rename_i none
        cases least
        rw [leastId_eq_none.1 none]
        simp
      · rename_i best found
        obtain ⟨member, below⟩ := ih found
        split at least
        · rename_i before
          cases least
          refine ⟨List.mem_cons_of_mem first member, fun d inside => ?_⟩
          rcases List.mem_cons.1 inside with rfl | inside
          · exact String.not_lt.1 (String.lt_asymm before)
          · exact below d inside
        · rename_i after
          cases least
          refine ⟨List.mem_cons_self, fun d inside => ?_⟩
          rcases List.mem_cons.1 inside with rfl | inside
          · exact String.le_refl _
          · exact String.le_trans (String.not_lt.1 after) (below d inside)

theorem leastId_eq_some_iff {entries : List Entry} {e : Entry}
    (tells : ∀ a ∈ entries, ∀ b ∈ entries, a.id = b.id → a = b) :
    leastId entries = some e ↔ e ∈ entries ∧ ∀ d ∈ entries, e.id ≤ d.id := by
  refine ⟨leastId_spec, fun ⟨member, below⟩ => ?_⟩
  cases found : leastId entries with
  | none =>
      rw [leastId_eq_none.1 found] at member
      cases member
  | some d =>
      obtain ⟨inside, least⟩ := leastId_spec found
      rw [tells d inside e member (String.le_antisymm (least e member) (below d inside))]

namespace Holds

variable {m : Memory} {cards : List Card}

theorem values (holds : m.Holds cards) : m.entries.values = cards.map (·.entry) := by
  rw [Index.values, holds.entries, List.map_map]
  rfl

theorem exists_term_iff (holds : m.Holds cards) (term : String) :
    (∃ e ∈ m.entries.values, e.term = term) ↔ ∃ c ∈ cards, c.entry.term = term := by
  simp only [holds.values, List.mem_map, exists_exists_and_eq_and]

theorem byDefinition (holds : m.Holds cards) (text : String) :
    m.byDefinition text =
      (cards.filter fun c => Text.contains c.entry.definition text).map (·.entry) := by
  rw [Memory.byDefinition, holds.values, List.filter_map]
  rfl

theorem withTerm (holds : m.Holds cards) (text : String) :
    m.withTerm text = (cards.filter fun c => Text.contains c.entry.term text).map (·.entry) := by
  rw [Memory.withTerm, holds.values, List.filter_map]
  rfl

theorem find?_among (holds : m.Holds cards) {some : List Card} (among : ∀ d ∈ some, d ∈ cards)
    {c : Card} (member : c ∈ cards) :
    some.find? (fun d => decide (d.entry.id = c.entry.id)) =
      if c ∈ some then Option.some c else none := by
  split
  · rename_i inside
    cases found : some.find? fun d => decide (d.entry.id = c.entry.id) with
    | none =>
        have missed := List.find?_eq_none.1 found c inside
        simp at missed
    | some d =>
        have same : d.entry.id = c.entry.id := by simpa using List.find?_some found
        rw [holds.eq_of_id (among d (List.mem_of_find?_eq_some found)) member same]
  · rename_i outside
    refine List.find?_eq_none.2 fun d inside found => outside ?_
    rwa [← holds.eq_of_id (among d inside) member (of_decide_eq_true found)]

theorem labelsOf (holds : m.Holds cards) {c : Card} (member : c ∈ cards) (kind : LabelKind) :
    m.labelsOf kind c.entry.id = c.labels kind := by
  have among : ∀ d ∈ cards.filter fun d => !(d.labels kind).isEmpty, d ∈ cards :=
    fun d inside => (List.mem_filter.1 inside).1
  rw [Memory.labelsOf, Index.get?, holds.labels, Index.find?_map, holds.find?_among among member]
  by_cases unlabelled : c.labels kind = []
  · rw [if_neg (by simp [unlabelled]), unlabelled]
    rfl
  · rw [if_pos (by simp [member, unlabelled])]
    rfl

/-- Among the labels of a kind, a test that needs a label is the same on all cards. -/
theorem filter_labelled (kind : LabelKind) (test : String → Bool) (cards : List Card) :
    (cards.filter fun c => !(c.labels kind).isEmpty).filter
        (fun c => (c.labels kind).any test) =
      cards.filter fun c => (c.labels kind).any test := by
  rw [List.filter_filter]
  refine List.filter_congr fun c _ => ?_
  cases c.labels kind <;> simp

theorem holdsLabel (holds : m.Holds cards) (kind : LabelKind) (name : String) :
    m.holdsLabel kind name = cards.any fun c => (c.labels kind).any (sameLabel name) := by
  rw [Memory.holdsLabel, Index.values, holds.labels, List.map_map, List.any_map, Bool.eq_iff_iff,
    List.any_eq_true, List.any_eq_true]
  constructor
  · intro held
    rcases held with ⟨c, inside, carried⟩
    exact ⟨c, (List.mem_filter.1 inside).1, carried⟩
  · intro held
    rcases held with ⟨c, member, carried⟩
    refine ⟨c, List.mem_filter.2 ⟨member, ?_⟩, carried⟩
    cases labels : c.labels kind <;> simp_all

theorem entriesOf (holds : m.Holds cards) {some : List Card} (among : ∀ d ∈ some, d ∈ cards) :
    m.entriesOf (some.map (·.entry.id)) = .ok (some.map (·.entry)) := by
  induction some with
  | nil => rfl
  | cons c rest ih =>
      have stored : m.entries.get? c.entry.id = Option.some c.entry := by
        have member := among c List.mem_cons_self
        rw [holds.get?_entries, holds.find?_among (fun _ inside => inside) member, if_pos member]
        rfl
      rw [List.map_cons, Memory.entriesOf, stored,
        ih fun d inside => among d (List.mem_cons_of_mem c inside)]
      rfl

theorem labelled (holds : m.Holds cards) (kind : LabelKind) (name : String) :
    m.labelled kind name =
      .ok ((cards.filter fun c => (c.labels kind).any (sameLabel name)).map (·.entry)) := by
  rw [Memory.labelled, holds.labels, List.filter_map, List.map_map]
  have rows : ((fun r : String × List String => r.2.any (sameLabel name)) ∘ fun c : Card =>
      (c.entry.id, c.labels kind)) = fun c => (c.labels kind).any (sameLabel name) := rfl
  rw [rows, filter_labelled]
  exact holds.entriesOf fun d inside => (List.mem_filter.1 inside).1

theorem firstForTerm (holds : m.Holds cards) (term : String) :
    m.firstForTerm term = leastId (Card.ofTerm term cards) := by
  rw [Memory.firstForTerm, holds.getD_byTerm]

end Holds

theorem mem_termsWithin_iff (m : Memory) (text : String) {maxDistance : Int}
    (nonnegative : 0 ≤ maxDistance) (below : maxDistance < distanceLimit) :
    ∃ terms, m.termsWithin text maxDistance = .ok terms ∧
      ∀ t, t ∈ terms ↔ t ∈ m.terms ∧ (textDistance text t : Int) ≤ maxDistance := by
  rw [termsWithin]
  split
  · rename_i empty
    exact ⟨[], rfl, by simp [List.isEmpty_iff.1 empty]⟩
  · rw [if_neg (by omega), if_neg (by omega)]
    refine ⟨_, rfl, fun t => ?_⟩
    rw [mem_sortBy, List.mem_filter, decide_eq_true_eq, textDistance]
    refine and_congr_right fun _ => ?_
    omega

end Memory

end Glossary
