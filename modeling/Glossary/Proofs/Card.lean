import Glossary.Distinct
import Glossary.Entry
import Glossary.Text.Lower

set_option autoImplicit false

namespace Glossary

/-- An entry with its labels. -/
structure Card where
  entry : Entry
  tags : List String
  locales : List String
  deriving DecidableEq, Repr

namespace Card

def labels (c : Card) : LabelKind → List String
  | .tag => c.tags
  | .locale => c.locales

/-- The card with the first of those labels that differ at most in case. -/
def tidy (c : Card) : Card where
  entry := c.entry
  tags := distinctOn Text.lower c.tags
  locales := distinctOn Text.lower c.locales

/-- The cards without the one of an id. -/
def drop (id : String) (cards : List Card) : List Card :=
  cards.filter fun c => decide (c.entry.id ≠ id)

/-- The cards with a new one at the end, in place of any with its id. -/
def put (card : Card) (cards : List Card) : List Card := drop card.entry.id cards ++ [card]

def ofTerm (term : String) (cards : List Card) : List Entry :=
  (cards.filter fun c => decide (c.entry.term = term)).map (·.entry)

theorem mem_drop_iff {id : String} {cards : List Card} {c : Card} :
    c ∈ drop id cards ↔ c ∈ cards ∧ c.entry.id ≠ id := by
  simp only [drop, List.mem_filter, decide_eq_true_eq]

theorem drop_of_absent {id : String} {cards : List Card} (absent : ∀ c ∈ cards, c.entry.id ≠ id) :
    drop id cards = cards :=
  List.filter_eq_self.2 fun c member => decide_eq_true (absent c member)

theorem mem_ofTerm_iff {term : String} {cards : List Card} {e : Entry} :
    e ∈ ofTerm term cards ↔ ∃ c ∈ cards, c.entry = e ∧ e.term = term := by
  simp only [ofTerm, List.mem_map, List.mem_filter, decide_eq_true_eq]
  constructor
  · intro held
    rcases held with ⟨c, ⟨member, same⟩, rfl⟩
    exact ⟨c, member, rfl, same⟩
  · intro held
    rcases held with ⟨c, member, rfl, same⟩
    exact ⟨c, ⟨member, same⟩, rfl⟩

theorem ofTerm_eq_nil_iff {term : String} {cards : List Card} :
    ofTerm term cards = [] ↔ ∀ c ∈ cards, c.entry.term ≠ term := by
  simp [ofTerm, List.filter_eq_nil_iff]

theorem ofTerm_append (term : String) (cards more : List Card) :
    ofTerm term (cards ++ more) = ofTerm term cards ++ ofTerm term more := by
  simp only [ofTerm, List.filter_append, List.map_append]

theorem ofTerm_drop (term id : String) (cards : List Card) :
    ofTerm term (drop id cards) =
      (ofTerm term cards).filter fun e => decide (e.id ≠ id) := by
  simp only [ofTerm, drop, List.filter_map, List.filter_filter, Function.comp_def, Bool.and_comm]

@[simp] theorem entry_tidy (c : Card) : c.tidy.entry = c.entry := rfl

theorem labels_tidy (c : Card) (kind : LabelKind) :
    c.tidy.labels kind = distinctOn Text.lower (c.labels kind) := by
  cases kind <;> rfl

/-- Tidying loses no label but for its case. -/
theorem exists_label_tidy_iff (c : Card) (kind : LabelKind) (name : String) :
    (∃ n ∈ c.tidy.labels kind, Text.lower n = name) ↔
      ∃ n ∈ c.labels kind, Text.lower n = name := by
  rw [labels_tidy, exists_mem_distinctOn_iff]

end Card

end Glossary
