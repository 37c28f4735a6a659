import Glossary.Proofs.Memory.Scan

set_option autoImplicit false

namespace Glossary

/-- If every term leads to an entry, the answers have the terms one by one. -/
theorem Store.firstEntries_of_resolved {s : Store} {P : Entry → Prop} {terms : List String}
    (resolved : ∀ term ∈ terms, ∃ e, s.definitions.firstForTerm term = .ok (some e) ∧
      e.term = term ∧ P e) :
    ∃ entries, s.firstEntries terms = .ok entries ∧ entries.map (·.term) = terms ∧
      ∀ e ∈ entries, P e := by
  induction terms with
  | nil => exact ⟨[], rfl, rfl, nofun⟩
  | cons term rest ih =>
      obtain ⟨here, later⟩ := List.forall_mem_cons.1 resolved
      obtain ⟨e, found, same, holds⟩ := here
      obtain ⟨entries, answer, each, all⟩ := ih later
      refine ⟨e :: entries, ?_, ?_, List.forall_mem_cons.2 ⟨holds, all⟩⟩
      · rw [firstEntries, found, answer]
        rfl
      · rw [List.map_cons, same, each]

namespace Memory

/-- A stored entry whose id is below those of all others of its term. -/
structure Leads (m : Memory) (e : Entry) : Prop where
  stored : e ∈ m.entries.values
  least : ∀ o ∈ m.entries.values, o.term = e.term → o = e ∨ e.id < o.id

namespace Holds

variable {m : Memory} {cards : List Card}

theorem leads_of_first (holds : m.Holds cards) {c : Card} (member : c ∈ cards)
    (first : Card.First cards c.entry) : m.Leads c.entry where
  stored := by
    rw [holds.values]
    exact List.mem_map_of_mem member
  least := by
    rw [holds.values, List.forall_mem_map]
    intro d inside alike
    have least := first d inside alike
    by_cases below : c.entry.id < d.entry.id
    · exact Or.inr below
    · have same : d.entry.id = c.entry.id := String.le_antisymm (String.not_lt.1 below) least
      rw [holds.eq_of_id inside member same]
      exact Or.inl rfl

theorem firstForTerm_of_term (holds : m.Holds cards) {term : String}
    (known : ∃ c ∈ cards, c.entry.term = term) :
    ∃ e, m.toStore.definitions.firstForTerm term = .ok (some e) ∧ e.term = term ∧ m.Leads e := by
  rw [toStore_firstForTerm]
  obtain ⟨c, member, same⟩ := known
  cases found : m.firstForTerm term with
  | none => exact absurd same ((holds.firstForTerm_eq_none_iff term).1 found c member)
  | some e =>
      obtain ⟨d, inside, alike, first, rfl⟩ := (holds.firstForTerm_eq_some_iff term e).1 found
      exact ⟨d.entry, rfl, alike, holds.leads_of_first inside first⟩

end Holds

/-- The entries for the terms close to a text, in a glossary that was made of any entries and
changed in any way: one for each stored term that is close enough, in strictly ascending order of
the terms, and of the entries of a term the one with the least id. -/
theorem closeEntries_one_per_term (start : List Entry) (changes : List Change) (text : String)
    (maxDistance : Int) (filled : text ≠ "") (nonnegative : 0 ≤ maxDistance)
    (below : maxDistance < distanceLimit) :
    ∃ m terms entries, grown start changes = .ok m ∧
      m.toStore.definitions.termsWithin text maxDistance = .ok terms ∧
      m.toStore.closeEntries text maxDistance = .ok entries ∧
      entries.map (·.term) = terms ∧ terms.Pairwise (· < ·) ∧
      (∀ term, term ∈ terms ↔ (∃ e ∈ m.entries.values, e.term = term) ∧
        (textDistance text term : Int) ≤ maxDistance) ∧
      ∀ e ∈ entries, m.Leads e := by
  obtain ⟨m, made, holds⟩ := grown_holds start changes
  obtain ⟨terms, asked, ascending, close⟩ := holds.scans.close text maxDistance nonnegative below
  obtain ⟨entries, answer, each, leads⟩ := Store.firstEntries_of_resolved fun term member =>
    holds.firstForTerm_of_term ((close term).1 member).1
  refine ⟨m, terms, entries, made, asked, ?_, each, ascending, fun term => ?_, leads⟩
  · rw [Store.closeEntries, if_neg filled, asked]
    exact answer
  · rw [close, holds.exists_term_iff, textDistance, editDistance_eq_distance]

/-- A term is put back with two entries, the one of the lesser id last, and another term loses its
only entry. -/
def putBack : List Change :=
  [.remove "2", .add ⟨"2", "dam", "a wall", "0"⟩ [] [], .add ⟨"3", "door", "a way", "0"⟩ [] [],
    .add ⟨"1", "dam", "a lady", "0"⟩ [] [], .add ⟨"4", "dams", "walls", "0"⟩ [] []]

theorem closeEntries_one_per_term_replaced :
    "dam" ≠ "" ∧ (0 : Int) ≤ 1 ∧ (1 : Int) < distanceLimit ∧
    ∃ m entries,
      grown [⟨"2", "dam", "a mare", "0"⟩, ⟨"3", "dim", "not bright", "0"⟩] putBack = .ok m ∧
      m.toStore.closeEntries "dam" 1 = .ok entries ∧ (∀ e ∈ entries, m.Leads e) ∧
      entries = [⟨"1", "dam", "a lady", "0"⟩, ⟨"4", "dams", "walls", "0"⟩] := by
  obtain ⟨m, terms, entries, made, -, answer, -, -, -, leads⟩ := closeEntries_one_per_term
    [⟨"2", "dam", "a mare", "0"⟩, ⟨"3", "dim", "not bright", "0"⟩] putBack "dam" 1
    (by decide) (by decide) (by decide)
  refine ⟨by decide, by decide, by decide, m, entries, made, answer, leads, ?_⟩
  cases made
  cases answer
  rfl

end Memory

end Glossary
