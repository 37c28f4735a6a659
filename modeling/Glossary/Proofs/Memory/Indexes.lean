import Glossary.Proofs.Memory.Lookup

set_option autoImplicit false

namespace Glossary

/-- One structure of a glossary does not know a key that another one has. -/
def Fault.isMiss : Fault → Bool
  | unknownEntry _ => true
  | unlistedTerm => true
  | _ => false

namespace Card

/-- No two labels of the card differ at most in case. -/
def IsTidy (c : Card) : Prop :=
  ∀ kind, (c.labels kind).Pairwise fun a b => Text.lower a ≠ Text.lower b

theorem isTidy_tidy (c : Card) : c.tidy.IsTidy := by
  intro kind
  rw [labels_tidy]
  exact pairwise_distinctOn _ _

end Card

theorem Change.isTidy_onCards {cards : List Card} (tidy : ∀ c ∈ cards, c.IsTidy) (step : Change) :
    ∀ c ∈ step.onCards cards, c.IsTidy := by
  intro c member
  cases step with
  | remove id => exact tidy c (Card.mem_drop_iff.1 member).1
  | add entry tags locales =>
      rcases List.mem_append.1 member with old | new
      · exact tidy c (Card.mem_drop_iff.1 old).1
      · rw [List.mem_singleton.1 new]
        exact Card.isTidy_tidy _

theorem Change.isTidy_cards (changes : List Change) : ∀ c ∈ Change.cards changes, c.IsTidy := by
  have run : ∀ cards : List Card, (∀ c ∈ cards, c.IsTidy) →
      ∀ c ∈ changes.foldl onCards cards, c.IsTidy := by
    induction changes with
    | nil => exact fun cards tidy => tidy
    | cons step rest ih => exact fun cards tidy => ih _ (isTidy_onCards tidy step)
  exact run [] nofun

namespace Memory

/-- The structures of a glossary tell of the same entries. -/
structure InStep (m : Memory) : Prop where
  entryKeys : m.entries.keys.Nodup
  /-- Each entry is kept under its own id. -/
  entryIds : ∀ r ∈ m.entries.rows, r.1 = r.2.id
  terms : m.terms.Nodup
  listed : ∀ term, term ∈ m.terms ↔ term ∈ m.byTerm.keys
  termKeys : m.byTerm.keys.Nodup
  stored : ∀ term, term ∈ m.byTerm.keys ↔ ∃ e ∈ m.entries.values, e.term = term
  /-- The entries of a term are there, each once, and no others. -/
  ofTerm : ∀ r ∈ m.byTerm.rows, r.2 ≠ [] ∧ (r.2.map (·.id)).Nodup ∧
    ∀ e, e ∈ r.2 ↔ e ∈ m.entries.values ∧ e.term = r.1
  labelKeys : ∀ kind, (m.labels kind).keys.Nodup
  labelled : ∀ kind, ∀ id ∈ (m.labels kind).keys, id ∈ m.entries.keys
  /-- The labels of an entry are some, and no two differ at most in case. -/
  names : ∀ kind, ∀ r ∈ (m.labels kind).rows,
    r.2 ≠ [] ∧ r.2.Pairwise fun a b => Text.lower a ≠ Text.lower b

theorem nodup_byTerm_remove {m rest : Memory} {id : String} (distinct : m.byTerm.keys.Nodup)
    (removed : m.remove id = .ok rest) : rest.byTerm.keys.Nodup := by
  unfold remove at removed
  split at removed
  · cases removed
    exact distinct
  · simp only at removed
    split at removed
    · cases removed
      exact Index.nodup_keys_put distinct _ _
    · split at removed
      · cases removed
        exact Index.nodup_keys_erase distinct _
      · cases removed

theorem nodup_byTerm_change {m next : Memory} {step : Change} (distinct : m.byTerm.keys.Nodup)
    (changed : m.change step = .ok next) : next.byTerm.keys.Nodup := by
  cases step with
  | remove id => exact nodup_byTerm_remove distinct changed
  | add entry tags locales =>
      rw [change, add] at changed
      split at changed
      · cases removed : m.remove entry.id with
        | error fault =>
            rw [removed] at changed
            cases changed
        | ok rest =>
            rw [removed] at changed
            cases changed
            exact Index.nodup_keys_put (nodup_byTerm_remove distinct removed) _ _
      · cases changed
        exact Index.nodup_keys_put distinct _ _

theorem nodup_byTerm_run {start m : Memory} {changes : List Change}
    (distinct : start.byTerm.keys.Nodup) (ran : changes.foldlM change start = .ok m) :
    m.byTerm.keys.Nodup := by
  induction changes generalizing start with
  | nil =>
      cases ran
      exact distinct
  | cons step rest ih =>
      rw [List.foldlM_cons] at ran
      cases changed : start.change step with
      | error fault =>
          rw [changed] at ran
          cases ran
      | ok between =>
          rw [changed] at ran
          exact ih (nodup_byTerm_change distinct changed) ran

namespace Holds

variable {m : Memory} {cards : List Card}

theorem keys_entries (holds : m.Holds cards) : m.entries.keys = cards.map (·.entry.id) := by
  rw [Index.keys, holds.entries, List.map_map]
  rfl

theorem keys_labels (holds : m.Holds cards) (kind : LabelKind) : (m.labels kind).keys =
    (cards.filter fun c => !(c.labels kind).isEmpty).map (·.entry.id) := by
  rw [Index.keys, holds.labels, List.map_map]
  rfl

theorem mem_keys_byTerm_iff (holds : m.Holds cards) (term : String) :
    term ∈ m.byTerm.keys ↔ term ∈ m.terms := by
  rw [Index.mem_keys_iff, ← holds.has_byTerm_iff, Index.has, Option.isSome_iff_exists]

/-- The structures of a glossary that holds tidy cards are in step. -/
theorem inStep (holds : m.Holds cards) (tidy : ∀ c ∈ cards, c.IsTidy)
    (termKeys : m.byTerm.keys.Nodup) : m.InStep where
  entryKeys := holds.keys_entries ▸ holds.ids
  entryIds := by
    rw [holds.entries, List.forall_mem_map]
    exact fun _ _ => rfl
  terms := holds.distinctTerms
  listed := fun term => (holds.mem_keys_byTerm_iff term).symm
  termKeys
  stored := by
    intro term
    rw [holds.mem_keys_byTerm_iff, holds.terms, holds.values]
    simp only [List.mem_map, exists_exists_and_eq_and]
  ofTerm := by
    rintro ⟨term, entries⟩ member
    have found := (Index.get?_eq_some_iff termKeys term entries).2 member
    rw [holds.byTerm] at found
    split at found
    · cases found
    · rename_i some
      cases found
      refine ⟨some, ?_, fun e => ?_⟩
      · rw [Card.ofTerm, List.map_map]
        exact holds.ids.sublist (List.filter_sublist.map _)
      · simp only [Card.mem_ofTerm_iff, holds.values, List.mem_map]
        constructor
        · rintro ⟨c, known, rfl, same⟩
          exact ⟨⟨c, known, rfl⟩, same⟩
        · rintro ⟨⟨c, known, rfl⟩, same⟩
          exact ⟨c, known, rfl, same⟩
  labelKeys := by
    intro kind
    rw [holds.keys_labels]
    exact holds.ids.sublist (List.filter_sublist.map _)
  labelled := by
    intro kind id member
    rw [holds.keys_labels] at member
    obtain ⟨c, inside, rfl⟩ := List.mem_map.1 member
    rw [holds.keys_entries]
    exact List.mem_map_of_mem (List.mem_filter.1 inside).1
  names := by
    intro kind
    rw [holds.labels, List.forall_mem_map]
    intro c inside
    obtain ⟨member, some⟩ := List.mem_filter.1 inside
    exact ⟨by simpa using some, tidy c member kind⟩

end Holds

namespace InStep

variable {m : Memory}

theorem mem_values (inStep : m.InStep) {id : String} {entry : Entry}
    (found : m.entries.get? id = some entry) : entry ∈ m.entries.values :=
  List.mem_map_of_mem ((Index.get?_eq_some_iff inStep.entryKeys id entry).1 found)

/-- The term of an entry that is removed is in the list of terms. -/
theorem remove (inStep : m.InStep) (id : String) : ∃ rest, m.remove id = .ok rest := by
  unfold Memory.remove
  cases found : m.entries.get? id with
  | none => exact ⟨m, rfl⟩
  | some entry =>
      have known : entry.term ∈ m.terms :=
        (inStep.listed _).2 ((inStep.stored _).2 ⟨entry, inStep.mem_values found, rfl⟩)
      simp only [known, ↓reduceIte]
      split
      · exact ⟨_, rfl⟩
      · exact ⟨_, rfl⟩

theorem change (inStep : m.InStep) (step : Change) : ∃ next, m.change step = .ok next := by
  cases step with
  | remove id => exact inStep.remove id
  | add entry tags locales =>
      rw [Memory.change, Memory.add]
      split
      · obtain ⟨rest, removed⟩ := inStep.remove entry.id
        rw [removed]
        exact ⟨_, rfl⟩
      · exact ⟨_, rfl⟩

theorem entriesOf {ids : List String} (known : ∀ id ∈ ids, id ∈ m.entries.keys) :
    ∃ entries, m.entriesOf ids = .ok entries := by
  induction ids with
  | nil => exact ⟨[], rfl⟩
  | cons id rest ih =>
      obtain ⟨entry, found⟩ := (Index.mem_keys_iff _ id).1 (known id List.mem_cons_self)
      obtain ⟨entries, others⟩ := ih fun d inside => known d (List.mem_cons_of_mem id inside)
      exact ⟨entry :: entries, by rw [Memory.entriesOf, found, others]; rfl⟩

theorem entriesWith (inStep : m.InStep) (kind : LabelKind) (name : String) :
    ∃ entries, m.labelled kind name = .ok entries := by
  refine entriesOf fun id member => inStep.labelled kind id ?_
  obtain ⟨r, inside, rfl⟩ := List.mem_map.1 member
  exact List.mem_map_of_mem (List.mem_filter.1 inside).1

theorem isMiss_of_termsWithin {text : String} {maxDistance : Int} {fault : Fault}
    (failed : m.termsWithin text maxDistance = .error fault) : fault.isMiss = false := by
  unfold termsWithin at failed
  split at failed
  · cases failed
  · split at failed
    · cases failed
      rfl
    · split at failed
      · cases failed
        rfl
      · cases failed

/-- Without a text there is nothing to look for, or nothing to compare. -/
theorem isMiss_of_answerAbsent {l : Lookup} {fault : Fault}
    (failed : m.answerAbsent l = .error fault) : fault.isMiss = false := by
  have compared : fault = .absentText ∨ fault = .absentName := by
    cases l with
    | byDefinition | byTerm =>
        simp only [answerAbsent] at failed
        split at failed
        · cases failed
        · cases failed
          exact Or.inl rfl
    | labelExists kind | labelled kind =>
        simp only [answerAbsent] at failed
        split at failed
        · cases failed
        · cases failed
          exact Or.inr rfl
    | termsWithin | firstForTerm | labelsOf kind => cases failed
  rcases compared with rfl | rfl <;> rfl

theorem isMiss_of_answer_some (inStep : m.InStep) {text : String} {maxDistance : Int} {l : Lookup}
    {fault : Fault} (failed : m.toStore.answer text maxDistance l = .error fault) :
    fault.isMiss = false := by
  cases l with
  | byDefinition | byTerm | firstForTerm => cases failed
  | labelExists kind | labelsOf kind => cases kind <;> cases failed
  | termsWithin =>
      have same : (m.termsWithin text maxDistance).map Answer.terms = .error fault := failed
      cases answer : m.termsWithin text maxDistance with
      | error other =>
          rw [answer] at same
          cases same
          exact isMiss_of_termsWithin answer
      | ok terms =>
          rw [answer] at same
          cases same
  | labelled kind =>
      obtain ⟨entries, answer⟩ := inStep.entriesWith kind text
      have same : (m.labelled kind text).map Answer.entries = .error fault := by
        cases kind <;> exact failed
      rw [answer] at same
      cases same

/-- No lookup misses a key. -/
theorem isMiss_of_answer (inStep : m.InStep) {text : Option String} {maxDistance : Option Int}
    {l : Lookup} {fault : Fault} (failed : m.answer text maxDistance l = .error fault) :
    fault.isMiss = false := by
  unfold Memory.answer at failed
  split at failed
  · exact isMiss_of_answerAbsent failed
  · cases failed
  · exact inStep.isMiss_of_answer_some failed

end InStep

/-- Whatever changes are made, the structures of a glossary are in step, the next change can be made
as well, and no lookup misses a key. -/
theorem changes_keep_inStep (changes : List Change) :
    ∃ m, after changes = .ok m ∧ m.InStep ∧ (∀ step, ∃ next, m.change step = .ok next) ∧
      ∀ text maxDistance l fault, m.answer text maxDistance l = .error fault →
        fault.isMiss = false := by
  obtain ⟨m, made, holds⟩ := after_holds changes
  have empty : ({} : Memory).byTerm.keys.Nodup := List.nodup_nil
  have inStep := holds.inStep (Change.isTidy_cards changes) (nodup_byTerm_run empty made)
  exact ⟨m, made, inStep, inStep.change, fun _ _ _ _ failed => inStep.isMiss_of_answer failed⟩

end Memory

end Glossary
