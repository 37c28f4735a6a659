import Glossary.Proofs.Card
import Glossary.Proofs.Query.Grammar
import Glossary.Proofs.Search.Stages

set_option autoImplicit false

namespace Glossary

namespace Card

/-- No card of the same term has a lesser id. -/
def First (cards : List Card) (e : Entry) : Prop :=
  ∀ d ∈ cards, d.entry.term = e.term → e.id ≤ d.entry.id

/-- The answer has the entries of the cards that fit, and no others. -/
def Listed (cards : List Card) (fits : Card → Prop) (answer : Except Fault (List Entry)) : Prop :=
  ∃ entries, answer = .ok entries ∧ ∀ e, e ∈ entries ↔ ∃ c ∈ cards, fits c ∧ c.entry = e

/-- The card passes the filter. -/
def Passes (m : Matching) (c : Card) (f : Filter) : Prop :=
  match f.kind with
  | .definition => Text.contains c.entry.definition f.text = true
  | .label kind => ∃ n ∈ c.labels kind, Text.lower n = Text.lower f.text
  | .term => (textDistance c.entry.term f.text : Int) ≤ m.maxDistance ∧
      Text.contains c.entry.term f.text = true

/-- The filter fetches the card, where labels that are `alike` and terms that are `near` do. -/
def Fetched (m : Matching) (alike near : String → String → Prop) (cards : List Card) (c : Card)
    (f : Filter) : Prop :=
  match f.kind with
  | .definition => Text.contains c.entry.definition f.text = true
  | .label kind => ∃ n ∈ c.labels kind, alike f.text n
  | .term =>
    match m.termMatch with
    | .substring => Text.contains c.entry.term f.text = true
    | .fuzzy => near f.text c.entry.term ∧ First cards c.entry

/-- The label of the filter is on some card. -/
def Known (alike : String → String → Prop) (cards : List Card) (f : Filter) : Prop :=
  ∃ kind, f.kind = .label kind ∧ ∃ c ∈ cards, ∃ n ∈ c.labels kind, alike f.text n

theorem listed_filter {cards : List Card} {fits : Card → Prop} {test : Card → Bool}
    (decides : ∀ c ∈ cards, test c = true ↔ fits c) :
    Listed cards fits (.ok ((cards.filter test).map (·.entry))) := by
  refine ⟨_, rfl, fun e => ?_⟩
  simp only [List.mem_map, List.mem_filter]
  constructor
  · intro held
    rcases held with ⟨c, ⟨member, passed⟩, rfl⟩
    exact ⟨c, member, (decides c member).1 passed, rfl⟩
  · intro held
    rcases held with ⟨c, member, fit, rfl⟩
    exact ⟨c, ⟨member, (decides c member).2 fit⟩, rfl⟩

/-- The card passes all filters, of which there are some. Where terms alone are asked for and
matched by distance, an entry stands for the others of its term. -/
def Answers (m : Matching) (cards : List Card) (filters : List Filter) (c : Card) : Prop :=
  filters ≠ [] ∧ (∀ f ∈ filters, c.Passes m f) ∧
    ((∀ f ∈ filters, f.kind = .term) → m.termMatch = .fuzzy → First cards c.entry)

variable {m : Matching} {cards : List Card} {c : Card} {f : Filter}

theorem first_of_fetched {alike near : String → String → Prop}
    (fetched : c.Fetched m alike near cards f) (term : f.kind = .term)
    (fuzzy : m.termMatch = .fuzzy) : First cards c.entry := by
  simp only [Fetched, term, fuzzy] at fetched
  exact fetched.2

/-- A card that passes a filter is fetched by it, except that for a close term an entry has to
stand for its term. -/
theorem fetched_of_passes {alike near : String → String → Prop}
    (wideAlike : ∀ kind, f.kind = .label kind → ∀ n ∈ c.labels kind,
      Text.lower n = Text.lower f.text → alike f.text n)
    (wideNear : f.kind = .term → textDistance c.entry.term f.text ≤ m.maxDistance →
      near f.text c.entry.term)
    (first : f.kind = .term → m.termMatch = .fuzzy → First cards c.entry)
    (passes : c.Passes m f) : c.Fetched m alike near cards f := by
  revert wideAlike wideNear first passes
  unfold Passes Fetched
  cases f.kind with
  | definition => exact fun _ _ _ passes => passes
  | label kind =>
      rintro wideAlike - - ⟨n, inside, same⟩
      exact ⟨n, inside, wideAlike kind rfl n inside same⟩
  | term =>
      rintro - wideNear first ⟨near, contained⟩
      cases way : m.termMatch with
      | substring => exact contained
      | fuzzy => exact ⟨wideNear rfl near, first rfl way⟩

theorem answers_of_fetched {alike near : String → String → Prop} {filters : List Filter}
    (fetched : ∃ f ∈ filters, c.Fetched m alike near cards f)
    (passes : ∀ f ∈ filters, c.Passes m f) : c.Answers m cards filters := by
  obtain ⟨f, member, reached⟩ := fetched
  refine ⟨List.ne_nil_of_mem member, passes, fun terms fuzzy => ?_⟩
  exact first_of_fetched reached (terms f member) fuzzy

/-- Where fetching is wide enough, the entries that it leads to are those that answer. -/
theorem fetched_and_passes_iff {alike near : String → String → Prop} {filters : List Filter}
    (wideAlike : ∀ f ∈ filters, ∀ kind, f.kind = .label kind → ∀ n ∈ c.labels kind,
      Text.lower n = Text.lower f.text → alike f.text n)
    (wideNear : ∀ f ∈ filters, f.kind = .term →
      textDistance c.entry.term f.text ≤ m.maxDistance → near f.text c.entry.term) :
    ((∃ f ∈ filters, c.Fetched m alike near cards f) ∧ ∀ f ∈ filters, c.Passes m f) ↔
      c.Answers m cards filters := by
  refine ⟨fun ⟨fetched, passes⟩ => answers_of_fetched fetched passes, ?_⟩
  intro held
  rcases held with ⟨some, passes, first⟩
  refine ⟨?_, passes⟩
  by_cases terms : ∀ f ∈ filters, f.kind = .term
  · obtain ⟨f, member⟩ := List.exists_mem_of_ne_nil filters some
    exact ⟨f, member, fetched_of_passes (wideAlike f member) (wideNear f member)
      (fun _ fuzzy => first terms fuzzy) (passes f member)⟩
  · push Not at terms
    obtain ⟨f, member, other⟩ := terms
    exact ⟨f, member, fetched_of_passes (wideAlike f member) (wideNear f member)
      (fun term => absurd term other) (passes f member)⟩

end Card

namespace Store

theorem listed_closeEntries {s : Store} {text : String} {n : Int} {cards : List Card}
    {near : String → Prop} {terms : List String} {first : String → Option Entry}
    (filled : text ≠ "") (asked : s.definitions.termsWithin text n = .ok terms)
    (close : ∀ term, term ∈ terms ↔ (∃ c ∈ cards, c.entry.term = term) ∧ near term)
    (answers : ∀ term, s.definitions.firstForTerm term = .ok (first term))
    (stands : ∀ term e, first term = some e ↔
      ∃ c ∈ cards, c.entry.term = term ∧ Card.First cards c.entry ∧ c.entry = e) :
    Card.Listed cards (fun c => near c.entry.term ∧ Card.First cards c.entry)
      (s.closeEntries text n) := by
  refine ⟨terms.flatMap fun term => (first term).toList, ?_, fun e => ?_⟩
  · simp only [closeEntries, if_neg filled, asked, s.firstEntries_eq answers]
  · simp only [List.mem_flatMap, Option.mem_toList, close, stands]
    constructor
    · intro held
      rcases held with ⟨term, ⟨-, near⟩, c, member, rfl, least, rfl⟩
      exact ⟨c, member, ⟨near, least⟩, rfl⟩
    · intro held
      rcases held with ⟨c, member, ⟨near, least⟩, rfl⟩
      exact ⟨c.entry.term, ⟨⟨c, member, rfl⟩, near⟩, c, member, rfl, least, rfl⟩

/-- The lookups of the store read as if they went through the cards. Labels match if they are
`alike`, and a term is close to a text if it is `near`. -/
structure Shows (s : Store) (m : Matching) (alike near : String → String → Prop)
    (cards : List Card) : Prop where
  ids : ∀ c ∈ cards, ∀ d ∈ cards, c.entry.id = d.entry.id → c = d
  definitions : ∀ text, Card.Listed cards (fun c => Text.contains c.entry.definition text = true)
    (s.definitions.byDefinition text)
  terms : ∀ text, Card.Listed cards (fun c => Text.contains c.entry.term text = true)
    (s.definitions.byTerm text)
  close : ∀ text, text ≠ "" →
    Card.Listed cards (fun c => near text c.entry.term ∧ Card.First cards c.entry)
      (s.closeEntries text m.maxDistance)
  holds : ∀ kind name, ∃ found, (s.labels kind).holds name = .ok found ∧
    (found = true ↔ ∃ c ∈ cards, ∃ n ∈ c.labels kind, alike name n)
  labelled : ∀ kind name, Card.Listed cards (fun c => ∃ n ∈ c.labels kind, alike name n)
    ((s.labels kind).entriesWith name)
  composites : ∀ c ∈ cards, ∃ k, s.composite c.entry = .ok k ∧ k.Named ∧
    ∀ kind name, (∃ n, some n ∈ k.labels kind ∧ Text.lower n = Text.lower name) ↔
      ∃ n ∈ c.labels kind, Text.lower n = Text.lower name

namespace Shows

variable {s : Store} {m : Matching} {alike near : String → String → Prop} {cards : List Card}

theorem yield (shows : s.Shows m alike near cards) {f : Filter} (filled : f.text ≠ "") :
    Card.Listed cards (fun c => c.Fetched m alike near cards f) (s.yield m f) := by
  unfold Store.yield Card.Fetched
  cases f.kind with
  | definition => exact shows.definitions f.text
  | label kind => exact shows.labelled kind f.text
  | term =>
      cases m.termMatch with
      | substring => exact shows.terms f.text
      | fuzzy => exact shows.close f.text filled

theorem confirms (shows : s.Shows m alike near cards) (f : Filter) :
    ∃ found, s.confirms f = .ok found ∧ (found = true ↔ Card.Known alike cards f) := by
  unfold Store.confirms Card.Known
  cases f.kind with
  | label kind =>
      obtain ⟨found, answer, known⟩ := shows.holds kind f.text
      exact ⟨found, answer, by simp [known]⟩
  | definition => exact ⟨false, rfl, by simp⟩
  | term => exact ⟨false, rfl, by simp⟩

/-- A composite passes a filter just when its card does. -/
theorem passes_iff (shows : s.Shows m alike near cards) {c : Card} (member : c ∈ cards)
    {k : Composite} (made : s.composite c.entry = .ok k) (f : Filter) :
    m.passes k f = .ok true ↔ c.Passes m f := by
  obtain ⟨k', due, named, carried⟩ := shows.composites c member
  obtain rfl : k' = k := by rwa [due, Except.ok.injEq] at made
  have entry := composite_entry made
  unfold Matching.passes Card.Passes
  cases f.kind with
  | definition => simp only [entry, Except.ok.injEq]
  | term => simp only [entry, withinDistance, Except.ok.injEq, Bool.and_eq_true, decide_eq_true_eq]
  | label kind =>
      simp only [carries_of_named f.text (named kind), Except.ok.injEq, List.any_eq_true,
        decide_eq_true_eq, ← carried]
      constructor
      · intro held
        rcases held with ⟨n, inside, same⟩
        obtain ⟨n, rfl, lowered⟩ := Option.map_eq_some_iff.1 same
        exact ⟨n, inside, lowered⟩
      · intro held
        rcases held with ⟨n, inside, same⟩
        exact ⟨some n, inside, congrArg some same⟩

variable {filters : List Filter}

theorem offers_iff (shows : s.Shows m alike near cards) (filled : ∀ f ∈ filters, f.text ≠ "")
    (e : Entry) :
    s.Offers m filters e ↔
      ∃ c ∈ cards, (∃ f ∈ filters, c.Fetched m alike near cards f) ∧ c.entry = e := by
  constructor
  · intro held
    rcases held with ⟨f, member, entries, answer, inside⟩
    obtain ⟨listed, same, listing⟩ := shows.yield (filled f member)
    rw [same, Except.ok.injEq] at answer
    obtain ⟨c, known, fetched, rfl⟩ := (listing e).1 (answer ▸ inside)
    exact ⟨c, known, ⟨f, member, fetched⟩, rfl⟩
  · intro held
    rcases held with ⟨c, known, ⟨f, member, fetched⟩, rfl⟩
    obtain ⟨listed, answer, listing⟩ := shows.yield (filled f member)
    exact ⟨f, member, listed, answer, (listing c.entry).2 ⟨c, known, fetched, rfl⟩⟩

theorem keeps_iff (shows : s.Shows m alike near cards) {c : Card} (member : c ∈ cards) :
    s.Keeps m filters c.entry ↔ ∀ f ∈ filters, c.Passes m f := by
  constructor
  · intro held f inside
    rcases held with ⟨k, made, passes⟩
    exact (shows.passes_iff member made f).1 (passes f inside)
  · intro passes
    obtain ⟨k, made, -⟩ := shows.composites c member
    exact ⟨k, made, fun f inside => (shows.passes_iff member made f).2 (passes f inside)⟩

/-- A store that shows cards meets no fault at all. -/
theorem steady (shows : s.Shows m alike near cards) (filled : ∀ f ∈ filters, f.text ≠ "") :
    s.Steady m filters where
  checks := by
    intro f _ fault answer
    obtain ⟨found, due, -⟩ := shows.confirms f
    exact absurd answer (ne_error_of_ok due fault)
  lookups := by
    intro f member fault answer
    obtain ⟨entries, due, -⟩ := shows.yield (filled f member)
    exact absurd answer (ne_error_of_ok due fault)
  completes := by
    intro e offers fault answer
    obtain ⟨c, member, -, rfl⟩ := (shows.offers_iff filled e).1 offers
    obtain ⟨k, due, -⟩ := shows.composites c member
    exact absurd answer (ne_error_of_ok due fault)
  named := by
    intro e offers k answer
    obtain ⟨c, member, -, rfl⟩ := (shows.offers_iff filled e).1 offers
    obtain ⟨k', made, named, -⟩ := shows.composites c member
    rw [made, Except.ok.injEq] at answer
    exact answer ▸ named
  agrees := by
    intro d e first second same
    obtain ⟨c, member, -, rfl⟩ := (shows.offers_iff filled d).1 first
    obtain ⟨c', member', -, rfl⟩ := (shows.offers_iff filled e).1 second
    rw [shows.ids c member c' member' same]

theorem failed_eq_nil (shows : s.Shows m alike near cards) (filled : ∀ f ∈ filters, f.text ≠ "") :
    s.failed m filters = [] := by
  have steady := shows.steady filled
  refine List.eq_nil_iff_forall_not_mem.2 fun failure member => ?_
  rcases (mem_failed_iff steady failure).1 member with
    ⟨f, inside, fault, answer, -⟩ | ⟨e, offers, fault, answer, -⟩
  · obtain ⟨entries, due, -⟩ := shows.yield (filled f inside)
    exact ne_error_of_ok due fault answer
  · obtain ⟨c, inside, -, rfl⟩ := (shows.offers_iff filled e).1 offers
    obtain ⟨k, due, -⟩ := shows.composites c inside
    exact ne_error_of_ok due fault answer

theorem verify_congr (shows : s.Shows m alike near cards) {t : Store} {m' : Matching}
    {alike' near' : String → String → Prop} {cards' : List Card}
    (others : t.Shows m' alike' near' cards') {f : Filter}
    (same : Card.Known alike cards f ↔ Card.Known alike' cards' f) : s.verify f = t.verify f := by
  obtain ⟨found, answer, known⟩ := shows.confirms f
  obtain ⟨found', answer', known'⟩ := others.confirms f
  have agree : found = found' := Bool.eq_iff_iff.2 (known.trans (same.trans known'.symm))
  rw [verify, verify, answer, answer', agree]

/-- What a search finds: the entries of the cards that some filter fetches and that pass them
all. -/
theorem search (shows : s.Shows m alike near cards) (query : String) :
    ∃ entries,
      (s.search m (some query)).result =
        .ok ⟨query, (Query.parse query).map s.verify, entries, []⟩ ∧
      (entries.map (·.id)).Nodup ∧
      ∀ e, e ∈ entries ↔ ∃ c ∈ cards,
        ((∃ f ∈ Query.parse query, c.Fetched m alike near cards f) ∧
          ∀ f ∈ Query.parse query, c.Passes m f) ∧ c.entry = e := by
  have filled : ∀ f ∈ (Query.parse query).map s.verify, f.text ≠ "" := by
    intro f member
    obtain ⟨g, inside, rfl⟩ := List.mem_map.1 member
    rw [verify_text]
    exact Query.text_ne_of_mem_parse inside
  have steady := shows.steady filled
  have parsed : s.Steady m (Query.parse query) :=
    shows.steady fun f member => Query.text_ne_of_mem_parse member
  refine ⟨s.kept m ((Query.parse query).map s.verify), ?_, nodup_kept s m _, fun e => ?_⟩
  · rw [search_of_steady parsed, shows.failed_eq_nil filled]
  · rw [mem_kept_iff steady, offers_map_verify, keeps_map_verify,
      shows.offers_iff fun f member => Query.text_ne_of_mem_parse member]
    constructor
    · intro held
      rcases held with ⟨⟨c, member, fetched, rfl⟩, keeps⟩
      exact ⟨c, member, ⟨fetched, (shows.keeps_iff member).1 keeps⟩, rfl⟩
    · intro held
      rcases held with ⟨c, member, ⟨fetched, passes⟩, rfl⟩
      exact ⟨⟨c, member, fetched, rfl⟩, (shows.keeps_iff member).2 passes⟩

end Shows

end Store

end Glossary
