import Mathlib.Data.List.Nodup
import Glossary.Database.Lookup
import Glossary.Proofs.Search.Shown

set_option autoImplicit false

namespace Glossary

def Entry.toRow (e : Entry) : EntryRow := ⟨some e.id, some e.term, some e.definition, some e.rank⟩

@[simp] theorem Entry.term_toRow (e : Entry) : e.toRow.term = some e.term := rfl

@[simp] theorem bothHold_some (compare : String → String → Bool) (a b : String) :
    bothHold compare (some a) (some b) = compare a b := rfl

/-- The tables hold the cards: every entry has its row, in order, and every label of an entry has
one. -/
structure Tables.Holds (t : Tables) (cards : List Card) : Prop where
  ids : (cards.map (·.entry.id)).Nodup
  entries : t.entries = some (cards.map (·.entry.toRow))
  labels : ∀ kind, ∃ rows, t.labels kind = some rows ∧
    ∀ l, l ∈ rows ↔ ∃ c ∈ cards, ∃ n ∈ c.labels kind, l = ⟨some c.entry.id, some n⟩

/-- The names that the rows of a kind give to an id. -/
def Tables.names (t : Tables) (kind : LabelKind) (id : Option String) : List String :=
  ((t.labels kind).getD []).filterMap fun l => if l.id = id then l.name else none

/-- The entry of a row, with the names that its id has in the tables of labels. -/
def Tables.card (t : Tables) (r : EntryRow) : Card :=
  ⟨r.toEntry, t.names .tag r.id, t.names .locale r.id⟩

/-- The cards of all rows of the table of entries. -/
def Tables.cards (t : Tables) : List Card := (t.entries.getD []).map t.card

theorem Tables.labels_card (t : Tables) (r : EntryRow) (kind : LabelKind) :
    (t.card r).labels kind = t.names kind r.id := by
  cases kind <;> rfl

theorem Tables.mem_names_iff {t : Tables} {kind : LabelKind} {rows : List LabelRow}
    (table : t.labels kind = some rows) (id : Option String) (n : String) :
    n ∈ t.names kind id ↔ ⟨id, some n⟩ ∈ rows := by
  simp only [names, table, Option.getD_some, List.mem_filterMap]
  constructor
  · intro held
    rcases held with ⟨⟨id', name⟩, member, same⟩
    split at same
    · rename_i alike
      subst alike same
      exact member
    · cases same
  · intro member
    exact ⟨_, member, if_pos rfl⟩

/-- Tables without absent cells hold their cards, if no two entries have one id and every label
belongs to an entry. -/
theorem Tables.holds_cards {t : Tables} {rows : List EntryRow} (table : t.entries = some rows)
    (whole : ∀ r ∈ rows, r.toEntry.toRow = r) (ids : (rows.map (·.id)).Nodup)
    (labels : ∀ kind, ∃ labels, t.labels kind = some labels ∧
      ∀ l ∈ labels, (∃ n, l.name = some n) ∧ ∃ r ∈ rows, r.id = l.id) : t.Holds t.cards := by
  have cards : t.cards = rows.map t.card := by rw [Tables.cards, table, Option.getD_some]
  have known : ∀ r ∈ rows, r.id = some (t.card r).entry.id := fun r member =>
    congrArg EntryRow.id (whole r member).symm
  rw [cards]
  refine ⟨?_, ?_, fun kind => ?_⟩
  · have same : rows.map (·.id) = ((rows.map t.card).map (·.entry.id)).map some := by
      rw [List.map_map, List.map_map]
      exact List.map_congr_left known
    rw [same] at ids
    exact ids.of_map
  · rw [table, List.map_map]
    exact congrArg some ((List.map_congr_left whole).trans (List.map_id rows)).symm
  · obtain ⟨labelRows, labelTable, named⟩ := labels kind
    refine ⟨labelRows, labelTable, fun l => ?_⟩
    simp only [List.mem_map, exists_exists_and_eq_and, labels_card, mem_names_iff labelTable]
    constructor
    · intro member
      obtain ⟨⟨n, name⟩, r, inside, same⟩ := named l member
      have row : l = ⟨r.id, some n⟩ := by rw [same, ← name]
      refine ⟨r, inside, n, row ▸ member, ?_⟩
      rw [row, ← known r inside]
    · intro held
      rcases held with ⟨r, inside, n, member, rfl⟩
      rwa [← known r inside]

theorem Tables.Holds.eq_of_id {t : Tables} {cards : List Card} (holds : t.Holds cards) {c d : Card}
    (first : c ∈ cards) (second : d ∈ cards) (same : c.entry.id = d.entry.id) : c = d :=
  List.inj_on_of_nodup_map holds.ids first second same

theorem cellBefore_total (a b : Option String) :
    cellBefore a b = true ∨ cellBefore b a = true := by
  cases a <;> cases b <;> simp [cellBefore, String.le_total]

theorem cellBefore_trans (a b c : Option String) (first : cellBefore a b = true)
    (second : cellBefore b c = true) : cellBefore a c = true := by
  revert first second
  cases a <;> cases b <;> cases c <;> simp [cellBefore]
  exact String.le_trans

def SameLowered (a b : String) : Prop := Text.lowerEach a = Text.lowerEach b

/-- The term is at most `maxDistance` edits of bytes away from the text. -/
def WithinBytes (maxDistance : Int) (text term : String) : Prop :=
  (byteDistance term text : Int) ≤ maxDistance

/-- A distance that can be asked for needs no more than the first width. -/
theorem width?_eq {n : Int} (above : -distanceLimit ≤ n) (below : n < distanceLimit) :
    width? n = some "INT64" := by
  simp only [distanceLimit] at above below
  have wide : (decide (-9223372036854775808 ≤ n) && decide (n < 9223372036854775808)) = true := by
    simp only [Bool.and_eq_true, decide_eq_true_eq]
    omega
  simp only [width?, wideLimits, List.find?_cons, wide, Option.map_some]

namespace DatabaseFile

variable {file : DatabaseFile} {t : Tables} {cards : List Card}

theorem labels_toStore (file : DatabaseFile) (kind : LabelKind) :
    file.toStore.labels kind = file.labelStore kind := by
  cases kind <;> rfl

theorem exists_labelsOf {kind : LabelKind} {rows : List LabelRow}
    (table : file.labelRows kind = .ok rows) (id : Option String) :
    ∃ names, file.labelsOf kind id = .ok names := by
  rw [labelsOf, table]
  exact ⟨_, rfl⟩

theorem exists_labelled {kind : LabelKind} {rows : List EntryRow} {labels : List LabelRow}
    (entries : file.entryRows = .ok rows) (table : file.labelRows kind = .ok labels)
    (name : Option String) : ∃ found, file.labelled kind name = .ok found := by
  rw [labelled, entries, Except.bind, table]
  exact ⟨_, rfl⟩

/-- The rows that pass a test, as entries, are those of the cards that fit it. -/
theorem listed_rows {fits : Card → Prop} {rows : List EntryRow}
    (member : ∀ r, r ∈ rows ↔ ∃ c ∈ cards, fits c ∧ c.entry.toRow = r) :
    Card.Listed cards fits (.ok ((orderedRows rows).map (·.toEntry))) := by
  refine ⟨_, rfl, fun e => ?_⟩
  simp only [List.mem_map, orderedRows, mem_sortBy, member]
  constructor
  · intro held
    rcases held with ⟨-, ⟨c, known, fit, rfl⟩, rfl⟩
    exact ⟨c, known, fit, rfl⟩
  · intro held
    rcases held with ⟨c, known, fit, rfl⟩
    exact ⟨c.entry.toRow, ⟨c, known, fit, rfl⟩, rfl⟩

theorem mem_filter_rows_iff {test : EntryRow → Bool} (r : EntryRow) :
    r ∈ (cards.map (·.entry.toRow)).filter test ↔
      ∃ c ∈ cards, test c.entry.toRow = true ∧ c.entry.toRow = r := by
  simp only [List.mem_filter, List.mem_map]
  constructor
  · intro held
    rcases held with ⟨⟨c, known, rfl⟩, passed⟩
    exact ⟨c, known, passed, rfl⟩
  · intro held
    rcases held with ⟨c, known, passed, rfl⟩
    exact ⟨⟨c, known, rfl⟩, passed⟩

variable (holding : file.contents = .holding t) (holds : t.Holds cards)

section

include holding

theorem tables_eq : file.tables = .ok t := by
  rw [tables, holding]

theorem entryRows_of_table {rows : List EntryRow} (table : t.entries = some rows) :
    file.entryRows = .ok rows := by
  rw [entryRows, tables_eq holding, Except.bind, table]
  rfl

theorem labelRows_of_table {kind : LabelKind} {rows : List LabelRow}
    (table : t.labels kind = some rows) : file.labelRows kind = .ok rows := by
  rw [labelRows, tables_eq holding, Except.bind, table]
  rfl

end

include holding holds

theorem entryRows_eq : file.entryRows = .ok (cards.map (·.entry.toRow)) :=
  entryRows_of_table holding holds.entries

theorem labelRows_eq (kind : LabelKind) :
    ∃ rows, file.labelRows kind = .ok rows ∧
      ∀ l, l ∈ rows ↔ ∃ c ∈ cards, ∃ n ∈ c.labels kind, l = ⟨some c.entry.id, some n⟩ := by
  obtain ⟨rows, table, member⟩ := holds.labels kind
  exact ⟨rows, labelRows_of_table holding table, member⟩

theorem listed_byDefinition (text : String) :
    Card.Listed cards (fun c => Text.contains c.entry.definition text = true)
      (file.byDefinition (some text)) := by
  rw [byDefinition, entryRows_eq holding holds]
  exact listed_rows mem_filter_rows_iff

theorem listed_withTerm (text : String) :
    Card.Listed cards (fun c => Text.contains c.entry.term text = true)
      (file.withTerm (some text)) := by
  rw [withTerm, entryRows_eq holding holds]
  exact listed_rows mem_filter_rows_iff

theorem firstForTerm_eq (term : String) :
    ∃ first, file.firstForTerm (some term) = .ok first ∧ ∀ e, first = some e ↔
      ∃ c ∈ cards, c.entry.term = term ∧ Card.First cards c.entry ∧ c.entry = e := by
  obtain ⟨rows, filtered⟩ : ∃ rows, rows = (cards.map (·.entry.toRow)).filter
    fun r => bothHold (fun a b => decide (a = b)) r.term (some term) := ⟨_, rfl⟩
  have answer : file.firstForTerm (some term) =
      .ok ((orderedRows rows).map (·.toEntry)).head? := by
    rw [firstForTerm, entryRows_eq holding holds, filtered]
    rfl
  have member : ∀ r, r ∈ rows ↔ ∃ c ∈ cards, c.entry.term = term ∧ c.entry.toRow = r := by
    intro r
    rw [filtered, mem_filter_rows_iff]
    simp only [Entry.term_toRow, bothHold_some, decide_eq_true_eq]
  have tells : ∀ a ∈ rows, ∀ b ∈ rows, cellBefore a.id b.id = true →
      cellBefore b.id a.id = true → a = b := by
    intro a first b second ahead behind
    obtain ⟨c, known, -, rfl⟩ := (member a).1 first
    obtain ⟨d, inside, -, rfl⟩ := (member b).1 second
    have same := String.le_antisymm (of_decide_eq_true ahead) (of_decide_eq_true behind)
    rw [holds.eq_of_id known inside same]
  have head : ∀ r, (orderedRows rows).head? = some r ↔
      r ∈ rows ∧ ∀ q ∈ rows, cellBefore r.id q.id = true := fun r =>
    head?_sortBy_eq_some_iff (fun a b => cellBefore_total a.id b.id)
      (fun a b c => cellBefore_trans a.id b.id c.id) tells
  refine ⟨_, answer, fun e => ?_⟩
  rw [List.head?_map, Option.map_eq_some_iff]
  simp only [head]
  constructor
  · intro held
    rcases held with ⟨r, ⟨inside, least⟩, rfl⟩
    obtain ⟨c, known, same, rfl⟩ := (member r).1 inside
    refine ⟨c, known, same, fun d other alike => ?_, rfl⟩
    exact of_decide_eq_true (least d.entry.toRow ((member _).2 ⟨d, other, alike.trans same, rfl⟩))
  · intro held
    rcases held with ⟨c, known, same, first, rfl⟩
    refine ⟨c.entry.toRow, ⟨(member _).2 ⟨c, known, same, rfl⟩, fun q inside => ?_⟩, rfl⟩
    obtain ⟨d, other, alike, rfl⟩ := (member q).1 inside
    exact decide_eq_true (first d other (alike.trans same.symm))

theorem termsWithin_eq (text : String) {n : Int} (above : -distanceLimit ≤ n)
    (below : n < distanceLimit) :
    file.termsWithin (some text) (some n) = .ok (sortBy (fun a b => decide (a ≤ b))
      (distinctOn id (closeTerms (cards.map (·.entry.toRow)) (some text) n))) := by
  have rows : termsOf (cards.map (·.entry.toRow)) (some text) n "INT64" =
      .ok (sortBy (fun a b => decide (a ≤ b))
        (distinctOn id (closeTerms (cards.map (·.entry.toRow)) (some text) n))) := by
    rw [termsOf, if_pos (Or.inl ⟨above, below⟩)]
  rw [termsWithin, tables_eq holding]
  simp only [Except.bind, width?_eq above below, holds.entries, rowsOf, rows]
  rfl

theorem exists_termsWithin (text : String) {n : Int} (above : -distanceLimit ≤ n)
    (below : n < distanceLimit) :
    ∃ terms, file.termsWithin (some text) (some n) = .ok terms ∧ terms.Pairwise (· < ·) ∧
      ∀ term, term ∈ terms ↔ (∃ c ∈ cards, c.entry.term = term) ∧ WithinBytes n text term := by
  refine ⟨_, termsWithin_eq holding holds text above below,
    pairwise_lt_sortBy (pairwise_distinctOn id _), fun term => ?_⟩
  have kept : term ∈ distinctOn id (closeTerms (cards.map (·.entry.toRow)) (some text) n) ↔
      term ∈ closeTerms (cards.map (·.entry.toRow)) (some text) n :=
    mem_distinctOn_iff fun _ _ _ _ same => same
  rw [mem_sortBy, kept, closeTerms, List.mem_filterMap]
  simp only [mem_filter_rows_iff]
  constructor
  · intro held
    rcases held with ⟨-, ⟨c, known, near, rfl⟩, same⟩
    obtain rfl : c.entry.term = term := by simpa using same
    have close : (byteDistance c.entry.term text : Int) ≤ n := of_decide_eq_true near
    exact ⟨⟨c, known, rfl⟩, close⟩
  · intro held
    rcases held with ⟨⟨c, known, rfl⟩, near⟩
    have close : decide ((byteDistance c.entry.term text : Int) ≤ n) = true := by
      rwa [decide_eq_true_eq]
    exact ⟨c.entry.toRow, ⟨c, known, close, rfl⟩, rfl⟩

theorem holdsLabel_eq (kind : LabelKind) (name : String) :
    ∃ found, file.holdsLabel kind (some name) = .ok found ∧
      (found = true ↔ ∃ c ∈ cards, ∃ n ∈ c.labels kind, SameLowered name n) := by
  obtain ⟨rows, table, member⟩ := labelRows_eq holding holds kind
  refine ⟨_, by rw [holdsLabel, table]; rfl, ?_⟩
  simp only [List.any_eq_true, member]
  constructor
  · intro held
    rcases held with ⟨-, ⟨c, known, n, inside, rfl⟩, same⟩
    exact ⟨c, known, n, inside, (of_decide_eq_true same).symm⟩
  · intro held
    rcases held with ⟨c, known, n, inside, same⟩
    exact ⟨_, ⟨c, known, n, inside, rfl⟩, decide_eq_true same.symm⟩

theorem listed_labelled (kind : LabelKind) (name : String) :
    Card.Listed cards (fun c => ∃ n ∈ c.labels kind, SameLowered name n)
      (file.labelled kind (some name)) := by
  obtain ⟨rows, table, member⟩ := labelRows_eq holding holds kind
  rw [labelled, entryRows_eq holding holds, Except.bind, table]
  refine listed_rows fun r => ?_
  rw [mem_distinctOn_iff fun _ _ _ _ same => same, mem_filter_rows_iff]
  refine exists_congr fun c => and_congr_right fun known => and_congr_left fun _ => ?_
  simp only [List.any_eq_true, List.mem_map, List.mem_filter, member]
  constructor
  · intro held
    rcases held with ⟨-, ⟨-, ⟨⟨d, inside, n, carried, rfl⟩, alike⟩, rfl⟩, same⟩
    obtain rfl := holds.eq_of_id inside known (of_decide_eq_true same)
    exact ⟨n, carried, (of_decide_eq_true alike).symm⟩
  · intro held
    rcases held with ⟨n, carried, alike⟩
    exact ⟨_, ⟨_, ⟨⟨c, known, n, carried, rfl⟩, decide_eq_true alike.symm⟩, rfl⟩,
      decide_eq_true rfl⟩

theorem labelsOf_eq {c : Card} (known : c ∈ cards) (kind : LabelKind) :
    ∃ names, file.labelsOf kind (some c.entry.id) = .ok names ∧
      ∀ name, name ∈ names ↔ ∃ n ∈ c.labels kind, name = some n := by
  obtain ⟨rows, table, member⟩ := labelRows_eq holding holds kind
  refine ⟨_, by rw [labelsOf, table]; rfl, fun name => ?_⟩
  rw [mem_sortBy, mem_distinctOn_iff fun _ _ _ _ same => same, List.mem_map]
  simp only [List.mem_filter, member]
  constructor
  · intro held
    rcases held with ⟨-, ⟨⟨d, inside, n, carried, rfl⟩, same⟩, rfl⟩
    obtain rfl := holds.eq_of_id inside known (of_decide_eq_true same)
    exact ⟨n, carried, rfl⟩
  · intro held
    rcases held with ⟨n, carried, rfl⟩
    exact ⟨_, ⟨⟨c, known, n, carried, rfl⟩, decide_eq_true rfl⟩, rfl⟩

/-- A file with tables that hold cards shows them. -/
theorem shows {how : Matching} (above : -distanceLimit ≤ how.maxDistance)
    (below : how.maxDistance < distanceLimit) :
    file.toStore.Shows how SameLowered (WithinBytes how.maxDistance) cards where
  ids := fun _ first _ second same => holds.eq_of_id first second same
  definitions := listed_byDefinition holding holds
  terms := listed_withTerm holding holds
  close := by
    intro text filled
    obtain ⟨terms, asked, -, close⟩ := exists_termsWithin holding holds text above below
    have firsts := firstForTerm_eq holding holds
    choose first answers stands using firsts
    exact Store.listed_closeEntries filled asked close answers stands
  holds := by
    intro kind name
    rw [labels_toStore]
    exact holdsLabel_eq holding holds kind name
  labelled := by
    intro kind name
    rw [labels_toStore]
    exact listed_labelled holding holds kind name
  composites := by
    intro c known
    obtain ⟨tags, tagsAnswer, tagged⟩ := labelsOf_eq holding holds known .tag
    obtain ⟨locales, localesAnswer, located⟩ := labelsOf_eq holding holds known .locale
    have made : file.toStore.composite c.entry = .ok ⟨c.entry, tags, locales⟩ :=
      Store.composite_of_namesOf tagsAnswer localesAnswer
    have names : ∀ kind name, name ∈ (Composite.mk c.entry tags locales).labels kind ↔
        ∃ n ∈ c.labels kind, name = some n := by
      intro kind name
      cases kind with
      | tag => exact tagged name
      | locale => exact located name
    refine ⟨_, made, fun kind absent => ?_, fun kind name => ?_⟩
    · obtain ⟨n, -, impossible⟩ := (names kind none).1 absent
      cases impossible
    · simp only [names, Option.some.injEq, exists_eq_right']

end DatabaseFile

end Glossary
