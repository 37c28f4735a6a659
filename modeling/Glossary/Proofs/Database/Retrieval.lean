import Glossary.Proofs.Load.Tables

set_option autoImplicit false

namespace Glossary

namespace Card

/-- The filter fetches from a file a card that passes it and stands for its term: a label is alike
when each of its characters is lowered, and a term that is matched by distance is near in bytes. -/
def Reached (m : Matching) (c : Card) (f : Filter) : Prop :=
  match f.kind with
  | .definition => True
  | .label kind => ∃ n ∈ c.labels kind, SameLowered f.text n
  | .term => m.termMatch = .fuzzy → WithinBytes m.maxDistance f.text c.entry.term

theorem fetched_iff_reached {m : Matching} {cards : List Card} {c : Card} {f : Filter}
    (passes : c.Passes m f) (first : First cards c.entry) :
    c.Fetched m SameLowered (WithinBytes m.maxDistance) cards f ↔ c.Reached m f := by
  revert passes
  unfold Passes Fetched Reached
  cases f.kind with
  | definition => exact fun passes => iff_of_true passes trivial
  | label kind => exact fun _ => Iff.rfl
  | term =>
      intro passes
      cases way : m.termMatch with
      | substring => exact iff_of_true passes.2 nofun
      | fuzzy => simp [first]

end Card

/-- A search of a file to which a sheet without absent cells was loaded. Of the entries that pass
all filters of the query and have the least id of their term it finds those that some filter
reaches; an entry that none reaches is not found, and no failure tells of it. -/
theorem search_file_finds_reached (file : DatabaseFile) (s : Sheet) (source : String)
    (stats : Statistics) (how : Matching) (query : String) (complete : s.Complete)
    (loaded : (Load.sheet file s source).result = .ok stats) (nonnegative : 0 ≤ how.maxDistance)
    (below : how.maxDistance < distanceLimit) :
    ∃ t found, (Load.sheet file s source).file.contents = .holding t ∧
      ((Load.sheet file s source).file.toStore.search how (some query)).result = .ok found ∧
      found.failures = [] ∧
      ∀ c ∈ t.cards,
        (Load.sheet file s source).file.toStore.Keeps how (Query.parse query) c.entry →
        Card.First t.cards c.entry →
        (c.entry ∈ found.entries ↔ ∃ f ∈ Query.parse query, c.Reached how f) := by
  obtain ⟨t, contents, holding⟩ := Load.holds_of_complete complete loaded
  have above : -distanceLimit ≤ how.maxDistance := Int.le_trans (by decide) nonnegative
  have shows := DatabaseFile.shows contents holding above below
  obtain ⟨entries, answer, -, member⟩ := shows.search query
  refine ⟨t, _, contents, answer, rfl, fun c known keeps first => ?_⟩
  have passes := (shows.keeps_iff known).1 keeps
  have reached : ∀ f ∈ Query.parse query,
      (c.Fetched how SameLowered (WithinBytes how.maxDistance) t.cards f ↔ c.Reached how f) :=
    fun f inside => Card.fetched_iff_reached (passes f inside) first
  rw [member]
  constructor
  · intro held
    obtain ⟨d, other, ⟨⟨f, inside, fetched⟩, -⟩, same⟩ := held
    obtain rfl := holding.eq_of_id other known (congrArg Entry.id same)
    exact ⟨f, inside, (reached f inside).1 fetched⟩
  · intro held
    obtain ⟨f, inside, reaches⟩ := held
    exact ⟨c, known, ⟨⟨f, inside, (reached f inside).2 reaches⟩, passes⟩, rfl⟩

/-- Two entries with one tag in two spellings; in capitals it does not end in a final sigma. -/
def spellings : Sheet where
  columns := ["id", "term", "definition", "tags"]
  rows :=
    [[some "1", some "word", some "what is said", some "λόγος"],
     [some "2", some "reason", some "why it is said", some "ΛΌΓΟΣ"]]

def spellingsFile : DatabaseFile :=
  (Load.sheet ⟨"g.duckdb", "/g.duckdb", .missing⟩ spellings "g.csv").file

/-- Both entries pass the filter for the tag, but only the one with its final sigma is reached. -/
theorem search_file_finds_reached_spellings :
    spellings.Complete ∧ ∃ found,
      (spellingsFile.toStore.search {} (some "[λόγος]")).result = .ok found ∧
      spellingsFile.toStore.Keeps {} (Query.parse "[λόγος]") ⟨"1", "word", "what is said", "0"⟩ ∧
      spellingsFile.toStore.Keeps {} (Query.parse "[λόγος]")
        ⟨"2", "reason", "why it is said", "0"⟩ ∧
      ⟨"1", "word", "what is said", "0"⟩ ∈ found.entries ∧
      ⟨"2", "reason", "why it is said", "0"⟩ ∉ found.entries := by
  have complete : spellings.Complete := by simp [Sheet.Complete, spellings]
  have loaded : (Load.sheet ⟨"g.duckdb", "/g.duckdb", .missing⟩ spellings "g.csv").result =
      .ok ⟨2, 2, 0, "g.csv"⟩ := by rfl
  obtain ⟨t, found, contents, answer, -, finds⟩ := search_file_finds_reached _ _ _ _ {} "[λόγος]"
    complete loaded (by decide) (by decide)
  have cards : t.cards =
      [⟨⟨"1", "word", "what is said", "0"⟩, ["λόγος"], []⟩,
       ⟨⟨"2", "reason", "why it is said", "0"⟩, ["ΛΌΓΟΣ"], []⟩] := by
    cases contents
    rfl
  have parsed : Query.parse "[λόγος]" = [⟨.label .tag, "λόγος", false⟩] := by decide
  have lowered : Text.lower "ΛΌΓΟΣ" = Text.lower "λόγος" := by decide +kernel
  have apart : Text.lowerEach "λόγος" ≠ Text.lowerEach "ΛΌΓΟΣ" := by decide +kernel
  have small : spellingsFile.toStore.Keeps {} (Query.parse "[λόγος]")
      ⟨"1", "word", "what is said", "0"⟩ := by
    rw [parsed]
    exact ⟨⟨_, [some "λόγος"], []⟩, rfl, by simp [Matching.passes, Composite.labels, carries]⟩
  have capital : spellingsFile.toStore.Keeps {} (Query.parse "[λόγος]")
      ⟨"2", "reason", "why it is said", "0"⟩ := by
    rw [parsed]
    exact ⟨⟨_, [some "ΛΌΓΟΣ"], []⟩, rfl, by simp [Matching.passes, Composite.labels, carries, lowered]⟩
  rw [cards] at finds
  have first := finds _ List.mem_cons_self small (by simp [Card.First])
  have second := finds _ (List.mem_cons_of_mem _ List.mem_cons_self) capital (by simp [Card.First])
  simp only [parsed, List.mem_singleton, exists_eq_left] at first second
  refine ⟨complete, found, answer, small, capital, ?_, ?_⟩
  · exact first.2 ⟨"λόγος", List.mem_singleton_self _, rfl⟩
  · intro member
    obtain ⟨n, inside, same⟩ := second.1 member
    rw [List.mem_singleton.1 inside] at same
    exact apart same

/-- An entry whose term is three edits of characters away from the text, but six of bytes. -/
def accents : Sheet where
  columns := ["id", "term", "definition"]
  rows := [[some "1", some "damééé", some "A name"]]

def accentsFile : DatabaseFile :=
  (Load.sheet ⟨"g.duckdb", "/g.duckdb", .missing⟩ accents "g.csv").file

/-- The only entry passes the only filter, and a search without failures does not find it. -/
theorem search_file_misses_accents :
    accents.Complete ∧
    (Load.sheet ⟨"g.duckdb", "/g.duckdb", .missing⟩ accents "g.csv").result =
      .ok ⟨1, 0, 0, "g.csv"⟩ ∧
    accentsFile.contents = .holding
      ⟨some [⟨some "1", some "damééé", some "A name", some "0"⟩], some [], some []⟩ ∧
    Query.parse "dam" = [⟨.term, "dam", false⟩] ∧
    accentsFile.toStore.Keeps {} (Query.parse "dam") ⟨"1", "damééé", "A name", "0"⟩ ∧
    (accentsFile.toStore.search {} (some "dam")).result =
      .ok ⟨"dam", [⟨.term, "dam", false⟩], [], []⟩ := by
  have parsed : Query.parse "dam" = [⟨.term, "dam", false⟩] := by decide
  refine ⟨by simp [Sheet.Complete, accents], rfl, rfl, parsed, ?_, rfl⟩
  rw [parsed]
  exact ⟨⟨_, [], []⟩, rfl, List.forall_mem_singleton.2 rfl⟩

end Glossary
