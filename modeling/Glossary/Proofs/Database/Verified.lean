import Glossary.Proofs.Load.Tables
import Glossary.Proofs.Text.Ascii

set_option autoImplicit false

namespace Glossary

namespace Matching

variable (m m' : Matching) {f : Filter} {filters : List Filter}

theorem passes_of_ne_term (other : f.kind ≠ .term) (c : Composite) :
    m.passes c f = m'.passes c f := by
  unfold passes
  cases kind : f.kind with
  | definition => rfl
  | label kind => rfl
  | term => exact absurd kind other

theorem passesAll_of_ne_term (others : ∀ f ∈ filters, f.kind ≠ .term) (c : Composite) :
    m.passesAll c filters = m'.passesAll c filters := by
  induction filters with
  | nil => rfl
  | cons f rest ih =>
      have later := ih fun g member => others g (List.mem_cons_of_mem f member)
      rw [passesAll, passesAll, passes_of_ne_term m m' (others f List.mem_cons_self), later]

theorem narrow_of_ne_term (others : ∀ f ∈ filters, f.kind ≠ .term) (composites : List Composite) :
    m.narrow composites filters = m'.narrow composites filters := by
  have kept : m.survivors filters composites = m'.survivors filters composites := by
    induction composites with
    | nil => rfl
    | cons c rest ih => rw [survivors, survivors, passesAll_of_ne_term m m' others, ih]
  rw [narrow, narrow, kept]

end Matching

namespace Store

variable (s : Store) (m m' : Matching) {f : Filter} {filters : List Filter}

theorem yield_of_ne_term (other : f.kind ≠ .term) : s.yield m f = s.yield m' f := by
  unfold Store.yield
  cases kind : f.kind with
  | definition => rfl
  | label kind => rfl
  | term => exact absurd kind other

theorem yieldAll_of_ne_term (others : ∀ f ∈ filters, f.kind ≠ .term) :
    s.yieldAll m filters = s.yieldAll m' filters := by
  induction filters with
  | nil => rfl
  | cons f rest ih =>
      have later := ih fun g member => others g (List.mem_cons_of_mem f member)
      rw [yieldAll, yieldAll, s.yield_of_ne_term m m' (others f List.mem_cons_self), later]

theorem find_of_ne_term (others : ∀ f ∈ filters, f.kind ≠ .term) :
    s.find m filters = s.find m' filters := by
  simp only [find, retrieve, s.yieldAll_of_ne_term m m' others,
    Matching.narrow_of_ne_term m m' others]

end Store

theorem sameLowered_iff_of_contextFree {a b : String} (first : Text.ContextFree a) (second : Text.ContextFree b) :
    SameLowered a b ↔ Text.lower b = Text.lower a := by
  rw [SameLowered, Text.lower_of_contextFree first, Text.lower_of_contextFree second, eq_comm]

namespace Store.Shows

variable {s : Store} {m : Matching} {alike near : String → String → Prop} {cards : List Card}
  {f : Filter} {kind : LabelKind}

theorem check_label (shows : s.Shows m alike near cards) (label : f.kind = .label kind) :
    ∃ known, (s.check [f]).result = .ok [{ f with verified := f.verified || known }] ∧
      (known = true ↔ ∃ c ∈ cards, ∃ n ∈ c.labels kind, alike f.text n) := by
  obtain ⟨known, answer, counted⟩ := shows.confirms f
  have outages : ∀ g ∈ [f], ∀ fault, s.confirms g = .error fault → fault.isOutage = true := by
    intro g member fault failed
    rw [List.mem_singleton.1 member, answer] at failed
    cases failed
  refine ⟨known, ?_, ?_⟩
  · rw [check, validate_eq s outages, List.map_singleton, verify, answer]
  · simp [counted, Card.Known, label]

/-- A filter for a label finds the entries of the cards that have a label that is alike, and one of
its name. -/
theorem find_label (shows : s.Shows m alike near cards) (label : f.kind = .label kind)
    (filled : f.text ≠ "") :
    ∃ found, (s.find m [f]).result = .ok (found, []) ∧
      ∀ e, e ∈ found ↔ ∃ c ∈ cards, c.entry = e ∧ (∃ n ∈ c.labels kind, alike f.text n) ∧
        ∃ n ∈ c.labels kind, Text.lower n = Text.lower f.text := by
  have texts : ∀ g ∈ [f], g.text ≠ "" := List.forall_mem_singleton.2 filled
  have steady := shows.steady texts
  have fetched : ∀ c : Card, (∃ g ∈ [f], c.Fetched m alike near cards g) ↔
      ∃ n ∈ c.labels kind, alike f.text n := by
    intro c
    simp only [List.mem_singleton, exists_eq_left, Card.Fetched, label]
  have passes : ∀ c : Card, (∀ g ∈ [f], c.Passes m g) ↔
      ∃ n ∈ c.labels kind, Text.lower n = Text.lower f.text := by
    intro c
    simp only [List.mem_singleton, forall_eq, Card.Passes, label]
  refine ⟨s.kept m [f], ?_, fun e => ?_⟩
  · rw [find_of_steady steady, shows.failed_eq_nil texts]
  · rw [mem_kept_iff steady, shows.offers_iff texts]
    constructor
    · intro held
      obtain ⟨⟨c, known, reached, rfl⟩, keeps⟩ := held
      exact ⟨c, known, rfl, (fetched c).1 reached, (passes c).1 ((shows.keeps_iff known).1 keeps)⟩
    · intro held
      obtain ⟨c, known, rfl, reached, kept⟩ := held
      exact ⟨⟨c, known, (fetched c).2 reached, rfl⟩, (shows.keeps_iff known).2 ((passes c).2 kept)⟩

end Store.Shows

/-- A filter for a label, in a file to which a sheet without absent cells was loaded. It is marked
if some entry has its label, lowered character by character; it finds the entries that have it so
lowered and lowered in context as well. So a filter that finds an entry is marked. One that is marked
finds nothing exactly if no entry with its label lowered in the one way has it lowered in the other,
which cannot be where all letters are lowered alike. -/
theorem label_search_finds_verified (file : DatabaseFile) (s : Sheet) (source : String)
    (stats : Statistics) (how : Matching) {f : Filter} {kind : LabelKind} (complete : s.Complete)
    (loaded : (Load.sheet file s source).result = .ok stats) (label : f.kind = .label kind)
    (filled : f.text ≠ "") :
    ∃ t known found, (Load.sheet file s source).file.contents = .holding t ∧
      ((Load.sheet file s source).file.toStore.check [f]).result =
        .ok [{ f with verified := f.verified || known }] ∧
      ((Load.sheet file s source).file.toStore.find how [f]).result = .ok (found, []) ∧
      (known = true ↔ ∃ c ∈ t.cards, ∃ n ∈ c.labels kind, SameLowered f.text n) ∧
      (∀ e, e ∈ found ↔ ∃ c ∈ t.cards, c.entry = e ∧
        (∃ n ∈ c.labels kind, SameLowered f.text n) ∧
        ∃ n ∈ c.labels kind, Text.lower n = Text.lower f.text) ∧
      (found ≠ [] → known = true) ∧
      (known = true → (found = [] ↔ ∀ c ∈ t.cards, (∃ n ∈ c.labels kind, SameLowered f.text n) →
        ∀ n ∈ c.labels kind, Text.lower n ≠ Text.lower f.text)) ∧
      (Text.ContextFree f.text → (∀ c ∈ t.cards, ∀ n ∈ c.labels kind, Text.ContextFree n) →
        (known = true ↔ found ≠ [])) := by
  obtain ⟨t, contents, holding⟩ := Load.holds_of_complete complete loaded
  -- No filter is for a term, so that a matching with a distance in range tells of all others.
  have shows := @DatabaseFile.shows _ _ _ contents holding {} (by decide) (by decide)
  obtain ⟨known, marked, counted⟩ := shows.check_label label
  obtain ⟨found, answer, member⟩ := shows.find_label label filled
  have other : ∀ g ∈ [f], g.kind ≠ .term := List.forall_mem_singleton.2 (by simp [label])
  have any := (Load.sheet file s source).file.toStore.find_of_ne_term how {} other
  have empty : found = [] ↔ ∀ c ∈ t.cards, (∃ n ∈ c.labels kind, SameLowered f.text n) →
      ∀ n ∈ c.labels kind, Text.lower n ≠ Text.lower f.text := by
    rw [List.eq_nil_iff_forall_not_mem]
    constructor
    · intro none c inside alike n carried same
      exact none c.entry ((member c.entry).2 ⟨c, inside, rfl, alike, n, carried, same⟩)
    · intro none e held
      obtain ⟨c, inside, -, alike, n, carried, same⟩ := (member e).1 held
      exact none c inside alike n carried same
  have verified : found ≠ [] → known = true := by
    intro filled
    obtain ⟨e, held⟩ := List.exists_mem_of_ne_nil found filled
    obtain ⟨c, inside, -, alike, -⟩ := (member e).1 held
    exact counted.2 ⟨c, inside, alike⟩
  refine ⟨t, known, found, contents, marked, by rw [any, answer], counted, member, verified,
    fun _ => empty, fun plain plainly => ⟨fun marked none => ?_, verified⟩⟩
  obtain ⟨c, inside, n, carried, alike⟩ := counted.1 marked
  have same := (sameLowered_iff_of_contextFree plain (plainly c inside n carried)).1 alike
  exact empty.1 none c inside ⟨n, carried, alike⟩ n carried same

/-- Two entries that have one tag in two spellings. -/
def harbours : Sheet where
  columns := ["id", "term", "definition", "tags"]
  rows :=
    [[some "1", some "harbour", some "A place for ships", some "Water; ships"],
     [some "2", some "dam", some "A wall", some "water"],
     [some "3", some "hill", some "A small mountain", some "land"]]

/-- The tag in a third spelling is verified, and both entries are found. -/
theorem label_search_finds_verified_harbours :
    harbours.Complete ∧
    (Load.sheet ⟨"g.duckdb", "/g.duckdb", .missing⟩ harbours "g.csv").result =
      .ok ⟨3, 4, 0, "g.csv"⟩ ∧
    ∃ found,
      ((Load.sheet ⟨"g.duckdb", "/g.duckdb", .missing⟩ harbours "g.csv").file.toStore.check
        [⟨.label .tag, "WATER", false⟩]).result = .ok [⟨.label .tag, "WATER", true⟩] ∧
      ((Load.sheet ⟨"g.duckdb", "/g.duckdb", .missing⟩ harbours "g.csv").file.toStore.find {}
        [⟨.label .tag, "WATER", false⟩]).result = .ok (found, []) ∧
      ∀ e, e ∈ found ↔ e = ⟨"1", "harbour", "A place for ships", "0"⟩ ∨
        e = ⟨"2", "dam", "A wall", "0"⟩ := by
  have complete : harbours.Complete := by simp [Sheet.Complete, harbours]
  have loaded : (Load.sheet ⟨"g.duckdb", "/g.duckdb", .missing⟩ harbours "g.csv").result =
      .ok ⟨3, 4, 0, "g.csv"⟩ := by rfl
  obtain ⟨t, known, found, contents, marked, answer, -, member, verified, -, -⟩ :=
    label_search_finds_verified _ _ _ _ {} (f := ⟨.label .tag, "WATER", false⟩) complete loaded rfl
      (by decide)
  have cards : t.cards =
      [⟨⟨"1", "harbour", "A place for ships", "0"⟩, ["Water", "ships"], []⟩,
       ⟨⟨"2", "dam", "A wall", "0"⟩, ["water"], []⟩,
       ⟨⟨"3", "hill", "A small mountain", "0"⟩, ["land"], []⟩] := by
    cases contents
    rfl
  have alone : Text.lowerEach "WATER" = "water" ∧ Text.lowerEach "Water" = "water" ∧
      Text.lowerEach "water" = "water" ∧ Text.lowerEach "land" = "land" := by decide +kernel
  have inContext : Text.lower "WATER" = "water" ∧ Text.lower "Water" = "water" ∧
      Text.lower "water" = "water" := by decide +kernel
  have all : ∀ e, e ∈ found ↔ e = ⟨"1", "harbour", "A place for ships", "0"⟩ ∨
      e = ⟨"2", "dam", "A wall", "0"⟩ := by
    intro e
    rw [member, cards]
    simp [Card.labels, SameLowered, alone, inContext, eq_comm]
  have some : found ≠ [] := List.ne_nil_of_mem ((all _).2 (Or.inl rfl))
  rw [verified some] at marked
  exact ⟨complete, loaded, found, marked, answer, all⟩

/-- A tag that begins with a dotted capital. -/
def provinces : Sheet where
  columns := ["id", "term", "definition", "tags"]
  rows := [[some "1", some "il", some "A province", some "İl"]]

def provincesFile : DatabaseFile :=
  (Load.sheet ⟨"g.duckdb", "/g.duckdb", .missing⟩ provinces "g.csv").file

/-- The tag is verified under its small spelling, and nothing is found. -/
theorem label_search_misses_verified :
    provinces.Complete ∧
    (Load.sheet ⟨"g.duckdb", "/g.duckdb", .missing⟩ provinces "g.csv").result =
      .ok ⟨1, 1, 0, "g.csv"⟩ ∧
    Query.parse "[il]" = [⟨.label .tag, "il", false⟩] ∧
    (provincesFile.toStore.check [⟨.label .tag, "il", false⟩]).result =
      .ok [⟨.label .tag, "il", true⟩] ∧
    (provincesFile.toStore.find {} [⟨.label .tag, "il", false⟩]).result = .ok ([], []) :=
  ⟨by simp [Sheet.Complete, provinces], rfl, by decide, rfl, rfl⟩

end Glossary
