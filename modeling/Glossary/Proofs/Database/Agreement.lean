import Glossary.Proofs.Load.Tables
import Glossary.Proofs.Memory.Search
import Glossary.Proofs.Text.Ascii

set_option autoImplicit false

namespace Glossary

theorem sameLower_iff_of_ascii {a b : String} (first : Text.Ascii a) (second : Text.Ascii b) :
    SameLower a b ↔ SameLowered a b := by
  rw [SameLower, SameLowered, Text.lower_of_ascii first, Text.lower_of_ascii second]

namespace Card

/-- The term and the labels are ASCII. -/
def Ascii (c : Card) : Prop :=
  Text.Ascii c.entry.term ∧ ∀ kind, ∀ n ∈ c.labels kind, Text.Ascii n

theorem passes_tidy_iff (m : Matching) (c : Card) (f : Filter) :
    c.tidy.Passes m f ↔ c.Passes m f := by
  unfold Passes
  cases f.kind with
  | definition => exact Iff.rfl
  | label kind => exact exists_label_tidy_iff c kind (Text.lower f.text)
  | term => exact Iff.rfl

theorem first_iff_of_perm {cards others : List Card} (order : others.Perm cards) (e : Entry) :
    First (others.map tidy) e ↔ First cards e := by
  simp only [First, List.forall_mem_map, entry_tidy, order.mem_iff]

theorem answers_tidy_iff {cards others : List Card} (order : others.Perm cards) (m : Matching)
    (filters : List Filter) (c : Card) :
    c.tidy.Answers m (others.map tidy) filters ↔ c.Answers m cards filters := by
  simp only [Answers, passes_tidy_iff, first_iff_of_perm order, entry_tidy]

theorem known_tidy_iff {cards others : List Card} (order : others.Perm cards) {f : Filter}
    (ascii : ∀ c ∈ cards, c.Ascii) (text : ∀ kind, f.kind = .label kind → Text.Ascii f.text) :
    Known SameLower (others.map tidy) f ↔ Known SameLowered cards f := by
  refine exists_congr fun kind => and_congr_right fun label => ?_
  have each : ∀ c ∈ cards, (∃ n ∈ c.tidy.labels kind, SameLower f.text n) ↔
      ∃ n ∈ c.labels kind, SameLowered f.text n := by
    intro c member
    have tidied := exists_label_tidy_iff c kind (Text.lower f.text)
    simp only [eq_comm (b := Text.lower f.text)] at tidied
    refine tidied.trans (exists_congr fun n => and_congr_right fun inside => ?_)
    exact sameLower_iff_of_ascii (text kind label) ((ascii c member).2 kind n inside)
  simp only [List.mem_map, exists_exists_and_eq_and, order.mem_iff]
  exact exists_congr fun c => and_congr_right fun member => each c member

end Card

theorem Query.ascii_of_mem_parse {query : String} {f : Filter} (member : f ∈ Query.parse query)
    (term : f.kind = .term) : Text.Ascii f.text := by
  cases (mem_parse_iff query f).1 member with
  | definition => cases term
  | tag => cases term
  | locale => cases term
  | term _ _ letters _ _ =>
      intro c inside
      rw [String.toList_ofList] at inside
      obtain ⟨r, range, -, upper⟩ := (Text.inRanges_iff _ c).1 (letters c inside)
      simp only [List.mem_cons, List.not_mem_nil, or_false] at range
      rcases range with rfl | rfl
      · exact Nat.lt_of_le_of_lt upper (by decide)
      · exact Nat.lt_of_le_of_lt upper (by decide)

/-- A search of a file to which a sheet without absent cells was loaded, and of a glossary in memory
to which the rows of the file were added in any order. Neither search meets a failure, and what is
found in the file is found in memory. On ASCII text they find the same and mark the filters
alike. -/
theorem search_file_within_memory (file : DatabaseFile) (s : Sheet) (source : String)
    (stats : Statistics) (how : Matching) (query : String) (complete : s.Complete)
    (loaded : (Load.sheet file s source).result = .ok stats) (nonnegative : 0 ≤ how.maxDistance)
    (below : how.maxDistance < distanceLimit) :
    ∃ t, (Load.sheet file s source).file.contents = .holding t ∧
      ∀ cards : List Card, cards.Perm t.cards → ∃ m inFile inMemory,
        Memory.after (cards.map Change.ofCard) = .ok m ∧
        ((Load.sheet file s source).file.toStore.search how (some query)).result = .ok inFile ∧
        (m.toStore.search how (some query)).result = .ok inMemory ∧
        inFile.failures = [] ∧ inMemory.failures = [] ∧
        (∀ e ∈ inFile.entries, e ∈ inMemory.entries) ∧
        ((∀ c ∈ t.cards, c.Ascii) →
          (∀ f ∈ Query.parse query, ∀ kind, f.kind = .label kind → Text.Ascii f.text) →
          (∀ e, e ∈ inFile.entries ↔ e ∈ inMemory.entries) ∧
            inFile.filters = inMemory.filters) := by
  obtain ⟨t, contents, holding⟩ := Load.holds_of_complete complete loaded
  refine ⟨t, contents, fun cards order => ?_⟩
  obtain ⟨m, made, holds⟩ := Memory.after_holds (cards.map Change.ofCard)
  rw [Change.cards_ofCard ((order.map _).nodup_iff.2 holding.ids)] at holds
  have above : -distanceLimit ≤ how.maxDistance := Int.le_trans (by decide) nonnegative
  have shownFile := DatabaseFile.shows contents holding above below
  have fits : how.maxDistance < Memory.distanceLimit := Int.lt_trans below (by decide)
  have shownMemory := holds.shows nonnegative fits
  obtain ⟨fromFile, fileAnswer, -, foundFile⟩ := shownFile.search query
  obtain ⟨fromMemory, memoryAnswer, -, foundMemory⟩ := holds.search nonnegative fits query
  have answers : ∀ e, e ∈ fromMemory ↔
      ∃ c ∈ t.cards, c.Answers how t.cards (Query.parse query) ∧ c.entry = e := by
    intro e
    simp only [foundMemory, List.mem_map, exists_exists_and_eq_and, order.mem_iff,
      Card.answers_tidy_iff order, Card.entry_tidy]
  refine ⟨m, _, _, made, fileAnswer, memoryAnswer, rfl, rfl, fun e member => ?_,
    fun ascii texts => ⟨fun e => ?_, ?_⟩⟩
  · obtain ⟨c, known, ⟨fetched, passes⟩, rfl⟩ := (foundFile e).1 member
    exact (answers _).2 ⟨c, known, Card.answers_of_fetched fetched passes, rfl⟩
  · refine (foundFile e).trans (Iff.trans ?_ (answers e).symm)
    refine exists_congr fun c => and_congr_right fun known => and_congr_left fun _ => ?_
    refine Card.fetched_and_passes_iff (fun f member kind label n carried same => ?_)
      fun f member term near => ?_
    · exact (sameLower_iff_of_ascii (texts f member kind label)
        ((ascii c known).2 kind n carried)).1 same.symm
    · have text := Query.ascii_of_mem_parse member term
      rwa [WithinBytes, byteDistance_of_ascii (ascii c known).1 text]
  · refine List.map_congr_left fun f member => ?_
    exact shownFile.verify_congr shownMemory (Card.known_tidy_iff order ascii (texts f member)).symm

/-- One entry with a tag, asked for by both. -/
theorem search_file_within_memory_tagged :
    ∃ t m inFile inMemory,
      (Load.sheet ⟨"words.db", "/words.db", .missing⟩
        ⟨["ID", "Word", "Meaning", "Tags"],
          [[some "1", some "hound", some "a dog", some "Animal; Pet"]]⟩ "words").file.contents =
        .holding t ∧
      Memory.after (t.cards.map Change.ofCard) = .ok m ∧
      ((Load.sheet ⟨"words.db", "/words.db", .missing⟩
        ⟨["ID", "Word", "Meaning", "Tags"],
          [[some "1", some "hound", some "a dog", some "Animal; Pet"]]⟩
          "words").file.toStore.search {} (some "hound [PET]")).result = .ok inFile ∧
      (m.toStore.search {} (some "hound [PET]")).result = .ok inMemory ∧
      inFile.failures = [] ∧ inMemory.failures = [] ∧
      (∀ e, e ∈ inFile.entries ↔ e ∈ inMemory.entries) ∧
      inFile.entries = [⟨"1", "hound", "a dog", "0"⟩] := by
  have loaded : (Load.sheet ⟨"words.db", "/words.db", .missing⟩
      ⟨["ID", "Word", "Meaning", "Tags"],
        [[some "1", some "hound", some "a dog", some "Animal; Pet"]]⟩ "words").result =
      .ok ⟨1, 2, 0, "words"⟩ := by rfl
  obtain ⟨t, contents, searches⟩ := search_file_within_memory _ _ _ _ {} "hound [PET]"
    (by simp [Sheet.Complete]) loaded (by decide) (by decide)
  obtain ⟨m, inFile, inMemory, made, fileAnswer, memoryAnswer, noneFailed, noneLost, -, ascii⟩ :=
    searches t.cards (List.Perm.refl _)
  have cards : t.cards = [⟨⟨"1", "hound", "a dog", "0"⟩, ["Animal", "Pet"], []⟩] := by
    cases contents
    rfl
  have same := (ascii ?_ ?_).1
  · refine ⟨t, m, inFile, inMemory, contents, made, fileAnswer, memoryAnswer, noneFailed, noneLost,
      same, ?_⟩
    cases fileAnswer
    rfl
  · rw [cards, List.forall_mem_singleton]
    exact ⟨by decide, fun kind => by cases kind <;> decide⟩
  · have parsed : Query.parse "hound [PET]" =
        [⟨.label .tag, "PET", false⟩, ⟨.term, "hound", false⟩] := by decide
    simp only [parsed, List.forall_mem_cons]
    exact ⟨fun _ _ => by decide, fun _ _ => by decide, fun _ none => nomatch none⟩

end Glossary
