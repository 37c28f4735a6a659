import Mathlib.Data.List.Sort
import Glossary.Proofs.Load.Tables
import Glossary.Proofs.Memory.Scan
import Glossary.Proofs.Text.Ascii
import Glossary.Proofs.Text.Utf8

set_option autoImplicit false

namespace Glossary

namespace Text

variable {x y : UInt8} {s t p q trail other : List UInt8} {a b : List Char} {c d : Char}

/-- One edit of a character does for all edits of its bytes. -/
theorem distance_cons_cons_le_of_encodes {n : Nat} (first : Encodes c x trail)
    (second : Encodes d y other) (near : distance a b ≤ n)
    (nearer : trail.length = other.length → trail ≠ other → distance a b + 1 ≤ n) :
    distance (c :: a) (d :: b) ≤ n + replaceCost x y := by
  have change := distance_cons_cons_le c d a b
  have most := replaceCost_le c d
  by_cases leads : x = y
  · subst leads
    by_cases trails : trail = other
    · subst trails
      have kept : replaceCost c d = 0 := if_pos (first.char_eq second)
      omega
    · have less := nearer (first.length_eq second) trails
      omega
  · have cost : replaceCost x y = 1 := if_neg leads
    omega

/-- Texts are no farther apart than their bytes from some places on. They are nearer than these if
the characters that were cut have as many bytes to come, but other ones. -/
theorem EncodedTail.distance_le (one : EncodedTail s p a) (two : EncodedTail t q b) :
    distance a b ≤ distance s t ∧
      (p.length = q.length → p ≠ q → distance a b + 1 ≤ distance s t) := by
  -- By the recursion on the bytes. The second part is what carries it: once the first bytes of two
  -- characters agree, the edits of their other bytes pay for the one edit of the character.
  induction s, t using distance.induct generalizing p q a b with
  | case1 t =>
      obtain ⟨rfl, rfl⟩ := one.eq_nil
      have shorter := two.length_le
      rw [distance, distance]
      refine ⟨shorter, fun lengths differ => ?_⟩
      exact absurd (List.length_eq_zero_iff.1 lengths.symm).symm differ
  | case2 s =>
      obtain ⟨rfl, rfl⟩ := two.eq_nil
      have shorter := one.length_le
      rw [distance_nil_right, distance_nil_right]
      refine ⟨shorter, fun lengths differ => ?_⟩
      exact absurd (List.length_eq_zero_iff.1 lengths) differ
  | case3 x s y t replaced deleted inserted =>
      rw [distance]
      rcases one.cons_cases with ⟨p, rfl, inner, rest⟩ | ⟨c, trail, a, rfl, rfl, first, rest⟩
      · have left := (deleted rest two).1
        rcases two.cons_cases with ⟨q, rfl, -, others⟩ | ⟨d, other, b, rfl, rfl, second, others⟩
        · have right := (inserted one others).1
          have both := replaced rest others
          refine ⟨by omega, fun lengths differ => ?_⟩
          by_cases same : x = y
          · have behind : p ≠ q := fun equal => differ (by rw [same, equal])
            have nearer := both.2 (Nat.succ.inj lengths) behind
            omega
          · have cost : replaceCost x y = 1 := if_neg same
            omega
        · -- A byte inside a character is never the first one of another.
          have apart : x ≠ y := fun same => inner (same ▸ second.leading)
          have cost : replaceCost x y = 1 := if_neg apart
          have right := (inserted one others).1
          have both := (replaced rest others).1
          have longer := distance_le_cons a d b
          exact ⟨by omega, fun lengths => absurd lengths (Nat.succ_ne_zero _)⟩
      · have left := (deleted rest two).1
        have longer := distance_cons_le c a b
        rcases two.cons_cases with ⟨q, rfl, inner, others⟩ | ⟨d, other, b, rfl, rfl, second, others⟩
        · have apart : x ≠ y := fun same => inner (same ▸ first.leading)
          have cost : replaceCost x y = 1 := if_neg apart
          have right := (inserted one others).1
          have both := (replaced rest others).1
          exact ⟨by omega, fun lengths => absurd lengths.symm (Nat.succ_ne_zero _)⟩
        · have right := (inserted one others).1
          have later := distance_le_cons (c :: a) d b
          have both := replaced rest others
          have change := distance_cons_cons_le_of_encodes first second both.1 both.2
          exact ⟨by omega, fun _ differ => absurd rfl differ⟩

end Text

/-- There are never more edits of characters than of bytes. -/
theorem textDistance_le_byteDistance (a b : String) : textDistance a b ≤ byteDistance a b := by
  rw [textDistance, byteDistance, editDistance_eq_distance, editDistance_eq_distance]
  exact ((Text.EncodedTail.whole a.toList).distance_le (Text.EncodedTail.whole b.toList)).1

theorem withinEdits_of_withinBytes {n : Int} {text term : String}
    (near : WithinBytes n text term) : WithinEdits n text term := by
  have fewer := textDistance_le_byteDistance term text
  rw [WithinBytes] at near
  rw [WithinEdits, textDistance_comm]
  omega

theorem withinBytes_iff_of_ascii {n : Int} {text term : String} (first : Text.Ascii text)
    (second : Text.Ascii term) : WithinBytes n text term ↔ WithinEdits n text term := by
  rw [WithinBytes, WithinEdits, textDistance_comm, byteDistance_of_ascii second first]

/-- A list in ascending order whose texts are all in another one is left of that when some of its
texts are taken out. -/
theorem sublist_of_ascending {xs ys : List String} (first : xs.Pairwise (· < ·))
    (second : ys.Pairwise (· < ·)) (within : ∀ x ∈ xs, x ∈ ys) : xs.Sublist ys := by
  have distinct : xs.Nodup := first.imp String.ne_of_lt
  have part : xs.Subperm ys := List.subperm_of_subset distinct within
  exact List.sublist_of_subperm_of_pairwise part first second

/-- The terms close to a text in a file to which a sheet without absent cells was loaded, and in a
glossary in memory that holds the entries of the file, whatever it was made of and whatever changes
were made to it. The file has some of the terms that the memory has, in the same order, which is
that of their bytes as well. On ASCII text it has them all. -/
theorem closeTerms_sublist (file : DatabaseFile) (s : Sheet) (source : String) (stats : Statistics)
    (complete : s.Complete) (loaded : (Load.sheet file s source).result = .ok stats) :
    ∃ t, (Load.sheet file s source).file.contents = .holding t ∧
      ∀ start changes, ∃ m, Memory.grown start changes = .ok m ∧
        ((∀ e, e ∈ m.entries.values ↔ ∃ c ∈ t.cards, c.entry = e) →
          ∀ text (maxDistance : Int), 0 ≤ maxDistance → maxDistance < distanceLimit →
            ∃ inFile inMemory,
              (Load.sheet file s source).file.toStore.definitions.termsWithin text maxDistance =
                .ok inFile ∧
              m.toStore.definitions.termsWithin text maxDistance = .ok inMemory ∧
              inFile.Sublist inMemory ∧
              (inFile.Pairwise fun a b => Text.utf8 a.toList < Text.utf8 b.toList) ∧
              (Text.Ascii text → (∀ c ∈ t.cards, Text.Ascii c.entry.term) →
                inFile = inMemory)) := by
  obtain ⟨t, contents, holding⟩ := Load.holds_of_complete complete loaded
  refine ⟨t, contents, fun start changes => ?_⟩
  obtain ⟨m, made, holds⟩ := Memory.grown_holds start changes
  refine ⟨m, made, fun same text n nonnegative below => ?_⟩
  have above : -distanceLimit ≤ n := Int.le_trans (by decide) nonnegative
  have fits : n < Memory.distanceLimit := Int.lt_trans below (by decide)
  obtain ⟨inFile, fileAnswer, fileOrder, ofFile⟩ :=
    DatabaseFile.exists_termsWithin contents holding text above below
  obtain ⟨inMemory, memoryAnswer, memoryOrder, close⟩ :=
    holds.scans.close text n nonnegative fits
  have stored : ∀ term, (∃ c ∈ Change.cardsFrom start changes, c.entry.term = term) ↔
      ∃ c ∈ t.cards, c.entry.term = term := by
    intro term
    rw [← holds.exists_term_iff]
    simp only [same, exists_exists_and_eq_and]
  have ofMemory : ∀ term, term ∈ inMemory ↔
      (∃ c ∈ t.cards, c.entry.term = term) ∧ WithinEdits n text term := by
    intro term
    rw [close, stored, WithinEdits, textDistance, editDistance_eq_distance]
  have part : inFile.Sublist inMemory := by
    refine sublist_of_ascending fileOrder memoryOrder fun term member => ?_
    obtain ⟨known, near⟩ := (ofFile term).1 member
    exact (ofMemory term).2 ⟨known, withinEdits_of_withinBytes near⟩
  refine ⟨inFile, inMemory, fileAnswer, memoryAnswer, part,
    fileOrder.imp fun below => Text.utf8_lt_utf8_iff.2 below, fun asciiText asciiTerms => ?_⟩
  refine part.antisymm (sublist_of_ascending memoryOrder fileOrder fun term member => ?_)
  obtain ⟨⟨c, inside, rfl⟩, near⟩ := (ofMemory term).1 member
  have ascii := asciiTerms c inside
  exact (ofFile _).2 ⟨⟨c, inside, rfl⟩, (withinBytes_iff_of_ascii asciiText ascii).2 near⟩

/-- Two names, one of them with a letter of two bytes. -/
def dams : Sheet where
  columns := ["ID", "Word", "Meaning"]
  rows := [[some "1", some "dém", some "a name"], [some "2", some "dam", some "a wall"]]

def damsFile : DatabaseFile := (Load.sheet ⟨"words.db", "/words.db", .missing⟩ dams "words").file

/-- The letter is one edit away in memory, and two in the file. -/
theorem closeTerms_sublist_accented :
    ∃ t m inFile inMemory,
      dams.Complete ∧ damsFile.contents = .holding t ∧
      Memory.grown [⟨"2", "dam", "a wall", "0"⟩] [.add ⟨"1", "dém", "a name", "0"⟩ [] []] = .ok m ∧
      (∀ e, e ∈ m.entries.values ↔ ∃ c ∈ t.cards, c.entry = e) ∧
      (0 : Int) ≤ 1 ∧ (1 : Int) < distanceLimit ∧
      damsFile.toStore.definitions.termsWithin "dam" 1 = .ok inFile ∧
      m.toStore.definitions.termsWithin "dam" 1 = .ok inMemory ∧
      inFile.Sublist inMemory ∧ inFile = ["dam"] ∧ inMemory = ["dam", "dém"] := by
  have complete : dams.Complete := by simp [Sheet.Complete, dams]
  have loaded : (Load.sheet ⟨"words.db", "/words.db", .missing⟩ dams "words").result =
      .ok ⟨2, 0, 0, "words"⟩ := by rfl
  obtain ⟨t, contents, growth⟩ := closeTerms_sublist _ _ _ _ complete loaded
  obtain ⟨m, made, answers⟩ :=
    growth [⟨"2", "dam", "a wall", "0"⟩] [.add ⟨"1", "dém", "a name", "0"⟩ [] []]
  have stored : m.entries.values = [⟨"2", "dam", "a wall", "0"⟩, ⟨"1", "dém", "a name", "0"⟩] := by
    cases made
    rfl
  have cards : t.cards =
      [⟨⟨"1", "dém", "a name", "0"⟩, [], []⟩, ⟨⟨"2", "dam", "a wall", "0"⟩, [], []⟩] := by
    cases contents
    rfl
  have same : ∀ e, e ∈ m.entries.values ↔ ∃ c ∈ t.cards, c.entry = e := by
    intro e
    rw [stored, cards]
    simp [or_comm, eq_comm]
  obtain ⟨inFile, inMemory, fileAnswer, memoryAnswer, part, -, -⟩ :=
    answers same "dam" 1 (by decide) (by decide)
  refine ⟨t, m, inFile, inMemory, complete, contents, made, same, by decide, by decide, fileAnswer,
    memoryAnswer, part, ?_, ?_⟩
  · cases fileAnswer
    rfl
  · cases made
    cases memoryAnswer
    rfl

end Glossary
