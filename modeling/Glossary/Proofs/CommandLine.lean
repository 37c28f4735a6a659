import Glossary.CommandLine.Run
import Glossary.Proofs.Database.Faults
import Glossary.Proofs.Load.Failure

set_option autoImplicit false

namespace Glossary

/-- In an opening whose tables last, a load does what it does to the file. -/
theorem Opening.load_of_kept {o : Opening} (kept : o.lasting = .kept) (path : String)
    (text : Option String) : o.load path text = Load.csv o.file path text := by
  rw [load, loadBy, kept]
  rfl

/-- In an opening whose tables do not last, a load leaves the tables that are there. -/
theorem Opening.load_of_not_kept {o : Opening} (lost : o.lasting ≠ .kept) {tables : Tables}
    (there : o.file.contents = .holding tables) (path : String) (text : Option String) :
    (o.load path text).file = o.file := by
  have made : o.file.made = o.file := by rw [DatabaseFile.made, there]
  unfold load loadBy
  dsimp only
  split
  · exact absurd ‹_› lost
  · rfl
  · rfl
  · exact made
  · exact made
  · rename_i fault plain _ failed
    exact Load.csv_file_of_error failed plain

namespace FileTree

variable {t : FileTree} {l : Location}

theorem isPrefixOf_here {p : Place} (other : t.node? p ≠ some .directory) :
    p.isPrefixOf t.here = false := by
  rw [← Bool.not_eq_true]
  intro above
  exact other (by rw [node?, if_pos above])

/-- Where tables last in what can be used, there is nothing yet, or there are tables. -/
theorem opening_cases (kept : (t.opening l).lasting = .kept)
    (usable : ∀ why, (t.opening l).file.contents ≠ .unusable why) :
    Opening.isInMemory l.text = false ∧
      ∀ node, t.node? (t.openedPlace l) = some node → ∃ tables, node = .tables tables := by
  simp only [file_opening, lasting_opening, opened] at kept usable
  cases inMemory : Opening.isInMemory l.text with
  | true =>
    rw [inMemory] at kept
    cases kept
  | false =>
    rw [inMemory] at kept usable
    rw [if_neg Bool.false_ne_true] at kept usable
    refine ⟨rfl, fun node stands => ?_⟩
    rw [stands] at kept usable
    cases node with
    | tables tables => exact ⟨tables, rfl⟩
    | directory => exact absurd rfl (usable _)
    | _ =>
      dsimp only at kept usable
      split at kept
      · cases kept
      · rename_i plain
        rw [if_neg plain] at usable
        exact absurd rfl (usable _)

theorem opened_of_tables (outside : Opening.isInMemory l.text = false) {tables : Tables}
    (stands : t.node? (t.openedPlace l) = some (.tables tables)) :
    (t.opened l).1 = .holding tables := by
  rw [opened, outside, stands]
  rfl

theorem found_of_look {node : FileNode} (looked : t.look l = .ok (some node)) :
    t.found l = (t.opening l).file.made := by
  rw [found, looked]
  rfl

/-- Once tables are put where a path leads, the database of that path holds them. -/
theorem found_put {tables : Tables} {node : FileNode}
    (outside : Opening.isInMemory l.text = false)
    (below : (t.openedPlace l).isPrefixOf t.here = false)
    (looked : (t.put (t.openedPlace l) (.tables tables)).look l = .ok (some node)) :
    (t.put (t.openedPlace l) (.tables tables)).found l =
      { (t.opening l).file with contents := .holding tables } := by
  have contents : ((t.put (t.openedPlace l) (.tables tables)).opened l).1 = .holding tables := by
    apply opened_of_tables outside
    rw [openedPlace_put]
    exact node?_put_self below _
  rw [found_of_look looked, file_opening, contents, openedPlace_put, file_opening]
  rfl

end FileTree

namespace CommandLine

variable {t : FileTree} {settings : Settings} {path : String} {text : Option String} {o : Opening}
  {statistics : Statistics}

theorem loadText_files (opens : t.opening (.ofText settings.path) = o) :
    (loadText t settings path text).files = t.keep o (o.load path text).file.contents := by
  unfold loadText
  dsimp only
  rw [opens]
  split
  · rfl
  · split <;> rfl

/-- A load changes nothing in the tree but what is at the place of the database. -/
theorem node?_loadText (opens : t.opening (.ofText settings.path) = o) {p : Place}
    (other : p ≠ o.place) : (loadText t settings path text).files.node? p = t.node? p := by
  rw [loadText_files opens]
  unfold FileTree.keep
  cases (o.load path text).file.contents with
  | holding tables => exact FileTree.node?_put_other other _
  | _ => rfl

/-- Where tables last, a load that comes to its end puts them at the place of the database. -/
theorem loadText_of_ok (opens : t.opening (.ofText settings.path) = o) (kept : o.lasting = .kept)
    (loaded : (Load.csv o.file path text).result = .ok statistics) :
    (loadText t settings path text).ending =
        .finished 0 [loadedLine statistics settings.path] [] ∧
      ∃ tables, (Load.csv o.file path text).file = { o.file with contents := .holding tables } ∧
        (loadText t settings path text).files = t.put o.place (.tables tables) := by
  obtain ⟨-, tables, filled⟩ := Load.csv_of_ok loaded
  refine ⟨?_, tables, filled, ?_⟩
  · unfold loadText
    dsimp only
    rw [opens, Opening.load_of_kept kept, loaded]
  · rw [loadText_files opens, Opening.load_of_kept kept, filled]
    rfl

/-- After a load that came to its end, where tables last and the path can be looked up, a search
finds the file as the load left it. -/
theorem found_loadText {node : FileNode} (opens : t.opening (.ofText settings.path) = o)
    (kept : o.lasting = .kept) (loaded : (Load.csv o.file path text).result = .ok statistics)
    (looked : (loadText t settings path text).files.look (.ofText settings.path) =
      .ok (some node)) :
    (loadText t settings path text).files.found (.ofText settings.path) =
      (Load.csv o.file path text).file := by
  subst opens
  obtain ⟨usable, -⟩ := Load.csv_of_ok loaded
  obtain ⟨outside, stands⟩ := FileTree.opening_cases kept usable
  obtain ⟨-, tables, filled, after⟩ := loadText_of_ok rfl kept loaded
  have below : (t.openedPlace (.ofText settings.path)).isPrefixOf t.here = false := by
    refine FileTree.isPrefixOf_here fun directory => ?_
    obtain ⟨_, ⟨⟩⟩ := stands _ directory
  rw [after, FileTree.place_opening] at looked ⊢
  rw [filled]
  exact FileTree.found_put outside below looked

/-- In an empty directory, tables last in a new file, and its path can be looked up after a load. -/
example :
    let t : FileTree := { here := ["work"] }
    let settings : Settings := { path := "g.duckdb" }
    let after := (loadText t settings "g.csv" (some "id,term,definition\n1,dam,A wall\n")).files
    (t.opening (.ofText settings.path)).lasting = .kept ∧
      after.look (.ofText settings.path) = .ok (some (.tables
        ⟨some [⟨some "1", some "dam", some "A wall", some "0"⟩], some [], some []⟩)) :=
  ⟨by decide +kernel, by decide +kernel⟩

variable {query : String} {why : Crash}

theorem searchEnding_ne_crashed (outcome : Outcome) : searchEnding outcome ≠ .crashed why := by
  unfold searchEnding
  split
  · nofun
  · split <;> nofun

theorem searchFile_crashed_iff {l : Location} :
    (searchFile t l settings query).ending = .crashed why ↔ why = .search .absentName ∧
      ∃ e ∈ (t.found l).toStore.offered settings.matching (Query.parse query),
        (t.found l).Stalls settings.matching (Query.parse query) e := by
  unfold searchFile
  dsimp only
  cases answer : ((t.found l).toStore.search settings.matching (some query)).result with
  | ok outcome =>
      refine iff_of_false (searchEnding_ne_crashed outcome) ?_
      rintro ⟨-, stalls⟩
      have failed := ((t.found l).search_eq_error_iff settings.matching query _).2 ⟨rfl, stalls⟩
      rw [answer] at failed
      cases failed
  | error fault =>
      obtain ⟨rfl, stalls⟩ := ((t.found l).search_eq_error_iff settings.matching query _).1 answer
      exact ⟨fun same => ⟨(Ending.crashed.inj same).symm, stalls⟩, fun ⟨same, _⟩ => same ▸ rfl⟩

/-- A search breaks off in two ways only: there is a filter, and the path cannot be looked up, or it
can be, and an entry that is tested has a label without a name. Otherwise it ends by itself. -/
theorem runSearch_crashed_iff :
    (runSearch t settings query).ending = .crashed why ↔
      (Query.parse query ≠ [] ∧ ∃ fault, t.look (.ofText settings.path) = .error fault ∧
        why = .path fault) ∨
      ((∃ node, t.look (.ofText settings.path) = .ok node) ∧ why = .search .absentName ∧
        ∃ e ∈ (t.found (.ofText settings.path)).toStore.offered settings.matching
            (Query.parse query),
          (t.found (.ofText settings.path)).Stalls settings.matching (Query.parse query) e) := by
  unfold runSearch
  dsimp only
  cases looked : t.look (.ofText settings.path) with
  | ok node => simp [searchFile_crashed_iff]
  | error fault =>
      cases filters : Query.parse query with
      | nil => simp [searchFile_crashed_iff, filters, Store.offered, Entry.distinct, distinctOn]
      | cons f rest => simp [eq_comm]

end CommandLine

end Glossary
