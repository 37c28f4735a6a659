import Glossary.Database.Opening
import Glossary.Proofs.Database.Loaded
import Glossary.Settings

set_option autoImplicit false

namespace Glossary

namespace Settings

/-- A search of the database that the settings name, in a tree of files. -/
def search (s : Settings) (t : FileTree) (query : String) : Report Outcome :=
  (t.found (Location.ofText s.path)).toStore.search s.matching (some query)

theorem nonneg_of_readDistance? {value : String} {n : Int} (read : readDistance? value = some n) :
    0 ≤ n :=
  of_decide_eq_true (Option.filter_eq_some_iff.1 read).2

theorem nonneg_maxDistance (environment : Environment) :
    0 ≤ (ofEnvironment environment).1.maxDistance := by
  have default : (0 : Int) ≤ defaultDistance := by decide
  rw [ofEnvironment, distance]
  simp only
  split
  · exact default
  · split
    · rename_i n read
      exact nonneg_of_readDistance? read
    · exact default

end Settings

/-- Whatever the variables are, a search with their settings of a database that a load has filled
comes to an outcome. It is partial exactly if terms are fetched by distance, the query has a filter
for a term, and the distance is one that the database refuses: too great by itself, or too great to
be compared with the term of an entry. -/
theorem search_with_settings_partial_iff (environment : Environment) (t : FileTree)
    (file : DatabaseFile) (r : Load.Request) (stats : Statistics) (query : String)
    (loaded : (r.load file).result = .ok stats)
    (filled : (t.found (Location.ofText (Settings.ofEnvironment environment).1.path)).contents =
      (r.load file).file.contents) :
    ∃ outcome, ((Settings.ofEnvironment environment).1.search t query).result = .ok outcome ∧
      (outcome.isPartial = true ↔
        ((Settings.ofEnvironment environment).1.termMatch = .fuzzy ∧
          ∃ f ∈ Query.parse query, f.kind = .term) ∧
        distanceLimit ≤ (Settings.ofEnvironment environment).1.maxDistance ∧
        (0 < stats.entries ∨ widthLimit ≤ (Settings.ofEnvironment environment).1.maxDistance)) := by
  obtain ⟨rows, source, contents, counts⟩ := Load.Request.exists_rows loaded
  have holding := filled.trans contents
  have some : 0 < stats.entries ↔ Load.entryRows rows ≠ [] := by
    rw [counts, Load.statistics, List.length_pos_iff]
  rw [some]
  exact DatabaseFile.search_of_holding holding (fun _ => Load.name_of_mem_labelRows)
    (fun _ => Load.name_of_mem_labelRows) (Settings.nonneg_maxDistance environment) query

/-- The load of one entry into a database that is not there. -/
def damLoad : Loaded :=
  (Load.Request.csv "g.csv" (some "id,term,definition\n1,dam,A wall\n")).load
    ⟨"g.duckdb", "/g.duckdb", .missing⟩

def damTree : FileTree where
  here := []
  nodes := [(["g.duckdb"], .tables
    ⟨some [⟨some "1", some "dam", some "A wall", some "0"⟩], some [], some []⟩)]

/-- Variables that name the database of the tree and a distance. -/
def damVariables (distance : String) : Environment :=
  [(Settings.pathVariable, "g.duckdb"), (Settings.distanceVariable, distance)]

/-- With the greatest distance that is not refused, the search is not partial. -/
theorem search_with_settings_partial_iff_dam :
    damLoad.result = .ok ⟨1, 0, 0, "g.csv"⟩ ∧
    (damTree.found (Location.ofText "g.duckdb")).contents = damLoad.file.contents ∧
    ∃ outcome, ((Settings.ofEnvironment (damVariables "2147483647")).1.search damTree
      "dam").result = .ok outcome ∧ outcome.isPartial = false := by
  have loaded : damLoad.result = .ok ⟨1, 0, 0, "g.csv"⟩ := by rfl
  have filled : (damTree.found (Location.ofText "g.duckdb")).contents = damLoad.file.contents := by
    decide +kernel
  have near : ¬ distanceLimit ≤
      (Settings.ofEnvironment (damVariables "2147483647")).1.maxDistance := by decide
  obtain ⟨outcome, answer, iff⟩ := search_with_settings_partial_iff (damVariables "2147483647")
    damTree _ _ _ "dam" loaded filled
  refine ⟨loaded, filled, outcome, answer, ?_⟩
  rw [← Bool.not_eq_true, iff]
  exact fun refused => near refused.2.1

/-- The next distance gives no notice, but makes the search partial. -/
theorem search_with_settings_loses_terms :
    damLoad.result = .ok ⟨1, 0, 0, "g.csv"⟩ ∧
    (damTree.found (Location.ofText "g.duckdb")).contents = damLoad.file.contents ∧
    (Settings.ofEnvironment (damVariables "2147483648")).1.path = "g.duckdb" ∧
    (Settings.ofEnvironment (damVariables "2147483648")).2 = [] ∧
    ∃ outcome, ((Settings.ofEnvironment (damVariables "2147483648")).1.search damTree
      "dam").result = .ok outcome ∧ outcome.isPartial = true := by
  have opened : damTree.found (Location.ofText "g.duckdb") =
      ⟨"g.duckdb", "/g.duckdb", damLoad.file.contents⟩ := by decide +kernel
  refine ⟨by rfl, congrArg DatabaseFile.contents opened, by rfl, by rfl, ?_⟩
  have same : (Settings.ofEnvironment (damVariables "2147483648")).1.search damTree "dam" =
      (DatabaseFile.mk "g.duckdb" "/g.duckdb" damLoad.file.contents).toStore.search
        ⟨2147483648, .fuzzy⟩ (some "dam") := by
    rw [← opened]
    rfl
  rw [same]
  exact ⟨_, rfl, rfl⟩

end Glossary
