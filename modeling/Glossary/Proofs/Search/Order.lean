import Mathlib.Data.Prod.Lex
import Mathlib.Data.String.Basic
import Glossary.Proofs.Database.Faults

set_option autoImplicit false

namespace Glossary

namespace Entry

theorem comesBefore_iff {a b : Entry} :
    comesBefore a b = true ↔ toLex (a.term, a.id) ≤ toLex (b.term, b.id) := by
  simp only [comesBefore, Bool.or_eq_true, Bool.and_eq_true, decide_eq_true_eq,
    Prod.Lex.toLex_le_toLex]

theorem comesBefore_total (a b : Entry) : comesBefore a b = true ∨ comesBefore b a = true := by
  rw [comesBefore_iff, comesBefore_iff]
  exact le_total _ _

theorem comesBefore_trans (a b c : Entry) (first : comesBefore a b = true)
    (second : comesBefore b c = true) : comesBefore a c = true := by
  rw [comesBefore_iff] at first second ⊢
  exact le_trans first second

/-- Entries that come before each other have one id. -/
theorem id_eq_of_comesBefore {a b : Entry} (first : comesBefore a b = true)
    (second : comesBefore b a = true) : a.id = b.id := by
  rw [comesBefore_iff] at first second
  have same := toLex_inj.1 (le_antisymm first second)
  exact congrArg Prod.snd same

/-- Entries of different ids are presented in one order, however they are listed. -/
theorem sorted_eq_of_perm {entries others : List Entry} (ids : (entries.map (·.id)).Nodup)
    (order : entries.Perm others) : sorted entries = sorted others :=
  sortBy_eq_of_perm comesBefore_total comesBefore_trans
    (fun _ first _ second ahead behind =>
      List.inj_on_of_nodup_map ids first second (id_eq_of_comesBefore ahead behind)) order

end Entry

namespace Store

variable {s : Store} {m : Matching} {filters : List Filter}

/-- Some lookup of the store answers with the entry. -/
inductive Returns (s : Store) (e : Entry) : Prop where
  | byDefinition (text : String) (entries : List Entry)
      (answer : s.definitions.byDefinition text = .ok entries) (inside : e ∈ entries)
  | byTerm (text : String) (entries : List Entry)
      (answer : s.definitions.byTerm text = .ok entries) (inside : e ∈ entries)
  | firstForTerm (term : String) (answer : s.definitions.firstForTerm term = .ok (some e))
  | entriesWith (kind : LabelKind) (name : String) (entries : List Entry)
      (answer : (s.labels kind).entriesWith name = .ok entries) (inside : e ∈ entries)

/-- Whichever lookups answer with entries of one id, they answer with the same entry. -/
def Consistent (s : Store) : Prop :=
  ∀ d e, s.Returns d → s.Returns e → d.id = e.id → d = e

theorem returns_of_firstEntries {terms : List String} {entries : List Entry} {e : Entry}
    (answer : s.firstEntries terms = .ok entries) (inside : e ∈ entries) : s.Returns e := by
  induction terms generalizing entries with
  | nil =>
      cases answer
      cases inside
  | cons term rest ih =>
      rw [firstEntries] at answer
      cases first : s.definitions.firstForTerm term with
      | error fault =>
          rw [first] at answer
          cases answer
      | ok found =>
          rw [first] at answer
          obtain ⟨others, later, rfl⟩ := map_eq_ok_iff.1 answer
          rcases List.mem_append.1 inside with here | inside
          · rw [Option.mem_toList.1 here] at first
            exact .firstForTerm term first
          · exact ih later inside

theorem returns_of_yield {f : Filter} {entries : List Entry} {e : Entry}
    (answer : s.yield m f = .ok entries) (inside : e ∈ entries) : s.Returns e := by
  unfold Store.yield at answer
  cases kind : f.kind with
  | definition =>
      rw [kind] at answer
      exact .byDefinition f.text entries answer inside
  | label kind' =>
      rw [kind] at answer
      exact .entriesWith kind' f.text entries answer inside
  | term =>
      rw [kind] at answer
      cases way : m.termMatch with
      | substring =>
          rw [way] at answer
          exact .byTerm f.text entries answer inside
      | fuzzy =>
          rw [way] at answer
          simp only [closeEntries] at answer
          split at answer
          · cases answer
          · split at answer
            · cases answer
            · exact returns_of_firstEntries answer inside

theorem Consistent.agrees (consistent : s.Consistent) (d e : Entry) (first : s.Offers m filters d)
    (second : s.Offers m filters e) (same : d.id = e.id) : d = e := by
  obtain ⟨f, -, entries, answer, inside⟩ := first
  obtain ⟨g, -, others, other, within⟩ := second
  exact consistent d e (returns_of_yield answer inside) (returns_of_yield other within) same

theorem offers_iff_of_perm {others : List Filter} (order : others.Perm filters) (e : Entry) :
    s.Offers m others e ↔ s.Offers m filters e := by
  simp only [Offers, order.mem_iff]

theorem keeps_iff_of_perm {others : List Filter} (order : others.Perm filters) (e : Entry) :
    s.Keeps m others e ↔ s.Keeps m filters e := by
  simp only [Keeps, order.mem_iff]

theorem nodup_offered (s : Store) (m : Matching) (filters : List Filter) :
    (s.offered m filters).Nodup :=
  List.Nodup.of_map _ (nodup_map_distinctOn (fun e : Entry => e.id) _)

theorem offered_perm (consistent : s.Consistent) {others : List Filter}
    (order : others.Perm filters) : (s.offered m others).Perm (s.offered m filters) := by
  refine (List.perm_ext_iff_of_nodup (nodup_offered s m others) (nodup_offered s m filters)).2 ?_
  intro e
  rw [mem_offered_iff consistent.agrees, mem_offered_iff consistent.agrees,
    offers_iff_of_perm order]

/-- The orders in which a search walks through its filters and its candidates: the filters when it
asks for candidates, these when it fetches their labels, and the filters when it tests. -/
structure Walk (filters : List Filter) where
  asked : List Filter
  arrange : List Entry → List Entry
  tested : List Filter
  asks : asked.Perm filters
  arranges : ∀ candidates, (arrange candidates).Perm candidates
  tests : tested.Perm filters

/-- The walk in the given order. -/
def Walk.plain (filters : List Filter) : Walk filters where
  asked := filters
  arrange := id
  tested := filters
  asks := List.Perm.refl _
  arranges _ := List.Perm.refl _
  tests := List.Perm.refl _

/-- A search that walks through its sets in the orders of a walk. -/
def findAlong (s : Store) (m : Matching) (w : Walk filters) :
    Except Fault (List Entry × List Failure) :=
  let retrieved := s.retrieve m w.asked
  match retrieved.result with
  | .error fault => .error fault
  | .ok candidates =>
    let assembled := s.assemble (w.arrange candidates)
    assembled.result.bind fun composites =>
      (m.narrow composites w.tested).map (·, retrieved.recorded ++ assembled.recorded)

theorem find_eq_findAlong (s : Store) (m : Matching) (filters : List Filter) :
    (s.find m filters).result = s.findAlong m (Walk.plain filters) := by
  simp only [find, findAlong, Walk.plain, id]
  cases (s.retrieve m filters).result <;> rfl

def met (s : Store) (m : Matching) (w : Walk filters) : List Entry :=
  w.arrange (s.offered m w.asked)

theorem met_perm (consistent : s.Consistent) (w : Walk filters) :
    (s.met m w).Perm (s.offered m filters) :=
  (w.arranges _).trans (offered_perm consistent w.asks)

theorem mem_met_iff (consistent : s.Consistent) (w : Walk filters) (e : Entry) :
    e ∈ s.met m w ↔ s.Offers m filters e := by
  rw [(met_perm consistent w).mem_iff, mem_offered_iff consistent.agrees]

/-- With all failures recorded, only the test of the filters decides how a run ends. -/
theorem findAlong_eq (answering : s.Answering) (w : Walk filters) :
    s.findAlong m w =
      (m.narrow ((s.met m w).filterMap fun e => (s.composite e).toOption) w.tested).map
        (·, w.asked.filterMap (s.retrieval? m) ++ (s.met m w).filterMap s.assembly?) := by
  have retrieved : s.retrieve m w.asked =
      ⟨.ok (s.offered m w.asked), w.asked.filterMap (s.retrieval? m)⟩ := by
    rw [retrieve, yieldAll_eq s m fun _ _ _ => answering.isRecorded_of_yield]
    rfl
  simp only [findAlong, retrieved, assemble_eq s fun _ _ _ => answering.composite]
  rfl

end Store

namespace Matching

/-- If the test of every composite comes to an end, those that pass all filters survive. -/
theorem survivors_of_ok {m : Matching} {filters : List Filter} {composites : List Composite}
    {entries : List Entry} (answer : m.survivors filters composites = .ok entries) :
    entries = (composites.filter (m.accepts filters)).map (·.entry) := by
  induction composites generalizing entries with
  | nil =>
      cases answer
      rfl
  | cons c rest ih =>
      rw [survivors] at answer
      cases test : m.passesAll c filters with
      | error fault =>
          rw [test] at answer
          cases answer
      | ok kept =>
          rw [test] at answer
          obtain ⟨others, later, rfl⟩ := map_eq_ok_iff.1 answer
          rw [List.filter_cons, accepts_of_passesAll test, ih later]
          cases kept <;> rfl

end Matching

namespace Store

variable {s : Store} {m : Matching} {filters : List Filter}

/-- The test of the entry comes to a label filter that it cannot decide for want of a name. -/
def Stalls (s : Store) (m : Matching) (tested : List Filter) (e : Entry) : Prop :=
  ∃ c before f after kind, s.composite e = .ok c ∧ tested = before ++ f :: after ∧
    f.kind = .label kind ∧ Stops f.text (c.labels kind) ∧ ∀ g ∈ before, m.passes c g = .ok true

theorem findAlong_eq_error_iff (answering : s.Answering) (consistent : s.Consistent)
    (w : Walk filters) (fault : Fault) :
    s.findAlong m w = .error fault ↔
      fault = .absentName ∧ ∃ e, s.Offers m filters e ∧ s.Stalls m w.tested e := by
  rw [findAlong_eq answering, map_eq_error_iff, Matching.narrow_eq_error_iff]
  simp only [mem_composites_iff, mem_met_iff consistent, Matching.passesAll_eq_error_iff,
    Matching.passes_eq_error_iff, eq_self, true_and, Stalls]
  refine and_congr_right fun _ => ?_
  constructor
  · rintro ⟨c, ⟨e, offers, made⟩, before, f, after, split, ⟨kind, label, stops⟩, passed⟩
    exact ⟨e, offers, c, before, f, after, kind, made, split, label, stops, passed⟩
  · rintro ⟨e, offers, c, before, f, after, kind, made, split, label, stops, passed⟩
    exact ⟨c, ⟨e, offers, made⟩, before, f, after, split, ⟨kind, label, stops⟩, passed⟩

/-- What a run brings back that comes to an answer: nothing in it depends on the walk but the order
of two lists. -/
theorem findAlong_ok (answering : s.Answering) (consistent : s.Consistent) {w : Walk filters}
    {entries : List Entry} {failures : List Failure}
    (answer : s.findAlong m w = .ok (entries, failures)) :
    (entries.map (·.id)).Nodup ∧
      (∀ e, e ∈ entries ↔ s.Offers m filters e ∧ s.Keeps m filters e) ∧
      failures.Perm (s.failed m filters) := by
  rw [findAlong_eq answering] at answer
  obtain ⟨found, narrowed, same⟩ := map_eq_ok_iff.1 answer
  obtain ⟨rfl, rfl⟩ := Prod.mk.inj same
  obtain ⟨survivors, tested, rfl⟩ := map_eq_ok_iff.1 narrowed
  have member : ∀ e, e ∈ survivors ↔ s.Offers m filters e ∧ s.Keeps m filters e := by
    intro e
    rw [Matching.survivors_of_ok tested, mem_survivors_iff, mem_met_iff consistent,
      keeps_iff_of_perm w.tests]
  refine ⟨nodup_map_distinctOn (fun e : Entry => e.id) _, fun e => ?_, ?_⟩
  · rw [Entry.distinct, mem_distinctOn_iff, member]
    intro d first e second
    exact consistent.agrees d e ((member d).1 first).1 ((member e).1 second).1
  · exact (w.asks.filterMap _).append ((met_perm consistent w).filterMap _)

/-- Two findings of a search are alike: they have the same entries and the same failures, whatever
the order of these, and the entries are presented in one order. -/
structure Alike (filters : List Filter) (found other : List Entry × List Failure) : Prop where
  entries : found.1.Perm other.1
  presented : ∀ query, Outcome.sortedEntries ⟨query, filters, found.1, found.2⟩ =
    Outcome.sortedEntries ⟨query, filters, other.1, other.2⟩
  failures : found.2.Perm other.2

theorem alike_of_findAlong (answering : s.Answering) (consistent : s.Consistent)
    {one other : Walk filters} {found found' : List Entry × List Failure}
    (first : s.findAlong m one = .ok found) (second : s.findAlong m other = .ok found') :
    Alike filters found found' := by
  obtain ⟨ids, member, failures⟩ := findAlong_ok answering consistent first
  obtain ⟨ids', member', failures'⟩ := findAlong_ok answering consistent second
  -- Both lists have the entries that some filter offers and that keep to all of them.
  have entries : found.1.Perm found'.1 :=
    (List.perm_ext_iff_of_nodup ids.of_map ids'.of_map).2 fun e =>
      (member e).trans (member' e).symm
  exact ⟨entries, fun _ => Entry.sorted_eq_of_perm ids entries, failures.trans failures'.symm⟩

theorem exists_findAlong_of_named (answering : s.Answering) (consistent : s.Consistent)
    (named : ∀ e c, s.Offers m filters e → s.composite e = .ok c → c.Named) (w : Walk filters) :
    ∃ found, s.findAlong m w = .ok found := by
  cases answer : s.findAlong m w with
  | ok found => exact ⟨found, rfl⟩
  | error fault =>
      obtain ⟨-, e, offers, c, _, _, _, kind, made, _, _, stops, _⟩ :=
        (findAlong_eq_error_iff answering consistent w fault).1 answer
      obtain ⟨before, n, after, split, rfl, -⟩ := stops
      exact absurd (by simp [split]) (named e c offers made kind)

end Store

namespace DatabaseFile

variable {file : DatabaseFile}

theorem outage_eq_ok_iff {α : Type} {l : Lookup} {answer : Except String α} {a : α} :
    outage l answer = .ok a ↔ answer = .ok a := by
  cases answer <;> simp [outage]

theorem exists_row_of_listed {rows kept : List EntryRow} (part : ∀ r ∈ kept, r ∈ rows) {e : Entry}
    (inside : e ∈ (orderedRows kept).map (·.toEntry)) : ∃ r ∈ rows, r.toEntry = e := by
  obtain ⟨r, member, same⟩ := List.mem_map.1 inside
  rw [orderedRows, mem_sortBy] at member
  exact ⟨r, part r member, same⟩

theorem exists_row_of_returns {e : Entry} (returns : file.toStore.Returns e) :
    ∃ rows, file.entryRows = .ok rows ∧ ∃ r ∈ rows, r.toEntry = e := by
  cases returns with
  | byDefinition text entries answer inside =>
      obtain ⟨rows, table, rfl⟩ := map_eq_ok_iff.1 (outage_eq_ok_iff.1 answer)
      exact ⟨rows, table, exists_row_of_listed (fun _ => List.mem_of_mem_filter) inside⟩
  | byTerm text entries answer inside =>
      obtain ⟨rows, table, rfl⟩ := map_eq_ok_iff.1 (outage_eq_ok_iff.1 answer)
      exact ⟨rows, table, exists_row_of_listed (fun _ => List.mem_of_mem_filter) inside⟩
  | firstForTerm term answer =>
      obtain ⟨rows, table, first⟩ := map_eq_ok_iff.1 (outage_eq_ok_iff.1 answer)
      exact ⟨rows, table,
        exists_row_of_listed (fun _ => List.mem_of_mem_filter) (List.mem_of_head? first)⟩
  | entriesWith kind name entries answer inside =>
      rw [labels_toStore] at answer
      obtain ⟨rows, table, listed⟩ := bind_eq_ok_iff.1 (outage_eq_ok_iff.1 answer)
      obtain ⟨labels, -, rfl⟩ := map_eq_ok_iff.1 listed
      refine ⟨rows, table, exists_row_of_listed (fun r member => ?_) inside⟩
      exact List.mem_of_mem_filter (mem_of_mem_distinctOn member)

/-- A file is consistent if no two rows are read as different entries of one id. -/
theorem consistent_of_rows (tells : ∀ rows, file.entryRows = .ok rows → ∀ r ∈ rows, ∀ q ∈ rows,
    r.toEntry.id = q.toEntry.id → r.toEntry = q.toEntry) : file.toStore.Consistent := by
  intro d e first second same
  obtain ⟨rows, table, r, member, rfl⟩ := exists_row_of_returns first
  obtain ⟨others, again, q, inside, rfl⟩ := exists_row_of_returns second
  rw [table, Except.ok.injEq] at again
  subst again
  exact tells rows table r member q inside same

end DatabaseFile

/-- A search of a store that answers or has outages, and says the same of one id in all its answers,
walking through its filters and candidates in any two orders. Runs that come to an answer come to
the same entries, presented in one order, and the same failures. Where every label of a candidate
has a name, all runs come to an answer. Where one has none, a run ends in a fault exactly if its
test comes to a label filter for which that name is needed; and that depends on the order. -/
theorem search_order_unseen (s : Store) (m : Matching) {filters : List Filter}
    (answering : s.Answering) (consistent : s.Consistent) (one other : Store.Walk filters) :
    (s.find m filters).result = s.findAlong m (Store.Walk.plain filters) ∧
    (∀ found found', s.findAlong m one = .ok found → s.findAlong m other = .ok found' →
      Store.Alike filters found found') ∧
    ((∀ e c, s.Offers m filters e → s.composite e = .ok c → c.Named) →
      ∃ found found', s.findAlong m one = .ok found ∧ s.findAlong m other = .ok found' ∧
        Store.Alike filters found found') ∧
    ∀ fault, s.findAlong m one = .error fault ↔
      fault = .absentName ∧ ∃ e, s.Offers m filters e ∧ s.Stalls m one.tested e := by
  have alike : ∀ found found', s.findAlong m one = .ok found → s.findAlong m other = .ok found' →
      Store.Alike filters found found' := fun _ _ first second =>
    Store.alike_of_findAlong answering consistent first second
  refine ⟨s.find_eq_findAlong m filters, alike, fun named => ?_, fun fault => ?_⟩
  · obtain ⟨found, first⟩ := Store.exists_findAlong_of_named answering consistent named one
    obtain ⟨found', second⟩ := Store.exists_findAlong_of_named answering consistent named other
    exact ⟨found, found', first, second, alike found found' first second⟩
  · exact Store.findAlong_eq_error_iff answering consistent one fault

/-- Two walls, both of them in the water. -/
def wallsFile : DatabaseFile where
  path := "g.duckdb"
  fullPath := "/g.duckdb"
  contents := .holding
    ⟨some [⟨some "1", some "dam", some "A wall", some "0"⟩,
        ⟨some "2", some "dike", some "A wall of earth", some "0"⟩],
      some [⟨some "1", some "water"⟩, ⟨some "2", some "Water"⟩], some []⟩

/-- The tag and the definition of both walls. -/
def wallFilters : List Filter := [⟨.label .tag, "water", false⟩, ⟨.definition, "wall", false⟩]

def backwards : Store.Walk wallFilters where
  asked := wallFilters.reverse
  arrange := List.reverse
  tested := wallFilters.reverse
  asks := List.reverse_perm _
  arranges := List.reverse_perm
  tests := List.reverse_perm _

/-- The walls are found in the one order and in the other, and are presented alike. -/
theorem search_order_unseen_walls :
    wallsFile.toStore.Answering ∧ wallsFile.toStore.Consistent ∧
    ∃ found found', wallsFile.toStore.findAlong {} (Store.Walk.plain wallFilters) = .ok found ∧
      wallsFile.toStore.findAlong {} backwards = .ok found' ∧
      found.1.map (·.term) = ["dam", "dike"] ∧ found'.1.map (·.term) = ["dike", "dam"] ∧
      Store.Alike wallFilters found found' := by
  have consistent : wallsFile.toStore.Consistent := DatabaseFile.consistent_of_rows fun rows table => by
    cases table
    decide
  obtain ⟨-, alike, -⟩ := search_order_unseen wallsFile.toStore {} wallsFile.answering consistent
    (Store.Walk.plain wallFilters) backwards
  exact ⟨wallsFile.answering, consistent, _, _, rfl, rfl, rfl, rfl, alike _ _ rfl rfl⟩

/-- The tag without a name and a term that is near, but not contained. -/
def nearFilters : List Filter := [⟨.label .tag, "water", false⟩, ⟨.term, "dan", false⟩]

/-- The file with a tag without a name answers every call and is consistent. The filters in one
order come to a fault, and in the other to no entry and no failure. -/
theorem search_order_shows :
    namelessFile.toStore.Answering ∧ namelessFile.toStore.Consistent ∧
    nearFilters.reverse.Perm nearFilters ∧
    (namelessFile.toStore.find {} nearFilters).result = .error .absentName ∧
    (namelessFile.toStore.find {} nearFilters.reverse).result = .ok ([], []) := by
  refine ⟨namelessFile.answering, DatabaseFile.consistent_of_rows fun rows table => ?_,
    List.reverse_perm _, rfl, rfl⟩
  cases table
  decide

end Glossary
