import Glossary.Proofs.Search.Course
import Glossary.Proofs.Search.Order
import Glossary.Proofs.Search.Outages

set_option autoImplicit false

namespace Glossary

/-- What a failure says: the stage of the search, the message of the fault that was met there, and
which filter or which entry it was met for. -/
structure Failure.Tells (failure : Failure) (stage : String) (fault : Fault)
    (filter : Option Filter) (id : Option String) : Prop where
  atStage : failure.stage = stage
  messageOf : failure.message = fault.message
  ofFilter : failure.filter? = filter
  ofEntry : failure.id? = id

/-- No label is without a name. -/
def Store.Named (s : Store) : Prop :=
  ∀ kind id names, (s.labels kind).namesOf id = .ok names → none ∉ names

theorem OrOutage.isOutage_of_error {α : Type} {due answer : Except Fault α} {fault : Fault}
    (either : OrOutage due answer) (outages : ∀ fault, due = .error fault → fault.isOutage = true)
    (failed : answer = .error fault) : fault.isOutage = true := by
  rw [failed] at either
  exact either.isOutage.elim (outages fault) id

namespace Store.Falters

variable {w s : Store}

theorem refl (s : Store) : s.Falters s where
  byDefinition _ := .due
  byTerm _ := .due
  termsWithin _ _ := .due
  firstForTerm _ := .due
  holds _ _ := .due
  namesOf _ _ := .due
  entriesWith _ _ := .due

theorem answering (falters : w.Falters s) (answering : s.Answering) : w.Answering where
  byDefinition text _ := (falters.byDefinition text).isOutage_of_error (answering.byDefinition text)
  byTerm text _ := (falters.byTerm text).isOutage_of_error (answering.byTerm text)
  termsWithin text n _ :=
    (falters.termsWithin text n).isOutage_of_error (answering.termsWithin text n)
  firstForTerm term _ := (falters.firstForTerm term).isOutage_of_error (answering.firstForTerm term)
  holds kind name _ := (falters.holds kind name).isOutage_of_error (answering.holds kind name)
  namesOf kind key _ := (falters.namesOf kind key).isOutage_of_error (answering.namesOf kind key)
  entriesWith kind name _ :=
    (falters.entriesWith kind name).isOutage_of_error (answering.entriesWith kind name)

theorem named (falters : w.Falters s) (named : s.Named) : w.Named := by
  intro kind key names answer
  have either := falters.namesOf kind key
  rw [answer] at either
  exact named kind key names either.eq_of_ok

end Store.Falters

theorem DatabaseFile.named {file : DatabaseFile}
    (names : ∀ kind rows, file.labelRows kind = .ok rows → ∀ r ∈ rows, r.name ≠ none) :
    file.toStore.Named := by
  intro kind key found answer absent
  rw [labels_toStore] at answer
  obtain ⟨rows, table, member, -⟩ := rows_of_labelsOf answer
  exact names kind rows table _ ((member none).1 absent) rfl

namespace Course

/-- Of the entries that stand for terms, one cannot be had: the call for it comes to the fault, and
the calls for the terms before it are answered. -/
def Loses (c : Course) (terms : List String) (n : Nat) (fault : Fault) : Prop :=
  ∃ k term, terms[k]? = some term ∧ (c (n + k)).definitions.firstForTerm term = .error fault ∧
    ∀ i < k, ∀ earlier, terms[i]? = some earlier →
      ∃ found, (c (n + i)).definitions.firstForTerm earlier = .ok found

/-- The lookup of a filter, begun after `n` calls, comes to the fault: at one of its calls, or at
once where it is asked for the terms close to no text. -/
inductive Breaks (c : Course) (m : Matching) (f : Filter) (n : Nat) (fault : Fault) : Prop where
  | definition (kind : f.kind = .definition)
      (failed : (c n).definitions.byDefinition f.text = .error fault)
  | label (of : LabelKind) (kind : f.kind = .label of)
      (failed : ((c n).labels of).entriesWith f.text = .error fault)
  | substring (kind : f.kind = .term) (way : m.termMatch = .substring)
      (failed : (c n).definitions.byTerm f.text = .error fault)
  | nothing (kind : f.kind = .term) (way : m.termMatch = .fuzzy) (empty : f.text = "")
      (refused : fault = .emptyTerm)
  | close (kind : f.kind = .term) (way : m.termMatch = .fuzzy) (text : f.text ≠ "")
      (failed : (c n).definitions.termsWithin f.text m.maxDistance = .error fault)
  | first (kind : f.kind = .term) (way : m.termMatch = .fuzzy) (text : f.text ≠ "")
      (terms : List String)
      (close : (c n).definitions.termsWithin f.text m.maxDistance = .ok terms)
      (failed : c.Loses terms (n + 1) fault)

/-- The labels of an entry cannot be fetched after `n` calls: its tags, or its locales after
them. -/
inductive Lacks (c : Course) (e : Entry) (n : Nat) (fault : Fault) : Prop where
  | tags (failed : (c n).tags.namesOf e.id = .error fault)
  | locales (tags : List (Option String)) (fetched : (c n).tags.namesOf e.id = .ok tags)
      (failed : (c (n + 1)).locales.namesOf e.id = .error fault)

variable {c : Course} {m : Matching} {f : Filter} {e : Entry} {n : Nat} {fault : Fault}

theorem loses_cons_iff (term : String) (rest : List String) :
    c.Loses (term :: rest) n fault ↔
      (c n).definitions.firstForTerm term = .error fault ∨
        (∃ found, (c n).definitions.firstForTerm term = .ok found) ∧
          c.Loses rest (n + 1) fault := by
  constructor
  · intro lost
    obtain ⟨k, other, place, failed, earlier⟩ := lost
    cases k with
    | zero =>
        cases place
        exact Or.inl failed
    | succ k =>
        have front := earlier 0 (Nat.succ_pos k) term rfl
        have shift : ∀ i, n + 1 + i = n + (i + 1) := fun i => by omega
        refine Or.inr ⟨front, k, other, place, ?_, fun i before other place => ?_⟩
        · rw [shift]
          exact failed
        · rw [shift]
          exact earlier (i + 1) (Nat.succ_lt_succ before) other place
  · intro either
    rcases either with failed | ⟨front, k, other, place, failed, earlier⟩
    · exact ⟨0, term, rfl, failed, nofun⟩
    · have shift : ∀ i, n + (i + 1) = n + 1 + i := fun i => by omega
      refine ⟨k + 1, other, place, ?_, fun i before other place => ?_⟩
      · rw [shift]
        exact failed
      · cases i with
        | zero =>
            cases place
            exact front
        | succ i =>
            rw [shift]
            exact earlier i (Nat.lt_of_succ_lt_succ before) other place

theorem firstEntries_eq_error_iff (terms : List String) :
    (c.firstEntries terms n).answer = .error fault ↔ c.Loses terms n fault := by
  induction terms generalizing n with
  | nil => simp [firstEntries, Loses]
  | cons term rest ih =>
      rw [loses_cons_iff, ← ih, firstEntries]
      cases (c n).definitions.firstForTerm term with
      | error other => simp
      | ok found => simp [map_eq_error_iff]

theorem yield_eq_error_iff : (c.yield m f n).answer = .error fault ↔ c.Breaks m f n fault := by
  constructor
  · intro failed
    unfold yield at failed
    cases kind : f.kind with
    | definition =>
        rw [kind] at failed
        exact .definition kind failed
    | label of =>
        rw [kind] at failed
        exact .label of kind failed
    | term =>
        rw [kind] at failed
        cases way : m.termMatch with
        | substring =>
            rw [way] at failed
            exact .substring kind way failed
        | fuzzy =>
            simp only [way, closeEntries] at failed
            by_cases empty : f.text = ""
            · rw [if_pos empty] at failed
              cases failed
              exact .nothing kind way empty rfl
            · rw [if_neg empty] at failed
              cases close : (c n).definitions.termsWithin f.text m.maxDistance with
              | error other =>
                  rw [close] at failed
                  cases failed
                  exact .close kind way empty close
              | ok terms =>
                  rw [close] at failed
                  have lost := (firstEntries_eq_error_iff terms).1 failed
                  exact .first kind way empty terms close lost
  · intro breaks
    cases breaks with
    | definition kind failed => simp only [yield, kind, failed]
    | label of kind failed => simp only [yield, kind, failed]
    | substring kind way failed => simp only [yield, kind, way, failed]
    | nothing kind way empty refused =>
        simp only [yield, kind, way, closeEntries, empty, refused, if_true]
    | close kind way text failed =>
        simp only [yield, kind, way, closeEntries, text, failed, if_false]
    | first kind way text terms close failed =>
        simp only [yield, kind, way, closeEntries, text, close, if_false]
        exact (firstEntries_eq_error_iff terms).2 failed

theorem composite_eq_error_iff :
    (c.composite e n).answer = .error fault ↔ c.Lacks e n fault := by
  constructor
  · intro failed
    unfold composite at failed
    cases tags : (c n).tags.namesOf e.id with
    | error other =>
        rw [tags] at failed
        cases failed
        exact .tags tags
    | ok names =>
        rw [tags] at failed
        exact .locales names tags (map_eq_error_iff.1 failed)
  · intro lacks
    cases lacks with
    | tags failed => simp only [composite, failed]
    | locales tags fetched failed => simp [composite, fetched, failed, Except.map]

theorem composite_eq_ok_iff {made : Composite} :
    (c.composite e n).answer = .ok made ↔ made.entry = e ∧
      (c n).tags.namesOf e.id = .ok made.tags ∧
      (c (n + 1)).locales.namesOf e.id = .ok made.locales := by
  unfold composite
  cases (c n).tags.namesOf e.id with
  | error fault => simp
  | ok tags =>
      simp only [map_eq_ok_iff, Except.ok.injEq]
      constructor
      · rintro ⟨locales, fetched, rfl⟩
        exact ⟨rfl, rfl, fetched⟩
      · rintro ⟨rfl, rfl, fetched⟩
        exact ⟨made.locales, fetched, rfl⟩

variable (c m)

/-- The filters, each with the number of calls before its lookup. -/
def lookups (filters : List Filter) (n : Nat) : List (Filter × Nat) := asked (c.yield m) filters n

/-- The entries that the lookups came to, each once. -/
def candidates (filters : List Filter) (n : Nat) : List Entry :=
  Entry.distinct (gained (c.yield m) (c.lookups m filters n)).flatten

variable (arrange : List Entry → List Entry)

/-- The candidates, each with the number of calls before its labels are fetched. -/
def fetches (filters : List Filter) (n : Nat) : List (Entry × Nat) :=
  asked c.composite (arrange (c.candidates m filters n)) (askedBy (c.yield m) filters n)

/-- The failure of the lookup of a filter. -/
def retrieval? : Filter × Nat → Option Failure := loss? (c.yield m) .retrieve

def assembly? : Entry × Nat → Option Failure := loss? c.composite fun e => .assemble e.id

/-- The failures of a search: those of the lookups of filters, and then those of candidates. -/
def failed (filters : List Filter) (n : Nat) : List Failure :=
  (c.lookups m filters n).filterMap (c.retrieval? m) ++
    (c.fetches m arrange filters n).filterMap c.assembly?

/-- The entries that a search returns where no label is without a name. -/
def kept (filters : List Filter) (n : Nat) : List Entry :=
  Entry.distinct (((gained c.composite (c.fetches m arrange filters n)).filter
    (m.accepts filters)).map (·.entry))

variable {c m arrange} {filters : List Filter}

theorem retrieval_iff {l : Filter × Nat} {failure : Failure} :
    c.retrieval? m l = some failure ↔
      ∃ fault, c.Breaks m l.1 l.2 fault ∧ failure = .retrieve l.1 fault ∧
        failure.Tells "retrieve" fault (some l.1) none := by
  simp only [retrieval?, loss_iff, yield_eq_error_iff]
  constructor
  · rintro ⟨fault, breaks, rfl⟩
    exact ⟨fault, breaks, rfl, rfl, rfl, rfl, rfl⟩
  · rintro ⟨fault, breaks, rfl, -⟩
    exact ⟨fault, breaks, rfl⟩

theorem assembly_iff {t : Entry × Nat} {failure : Failure} :
    c.assembly? t = some failure ↔
      ∃ fault, c.Lacks t.1 t.2 fault ∧ failure = .assemble t.1.id fault ∧
        failure.Tells "assemble" fault none (some t.1.id) := by
  simp only [assembly?, loss_iff, composite_eq_error_iff]
  constructor
  · rintro ⟨fault, lacks, rfl⟩
    exact ⟨fault, lacks, rfl, rfl, rfl, rfl, rfl⟩
  · rintro ⟨fault, lacks, rfl, -⟩
    exact ⟨fault, lacks, rfl⟩

theorem map_fetches (arranges : ∀ entries, (arrange entries).Perm entries) :
    ((c.fetches m arrange filters n).map (·.1)).Perm (c.candidates m filters n) := by
  rw [fetches, map_asked]
  exact arranges _

theorem nodup_fetches (arranges : ∀ entries, (arrange entries).Perm entries) :
    ((c.fetches m arrange filters n).map (·.1.id)).Nodup := by
  have once : ((c.candidates m filters n).map (·.id)).Nodup :=
    nodup_map_distinctOn (fun e : Entry => e.id) _
  have order : ((c.fetches m arrange filters n).map (·.1)).Perm (c.candidates m filters n) :=
    map_fetches arranges
  have ids := order.map (·.id)
  rw [List.map_map] at ids
  exact ids.nodup_iff.2 once

/-- A candidate is an entry that a lookup came to, and all that a lookup comes to are candidates,
if only under their id. -/
theorem mem_candidates {e : Entry} (candidate : e ∈ c.candidates m filters n) :
    ∃ l ∈ c.lookups m filters n, ∃ found, (c.yield m l.1 l.2).answer = .ok found ∧ e ∈ found := by
  obtain ⟨found, gain, inside⟩ := List.mem_flatten.1 (mem_of_mem_distinctOn candidate)
  obtain ⟨l, member, answer⟩ := mem_gained_iff.1 gain
  exact ⟨l, member, found, answer, inside⟩

theorem exists_candidate {l : Filter × Nat} (member : l ∈ c.lookups m filters n)
    {found : List Entry} (answer : (c.yield m l.1 l.2).answer = .ok found) {e : Entry}
    (inside : e ∈ found) : ∃ d ∈ c.candidates m filters n, d.id = e.id :=
  exists_mem_distinctOn (fun e : Entry => e.id)
    (List.mem_flatten.2 ⟨found, mem_gained_iff.2 ⟨l, member, answer⟩, inside⟩)

theorem isRecorded_of_breaks (answering : ∀ k, (c k).Answering) (breaks : c.Breaks m f n fault) :
    fault.isRecorded = true := by
  cases breaks with
  | nothing kind way empty refused => exact congrArg Fault.isRecorded refused
  | definition kind failed =>
      exact Fault.isRecorded_of_isOutage ((answering _).byDefinition _ _ failed)
  | label of kind failed =>
      exact Fault.isRecorded_of_isOutage ((answering _).entriesWith _ _ _ failed)
  | substring kind way failed =>
      exact Fault.isRecorded_of_isOutage ((answering _).byTerm _ _ failed)
  | close kind way text failed =>
      exact Fault.isRecorded_of_isOutage ((answering _).termsWithin _ _ _ failed)
  | first kind way text terms close failed =>
      obtain ⟨k, term, -, failed, -⟩ := failed
      exact Fault.isRecorded_of_isOutage ((answering _).firstForTerm _ _ failed)

theorem isOutage_of_lacks (answering : ∀ k, (c k).Answering) (lacks : c.Lacks e n fault) :
    fault.isOutage = true := by
  cases lacks with
  | tags failed => exact (answering n).namesOf .tag _ _ failed
  | locales tags fetched failed => exact (answering (n + 1)).namesOf .locale _ _ failed

theorem named_of_composite (named : ∀ k, (c k).Named) {made : Composite}
    (answer : (c.composite e n).answer = .ok made) : made.Named := by
  obtain ⟨-, tags, locales⟩ := composite_eq_ok_iff.1 answer
  intro kind
  cases kind with
  | tag => exact named n .tag _ _ tags
  | locale => exact named (n + 1) .locale _ _ locales

/-- A search comes to its end, and adds its failures to the list that it was given. -/
theorem find_eq (answering : ∀ k, (c k).Answering) (named : ∀ k, (c k).Named)
    (known : Option (List Failure)) :
    c.find m arrange filters ⟨n, known⟩ =
      (.ok (c.kept m arrange filters n),
        ⟨askedBy c.composite (arrange (c.candidates m filters n)) (askedBy (c.yield m) filters n),
          known.map (· ++ c.failed m arrange filters n)⟩) := by
  have retrieved := askAll_eq (c.yield m) Fault.isRecorded .retrieve
    (fun _ _ _ failed => isRecorded_of_breaks answering (yield_eq_error_iff.1 failed)) filters n
  have assembled := askAll_eq c.composite Fault.isOutage (fun e => .assemble e.id)
    (fun _ _ _ failed => isOutage_of_lacks answering (composite_eq_error_iff.1 failed))
    (arrange (c.candidates m filters n)) (askedBy (c.yield m) filters n)
  have narrowed : m.narrow (gained c.composite (c.fetches m arrange filters n)) filters =
      .ok (c.kept m arrange filters n) := by
    rw [Matching.narrow, m.survivors_of_named filters fun made member => ?_]
    · rfl
    · obtain ⟨t, -, answer⟩ := mem_gained_iff.1 member
      exact named_of_composite named answer
  rw [find, retrieved]
  dsimp only
  rw [← lookups, ← candidates, assembled]
  dsimp only
  rw [← fetches, narrowed, failed]
  cases known with
  | none => rfl
  | some before => simp [retrieval?, assembly?]

/-- The fetch of an entry brings labels with which it passes every filter. -/
def Passes (c : Course) (m : Matching) (filters : List Filter) (t : Entry × Nat) : Prop :=
  ∃ tags locales, (c t.2).tags.namesOf t.1.id = .ok tags ∧
    (c (t.2 + 1)).locales.namesOf t.1.id = .ok locales ∧
    ∀ f ∈ filters, m.passes ⟨t.1, tags, locales⟩ f = .ok true

theorem mem_survivors_iff (fetched : List (Entry × Nat)) (e : Entry) :
    e ∈ ((gained c.composite fetched).filter (m.accepts filters)).map (·.entry) ↔
      ∃ t ∈ fetched, t.1 = e ∧ c.Passes m filters t := by
  simp only [List.mem_map, List.mem_filter, mem_gained_iff, Matching.accepts_iff,
    composite_eq_ok_iff]
  constructor
  · rintro ⟨made, ⟨⟨t, member, entry, tags, locales⟩, passes⟩, rfl⟩
    refine ⟨t, member, entry.symm, made.tags, made.locales, tags, locales, ?_⟩
    rw [← entry]
    exact passes
  · rintro ⟨t, member, rfl, tags, locales, tagged, located, passes⟩
    exact ⟨⟨t.1, tags, locales⟩, ⟨⟨t, member, rfl, tagged, located⟩, passes⟩, rfl⟩

theorem mem_kept_iff (arranges : ∀ entries, (arrange entries).Perm entries) (e : Entry) :
    e ∈ c.kept m arrange filters n ↔
      ∃ t ∈ c.fetches m arrange filters n, t.1 = e ∧ c.Passes m filters t := by
  rw [kept, Entry.distinct, mem_distinctOn_iff, mem_survivors_iff]
  intro d first e second same
  obtain ⟨t, member, rfl, -⟩ := (mem_survivors_iff _ d).1 first
  obtain ⟨u, inside, rfl, -⟩ := (mem_survivors_iff _ e).1 second
  rw [List.inj_on_of_nodup_map (nodup_fetches arranges) member inside same]

/-- The labels of an entry that is returned were fetched. -/
theorem id_ne_of_mem_kept (arranges : ∀ entries, (arrange entries).Perm entries) {e : Entry}
    (member : e ∈ c.kept m arrange filters n) {failure : Failure}
    (failed : failure ∈ (c.fetches m arrange filters n).filterMap c.assembly?) :
    failure.id? ≠ some e.id := by
  obtain ⟨t, fetched, rfl, tags, locales, tagged, located, -⟩ := (mem_kept_iff arranges e).1 member
  obtain ⟨u, inside, lost⟩ := List.mem_filterMap.1 failed
  obtain ⟨fault, lacks, rfl, -⟩ := assembly_iff.1 lost
  intro same
  obtain rfl := List.inj_on_of_nodup_map (nodup_fetches arranges) inside fetched
    (Option.some.inj same)
  have made : (c.composite u.1 u.2).answer = .ok ⟨u.1, tags, locales⟩ :=
    composite_eq_ok_iff.2 ⟨rfl, tagged, located⟩
  exact ne_error_of_ok made fault (composite_eq_error_iff.2 lacks)

/-- The account of a search that began after `n` calls. -/
structure Accounts (c : Course) (m : Matching) (arrange : List Entry → List Entry)
    (filters : List Filter) (n : Nat) (entries : List Entry) (failures : List Failure) : Prop where
  /-- Every filter is looked up, in order. -/
  looked : (c.lookups m filters n).map (·.1) = filters
  /-- A lookup has a failure exactly if it comes to a fault. The failure carries its filter and the
  message of the fault. -/
  retrieval : ∀ l failure, c.retrieval? m l = some failure ↔
    ∃ fault, c.Breaks m l.1 l.2 fault ∧ failure = .retrieve l.1 fault ∧
      failure.Tells "retrieve" fault (some l.1) none
  /-- Every candidate comes from a lookup without a fault. -/
  gained : ∀ t ∈ c.fetches m arrange filters n, ∃ l ∈ c.lookups m filters n, ∃ found,
    (c.yield m l.1 l.2).answer = .ok found ∧ t.1 ∈ found
  /-- All that such a lookup came to are candidates, each id once. -/
  fetched : ∀ l ∈ c.lookups m filters n, ∀ found, (c.yield m l.1 l.2).answer = .ok found →
    ∀ e ∈ found, ∃ t ∈ c.fetches m arrange filters n, t.1.id = e.id
  once : ((c.fetches m arrange filters n).map (·.1.id)).Nodup
  /-- A candidate has a failure exactly if its labels cannot be fetched. The failure carries its id
  and the message of the fault. -/
  assembly : ∀ t failure, c.assembly? t = some failure ↔
    ∃ fault, c.Lacks t.1 t.2 fault ∧ failure = .assemble t.1.id fault ∧
      failure.Tells "assemble" fault none (some t.1.id)
  /-- These are the failures, and there are no others. -/
  recorded : failures = (c.lookups m filters n).filterMap (c.retrieval? m) ++
    (c.fetches m arrange filters n).filterMap c.assembly?
  /-- Those candidates are returned that pass all filters, also the ones whose lookup failed. -/
  returned : ∀ e, e ∈ entries ↔
    ∃ t ∈ c.fetches m arrange filters n, t.1 = e ∧ c.Passes m filters t
  /-- No entry is returned whose labels could not be fetched. -/
  complete : ∀ e ∈ entries, ∀ failure ∈ (c.fetches m arrange filters n).filterMap c.assembly?,
    failure.id? ≠ some e.id

theorem accounts (arranges : ∀ entries, (arrange entries).Perm entries) :
    c.Accounts m arrange filters n (c.kept m arrange filters n) (c.failed m arrange filters n) where
  looked := map_asked filters n
  retrieval _ _ := retrieval_iff
  gained t member := by
    apply mem_candidates
    exact (map_fetches arranges).mem_iff.1 (List.mem_map_of_mem member)
  fetched l member found answer e inside := by
    obtain ⟨d, candidate, same⟩ := exists_candidate member answer inside
    obtain ⟨t, fetch, rfl⟩ := List.mem_map.1 ((map_fetches arranges).mem_iff.2 candidate)
    exact ⟨t, fetch, same⟩
  once := nodup_fetches arranges
  assembly _ _ := assembly_iff
  recorded := rfl
  returned := mem_kept_iff arranges
  complete _ member _ := id_ne_of_mem_kept arranges member

end Course

/-- A search over any course of stores whose calls come to an answer or to an outage, and whose
labels have names, never comes to a fault. Beginning after `n` calls, it returns the same entries
whether it was given a list of failures or not, and to a list it adds exactly the failures of its
account. The search of a store is such a search, over the course that stays at the store. -/
theorem failures_accounted (c : Course) (m : Matching) (filters : List Filter)
    (arrange : List Entry → List Entry) (n : Nat) (answering : ∀ k, (c k).Answering)
    (named : ∀ k, (c k).Named) (arranges : ∀ entries, (arrange entries).Perm entries) :
    (∃ entries failures calls, c.Accounts m arrange filters n entries failures ∧
      ∀ known, c.find m arrange filters ⟨n, known⟩ =
        (.ok entries, ⟨calls, known.map (· ++ failures)⟩)) ∧
    ∀ s : Store, (s.find m filters).result =
      let run := (Course.still s).find m id filters ⟨n, some []⟩
      run.1.map (·, run.2.failures.getD []) :=
  ⟨⟨_, _, _, Course.accounts arranges, Course.find_eq answering named⟩,
    fun s => s.find_eq_still m filters n⟩

/-- The two walls, with an outage at the third call and another at the seventh. -/
def leakyWalls : Course := fun n =>
  if n = 2 ∨ n = 6 then ({ lookups := Lookup.all } : Disruption).onStore wallsFile.toStore
  else wallsFile.toStore

/-- A term that is close to those of both walls, the tag of both, and no text. -/
def closeFilters : List Filter :=
  [⟨.term, "dam", false⟩, ⟨.label .tag, "water", false⟩, ⟨.term, "", false⟩]

theorem leakyWalls_falters (k : Nat) : (leakyWalls k).Falters wallsFile.toStore := by
  unfold leakyWalls
  split
  · exact Disruption.falters _ _ rfl
  · exact Store.Falters.refl _

theorem wallsFile_named : wallsFile.toStore.Named := by
  refine DatabaseFile.named fun kind rows table => ?_
  cases kind <;> cases table <;> decide

/-- The lookup of the term is lost when it has the first of two entries, no text has no close terms,
and the tags of the second candidate are lost. The first one is found by its tag, and passes the
filters whose lookup failed as well. -/
theorem failures_accounted_walls :
    (∀ k, (leakyWalls k).Answering) ∧ (∀ k, (leakyWalls k).Named) ∧
    (∀ entries, (id entries : List Entry).Perm entries) ∧
    ∃ entries failures calls, leakyWalls.Accounts {} id closeFilters 0 entries failures ∧
      (∀ known, leakyWalls.find {} id closeFilters ⟨0, known⟩ =
        (.ok entries, ⟨calls, known.map (· ++ failures)⟩)) ∧
      entries = [⟨"1", "dam", "A wall", "0"⟩] ∧
      failures = [.retrieve ⟨.term, "dam", false⟩ (.outage "first_entry_for_term" none),
        .retrieve ⟨.term, "", false⟩ .emptyTerm, .assemble "2" (.outage "tags_for" none)] ∧
      failures.map (fun f => (f.stage, f.message, f.filter?, f.id?)) =
        [("retrieve", "Storage lookup 'first_entry_for_term' failed: Unknown error",
            some ⟨.term, "dam", false⟩, none),
          ("retrieve", "The supplied term must be non-null and non-empty.",
            some ⟨.term, "", false⟩, none),
          ("assemble", "Storage lookup 'tags_for' failed: Unknown error", none, some "2")] := by
  have answering : ∀ k, (leakyWalls k).Answering := fun k =>
    (leakyWalls_falters k).answering wallsFile.answering
  have named : ∀ k, (leakyWalls k).Named := fun k => (leakyWalls_falters k).named wallsFile_named
  have arranges : ∀ entries, (id entries : List Entry).Perm entries := List.Perm.refl
  obtain ⟨⟨entries, failures, calls, account, run⟩, -⟩ :=
    failures_accounted leakyWalls {} closeFilters id 0 answering named arranges
  refine ⟨answering, named, arranges, entries, failures, calls, account, run, ?_⟩
  have listed := run (some [])
  cases listed
  exact ⟨rfl, rfl, rfl⟩

end Glossary
