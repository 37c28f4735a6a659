import Glossary.Search

set_option autoImplicit false

namespace Glossary

/-- The items of an answer, none if there was a fault. -/
def answered {α : Type} : Except Fault (List α) → List α
  | .ok items => items
  | .error _ => []

@[simp] theorem answered_ok {α : Type} (items : List α) : answered (.ok items) = items := rfl

@[simp] theorem answered_error {α : Type} (fault : Fault) :
    answered (.error fault : Except Fault (List α)) = [] := rfl

theorem ne_error_of_ok {α : Type} {answer : Except Fault α} {a : α} (due : answer = .ok a)
    (fault : Fault) : answer ≠ .error fault := by
  rw [due]
  intro same
  cases same

theorem mem_answered_iff {α : Type} {answer : Except Fault (List α)} {x : α} :
    x ∈ answered answer ↔ ∃ items, answer = .ok items ∧ x ∈ items := by
  cases answer <;> simp

/-- Every label has a name. -/
def Composite.Named (c : Composite) : Prop := ∀ kind, none ∉ c.labels kind

theorem carries_of_named (name : String) {names : List (Option String)} (named : none ∉ names) :
    carries name names =
      .ok (names.any fun n => decide (n.map Text.lower = some (Text.lower name))) := by
  induction names with
  | nil => rfl
  | cons n rest ih =>
      rw [List.mem_cons, not_or] at named
      cases n with
      | none => exact absurd rfl named.1
      | some n =>
          simp only [carries, ih named.2, List.any_cons, Option.map_some, Option.some.injEq]
          split <;> simp_all

namespace Matching

theorem passes_of_named (m : Matching) {c : Composite} (named : c.Named) (f : Filter) :
    ∃ passed, m.passes c f = .ok passed := by
  simp only [passes]
  split
  · rename_i kind _
    exact ⟨_, carries_of_named f.text (named kind)⟩
  · exact ⟨_, rfl⟩
  · exact ⟨_, rfl⟩

theorem passesAll_of_named (m : Matching) {c : Composite} (named : c.Named)
    (filters : List Filter) : ∃ passed, m.passesAll c filters = .ok passed := by
  induction filters with
  | nil => exact ⟨true, rfl⟩
  | cons f rest ih =>
      obtain ⟨passed, answer⟩ := m.passes_of_named named f
      rw [passesAll, answer]
      cases passed with
      | false => exact ⟨false, rfl⟩
      | true => exact ih

theorem passesAll_iff (m : Matching) (c : Composite) (filters : List Filter) :
    m.passesAll c filters = .ok true ↔ ∀ f ∈ filters, m.passes c f = .ok true := by
  induction filters with
  | nil => simp [passesAll]
  | cons f rest ih =>
      rw [passesAll, List.forall_mem_cons, ← ih]
      cases m.passes c f with
      | error fault => simp
      | ok passed => cases passed <;> simp

/-- The composite passes every filter. -/
def accepts (m : Matching) (filters : List Filter) (c : Composite) : Bool :=
  filters.all fun f => match m.passes c f with
    | .ok passed => passed
    | .error _ => false

theorem accepts_iff (m : Matching) (filters : List Filter) (c : Composite) :
    m.accepts filters c = true ↔ ∀ f ∈ filters, m.passes c f = .ok true := by
  rw [accepts, List.all_eq_true]
  refine forall_congr' fun f => imp_congr_right fun _ => ?_
  cases m.passes c f with
  | error fault => simp
  | ok passed => simp

theorem accepts_of_passesAll {m : Matching} {filters : List Filter} {c : Composite} {kept : Bool}
    (answer : m.passesAll c filters = .ok kept) : m.accepts filters c = kept := by
  have both := (m.accepts_iff filters c).trans (m.passesAll_iff c filters).symm
  rw [answer, Except.ok.injEq] at both
  exact Bool.eq_iff_iff.2 both

theorem survivors_of_named (m : Matching) (filters : List Filter) {composites : List Composite}
    (named : ∀ c ∈ composites, c.Named) :
    m.survivors filters composites =
      .ok ((composites.filter (m.accepts filters)).map (·.entry)) := by
  induction composites with
  | nil => rfl
  | cons c rest ih =>
      obtain ⟨kept, answer⟩ := m.passesAll_of_named (named c List.mem_cons_self) filters
      rw [survivors, answer, ih fun d member => named d (List.mem_cons_of_mem c member),
        List.filter_cons, accepts_of_passesAll answer]
      cases kept <;> rfl

end Matching

namespace Store

/-- The filter as the check of labels leaves it. -/
def verify (s : Store) (f : Filter) : Filter :=
  match s.confirms f with
  | .ok found => { f with verified := f.verified || found }
  | .error _ => f

@[simp] theorem verify_kind (s : Store) (f : Filter) : (s.verify f).kind = f.kind := by
  unfold verify
  split <;> rfl

@[simp] theorem verify_text (s : Store) (f : Filter) : (s.verify f).text = f.text := by
  unfold verify
  split <;> rfl

@[simp] theorem verify_key (s : Store) (f : Filter) : (s.verify f).key = f.key := by
  simp only [Filter.key, verify_kind, verify_text]

@[simp] theorem yield_verify (s t : Store) (m : Matching) (f : Filter) :
    s.yield m (t.verify f) = s.yield m f := by
  simp only [yield, verify_kind, verify_text]

@[simp] theorem confirms_verify (s t : Store) (f : Filter) :
    s.confirms (t.verify f) = s.confirms f := by
  simp only [confirms, verify_kind, verify_text]

@[simp] theorem passes_verify (s : Store) (m : Matching) (c : Composite) (f : Filter) :
    m.passes c (s.verify f) = m.passes c f := by
  simp only [Matching.passes, verify_kind, verify_text]

theorem validate_eq (s : Store) {filters : List Filter}
    (outages : ∀ f ∈ filters, ∀ fault, s.confirms f = .error fault → fault.isOutage = true) :
    (s.validate filters).result = .ok (filters.map s.verify) := by
  induction filters with
  | nil => rfl
  | cons f rest ih =>
      have later := ih fun g member => outages g (List.mem_cons_of_mem f member)
      rw [List.map_cons, verify, validate]
      cases answer : s.confirms f with
      | ok found =>
          simp only [later]
          rfl
      | error fault =>
          have outage := outages f List.mem_cons_self fault answer
          simp only [outage, ↓reduceIte, later]
          rfl

/-- The entries that stand for terms, where all of them can be had. -/
theorem firstEntries_eq (s : Store) {first : String → Option Entry}
    (answers : ∀ term, s.definitions.firstForTerm term = .ok (first term)) (terms : List String) :
    s.firstEntries terms = .ok (terms.flatMap fun term => (first term).toList) := by
  induction terms with
  | nil => rfl
  | cons term rest ih =>
      rw [firstEntries, answers, ih]
      rfl

def retrieval? (s : Store) (m : Matching) (f : Filter) : Option Failure :=
  match s.yield m f with
  | .ok _ => none
  | .error fault => some (.retrieve f fault)

theorem retrieval_iff {s : Store} {m : Matching} {f : Filter} {failure : Failure} :
    s.retrieval? m f = some failure ↔
      ∃ fault, s.yield m f = .error fault ∧ failure = .retrieve f fault := by
  unfold retrieval?
  cases s.yield m f <;> simp [eq_comm]

theorem yieldAll_eq (s : Store) (m : Matching) {filters : List Filter}
    (recorded : ∀ f ∈ filters, ∀ fault, s.yield m f = .error fault → fault.isRecorded = true) :
    s.yieldAll m filters =
      ⟨.ok (filters.flatMap fun f => answered (s.yield m f)),
        filters.filterMap (s.retrieval? m)⟩ := by
  induction filters with
  | nil => rfl
  | cons f rest ih =>
      have later := ih fun g member => recorded g (List.mem_cons_of_mem f member)
      rw [yieldAll, List.flatMap_cons, List.filterMap_cons, retrieval?]
      cases answer : s.yield m f with
      | ok entries =>
          simp only [later, answered_ok]
          rfl
      | error fault =>
          have known := recorded f List.mem_cons_self fault answer
          simp only [known, ↓reduceIte, later, answered_error, List.nil_append]

def assembly? (s : Store) (e : Entry) : Option Failure :=
  match s.composite e with
  | .ok _ => none
  | .error fault => some (.assemble e.id fault)

theorem assembly_iff {s : Store} {e : Entry} {failure : Failure} :
    s.assembly? e = some failure ↔
      ∃ fault, s.composite e = .error fault ∧ failure = .assemble e.id fault := by
  unfold assembly?
  cases s.composite e <;> simp [eq_comm]

theorem assemble_eq (s : Store) {entries : List Entry}
    (outages : ∀ e ∈ entries, ∀ fault, s.composite e = .error fault → fault.isOutage = true) :
    s.assemble entries =
      ⟨.ok (entries.filterMap fun e => (s.composite e).toOption),
        entries.filterMap s.assembly?⟩ := by
  induction entries with
  | nil => rfl
  | cons e rest ih =>
      have later := ih fun d member => outages d (List.mem_cons_of_mem e member)
      rw [assemble, List.filterMap_cons, List.filterMap_cons, assembly?]
      cases answer : s.composite e with
      | ok c =>
          simp only [later, Except.toOption]
          rfl
      | error fault =>
          have outage := outages e List.mem_cons_self fault answer
          simp only [outage, ↓reduceIte, later, Except.toOption]

theorem composite_entry {s : Store} {e : Entry} {c : Composite} (made : s.composite e = .ok c) :
    c.entry = e := by
  unfold composite at made
  split at made
  · cases made
  · split at made
    · cases made
    · cases made
      rfl

theorem composite_of_namesOf {s : Store} {e : Entry} {tags locales : List (Option String)}
    (tagged : s.tags.namesOf e.id = .ok tags) (located : s.locales.namesOf e.id = .ok locales) :
    s.composite e = .ok ⟨e, tags, locales⟩ := by
  rw [composite, tagged]
  simp only [located]

theorem mem_composites_iff (s : Store) (entries : List Entry) (c : Composite) :
    c ∈ entries.filterMap (fun e => (s.composite e).toOption) ↔
      ∃ e ∈ entries, s.composite e = .ok c := by
  rw [List.mem_filterMap]
  refine exists_congr fun e => and_congr_right fun _ => ?_
  cases s.composite e <;> simp [Except.toOption]

/-- Some filter yields the entry. -/
def Offers (s : Store) (m : Matching) (filters : List Filter) (e : Entry) : Prop :=
  ∃ f ∈ filters, ∃ entries, s.yield m f = .ok entries ∧ e ∈ entries

/-- The labels of the entry can be fetched, and with them it passes every filter. -/
def Keeps (s : Store) (m : Matching) (filters : List Filter) (e : Entry) : Prop :=
  ∃ c, s.composite e = .ok c ∧ ∀ f ∈ filters, m.passes c f = .ok true

/-- A store that a search gets through: its faults are such as a search records, its labels have
names, and it says the same of one id whichever filter yields it. -/
structure Steady (s : Store) (m : Matching) (filters : List Filter) : Prop where
  checks : ∀ f ∈ filters, ∀ fault, s.confirms f = .error fault → fault.isOutage = true
  lookups : ∀ f ∈ filters, ∀ fault, s.yield m f = .error fault → fault.isRecorded = true
  completes : ∀ e, s.Offers m filters e →
    ∀ fault, s.composite e = .error fault → fault.isOutage = true
  named : ∀ e, s.Offers m filters e → ∀ c, s.composite e = .ok c → c.Named
  agrees : ∀ d e, s.Offers m filters d → s.Offers m filters e → d.id = e.id → d = e

/-- The entries that the filters offer, each once. -/
def offered (s : Store) (m : Matching) (filters : List Filter) : List Entry :=
  Entry.distinct (filters.flatMap fun f => answered (s.yield m f))

variable {s : Store} {m : Matching} {filters : List Filter}

theorem mem_flatMap_answered_iff (e : Entry) :
    e ∈ filters.flatMap (fun f => answered (s.yield m f)) ↔ s.Offers m filters e := by
  simp only [List.mem_flatMap, mem_answered_iff, Offers]

theorem mem_offered_iff (agrees : ∀ d e, s.Offers m filters d → s.Offers m filters e →
    d.id = e.id → d = e) (e : Entry) : e ∈ s.offered m filters ↔ s.Offers m filters e := by
  rw [offered, Entry.distinct, mem_distinctOn_iff, mem_flatMap_answered_iff]
  intro d first e second
  exact agrees d e ((mem_flatMap_answered_iff d).1 first) ((mem_flatMap_answered_iff e).1 second)

theorem offers_map_verify (t : Store) (e : Entry) :
    s.Offers m (filters.map t.verify) e ↔ s.Offers m filters e := by
  constructor
  · intro held
    rcases held with ⟨f, member, entries, answer, inside⟩
    obtain ⟨g, unchecked, rfl⟩ := List.mem_map.1 member
    rw [yield_verify] at answer
    exact ⟨g, unchecked, entries, answer, inside⟩
  · intro held
    rcases held with ⟨f, member, entries, answer, inside⟩
    exact ⟨t.verify f, List.mem_map_of_mem member, entries, by rwa [yield_verify], inside⟩

theorem keeps_map_verify (t : Store) (e : Entry) :
    s.Keeps m (filters.map t.verify) e ↔ s.Keeps m filters e := by
  simp only [Keeps, List.forall_mem_map, passes_verify]

theorem Steady.map_verify (steady : s.Steady m filters) (t : Store) :
    s.Steady m (filters.map t.verify) where
  checks := by simpa only [List.forall_mem_map, confirms_verify] using steady.checks
  lookups := by simpa only [List.forall_mem_map, yield_verify] using steady.lookups
  completes := by
    intro e offers
    exact steady.completes e ((offers_map_verify t e).1 offers)
  named := by
    intro e offers
    exact steady.named e ((offers_map_verify t e).1 offers)
  agrees := by
    intro d e first second
    exact steady.agrees d e ((offers_map_verify t d).1 first) ((offers_map_verify t e).1 second)

/-- The entries that a search of a steady store returns. -/
def kept (s : Store) (m : Matching) (filters : List Filter) : List Entry :=
  Entry.distinct
    ((((s.offered m filters).filterMap fun e => (s.composite e).toOption).filter
      (m.accepts filters)).map (·.entry))

theorem offered_map_verify (t : Store) :
    s.offered m (filters.map t.verify) = s.offered m filters := by
  simp only [offered, List.flatMap_map, yield_verify]

theorem kept_map_verify (t : Store) : s.kept m (filters.map t.verify) = s.kept m filters := by
  have same : m.accepts (filters.map t.verify) = m.accepts filters := by
    funext c
    simp only [Matching.accepts, List.all_map, Function.comp_def, passes_verify]
  rw [kept, offered_map_verify, same, kept]

theorem nodup_kept (s : Store) (m : Matching) (filters : List Filter) :
    ((s.kept m filters).map (·.id)).Nodup :=
  nodup_map_distinctOn (fun e : Entry => e.id) _

/-- The failures that a search of a steady store records. -/
def failed (s : Store) (m : Matching) (filters : List Filter) : List Failure :=
  filters.filterMap (s.retrieval? m) ++ (s.offered m filters).filterMap s.assembly?

/-- A store whose faults are such as a search records. -/
structure Recordable (s : Store) (m : Matching) (filters : List Filter) : Prop where
  checks : ∀ f ∈ filters, ∀ fault, s.confirms f = .error fault → fault.isOutage = true
  lookups : ∀ f ∈ filters, ∀ fault, s.yield m f = .error fault → fault.isRecorded = true
  completes : ∀ e ∈ s.offered m filters,
    ∀ fault, s.composite e = .error fault → fault.isOutage = true

/-- The offered entries with their labels, as far as these can be fetched. -/
def joined (s : Store) (m : Matching) (filters : List Filter) : List Composite :=
  (s.offered m filters).filterMap fun e => (s.composite e).toOption

theorem mem_joined_iff (c : Composite) :
    c ∈ s.joined m filters ↔ ∃ e ∈ s.offered m filters, s.composite e = .ok c :=
  mem_composites_iff s (s.offered m filters) c

/-- With all failures recorded, only the test of the filters decides how a search ends. -/
theorem find_of_recordable (recordable : s.Recordable m filters) :
    (s.find m filters).result =
      (m.narrow (s.joined m filters) filters).map (·, s.failed m filters) := by
  have retrieved : s.retrieve m filters =
      ⟨.ok (s.offered m filters), filters.filterMap (s.retrieval? m)⟩ := by
    rw [retrieve, yieldAll_eq s m recordable.lookups]
    rfl
  simp only [find, retrieved, assemble_eq s recordable.completes]
  rfl

theorem Steady.recordable (steady : s.Steady m filters) : s.Recordable m filters where
  checks := steady.checks
  lookups := steady.lookups
  completes e member := steady.completes e ((mem_offered_iff steady.agrees e).1 member)

theorem find_of_steady (steady : s.Steady m filters) :
    (s.find m filters).result = .ok (s.kept m filters, s.failed m filters) := by
  have named : ∀ c ∈ s.joined m filters, c.Named := by
    intro c member
    obtain ⟨e, offered, made⟩ := (mem_joined_iff c).1 member
    exact steady.named e ((mem_offered_iff steady.agrees e).1 offered) c made
  rw [find_of_recordable steady.recordable, Matching.narrow,
    Matching.survivors_of_named m filters named]
  rfl

theorem mem_survivors_iff (s : Store) (m : Matching) (filters : List Filter) (entries : List Entry)
    (e : Entry) :
    e ∈ ((entries.filterMap fun e => (s.composite e).toOption).filter (m.accepts filters)).map
        (·.entry) ↔ e ∈ entries ∧ s.Keeps m filters e := by
  simp only [List.mem_map, List.mem_filter, mem_composites_iff, Matching.accepts_iff, Keeps]
  constructor
  · intro held
    rcases held with ⟨c, ⟨⟨d, inside, made⟩, passes⟩, rfl⟩
    rw [composite_entry made]
    exact ⟨inside, c, made, passes⟩
  · intro held
    rcases held with ⟨inside, c, made, passes⟩
    exact ⟨c, ⟨⟨e, inside, made⟩, passes⟩, composite_entry made⟩

theorem mem_kept_iff (steady : s.Steady m filters) (e : Entry) :
    e ∈ s.kept m filters ↔ s.Offers m filters e ∧ s.Keeps m filters e := by
  have member : ∀ e, e ∈ (((s.offered m filters).filterMap fun e =>
      (s.composite e).toOption).filter (m.accepts filters)).map (·.entry) ↔
        s.Offers m filters e ∧ s.Keeps m filters e := by
    intro e
    rw [mem_survivors_iff, mem_offered_iff steady.agrees]
  rw [kept, Entry.distinct, mem_distinctOn_iff, member]
  intro d first e second
  exact steady.agrees d e ((member d).1 first).1 ((member e).1 second).1

theorem mem_failed_offered_iff (failure : Failure) :
    failure ∈ s.failed m filters ↔
      (∃ f ∈ filters, ∃ fault, s.yield m f = .error fault ∧ failure = .retrieve f fault) ∨
        ∃ e ∈ s.offered m filters,
          ∃ fault, s.composite e = .error fault ∧ failure = .assemble e.id fault := by
  simp only [failed, List.mem_append, List.mem_filterMap, retrieval_iff, assembly_iff]

theorem mem_failed_iff (steady : s.Steady m filters) (failure : Failure) :
    failure ∈ s.failed m filters ↔
      (∃ f ∈ filters, ∃ fault, s.yield m f = .error fault ∧ failure = .retrieve f fault) ∨
        ∃ e, s.Offers m filters e ∧
          ∃ fault, s.composite e = .error fault ∧ failure = .assemble e.id fault := by
  simp only [mem_failed_offered_iff, mem_offered_iff steady.agrees]

/-- What a search of a steady store brings back. -/
theorem search_of_steady {query : String} (steady : s.Steady m (Query.parse query)) :
    (s.search m (some query)).result =
      .ok ⟨query, (Query.parse query).map s.verify,
        s.kept m ((Query.parse query).map s.verify),
        s.failed m ((Query.parse query).map s.verify)⟩ := by
  have checked : (s.filtersOf (some query)).result = .ok ((Query.parse query).map s.verify) :=
    validate_eq s steady.checks
  simp only [search, checked, find_of_steady (steady.map_verify s), Option.getD_some]

end Store

end Glossary
