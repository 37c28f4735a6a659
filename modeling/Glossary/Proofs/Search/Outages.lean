import Glossary.Proofs.Memory.Search
import Glossary.Store.Disrupted

set_option autoImplicit false

namespace Glossary

/-- The answer is the one that is due, or the store could not answer. -/
inductive OrOutage {α : Type} (due : Except Fault α) : Except Fault α → Prop where
  | due : OrOutage due due
  | outage (operation : String) (reason : Option String) :
      OrOutage due (.error (.outage operation reason))

namespace OrOutage

variable {α β : Type} {due answer : Except Fault α}

theorem eq_of_ok {a : α} (either : OrOutage due (.ok a)) : due = .ok a := by
  cases either
  rfl

theorem isOutage {fault : Fault} (either : OrOutage due (.error fault)) :
    due = .error fault ∨ fault.isOutage = true := by
  cases either with
  | due => exact Or.inl rfl
  | outage => exact Or.inr rfl

theorem map (either : OrOutage due answer) (f : α → β) : OrOutage (due.map f) (answer.map f) := by
  cases either with
  | due => exact .due
  | outage operation reason => exact .outage operation reason

end OrOutage

namespace Store

/-- Every call to `w` has the answer that `s` gives to it, or none for an outage. -/
structure Falters (w s : Store) : Prop where
  byDefinition : ∀ text,
    OrOutage (s.definitions.byDefinition text) (w.definitions.byDefinition text)
  byTerm : ∀ text, OrOutage (s.definitions.byTerm text) (w.definitions.byTerm text)
  termsWithin : ∀ text n,
    OrOutage (s.definitions.termsWithin text n) (w.definitions.termsWithin text n)
  firstForTerm : ∀ term,
    OrOutage (s.definitions.firstForTerm term) (w.definitions.firstForTerm term)
  holds : ∀ kind name, OrOutage ((s.labels kind).holds name) ((w.labels kind).holds name)
  namesOf : ∀ kind id, OrOutage ((s.labels kind).namesOf id) ((w.labels kind).namesOf id)
  entriesWith : ∀ kind name,
    OrOutage ((s.labels kind).entriesWith name) ((w.labels kind).entriesWith name)

namespace Falters

variable {w s : Store} {m : Matching} {filters : List Filter}

theorem confirms (falters : w.Falters s) (f : Filter) :
    OrOutage (s.confirms f) (w.confirms f) := by
  unfold Store.confirms
  cases f.kind with
  | label kind => exact falters.holds kind f.text
  | definition => exact .due
  | term => exact .due

/-- The entries of terms are lost together, wherever among them an outage strikes. -/
theorem firstEntries (falters : w.Falters s) (terms : List String) :
    OrOutage (s.firstEntries terms) (w.firstEntries terms) := by
  induction terms with
  | nil => exact .due
  | cons term rest ih =>
      have first := falters.firstForTerm term
      unfold Store.firstEntries
      generalize w.definitions.firstForTerm term = answer at first
      cases first with
      | due =>
          cases s.definitions.firstForTerm term with
          | error fault => exact .due
          | ok found => exact ih.map _
      | outage operation reason => exact .outage operation reason

theorem closeEntries (falters : w.Falters s) (text : String) (n : Int) :
    OrOutage (s.closeEntries text n) (w.closeEntries text n) := by
  have terms := falters.termsWithin text n
  unfold Store.closeEntries
  split
  · exact .due
  · generalize w.definitions.termsWithin text n = answer at terms
    cases terms with
    | due =>
        cases s.definitions.termsWithin text n with
        | error fault => exact .due
        | ok terms => exact falters.firstEntries terms
    | outage operation reason => exact .outage operation reason

theorem yield (falters : w.Falters s) (m : Matching) (f : Filter) :
    OrOutage (s.yield m f) (w.yield m f) := by
  unfold Store.yield
  cases f.kind with
  | definition => exact falters.byDefinition f.text
  | label kind => exact falters.entriesWith kind f.text
  | term =>
      cases m.termMatch with
      | substring => exact falters.byTerm f.text
      | fuzzy => exact falters.closeEntries f.text m.maxDistance

theorem composite (falters : w.Falters s) (e : Entry) :
    OrOutage (s.composite e) (w.composite e) := by
  have tags : OrOutage (s.tags.namesOf e.id) (w.tags.namesOf e.id) := falters.namesOf .tag e.id
  have locales : OrOutage (s.locales.namesOf e.id) (w.locales.namesOf e.id) :=
    falters.namesOf .locale e.id
  unfold Store.composite
  generalize w.tags.namesOf e.id = answer at tags
  cases tags with
  | outage operation reason => exact .outage operation reason
  | due =>
      cases s.tags.namesOf e.id with
      | error fault => exact .due
      | ok names =>
          generalize w.locales.namesOf e.id = answer at locales
          cases locales with
          | due => exact .due
          | outage operation reason => exact .outage operation reason

theorem offers (falters : w.Falters s) {e : Entry} (offers : w.Offers m filters e) :
    s.Offers m filters e := by
  obtain ⟨f, member, entries, answer, inside⟩ := offers
  have either := falters.yield m f
  rw [answer] at either
  exact ⟨f, member, entries, either.eq_of_ok, inside⟩

theorem keeps (falters : w.Falters s) {e : Entry} (keeps : w.Keeps m filters e) :
    s.Keeps m filters e := by
  obtain ⟨c, made, passes⟩ := keeps
  have either := falters.composite e
  rw [made] at either
  exact ⟨c, either.eq_of_ok, passes⟩

theorem steady (falters : w.Falters s) (steady : s.Steady m filters) : w.Steady m filters where
  checks := by
    intro f member fault answer
    have either := falters.confirms f
    rw [answer] at either
    exact either.isOutage.elim (steady.checks f member fault) id
  lookups := by
    intro f member fault answer
    have either := falters.yield m f
    rw [answer] at either
    exact either.isOutage.elim (steady.lookups f member fault) Fault.isRecorded_of_isOutage
  completes := by
    intro e offers fault answer
    have either := falters.composite e
    rw [answer] at either
    exact either.isOutage.elim (steady.completes e (falters.offers offers) fault) id
  named := by
    intro e offers c answer
    have either := falters.composite e
    rw [answer] at either
    exact steady.named e (falters.offers offers) c either.eq_of_ok
  agrees := by
    intro d e first second
    exact steady.agrees d e (falters.offers first) (falters.offers second)

theorem yield_eq (falters : w.Falters s) (steady : s.Steady m filters) {f : Filter}
    (member : f ∈ filters) (answered : ∀ fault, .retrieve f fault ∉ w.failed m filters) :
    w.yield m f = s.yield m f := by
  have either := falters.yield m f
  cases answer : w.yield m f with
  | ok entries =>
      rw [answer] at either
      exact either.eq_of_ok.symm
  | error fault =>
      have recorded : .retrieve f fault ∈ w.failed m filters :=
        (mem_failed_iff (falters.steady steady) _).2 (Or.inl ⟨f, member, fault, answer, rfl⟩)
      exact absurd recorded (answered fault)

theorem composite_eq (falters : w.Falters s) (steady : s.Steady m filters) {e : Entry}
    (offers : w.Offers m filters e)
    (answered : ∀ fault, .assemble e.id fault ∉ w.failed m filters) :
    w.composite e = s.composite e := by
  have either := falters.composite e
  cases answer : w.composite e with
  | ok c =>
      rw [answer] at either
      exact either.eq_of_ok.symm
  | error fault =>
      have recorded : .assemble e.id fault ∈ w.failed m filters :=
        (mem_failed_iff (falters.steady steady) _).2 (Or.inr ⟨e, offers, fault, answer, rfl⟩)
      exact absurd recorded (answered fault)

/-- Nothing is lost without a failure. -/
theorem kept_eq (falters : w.Falters s) (steady : s.Steady m filters)
    (complete : w.failed m filters = []) : w.kept m filters = s.kept m filters := by
  have unfailed : ∀ failure, failure ∉ w.failed m filters := by simp [complete]
  have offered : w.offered m filters = s.offered m filters := by
    refine congrArg Entry.distinct (List.flatMap_congr fun f member => ?_)
    rw [falters.yield_eq steady member fun fault => unfailed _]
  have composites : ((w.offered m filters).filterMap fun e => (w.composite e).toOption) =
      (s.offered m filters).filterMap fun e => (s.composite e).toOption := by
    rw [← offered]
    refine List.filterMap_congr fun e member => ?_
    have offers := (mem_offered_iff (falters.steady steady).agrees e).1 member
    rw [falters.composite_eq steady offers fun fault => unfailed _]
  rw [kept, composites, kept]

/-- An entry is lost together with its labels, or with every filter that would have fetched it. -/
theorem lost (falters : w.Falters s) (steady : s.Steady m filters) {e : Entry}
    (due : e ∈ s.kept m filters) (absent : e ∉ w.kept m filters) :
    (∃ fault, .assemble e.id fault ∈ w.failed m filters) ∨
      ∀ f ∈ filters, ∀ entries, s.yield m f = .ok entries → e ∈ entries →
        ∃ fault, .retrieve f fault ∈ w.failed m filters := by
  rw [mem_kept_iff steady] at due
  rw [mem_kept_iff (falters.steady steady)] at absent
  by_contra silent
  rw [not_or] at silent
  push Not at silent
  obtain ⟨assembled, f, member, entries, answer, inside, answered⟩ := silent
  -- A filter that fetches the entry was answered, and so were the lookups of its labels.
  have offers : w.Offers m filters e :=
    ⟨f, member, entries, by rw [falters.yield_eq steady member answered, answer], inside⟩
  obtain ⟨c, made, passes⟩ := due.2
  refine absent ⟨offers, c, ?_, passes⟩
  rw [falters.composite_eq steady offers assembled, made]

end Falters

end Store

namespace Disruption

theorem pass_orOutage {α : Type} (d : Disruption) (l : Lookup) {due answer : Except Fault α}
    (either : OrOutage due answer) : OrOutage due (d.pass l answer) := by
  unfold pass
  split
  · exact .outage l.name d.reason
  · exact either

/-- A disruption in which no term has lost its entries is a series of outages. -/
theorem falters (d : Disruption) (s : Store) (present : d.vanished = []) :
    (d.onStore s).Falters s where
  byDefinition := fun _ => d.pass_orOutage _ .due
  byTerm := fun _ => d.pass_orOutage _ .due
  termsWithin := fun _ _ => d.pass_orOutage _ .due
  firstForTerm := by
    intro term
    refine d.pass_orOutage _ ?_
    rw [if_neg (by simp [present])]
    exact .due
  holds := fun kind _ => by cases kind <;> exact d.pass_orOutage _ .due
  namesOf := by
    intro kind id
    have either : OrOutage ((s.labels kind).namesOf id)
        (if id ∈ d.ids then .error (.outage (Lookup.labelsOf kind).name d.reason)
          else (s.labels kind).namesOf id) := by
      split
      · exact .outage _ _
      · exact .due
    cases kind <;> exact d.pass_orOutage _ either
  entriesWith := fun kind _ => by cases kind <;> exact d.pass_orOutage _ .due

end Disruption

namespace Memory

/-- A search of a glossary that now and then cannot answer, whatever changes were made to it and
whichever calls fail. What it finds the whole glossary finds, and without failures it finds as much.
For an entry that it loses it records the failure to fetch the labels of the entry, or a failure of
every filter that would have fetched it. -/
theorem search_reports_losses (changes : List Change) (how : Matching) (query : String)
    (nonnegative : 0 ≤ how.maxDistance) (below : how.maxDistance < distanceLimit) :
    ∃ m, after changes = .ok m ∧ ∀ w : Store, w.Falters m.toStore →
      ∃ whole found, (m.toStore.search how (some query)).result = .ok whole ∧
        (w.search how (some query)).result = .ok found ∧
        (∀ e ∈ found.entries, e ∈ whole.entries) ∧
        (found.failures = [] → found.entries = whole.entries) ∧
        ∀ e ∈ whole.entries, e ∉ found.entries →
          (∃ fault, .assemble e.id fault ∈ found.failures) ∨
          ∀ f ∈ Query.parse query, ∀ entries, m.toStore.yield how f = .ok entries → e ∈ entries →
            ∃ g fault, g.key = f.key ∧ .retrieve g fault ∈ found.failures := by
  obtain ⟨m, made, holds⟩ := after_holds changes
  refine ⟨m, made, fun w falters => ?_⟩
  have shows := holds.shows nonnegative below
  have steady : m.toStore.Steady how (Query.parse query) :=
    shows.steady fun f member => Query.text_ne_of_mem_parse member
  have verified := steady.map_verify w
  have kept : m.toStore.kept how ((Query.parse query).map m.toStore.verify) =
      m.toStore.kept how ((Query.parse query).map w.verify) := by
    rw [Store.kept_map_verify, Store.kept_map_verify]
  refine ⟨_, _, Store.search_of_steady steady, Store.search_of_steady (falters.steady steady), ?_⟩
  dsimp only
  rw [kept]
  refine ⟨fun e member => ?_, falters.kept_eq verified, fun e due absent => ?_⟩
  · have found := (Store.mem_kept_iff (falters.steady verified) e).1 member
    exact (Store.mem_kept_iff verified e).2 ⟨falters.offers found.1, falters.keeps found.2⟩
  · refine (falters.lost verified due absent).imp_right fun all f member entries answer inside => ?_
    obtain ⟨fault, recorded⟩ := all (w.verify f) (List.mem_map_of_mem member) entries
      (by rwa [Store.yield_verify]) inside
    exact ⟨w.verify f, fault, Store.verify_key w f, recorded⟩

/-- An entry whose labels cannot be fetched is lost, and the failure names it. -/
theorem search_reports_lost_labels :
    (0 : Int) ≤ defaultDistance ∧ (defaultDistance : Int) < distanceLimit ∧
    ∃ m, after [.add ⟨"1", "cat", "a pet", "0"⟩ ["Animal"] []] = .ok m ∧
      ∃ whole found, (m.toStore.search {} (some "cat")).result = .ok whole ∧
        ((Disruption.onStore { ids := ["1"] } m.toStore).search {} (some "cat")).result =
          .ok found ∧
        whole.entries = [⟨"1", "cat", "a pet", "0"⟩] ∧ found.entries = [] ∧
        found.failures = [.assemble "1" (.outage "tags_for" none)] := by
  obtain ⟨m, made, searches⟩ := search_reports_losses
    [.add ⟨"1", "cat", "a pet", "0"⟩ ["Animal"] []] {} "cat" (by decide) (by decide)
  obtain ⟨whole, found, all, part, -⟩ :=
    searches _ (Disruption.falters { ids := ["1"] } m.toStore rfl)
  refine ⟨by decide, by decide, m, made, whole, found, all, part, ?_⟩
  cases made
  cases all
  cases part
  exact ⟨rfl, rfl, rfl⟩

end Memory

end Glossary
