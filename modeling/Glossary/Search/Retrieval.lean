import Glossary.Search.Matching
import Glossary.Search.Outcome

set_option autoImplicit false

namespace Glossary

/-- The result of a stage, with the failures recorded on the way to it. -/
structure Stage (ρ α : Type) where
  result : Except Fault α
  recorded : List ρ

/-- Whether the label of a filter exists; other filters ask nothing. -/
def Store.confirms (s : Store) (f : Filter) : Except Fault Bool :=
  match f.kind with
  | .label kind => (s.labels kind).holds f.text
  | _ => .ok false

/-- Marks the filters whose label exists as verified. The filters whose label could not be checked
are recorded and stay as they are. -/
def Store.validate (s : Store) : List Filter → Stage (Filter × Fault) (List Filter)
  | [] => ⟨.ok [], []⟩
  | f :: rest =>
    match s.confirms f with
    | .ok found =>
      let later := s.validate rest
      ⟨later.result.map ({ f with verified := f.verified || found } :: ·), later.recorded⟩
    | .error fault =>
      if fault.isOutage then
        let later := s.validate rest
        ⟨later.result.map (f :: ·), (f, fault) :: later.recorded⟩
      else ⟨.error fault, []⟩

/-- The entries that stand for terms, in order. A term that has lost its entry is skipped. -/
def Store.firstEntries (s : Store) : List String → Except Fault (List Entry)
  | [] => .ok []
  | term :: rest =>
    match s.definitions.firstForTerm term with
    | .error fault => .error fault
    | .ok found => (s.firstEntries rest).map (found.toList ++ ·)

def Store.closeEntries (s : Store) (term : String) (maxDistance : Int) :
    Except Fault (List Entry) :=
  if term = "" then .error .emptyTerm
  else
    match s.definitions.termsWithin term maxDistance with
    | .error fault => .error fault
    | .ok terms => s.firstEntries terms

/-- The entries that a filter yields on its own. -/
def Store.yield (s : Store) (m : Matching) (f : Filter) : Except Fault (List Entry) :=
  match f.kind with
  | .definition => s.definitions.byDefinition f.text
  | .label kind => (s.labels kind).entriesWith f.text
  | .term =>
    match m.termMatch with
    | .substring => s.definitions.byTerm f.text
    | .fuzzy => s.closeEntries f.text m.maxDistance

/-- The entries of all filters one after another, and the filters whose lookup failed. A lookup
that fails halfway yields nothing. -/
def Store.yieldAll (s : Store) (m : Matching) : List Filter → Stage Failure (List Entry)
  | [] => ⟨.ok [], []⟩
  | f :: rest =>
    match s.yield m f with
    | .ok entries =>
      let later := s.yieldAll m rest
      ⟨later.result.map (entries ++ ·), later.recorded⟩
    | .error fault =>
      if fault.isRecorded then
        let later := s.yieldAll m rest
        ⟨later.result, .retrieve f fault :: later.recorded⟩
      else ⟨.error fault, []⟩

/-- The candidates of a search: every entry that some filter yields, each once. -/
def Store.retrieve (s : Store) (m : Matching) (filters : List Filter) :
    Stage Failure (List Entry) :=
  let found := s.yieldAll m filters
  ⟨found.result.map Entry.distinct, found.recorded⟩

def Store.composite (s : Store) (entry : Entry) : Except Fault Composite :=
  match s.tags.namesOf entry.id with
  | .error fault => .error fault
  | .ok tags =>
    match s.locales.namesOf entry.id with
    | .error fault => .error fault
    | .ok locales => .ok ⟨entry, tags, locales⟩

/-- The entries with their labels. An entry whose labels cannot be fetched is left out, since no
label filter could be judged for it. -/
def Store.assemble (s : Store) : List Entry → Stage Failure (List Composite)
  | [] => ⟨.ok [], []⟩
  | entry :: rest =>
    match s.composite entry with
    | .ok c =>
      let later := s.assemble rest
      ⟨later.result.map (c :: ·), later.recorded⟩
    | .error fault =>
      if fault.isOutage then
        let later := s.assemble rest
        ⟨later.result, .assemble entry.id fault :: later.recorded⟩
      else ⟨.error fault, []⟩

end Glossary
