import Glossary.Notice
import Glossary.Query
import Glossary.Search.Retrieval

set_option autoImplicit false

namespace Glossary

/-- The result of an operation, with the notices that it gave. -/
structure Report (α : Type) where
  result : Except Fault α
  notices : List Notice := []

namespace Store

/-- The verified filters, with a notice for each that could not be checked. -/
def check (s : Store) (filters : List Filter) : Report (List Filter) :=
  let stage := s.validate filters
  ⟨stage.result, stage.recorded.map fun r => .unverified r.1 r.2⟩

def filtersOf (s : Store) (query : Option String) : Report (List Filter) :=
  s.check (Query.parse? query)

def candidates (s : Store) (m : Matching) (filters : List Filter) :
    Report (List Entry × List Failure) :=
  let stage := s.retrieve m filters
  ⟨stage.result.map (·, stage.recorded), stage.recorded.map .ofFailure⟩

def composites (s : Store) (entries : List Entry) : Report (List Composite × List Failure) :=
  let stage := s.assemble entries
  ⟨stage.result.map (·, stage.recorded), stage.recorded.map .ofFailure⟩

/-- The entries that satisfy every filter, and the failures met on the way. -/
def find (s : Store) (m : Matching) (filters : List Filter) :
    Report (List Entry × List Failure) :=
  let retrieved := s.retrieve m filters
  match retrieved.result with
  | .error fault => ⟨.error fault, retrieved.recorded.map .ofFailure⟩
  | .ok candidates =>
    let assembled := s.assemble candidates
    let failures := retrieved.recorded ++ assembled.recorded
    ⟨assembled.result.bind fun composites =>
        (m.narrow composites filters).map (·, failures),
      failures.map .ofFailure⟩

def search (s : Store) (m : Matching) (query : Option String) : Report Outcome :=
  let checked := s.filtersOf query
  match checked.result with
  | .error fault => ⟨.error fault, checked.notices⟩
  | .ok filters =>
    let found := s.find m filters
    match found.result with
    | .error fault => ⟨.error fault, checked.notices ++ found.notices⟩
    | .ok (entries, failures) =>
      let text := query.getD ""
      let closing := if failures.isEmpty then [] else [.searchPartial text failures.length]
      ⟨.ok ⟨text, filters, entries, failures⟩, checked.notices ++ found.notices ++ closing⟩

end Store

end Glossary
