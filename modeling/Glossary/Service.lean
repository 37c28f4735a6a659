import Glossary.Search
import Glossary.Service.Address
import Glossary.Text.Blank

set_option autoImplicit false

namespace Glossary.Service

inductive Endpoint where
  | search
  | filters
  | health
  deriving DecidableEq, Repr

def Endpoint.path : Endpoint → String
  | search => "/api/v1/search"
  | filters => "/api/v1/search/filters"
  | health => "/health"

def withoutSlashes (path : String) : String :=
  String.ofList (path.toList.reverse.dropWhile (· == '/')).reverse

/-- The path is that of the endpoint, or a line feed follows it. -/
def Endpoint.fits (e : Endpoint) (path : String) : Bool :=
  path == e.path || path == e.path ++ "\n"

def route? (path : String) : Option Endpoint :=
  [Endpoint.search, .filters, .health].find? fun e => e.fits (withoutSlashes path)

/-- A filter with the query that is left when it is removed. -/
structure RemovableFilter where
  filter : Filter
  remaining : Option String
  deriving DecidableEq, Repr

inductive Reply where
  /-- The service is alive. -/
  | healthy
  /-- The outcome of a search. -/
  | outcome (found : Outcome)
  /-- The filters of a query in their listed order. -/
  | filters (query : String) (found : List RemovableFilter)
  /-- The query holds nothing to search for. -/
  | emptyQuery
  /-- There is no query. -/
  | noQuery
  /-- The path leads nowhere. -/
  | notFound

def Reply.status : Reply → Nat
  | emptyQuery => 400
  | notFound => 404
  | noQuery => 422
  | _ => 200

def emptyQueryText : String := "Search query must not be empty"

def version : String := "1.0.0"

/-- The mark between filters in a query that is offered as a link. -/
def linkSeparator : String := "+"

/-- The filters in their listed order, each with what is left without it. -/
def removable (filters : List Filter) : List RemovableFilter :=
  (Filter.listed filters).map fun f => ⟨f, Filter.writeWithout? filters f linkSeparator⟩

def withQuery (query : Option String) (reply : String → Report Reply) : Report Reply :=
  match query with
  | none => ⟨.ok .noQuery, []⟩
  | some text => if Text.isBlankText text then ⟨.ok .emptyQuery, []⟩ else reply text

def queryField : String := "q"

/-- Replies to a request. The query is given with it; where nothing is, the address may have it. -/
def respond (s : Store) (m : Matching) (a : Address) (given : Option (Option String)) :
    Report Reply :=
  let query := given.getD (a.field? queryField)
  match route? a.path with
  | none => ⟨.ok .notFound, []⟩
  | some .health => ⟨.ok .healthy, []⟩
  | some .search => withQuery query fun text =>
    let report := s.search m (some text)
    ⟨report.result.map .outcome, report.notices⟩
  | some .filters => withQuery query fun text =>
    let report := s.filtersOf (some text)
    ⟨report.result.map fun filters => .filters text (removable filters), report.notices⟩

end Glossary.Service
