import Glossary.EditDistance
import Glossary.Filter
import Glossary.Store.Basic
import Glossary.Text.Lower
import Glossary.Text.Occurrence

set_option autoImplicit false

namespace Glossary

/-- How the entries for a term filter are fetched. -/
inductive TermMatch where
  | fuzzy
  | substring
  deriving DecidableEq, Repr

def TermMatch.name : TermMatch → String
  | fuzzy => "fuzzy"
  | substring => "substring"

def defaultDistance : Nat := 3

/-- How far a term may be away, and how entries for terms are fetched. -/
structure Matching where
  maxDistance : Int := defaultDistance
  termMatch : TermMatch := .fuzzy
  deriving DecidableEq, Repr

def textDistance (a b : String) : Nat := editDistance a.toList b.toList

/-- The texts are at most `maxDistance` edits apart. -/
def withinDistance (a b : String) (maxDistance : Int) : Bool :=
  decide ((textDistance a b : Int) ≤ maxDistance)

/-- A label of the given name is among the names, ignoring case. The names are compared in order,
and one that is absent cannot be compared. -/
def carries (name : String) : List (Option String) → Except Fault Bool
  | [] => .ok false
  | none :: _ => .error .absentName
  | some n :: rest => if Text.lower n = Text.lower name then .ok true else carries name rest

namespace Matching

def passes (m : Matching) (c : Composite) (f : Filter) : Except Fault Bool :=
  match f.kind with
  | .label kind => carries f.text (c.labels kind)
  | .definition => .ok (Text.contains c.entry.definition f.text)
  | .term =>
    .ok (withinDistance c.entry.term f.text m.maxDistance && Text.contains c.entry.term f.text)

/-- The entry passes every filter; the first one it fails ends the test. -/
def passesAll (m : Matching) (c : Composite) : List Filter → Except Fault Bool
  | [] => .ok true
  | f :: rest =>
    match m.passes c f with
    | .error fault => .error fault
    | .ok false => .ok false
    | .ok true => m.passesAll c rest

/-- The composites that pass every filter, in order. -/
def survivors (m : Matching) (filters : List Filter) : List Composite → Except Fault (List Entry)
  | [] => .ok []
  | c :: rest =>
    match m.passesAll c filters with
    | .error fault => .error fault
    | .ok kept => (m.survivors filters rest).map fun es => if kept then c.entry :: es else es

/-- The entries that pass every filter; of two with one id the first survivor stays. -/
def narrow (m : Matching) (composites : List Composite) (filters : List Filter) :
    Except Fault (List Entry) :=
  (m.survivors filters composites).map Entry.distinct

end Matching

end Glossary
