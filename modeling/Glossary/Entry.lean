import Glossary.Distinct
import Glossary.Sorted

set_option autoImplicit false

namespace Glossary

/-- One definition of a term. The rank is text that the glossary does not interpret. -/
structure Entry where
  id : String
  term : String
  definition : String
  rank : String := "0"
  deriving DecidableEq, Repr

namespace Entry

def distinct (entries : List Entry) : List Entry := distinctOn (·.id) entries

/-- Ahead in the order of presentation: by term, then by id. -/
def comesBefore (a b : Entry) : Bool :=
  decide (a.term < b.term) || (decide (a.term = b.term) && decide (a.id ≤ b.id))

def sorted (entries : List Entry) : List Entry := sortBy comesBefore entries

end Entry

inductive LabelKind where
  | tag
  | locale
  deriving DecidableEq, Repr

/-- An entry together with the names of its tags and the codes of its locales. A name is absent
where the store has a label without one. -/
structure Composite where
  entry : Entry
  tags : List (Option String) := []
  locales : List (Option String) := []
  deriving DecidableEq, Repr

def Composite.labels (c : Composite) : LabelKind → List (Option String)
  | .tag => c.tags
  | .locale => c.locales

end Glossary
