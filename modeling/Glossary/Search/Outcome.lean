import Glossary.Filter
import Glossary.Store.Basic

set_option autoImplicit false

namespace Glossary

/-- A lookup that failed while the search went on: for a filter, when entries were retrieved, or
for an entry, when its labels were fetched. -/
inductive Failure where
  | retrieve (filter : Filter) (fault : Fault)
  | assemble (id : String) (fault : Fault)
  deriving DecidableEq, Repr

namespace Failure

def stage : Failure → String
  | retrieve _ _ => "retrieve"
  | assemble _ _ => "assemble"

def fault : Failure → Fault
  | retrieve _ fault => fault
  | assemble _ fault => fault

def message (f : Failure) : String := f.fault.message

def filter? : Failure → Option Filter
  | retrieve filter _ => some filter
  | assemble _ _ => none

/-- The id of the entry whose labels could not be fetched. -/
def id? : Failure → Option String
  | retrieve _ _ => none
  | assemble id _ => some id

end Failure

structure Outcome where
  query : String
  filters : List Filter := []
  entries : List Entry := []
  failures : List Failure := []
  deriving Repr

namespace Outcome

def isPartial (o : Outcome) : Bool := !o.failures.isEmpty

def sortedEntries (o : Outcome) : List Entry := Entry.sorted o.entries

end Outcome

end Glossary
