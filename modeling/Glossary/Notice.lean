import Glossary.Search.Outcome
import Glossary.Text.Quoted

set_option autoImplicit false

namespace Glossary

inductive Notice where
  /-- It could not be found out whether the label of a filter exists. -/
  | unverified (filter : Filter) (fault : Fault)
  /-- The entries of a filter could not be fetched. -/
  | lookupFailed (filter : Filter) (fault : Fault)
  /-- The labels of an entry could not be fetched. -/
  | labelsUnknown (id : String) (fault : Fault)
  /-- A search ended with so many failed lookups. -/
  | searchPartial (query : String) (failures : Nat)
  /-- So many rows were left out of a load since they have no term. -/
  | rowsWithoutTerm (count : Nat)
  /-- The setting for the distance is no distance, so the given one is used. -/
  | badDistance (value : String) (used : Nat)
  /-- The setting for fetching terms names no way of doing so. -/
  | badTermMatch (value : String) (used : String)
  /-- A load came to nothing. -/
  | loadFailed (reason : String)
  deriving DecidableEq, Repr

namespace Notice

def level : Notice → String
  | loadFailed _ => "ERROR"
  | _ => "WARNING"

def message : Notice → String
  | unverified f fault => "Could not verify filter " ++ f.written ++ ": " ++ fault.message
  | lookupFailed f fault => "Lookup for filter " ++ f.written ++ " failed: " ++ fault.message
  | labelsUnknown id fault =>
    "Could not load tags/locales for entry " ++ id ++ ": " ++ fault.message
  | searchPartial query failures =>
    "Search " ++ Text.quoted query ++ " completed with " ++ toString failures ++ " failed lookups"
  | rowsWithoutTerm count => "Skipping " ++ toString count ++ " rows with no term"
  | badDistance value used =>
    "Invalid GLOSSA_MAX_EDIT_DISTANCE=" ++ Text.quoted value ++ ", using " ++ toString used
  | badTermMatch value used =>
    "Invalid GLOSSA_TERM_MATCH=" ++ Text.quoted value ++ ", using " ++ used
  | loadFailed reason => "Load failed: " ++ reason

def line (n : Notice) : String := n.level ++ " " ++ n.message

def ofFailure : Failure → Notice
  | .retrieve filter fault => lookupFailed filter fault
  | .assemble id fault => labelsUnknown id fault

end Notice

end Glossary
