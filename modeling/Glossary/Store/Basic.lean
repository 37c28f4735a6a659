import Glossary.Entry
import Glossary.Text.Quoted

set_option autoImplicit false

namespace Glossary

inductive Lookup where
  | byDefinition
  | byTerm
  | termsWithin
  | firstForTerm
  | labelExists (kind : LabelKind)
  | labelsOf (kind : LabelKind)
  | labelled (kind : LabelKind)
  deriving DecidableEq, Repr

namespace Lookup

def name : Lookup → String
  | byDefinition => "find_by_definition"
  | byTerm => "find_by_term"
  | termsWithin => "find_terms_within"
  | firstForTerm => "first_entry_for_term"
  | labelExists .tag => "tag_exists"
  | labelExists .locale => "locale_exists"
  | labelsOf .tag => "tags_for"
  | labelsOf .locale => "locales_for"
  | labelled .tag => "entries_tagged"
  | labelled .locale => "entries_in_locale"

def all : List Lookup :=
  [byDefinition, byTerm, termsWithin, firstForTerm, labelExists .tag, labelExists .locale,
   labelsOf .tag, labelsOf .locale, labelled .tag, labelled .locale]

theorem mem_all (l : Lookup) : l ∈ all := by
  cases l with
  | labelExists kind => cases kind <;> decide
  | labelsOf kind => cases kind <;> decide
  | labelled kind => cases kind <;> decide
  | _ => decide

def ofName? (name : String) : Option Lookup := all.find? fun l => l.name == name

end Lookup

inductive Fault where
  /-- The store could not answer the named operation. -/
  | outage (operation : String) (reason : Option String)
  /-- A search for close terms got no term. -/
  | emptyTerm
  /-- A search has no store for one of its parts. -/
  | missingStore
  /-- A distance below zero cannot be asked for. -/
  | negativeDistance
  /-- A distance of 2^64 or more cannot be asked for. -/
  | hugeDistance
  /-- A text was to be found in another one, but there is no text. -/
  | absentText
  /-- A label was to be compared, but it has no name. -/
  | absentName
  /-- A label belongs to an entry that is not stored. -/
  | unknownEntry (id : String)
  /-- A term has entries but is not in the list of terms. -/
  | unlistedTerm
  deriving DecidableEq, Repr

namespace Fault

def message : Fault → String
  | outage operation reason =>
    let cause := reason.getD ""
    "Storage lookup '" ++ operation ++ "' failed: " ++ (if cause = "" then "Unknown error" else cause)
  | emptyTerm => "The supplied term must be non-null and non-empty."
  | missingStore => "definition, tag and locale stores must be non-null."
  | negativeDistance => "can't convert negative value to uint64_t"
  | hugeDistance => "Python int too large to convert to C unsigned long"
  | absentText => "'in <string>' requires string as left operand, not NoneType"
  | absentName => "'NoneType' object has no attribute 'lower'"
  | unknownEntry id => Text.quoted id
  | unlistedTerm => "list.remove(x): x not in list"

/-- The store could not answer. -/
def isOutage : Fault → Bool
  | outage _ _ => true
  | _ => false

/-- A search goes on after such a fault of a filter's lookup. -/
def isRecorded : Fault → Bool
  | outage _ _ => true
  | emptyTerm => true
  | _ => false

theorem isRecorded_of_isOutage {f : Fault} (h : f.isOutage = true) : f.isRecorded = true := by
  cases f <;> simp_all [isOutage, isRecorded]

end Fault

structure DefinitionStore where
  /-- Entries whose definition contains a text. -/
  byDefinition : String → Except Fault (List Entry)
  /-- Entries whose term contains a text. -/
  byTerm : String → Except Fault (List Entry)
  /-- The distinct terms at most so many edits away from a text. -/
  termsWithin : String → Int → Except Fault (List String)
  /-- The entry that stands for a term, if any. -/
  firstForTerm : String → Except Fault (Option Entry)

structure LabelStore where
  /-- A label of that name is in use. -/
  holds : String → Except Fault Bool
  /-- The names of the labels of an entry, given its id. -/
  namesOf : String → Except Fault (List (Option String))
  /-- The entries that carry the label. -/
  entriesWith : String → Except Fault (List Entry)

/-- All that a search asks. -/
structure Store where
  definitions : DefinitionStore
  tags : LabelStore
  locales : LabelStore

namespace Store

def labels (s : Store) : LabelKind → LabelStore
  | .tag => s.tags
  | .locale => s.locales

def ofParts? : Option DefinitionStore → Option LabelStore → Option LabelStore → Except Fault Store
  | some definitions, some tags, some locales => .ok ⟨definitions, tags, locales⟩
  | _, _, _ => .error .missingStore

end Store

inductive Answer where
  | entries (found : List Entry)
  | terms (found : List String)
  | first (found : Option Entry)
  | holds (found : Bool)
  | names (found : List (Option String))

/-- Puts a lookup to a store. Only `termsWithin` reads the distance. -/
def Store.answer (s : Store) (text : String) (maxDistance : Int) : Lookup → Except Fault Answer
  | .byDefinition => (s.definitions.byDefinition text).map .entries
  | .byTerm => (s.definitions.byTerm text).map .entries
  | .termsWithin => (s.definitions.termsWithin text maxDistance).map .terms
  | .firstForTerm => (s.definitions.firstForTerm text).map .first
  | .labelExists kind => ((s.labels kind).holds text).map .holds
  | .labelsOf kind => ((s.labels kind).namesOf text).map .names
  | .labelled kind => ((s.labels kind).entriesWith text).map .entries

end Glossary
