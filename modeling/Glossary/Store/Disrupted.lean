import Glossary.Store.Basic

set_option autoImplicit false

namespace Glossary

/-- What goes wrong, and the reason that is given. -/
structure Disruption where
  lookups : List Lookup := []
  ids : List String := []
  reason : Option String := none
  vanished : List String := []

namespace Disruption

/-- The answer of a lookup unless the lookup as a whole fails. -/
def pass {α : Type} (d : Disruption) (l : Lookup) (answer : Except Fault α) : Except Fault α :=
  if l ∈ d.lookups then .error (.outage l.name d.reason) else answer

def onLabels (d : Disruption) (kind : LabelKind) (s : LabelStore) : LabelStore where
  holds name := d.pass (.labelExists kind) (s.holds name)
  namesOf id :=
    d.pass (.labelsOf kind)
      (if id ∈ d.ids then .error (.outage (Lookup.labelsOf kind).name d.reason) else s.namesOf id)
  entriesWith name := d.pass (.labelled kind) (s.entriesWith name)

def onStore (d : Disruption) (s : Store) : Store where
  definitions :=
    { byDefinition := fun text => d.pass .byDefinition (s.definitions.byDefinition text)
      byTerm := fun text => d.pass .byTerm (s.definitions.byTerm text)
      termsWithin := fun text n => d.pass .termsWithin (s.definitions.termsWithin text n)
      firstForTerm := fun term =>
        d.pass .firstForTerm
          (if term ∈ d.vanished then .ok none else s.definitions.firstForTerm term) }
  tags := d.onLabels .tag s.tags
  locales := d.onLabels .locale s.locales

end Disruption

end Glossary
