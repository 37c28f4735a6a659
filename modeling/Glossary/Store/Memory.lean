import Glossary.EditDistance
import Glossary.Store.Basic
import Glossary.Store.Index
import Glossary.Text.Lower
import Glossary.Text.Occurrence

set_option autoImplicit false

namespace Glossary

structure Memory where
  entries : Index Entry := {}
  byTerm : Index (List Entry) := {}
  tags : Index (List String) := {}
  locales : Index (List String) := {}
  terms : List String := []

/-- Two label names that differ at most in case. -/
def sameLabel (a b : String) : Bool := decide (Text.lower a = Text.lower b)

/-- Adds a label unless one of the same name is there. -/
def addLabel (names : List String) (name : String) : List String :=
  if names.any (sameLabel name) then names else names ++ [name]

namespace Memory

def labels (m : Memory) : LabelKind → Index (List String)
  | .tag => m.tags
  | .locale => m.locales

/-- Gives labels to an entry, one by one. An entry without labels has no row. -/
def link (labels : Index (List String)) (id : String) (names : List String) :
    Index (List String) :=
  names.foldl (fun ix name => ix.put id (addLabel ((ix.get? id).getD []) name)) labels

/-- Removes the entry of an id with its labels. The last entry of a term takes the term with
it. -/
def remove (m : Memory) (id : String) : Except Fault Memory :=
  match m.entries.get? id with
  | none => .ok m
  | some entry =>
    let remaining := ((m.byTerm.get? entry.term).getD []).filter fun e => decide (e.id ≠ id)
    let rest : Memory :=
      { m with
        entries := m.entries.erase id
        tags := m.tags.erase id
        locales := m.locales.erase id }
    if !remaining.isEmpty then .ok { rest with byTerm := m.byTerm.put entry.term remaining }
    else if entry.term ∈ m.terms then
      .ok { rest with byTerm := m.byTerm.erase entry.term, terms := m.terms.erase entry.term }
    else .error .unlistedTerm

/-- Puts in an entry whose id is not in use. -/
def insert (m : Memory) (entry : Entry) (tags locales : List String) : Memory where
  entries := m.entries.put entry.id entry
  byTerm := m.byTerm.put entry.term ((m.byTerm.get? entry.term).getD [] ++ [entry])
  tags := link m.tags entry.id tags
  locales := link m.locales entry.id locales
  terms := if m.byTerm.has entry.term then m.terms else m.terms ++ [entry.term]

/-- Adds an entry with its labels, in place of any entry with the same id. -/
def add (m : Memory) (entry : Entry) (tags locales : List String) : Except Fault Memory :=
  if m.entries.has entry.id then (m.remove entry.id).map fun rest => rest.insert entry tags locales
  else .ok (m.insert entry tags locales)

def ofEntries (entries : List Entry) : Except Fault Memory :=
  entries.foldlM (fun m entry => m.add entry [] []) {}

def size (m : Memory) : Nat := m.entries.rows.length

def byDefinition (m : Memory) (text : String) : List Entry :=
  m.entries.values.filter fun e => Text.contains e.definition text

def withTerm (m : Memory) (text : String) : List Entry :=
  m.entries.values.filter fun e => Text.contains e.term text

def distanceLimit : Int := 18446744073709551616

/-- The terms at most `maxDistance` edits of characters away from the text, in order. Distances
are counted in 64 bits, but only when there is a term to compare. -/
def termsWithin (m : Memory) (text : String) (maxDistance : Int) : Except Fault (List String) :=
  if m.terms.isEmpty then .ok []
  else if maxDistance < 0 then .error .negativeDistance
  else if distanceLimit ≤ maxDistance then .error .hugeDistance
  else
    .ok (sortBy (fun a b => decide (a ≤ b))
      (m.terms.filter fun t => decide (editDistance text.toList t.toList ≤ maxDistance.toNat)))

def leastId : List Entry → Option Entry
  | [] => none
  | e :: rest =>
    match leastId rest with
    | none => some e
    | some best => if best.id < e.id then some best else some e

def firstForTerm (m : Memory) (term : String) : Option Entry :=
  leastId ((m.byTerm.get? term).getD [])

def holdsLabel (m : Memory) (kind : LabelKind) (name : String) : Bool :=
  (m.labels kind).values.any fun names => names.any (sameLabel name)

def labelsOf (m : Memory) (kind : LabelKind) (id : String) : List String :=
  ((m.labels kind).get? id).getD []

def entriesOf (m : Memory) : List String → Except Fault (List Entry)
  | [] => .ok []
  | id :: rest =>
    match m.entries.get? id with
    | none => .error (.unknownEntry id)
    | some entry => (m.entriesOf rest).map (entry :: ·)

def labelled (m : Memory) (kind : LabelKind) (name : String) : Except Fault (List Entry) :=
  m.entriesOf
    (((m.labels kind).rows.filter fun r => r.2.any (sameLabel name)).map (·.1))

def labelStore (m : Memory) (kind : LabelKind) : LabelStore where
  holds name := .ok (m.holdsLabel kind name)
  namesOf id := .ok ((m.labelsOf kind id).map some)
  entriesWith name := m.labelled kind name

def toStore (m : Memory) : Store where
  definitions :=
    { byDefinition := fun text => .ok (m.byDefinition text)
      byTerm := fun text => .ok (m.withTerm text)
      termsWithin := fun text n => m.termsWithin text n
      firstForTerm := fun term => .ok (m.firstForTerm term) }
  tags := m.labelStore .tag
  locales := m.labelStore .locale

/-- What is answered when no text is given. A text that has to be looked for or compared is a
fault as soon as there is something to look at; an id or a term that is not there is not
known. -/
def answerAbsent (m : Memory) : Lookup → Except Fault Answer
  | .byDefinition => if m.size = 0 then .ok (.entries []) else .error .absentText
  | .byTerm => if m.size = 0 then .ok (.entries []) else .error .absentText
  | .termsWithin => .ok (.terms [])
  | .firstForTerm => .ok (.first none)
  | .labelExists kind =>
    if (m.labels kind).rows.isEmpty then .ok (.holds false) else .error .absentName
  | .labelsOf _ => .ok (.names [])
  | .labelled kind =>
    if (m.labels kind).rows.isEmpty then .ok (.entries []) else .error .absentName

/-- Puts a lookup to the glossary; the text and the distance may be absent. Without a distance
every term is close enough. -/
def answer (m : Memory) (text : Option String) (maxDistance : Option Int) (l : Lookup) :
    Except Fault Answer :=
  match text, maxDistance, l with
  | none, _, l => m.answerAbsent l
  | some _, none, .termsWithin => .ok (.terms (sortBy (fun a b => decide (a ≤ b)) m.terms))
  | some text, maxDistance, l => m.toStore.answer text (maxDistance.getD 0) l

end Memory

end Glossary
