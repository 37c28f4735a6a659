import Glossary.Filter
import Glossary.Store.Basic
import Glossary.Text.Lower

set_option autoImplicit false

namespace Glossary

/-- A value that a collection may hold. A label has no name where a store has none for it. -/
inductive Item where
  | text (value : String)
  | label (kind : LabelKind) (name : Option String)
  | entry (value : Entry)
  | filter (value : Filter)
  | composite (value : Composite)
  deriving DecidableEq, Repr

namespace Item

def tag (name : String) : Item := label .tag (some name)

def locale (code : String) : Item := label .locale (some code)

def lowered : Option String → Except Fault String
  | some name => .ok (Text.lower name)
  | none => .error .absentName

def sameName (a b : Option String) : Except Fault Bool := do
  let left ← lowered a
  let right ← lowered b
  return decide (left = right)

/-- What a value says of another one that it is compared with. It says nothing of a value of a kind
that it does not know; a composite knows entries, but an entry knows no composites. -/
def answer? : Item → Item → Except Fault (Option Bool)
  | text a, text b => .ok (some (decide (a = b)))
  | label kind a, label other b => if kind = other then (sameName a b).map some else .ok none
  | entry a, entry b => .ok (some (decide (a.id = b.id)))
  | filter a, filter b => .ok (some (decide (a.kind = b.kind ∧ a.text = b.text)))
  | composite a, composite b => .ok (some (decide (a.entry.id = b.entry.id)))
  | composite a, entry b => .ok (some (decide (a.entry.id = b.id)))
  | _, _ => .ok none

/-- The left value is asked first and, where it says nothing, the right one. Where neither says
anything they are of kinds that do not know each other, and differ. -/
def compare (a b : Item) : Except Fault Bool :=
  (answer? a b).bind fun
    | some said => .ok said
    | none => (answer? b a).map fun said => said.getD false

def same (a b : Item) : Bool :=
  match compare a b with
  | .ok said => said
  | .error _ => false

/-- How texts, kinds of filters and rows of fields are hashed. -/
structure Hashing where
  text : String → Int
  kind : FilterKind → Int
  fields : List Int → Int

/-- The number under which a collection looks for a value. -/
def hash (h : Hashing) : Item → Except Fault Int
  | text value => .ok (h.text value)
  | label _ name => (lowered name).map h.text
  | entry value => .ok (h.fields [h.text value.id])
  | filter value => .ok (h.fields [h.kind value.kind, h.text value.text])
  | composite value => .ok (h.fields [h.text value.entry.id])

/-- One more value in a collection, unless a value with its number is there that is the same. Only
values with its number are compared with it. -/
def put (h : Hashing) (held : List (Int × Item)) (x : Item) : Except Fault (List (Int × Item)) := do
  let number ← hash h x
  let known ← held.anyM fun y => if y.1 = number then compare y.2 x else .ok false
  return if known then held else held ++ [(number, x)]

def gather (h : Hashing) (items : List Item) : Except Fault (List Item) := do
  return (← items.foldlM (put h) []).map (·.2)

def distinct : List Item → List Item
  | [] => []
  | x :: xs => x :: (distinct xs).filter fun y => !same x y

end Item

end Glossary
