import Glossary.Database.Basic
import Glossary.Location

set_option autoImplicit false

namespace Glossary

/-- The names that lead to a place from the root. -/
abbrev Place := List String

inductive FileNode where
  | directory
  | text (text : String)
  /-- A file that holds no text. -/
  | bytes
  | tables (tables : Tables)
  deriving DecidableEq, Repr

/-- The directory in which paths are read, the one that is home, and what stands at places. -/
structure FileTree where
  here : Place
  home : Place := []
  nodes : List (Place × FileNode) := []

namespace FileTree

def node? (t : FileTree) (p : Place) : Option FileNode :=
  if p.isPrefixOf t.here then some .directory else t.nodes.lookup p

def put (t : FileTree) (p : Place) (node : FileNode) : FileTree :=
  { t with nodes := (p, node) :: t.nodes.filter (·.1 != p) }

theorem node?_put_self {t : FileTree} {p : Place} (below : p.isPrefixOf t.here = false)
    (node : FileNode) : (t.put p node).node? p = some node := by
  simp [node?, put, below]

theorem lookup_filter_other {p q : Place} (other : q ≠ p) (nodes : List (Place × FileNode)) :
    (nodes.filter (·.1 != p)).lookup q = nodes.lookup q := by
  induction nodes with
  | nil => rfl
  | cons n rest ih =>
    by_cases h : n.1 = p
    · rw [List.filter_cons_of_neg (by simp [h]), ih, List.lookup_cons]
      have : (q == n.1) = false := by simpa [h] using other
      rw [this]
    · rw [List.filter_cons_of_pos (by simp [h]), List.lookup_cons, List.lookup_cons, ih]

theorem node?_put_other {t : FileTree} {p q : Place} (other : q ≠ p) (node : FileNode) :
    (t.put p node).node? q = t.node? q := by
  have : (q == p) = false := by simpa using other
  simp only [node?, put, List.lookup_cons, this, lookup_filter_other other]

def locationOf (p : Place) : Location := ⟨"/", p⟩

/-- A location from the root, without parts that lead up. -/
def full (t : FileTree) (l : Location) : Location := (l.within (locationOf t.here)).settled

/-- What stands in one tree and not in an earlier one. -/
def changesSince (t earlier : FileTree) : List (Place × FileNode) :=
  t.nodes.filter fun n => decide (earlier.node? n.1 ≠ some n.2)

end FileTree

end Glossary
