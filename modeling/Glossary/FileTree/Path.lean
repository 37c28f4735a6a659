import Glossary.FileTree.Basic
import Glossary.Text.Utf8

set_option autoImplicit false

namespace Glossary.FileTree

def byteCount (text : String) : Nat := (Text.utf8 text.toList).length

def partLimit : Nat := 255

/-- The bytes that a path may have. -/
def pathLimit : Nat := 4095

/-- The character that ends a path wherever it stands. -/
def endMark : Char := '\x00'

/-- What makes a path unfit before anything is looked for. -/
def unfit? (path : String) : Option Hindrance :=
  if path.toList.contains endMark then some .endMark
  else if pathLimit < byteCount path then some .longName
  else none

/-- The place that one more part leads to, whether or not something stands there. -/
def step (t : FileTree) (p : Place) (part : String) : Except Hindrance Place :=
  if t.node? p ≠ some .directory then .error .notDirectory
  else if part = Location.up then .ok p.dropLast
  else if partLimit < byteCount part then .error .longName
  else .ok (p ++ [part])

/-- The place that one more part leads to, where something stands. -/
def enter (t : FileTree) (p : Place) (part : String) : Except Hindrance Place :=
  (t.step p part).bind fun q => if (t.node? q).isSome then .ok q else .error .missing

/-- The place that parts lead to from where a location starts. -/
def follow (t : FileTree) (l : Location) (parts : List String) : Except Hindrance Place :=
  match unfit? l.text with
  | some why => .error why
  | none => parts.foldlM t.enter (if l.isFromRoot then [] else t.here)

/-- The place that a location leads to, where something stands. -/
def locate (t : FileTree) (l : Location) : Except Hindrance Place := t.follow l l.parts

/-- What a location leads to, if it leads anywhere. That a name is too long is a fault. -/
def look (t : FileTree) (l : Location) : Except PathFault (Option FileNode) :=
  match t.locate l with
  | .ok p => .ok (t.node? p)
  | .error .longName => .error ⟨.longName, l.text⟩
  | .error _ => .ok none

def hasDirectory (t : FileTree) (l : Location) : Bool :=
  match t.locate l with
  | .ok p => decide (t.node? p = some .directory)
  | .error _ => false

def addDirectory (t : FileTree) (l : Location) : Except Hindrance FileTree :=
  match l.parts.getLast? with
  | none => .error .occupied
  | some last =>
    (t.follow l l.parts.dropLast).bind fun p => (t.step p last).bind fun q =>
      if (t.node? q).isSome then .error .occupied else .ok (t.put q .directory)

/-- The tree with a directory that may have been there before, and what stood against it. -/
def makeDirectory (t : FileTree) (l : Location) : FileTree × Option PathFault :=
  match t.addDirectory l with
  | .ok made => (made, none)
  | .error why => (t, if t.hasDirectory l then none else some ⟨why, l.text⟩)

/-- Something is missing above a directory that is to be made. -/
def isCutOff (t : FileTree) (l : Location) : Bool :=
  match t.addDirectory l with
  | .error .missing => true
  | _ => false

theorem length_parent_of_isCutOff {t : FileTree} {l : Location} (cutOff : t.isCutOff l = true) :
    l.parent.parts.length < l.parts.length := by
  have some : l.parts ≠ [] := by
    intro none
    simp [isCutOff, addDirectory, none] at cutOff
  have := List.length_pos_iff.2 some
  simp only [Location.parent, List.length_dropLast]
  omega

/-- The tree with a directory and all that are missing above it, and what stood against it. What
was made above stays when a directory cannot be made. -/
def makeDirectories (t : FileTree) (l : Location) : FileTree × Option PathFault :=
  if cutOff : t.isCutOff l = true then
    have := length_parent_of_isCutOff cutOff
    match makeDirectories t l.parent with
    | (made, none) => made.makeDirectory l
    | (made, some fault) => (made, some fault)
  else t.makeDirectory l
termination_by l.parts.length

end Glossary.FileTree
