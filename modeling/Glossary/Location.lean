import Glossary.Text.Pieces

set_option autoImplicit false

namespace Glossary

structure Location where
  root : String
  parts : List String
  deriving DecidableEq, Repr

namespace Location

def up : String := ".."

/-- The slashes that a text from the root begins with: two stay two, any other number is one. -/
def rootOf (text : String) : String :=
  match (text.toList.takeWhile (· == '/')).length with
  | 0 => ""
  | 2 => "//"
  | _ => "/"

def ofText (text : String) : Location where
  root := rootOf text
  parts :=
    ((Text.pieces (· == '/') text.toList).map String.ofList).filter fun p => p != "" && p != "."

def text (l : Location) : String :=
  let written := l.root ++ Text.join "/" l.parts
  if written = "" then "." else written

def isFromRoot (l : Location) : Bool := l.root != ""

def parent (l : Location) : Location := { l with parts := l.parts.dropLast }

def within (l directory : Location) : Location :=
  if l.isFromRoot then l else ⟨directory.root, directory.parts ++ l.parts⟩

/-- The parts that are left when every part that leads up takes back the one before it. -/
def settle (parts : List String) : List String :=
  parts.foldl (fun settled part => if part = up then settled.dropLast else settled ++ [part]) []

def settled (l : Location) : Location where
  root := if l.isFromRoot then "/" else ""
  parts := settle l.parts

end Location

end Glossary
