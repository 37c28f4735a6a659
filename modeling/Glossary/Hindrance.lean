import Glossary.Text.Quoted

set_option autoImplicit false

namespace Glossary

inductive Hindrance where
  /-- Nothing is there. -/
  | missing
  /-- Something is there already. -/
  | occupied
  /-- A path leads on from something that is no directory. -/
  | notDirectory
  /-- A directory is where a file should be. -/
  | directory
  /-- The path or a part of it has too many bytes. -/
  | longName
  /-- The path holds the character that ends all paths. -/
  | endMark
  deriving DecidableEq, Repr

namespace Hindrance

def text : Hindrance → String
  | missing => "No such file or directory"
  | occupied => "File exists"
  | notDirectory => "Not a directory"
  | directory => "Is a directory"
  | longName => "File name too long"
  | endMark => "embedded null byte"

def number? : Hindrance → Option Nat
  | missing => some 2
  | occupied => some 17
  | notDirectory => some 20
  | directory => some 21
  | longName => some 36
  | endMark => none

end Hindrance

structure PathFault where
  why : Hindrance
  path : String
  deriving DecidableEq, Repr

/-- The text of a fault: with the number of the hindrance, if it has one, goes the path. -/
def PathFault.message (f : PathFault) : String :=
  match f.why.number? with
  | some n => "[Errno " ++ toString n ++ "] " ++ f.why.text ++ ": " ++ Text.quoted f.path
  | none => f.why.text

end Glossary
