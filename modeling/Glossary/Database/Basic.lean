import Glossary.Hindrance

set_option autoImplicit false

namespace Glossary

structure EntryRow where
  id : Option String
  term : Option String
  definition : Option String
  rank : Option String
  deriving DecidableEq, Repr

structure LabelRow where
  id : Option String
  name : Option String
  deriving DecidableEq, Repr

/-- The tables of a database; any of them may be missing. -/
structure Tables where
  entries : Option (List EntryRow) := none
  tags : Option (List LabelRow) := none
  locales : Option (List LabelRow) := none
  deriving DecidableEq, Repr

inductive Unusable where
  /-- It holds something else. -/
  | notADatabase
  /-- It cannot be read. -/
  | unread (why : Hindrance)
  /-- It cannot be opened. -/
  | unopened (why : Hindrance)
  deriving DecidableEq, Repr

inductive Database where
  | missing
  | unusable (why : Unusable)
  | holding (tables : Tables)
  deriving DecidableEq, Repr

inductive TableName where
  | entries
  | tags
  | locales
  deriving DecidableEq, Repr

def TableName.text : TableName → String
  | entries => "glossary_entries"
  | tags => "glossary_tags"
  | locales => "glossary_locales"

/-- What is said of a table that is not there. -/
def TableName.absentText (name : TableName) : String :=
  "Catalog Error: Table with name " ++ name.text ++ " does not exist!"

namespace Database

def isFile : Database → Bool
  | missing => false
  | _ => true

def emptyTables : Tables := ⟨some [], some [], some []⟩

end Database

/-- What is said of an unusable file, by its full path. -/
def Unusable.text (fullPath : String) : Unusable → String
  | notADatabase =>
    "IO Error: The file \"" ++ fullPath ++ "\" exists, but it is not a valid DuckDB database file!"
  | unread why => "IO Error: Could not read from file \"" ++ fullPath ++ "\": " ++ why.text
  | unopened why => "IO Error: Cannot open file \"" ++ fullPath ++ "\": " ++ why.text

/-- A database where it is kept. Messages about a missing file give the path as it is, messages
about an unusable file give it in full. It stands for a file in which tables last and whose path can
be looked up; what else a path may lead to is said by `Opening` and `FileTree.look`. -/
structure DatabaseFile where
  path : String
  fullPath : String
  contents : Database
  deriving DecidableEq, Repr

def DatabaseFile.unusableText (file : DatabaseFile) (why : Unusable) : String := why.text file.fullPath

end Glossary
