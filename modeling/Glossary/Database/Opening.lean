import Glossary.FileTree.Path
import Glossary.Load
import Glossary.Text.Likeness

set_option autoImplicit false

/- Opening the database that a path names in a tree of files. A path that begins with a mark names a
database in memory, and so does the path of a file whose ending says that it holds data of another
form: what is written to such a database is gone with the next opening. Any other path names a file.
A load needs room beside the file for a log, whose name is longer. -/

namespace Glossary

/-- The file once it was opened, which makes one without tables where there is none. -/
def DatabaseFile.made (file : DatabaseFile) : DatabaseFile :=
  match file.contents with
  | .missing => { file with contents := .holding {} }
  | _ => file

/-- How long tables last that are written to a database. -/
inductive Lasting where
  | kept
  /-- They are gone before they are filled. Of the tables that are left, one has the name that is
  most alike. -/
  | fleeting (alike : String)
  /-- They cannot be written for want of a log. -/
  | unlogged (log : String)
  deriving DecidableEq, Repr

/-- A database that was opened: the file, its place, and how long tables last in it. -/
structure Opening where
  file : DatabaseFile
  place : Place
  lasting : Lasting
  deriving DecidableEq, Repr

namespace Opening

/-- What a path of a database in memory begins with. -/
def memoryMark : String := ":memory:"

/-- The path, in any case, of the database that is in memory by default. -/
def defaultMark : String := ":default:"

def isInMemory (path : String) : Bool :=
  memoryMark.toList.isPrefixOf path.toList || path.toLower == defaultMark

def packedEndings : List String := [".gz", ".zst"]

/-- The endings of files that hold data of another form. -/
def dataEndings : List String := [".csv", ".tsv", ".parquet", ".json", ".jsonl", ".ndjson"]

def withoutEnding (endings : List String) (text : List Char) : List Char :=
  match endings.find? fun e => e.toList.isSuffixOf text with
  | some e => text.take (text.length - e.length)
  | none => text

/-- The ending of the path, in any case, says that the file holds data of another form. -/
def namesData (path : String) : Bool :=
  let bare := withoutEnding packedEndings path.toLower.toList
  dataEndings.any fun e => e.toList.isSuffixOf bare

/-- The first part of a name that is not empty between points. -/
def baseName (name : String) : String :=
  match (Text.pieces (· == '.') name.toList).filter (· != []) with
  | first :: _ => String.ofList first
  | [] => name

/-- Of the tables that every database has, the one that is most like the first of a glossary. -/
def standardTable : String := "pg_constraint"

/-- The table most like the first of a glossary, where there is one by the name of the file too. -/
def alikeAmong (name : String) : String :=
  let likeness (table : String) : Rat :=
    Text.likeness table.toList TableName.entries.text.toList
  if likeness standardTable < likeness name then name else standardTable

def logEnding : String := ".wal"

/-- How long tables last in the file of a name. -/
def lastingOf (fullPath name : String) : Lasting :=
  if FileTree.partLimit < FileTree.byteCount (name ++ logEnding) then
    .unlogged (fullPath ++ logEnding)
  else .kept

end Opening

namespace FileTree

/-- What a path begins with that is read at home. -/
def homeMark : Char := '~'

/-- The place where the database of a location is opened. The text of the location counts up to the
character that ends a path. -/
def openedPlace (t : FileTree) (l : Location) : Place :=
  let written :=
    match l.text.toList.takeWhile (· != endMark) with
    | [] => []
    | c :: rest => if c = homeMark then (locationOf t.home).text.toList ++ rest else c :: rest
  (t.full (Location.ofText (String.ofList written))).parts

/-- What is at a place where nothing stands: room for a database, if it can be put there. -/
def room (t : FileTree) (p : Place) : Database :=
  if pathLimit < byteCount (locationOf p).text then .unusable (.unopened .longName)
  else
    match (t.locate (locationOf p.dropLast)).bind fun q => t.step q (p.getLastD "") with
    | .ok _ => .missing
    | .error why => .unusable (.unopened why)

/-- What is opened at a location, and how long tables last in it. -/
def opened (t : FileTree) (l : Location) : Database × Lasting :=
  let place := t.openedPlace l
  let name := place.getLastD ""
  let lasting := Opening.lastingOf (locationOf place).text name
  if Opening.isInMemory l.text then (.missing, .fleeting Opening.standardTable)
  else
    match t.node? place with
    | none => (t.room place, lasting)
    | some .directory => (.unusable (.unread .directory), lasting)
    | some (.tables tables) => (.holding tables, lasting)
    | some _ =>
      if Opening.namesData l.text then
        (.missing, .fleeting (Opening.alikeAmong (Opening.baseName name)))
      else (.unusable .notADatabase, lasting)

def opening (t : FileTree) (l : Location) : Opening :=
  let place := t.openedPlace l
  ⟨⟨l.text, (locationOf place).text, (t.opened l).1⟩, place, (t.opened l).2⟩

theorem place_opening (t : FileTree) (l : Location) : (t.opening l).place = t.openedPlace l := by
  simp only [opening]

theorem file_opening (t : FileTree) (l : Location) : (t.opening l).file =
    ⟨l.text, (locationOf (t.openedPlace l)).text, (t.opened l).1⟩ := by
  simp only [opening]

theorem lasting_opening (t : FileTree) (l : Location) : (t.opening l).lasting = (t.opened l).2 := by
  simp only [opening]

theorem openedPlace_put (t : FileTree) (l : Location) (p : Place) (node : FileNode) :
    (t.put p node).openedPlace l = t.openedPlace l := rfl

/-- The database of a location as a search finds it. Where something stands, it is opened; where
nothing stands, there is none. -/
def found (t : FileTree) (l : Location) : DatabaseFile :=
  let file := (t.opening l).file
  match (t.look l).toOption.join with
  | none => { file with contents := .missing }
  | some _ => file.made

/-- The tree in which a database that was opened holds what it now does. -/
def keep (t : FileTree) (o : Opening) (contents : Database) : FileTree :=
  match contents with
  | .holding tables => t.put o.place (.tables tables)
  | _ => t

end FileTree

namespace Opening

/-- Loads text into a database that was opened. Without a log the first change already fails, so
that tables which are there stay. -/
def loadBy (read : String → Except Csv.Fault Sheet) (o : Opening) (path : String)
    (text : Option String) : Loaded :=
  let loaded := Load.textBy read o.file path text
  match o.lasting, loaded.result with
  | .kept, _ => loaded
  | .fleeting alike, .ok _ => ⟨o.file, .error (.tablesGone alike), loaded.notices⟩
  | .fleeting _, .error fault => ⟨o.file, .error fault, loaded.notices⟩
  | .unlogged log, .ok _ => ⟨o.file.made, .error (.unlogged log), []⟩
  | .unlogged log, .error .repeatedColumn => ⟨o.file.made, .error (.unlogged log), []⟩
  | .unlogged _, .error _ => loaded

def load (o : Opening) (path : String) (text : Option String) : Loaded :=
  o.loadBy Csv.read path text

end Opening

end Glossary
