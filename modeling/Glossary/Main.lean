import Glossary.CommandLine.Run
import Glossary.Database.Stored

set_option autoImplicit false

namespace Glossary.CommandLine

def readVariables : IO Environment :=
  Settings.variableNames.filterMapM fun name => return (← IO.getEnv name).map (name, ·)

/-- The byte that a file of tables begins with, and no text. -/
def tablesMark : UInt8 := 0xff

def nodeOf (bytes : ByteArray) : FileNode :=
  if bytes[0]? = some tablesMark then
    (((String.fromUTF8? (bytes.extract 1 bytes.size)).bind Stored.read?).map .tables).getD .bytes
  else ((String.fromUTF8? bytes).map .text).getD .bytes

def bytesOf (tables : Tables) : ByteArray :=
  ByteArray.mk #[tablesMark] ++ (Stored.write tables).toUTF8

def pathOf (p : Place) : String := (FileTree.locationOf p).text

/-- The tree with what stands at one more place. What is there and cannot be read as a file is a
directory. -/
def look (t : FileTree) (p : Place) : IO FileTree := do
  match ← (IO.FS.readBinFile (pathOf p)).toBaseIO with
  | .ok bytes => return t.put p (nodeOf bytes)
  | .error (.inappropriateType _ code _) =>
    return if some code.toNat = Hindrance.directory.number? then t.put p .directory else t
  | .error _ => return t

/-- The places that following a path goes through, and those above its database. -/
def placesOn (t : FileTree) (path : String) : List Place :=
  let l := Location.ofText path
  let steps := (List.range (l.parts.length + 1)).map fun n =>
    (t.full { l with parts := l.parts.take n }).parts
  let opened := t.openedPlace l
  steps ++ (List.range (opened.length + 1)).map fun n => opened.take n

def keepNode (change : Place × FileNode) : IO Unit :=
  match change.2 with
  | .directory => IO.FS.createDirAll (pathOf change.1)
  | .tables tables => IO.FS.writeBinFile (pathOf change.1) (bytesOf tables)
  | _ => return ()

def report : Ending → IO Nat
  | .finished code lines warnings => do
    lines.forM (IO.println ·)
    warnings.forM (IO.eprintln ·)
    return code
  | .refused .help => do
    IO.println usage
    return Refusal.help.code
  | .refused .misuse => do
    IO.eprintln usage
    return Refusal.misuse.code
  | .crashed why => do
    IO.eprintln why.message
    return 1

end Glossary.CommandLine

open Glossary Glossary.CommandLine in
def main (arguments : List String) : IO UInt32 := do
  let environment ← readVariables
  let placeOf (path : String) : Place := (Location.ofText path).parts
  let here := placeOf (← IO.currentDir).toString
  let home := ((← IO.getEnv "HOME").map placeOf).getD []
  let bare : FileTree := { here, home }
  let before ← ((pathsOf environment arguments).flatMap (placesOn bare)).foldlM look bare
  let ran := run before environment arguments
  for change in (ran.files.changesSince before).reverse do
    keepNode change
  for notice in ran.notices do
    IO.eprintln notice.line
  return (← report ran.ending).toUInt32
