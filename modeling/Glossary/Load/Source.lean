import Glossary.FileTree.Path
import Glossary.Packed

set_option autoImplicit false

namespace Glossary

inductive SourceFault where
  | path (fault : PathFault)
  | packed (fault : Packed.Fault)
  /-- The file holds no text. -/
  | noText
  deriving DecidableEq, Repr

namespace SourceFault

def message : SourceFault → String
  | path fault => fault.message
  | packed fault => fault.message
  | noText => "'utf-8' codec can't decode the file"

/-- The fault is reported, and no reason to break off. -/
def isReported : SourceFault → Bool
  | packed (.noFiles _ _) => true
  | noText => true
  | _ => false

end SourceFault

/-- The text of a file, unpacked if the path says that it is packed. -/
def readText (path : String) (text : String) : Except SourceFault (Option String) :=
  match Packed.packing? path with
  | none => .ok (some text)
  | some packing =>
    match Packed.unpack packing path text with
    | .ok unpacked => .ok (some unpacked)
    | .error fault => .error (.packed fault)

/-- What is wrong with a directory where a file should be. Without a reader for the file that the
path names it is not looked at. -/
def directoryFault (path : String) : SourceFault :=
  match Packed.packing? path with
  | some .zstandard => .packed (.noReader Packed.zstandardName)
  | _ => .path ⟨.directory, path⟩

def FileTree.sourceText (t : FileTree) (l : Location) : Except SourceFault (Option String) :=
  match t.look l with
  | .error fault => .error (.path fault)
  | .ok none => .ok none
  | .ok (some .directory) => .error (directoryFault l.text)
  | .ok (some (.text text)) => readText l.text text
  | .ok (some _) => .error .noText

end Glossary
