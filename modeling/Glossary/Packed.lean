import Glossary.Text.Blank
import Glossary.Text.Quoted
import Glossary.Text.Utf8

set_option autoImplicit false

namespace Glossary.Packed

inductive Packing where
  | archive
  | gzip
  | bzip2
  | zip
  | xz
  | zstandard
  deriving DecidableEq, Repr

/-- The endings that tell how a file is packed. The first that fits counts. -/
def endings : List (String × Packing) :=
  [(".tar", .archive), (".tar.gz", .archive), (".tar.bz2", .archive), (".tar.xz", .archive),
   (".gz", .gzip), (".bz2", .bzip2), (".zip", .zip), (".xz", .xz), (".zst", .zstandard)]

/-- How the file of a path is packed, by its ending in any case. -/
def packing? (path : String) : Option Packing :=
  (endings.find? fun e => e.1.toList.isSuffixOf path.toLower.toList).map (·.2)

inductive Fault where
  /-- It begins with other bytes than a packed file. -/
  | notGzip (start : List UInt8)
  /-- It ends before its end mark. -/
  | cutShort
  /-- It goes on with other bytes than a packed file. -/
  | badStream
  /-- It begins like no packed file. -/
  | unknownFormat
  /-- It begins like a packed file and goes on with other bytes. -/
  | corrupt
  | notZip
  /-- It is no archive, packed or not, each for a reason. -/
  | notArchive (packed plain : String)
  /-- There is no file in it. -/
  | noFiles (kind path : String)
  /-- There is nothing to unpack it with. -/
  | noReader (name : String)
  deriving DecidableEq, Repr

/-- Bytes between quotes: those above 127 are written by their numbers. -/
def quotedBytes (bytes : List UInt8) : String :=
  let quote := Text.quoteFor (bytes.map fun b => Char.ofNat b.toNat)
  let shown (b : UInt8) : List Char :=
    if b < 128 then Text.escapeChar quote (Char.ofNat b.toNat)
    else '\\' :: 'x' :: Text.hexDigits 2 b.toNat
  String.ofList ('b' :: quote :: (bytes.flatMap shown ++ [quote]))

def Fault.message : Fault → String
  | notGzip start => "Not a gzipped file (" ++ quotedBytes start ++ ")"
  | cutShort => "Compressed file ended before the end-of-stream marker was reached"
  | badStream => "Invalid data stream"
  | unknownFormat => "Input format not supported by decoder"
  | corrupt => "Corrupt input data"
  | notZip => "File is not a zip file"
  | notArchive packed plain =>
    "file could not be opened successfully:\n- method gz: ReadError('" ++ packed ++
      "')\n- method bz2: ReadError('not a bzip2 file')\n- method xz: ReadError('not an lzma file')" ++
      "\n- method tar: ReadError('" ++ plain ++ "')"
  | noFiles kind path => "Zero files found in " ++ kind ++ " " ++ path
  | noReader name =>
    "`Import " ++ name ++ "` failed.  Use pip or conda to install the " ++ name ++ " package."

/-- The number that bytes write, the least of them first. -/
def littleEndian (bytes : List UInt8) : Nat := bytes.foldr (fun b n => b.toNat + 256 * n) 0

/-- The number that bytes write, the greatest of them first. -/
def bigEndian (bytes : List UInt8) : Nat := littleEndian bytes.reverse

def bytesOf (text : String) : List UInt8 := Text.utf8 text.toList

/-- What a block of a file packed as bzip2 begins with. -/
def blockMark : List UInt8 := bytesOf "1AY&SY"

def finalMark : List UInt8 := [0x17, 0x72, 0x45, 0x38, 0x50, 0x90]

/-- One of two lists begins with the other. -/
def agree (a b : List UInt8) : Bool := a.isPrefixOf b || b.isPrefixOf a

/-- The place of the first row of a block lies in the block. It is written in 24 bits behind a sum
of four bytes and one more bit, if the block goes on that far. -/
def rowInside (size : Nat) (block : List UInt8) : Bool :=
  let written := (block.drop 4).take 4
  decide (written.length < 4) || decide (bigEndian written / 128 % 16777216 ≤ 10 + 100000 * size)

/-- Why a text is no file packed as bzip2: sooner or later it breaks the form or ends. -/
def bzip2Fault (bytes : List UInt8) : Fault :=
  if bytes.length < 4 then if bytes.isPrefixOf (bytesOf "BZh") then .cutShort else .badStream
  else
    let size := (bytes.getD 3 0).toNat - 48
    let rest := bytes.drop 4
    if bytes.take 3 ≠ bytesOf "BZh" ∨ ¬(1 ≤ size ∧ size ≤ 9) then .badStream
    else if agree blockMark rest then
      if rowInside size (rest.drop blockMark.length) then .cutShort else .badStream
    else if agree finalMark rest then .cutShort
    else .badStream

/-- A size of a dictionary: a power of two, or one and a half of it. -/
def isDictionarySize (n : Nat) : Bool :=
  n == 0 || (List.range 32).any fun k => n == Nat.pow 2 k || 2 * n == 3 * Nat.pow 2 k

/-- The properties that the first byte of a packed file gives. -/
def arePropertiesFit (b : UInt8) : Bool :=
  decide (b.toNat ≤ 224) && decide (b.toNat % 45 / 9 + b.toNat % 9 ≤ 4)

/-- Why a text is no file packed as xz or as its forerunner: the header of a properties byte, four
bytes for the dictionary and eight for the length is judged as far as it goes. -/
def xzFault (bytes : List UInt8) : Fault :=
  let dictionary := (bytes.drop 1).take 4
  let length := (bytes.drop 5).take 8
  if bytes.isEmpty then .cutShort
  else if !arePropertiesFit (bytes.getD 0 0) then .unknownFormat
  else if dictionary.length = 4 ∧ !isDictionarySize (littleEndian dictionary) then .unknownFormat
  else if length.length = 8 ∧ 274877906944 ≤ littleEndian length then .unknownFormat
  else if bytes.getD 13 0 ≠ 0 then .corrupt
  else .cutShort

def zipEnd : List UInt8 := bytesOf "PK\x05\x06" ++ List.replicate 18 0

def headerSize : Nat := 512

/-- The field for the sum of a header holds an octal number or nothing. -/
def isSumField (field : List UInt8) : Bool :=
  let digits := Text.trimChars Text.isBlank
    ((field.takeWhile (· != 0)).map fun b => Char.ofNat b.toNat)
  field.head? == some 0x80 || digits.all fun c => decide ('0' ≤ c) && decide (c ≤ '7')

/-- Why a text that is not empty is no archive that is not packed; a header of zeros ends one. -/
def headerFault? (bytes : List UInt8) : Option String :=
  let header := bytes.take headerSize
  if header.length < headerSize then some "truncated header"
  else if header.all (· == 0) then none
  else if isSumField ((header.drop 148).take 8) then some "bad checksum"
  else some "invalid header"

def archiveFault (path : String) (bytes : List UInt8) : Fault :=
  if bytes.isEmpty then .notArchive "empty file" "empty file"
  else
    match headerFault? bytes with
    | some plain => .notArchive "not a gzip file" plain
    | none => .noFiles "TAR archive" path

def zstandardName : String := "zstandard"

/-- The text in a packed file that itself holds a text. -/
def unpack (p : Packing) (path text : String) : Except Fault String :=
  let bytes := bytesOf text
  match p with
  | .archive => .error (archiveFault path bytes)
  | .gzip => if bytes.isEmpty then .ok "" else .error (.notGzip (bytes.take 2))
  | .bzip2 => .error (bzip2Fault bytes)
  | .zip => .error (if zipEnd.isSuffixOf bytes then .noFiles "ZIP file" path else .notZip)
  | .xz => .error (xzFault bytes)
  | .zstandard => .error (.noReader zstandardName)

end Glossary.Packed
