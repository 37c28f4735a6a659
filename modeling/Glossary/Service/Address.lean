import Glossary.Text.Pieces
import Glossary.Text.Quoted
import Glossary.Text.Utf8

set_option autoImplicit false

namespace Glossary.Service

inductive AddressFault where
  /-- A control character stands at a position. -/
  | control (c : Char) (position : Nat)
  /-- The path begins with two slashes that no authority follows. -/
  | doubleSlash
  /-- The path begins with a colon. -/
  | colon
  deriving DecidableEq, Repr

def AddressFault.message : AddressFault → String
  | control c position =>
    "Invalid non-printable ASCII character in URL, " ++ Text.quoted (String.ofList [c]) ++
      " at position " ++ toString position ++ "."
  | doubleSlash => "Relative URLs cannot have a path starting with '//'"
  | colon => "Relative URLs cannot have a path starting with ':'"

/-- Where a request goes: the decoded path, and the text of the fields if there are any. -/
structure Address where
  path : String
  fields : Option String := none
  deriving DecidableEq, Repr

namespace Address

def hexValue? (c : Char) : Option Nat :=
  if '0' ≤ c ∧ c ≤ '9' then some (c.toNat - '0'.toNat)
  else if 'a' ≤ c ∧ c ≤ 'f' then some (c.toNat - 'a'.toNat + 10)
  else if 'A' ≤ c ∧ c ≤ 'F' then some (c.toNat - 'A'.toNat + 10)
  else none

/-- The byte that a percent sign and two characters write. -/
def byte? (high low : Char) : Option UInt8 :=
  (hexValue? high).bind fun h => (hexValue? low).map fun l => UInt8.ofNat (16 * h + l)

def decodedBytes : List Char → List UInt8
  | '%' :: high :: low :: rest =>
    match byte? high low with
    | some b => b :: decodedBytes rest
    | none => Text.utf8 ['%'] ++ decodedBytes (high :: low :: rest)
  | c :: rest => Text.utf8 [c] ++ decodedBytes rest
  | [] => []

/-- The text that bytes encode. Where they encode none, a mark stands for each that is not plain. -/
def textOf (bytes : List UInt8) : List Char :=
  match String.fromUTF8? ⟨bytes.toArray⟩ with
  | some text => text.toList
  | none => bytes.map fun b => if b < 128 then Char.ofNat b.toNat else '\uFFFD'

/-- The text with bytes that are written out put in their place. -/
def decode (s : List Char) : List Char := textOf (decodedBytes s)

def isControl (c : Char) : Bool := decide (c.toNat < 32) || c.toNat == 127

/-- The scheme that a text begins with, and the rest: a colon ends it, and if it has characters the
first is a letter. -/
def splitScheme (s : List Char) : List Char × List Char :=
  let word := s.takeWhile fun c => c.isAlphanum || c == '+' || c == '.' || c == '-'
  match s.drop word.length with
  | ':' :: rest => if word.head?.all Char.isAlpha then (word, rest) else ([], s)
  | _ => ([], s)

/-- The authority that two slashes begin, and the rest. -/
def splitAuthority : List Char → List Char × List Char
  | '/' :: '/' :: rest => (rest.takeWhile (· != '/'), rest.dropWhile (· != '/'))
  | s => ([], s)

/-- The path from the root in a text without fields and fragment. With scheme and authority it is
as it is written, otherwise the number of slashes that it begins with does not matter. -/
def rawPath (s : List Char) : Except AddressFault (List Char) :=
  let (scheme, rest) := splitScheme s
  let (authority, path) := splitAuthority rest
  if !scheme.isEmpty && !authority.isEmpty then .ok path
  else if !scheme.isEmpty || !authority.isEmpty then .ok ('/' :: path.dropWhile (· == '/'))
  else if ['/', '/'].isPrefixOf path then .error .doubleSlash
  else if path.head? = some ':' then .error .colon
  else .ok ('/' :: path.dropWhile (· == '/'))

/-- One more part of a path: a point stays in place, two points lead up, though not above the
root. -/
def addPart (path : List (List Char)) (part : List Char) : List (List Char) :=
  if part = ['.'] then path
  else if part = ['.', '.'] then if path = [[]] then path else path.dropLast
  else path ++ [part]

/-- The path without parts that stay in place or lead up. -/
def settle (path : List Char) : List Char :=
  ['/'].intercalate ((Text.pieces (· == '/') path).foldl addPart [])

/-- The fields of a text, which a question mark begins and a hash sign ends. -/
def fieldsOf (s : List Char) : Option (List Char) :=
  match s.dropWhile fun c => c != '?' && c != '#' with
  | '?' :: rest => some (rest.takeWhile (· != '#'))
  | _ => none

def ofText (text : String) : Except AddressFault Address :=
  let s := text.toList
  match s.findIdx? isControl with
  | some position => .error (.control (s.getD position ' ') position)
  | none =>
    (rawPath (s.takeWhile fun c => c != '?' && c != '#')).map fun path =>
      { path := String.ofList (decode (decode (settle path)))
        fields := (fieldsOf s).map String.ofList }

def decodeField (s : List Char) : String :=
  String.ofList (decode (s.map fun c => if c = '+' then ' ' else c))

def field? (a : Address) (name : String) : Option String :=
  let fields := (Text.pieces (· == '&') ((a.fields.getD "").toList)).filter (· != [])
  (fields.filterMap fun f =>
    if decodeField (f.takeWhile (· != '=')) = name then
      some (decodeField ((f.dropWhile (· != '=')).drop 1))
    else none).getLast?

end Address

end Glossary.Service
