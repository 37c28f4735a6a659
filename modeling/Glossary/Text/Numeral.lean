import Glossary.Text.Blank

set_option autoImplicit false

namespace Glossary.Text

/-- The zeros of all scripts with decimal digits; each is followed by its digits 1 to 9. -/
def zeros : List Nat := [
  0x30, 0x660, 0x6F0, 0x7C0, 0x966, 0x9E6, 0xA66, 0xAE6, 0xB66, 0xBE6,
  0xC66, 0xCE6, 0xD66, 0xDE6, 0xE50, 0xED0, 0xF20, 0x1040, 0x1090, 0x17E0,
  0x1810, 0x1946, 0x19D0, 0x1A80, 0x1A90, 0x1B50, 0x1BB0, 0x1C40, 0x1C50, 0xA620,
  0xA8D0, 0xA900, 0xA9D0, 0xA9F0, 0xAA50, 0xABF0, 0xFF10, 0x104A0, 0x10D30, 0x11066,
  0x110F0, 0x11136, 0x111D0, 0x112F0, 0x11450, 0x114D0, 0x11650, 0x116C0, 0x11730, 0x118E0,
  0x11950, 0x11C50, 0x11D50, 0x11DA0, 0x16A60, 0x16AC0, 0x16B50, 0x1D7CE, 0x1D7D8, 0x1D7E2,
  0x1D7EC, 0x1D7F6, 0x1E140, 0x1E2F0, 0x1E950, 0x1FBF0
]

def digitValue? (c : Char) : Option Nat :=
  (zeros.find? fun z => decide (z ≤ c.toNat) && decide (c.toNat < z + 10)).map
    fun z => c.toNat - z

/-- White space that may surround a numeral: all of it but the ASCII separators U+001C to
U+001F. -/
def isNumeralBlank (c : Char) : Bool := isBlank c && !inRanges [(0x1C, 0x1F)] c

/-- The most digits a numeral may have, leading zeros included. -/
def maxDigits : Nat := 4300

/-- The values of a run of digits in which single underscores may separate neighbours. -/
def digitValues? : List Char → Option (List Nat)
  | [] => none
  | [c] => (digitValue? c).map ([·])
  | c :: '_' :: rest => do return (← digitValue? c) :: (← digitValues? rest)
  | c :: rest => do return (← digitValue? c) :: (← digitValues? rest)

/-- The number that a list of digits stands for, the highest digit first. -/
def ofDigits (digits : List Nat) : Nat := digits.foldl (fun n d => 10 * n + d) 0

def parseNat? (s : List Char) : Option Nat := do
  let digits ← digitValues? s
  if digits.length ≤ maxDigits then some (ofDigits digits) else none

/-- The number written by a numeral without its surrounding white space. -/
def parseSigned? : List Char → Option Int
  | '-' :: rest => (parseNat? rest).map fun n => -(n : Int)
  | '+' :: rest => (parseNat? rest).map Int.ofNat
  | s => (parseNat? s).map Int.ofNat

/-- The whole number that the text writes, if it writes one. -/
def parseInt? (s : String) : Option Int := parseSigned? (trimChars isNumeralBlank s.toList)

end Glossary.Text
