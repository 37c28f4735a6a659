import Glossary.Text.Ranges

set_option autoImplicit false

namespace Glossary.Text

/-- Space, tab, line feed, vertical tab, form feed and carriage return. -/
def isAsciiBlank (c : Char) : Bool := inRanges [(9, 13), (32, 32)] c

/-- Every character that counts as white space, the four ASCII separators U+001C to U+001F among
them. -/
def blankRanges : List (Nat × Nat) :=
  [(0x9, 0xD), (0x1C, 0x20), (0x85, 0x85), (0xA0, 0xA0), (0x1680, 0x1680), (0x2000, 0x200A),
   (0x2028, 0x2029), (0x202F, 0x202F), (0x205F, 0x205F), (0x3000, 0x3000)]

def isBlank (c : Char) : Bool := inRanges blankRanges c

/-- Takes away the characters of a class at both ends. -/
def trimChars (drop : Char → Bool) (s : List Char) : List Char :=
  ((s.dropWhile drop).reverse.dropWhile drop).reverse

def trim (s : String) : String := String.ofList (trimChars isBlank s.toList)

def isBlankText (s : String) : Bool := s.toList.all isBlank

end Glossary.Text
