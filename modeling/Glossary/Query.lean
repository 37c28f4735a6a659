import Glossary.Filter
import Glossary.Text.Blank

set_option autoImplicit false

namespace Glossary.Query

open Glossary.Text

/-- Characters that end a line for quoted text. -/
def isLineEnd (c : Char) : Bool :=
  c == '\n' || c == '\r' || c == '\u0085' || c == '\u2028' || c == '\u2029'

def isTagEnd (c : Char) : Bool := c == ']' || c == '\r' || c == '\n'

def isLocaleEnd (c : Char) : Bool := c == ']' || isAsciiBlank c

def isLetter (c : Char) : Bool := inRanges [(65, 90), (97, 122)] c

/-- Whether a token begins with a character, given what stands before it and after it, and how many
of the characters after it belong to the token. -/
abbrev Pattern := Option Char → Char → List Char → Option Nat

/-- The tokens of a text from left to right. The first `skip` characters belong to a token that
began before them, and `before` is the character on the left of the text. -/
def scan (pattern : Pattern) : Nat → Option Char → List Char → List (List Char)
  | _, _, [] => []
  | skip + 1, _, c :: rest => scan pattern skip (some c) rest
  | 0, before, c :: rest =>
    match pattern before c rest with
    | some more => (c :: rest.take more) :: scan pattern more (some c) rest
    | none => scan pattern 0 (some c) rest

/-- Text between two delimiters: what may stand there, how many characters at least, and whether
the text goes on to the last closing delimiter that it can reach or stops at the first one. -/
structure Delimited where
  opening : Char
  closing : Char
  isInside : Char → Bool
  least : Nat
  toLast : Bool

namespace Delimited

/-- Where the text can close: how many characters may stand between the delimiters, in ascending
order, if `count` of them were read already. -/
def closings (d : Delimited) (count : Nat) : List Char → List Nat
  | [] => []
  | c :: rest =>
    let later := if d.isInside c then d.closings (count + 1) rest else []
    if c = d.closing then count :: later else later

/-- How many characters stand between the delimiters if the text opens right before `rest`. -/
def inside? (d : Delimited) (rest : List Char) : Option Nat :=
  let counts := (d.closings 0 rest).filter fun count => decide (d.least ≤ count)
  if d.toLast then counts.getLast? else counts.head?

/-- The text with its delimiters as a token. -/
def pattern (d : Delimited) : Pattern := fun _ c rest =>
  if c = d.opening then (d.inside? rest).map (· + 1) else none

end Delimited

/-- Quoted text. Nothing between the quotes is a token too, but no filter. -/
def quoted : Delimited := ⟨'"', '"', fun c => !isLineEnd c, 0, false⟩

def bracketed : Delimited := ⟨'[', ']', fun c => !isTagEnd c, 1, true⟩

def parenthesized : Delimited := ⟨'(', ')', fun c => !isLocaleEnd c, 0, true⟩

/-- There is white space at a place, or nothing at all. -/
def isGap : Option Char → Bool
  | some c => isAsciiBlank c
  | none => true

/-- Letters between gaps. A shorter run of them is followed by a letter and so by no gap. -/
def word : Pattern := fun before c rest =>
  let more := (rest.takeWhile isLetter).length
  if isGap before && isLetter c && isGap (rest.drop more).head? then some more else none

/-- The patterns in the order of reading. -/
def patterns : List Pattern :=
  [quoted.pattern, bracketed.pattern, parenthesized.pattern, word]

def tokens (query : String) : List String :=
  patterns.flatMap fun pattern => (scan pattern 0 none query.toList).map String.ofList

/-- The filters that a query stands for, each once. -/
def parse (query : String) : List Filter := Filter.ofTokens (tokens query)

def parse? : Option String → List Filter
  | none => []
  | some query => parse query

end Glossary.Query
