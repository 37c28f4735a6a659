import Glossary.Entry
import Glossary.Text.Pieces

set_option autoImplicit false

namespace Glossary

inductive FilterKind where
  | definition
  | label (kind : LabelKind)
  | term
  deriving DecidableEq, Repr

namespace FilterKind

/-- The place of a kind in written filters. -/
def place : FilterKind → Nat
  | definition => 0
  | label .tag => 1
  | label .locale => 2
  | term => 3

def name : FilterKind → String
  | definition => "definition"
  | label .tag => "tag"
  | label .locale => "locale"
  | term => "term"

/-- What stands before and after the text of a filter. -/
def delimiters : FilterKind → String × String
  | definition => ("\"", "\"")
  | label .tag => ("[", "]")
  | label .locale => ("(", ")")
  | term => ("", "")

end FilterKind

structure Filter where
  kind : FilterKind
  text : String
  verified : Bool := false
  deriving DecidableEq, Repr

namespace Filter

def key (f : Filter) : FilterKind × String := (f.kind, f.text)

def distinct (filters : List Filter) : List Filter := distinctOn key filters

def written (f : Filter) : String := f.kind.delimiters.1 ++ f.text ++ f.kind.delimiters.2

/-- Ahead in written filters: by the place of the kind, then by text. -/
def comesBefore (a b : Filter) : Bool :=
  decide (a.kind.place < b.kind.place) ||
    (decide (a.kind.place = b.kind.place) && decide (a.text ≤ b.text))

def sorted (filters : List Filter) : List Filter := sortBy comesBefore filters

def write (filters : List Filter) (separator : String) : String :=
  Text.join separator ((sorted filters).map written)

/-- The text of a set of filters after one was dropped; there is none when the set has no second
filter. -/
def writeWithout? (filters : List Filter) (dropped : Filter) (separator : String) :
    Option String :=
  if filters.length ≤ 1 then none
  else some (write (filters.filter fun f => decide (f.key ≠ dropped.key)) separator)

/-- Ahead in a listing by name: by the word for the kind, then by text. -/
def listedBefore (a b : Filter) : Bool :=
  decide (a.kind.name < b.kind.name) ||
    (decide (a.kind.name = b.kind.name) && decide (a.text ≤ b.text))

def listed (filters : List Filter) : List Filter := sortBy listedBefore filters

/-- Reads a token by its first character: a bracket, a quote or a parenthesis tells the kind, and
then the first and the last character go. A token that leaves no text is no filter. -/
def ofToken? (token : String) : Option Filter :=
  let inside := (token.toList.drop 1).dropLast
  let read (kind : FilterKind) (text : List Char) : Option Filter :=
    if text.isEmpty then none else some ⟨kind, String.ofList text, false⟩
  match token.toList with
  | '[' :: _ => read (.label .tag) inside
  | '"' :: _ => read .definition inside
  | '(' :: _ => read (.label .locale) inside
  | text => read .term text

def ofTokens (tokens : List String) : List Filter := distinct (tokens.filterMap ofToken?)

end Filter

end Glossary
