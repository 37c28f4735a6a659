import Glossary.Text.Numeral

set_option autoImplicit false

namespace Glossary.CommandLine

inductive Switch where
  | help
  | database
  | verbose
  | substring
  | maxDistance
  deriving DecidableEq, Repr

def Switch.takesValue : Switch → Bool
  | .database => true
  | .maxDistance => true
  | _ => false

abbrev Spellings := List (String × Switch)

/-- What the program is told to do, in one line for each command. -/
def usage : String :=
  "usage: glossary [--db PATH] [--verbose] load FILE\n" ++
    "       glossary [--db PATH] [--verbose] search QUERY [--substring] [--max-distance N]"

def generalSpellings : Spellings :=
  [("-h", .help), ("--help", .help), ("--db", .database), ("--verbose", .verbose)]

def loadSpellings : Spellings := [("-h", .help), ("--help", .help)]

def searchSpellings : Spellings :=
  [("-h", .help), ("--help", .help), ("--substring", .substring), ("--max-distance", .maxDistance)]

/-- Why nothing is run: help was asked for, or the arguments make no sense. -/
inductive Refusal where
  | help
  | misuse
  deriving DecidableEq, Repr

def Refusal.code : Refusal → Nat
  | help => 0
  | misuse => 2

/-- What stands in one argument together with a switch. -/
inductive Attached where
  | nothing
  | afterEquals (text : List Char)
  | directly (text : List Char)
  deriving DecidableEq, Repr

inductive Reading where
  | plain
  | separator
  | switch (s : Switch) (attached : Attached)
  | unknown
  deriving DecidableEq, Repr

structure Token where
  text : String
  reading : Reading
  deriving DecidableEq, Repr

def isDigits (s : List Char) : Bool := !s.isEmpty && s.all fun c => (Text.digitValue? c).isSome

/-- A minus sign and digits, with at most one point that is followed by a digit. A line feed at
the end does not matter. -/
def isNegativeNumber (s : List Char) : Bool :=
  let s := if s.getLast? = some '\n' then s.dropLast else s
  match s with
  | '-' :: rest =>
    isDigits rest ||
      match rest.dropWhile fun c => (Text.digitValue? c).isSome with
      | '.' :: decimals => isDigits decimals
      | _ => false
  | _ => false

/-- What follows the first equals sign, if there is one. -/
def afterEquals? (s : List Char) : Option (List Char) := (s.dropWhile (· != '=')).tail?

def attachedTo (s : List Char) : Attached := ((afterEquals? s).map .afterEquals).getD .nothing

/-- The spelling of a short switch: one dash and a letter. -/
def isShort (spelling : List Char) : Bool := spelling.length == 2

/-- What stands behind the equals sign after a switch that is spelled out. Behind a short switch
the sign makes no difference. -/
def attachedBehind (spelling value : List Char) : Attached :=
  if isShort spelling then .directly value else .afterEquals value

/-- The readings of an argument as a shortened switch, or as a short switch with more text right
behind it. -/
def shortened (spellings : Spellings) (s : List Char) : List Reading :=
  match s with
  | '-' :: '-' :: _ =>
    (spellings.filter fun e => (s.takeWhile (· != '=')).isPrefixOf e.1.toList).map fun e =>
      .switch e.2 (attachedTo s)
  | _ =>
    spellings.filterMap fun e =>
      if e.1.toList = s.take 2 then some (.switch e.2 (.directly (s.drop 2)))
      else if s.isPrefixOf e.1.toList then some (.switch e.2 .nothing)
      else none

/-- Reads one argument, the separator apart. -/
def readArgument (spellings : Spellings) (argument : String) : Except Refusal Reading :=
  let s := argument.toList
  if s.head? ≠ some '-' then .ok .plain
  else
    match spellings.lookup argument with
    | some found => .ok (.switch found .nothing)
    | none =>
      if s.length = 1 then .ok .plain
      else
        let spelling := s.takeWhile (· != '=')
        match afterEquals? s, spellings.lookup (String.ofList spelling) with
        | some value, some found => .ok (.switch found (attachedBehind spelling value))
        | _, _ =>
          match shortened spellings s with
          | [reading] => .ok reading
          | [] => .ok (if isNegativeNumber s || s.contains ' ' then .plain else .unknown)
          | _ => .error .misuse

/-- Reads all arguments. After the separator they are plain. -/
def readArguments (spellings : Spellings) : List String → Except Refusal (List Token)
  | [] => .ok []
  | argument :: rest =>
    if argument = "--" then .ok (⟨argument, .separator⟩ :: rest.map fun a => ⟨a, .plain⟩)
    else
      match readArgument spellings argument with
      | .error refusal => .error refusal
      | .ok reading => (readArguments spellings rest).map (⟨argument, reading⟩ :: ·)

/-- The refusal for text right behind the short switch for help, which is the only one: no more
than the same letter may follow. -/
def attachedHelp (text : List Char) : Refusal :=
  if !text.isEmpty && text.all (· == 'h') then .help else .misuse

/-- A switch without a value, and what is attached to it. -/
def readFlag : Switch → Attached → Except Refusal Unit
  | .help, .nothing => .error .help
  | .help, .directly text => .error (attachedHelp text)
  | _, .nothing => .ok ()
  | _, _ => .error .misuse

/-- The value of a switch and the tokens that are left: it is attached, or the next token is it. -/
def readValue (attached : Attached) (rest : List Token) : Except Refusal (String × List Token) :=
  match attached, rest with
  | .afterEquals value, rest => .ok (String.ofList value, rest)
  | .directly value, rest => .ok (String.ofList value, rest)
  | .nothing, ⟨text, .plain⟩ :: rest => .ok (text, rest)
  | .nothing, _ => .error .misuse

structure Given where
  operand : Option String := none
  database : Option String := none
  substring : Bool := false
  maxDistance : Option Int := none
  surplus : Bool := false
  deriving DecidableEq, Repr

namespace Given

def flag (g : Given) : Switch → Given
  | .substring => { g with substring := true }
  | _ => g

/-- Notes the value of a switch. Two dashes are no value and leave the switch without one. -/
def value (g : Given) (s : Switch) (text : String) : Except Refusal Given :=
  let text? := if text = "--" then none else some text
  match s, text? with
  | .maxDistance, none => .ok { g with maxDistance := none }
  | .maxDistance, some text =>
    match Text.parseInt? text with
    | some n => .ok { g with maxDistance := some n }
    | none => .error .misuse
  | _, text? => .ok { g with database := text? }

end Given

def skipSeparator : List Token → List Token
  | ⟨_, .separator⟩ :: rest => rest
  | tokens => tokens

theorem length_skipSeparator (tokens : List Token) :
    (skipSeparator tokens).length ≤ tokens.length := by
  unfold skipSeparator
  split <;> simp

theorem length_readValue {attached : Attached} {rest left : List Token} {value : String}
    (h : readValue attached rest = .ok (value, left)) : left.length ≤ rest.length := by
  unfold readValue at h
  split at h <;> cases h <;> simp

/-- Reads the tokens of a command that has one operand. A separator may stand on either side of
the operand; what is neither a switch nor the operand is surplus. -/
def readOperands (g : Given) (tokens : List Token) : Except Refusal Given :=
  match tokens with
  | [] => .ok g
  | ⟨text, .plain⟩ :: rest =>
    if g.operand.isNone then readOperands { g with operand := some text } (skipSeparator rest)
    else readOperands { g with surplus := true } rest
  | ⟨_, .separator⟩ :: rest =>
    if g.operand.isNone then readOperands g rest else readOperands { g with surplus := true } rest
  | ⟨_, .unknown⟩ :: rest => readOperands { g with surplus := true } rest
  | ⟨_, .switch s attached⟩ :: rest =>
    if s.takesValue then
      match h : readValue attached rest with
      | .error refusal => .error refusal
      | .ok (text, left) =>
        have : left.length ≤ rest.length := length_readValue h
        match g.value s text with
        | .error refusal => .error refusal
        | .ok g => readOperands g left
    else
      match readFlag s attached with
      | .error refusal => .error refusal
      | .ok () => readOperands (g.flag s) rest
termination_by tokens.length
decreasing_by
  all_goals simp_all
  all_goals have := length_skipSeparator rest; omega

inductive Command where
  | load (path : String)
  | search (query : String) (substring : Bool) (maxDistance : Option Int)
  deriving DecidableEq, Repr

/-- What is to be done, and on which database if one is named. -/
structure Invocation where
  database : Option String
  command : Command
  deriving DecidableEq, Repr

def readCommand (spellings : Spellings) (arguments : List String) :
    Except Refusal (String × Given) :=
  match (readArguments spellings arguments).bind (readOperands {}) with
  | .error refusal => .error refusal
  | .ok g =>
    match g.operand, g.surplus with
    | some operand, false => .ok (operand, g)
    | _, _ => .error .misuse

def readNamed (name : String) (arguments : List String) : Except Refusal Command :=
  if name = "load" then (readCommand loadSpellings arguments).map fun r => .load r.1
  else if name = "search" then
    (readCommand searchSpellings arguments).map fun r => .search r.1 r.2.substring r.2.maxDistance
  else .error .misuse

def readGeneral (g : Given) (tokens : List Token) : Except Refusal Invocation :=
  match tokens with
  | [] => .error .misuse
  | ⟨name, .plain⟩ :: rest =>
    match readNamed name (rest.map (·.text)) with
    | .error refusal => .error refusal
    | .ok command => if g.surplus then .error .misuse else .ok ⟨g.database, command⟩
  | ⟨_, .separator⟩ :: _ => .error .misuse
  | ⟨_, .unknown⟩ :: rest => readGeneral { g with surplus := true } rest
  | ⟨_, .switch s attached⟩ :: rest =>
    if s.takesValue then
      match h : readValue attached rest with
      | .error refusal => .error refusal
      | .ok (text, left) =>
        have : left.length ≤ rest.length := length_readValue h
        match g.value s text with
        | .error refusal => .error refusal
        | .ok g => readGeneral g left
    else
      match readFlag s attached with
      | .error refusal => .error refusal
      | .ok () => readGeneral (g.flag s) rest
termination_by tokens.length

def readInvocation (arguments : List String) : Except Refusal Invocation :=
  (readArguments generalSpellings arguments).bind (readGeneral {})

end Glossary.CommandLine
