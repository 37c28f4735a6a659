import Glossary.Notice
import Glossary.Search.Matching
import Glossary.Text.Numeral
import Glossary.Text.Pieces

set_option autoImplicit false

namespace Glossary

abbrev Environment := List (String × String)

/-- Where the glossary is kept, how terms match, and which origins may use the service. -/
structure Settings where
  path : String := "data/glossary.duckdb"
  maxDistance : Int := defaultDistance
  termMatch : TermMatch := .fuzzy
  origins : List String := ["http://localhost"]
  deriving DecidableEq, Repr

namespace Settings

def pathVariable : String := "GLOSSA_DB_PATH"

def distanceVariable : String := "GLOSSA_MAX_EDIT_DISTANCE"

def termMatchVariable : String := "GLOSSA_TERM_MATCH"

def originsVariable : String := "GLOSSA_CORS_ORIGINS"

def variableNames : List String := [pathVariable, distanceVariable, termMatchVariable, originsVariable]

/-- The value of a variable that is set and not empty. -/
def value? (environment : Environment) (name : String) : Option String :=
  (environment.lookup name).filter (· != "")

/-- The distance that a value writes: a whole number, not below zero. -/
def readDistance? (value : String) : Option Int :=
  (Text.parseInt? value).filter fun n => decide (0 ≤ n)

/-- The way of fetching that a value names, in any case and with white space around it. -/
def readTermMatch? (value : String) : Option TermMatch :=
  [TermMatch.fuzzy, TermMatch.substring].find? fun m => Text.lower (Text.trim value) == m.name

def readOrigins (value : String) : List String :=
  ((Text.pieces (· == ',') value.toList).map fun origin =>
    String.ofList (Text.trimChars Text.isBlank origin)).filter (· != "")

/-- The distance to use, and the notice if the variable is no distance. -/
def distance (environment : Environment) : Int × List Notice :=
  match value? environment distanceVariable with
  | none => (defaultDistance, [])
  | some value =>
    match readDistance? value with
    | some n => (n, [])
    | none => (defaultDistance, [.badDistance value defaultDistance])

/-- The way of fetching to use, and the notice if the variable names none. -/
def fetching (environment : Environment) : TermMatch × List Notice :=
  match value? environment termMatchVariable with
  | none => (.fuzzy, [])
  | some value =>
    match readTermMatch? value with
    | some m => (m, [])
    | none => (.fuzzy, [.badTermMatch value TermMatch.fuzzy.name])

/-- The settings that the variables give, and the notices for values that make no sense. -/
def ofEnvironment (environment : Environment) : Settings × List Notice :=
  let defaults : Settings := {}
  ({ path := (environment.lookup pathVariable).getD defaults.path
     maxDistance := (distance environment).1
     termMatch := (fetching environment).1
     origins := ((value? environment originsVariable).map readOrigins).getD defaults.origins },
   (distance environment).2 ++ (fetching environment).2)

def matching (s : Settings) : Matching := ⟨s.maxDistance, s.termMatch⟩

end Settings

end Glossary
