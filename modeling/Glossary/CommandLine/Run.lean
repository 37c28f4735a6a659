import Glossary.CommandLine.Arguments
import Glossary.Database.Lookup
import Glossary.Database.Opening
import Glossary.Load.Source
import Glossary.Search
import Glossary.Settings

set_option autoImplicit false

namespace Glossary.CommandLine

inductive Crash where
  | path (fault : PathFault)
  | source (fault : SourceFault)
  | load (fault : LoadFault)
  | search (fault : Fault)
  deriving DecidableEq, Repr

def Crash.message : Crash → String
  | path fault => fault.message
  | source fault => fault.message
  | load fault => fault.message
  | search fault => fault.message

inductive Ending where
  /-- The command was run: its exit code, the lines it printed, and its warnings. -/
  | finished (code : Nat) (lines : List String) (warnings : List String)
  /-- Nothing was run. -/
  | refused (why : Refusal)
  /-- A fault ended the program. -/
  | crashed (why : Crash)
  deriving Repr

structure Run where
  files : FileTree
  ending : Ending
  notices : List Notice := []

/-- A load that fails in this way is reported, and the program ends by itself. -/
def isReported : LoadFault → Bool
  | .unusable _ => false
  | .repeatedColumn => false
  | .tablesGone _ => false
  | .unlogged _ => false
  | _ => true

def loadedLine (s : Statistics) (path : String) : String :=
  "Loaded " ++ toString s.entries ++ " entries (" ++ toString s.tags ++ " tag links, " ++
    toString s.locales ++ " locale links) into " ++ path

def loadFailed (t : FileTree) (notices : List Notice) (reason : String) : Run :=
  ⟨t, .finished 1 [] [], notices ++ [.loadFailed reason]⟩

def loadText (t : FileTree) (settings : Settings) (path : String) (text : Option String) : Run :=
  let opening := t.opening (Location.ofText settings.path)
  let loaded := opening.load path text
  let after := t.keep opening loaded.file.contents
  match loaded.result with
  | .ok statistics =>
    ⟨after, .finished 0 [loadedLine statistics settings.path] [], loaded.notices⟩
  | .error fault =>
    if isReported fault then loadFailed after loaded.notices fault.message
    else ⟨after, .crashed (.load fault), loaded.notices⟩

def runLoad (t : FileTree) (settings : Settings) (path : String) : Run :=
  let source := Location.ofText path
  match t.makeDirectories (Location.ofText settings.path).parent with
  | (t, some fault) => ⟨t, .crashed (.path fault), []⟩
  | (t, none) =>
    match t.sourceText source with
    | .ok text => loadText t settings source.text text
    | .error fault =>
      if fault.isReported then loadFailed t [] fault.message
      else ⟨t, .crashed (.source fault), []⟩

def outcomeLines (o : Outcome) : List String :=
  ("Filters: " ++
      Text.join ", " (sortBy (fun a b => decide (a ≤ b)) (o.filters.map (·.written)))) ::
    (o.sortedEntries.map fun e => "  " ++ e.term ++ ": " ++ e.definition) ++
    [toString o.entries.length ++ " result(s)"]

def warningLine (f : Failure) : String :=
  "  warning: " ++ f.stage ++ " failed: " ++ f.message

/-- How a search ends. A query without filters and a partial outcome have codes of their own. -/
def searchEnding (o : Outcome) : Ending :=
  if o.filters.isEmpty then .finished 1 ["No filters found in query."] []
  else if o.isPartial then .finished 2 (outcomeLines o) (o.failures.map warningLine)
  else .finished 0 (outcomeLines o) []

def searchFile (t : FileTree) (l : Location) (settings : Settings) (query : String) : Run :=
  let report := (t.found l).toStore.search settings.matching (some query)
  match report.result with
  | .error fault => ⟨t, .crashed (.search fault), report.notices⟩
  | .ok outcome => ⟨t, searchEnding outcome, report.notices⟩

/-- Runs the command to search. A path that cannot be looked up is a fault once there is a filter to
look up. -/
def runSearch (t : FileTree) (settings : Settings) (query : String) : Run :=
  let l := Location.ofText settings.path
  match t.look l, Query.parse query with
  | .error fault, _ :: _ => ⟨t, .crashed (.path fault), []⟩
  | _, _ => searchFile t l settings query

/-- The settings for an invocation: what the arguments say counts for more than the variables. -/
def Invocation.settings (i : Invocation) (s : Settings) : Settings :=
  let s := match i.database with
    | some path => if path = "" then s else { s with path }
    | none => s
  match i.command with
  | .load _ => s
  | .search _ substring maxDistance =>
    { s with
      termMatch := if substring then .substring else s.termMatch
      maxDistance := maxDistance.getD s.maxDistance }

def pathsOf (environment : Environment) (arguments : List String) : List String :=
  match readInvocation arguments with
  | .error _ => []
  | .ok invocation =>
    let settings := invocation.settings (Settings.ofEnvironment environment).1
    match invocation.command with
    | .load path => [settings.path, path]
    | .search _ _ _ => [settings.path]

def run (t : FileTree) (environment : Environment) (arguments : List String) : Run :=
  match readInvocation arguments with
  | .error refusal => ⟨t, .refused refusal, []⟩
  | .ok invocation =>
    let (defaults, notices) := Settings.ofEnvironment environment
    let settings := invocation.settings defaults
    let ran := match invocation.command with
      | .load path => runLoad t settings path
      | .search query _ _ => runSearch t settings query
    { ran with notices := notices ++ ran.notices }

end Glossary.CommandLine
