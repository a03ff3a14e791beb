/-
The service switch table.

For each database the table lists, in file order, the sources that answer for it.
Entries are kept one by one as they stand in the file; the sources of a database
are those of its entries.  A table may carry an error, and then the entries are
those from before the error.
-/

import ResolverChoice.Number.Seconds
import ResolverChoice.Switch.Criterion
import ResolverChoice.SystemError

namespace ResolverChoice

structure Source where
  name : Text
  kind : SourceKind
  criteria : List Criterion := []
  deriving DecidableEq

namespace Source

def ofName (name : Text) (criteria : List Criterion) : Source :=
  { name := name, kind := SourceKind.ofName name, criteria := criteria }

def isNeutralBlock (kind : SourceKind) : List Criterion → Bool
  | [] => true
  | [final] => final.isNeutral kind true
  | criterion :: rest => criterion.isNeutral kind false && isNeutralBlock kind rest

/-- Whether all criteria of the source pass for neutral. -/
def hasNeutralCriteria (source : Source) : Bool :=
  isNeutralBlock source.kind source.criteria

end Source

/-! ### Errors in the file -/

inductive TableFlaw where
  | noColon
  | unclosedBracket
  | invalidCriteria (block : Text)
  | reported (message : Text)
  deriving DecidableEq

def TableFlaw.message : TableFlaw → Text
  | .noColon => Text.ofString "no colon on line"
  | .unclosedBracket => Text.ofString "unclosed criterion bracket"
  | .invalidCriteria block => Text.ofString "invalid criteria: " ++ block
  | .reported message => message

/-- A flaw and the file that has it, if a file was named. -/
structure Malformed where
  path : Option String
  flaw : TableFlaw
  deriving DecidableEq

/-- A message after the path it is about; an empty path is left out. -/
def locatedMessage (path : Option String) (message : Text) : Text :=
  match path with
  | none => message
  | some path =>
      if path = "" then message else Text.ofString path ++ Text.ofString ": " ++ message

def Malformed.message (malformed : Malformed) : Text :=
  locatedMessage malformed.path malformed.flaw.message

/-- An error that was met and kept: one of the system, or a flaw in a file. -/
inductive RecordedError where
  | system (error : SystemError)
  | malformed (error : Malformed)
  deriving DecidableEq

def RecordedError.isMissing : RecordedError → Bool
  | .system error => error.isMissing
  | .malformed _ => false

def RecordedError.quoted : RecordedError → String
  | .system error => error.quoted
  | .malformed error => "NSSConfigParseError(" ++ Text.quoted error.message ++ ")"

/-! ### The table -/

structure TableEntry where
  database : Text
  source : Source
  deriving DecidableEq

structure SwitchTable where
  entries : List TableEntry := []
  error : Option RecordedError := none
  /-- When the file was last changed, for a table read from a file. -/
  modified : Option Seconds := none
  deriving DecidableEq

namespace SwitchTable

/-- The sources of a database in file order. -/
def sources (table : SwitchTable) (database : Text) : List Source :=
  (table.entries.filter (fun entry => entry.database == database)).map (·.source)

/-- The databases that have a source, each once. -/
def databases (table : SwitchTable) : List Text :=
  (table.entries.map (·.database)).eraseDups

/-- The table in which each database has the sources given for it.  Of several
lists for one database the last one counts. -/
def ofLists (lists : List (Text × List Source)) : SwitchTable :=
  let final := lists.foldl (fun kept (database, sources) =>
    kept.filter (fun other => other.1 != database) ++ [(database, sources)]) []
  { entries := final.flatMap (fun (database, sources) =>
      sources.map (fun source => { database := database, source := source })) }

end SwitchTable

end ResolverChoice
