/-
Writing the service switch table.

One line per entry: the database, a colon, and for each source its name and its
criteria in brackets.  The brackets are written even where there are no criteria,
so that no name can be taken for a block of them.
-/

import ResolverChoice.Switch.Table

namespace ResolverChoice

/-- A line to be written.  The kinds of its sources follow from their names. -/
structure TableLine where
  database : Text
  sources : List (Text × List Criterion)

def Criterion.written (criterion : Criterion) : Text :=
  (if criterion.negated then [.char '!'] else []) ++
    criterion.status ++ .char '=' :: criterion.action

def writtenBlock (criteria : List Criterion) : Text :=
  .char '[' :: [.char ' '].intercalate (criteria.map Criterion.written) ++ [.char ']']

def writtenSource (source : Text × List Criterion) : Text :=
  .char ' ' :: source.1 ++ .char ' ' :: writtenBlock source.2

namespace TableLine

def written (line : TableLine) : Text :=
  line.database ++ .char ':' :: line.sources.flatMap writtenSource

def entries (line : TableLine) : List TableEntry :=
  line.sources.map (fun source =>
    { database := line.database, source := Source.ofName source.1 source.2 })

end TableLine

/-- The text of a table, each line ended by a line feed. -/
def writtenTable (lines : List TableLine) : Text :=
  lines.flatMap (fun line => line.written ++ [.char '\n'])

end ResolverChoice
