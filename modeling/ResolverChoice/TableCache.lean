/-
A cache for the switch table of one file.

A table is served without a look at the file until its time to live has passed
since it was last checked.  After that the file's modification time is compared
with the one the table was read at, and the file is read again only if the two
differ or either is not known.

The cache says how differences and sums of times are rounded, so that the same
definitions serve for exact clocks and for clocks that count in binary64.
-/

import ResolverChoice.Machine.Reading

namespace ResolverChoice

structure TableCache where
  path : String := SwitchTable.standardPath
  /-- Seconds for which a checked table is served. -/
  timeToLive : Seconds := 5
  precision : Precision := .binary64
  table : Option SwitchTable := none
  checkedAt : Option Seconds := none

namespace TableCache

def isFresh (cache : TableCache) (now : Seconds) : Bool :=
  match cache.checkedAt with
  | none => false
  | some stamp => (now.minus cache.precision stamp).isLess cache.timeToLive

/-- Whether the table was read from the file as it is now, as far as modification
times can tell.  For a table without one the file is not examined. -/
def isUnchanged (table : SwitchTable) (path : String) : OnMachine Bool := do
  match table.modified with
  | none => return false
  | some read => return (← Machine.readModified path).any (fun current => current.agrees read)

def reload (cache : TableCache) : OnMachine (SwitchTable × TableCache) := do
  Machine.log (.reloading cache.path)
  let table ← readTable cache.path
  return (table, { cache with table := some table })

/-- What happens once the cache is locked for reloading.  The table may have been
refreshed while the caller waited for the lock, so it is tested again. -/
def getLocked (cache : TableCache) : OnMachine (SwitchTable × TableCache) := do
  let now ← Machine.readClock
  let checked := { cache with checkedAt := some now }
  match cache.table with
  | none => checked.reload
  | some table =>
      if cache.isFresh now then return (table, cache)
      else if ← isUnchanged table cache.path then return (table, checked)
      else checked.reload

def lookup (cache : TableCache) : OnMachine (SwitchTable × TableCache) := do
  match cache.table with
  | none => cache.getLocked
  | some table =>
      let now ← Machine.readClock
      if cache.isFresh now then return (table, cache)
      else cache.getLocked

/-- Puts a table in.  With a positive offset it stays fresh for so much longer
than the time to live, with a negative one for so much shorter. -/
def replace (cache : TableCache) (table : SwitchTable) (offset : Seconds) :
    OnMachine TableCache := do
  let now ← Machine.readClock
  return { cache with
    table := some table
    checkedAt := some (now.plus cache.precision offset) }

end TableCache

end ResolverChoice
