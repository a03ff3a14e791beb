/-
A log on standard error.

The library's notices go nowhere until a handler is added.  Adding one sets the
level below which notices are dropped; level zero leaves that to the program's own
log, which drops them too.  Handlers stay, and each writes every line that is let
through.
-/

import ResolverChoice.Machine.Notice

namespace ResolverChoice

structure ErrorLog where
  level : Int := 0
  handlers : Nat := 0
  /-- What the handlers have written, without the time. -/
  messages : List String := []

namespace ErrorLog

/-- The level of notices, and of a handler added without a level. -/
def debugLevel : Int := 10

def letsThrough (log : ErrorLog) : Bool :=
  log.level != 0 && decide (log.level ≤ debugLevel)

def write (log : ErrorLog) (message : String) : ErrorLog :=
  if log.letsThrough then
    { log with messages := log.messages ++ List.replicate log.handlers message }
  else log

/-- Adds a handler, which announces itself through all that are there. -/
def addHandler (log : ErrorLog) (level : Option Int) : ErrorLog :=
  let extended := { log with level := level.getD debugLevel, handlers := log.handlers + 1 }
  extended.write "Added a stderr logging handler to logger: hostlookup"

/-- The lines on standard error, where each message follows the time it was written
at.  A line feed in a message begins a line without a time. -/
def lines (log : ErrorLog) (time : String) : List String :=
  log.messages.flatMap (fun message => (time ++ " DEBUG " ++ message).splitOn "\n")

end ErrorLog

end ResolverChoice
