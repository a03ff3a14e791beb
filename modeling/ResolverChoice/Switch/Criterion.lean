/-
Criteria of the service switch table.

A criterion changes what happens after a source has answered with some status.
Without criteria a success ends the lookup and every other status lets it go on.
Both words of a criterion are kept as they were read, since a word may be one
that no status or action has.
-/

import ResolverChoice.Text.Symbol

namespace ResolverChoice

inductive SourceKind where
  | files
  | dns
  | myhostname
  | mdns
  | other
  deriving DecidableEq

namespace SourceKind

def all : List SourceKind :=
  [.files, .dns, .myhostname, .mdns, .other]

def word : SourceKind → String
  | .files => "files"
  | .dns => "dns"
  | .myhostname => "myhostname"
  | .mdns => "mdns"
  | .other => "other"

/-- Any name that begins like the multicast sources counts as one of them. -/
def ofName (name : Text) : SourceKind :=
  if name = Text.ofString "files" then .files
  else if name = Text.ofString "dns" then .dns
  else if name = Text.ofString "myhostname" then .myhostname
  else if (Text.ofString "mdns").isPrefixOf name then .mdns
  else .other

end SourceKind

inductive Status where
  | success
  | notFound
  | unavailable
  | tryAgain
  deriving DecidableEq

def Status.word : Status → Text
  | .success => Text.ofString "success"
  | .notFound => Text.ofString "notfound"
  | .unavailable => Text.ofString "unavail"
  | .tryAgain => Text.ofString "tryagain"

def Status.all : List Status :=
  [.success, .notFound, .unavailable, .tryAgain]

def Status.ofWord? (word : Text) : Option Status :=
  Status.all.find? (fun status => status.word == word)

/-- Whether the lookup ends with this source or goes on to the next. -/
inductive Action where
  | stop
  | goOn
  deriving DecidableEq

def Action.word : Action → Text
  | .stop => Text.ofString "return"
  | .goOn => Text.ofString "continue"

/-- What a source does without criteria, which is the same for every kind. -/
def SourceKind.defaultAction : SourceKind → Status → Action
  | _, .success => .stop
  | _, .notFound => .goOn
  | _, .unavailable => .goOn
  | _, .tryAgain => .goOn

structure Criterion where
  negated : Bool
  status : Text
  action : Text
  deriving DecidableEq

/-- Whether the criterion passes for neutral.  In the last place of its block a `return`
passes after any status, also where the default would go on. -/
def Criterion.isNeutral (criterion : Criterion) (kind : SourceKind) (last : Bool) : Bool :=
  match Status.ofWord? criterion.status with
  | none => false
  | some status =>
      !criterion.negated &&
        ((last && criterion.action == Action.stop.word) ||
          criterion.action == (kind.defaultAction status).word)

end ResolverChoice
