/-
Routes: which resolvers to ask about a host, and in what order.
-/

import ResolverChoice.Fault
import ResolverChoice.Switch.Criterion

namespace ResolverChoice

inductive Route where
  /-- The C library does the whole lookup. -/
  | native
  | dns
  | filesThenDns
  | dnsThenFiles
  | files
  deriving DecidableEq

namespace Route

def all : List Route :=
  [.native, .dns, .filesThenDns, .dnsThenFiles, .files]

def word : Route → String
  | .native => "native"
  | .dns => "dns"
  | .filesThenDns => "files,dns"
  | .dnsThenFiles => "dns,files"
  | .files => "files"

def constantName : Route → String
  | .native => "NATIVE_ONLY"
  | .dns => "BUILTIN_DNS"
  | .filesThenDns => "FILES_THEN_DNS"
  | .dnsThenFiles => "DNS_THEN_FILES"
  | .files => "FILES_ONLY"

/-- The kinds of source that the route asks, in its order, where it does not leave
the lookup to the C library. -/
def kinds? : Route → Option (List SourceKind)
  | .native => none
  | .dns => some [.dns]
  | .filesThenDns => some [.files, .dns]
  | .dnsThenFiles => some [.dns, .files]
  | .files => some [.files]

def ofKinds? (kinds : List SourceKind) : Option Route :=
  all.find? (fun route => route.kinds? == some kinds)

theorem kinds?_of_ofKinds? {kinds : List SourceKind} {route : Route}
    (found : ofKinds? kinds = some route) : route.kinds? = some kinds := by
  have same := List.find?_some found
  exact eq_of_beq same

def ofWord (word : Text) : Except Fault Route :=
  match all.find? (fun route => Text.ofString route.word == word) with
  | some route => .ok route
  | none => .error (.unknownRoute word)

end Route

end ResolverChoice
