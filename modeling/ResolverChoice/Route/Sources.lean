/-
The route that a list of sources asks for.

The sources are gone through in their order.  Files and name servers are noted
when they are first met, since a kind that has failed once will not find the name
later.  Anything whose effect cannot be told from outside the C library ends the
walk without a route: a source of an unknown kind, criteria that change what a
source does, a host that the machine may answer for itself, and multicast sources
where more than the reserved names are allowed.
-/

import ResolverChoice.HostName
import ResolverChoice.LibraryError
import ResolverChoice.Route.Basic

namespace ResolverChoice

/-- Whether a `myhostname` source may answer for the host.  It may when the host is
one of its fixed names or the machine's own, and has to be expected to when the
machine's name is not known. -/
def mayBeOwnName (host : Text) (ownName : Except HostNameError Text) : Bool :=
  HostName.isLoopback host || HostName.isGatewayName host || HostName.isOutboundName host ||
    match ownName with
    | .error _ => true
    | .ok name => HostName.agree host name

structure Tally where
  /-- Files and name servers in the order in which each was first met. -/
  kinds : List SourceKind := []
  multicast : Bool := false
  deriving DecidableEq

namespace Tally

def meet (tally : Tally) (kind : SourceKind) : Tally :=
  if kind ∈ tally.kinds then tally else { tally with kinds := tally.kinds ++ [kind] }

def add? (ownName : Bool) (tally : Tally) (source : Source) : Option Tally :=
  match source.kind with
  | .files => if source.hasNeutralCriteria then some (tally.meet .files) else none
  | .dns => if source.hasNeutralCriteria then some (tally.meet .dns) else none
  | .myhostname => if ownName then none else some tally
  | .mdns => some { tally with multicast := true }
  | .other => none

def ofSources? (ownName : Bool) (sources : List Source) : Option Tally :=
  sources.foldlM (add? ownName) {}

def route? (tally : Tally) (allowsMulticast : Bool) : Option Route :=
  if tally.multicast && allowsMulticast then none else Route.ofKinds? tally.kinds

end Tally

/-- The route for a host, if the sources leave no doubt about it. -/
def routeOfSources? (allowsMulticast : Bool) (host : Text)
    (ownName : Except HostNameError Text) (sources : List Source) : Option Route := do
  let tally ← Tally.ofSources? (mayBeOwnName host ownName) sources
  tally.route? allowsMulticast

end ResolverChoice
