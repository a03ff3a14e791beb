/-
The route for a host on a machine with a given profile.

Most of the decision needs no switch table: `routeBeforeTable?` makes it wherever
the profile or the form of the name settle it.  What is left is decided by the
table in `routeByTable`.  Neither can fail.  Where they are in doubt they give the
fallback, which is the native resolver unless the built-in one was asked for.
-/

import ResolverChoice.Profile.Basic
import ResolverChoice.LookupOptions
import ResolverChoice.Route.Sources

namespace ResolverChoice

/-- The route where nothing else can be relied on.  On Windows there are no files
to look names up in. -/
def fallbackRoute (profile : Profile) (options : Option LookupOptions) : Route :=
  if profile.wantsBuiltin || asksForBuiltin options then
    if profile.family = .windows then .dns else .filesThenDns
  else .native

/-! ### Decisions without the switch table -/

/-- The orders that the `lookup` line of OpenBSD can ask for. -/
def lookupLines : List (List String × Route) :=
  [(["bind"], .dns), (["bind", "file"], .dnsThenFiles), (["file"], .files),
    (["file", "bind"], .filesThenDns)]

/-- OpenBSD has its order in the resolver settings.  Without the file only files
are asked, without a `lookup` line name servers and then files. -/
def routeOfSettings (settings : ResolverSettings) (fallback : Route) : Route :=
  if settings.isMissing then .files
  else if settings.lookup.isEmpty then .dnsThenFiles
  else
    match lookupLines.find? (fun line => line.1.map Text.ofString == settings.lookup) with
    | some line => line.2
    | none => fallback

/-- The route, where the table has no say in it. -/
def routeBeforeTable? (profile : Profile) (fallback : Route) (host : Text) :
    Option Route :=
  if !profile.family.usesCLibrary then some fallback
  else if profile.forcesNative || profile.settings.unknownOption ||
      profile.family == .android then some fallback
  else if HostName.hasEscape host then some fallback
  else if profile.family == .openbsd then some (routeOfSettings profile.settings fallback)
  else if HostName.isMulticast (HostName.withoutFinalDot host) then some fallback
  else none

/-! ### Decisions by the switch table -/

def hostsDatabase : Text := Text.ofString "hosts"

/-- Without a table, or without sources for hosts in it, the C library asks files
and then name servers, except on Solaris. -/
def routeWithoutSources (profile : Profile) (fallback : Route) : Route :=
  if profile.family = .solaris then fallback else .filesThenDns

def routeByTable (profile : Profile) (fallback : Route) (host : Text)
    (ownName : Except HostNameError Text) (table : SwitchTable) : Route :=
  match table.error with
  | some error => if error.isMissing then routeWithoutSources profile fallback else fallback
  | none =>
      match table.sources hostsDatabase with
      | [] => routeWithoutSources profile fallback
      | sources =>
          (routeOfSources? profile.allowsMulticast (HostName.withoutFinalDot host) ownName
            sources).getD fallback

end ResolverChoice
