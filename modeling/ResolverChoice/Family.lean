/-
Families of operating systems that differ in how hosts are looked up.

The platform's own name for itself decides the family, by the beginning of the
name in any case.  A platform that no family claims is treated as Linux.
-/

import ResolverChoice.Fault
import ResolverChoice.Text.Lowercase

namespace ResolverChoice

inductive Family where
  | linux
  | android
  | darwin
  | ios
  | windows
  | plan9
  | openbsd
  | freebsd
  | netbsd
  | dragonfly
  | solaris
  | aix
  deriving DecidableEq

namespace Family

def all : List Family :=
  [.linux, .android, .darwin, .ios, .windows, .plan9, .openbsd, .freebsd, .netbsd,
    .dragonfly, .solaris, .aix]

def word : Family → String
  | .linux => "linux"
  | .android => "android"
  | .darwin => "darwin"
  | .ios => "ios"
  | .windows => "windows"
  | .plan9 => "plan9"
  | .openbsd => "openbsd"
  | .freebsd => "freebsd"
  | .netbsd => "netbsd"
  | .dragonfly => "dragonfly"
  | .solaris => "solaris"
  | .aix => "aix"

def ofWord (word : Text) : Except Fault Family :=
  match all.find? (fun family => Text.ofString family.word == word) with
  | some family => .ok family
  | none => .error (.unknownFamily word)

/-- Whether the native resolver is a C library that is set up by files.  On the
other families it belongs to the system, and there is no file to look at. -/
def usesCLibrary (family : Family) : Bool :=
  family != .windows && family != .plan9

def isApple (family : Family) : Bool :=
  family == .darwin || family == .ios

/-- The first beginning that fits gives the family. -/
def platformNames : List (String × Family) :=
  [("linux", .linux), ("android", .android), ("darwin", .darwin), ("ios", .ios),
    ("win32", .windows), ("cygwin", .windows), ("plan9", .plan9), ("openbsd", .openbsd),
    ("freebsd", .freebsd), ("netbsd", .netbsd), ("dragonfly", .dragonfly),
    ("sunos", .solaris), ("aix", .aix)]

def ofPlatform (platform : Text) : Family :=
  let platform := Text.lowercase platform
  match platformNames.find? (fun entry => (Text.ofString entry.1).isPrefixOf platform) with
  | some entry => entry.2
  | none => .linux

end Family

end ResolverChoice
