/-
Lines of the resolver configuration file.

A line is a keyword and its arguments.  A line whose first symbol is a number sign
or a semicolon is a comment; blanks before that symbol make it a keyword.
-/

import ResolverChoice.Text.Blank

namespace ResolverChoice

inductive Directive where
  | nameserver (arguments : List Text)
  | options (words : List Text)
  | lookup (order : List Text)
  | searchList
  | unknown
  deriving DecidableEq

namespace Directive

def ofWords (keyword : Text) (arguments : List Text) : Directive :=
  if keyword = Text.ofString "nameserver" then .nameserver arguments
  else if keyword = Text.ofString "options" then .options arguments
  else if keyword = Text.ofString "lookup" then .lookup arguments
  else if keyword = Text.ofString "domain" ∨ keyword = Text.ofString "search" then .searchList
  else .unknown

def isComment (line : Text) : Bool :=
  line.head? == some (.char '#') || line.head? == some (.char ';')

/-- Comments and blank lines direct nothing. -/
def ofLine? (line : Text) : Option Directive :=
  if isComment line then none
  else
    match Text.words line with
    | [] => none
    | keyword :: arguments => some (ofWords keyword arguments)

end Directive

/-! ### Options -/

inductive ResolverOption where
  | ndots (value : Text)
  | timeout (value : Text)
  | attempts (value : Text)
  | ignored
  | unknown
  deriving DecidableEq

namespace ResolverOption

/-- Options that some resolver understands and that do not bear on routing. -/
def ignoredWords : List Text :=
  ["rotate", "single-request", "single-request-reopen", "use-vc", "usevc", "tcp",
    "trust-ad", "edns0", "no-reload"].map Text.ofString

/-- What follows the label, if the word begins with it. -/
def valueAfter? (label : String) (word : Text) : Option Text :=
  let label := Text.ofString label
  if label.isPrefixOf word then some (word.drop label.length) else none

def ofWord (word : Text) : ResolverOption :=
  match valueAfter? "ndots:" word with
  | some value => .ndots value
  | none =>
    match valueAfter? "timeout:" word with
    | some value => .timeout value
    | none =>
      match valueAfter? "attempts:" word with
      | some value => .attempts value
      | none => if word ∈ ignoredWords then .ignored else .unknown

end ResolverOption

end ResolverChoice
