/-
The errors that callers of the library can meet or make.

There is a general error, an error about a configuration file, its special case
for the switch table, and one for a machine that cannot tell its own name.  Each
can be saved as its class with the values it was made from, and made again from
those.
-/

import ResolverChoice.Switch.Table

namespace ResolverChoice

inductive LibraryError where
  | general (message : Text)
  | configuration (path : Option String) (message : Text)
  | table (path : Option String) (message : Text)
  | hostName (message : Text) (cause : Option RecordedError)
  deriving DecidableEq

namespace LibraryError

def className : LibraryError → String
  | .general _ => "HostLookupError"
  | .configuration _ _ => "ConfigParseError"
  | .table _ _ => "NSSConfigParseError"
  | .hostName _ _ => "HostnameLookupError"

/-- The classes the error belongs to, from the general to the particular.  Errors
about a file are also errors of value. -/
def classes : LibraryError → List String
  | .general _ => ["HostLookupError"]
  | .configuration _ _ => ["HostLookupError", "ConfigParseError", "ValueError"]
  | .table _ _ => ["HostLookupError", "ConfigParseError", "NSSConfigParseError", "ValueError"]
  | .hostName _ _ => ["HostLookupError", "HostnameLookupError"]

/-- Message and cause as a pair in parentheses. -/
def quotedPair (message : Text) (cause : Option RecordedError) : String :=
  let cause :=
    match cause with
    | none => "None"
    | some error => error.quoted
  "(" ++ Text.quoted message ++ ", " ++ cause ++ ")"

def text : LibraryError → Text
  | .general message => message
  | .configuration path message => locatedMessage path message
  | .table path message => locatedMessage path message
  | .hostName message cause => Text.ofString (quotedPair message cause)

def quoted : LibraryError → String
  | .hostName message cause => "HostnameLookupError" ++ quotedPair message cause
  | error => error.className ++ "(" ++ Text.quoted error.text ++ ")"

/-! ### Saving -/

inductive SavedValue where
  | message (content : Text)
  | path (content : Option String)
  | cause (content : Option RecordedError)
  deriving DecidableEq

structure SavedError where
  className : String
  values : List SavedValue
  deriving DecidableEq

def save (error : LibraryError) : SavedError :=
  { className := error.className
    values :=
      match error with
      | .general message => [.message message]
      | .configuration path message => [.path path, .message message]
      | .table path message => [.path path, .message message]
      | .hostName message cause => [.message message, .cause cause] }

def restore? (saved : SavedError) : Option LibraryError :=
  match saved.values with
  | [.message message] =>
      if saved.className = "HostLookupError" then some (.general message) else none
  | [.path path, .message message] =>
      if saved.className = "ConfigParseError" then some (.configuration path message)
      else if saved.className = "NSSConfigParseError" then some (.table path message)
      else none
  | [.message message, .cause cause] =>
      if saved.className = "HostnameLookupError" then some (.hostName message cause)
      else none
  | _ => none

theorem restore?_save (error : LibraryError) : restore? (save error) = some error := by
  cases error <;> simp [save, restore?, className]

end LibraryError

/-! ### The machine's own name -/

/-- Why a machine has no name.  An error of the library's own that turns up while
the system is asked is passed on as it is. -/
inductive HostNameError where
  | unavailable (error : SystemError)
  | empty
  | malformed (error : Malformed)
  deriving DecidableEq

def HostNameError.ofRecorded : RecordedError → HostNameError
  | .system error => .unavailable error
  | .malformed error => .malformed error

def HostNameError.toLibraryError : HostNameError → LibraryError
  | .unavailable error =>
      .hostName (Text.ofString "Failed to get the machine's hostname") (some (.system error))
  | .empty => .hostName (Text.ofString "The machine's hostname is empty") none
  | .malformed error => .table error.path error.flaw.message

end ResolverChoice
