/-
Errors of the operating system, as far as anything here can meet them.

An error either has a number of the system, which also gives its text and its
class, or was made of a text alone.  Only two distinctions matter to routing:
whether a file does not exist, and whether permission to read it was missing.
-/

import ResolverChoice.Text.Quoted

namespace ResolverChoice

inductive Errno where
  | noEntry
  | accessDenied
  | notPermitted
  | inputOutput
  | isDirectory
  | notDirectory
  | linkLoop
  | tooManyOpen
  | nameTooLong
  | interrupted
  | timedOut
  deriving DecidableEq

def Errno.all : List Errno :=
  [.noEntry, .accessDenied, .notPermitted, .inputOutput, .isDirectory, .notDirectory,
    .linkLoop, .tooManyOpen, .nameTooLong, .interrupted, .timedOut]

def Errno.symbol : Errno → String
  | .noEntry => "ENOENT"
  | .accessDenied => "EACCES"
  | .notPermitted => "EPERM"
  | .inputOutput => "EIO"
  | .isDirectory => "EISDIR"
  | .notDirectory => "ENOTDIR"
  | .linkLoop => "ELOOP"
  | .tooManyOpen => "EMFILE"
  | .nameTooLong => "ENAMETOOLONG"
  | .interrupted => "EINTR"
  | .timedOut => "ETIMEDOUT"

def Errno.ofSymbol? (symbol : String) : Option Errno :=
  Errno.all.find? (fun errno => errno.symbol == symbol)

def Errno.number : Errno → Nat
  | .noEntry => 2
  | .accessDenied => 13
  | .notPermitted => 1
  | .inputOutput => 5
  | .isDirectory => 21
  | .notDirectory => 20
  | .linkLoop => 40
  | .tooManyOpen => 24
  | .nameTooLong => 36
  | .interrupted => 4
  | .timedOut => 110

def Errno.description : Errno → String
  | .noEntry => "No such file or directory"
  | .accessDenied => "Permission denied"
  | .notPermitted => "Operation not permitted"
  | .inputOutput => "Input/output error"
  | .isDirectory => "Is a directory"
  | .notDirectory => "Not a directory"
  | .linkLoop => "Too many levels of symbolic links"
  | .tooManyOpen => "Too many open files"
  | .nameTooLong => "File name too long"
  | .interrupted => "Interrupted system call"
  | .timedOut => "Connection timed out"

def Errno.className : Errno → String
  | .noEntry => "FileNotFoundError"
  | .accessDenied => "PermissionError"
  | .notPermitted => "PermissionError"
  | .isDirectory => "IsADirectoryError"
  | .notDirectory => "NotADirectoryError"
  | .interrupted => "InterruptedError"
  | .timedOut => "TimeoutError"
  | .inputOutput | .linkLoop | .tooManyOpen | .nameTooLong => "OSError"

inductive SystemError where
  | numbered (errno : Errno)
  | described (description : Text)
  deriving DecidableEq

namespace SystemError

def errno? : SystemError → Option Errno
  | .numbered errno => some errno
  | .described _ => none

def className : SystemError → String
  | .numbered errno => errno.className
  | .described _ => "OSError"

def isMissing (error : SystemError) : Bool :=
  error.errno? == some .noEntry

def isForbidden (error : SystemError) : Bool :=
  error.errno? == some .accessDenied || error.errno? == some .notPermitted

def quoted : SystemError → String
  | .numbered errno =>
      errno.className ++ "(" ++ toString errno.number ++ ", " ++
        Text.quoted (Text.ofString errno.description) ++ ")"
  | .described description => "OSError(" ++ Text.quoted description ++ ")"

end SystemError

end ResolverChoice
