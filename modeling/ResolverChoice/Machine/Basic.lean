/-
The machine as the library sees it.

Files, environment, platform, host name and clock are all that is ever asked of
it.  What is asked leaves a trace: which files were opened or examined, what the
clock read and what was logged, in that order.  Only the test whether a file is
there leaves none.
-/

import ResolverChoice.Family
import ResolverChoice.LibraryError
import ResolverChoice.Machine.Notice
import ResolverChoice.Text.Encoded

namespace ResolverChoice

/-- What is at a path.  Each of the three accesses can fail on its own. -/
structure FileNode where
  bytes : List UInt8 := []
  modified : Seconds := 0
  openError : Option Errno := none
  readError : Option Errno := none
  statError : Option Errno := none

/-- A file of these lines in UTF-8, with no line feed behind the last one. -/
def FileNode.ofLines (lines : List String) : FileNode :=
  { bytes := ("\n".intercalate lines).toList.flatMap String.utf8EncodeChar }

/-- The readings that the clock will give, in seconds.  The last one repeats. -/
structure Clock where
  reading : Seconds
  later : List Seconds := []

def Clock.advance (clock : Clock) : Clock :=
  match clock.later with
  | [] => clock
  | reading :: later => { reading := reading, later := later }

inductive Event where
  | opened (path : String)
  /-- The modification time of the file was asked for. -/
  | examined (path : String)
  | clockRead (reading : Seconds)
  | logged (notice : Notice)
  deriving DecidableEq

namespace Event

def opened? : Event → Option String
  | .opened path => some path
  | _ => none

def reading? : Event → Option Seconds
  | .clockRead reading => some reading
  | _ => none

def notice? : Event → Option Notice
  | .logged notice => some notice
  | _ => none

end Event

structure Machine where
  files : String → Option FileNode := fun _ => none
  environment : String → Option Text := fun _ => none
  /-- What the system says the machine is called. -/
  hostName : Except RecordedError Text := .ok (Text.ofString "myhostname")
  platform : Text := Text.ofString "linux"
  /-- Whether the system gives an Android level; such a system may still call
  itself Linux. -/
  hasAndroidLevel : Bool := false
  clock : Clock := { reading := 1000 }
  trace : List Event := []

abbrev OnMachine := StateM Machine

namespace Machine

/-! ### What leaves no trace -/

def modified? (machine : Machine) (path : String) : Option Seconds :=
  match machine.files path with
  | none => none
  | some node => if node.statError.isNone then some node.modified else none

def hasFile (machine : Machine) (path : String) : Bool :=
  (machine.modified? path).isSome

def family (machine : Machine) : Family :=
  if machine.platform = Text.ofString "linux" ∧ machine.hasAndroidLevel = true then .android
  else Family.ofPlatform machine.platform

/-- A machine whose name is empty has no name. -/
def ownHostName (machine : Machine) : Except HostNameError Text :=
  match machine.hostName with
  | .error error => .error (.ofRecorded error)
  | .ok [] => .error .empty
  | .ok name => .ok name

/-! ### What leaves a trace -/

def record (event : Event) : OnMachine Unit :=
  modify (fun machine => { machine with trace := machine.trace ++ [event] })

def log (notice : Notice) : OnMachine Unit :=
  record (.logged notice)

def readClock : OnMachine Seconds := do
  let machine ← get
  set { machine with clock := machine.clock.advance }
  record (.clockRead machine.clock.reading)
  return machine.clock.reading

def readModified (path : String) : OnMachine (Option Seconds) := do
  record (.examined path)
  return (← get).modified? path

def readFile (path : String) : OnMachine (Except SystemError FileNode) := do
  record (.opened path)
  match (← get).files path with
  | none => return .error (.numbered .noEntry)
  | some node =>
      match node.openError, node.readError with
      | some errno, _ => return .error (.numbered errno)
      | none, some errno => return .error (.numbered errno)
      | none, none => return .ok node

/-! ### Parts of the trace -/

def openedPaths (machine : Machine) : List String :=
  machine.trace.filterMap Event.opened?

def notices (machine : Machine) : List Notice :=
  machine.trace.filterMap Event.notice?

def clockReadings (machine : Machine) : Nat :=
  (machine.trace.filterMap Event.reading?).length

/-! ### Changes from outside -/

def writeFile (machine : Machine) (path : String) (node : FileNode) : Machine :=
  { machine with files := fun other => if other = path then some node else machine.files other }

def removeFile (machine : Machine) (path : String) : Machine :=
  { machine with files := fun other => if other = path then none else machine.files other }

def setVariable (machine : Machine) (name : String) (value : Option Text) : Machine :=
  { machine with
    environment := fun other => if other = name then value else machine.environment other }

end Machine

end ResolverChoice
