import SshConfig.Fault.ConfigError
/-!
# Fault — everything that can go wrong

A fault ends a step.  The faults of configurations and of the system are what a look-up turns into a failed result; all
others pass through it to the caller.
-/
namespace SshConfig

/-- A condition that a caller has to keep and did not. -/
inductive Violation where
  /-- A failure needs a message that is not blank. -/
  | blankMessage (given : Json)
  /-- Lines are numbered from 1 on. -/
  | badLineno (given : Json)
  /-- The path of a key is not blank. -/
  | badKeyPath (given : Json)
  /-- A reporter's own member takes the name of a fixed one. -/
  | collision (names : List Text)
  /-- A set of patterns has a pattern. -/
  | noPatterns
  /-- A duration counts whole seconds. -/
  | badSeconds (given : Json)
  /-- Events are of a known type. -/
  | eventType
  /-- Events happen at a positive time. -/
  | eventTime (given : Json)
  /-- Only an open writer writes. -/
  | closedWriter
  /-- A writer has one target. -/
  | writerTarget
  deriving Repr

/-- The wording of a violation; a wrong type of event has none that is fixed. -/
def Violation.message? : Violation → Option Text
  | blankMessage given => some ("SSHConfigError message must be a non-empty string, got " ++ given.quoted)
  | badLineno given => some ("lineno must be a positive integer, got " ++ given.quoted)
  | badKeyPath given => some ("key_path must be None or a non-empty string, got " ++ given.quoted)
  | collision names =>
    some ("Extra keys collision with dataclass field names: \x7b" ++ Text.join ", " (names.map Text.quoted) ++ ['\x7d'])
  | noPatterns => some "PatternSet requires at least one pattern"
  | badSeconds given => some ("Duration seconds must be an int, got " ++ given.quoted)
  | eventType => none
  | eventTime given => some ("Timestamp must be positive, got " ++ given.quoted)
  | closedWriter => some "Writer not opened. Call open() first."
  | writerTarget => some "Give exactly one of path or stream"

/-- A fault. -/
inductive Fault where
  /-- A failure that belongs to a configuration. -/
  | config (e : ConfigError)
  /-- A fault that the system reports. -/
  | os (f : OsFault)
  /-- A value that is refused. -/
  | value (f : ValueFault)
  /-- A line without a delimiter. -/
  | noDelimiter
  /-- A path with a null character. -/
  | nullInPath
  /-- An integer with too many digits to be written. -/
  | unwritable
  /-- An integer with too many digits to be read. -/
  | unreadable (digits : Nat)
  /-- A name of no type of event. -/
  | unknownEventType (given : Json)
  /-- A value fault that a caller gives. -/
  | statedValue (message : Text)
  /-- A name that stands for nothing. -/
  | unknownName (name : Text)
  /-- The home directory of a user is not known. -/
  | noHome
  /-- An action that fails on demand. -/
  | failure (message : Text)
  /-- A condition is not kept. -/
  | violation (v : Violation)
  /-- A value of the wrong shape for its use. -/
  | wrongType
  /-- A part that is not there. -/
  | missingPart
  /-- A text that is no value. -/
  | notJson
  /-- A value that is nested too deep. -/
  | tooDeep
  deriving Repr

namespace Fault

/-- The wording for an integer with too many digits to be written. -/
def unwritableMessage : Text :=
  "Exceeds the limit (" ++ Text.ofNat digitLimit ++ " digits) for integer string conversion"

/-- The wording of a fault, where it is fixed. -/
def message? : Fault → Option Text
  | config e => some e.message
  | os f => some f.message
  | value f => some f.message
  | noDelimiter => some "delimiter not found"
  | nullInPath => some "embedded null byte"
  | unwritable => some unwritableMessage
  | unreadable digits => some (ValueFault.tooLongMessage digits)
  | unknownEventType given => some (given.quoted ++ " is not a valid EventType")
  | statedValue message => some message
  | unknownName name => some (Text.quoted name)
  | noHome => some "Could not determine home directory."
  | failure message => some message
  | violation v => v.message?
  | wrongType => none
  | missingPart => none
  | notJson => none
  | tooDeep => none

/-- The wording of a fault, empty where it is not fixed. -/
def message (f : Fault) : Text :=
  f.message?.getD []

/-- A look-up turns the fault into a failed result. -/
def failsLookup : Fault → Bool
  | config _ => true
  | os _ => true
  | _ => false

/-- The fault that a complaint at a place is.  A unit letter that stands for no unit is no complaint about the line: it
passes. -/
def ofComplaint (c : Complaint) (p : Place) : Fault :=
  match c with
  | .badValue _ (.unknownUnit letter) => value (.unknownUnit letter)
  | _ => config (.refused (c.told p) {})

/-- The fault that a refusal is. -/
def ofRefusal (r : Refusal) : Fault :=
  ofComplaint r.cause r.place

/-- The fault that a cause of a failed merge is; a unit letter that stands for no unit passes. -/
def ofMergeCause (c : MergeCause) : Fault :=
  match c with
  | .badMember _ (.unknownUnit letter) => value (.unknownUnit letter)
  | _ => config (.merge c {})

/-- The fault that an option not set by name is. -/
def ofAssign : AssignFault → Fault
  | .unknownOption key => unknownName key
  | .refused fault => value fault

end Fault
end SshConfig
