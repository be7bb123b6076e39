import SshConfig.Fault.Basic
import SshConfig.Json.Printer
import SshConfig.Json.Reader
/-!
# Event — records of what was loaded and resolved

An event has a type, a positive time and data.  It is written as one line, and a line is read back as the event.  The strings
of its data are rows of code points, since a line can write more than texts.
-/
namespace SshConfig

/-- The types of events. -/
inductive EventType where
  /-- The configuration of all files together. -/
  | fileConfig
  /-- The configuration of one address. -/
  | config
  deriving DecidableEq, Repr

namespace EventType

/-- The name of a type. -/
def name : EventType → Text
  | fileConfig => "FILE_CONFIG"
  | config => "CONFIG"

/-- The type of a name. -/
def ofName? (t : Text) : Option EventType :=
  if t = fileConfig.name then some fileConfig else if t = config.name then some config else none

/-- The type that a value names. -/
def ofJson (v : Json) : Except Fault EventType :=
  match v with
  | .str t =>
    match ofName? t with
    | some k => .ok k
    | none => .error (.unknownEventType v)
  | _ => .error (.unknownEventType v)

end EventType

/-- An event. -/
structure Event where
  type : EventType
  time : Json CodePoints
  data : Json CodePoints
  deriving Repr

namespace Event

/-- The time is a positive number. -/
def checkTime (time : Json CodePoints) : Except Fault Unit :=
  let check (positive : Bool) (given : Json) :=
    if positive then .ok () else .error (.violation (.eventTime given))
  match time with
  | .int n => check (0 < n) (.int n)
  | .float x => check (0 < x) (.float x)
  | .bool b => check b (.bool b)
  | _ => .error .wrongType

/-- An event from its parts, which are checked: first the type, then the time. -/
def make (type time data : Json CodePoints) : Except Fault Event :=
  match type with
  | .arr _ => .error .wrongType
  | .obj _ => .error .wrongType
  | .str t =>
    match (CodePoints.text? t).bind EventType.ofName? with
    | some k => (checkTime time).map fun _ => ⟨k, time, data⟩
    | none => .error (.violation .eventType)
  | _ => .error (.violation .eventType)

/-- The name of the member that holds the type. -/
def typeName : Text :=
  "event_type"

/-- The name of the member that holds the time. -/
def timeName : Text :=
  "timestamp"

/-- The name of the member that holds the data. -/
def dataName : Text :=
  "data"

/-- The event as a value. -/
def toJson (e : Event) : Json CodePoints :=
  .obj [(typeName.codePoints, .str e.type.name.codePoints), (timeName.codePoints, e.time),
    (dataName.codePoints, e.data)]

/-- The event as a line, without the line end. -/
def render (e : Event) : Except Fault Text :=
  if Json.copyDepth < e.data.depth then .error .tooDeep
  else if e.toJson.isWritable then .ok e.toJson.render else .error .unwritable

/-- A member that has to be there. -/
def need (name : Text) (members : List (CodePoints × Json CodePoints)) : Except Fault (Json CodePoints) :=
  match Json.member? name.codePoints members with
  | some v => .ok v
  | none => .error (.unknownName name)

/-- The event of a line. -/
def read (line : Text) : Except Fault Event :=
  match Json.read line with
  | .error .malformed => .error .notJson
  | .error (.tooLong digits) => .error (.unreadable digits)
  | .error .tooDeep => .error .tooDeep
  | .ok (.obj members) => do
    let type ← need typeName members
    let time ← need timeName members
    make type time ((Json.member? dataName.codePoints members).getD (.obj []))
  | .ok _ => .error .wrongType

/-- Two events have the same parts. -/
def same (e f : Event) : Bool :=
  e.type == f.type && e.time == f.time && e.data == f.data

end Event
end SshConfig
