import SshConfig.Settings.Basic
/-!
# Settings.Codec — settings as interchange values and as lines

In the interchange form settings are an object whose members are the set options under their lower-case names.  As lines
they are written one option a line, the value after a blank, or after an equals sign where a blank would lose the value:
an empty one, or one that starts with an equals sign.
-/
namespace SshConfig

/-- Why settings cannot be put together. -/
inductive MergeCause where
  /-- The document is no object. -/
  | notMapping (value : Json)
  /-- A member's value is refused. -/
  | badMember (key : Text) (fault : ValueFault)
  /-- What is to be merged is not a block of settings. -/
  | notBlock (value : Json)
  /-- A message given by the caller. -/
  | stated (message : Text)
  deriving Repr

/-- The wording of a cause. -/
def MergeCause.message : MergeCause → Text
  | notMapping value => "expected a mapping, got " ++ value.kindName
  | badMember key fault => "cannot decode " ++ Text.quoted key ++ ": " ++ fault.message
  | notBlock value => "cannot merge " ++ value.kindName ++ " into OptionBlock"
  | stated message => message

/-- Why an option cannot be set by name. -/
inductive AssignFault where
  /-- The name, in lower case, is that of no option. -/
  | unknownOption (key : Text)
  /-- The value is refused. -/
  | refused (fault : ValueFault)
  deriving Repr

namespace Settings

/-- Sets the option that `key` names, in any case, to a value in the interchange form. -/
def assign (s : Settings) (key : Text) (value : Json) : Except AssignFault Settings :=
  match Keyword.ofText? key with
  | none => .error (.unknownOption (Text.lower key))
  | some k =>
    match k.kind.decode value with
    | .ok v => .ok (s.set k v)
    | .error fault => .error (.refused fault)

/-- Decodes one member: a name of no option is passed over, and so is a null. -/
def decodeMember (s : Settings) (key : Text) (value : Json) : Except MergeCause Settings :=
  match value with
  | .null => .ok s
  | _ =>
    match s.assign key value with
    | .ok s => .ok s
    | .error (.unknownOption _) => .ok s
    | .error (.refused fault) => .error (.badMember key fault)

/-- Decodes members one after the other. -/
def decodeMembers : Settings → List (Text × Json) → Except MergeCause Settings
  | s, [] => .ok s
  | s, m :: ms =>
    match s.decodeMember m.1 m.2 with
    | .ok s => decodeMembers s ms
    | .error cause => .error cause

/-- Decodes settings from the interchange form. -/
def ofJson : Json → Except MergeCause Settings
  | .obj members => decodeMembers empty members
  | v => .error (.notMapping v)

/-- The set options in the interchange form. -/
def members (s : Settings) : List (Text × Json) :=
  Keyword.all.filterMap fun k => (s.get? k).map fun v => (k.lowerName, k.kind.encode v)

/-- The settings in the interchange form. -/
def toJson (s : Settings) : Json :=
  .obj s.members

/-- The line that sets an option. -/
def line (k : Keyword) (v : k.Value) : Text :=
  let value := k.kind.written v
  if value.isEmpty || value.head? == some '=' then k.name ++ '=' :: value else k.name ++ ' ' :: value

/-- The lines that set the options that are set. -/
def lines (s : Settings) : List Text :=
  Keyword.all.filterMap fun k => (s.get? k).map (line k)

/-- No value has too many digits to be written. -/
def isWritable (s : Settings) : Bool :=
  Keyword.all.all fun k =>
    match s.get? k with
    | some v => k.kind.isWritable v
    | none => true

end Settings
end SshConfig
