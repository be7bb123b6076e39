import SshConfig.Fault.Basic
import SshConfig.Text.Blank
/-!
# Fault.Build — failures from their parts by name

A failure can be made from the name of its kind and named parts, which are checked: a message must not be blank, a line
number is positive, and the path of a key is not blank.  Parts that the kind does not have, and parts of the wrong shape,
are refused.
-/
namespace SshConfig

namespace Context

/-- A line number is a number from 1 on; yes counts as 1, and null for none. -/
def checkLineno (v : Json) : Except Fault Unit :=
  let check (positive : Bool) := if positive then .ok () else .error (.violation (.badLineno v))
  match v with
  | .null => .ok ()
  | .int n => check (1 ≤ n)
  | .bool b => check b
  | _ => check false

/-- The part of a name, null if it is not given. -/
def part (parts : List (Text × Json)) (name : Text) : Json :=
  (Json.member? name parts).getD .null

/-- A context from its parts by name; the line number is checked last. -/
def ofParts (parts : List (Text × Json)) : Except Fault Context :=
  if parts.all fun p => p.1 == "extra".toList || names.contains p.1 then
    (checkLineno (part parts "lineno")).map fun _ =>
      ⟨part parts "source", part parts "lineno", part parts "line", part parts "address", part parts "key_path",
        part parts "original_error", (Json.member? "extra".toList parts).getD (.obj [])⟩
  else .error .wrongType

end Context

namespace ConfigError

/-- The parts are all among those of the kind. -/
def known (names : List Text) (parts : List (Text × Json)) : Except Fault Unit :=
  if parts.all fun p => names.contains p.1 then .ok () else .error .wrongType

/-- A part that the kind needs. -/
def needed (parts : List (Text × Json)) (name : Text) : Except Fault Json :=
  match Json.member? name parts with
  | some v => .ok v
  | none => .error .wrongType

/-- A message that is a text and not blank. -/
def messageOf (v : Json) : Except Fault Text :=
  match v with
  | .str t => if (Text.trim t).isEmpty then .error (.violation (.blankMessage v)) else .ok t
  | _ => .error (.violation (.blankMessage v))

/-- Texts in a list. -/
def textsOf : List Json → Except Fault (List Text)
  | [] => .ok []
  | .str t :: vs => (textsOf vs).map (t :: ·)
  | _ :: _ => .error .wrongType

/-- A refused line with a given reason and place.  Without a place, the reason is the message. -/
def buildRefused (pattern : Bool) (parts : List (Text × Json)) (c : Context) : Except Fault ConfigError := do
  known ["reason", "lineno", "line", "source"] parts
  let reason ← needed parts "reason"
  let e : LineError := ⟨pattern, reason,
    ⟨Context.part parts "source", Context.part parts "lineno", Context.part parts "line"⟩⟩
  let _ ← messageOf (if e.isBare then reason else .str e.message)
  pure (.refused e c)

/-- The path of a key, which is not blank, or none for null. -/
def keyPathOf (v : Json) : Except Fault (Option Text) :=
  match v with
  | .null => .ok none
  | .str t => if (Text.trim t).isEmpty then .error (.violation (.badKeyPath v)) else .ok (some t)
  | _ => .error (.violation (.badKeyPath v))

/-- A member of the reporter's own can be added to a context. -/
def needOpen (c : Context) : Except Fault Unit :=
  if c.isOpen then .ok () else .error .wrongType

/-- A key that is not loaded, with a given message and reason. -/
def buildKey (parts : List (Text × Json)) (c : Context) : Except Fault ConfigError := do
  known ["message", "key_path", "reason"] parts
  let message ← needed parts "message"
  let path ← keyPathOf (Context.part parts "key_path")
  let reason := Context.part parts "reason"
  if reason.isVoid then pure () else needOpen c
  let message ← messageOf message
  pure (.key ⟨.stated message reason, path, c⟩)

/-- What a value is made of. -/
def partsOf (v : Json) : Except Fault (List Json) :=
  match v.parts? with
  | some vs => .ok vs
  | none => .error .wrongType

/-- Identity files none of which is usable. -/
def buildNoIdentity (parts : List (Text × Json)) (c : Context) : Except Fault ConfigError := do
  known ["paths", "failures"] parts
  let paths ← partsOf (← needed parts "paths")
  needOpen c
  let failures := Context.part parts "failures"
  let failures ← if failures.isVoid then pure [] else partsOf failures
  pure (.noIdentity (← textsOf paths) (failures.map .stated) c)

/-- A failure that is told by its message. -/
def buildStated (make : Text → Context → ConfigError) (parts : List (Text × Json)) (c : Context) :
    Except Fault ConfigError := do
  known ["message"] parts
  let message ← messageOf (← needed parts "message")
  pure (make message c)

/-- A failure about known hosts with a given message. -/
def buildTrust (parts : List (Text × Json)) (c : Context) : Except Fault ConfigError := do
  known ["message", "path"] parts
  let message ← needed parts "message"
  let message ← messageOf message
  pure (.trust (.stated message) (Context.part parts "path") c)

/-- An address that no source answers. -/
def buildNotFound (parts : List (Text × Json)) (c : Context) : Except Fault ConfigError := do
  known ["address"] parts
  pure (.notFound (← needed parts "address") c)

/-- The failure of a kind, by the name that reports have for it. -/
def build (kind : Text) (parts : List (Text × Json)) (c : Context) : Except Fault ConfigError :=
  if kind = "SSHConfigError".toList then buildStated .general parts c
  else if kind = "ParseError".toList then buildRefused false parts c
  else if kind = "PatternError".toList then buildRefused true parts c
  else if kind = "MergeError".toList then buildStated (fun m => .merge (.stated m)) parts c
  else if kind = "ConfigNotFound".toList then buildNotFound parts c
  else if kind = "AuthenticationError".toList then buildStated .credentials parts c
  else if kind = "NoAuthMethods".toList then buildNoIdentity parts c
  else if kind = "KeyLoadError".toList then buildKey parts c
  else if kind = "KnownHostsError".toList then buildTrust parts c
  else .error .missingPart

end ConfigError
end SshConfig
