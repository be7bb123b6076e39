import SshConfig.Json.Printer
/-!
# Fault.Context — what is known about a failure

A context names the source, line, address and key that a failure is about, and may carry further members of the
reporter's own.  Those are laid flat beside the fixed ones, so none of them may have the name of a fixed one.
-/
namespace SshConfig

/-- What is known about a failure, as it is told; null where it is not known. -/
structure Context where
  source : Json := .null
  lineno : Json := .null
  line : Json := .null
  address : Json := .null
  keyPath : Json := .null
  underlyingError : Json := .null
  /-- The reporter's own members, which are an object unless a caller states otherwise. -/
  extra : Json := .obj []
  deriving Repr, Inhabited

namespace Context

/-- The names of the fixed members. -/
def names : List Text :=
  ["source", "lineno", "line", "address", "key_path", "original_error"]

/-- The fixed members that are known. -/
def fixed (c : Context) : List (Text × Json) :=
  (names.zip [c.source, c.lineno, c.line, c.address, c.keyPath, c.underlyingError]).filter fun m => !m.2.isNull

/-- How deep lists and objects are nested in what is known. -/
def depth (c : Context) : Nat :=
  max c.extra.depth (Json.membersDepth c.fixed)

/-- The reporter's own members; none if what is stated for them is null, and nothing if it is no object. -/
def ownMembers? (c : Context) : Option (List (Text × Json)) :=
  match c.extra with
  | .obj members => some members
  | .null => some []
  | _ => none

/-- The names of fixed members that a reporter's own members take. -/
def collisions (own : List (Text × Json)) : List Text :=
  names.filter fun n => (own.map (·.1)).contains n

/-- A member of the reporter's own can be added. -/
def isOpen (c : Context) : Bool :=
  match c.extra with
  | .obj _ => true
  | _ => false

/-- The context with one more member of the reporter's own, if it can be added. -/
def withExtra (c : Context) (name : Text) (value : Json) : Context :=
  match c.extra with
  | .obj members => { c with extra := .obj (Json.put members name value) }
  | _ => c

end Context
end SshConfig
