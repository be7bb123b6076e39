import SshConfig.Text.Basic
/-!
# FilePath — paths in their normal form

A path is a root and components.  Repeated slashes, a slash at the end and the component `.` say nothing and are gone
from the normal form; the component `..` stays.  Two slashes at the start are a root of their own, three or more are one.
-/
namespace SshConfig

/-- A path: how many slashes its root has, and its components. -/
structure FilePath where
  root : Nat
  parts : List Text
  deriving DecidableEq, Repr, Inhabited

namespace FilePath

/-- The path of a text. -/
def ofText (t : Text) : FilePath :=
  let slashes := (t.takeWhile (· == '/')).length
  ⟨if slashes = 2 then 2 else min slashes 1, (Text.pieces (· == '/') t).filter fun p => !p.isEmpty && p != ['.']⟩

/-- The path as text. -/
def text (p : FilePath) : Text :=
  if p.root = 0 && p.parts.isEmpty then ['.'] else List.replicate p.root '/' ++ Text.join ['/'] p.parts

/-- The normal form of a path given as text. -/
def normal (t : Text) : Text :=
  (ofText t).text

/-- The second path seen from the first; a path with a root is the same from everywhere. -/
def append (p q : FilePath) : FilePath :=
  if q.root = 0 then ⟨p.root, p.parts ++ q.parts⟩ else q

/-- A path and one more name, as text. -/
def child (p name : Text) : Text :=
  ((ofText p).append (ofText name)).text

/-- The path without its last component. -/
def parent (p : FilePath) : FilePath :=
  ⟨p.root, p.parts.dropLast⟩

end FilePath
end SshConfig
