import SshConfig.Files.FilePath
import SshConfig.Files.OsFault
import SshConfig.Text.Utf8
/-!
# FileTree — the files that can be seen

A tree holds what stands at each place below the working directory and below the root.  A path is walked component by
component: a place that is missing ends the walk, and so does a file where a directory is needed or a directory that may
not be searched.  Above the working directory nothing is known but that there are directories.
-/
namespace SshConfig

/-- What stands at a place. -/
structure Node where
  /-- The bytes of a file; nothing for a directory. -/
  content : Option (List UInt8)
  /-- It may not be read. -/
  denied : Bool := false
  /-- It is a directory that may not be searched: nothing below it can be reached. -/
  closed : Bool := false
  deriving DecidableEq, Repr

/-- A place: below the root or below the working directory, by the names on the way. -/
structure Location where
  absolute : Bool
  names : List Text
  deriving DecidableEq, Repr

/-- The places that hold something. -/
structure FileTree where
  nodes : List (Location × Node)
  deriving DecidableEq, Repr

namespace FileTree

/-- The component that leads to the directory above. -/
def above : Text :=
  ".."

/-- A directory. -/
def directory : Node :=
  { content := none }

/-- A file with these bytes. -/
def file (bs : List UInt8) : Node :=
  { content := some bs }

/-- A tree with nothing but the empty device. -/
def bare : FileTree :=
  ⟨[(⟨true, ["dev", "null"]⟩, file []), (⟨true, ["dev"]⟩, directory)]⟩

/-- What stands at a place. -/
def node? (t : FileTree) (l : Location) : Option Node :=
  if l.names.all (· == above) then some directory
  else (t.nodes.find? fun n => n.1 == l).map (·.2)

/-- Puts something at a place. -/
def put (t : FileTree) (l : Location) (n : Node) : FileTree :=
  ⟨(l, n) :: t.nodes.filter fun m => m.1 != l⟩

/-- Leaves nothing at a place. -/
def remove (t : FileTree) (l : Location) : FileTree :=
  ⟨t.nodes.filter fun m => m.1 != l⟩

/-- The place above a place. -/
def up (l : Location) : Location :=
  if l.names.all (· == above) then if l.absolute then l else ⟨false, l.names ++ [above]⟩
  else ⟨l.absolute, l.names.dropLast⟩

/-- The longest name of a file, in bytes. -/
def nameLimit : Nat :=
  255

/-- Walks the components of a path to its place, which may be missing but whose directory is there. -/
def walk (t : FileTree) (l : Location) : List Text → Except OsCause Location
  | [] => .ok l
  | p :: ps =>
    match t.node? l with
    | none => .error .notFound
    | some n =>
      if n.content.isSome then .error .notDirectory
      else if n.closed then .error .denied
      else if nameLimit < (Text.encode p).length then .error .nameTooLong
      else walk t (if p = above then up l else ⟨l.absolute, l.names ++ [p]⟩) ps

/-- The longest path, in bytes. -/
def pathLimit : Nat :=
  4095

/-- The place of a path. -/
def locate (t : FileTree) (p : FilePath) : Except OsCause Location :=
  if pathLimit < (Text.encode p.text).length then .error .nameTooLong else t.walk ⟨0 < p.root, []⟩ p.parts

/-- What stands at a path. -/
def find (t : FileTree) (p : FilePath) : Except OsCause Node :=
  match t.locate p with
  | .error cause => .error cause
  | .ok l =>
    match t.node? l with
    | some n => .ok n
    | none => .error .notFound

/-- The bytes of the file at a path. -/
def read (t : FileTree) (p : FilePath) : Except OsCause (List UInt8) :=
  match t.find p with
  | .error cause => .error cause
  | .ok n =>
    if n.denied then .error .denied
    else
      match n.content with
      | some bs => .ok bs
      | none => .error .isDirectory

/-- Makes a directory at the place of a path; one that is there stays, and a file stays in the way. -/
def makeAt (t : FileTree) (p : FilePath) (l : Location) : Except OsFault FileTree :=
  match t.node? l with
  | none => .ok (t.put l directory)
  | some n => if n.content.isSome then .error ⟨.fileExists, p.text⟩ else .ok t

/-- Makes a directory and the directories above it; `fuel` is the number of components that may be missing. -/
def makeDirectory (t : FileTree) (p : FilePath) : Nat → Except OsFault FileTree
  | 0 => .ok t
  | fuel + 1 =>
    match t.locate p with
    | .error .notFound =>
      match makeDirectory t p.parent fuel with
      | .error fault => .error fault
      | .ok t =>
        match t.locate p with
        | .ok l => t.makeAt p l
        | .error cause => .error ⟨cause, p.text⟩
    | .error cause => .error ⟨cause, p.text⟩
    | .ok l => t.makeAt p l

/-- Makes the directory of a path. -/
def makeParent (t : FileTree) (p : FilePath) : Except OsFault FileTree :=
  t.makeDirectory p.parent (p.parts.length + 1)

/-- Puts something at a path, in place of what may be there; a directory and a file do not take each other's place. -/
def write (t : FileTree) (p : FilePath) (n : Node) : Except OsFault FileTree :=
  match t.makeParent p with
  | .error fault => .error fault
  | .ok t =>
    match t.locate p with
    | .error cause => .error ⟨cause, p.text⟩
    | .ok l =>
      match t.node? l with
      | none => .ok (t.put l n)
      | some old =>
        match old.content.isSome, n.content.isSome with
        | true, false => .error ⟨.fileExists, p.text⟩
        | false, true => .error ⟨.isDirectory, p.text⟩
        | _, _ => .ok (t.put l n)

/-- Removes the file at a path. -/
def delete (t : FileTree) (p : FilePath) : Except OsFault FileTree :=
  match t.locate p with
  | .error cause => .error ⟨cause, p.text⟩
  | .ok l =>
    match t.node? l with
    | none => .error ⟨.notFound, p.text⟩
    | some n => if n.content.isSome then .ok (t.remove l) else .error ⟨.isDirectory, p.text⟩

end FileTree
end SshConfig
