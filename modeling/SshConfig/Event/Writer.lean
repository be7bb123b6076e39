import SshConfig.Event.Basic
import SshConfig.Files.FileTree
/-!
# Event.Writer — events as lines

A writer puts each event on a line of its own, in a stream that it is given or at the end of a file that it opens.  Only
an open writer writes; one on a stream is always open.  A recorder keeps events in memory, hands them to a writer, or
does both, in this order.
-/
namespace SshConfig

/-- Where lines go. -/
inductive Target where
  | stream
  | file (path : Text)
  deriving DecidableEq, Repr

/-- A writer of events. -/
structure Writer where
  target : Target
  isOpen : Bool
  deriving DecidableEq, Repr

/-- What records events, and where they have gone so far. -/
structure Recorder where
  tree : FileTree
  stream : Text := []
  collected : Option (List Event) := none
  writer : Option Writer := none

/-- An action of a recorder, which may end in a fault. -/
abbrev Recording := ExceptT Fault (StateM Recorder)

namespace Recording

/-- A writer on one target, given as a path or as the stream. -/
def newWriter (path : Option Text) (stream : Bool) : Recording Writer :=
  match path, stream with
  | some p, false => pure ⟨.file p, false⟩
  | none, true => pure ⟨.stream, true⟩
  | _, _ => throw (.violation .writerTarget)

/-- Makes sure that lines can be added to a file: its directory is there, and so is the file. -/
def prepare (path : Text) : Recording Unit := do
  let r ← get
  let p := FilePath.ofText path
  match r.tree.makeParent p with
  | .error fault => throw (.os fault)
  | .ok tree => do
    set { r with tree := tree }
    match tree.read p with
    | .ok _ => pure ()
    | .error .notFound =>
      match tree.write p (FileTree.file []) with
      | .ok tree => set { r with tree := tree }
      | .error fault => throw (.os fault)
    | .error cause => throw (.os ⟨cause, p.text⟩)

/-- Opens a writer; one that is open stays as it is. -/
def openWriter (w : Writer) : Recording Writer :=
  match w.target, w.isOpen with
  | .file path, false => do
    if path.contains (Char.ofNat 0) then throw .nullInPath
    prepare path
    pure ⟨.file path, true⟩
  | _, _ => pure w

/-- Closes a writer on a file; one on a stream stays open. -/
def closeWriter (w : Writer) : Writer :=
  match w.target with
  | .file _ => { w with isOpen := false }
  | .stream => w

/-- The text of a target so far. -/
def targetText (r : Recorder) : Target → Text
  | .stream => r.stream
  | .file path =>
    match r.tree.read (FilePath.ofText path) with
    | .ok bs => Text.decode bs
    | .error _ => []

/-- Adds a text at the end of a target. -/
def addTo (r : Recorder) (t : Text) : Target → Recorder
  | .stream => { r with stream := r.stream ++ t }
  | .file path =>
    match r.tree.locate (FilePath.ofText path), r.tree.read (FilePath.ofText path) with
    | .ok l, .ok bs => { r with tree := r.tree.put l (FileTree.file (bs ++ Text.encode t)) }
    | _, _ => r

/-- Writes an event on a line of its own. -/
def write (w : Writer) (e : Event) : Recording Unit :=
  if w.isOpen then
    match e.render with
    | .error fault => throw fault
    | .ok line => modify fun r => addTo r (line ++ ['\n']) w.target
  else throw (.violation .closedWriter)

/-- The event of parts that are checked. -/
def event (type : Json) (time : Json) (data : List (Text × Json)) : Recording Event :=
  match Event.make type.codePoints time.codePoints (Json.obj data).codePoints with
  | .ok e => pure e
  | .error fault => throw fault

/-- Writes events one after the other. -/
def writeAll (w : Writer) (time : Json) : List Json → Recording Unit
  | [] => pure ()
  | type :: rest => do
    write w (← event type time [])
    writeAll w time rest

/-- The names that an emission takes for itself, so that no member of its data can have them. -/
def takenNames : List Text :=
  ["self", "event_type"]

/-- Keeps and writes an event. -/
def emit (type : Json) (time : Json) (data : List (Text × Json)) : Recording Event := do
  if data.any fun m => takenNames.contains m.1 then throw .wrongType
  let e ← event type time data
  modify fun r => { r with collected := r.collected.map (· ++ [e]) }
  match (← get).writer with
  | some w => write w e
  | none => pure ()
  pure e

/-- The events that were kept. -/
def kept : Recording (List Event) := do
  match (← get).collected with
  | some es => pure es
  | none => throw .missingPart

/-- Opens the recorder's writer. -/
def openOwn : Recording Unit := do
  match (← get).writer with
  | none => throw .missingPart
  | some w => do
    let w ← openWriter w
    modify fun r => { r with writer := some w }

/-- Closes the recorder's writer, if it has one. -/
def closeOwn : Recording Unit :=
  modify fun r => { r with writer := r.writer.map closeWriter }

/-- Forgets the events that were kept. -/
def clear : Recording Unit := do
  let _ ← kept
  modify fun r => { r with collected := some [] }

end Recording
end SshConfig
