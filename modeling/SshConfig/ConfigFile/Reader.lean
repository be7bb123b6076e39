import SshConfig.ConfigFile.Basic
import SshConfig.Settings.OptionLine
/-!
# ConfigFile.Reader — a configuration source from its lines

A line is nothing (blank or a comment), an indented option, a host line or an option at the margin.  Options at the
margin come before the first host line and are global; indented options come after it and belong to the last host line
before them.  Values are converted as they are read, so the first line that is not accepted is the one refused.
-/
namespace SshConfig

/-- What a line says. -/
inductive Line where
  /-- Blank, or a comment. -/
  | nothing
  /-- An indented option, without the blanks around it. -/
  | indented (option : Text)
  /-- A host line: the text after its delimiter. -/
  | host (patterns : Text)
  /-- An option at the margin, without the blanks around it. -/
  | atMargin (option : Text)
  deriving DecidableEq, Repr

namespace Line

/-- A raw line without the carriage returns and line feeds at its end. -/
def strip (raw : Text) : Text :=
  Text.dropEnd (fun c => c == '\r' || c == '\n') raw

/-- The word that opens a host line, in lower case. -/
def hostWord : Text :=
  "host"

/-- The text after the delimiter of a host line; nothing for any other line.  The line has no blanks around it. -/
def hostPatterns? (t : Text) : Option Text :=
  let head := Text.headWord t
  if Text.lower head.1 = hostWord then some head.2
  else
    match Text.cutAt '=' head.1 with
    | none => none
    | some (word, _) => if Text.lower word = hostWord then (Text.cutAt '=' t).map (·.2) else none

/-- What a line says that has lost its line end. -/
def ofText (line : Text) : Line :=
  let t := Text.trim line
  if t.isEmpty || t.head? == some '#' then .nothing
  else if line.head? == some ' ' || line.head? == some '\t' then .indented t
  else
    match hostPatterns? t with
    | some patterns => .host patterns
    | none => .atMargin t

/-- The key of the option on a line, if it names no option. -/
def unsupportedKey? : Line → Option Text
  | indented t => Settings.unsupportedKey? t
  | atMargin t => Settings.unsupportedKey? t
  | _ => none

end Line

namespace ConfigFile

/-- What has been read so far: the global settings, and the host entries with the last one first. -/
structure Progress where
  globals : Settings := Settings.empty
  recent : List HostEntry := []

/-- The host entry that a host line opens. -/
def openEntry (n : Nat) (patterns : Text) : Except Complaint HostEntry :=
  if (Text.words patterns).isEmpty then .error .noPatterns
  else .ok ⟨Text.words patterns, Settings.empty, n⟩

/-- Reads line `n`. -/
def Progress.step (p : Progress) (n : Nat) : Line → Except Complaint Progress
  | .nothing => .ok p
  | .indented t =>
    match p.recent with
    | [] => .error .indentation
    | e :: es => (e.settings.applyLine .noDelimiter t).map fun s => ⟨p.globals, ⟨e.globs, s, e.lineno⟩ :: es⟩
  | .host patterns => (openEntry n patterns).map fun e => ⟨p.globals, e :: p.recent⟩
  | .atMargin t =>
    match p.recent with
    | [] => (p.globals.applyLine .noDelimiter t).map fun s => ⟨s, []⟩
    | _ :: _ => .error .stray

/-- Reads raw lines, the first of them number `n`. -/
def Progress.readOn (source : Text) (p : Progress) (n : Nat) : List Text → Except Refusal Progress
  | [] => .ok p
  | raw :: rest =>
    match p.step n (Line.ofText (Line.strip raw)) with
    | .ok p => p.readOn source (n + 1) rest
    | .error cause => .error ⟨cause, source, n, Line.strip raw⟩

/-- The source that has been read. -/
def Progress.file (p : Progress) (source : Text) : ConfigFile :=
  ⟨p.globals, p.recent.reverse, source⟩

/-- The source of raw lines. -/
def ofLines (source : Text) (lines : List Text) : Except Refusal ConfigFile :=
  (Progress.readOn source {} 1 lines).map (·.file source)

/-- The source of a text. -/
def ofText (source text : Text) : Except Refusal ConfigFile :=
  ofLines source (Text.lines text)

/-- How many lines are read before one is refused. -/
def acceptedCount (source : Text) (lines : List Text) : Nat :=
  match ofLines source lines with
  | .ok _ => lines.length
  | .error r => r.number - 1

/-- The keys that name no option, each with the number of its line, on the lines before a refused one. -/
def unsupported (source : Text) (lines : List Text) : List (Nat × Text) :=
  (((lines.take (acceptedCount source lines)).zipIdx 1).filterMap fun p =>
    (Line.ofText (Line.strip p.1)).unsupportedKey?.map fun key => (p.2, key))

end ConfigFile
end SshConfig
