import SshConfig.Settings.Codec
import SshConfig.Glob
/-!
# ConfigFile — a configuration source

A source has global settings and host entries, in order.  An address is looked up by its first entry with a glob that
accepts it: the entry's settings are laid on the global ones.  A source without entries answers every address with its
global settings; one with entries leaves an address that none of them accepts to the next source.
-/
namespace SshConfig

/-- A host entry: globs, settings, and the line on which it starts. -/
structure HostEntry where
  globs : List Text
  settings : Settings
  lineno : Nat

/-- A configuration source. -/
structure ConfigFile where
  globals : Settings := Settings.empty
  entries : List HostEntry := []
  source : Text := "<string>"

instance : Inhabited ConfigFile := ⟨{}⟩

/-- The entry is for the address. -/
def HostEntry.accepts (e : HostEntry) (address : Text) : Bool :=
  Glob.anyAccepts e.globs address

/-- The globs of an entry with blanks between them. -/
def HostEntry.title (e : HostEntry) : Text :=
  Text.join [' '] e.globs

namespace ConfigFile

/-- The source answers addresses that no entry accepts. -/
def hasFallback (f : ConfigFile) : Bool :=
  f.entries.isEmpty

/-- The first entry for an address. -/
def findEntry (f : ConfigFile) (address : Text) : Option HostEntry :=
  f.entries.find? (·.accepts address)

/-- The settings for an address; nothing if the source leaves it to the next. -/
def lookup (f : ConfigFile) (address : Text) : Option Settings :=
  match f.findEntry address with
  | some e => some (f.globals.merge e.settings)
  | none => if f.hasFallback then some f.globals else none

/-- Two sources as one: the entries of the first come first, the global settings of the second lie on top. -/
def combine (f g : ConfigFile) : ConfigFile :=
  ⟨f.globals.merge g.globals, f.entries ++ g.entries, f.source ++ '+' :: g.source⟩

/-- Sources combined from left to right; nothing if there are none. -/
def combineAll : List ConfigFile → Option ConfigFile
  | [] => none
  | f :: fs => some (fs.foldl combine f)

/-- Each entry's globs, and its settings laid on the global ones. -/
def hosts (f : ConfigFile) : List (Text × Settings) :=
  f.entries.map fun e => (e.title, f.globals.merge e.settings)

/-- The texts without the ones that came before. -/
def firsts (seen : List Text) : List Text → List Text
  | [] => []
  | t :: ts => if seen.contains t then firsts seen ts else t :: firsts (t :: seen) ts

/-- The names that entries give without wildcards, each once, in order. -/
def aliases (f : ConfigFile) : List Text :=
  firsts [] ((f.entries.flatMap (·.globs)).filter Glob.isLiteral)

/-- The lines of an entry. -/
def entryLines (e : HostEntry) : List Text :=
  ("Host " ++ e.title) :: e.settings.lines.map ("    " ++ ·)

/-- The lines of entries: an empty line goes ahead of each entry that is not the first thing written. -/
def linesAfter (written : Bool) : List HostEntry → List Text
  | [] => []
  | e :: es => (if written then [[]] else []) ++ entryLines e ++ linesAfter true es

/-- The lines of the source: the global settings, then the entries. -/
def lines (f : ConfigFile) : List Text :=
  f.globals.lines ++ linesAfter (!f.globals.lines.isEmpty) f.entries

/-- No value in the source has too many digits to be written. -/
def isWritable (f : ConfigFile) : Bool :=
  f.globals.isWritable && f.entries.all (·.settings.isWritable)

/-- The source as text. -/
def text (f : ConfigFile) : Text :=
  f.lines.flatMap (· ++ ['\n'])

/-- The source as text; nothing if a value has too many digits to be written. -/
def dump? (f : ConfigFile) : Option Text :=
  if f.isWritable then some f.text else none

/-- The members of a source's report. -/
def members (f : ConfigFile) : List (Text × Json) :=
  [("source", .str f.source), ("global", f.globals.toJson),
    ("hosts", .arr (f.entries.map fun e => .obj [("host", Json.texts e.globs), ("config", e.settings.toJson)]))]

/-- The source as a report. -/
def toJson (f : ConfigFile) : Json :=
  .obj f.members

end ConfigFile
end SshConfig
