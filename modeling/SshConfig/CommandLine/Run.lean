import SshConfig.CommandLine.Arguments
import SshConfig.Loader
/-!
# CommandLine.Run — resolving hosts one after the other

Each host is resolved and its configuration printed as one line, until one of them fails.  A fault of the configuration
or of the system is told in a last line and ends the run with exit code 1; any other fault is raised.  Remarks of little
weight and events are shown when asked for.
-/
namespace SshConfig

/-- How a run ends, and what it has shown. -/
structure Outcome where
  /-- The exit code, or the fault that is raised. -/
  exit : Except Fault Nat
  output : List Text
  /-- The lines of remarks, events and the last message, in order. -/
  messages : List Text

namespace CommandLine

/-- The name of the program in its messages. -/
def programName : Text :=
  "ssh-resolve"

/-- The network that hosts are resolved for. -/
def network : Text :=
  "tcp"

/-- The line for a host. -/
def hostLine (host : Text) (c : Effective) : Act Text :=
  let report : Json := .obj (("host", .str host) :: c.members)
  if report.isWritable then pure report.codePoints.render else Act.fail .unwritable

/-- Prints the lines of hosts. -/
def printAll (client : Client) : List Text → Act Unit
  | [] => pure ()
  | host :: rest => do
    let c ← client.resolve network host
    Act.note (.printed (← hostLine host c))
    printAll client rest

/-- The options before the first lost one, if one is lost. -/
def beforeLost : List Argument → Option (List Text)
  | [] => none
  | .lost :: _ => some []
  | .given t :: rest => (beforeLost rest).map (t :: ·)

/-- The configuration file of a call, unless it is lost. -/
def givenFile : Option Argument → Option Text
  | some (.given t) => some t
  | _ => none

/-- The loader that the arguments ask for. -/
def loader (a : Arguments) (system : Text) : Act Loader := do
  let home ← Act.ofExcept (← get).environment.homeDirectory
  pure {
    defaults := Defaults.forHome home system
    configFile := givenFile a.configFile
    options := a.options.map Argument.text
    identity := a.identity.map Argument.text
    trace := if a.verbose then some (Trace.recording true) else none
    onDemand := a.onDemand }

/-- Ends where a lost configuration file is to be read: before any other, or at the first look-up of a lazy client. -/
def loseFile (l : Loader) : Act Unit := do
  if l.onDemand then do
    let _ ← l.newClient
  else do
    let _ ← Act.readOptions l.options
  Act.fail .wrongType

/-- The run that the arguments ask for. -/
def run (a : Arguments) (system : Text) : Act Unit := do
  let l ← loader a system
  match beforeLost a.options with
  | some options => do
    let _ ← Act.readOptions options
    Act.fail .missingPart
  | none =>
    if a.configFile = some .lost then loseFile l
    else do
      let client ← l.newClient
      printAll client a.hosts

/-- The lines that were printed. -/
def printedLines (journal : List Note) : List Text :=
  journal.filterMap fun n =>
    match n with
    | .printed line => some line
    | _ => none

/-- The line of a journal's entry among the messages: warnings always, other remarks and events when asked for. -/
def messageLine (verbose : Bool) : Note → Option Text
  | .remark r => if verbose || r.level == .warning then some r.line else none
  | .event e => if verbose then some e.toJson.render else none
  | _ => none

/-- The message that ends a run. -/
def closing (message : Text) : Text :=
  programName ++ ": " ++ message

/-- The outcome of a run that asks for hosts. -/
def outcome (a : Arguments) (system : Text) (s : Session) : Outcome :=
  let r := run a system s
  let shown := r.2.journal.filterMap (messageLine a.verbose)
  match r.1 with
  | .ok _ => ⟨.ok 0, printedLines r.2.journal, shown⟩
  | .error fault =>
    if fault.failsLookup then ⟨.ok 1, printedLines r.2.journal, shown ++ [closing fault.message]⟩
    else ⟨.error fault, printedLines r.2.journal, shown⟩

/-- The line that ends a call with arguments that make no sense. -/
def usageLine (message : Text) : Text :=
  closing ("error: " ++ message)

end CommandLine
end SshConfig
