import SshConfig.ConfigFile.Reader
import SshConfig.Files.Access
/-!
# ConfigFile.Load — sources that are read in a session

Reading a source remarks on each option that is not known, and on the source when it is done.  A source that may be
absent is none if its file is missing or may not be read.
-/
namespace SshConfig

namespace Act

/-- Remarks on an option that is not known, and on the number of its line. -/
def remarkUnsupported (key : Text) (lineno : Json) : Act Unit :=
  debug .options ("Ignoring unsupported option " ++ Text.quoted key ++ " (line " ++ lineno.display ++ ")")

/-- Remarks on the options that are not known, in order. -/
def remarkAll : List (Nat × Text) → Act Unit
  | [] => pure ()
  | (n, key) :: rest => do
    remarkUnsupported key (.int n)
    remarkAll rest

/-- Reads inline options. -/
def readOptions (options : List Text) : Act Settings := do
  remarkAll (Settings.unsupported 1 Settings.empty options)
  match Settings.ofOptions options with
  | .ok s => pure s
  | .error r => fail (Fault.ofRefusal r)

/-- Reads a source from raw lines. -/
def readLines (source : Text) (lines : List Text) : Act ConfigFile := do
  remarkAll (ConfigFile.unsupported source lines)
  match ConfigFile.ofLines source lines with
  | .ok file => do
    debug .parser ("Parsed " ++ source ++ ": " ++ Text.ofNat file.entries.length ++ " host entries")
    pure file
  | .error r => fail (Fault.ofRefusal r)

/-- Reads a source from a text. -/
def readConfig (source text : Text) : Act ConfigFile :=
  readLines source (Text.lines text)

/-- Reads the source in a file; its name is the path in normal form. -/
def configAt (path : Text) : Act ConfigFile := do
  readConfig (FilePath.normal path) (← text path)

/-- Reads the source in a file that may be absent. -/
def readOptionalFile (path : Text) : Act (Option ConfigFile) :=
  rescue (some <$> configAt path) fun fault =>
    match fault with
    | .os f =>
      if f.cause.isExcused then do
        debug .loader ("Skipping config file " ++ path ++ ": " ++ f.message)
        pure none
      else fail fault
    | _ => fail fault

end Act
end SshConfig
