import SshConfig.Settings.Codec
import SshConfig.Refusal
/-!
# Settings.OptionLine — options given as text

An option line is a key, a delimiter and a value.  The delimiter is the first blank, tab or equals sign; after a blank
or a tab the value may still bring its own equals sign.  A key that names no option is passed over.  Inline options are
read like option lines, one text after the other, and a later one wins.
-/
namespace SshConfig

/-- A character that ends a key. -/
def isDelimiter (c : Char) : Bool :=
  c == ' ' || c == '\t' || c == '='

/-- The value after a delimiter, which is trimmed; after a blank or a tab it is freed of an equals sign first. -/
def valueAfter (delimiter : Char) (t : Text) : Text :=
  match Text.trim t with
  | '=' :: v => if delimiter = '=' then '=' :: v else Text.trim v
  | v => v

/-- The key and the value of an option line; nothing if it has no delimiter. -/
def splitLine (t : Text) : Option (Text × Text) :=
  match t.dropWhile (!isDelimiter ·) with
  | [] => none
  | d :: rest => some (Text.trim (t.takeWhile (!isDelimiter ·)), valueAfter d rest)

namespace Settings

/-- Sets the option that a key names; a key of no option changes nothing. -/
def apply (s : Settings) (key : Text) (value : Json) : Except Complaint Settings :=
  match s.assign key value with
  | .ok s => .ok s
  | .error (.unknownOption _) => .ok s
  | .error (.refused fault) => .error (.badValue key fault)

/-- Reads one option line; `missing` is the complaint about a line without a delimiter. -/
def applyLine (missing : Complaint) (s : Settings) (t : Text) : Except Complaint Settings :=
  match splitLine t with
  | none => .error missing
  | some (key, value) => s.apply key (.str value)

/-- The source that refusals of inline options name. -/
def inlineSource : Text :=
  "<options>"

/-- Reads inline options, the first of them number `n`, on top of `s`. -/
def readOptions (n : Nat) (s : Settings) : List Text → Except Refusal Settings
  | [] => .ok s
  | option :: rest =>
    match s.applyLine .noOptionDelimiter (Text.trim option) with
    | .ok s => readOptions (n + 1) s rest
    | .error cause => .error ⟨cause, inlineSource, n, option⟩

/-- Settings from inline options. -/
def ofOptions (options : List Text) : Except Refusal Settings :=
  readOptions 1 empty options

/-- The key of an option line, if it names no option. -/
def unsupportedKey? (t : Text) : Option Text :=
  match splitLine t with
  | none => none
  | some (key, _) => if (Keyword.ofText? key).isSome then none else some key

/-- The keys of inline options that name no option, each with its number, up to the first refused one. -/
def unsupported (n : Nat) (s : Settings) : List Text → List (Nat × Text)
  | [] => []
  | option :: rest =>
    match s.applyLine .noOptionDelimiter (Text.trim option) with
    | .ok s =>
      match unsupportedKey? (Text.trim option) with
      | some key => (n, key) :: unsupported (n + 1) s rest
      | none => unsupported (n + 1) s rest
    | .error _ => []

end Settings
end SshConfig
