import SshConfig.Files.Access
/-!
# Files.Windows — the steps that paths take on Windows

On Windows the values of variables are put in place of their names before a path is expanded, the profile's directory
comes before the home directory, and the system's files stand elsewhere.  These are the program's own steps.  How paths
themselves are written there, with drives, backslashes and names between percent signs, is not told here: paths have the
one normal form of this library.
-/
namespace SshConfig
namespace Environment

/-- A character of a variable's name. -/
def isNameChar (c : Char) : Bool :=
  c.isAlphanum || c == '_'

/-- The name of a variable after a dollar sign, and the text after it: a word, or any text in braces. -/
def variableName? (t : Text) : Option (Text × Text) :=
  match t with
  | '\x7b' :: r => Text.cutAt '\x7d' r
  | _ => if (t.takeWhile isNameChar).isEmpty then none else some (t.takeWhile isNameChar, t.dropWhile isNameChar)

/-- The text with the values of variables in place of their names.  A name without a value stays as it is.  The fuel
bounds the number of steps. -/
def substituteFrom (env : Environment) : Nat → Text → Text
  | 0, t => t
  | _, [] => []
  | fuel + 1, c :: t =>
    if c = '$' then
      match variableName? t with
      | none => '$' :: env.substituteFrom fuel t
      | some (name, rest) =>
        match env.valueOf? name with
        | some value => value ++ env.substituteFrom fuel rest
        | none => '$' :: t.take (t.length - rest.length) ++ env.substituteFrom fuel rest
    else c :: env.substituteFrom fuel t

/-- The text with the values of variables in place of their names. -/
def substitute (env : Environment) (t : Text) : Text :=
  env.substituteFrom t.length t

/-- A path, as it is given on Windows, in full. -/
def expandOnWindows (env : Environment) (path : Text) : Except Fault Text :=
  env.expand (env.substitute path)

/-- The home directory on Windows: the profile's, if there is one. -/
def homeOnWindows (env : Environment) : Except Fault Text :=
  match env.valueOf? "USERPROFILE" with
  | some (c :: t) => .ok (FilePath.normal (c :: t))
  | _ => env.homeDirectory

/-- The directory of the system's files on Windows. -/
def systemOnWindows (env : Environment) : Text :=
  FilePath.child ((env.valueOf? "ProgramData").getD "C:\\ProgramData") "ssh"

end Environment
end SshConfig
