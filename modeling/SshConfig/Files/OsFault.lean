import SshConfig.Text.Quoted
/-!
# OsFault — why a file cannot be reached

The faults that the system reports for a path, each with the number by which it is known.
-/
namespace SshConfig

/-- What the system reports. -/
inductive OsCause where
  | notFound
  | denied
  | fileExists
  | notDirectory
  | isDirectory
  | nameTooLong
  deriving DecidableEq, Repr

/-- A fault that the system reports for a path. -/
structure OsFault where
  cause : OsCause
  path : Text
  deriving DecidableEq, Repr

namespace OsCause

/-- The number of a cause. -/
def number : OsCause → Nat
  | notFound => 2
  | denied => 13
  | fileExists => 17
  | notDirectory => 20
  | isDirectory => 21
  | nameTooLong => 36

/-- The wording of a cause. -/
def wording : OsCause → Text
  | notFound => "No such file or directory"
  | denied => "Permission denied"
  | fileExists => "File exists"
  | notDirectory => "Not a directory"
  | isDirectory => "Is a directory"
  | nameTooLong => "File name too long"

/-- Nothing is there: a name on the way is missing or is that of a file. -/
def isAbsence : OsCause → Bool
  | notFound => true
  | notDirectory => true
  | _ => false

/-- The file is absent or may not be read: what a file that need not be there is excused for. -/
def isExcused : OsCause → Bool
  | notFound => true
  | denied => true
  | _ => false

end OsCause

/-- The wording of a fault. -/
def OsFault.message (f : OsFault) : Text :=
  "[Errno " ++ Text.ofNat f.cause.number ++ "] " ++ f.cause.wording ++ ": " ++ Text.quoted f.path

end SshConfig
