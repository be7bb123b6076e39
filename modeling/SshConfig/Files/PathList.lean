import SshConfig.Text.Basic
/-!
# PathList — several paths in one value

Paths are separated by blanks, tabs and line ends.  Quotation marks keep blanks, and may make an empty path.  A backslash
keeps the next character; between double marks it does so only before a double mark or a backslash, and between single
marks it is a character like any other.
-/
namespace SshConfig

/-- Why a value is no list of paths. -/
inductive QuoteFault where
  /-- A quotation mark has no partner. -/
  | unclosed
  /-- Nothing follows the last backslash. -/
  | nothingEscaped
  deriving DecidableEq, Repr

/-- The wording of a fault. -/
def QuoteFault.message : QuoteFault → Text
  | unclosed => "No closing quotation"
  | nothingEscaped => "No escaped character"

namespace PathList

/-- Where the reading of a path is. -/
inductive Mode where
  /-- Between paths. -/
  | between
  /-- Inside a path, outside marks. -/
  | word
  /-- Between single marks. -/
  | single
  /-- Between double marks. -/
  | double
  /-- After a backslash outside marks. -/
  | escaped
  /-- After a backslash between double marks. -/
  | doubleEscaped
  deriving DecidableEq, Repr

/-- A character between paths. -/
def isGap (c : Char) : Bool :=
  c == ' ' || c == '\t' || c == '\r' || c == '\n'

/-- The mode after a character that does not belong to a quotation. -/
def outside (c : Char) : Mode :=
  if c = '\'' then .single else if c = '"' then .double else if c = '\\' then .escaped else .word

/-- Reads on, with the characters of the current path in `path`, the last one first. -/
def readOn (path : Text) : Mode → Text → Except QuoteFault (List Text)
  | .between, [] => .ok []
  | .word, [] => .ok [path.reverse]
  | .single, [] => .error .unclosed
  | .double, [] => .error .unclosed
  | .escaped, [] => .error .nothingEscaped
  | .doubleEscaped, [] => .error .nothingEscaped
  | .between, c :: t =>
    if isGap c then readOn [] .between t
    else readOn (if outside c = .word then [c] else []) (outside c) t
  | .word, c :: t =>
    if isGap c then (readOn [] .between t).map (path.reverse :: ·)
    else readOn (if outside c = .word then c :: path else path) (outside c) t
  | .single, c :: t => if c = '\'' then readOn path .word t else readOn (c :: path) .single t
  | .double, c :: t =>
    if c = '"' then readOn path .word t
    else if c = '\\' then readOn path .doubleEscaped t
    else readOn (c :: path) .double t
  | .escaped, c :: t => readOn (c :: path) .word t
  | .doubleEscaped, c :: t =>
    readOn (if c = '\\' || c = '"' then c :: path else c :: '\\' :: path) .double t

/-- The paths in a value. -/
def split (value : Text) : Except QuoteFault (List Text) :=
  readOn [] .between value

end PathList
end SshConfig
