import SshConfig.ValueFault
/-!
# Refusal — a line that is not accepted

A configuration is refused at one line.  The refusal has a cause, the source, the number of the line from 1 on, and the
line as it was read.  It is told as a line error, in which a caller may state any of these parts otherwise, or leave the
place unknown.
-/
namespace SshConfig

/-- What is wrong with a line. -/
inductive Complaint where
  /-- An indented line before the first host line. -/
  | indentation
  /-- An option line at the margin after a host line. -/
  | stray
  /-- An option line of a file without a delimiter. -/
  | noDelimiter
  /-- An inline option without a delimiter. -/
  | noOptionDelimiter
  /-- A host line that names no pattern. -/
  | noPatterns
  /-- A pattern of blanks only. -/
  | emptyPattern
  /-- A value that the option does not take. -/
  | badValue (key : Text) (fault : ValueFault)
  deriving Repr

/-- A refused line. -/
structure Refusal where
  cause : Complaint
  source : Text
  number : Nat
  line : Text
  deriving Repr

/-- A place, as it is told; null where it is not known. -/
structure Place where
  source : Json := .null
  lineno : Json := .null
  line : Json := .null
  deriving Repr, Inhabited

/-- What is told about a line that is not accepted. -/
structure LineError where
  /-- It is about a host pattern. -/
  pattern : Bool
  reason : Json
  place : Place
  deriving Repr

namespace Complaint

/-- The wording of the complaint alone. -/
def reason : Complaint → Text
  | indentation => "unexpected indentation"
  | stray => "unexpected line"
  | noDelimiter => "delimiter not found"
  | noOptionDelimiter => "invalid option (delimiter not found)"
  | noPatterns => "Host directive without patterns"
  | emptyPattern => "empty host pattern"
  | badValue key fault => "invalid value for " ++ key ++ " (" ++ fault.message ++ ")"

/-- The complaint is about a host pattern. -/
def isPattern : Complaint → Bool
  | noPatterns => true
  | emptyPattern => true
  | _ => false

/-- What is told about a complaint at a place. -/
def told (c : Complaint) (p : Place) : LineError :=
  ⟨c.isPattern, .str c.reason, p⟩

end Complaint

/-- The place of a refused line. -/
def Refusal.place (r : Refusal) : Place :=
  ⟨.str r.source, .int r.number, .str r.line⟩

namespace LineError

/-- Nothing is known of the place. -/
def isBare (e : LineError) : Bool :=
  e.place.source.isNull && e.place.lineno.isNull && e.place.line.isNull

/-- The wording: the reason, with what is known of the place around it. -/
def message (e : LineError) : Text :=
  let p := e.place
  let numbered := if p.lineno.isNull then e.reason.display else e.reason.display ++ " at line " ++ p.lineno.display
  let shown := if p.line.isNull then numbered else numbered ++ ": " ++ p.line.quoted
  if p.source.isNull then shown else p.source.display ++ ": " ++ shown

end LineError
end SshConfig
