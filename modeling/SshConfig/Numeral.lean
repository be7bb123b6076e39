import SshConfig.Text.Digit
/-!
# Numeral — integers in decimal text

A numeral is an optional sign and decimal digits of any script, where single underscores may stand between digits.  A
numeral of more than 4300 digits is refused, and an integer of more than 4300 digits is not written.
-/
namespace SshConfig

/-- The most digits that an integer may have in a text. -/
def digitLimit : Nat :=
  4300

/-- Why a text is no integer. -/
inductive NumeralFault where
  /-- The text is no numeral. -/
  | malformed
  /-- The numeral has too many digits. -/
  | tooLong (digits : Nat)
  deriving DecidableEq, Repr

namespace Numeral

open Text

/-- A character that a numeral's digits may hold. -/
def isBody (c : Char) : Bool :=
  isDigit c || c == '_'

/-- Underscores stand only between digits: none at the start, none at the end and no two together. -/
def spacedWell : Text → Bool
  | [] => true
  | ['_'] => false
  | '_' :: '_' :: _ => false
  | _ :: t => spacedWell t

/-- The number that digits spell, after the number `n`. -/
def valueFrom (n : Nat) : Text → Nat
  | [] => n
  | c :: t =>
    match digitValue? c with
    | some d => valueFrom (n * 10 + d) t
    | none => valueFrom n t

/-- Reads the text after the sign. -/
def natural (t : Text) : Except NumeralFault Nat :=
  let body := t.takeWhile isBody
  let count := (body.filter isDigit).length
  if body.head? == some '_' || !spacedWell body then .error .malformed
  else if digitLimit < count then .error (.tooLong count)
  else if count = 0 || body.length < t.length then .error .malformed
  else .ok (valueFrom 0 body)

/-- Reads an integer that has no blank around it. -/
def integer : Text → Except NumeralFault Int
  | '-' :: t => (natural t).map fun n => -(n : Int)
  | '+' :: t => (natural t).map fun n => (n : Int)
  | t => (natural t).map fun n => (n : Int)

/-- The integer has few enough digits to be written. -/
def isWritable (n : Int) : Bool :=
  n.natAbs < Nat.pow 10 digitLimit

end Numeral
end SshConfig
