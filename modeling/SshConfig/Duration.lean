import SshConfig.Text.Blank
import SshConfig.ValueFault
/-!
# Duration — whole seconds

A duration is written as numbers with units, one after the other: `1h30m`, `90s`, `2W`.  A number without a unit counts
seconds and can only stand last.  Units are letters in either case; the long s is taken for an s when the text is cut
into numbers and units, but it is the letter of no unit.
-/
namespace SshConfig

/-- A span of whole seconds. -/
structure Duration where
  seconds : Nat
  deriving DecidableEq, Repr, Inhabited

namespace Duration

/-- The seconds in the unit of a letter. -/
def unitSeconds? (c : Char) : Option Nat :=
  match c.toLower with
  | 's' => some 1
  | 'm' => some 60
  | 'h' => some 3600
  | 'd' => some 86400
  | 'w' => some 604800
  | _ => none

/-- The letter is taken for a unit's. -/
def isUnit (c : Char) : Bool :=
  (unitSeconds? c).isSome || c.toNat = 0x17F

/-- A number in the course of reading: its value so far and how many digits it has. -/
structure Run where
  value : Nat
  digits : Nat
  deriving DecidableEq, Repr

/-- The value of a finished number, refused if it has too many digits. -/
def Run.finish (run : Run) : Except ValueFault Nat :=
  if digitLimit < run.digits then .error (.tooLong run.digits) else .ok run.value

/-- Reads on, with `total` seconds from the numbers that are done and `run` the number that is not; `whole` is the text
that a fault shows. -/
def readOn (whole : Text) (total : Nat) : Option Run → Text → Except ValueFault Duration
  | none, [] => .ok ⟨total⟩
  | some run, [] => run.finish.map fun n => ⟨total + n⟩
  | run, c :: t =>
    match Text.digitValue? c with
    | some d =>
      let before := run.getD ⟨0, 0⟩
      readOn whole total (some ⟨before.value * 10 + d, before.digits + 1⟩) t
    | none =>
      match run with
      | none => .error (.badDuration (.str whole))
      | some run =>
        match run.finish with
        | .error fault => .error fault
        | .ok n =>
          if isUnit c then
            match unitSeconds? c with
            | some s => readOn whole (total + n * s) none t
            | none => .error (.unknownUnit c)
          else .error (.badDuration (.str whole))

/-- Reads a duration. -/
def parse (t : Text) : Except ValueFault Duration :=
  if (Text.trim t).isEmpty then .error .emptyDuration else readOn (Text.trim t) 0 none (Text.trim t)

/-- Decodes a duration from the interchange form: seconds, or a text. -/
def ofJson : Json → Except ValueFault Duration
  | .int n => if n < 0 then .error (.negativeDuration n) else .ok ⟨n.toNat⟩
  | .str t => parse t
  | v => .error (.badDuration v)

/-- A duration in the interchange form. -/
def toJson (d : Duration) : Json :=
  .int d.seconds

/-- A duration as text: its seconds. -/
def text (d : Duration) : Text :=
  Text.ofNat d.seconds

/-- The longest span that a calendar takes, in days. -/
def maxDays : Nat :=
  999999999

/-- The duration in days and seconds of the last day; nothing if the days are too many for a calendar. -/
def calendar? (d : Duration) : Option (Nat × Nat) :=
  if maxDays < d.seconds / 86400 then none else some (d.seconds / 86400, d.seconds % 86400)

end Duration
end SshConfig
