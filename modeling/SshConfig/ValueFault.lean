import SshConfig.Json.Basic
/-!
# ValueFault — why a value is refused

Every option has a kind, and a value that is given for it may fail to be of that kind.  Each way to fail is one
constructor here, and `ValueFault.message` words it.
-/
namespace SshConfig

/-- Why a value is not of the kind that is asked for. -/
inductive ValueFault where
  /-- A duration without any characters. -/
  | emptyDuration
  /-- A value that is no duration. -/
  | badDuration (value : Json)
  /-- A negative number of seconds. -/
  | negativeDuration (seconds : Int)
  /-- A letter that stands for a unit only when case is ignored, and for none by itself. -/
  | unknownUnit (letter : Char)
  /-- A value that is neither of the two flags. -/
  | badFlag (value : Json)
  /-- A truth value where an integer is asked for. -/
  | badInteger (value : Json)
  /-- A text that is no integer. -/
  | notInteger (text : Text)
  /-- An integer text with too many digits. -/
  | tooLong (digits : Nat)
  /-- A negative integer. -/
  | negative (value : Json)
  /-- An integer above the highest port. -/
  | portRange (value : Json)
  /-- A value that is no text. -/
  | notText (value : Json)
  deriving Repr

namespace ValueFault

/-- The first 200 characters of a quoted text: more of it is not shown. -/
def excerpt (t : Text) : Text :=
  (Text.quoted t).take 200

/-- The wording for an integer text of `digits` digits, which are too many. -/
def tooLongMessage (digits : Nat) : Text :=
  "Exceeds the limit (" ++ Text.ofNat digitLimit ++ " digits) for integer string conversion: value has "
    ++ Text.ofNat digits ++ " digits; use sys.set_int_max_str_digits() to increase the limit"

/-- The wording of a fault. -/
def message : ValueFault → Text
  | emptyDuration => "empty duration"
  | badDuration value => "invalid duration: " ++ value.quoted
  | negativeDuration seconds => "Duration must not be negative, got " ++ Text.ofInt seconds
  | unknownUnit letter => Text.quoted [letter]
  | badFlag value => "invalid boolean: " ++ value.quoted
  | badInteger value => "invalid integer: " ++ value.quoted
  | notInteger text => "invalid literal for int() with base 10: " ++ excerpt text
  | tooLong digits => tooLongMessage digits
  | negative value => "must not be negative: " ++ value.quoted
  | portRange value => "port out of range: " ++ value.quoted
  | notText value => "expected a string, got " ++ value.quoted

end ValueFault
end SshConfig
