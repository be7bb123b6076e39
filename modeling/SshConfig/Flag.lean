import SshConfig.Text.Blank
import SshConfig.ValueFault
/-!
# Flag — yes and no

A flag has several spellings.  `ask` and `accept-new` are spellings of yes: they say how a host key that is not yet
known is met, and checking stays on.
-/
namespace SshConfig
namespace Flag

/-- The spellings of yes. -/
def yesWords : List Text :=
  ["yes", "true", "on", "1", "ask", "accept-new"]

/-- The spellings of no. -/
def noWords : List Text :=
  ["no", "false", "off", "0"]

/-- The flag of a word, whatever its case and the blanks around it. -/
def ofText? (t : Text) : Option Bool :=
  if yesWords.contains (Text.lower (Text.trim t)) then some true
  else if noWords.contains (Text.lower (Text.trim t)) then some false
  else none

/-- Decodes a flag from the interchange form: a truth value, or a text. -/
def ofJson : Json → Except ValueFault Bool
  | .bool b => .ok b
  | .str t =>
    match ofText? t with
    | some b => .ok b
    | none => .error (.badFlag (.str t))
  | v => .error (.badFlag v)

/-- A flag in the interchange form. -/
def interchange (b : Bool) : Text :=
  if b then "true" else "false"

/-- A flag in a configuration file. -/
def written (b : Bool) : Text :=
  if b then "yes" else "no"

end Flag
end SshConfig
