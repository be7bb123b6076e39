import SshConfig.Json.Basic
/-!
# Json.Printer — a value as one line of ASCII

Members and items are separated by a comma and a blank, and every code point outside the printable ASCII range is
written as an escape in UTF-16 units, half of a surrogate pair as the one unit that it is.  An integer with too many
digits cannot be written, nor can a value that holds one.
-/
namespace SshConfig
namespace Json

/-- The escape of one UTF-16 unit. -/
def unitEscape (n : Nat) : Text :=
  "\\u" ++ Text.hexadecimal 4 n

/-- One code point of a string. -/
def escapePoint (n : Nat) : Text :=
  if n = 34 then "\\\""
  else if n = 92 then "\\\\"
  else if n = 10 then "\\n"
  else if n = 13 then "\\r"
  else if n = 9 then "\\t"
  else if n = 8 then "\\b"
  else if n = 12 then "\\f"
  else if 32 ≤ n && n ≤ 126 then [Char.ofNat n]
  else if n < 0x10000 then unitEscape n
  else unitEscape (0xD800 + (n - 0x10000) / 0x400) ++ unitEscape (0xDC00 + (n - 0x10000) % 0x400)

/-- A string with its quotation marks. -/
def renderString (ns : CodePoints) : Text :=
  '"' :: ns.flatMap escapePoint ++ ['"']

mutual

/-- The value as one line. -/
def render : Json CodePoints → Text
  | .null => "null"
  | .bool b => if b then "true" else "false"
  | .int n => Text.ofInt n
  | .float x => Shortest.text "Infinity" "NaN" x
  | .str t => renderString t
  | .arr items => '[' :: renderItems items ++ "]"
  | .obj members => '\x7b' :: renderMembers members ++ ['\x7d']

/-- The items of a list, separated. -/
def renderItems : List (Json CodePoints) → Text
  | [] => []
  | [v] => render v
  | v :: vs => render v ++ ", " ++ renderItems vs

/-- The members of an object, separated. -/
def renderMembers : List (CodePoints × Json CodePoints) → Text
  | [] => []
  | [(k, v)] => renderString k ++ ": " ++ render v
  | (k, v) :: ms => renderString k ++ ": " ++ render v ++ ", " ++ renderMembers ms

end

mutual

/-- How deep lists and objects are nested in the value. -/
def depth {σ : Type} : Json σ → Nat
  | .arr items => itemsDepth items + 1
  | .obj members => membersDepth members + 1
  | _ => 0

/-- How deep lists and objects are nested in the items. -/
def itemsDepth {σ : Type} : List (Json σ) → Nat
  | [] => 0
  | v :: vs => max (depth v) (itemsDepth vs)

/-- How deep lists and objects are nested in the members. -/
def membersDepth {σ : Type} : List (σ × Json σ) → Nat
  | [] => 0
  | (_, v) :: ms => max (depth v) (membersDepth ms)

end

/-- How deep lists and objects may be nested in what is copied for a report or an event. -/
def copyDepth : Nat :=
  490

mutual

/-- No integer in the value has too many digits. -/
def isWritable {σ : Type} : Json σ → Bool
  | .int n => Numeral.isWritable n
  | .arr items => itemsWritable items
  | .obj members => membersWritable members
  | _ => true

/-- No integer in the items has too many digits. -/
def itemsWritable {σ : Type} : List (Json σ) → Bool
  | [] => true
  | v :: vs => isWritable v && itemsWritable vs

/-- No integer in the members has too many digits. -/
def membersWritable {σ : Type} : List (σ × Json σ) → Bool
  | [] => true
  | (_, v) :: ms => isWritable v && membersWritable ms

end

end Json
end SshConfig
