import SshConfig.Text.Digit
/-!
# Base64 — bytes written as base-64 text

A character of the alphabet stands for six bits, so a group of four stands for three bytes.  Reading is lenient: a
character outside the alphabet is passed over, and an equals sign counts only where it can fill a group.  The data ends
with the first group that equals signs fill, whatever follows it, or else with the text, which must then end a group.
-/
namespace SshConfig
namespace Text

/-- The six bits that a character of the alphabet stands for. -/
def sextet? (c : Char) : Option Nat :=
  if 'A' ≤ c && c ≤ 'Z' then some (c.toNat - 65)
  else if 'a' ≤ c && c ≤ 'z' then some (c.toNat - 71)
  else if isPlainDigit c then some (c.toNat + 4)
  else if c = '+' then some 62
  else if c = '/' then some 63
  else none

/-- The byte that a sextet completes, with the one before it, after `read` characters of the group: the first of a group
completes none. -/
def byteOf (read last sextet : Nat) : List Nat :=
  match read with
  | 1 => [last * 4 + sextet / 16]
  | 2 => [last % 16 * 16 + sextet / 4]
  | 3 => [last % 4 * 64 + sextet]
  | _ => []

/-- The bytes of a text from within a group of which `read` characters have been read, the last of them `last`, and
`pads` equals signs after them. -/
def bytesFrom (read last pads : Nat) : Text → Option (List Nat)
  | [] => if read = 0 then some [] else none
  | c :: t =>
    if c = '=' then
      if read < 2 then bytesFrom read last pads t
      else if 4 ≤ read + pads + 1 then some []
      else bytesFrom read last (pads + 1) t
    else
      match sextet? c with
      | none => bytesFrom read last pads t
      | some s => (bytesFrom ((read + 1) % 4) s 0 t).map (byteOf read last s ++ ·)

/-- The bytes of a base-64 text; nothing for a text that is not ASCII or ends within a group. -/
def base64Bytes? (t : Text) : Option (List Nat) :=
  if t.all (·.toNat < 128) then bytesFrom 0 0 0 t else none

/-- The text is base-64 data. -/
def isBase64 (t : Text) : Bool :=
  (base64Bytes? t).isSome

end Text
end SshConfig
