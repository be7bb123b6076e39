import SshConfig.Text.Compatible
import SshConfig.Text.Direction
import SshConfig.Text.Punycode
/-!
# KeyLibrary.HostName — names of hosts as they are looked up

The name of a host is looked up in ASCII.  It consists of labels with dots between them, and a dot of another script is a dot
as well.  A label beyond ASCII is written in small letters, with the ASCII text that a character stands for in its place; if
there are other characters still, it is written in Punycode after a prefix.  No label has forbidden characters, mixes the
directions of scripts, or is empty or too long, but the name may end in a dot.
-/
namespace SshConfig
namespace HostName

/-- The characters that no name has: control characters, private ones and those that are no characters at all. -/
def forbidden : List (Nat × Nat) := [
  (0x80, 0x9F), (0x6DD, 0x6DD), (0x70F, 0x70F), (0x1680, 0x1680), (0x180E, 0x180E), (0x200E, 0x200F),
  (0x2028, 0x202E), (0x2061, 0x2063), (0x206A, 0x206F), (0x2FF0, 0x2FFB), (0xE000, 0xF8FF), (0xFDD0, 0xFDEF),
  (0xFFF9, 0xFFFF), (0x1D173, 0x1D17A), (0x1FFFE, 0x1FFFF), (0x2FFFE, 0x2FFFF), (0x3FFFE, 0x3FFFF),
  (0x4FFFE, 0x4FFFF), (0x5FFFE, 0x5FFFF), (0x6FFFE, 0x6FFFF), (0x7FFFE, 0x7FFFF), (0x8FFFE, 0x8FFFF),
  (0x9FFFE, 0x9FFFF), (0xAFFFE, 0xAFFFF), (0xBFFFE, 0xBFFFF), (0xCFFFE, 0xCFFFF), (0xDFFFE, 0xDFFFF),
  (0xE0001, 0xE0001), (0xE0020, 0xE007F), (0xEFFFE, 0x10FFFF)]

/-- A dot of some script. -/
def isDot (c : Char) : Bool :=
  [0x2E, 0x3002, 0xFF0E, 0xFF61].contains c.toNat

/-- A character of a label that is not all ASCII. -/
def charForm (c : Char) : Text :=
  (Text.asciiForm? c).getD (Text.lowerChar c)

/-- The prefix of a label in Punycode. -/
def codePrefix : Text :=
  "xn--"

/-- The text is a label: it is not empty and not too long. -/
def bounded? (t : Text) : Option Text :=
  if t.isEmpty || 64 ≤ t.length then none else some t

/-- All characters are ASCII. -/
def isPlain (t : Text) : Bool :=
  t.all (·.toNat < 128)

/-- A label as it is looked up. -/
def label? (t : Text) : Option Text :=
  if isPlain t then bounded? t
  else if t.any (Text.inRanges forbidden) || Text.mixesDirections (t.filter (!Text.inRanges Text.unseen ·)) then none
  else if isPlain (t.flatMap charForm) then bounded? (t.flatMap charForm)
  else if codePrefix.isPrefixOf (t.flatMap charForm) then none
  else bounded? (codePrefix ++ Text.punycode (t.flatMap charForm))

/-- The name as it is looked up; nothing if it is none. -/
def prepared? (name : Text) : Option Text :=
  let labels := Text.pieces isDot name
  if labels.getLast? == some [] then (labels.dropLast.mapM label?).map fun ls => Text.join ['.'] ls ++ ['.']
  else (labels.mapM label?).map (Text.join ['.'])

end HostName
end SshConfig
