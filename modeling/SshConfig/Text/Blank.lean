import SshConfig.Text.Basic
/-!
# Blank — blank characters, trimming and words

The blanks are the white space of Unicode together with the four information separators.  A text is trimmed of blanks
at both ends, and its words are the longest runs without a blank.
-/
namespace SshConfig
namespace Text

/-- A blank character.  The zero-width blank and the byte order mark are none. -/
def isBlank (c : Char) : Bool :=
  let n := c.toNat
  (9 ≤ n && n ≤ 13) || (28 ≤ n && n ≤ 32) || n == 0x85 || n == 0xA0 || n == 0x1680 || (0x2000 ≤ n && n ≤ 0x200A)
    || n == 0x2028 || n == 0x2029 || n == 0x202F || n == 0x205F || n == 0x3000

/-- The text without the blanks at its start. -/
def trimStart (t : Text) : Text :=
  t.dropWhile isBlank

/-- The text without the blanks at its end. -/
def trimEnd (t : Text) : Text :=
  dropEnd isBlank t

/-- The text without the blanks at either end. -/
def trim (t : Text) : Text :=
  trimEnd (trimStart t)

/-- The longest runs of characters that are not blank, in order. -/
def words (t : Text) : List Text :=
  (pieces isBlank t).filter (!·.isEmpty)

/-- The first word of a text that starts with none of its blanks, and the rest from the next word on. -/
def headWord (t : Text) : Text × Text :=
  (t.takeWhile (!isBlank ·), trimStart (t.dropWhile (!isBlank ·)))

/-- A character that breaks lines: the line feed, the carriage return and the other separators of Unicode. -/
def isLineBreak (c : Char) : Bool :=
  let n := c.toNat
  (10 ≤ n && n ≤ 13) || (28 ≤ n && n ≤ 30) || n == 0x85 || n == 0x2028 || n == 0x2029

/-- Lines end at a line feed and nowhere else. -/
def lines (t : Text) : List Text :=
  endedPieces (· == '\n') t

/-- A carriage return, with the line feed after it if there is one, becomes a line feed. -/
def unifyBreaks : Text → Text
  | [] => []
  | '\r' :: '\n' :: t => '\n' :: unifyBreaks t
  | c :: t => (if c = '\r' then '\n' else c) :: unifyBreaks t

/-- Lines end at any character that breaks lines; a carriage return and its line feed are one break. -/
def rows (t : Text) : List Text :=
  endedPieces isLineBreak (unifyBreaks t)

end Text
end SshConfig
