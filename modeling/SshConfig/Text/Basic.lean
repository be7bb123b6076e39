/-!
# Text — characters in a row

Every text of the library is the list of its characters.  This module holds the type, the ways in which a text is cut
into pieces and put together again, and the decimal digits of a number.
-/
namespace SshConfig

/-- A text is the list of its characters, so that a function on texts is a recursion on characters. -/
abbrev Text := List Char

/-- A string constant stands for the list of its characters. -/
instance : Coe String Text := ⟨String.toList⟩

namespace Text

/-- The pieces between the characters that `sep` accepts: always one more than there are such characters. -/
def pieces (sep : Char → Bool) : Text → List Text
  | [] => [[]]
  | c :: t =>
    if sep c then [] :: pieces sep t
    else
      match pieces sep t with
      | [] => [[c]]
      | p :: ps => (c :: p) :: ps

/-- The pieces without a last empty one: a separator then ends a piece and does not begin another. -/
def endedPieces (sep : Char → Bool) (t : Text) : List Text :=
  match (pieces sep t).reverse with
  | [] :: ps => ps.reverse
  | ps => ps.reverse

/-- The texts one after the other, with `sep` between neighbours. -/
def join (sep : Text) (ts : List Text) : Text :=
  List.intercalate sep ts

/-- What stands before the first `c` and what stands after it; nothing if there is no `c`. -/
def cutAt (c : Char) : Text → Option (Text × Text)
  | [] => none
  | d :: t => if d = c then some ([], t) else (cutAt c t).map fun p => (d :: p.1, p.2)

/-- The text without the characters at its end that `drop` accepts. -/
def dropEnd (drop : Char → Bool) (t : Text) : Text :=
  (t.reverse.dropWhile drop).reverse

/-- `part` occurs somewhere in the text. -/
def holds (part : Text) : Text → Bool
  | [] => part.isEmpty
  | c :: t => part.isPrefixOf (c :: t) || holds part t

/-- A natural number in decimal digits. -/
def ofNat (n : Nat) : Text :=
  Nat.toDigits 10 n

/-- An integer in decimal digits, with a sign if it is negative. -/
def ofInt : Int → Text
  | .ofNat n => ofNat n
  | .negSucc n => '-' :: ofNat (n + 1)

end Text
end SshConfig
