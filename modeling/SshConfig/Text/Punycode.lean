import SshConfig.Text.Basic
/-!
# Punycode — any text in letters, digits and hyphens

The ASCII characters of a text are written first, then a hyphen if there are any, then the other characters: from the smallest
code point to the largest, each as the number of steps from the one before it.  A step moves one place on in the text so far,
and from its end to the next code point.  Numbers are written in digits of base 36 whose weights follow the sizes seen so far.
-/
namespace SshConfig
namespace Punycode

/-- The least digit that does not end a number, at a place that counts 36, 72 and so on. -/
def threshold (place bias : Nat) : Nat :=
  max 1 (min 26 (place - bias))

theorem threshold_pos (place bias : Nat) : 0 < threshold place bias :=
  Nat.lt_of_lt_of_le Nat.zero_lt_one (Nat.le_max_left 1 _)

/-- A digit: a letter up to 25, then the decimal digits. -/
def digit (n : Nat) : Char :=
  if n < 26 then Char.ofNat (97 + n) else Char.ofNat (22 + n)

/-- The digits of a number from a place on. -/
def digits (bias place n : Nat) : Text :=
  if n < threshold place bias then [digit n]
  else
    digit (threshold place bias + (n - threshold place bias) % (36 - threshold place bias))
      :: digits bias (place + 36) ((n - threshold place bias) / (36 - threshold place bias))
termination_by n
decreasing_by
  have h := threshold_pos place bias
  exact Nat.lt_of_le_of_lt (Nat.div_le_self _ _) (by omega)

/-- A size brought down to 455 by divisions by 35, and 36 for each division. -/
def scaled (size : Nat) : Nat × Nat :=
  if 455 < size then
    let s := scaled (size / 35)
    (s.1, s.2 + 36)
  else (size, 0)
termination_by size
decreasing_by exact Nat.div_lt_self (by omega) (by omega)

/-- The bias after a number of some size, with `count` characters written. -/
def adapted (first : Bool) (size count : Nat) : Nat :=
  let part := if first then size / 700 else size / 2
  let s := scaled (part + part / count)
  s.2 + 36 * s.1 / (s.1 + 38)

/-- What is written so far: the steps since the last number, the bias, how many characters there are, and the digits. -/
structure State where
  steps : Nat
  bias : Nat
  count : Nat
  written : Text

/-- Moves over one character of the text on the way through those of code point `n`. -/
def State.over (basic n : Nat) (s : State) (c : Char) : State :=
  if c.toNat < n then { s with steps := s.steps + 1 }
  else if c.toNat = n then
    ⟨0, adapted (s.count == basic) s.steps (s.count + 1), s.count + 1, s.written ++ digits s.bias 36 s.steps⟩
  else s

/-- Writes all characters of the code points, the smallest first, from the code point `start` on. -/
def writeAll (t : Text) (basic start : Nat) (s : State) : List Nat → Text
  | [] => s.written
  | n :: ns =>
    let s' := t.foldl (State.over basic n) { s with steps := s.steps + (n - start) * (s.count + 1) }
    writeAll t basic (n + 1) { s' with steps := s'.steps + 1 } ns

end Punycode

/-- The text in Punycode. -/
def Text.punycode (t : Text) : Text :=
  let basic := t.filter (·.toNat < 128)
  let others := ((t.filter (128 ≤ ·.toNat)).map Char.toNat).mergeSort.eraseDups
  basic ++ (if basic.isEmpty then [] else ['-'])
    ++ Punycode.writeAll t basic.length 128 ⟨0, 72, basic.length, []⟩ others

end SshConfig
