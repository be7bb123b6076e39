import SshConfig.Json.Basic
import SshConfig.Text.Digit
/-!
# Json.Reader — a value from text

Blanks between tokens are the blank, the tab, the line feed and the carriage return.  A number with a fraction or an
exponent is a double, any other an integer; the names `NaN`, `Infinity` and `-Infinity` are read too.  A later member
takes the place of an earlier one of the same name.  Lists and objects are read up to a depth of nesting.
-/
namespace SshConfig

/-- Why a text is no value. -/
inductive ReadFault where
  /-- The text is not well-formed. -/
  | malformed
  /-- An integer has too many digits. -/
  | tooLong (digits : Nat)
  /-- Lists and objects are nested too deep. -/
  | tooDeep
  deriving DecidableEq, Repr

namespace Json

/-- The text from the first character that is no blank between tokens. -/
def skip (t : Text) : Text :=
  t.dropWhile fun c => c == ' ' || c == '\t' || c == '\n' || c == '\r'

/-- The UTF-16 unit of four hexadecimal digits. -/
def unit? (a b c d : Char) : Option Nat := do
  pure ((((← Text.hexDigit? a) * 16 + (← Text.hexDigit? b)) * 16 + (← Text.hexDigit? c)) * 16 + (← Text.hexDigit? d))

/-- The character that a letter after a backslash stands for. -/
def escape? (c : Char) : Option Nat :=
  match c with
  | '"' => some 34
  | '\\' => some 92
  | '/' => some 47
  | 'b' => some 8
  | 'f' => some 12
  | 'n' => some 10
  | 'r' => some 13
  | 't' => some 9
  | _ => none

/-- The units of a string up to its closing mark, and the text after the mark. -/
def units? : Text → Option (List Nat × Text)
  | [] => none
  | '"' :: t => some ([], t)
  | '\\' :: 'u' :: a :: b :: c :: d :: t => do
    let n ← unit? a b c d
    let r ← units? t
    pure (n :: r.1, r.2)
  | '\\' :: e :: t => do
    let n ← escape? e
    let r ← units? t
    pure (n :: r.1, r.2)
  | c :: t => if c.toNat < 32 || c = '\\' then none else (units? t).map fun r => (c.toNat :: r.1, r.2)

/-- The code points of the units, where a high surrogate and the low one after it are one code point. -/
def ofUnits : List Nat → CodePoints
  | [] => []
  | [n] => [n]
  | n :: m :: ns =>
    if 0xD800 ≤ n && n < 0xDC00 && 0xDC00 ≤ m && m < 0xE000 then
      (0x10000 + (n - 0xD800) * 0x400 + (m - 0xDC00)) :: ofUnits ns
    else n :: ofUnits (m :: ns)

/-- The double nearest to `mantissa · 10^exponent`; magnitudes far out of range are not computed. -/
def nearestFloat (mantissa : Nat) (exponent : Int) : Float :=
  let size := (Nat.toDigits 10 mantissa).length + exponent
  if mantissa = 0 || size < -400 then 0
  else if 400 < size then 1 / 0
  else if exponent < 0 then Float.ofScientific mantissa true exponent.natAbs
  else Float.ofScientific mantissa false exponent.toNat

/-- The fraction after the digits of a number, and the text after it. -/
def fraction (t : Text) : Text × Text :=
  match t with
  | '.' :: r => if (r.takeWhile Text.isPlainDigit).isEmpty then ([], t) else (r.takeWhile Text.isPlainDigit, r.dropWhile Text.isPlainDigit)
  | _ => ([], t)

/-- The exponent after the digits of a number, and the text after it. -/
def exponent (t : Text) : Option Int × Text :=
  match t with
  | [] => (none, t)
  | e :: r =>
    let sign : Int := if r.head? = some '-' then -1 else 1
    let digits := if r.head? = some '-' || r.head? = some '+' then r.drop 1 else r
    if (e = 'e' || e = 'E') && !(digits.takeWhile Text.isPlainDigit).isEmpty then
      (some (sign * Text.plainValue (digits.takeWhile Text.isPlainDigit)), digits.dropWhile Text.isPlainDigit)
    else (none, t)

/-- A number without its sign, and the text after it. -/
def number (negative : Bool) (t : Text) : Except ReadFault (Json CodePoints × Text) :=
  let whole := match t with
    | '0' :: _ => ['0']
    | _ => t.takeWhile Text.isPlainDigit
  let f := fraction (t.drop whole.length)
  let e := exponent f.2
  if whole.isEmpty then .error .malformed
  else if f.1.isEmpty && e.1.isNone then
    if digitLimit < whole.length then .error (.tooLong whole.length)
    else .ok (.int (if negative then -(Text.plainValue whole : Int) else Text.plainValue whole), e.2)
  else
    let x := nearestFloat (Text.plainValue (whole ++ f.1)) (e.1.getD 0 - f.1.length)
    .ok (.float (if negative then -x else x), e.2)

/-- A value that is neither a list nor an object, and the text after it. -/
def scalar (t : Text) : Except ReadFault (Json CodePoints × Text) :=
  match t with
  | 'n' :: 'u' :: 'l' :: 'l' :: r => .ok (.null, r)
  | 't' :: 'r' :: 'u' :: 'e' :: r => .ok (.bool true, r)
  | 'f' :: 'a' :: 'l' :: 's' :: 'e' :: r => .ok (.bool false, r)
  | 'N' :: 'a' :: 'N' :: r => .ok (.float (0 / 0), r)
  | 'I' :: 'n' :: 'f' :: 'i' :: 'n' :: 'i' :: 't' :: 'y' :: r => .ok (.float (1 / 0), r)
  | '-' :: 'I' :: 'n' :: 'f' :: 'i' :: 'n' :: 'i' :: 't' :: 'y' :: r => .ok (.float (-1 / 0), r)
  | '"' :: r =>
    match units? r with
    | some (ns, rest) => .ok (.str (ofUnits ns), rest)
    | none => .error .malformed
  | '-' :: r => number true r
  | _ => number false t

/-- How deep lists and objects may be nested in a text that is read. -/
def readDepth : Nat :=
  985

mutual

/-- A value and the text after it; `depth` is how deep it may be nested, and `fuel` bounds the number of steps. -/
def value : Nat → Nat → Text → Except ReadFault (Json CodePoints × Text)
  | 0, _, _ => .error .malformed
  | _ + 1, 0, '[' :: _ => .error .tooDeep
  | _ + 1, 0, '\x7b' :: _ => .error .tooDeep
  | fuel + 1, depth + 1, '[' :: t =>
    match skip t with
    | ']' :: r => .ok (.arr [], r)
    | r => (items fuel depth r).map fun p => (.arr p.1, p.2)
  | fuel + 1, depth + 1, '\x7b' :: t =>
    match skip t with
    | '\x7d' :: r => .ok (.obj [], r)
    | r => (members fuel depth r).map fun p => (.obj (putAll [] p.1), p.2)
  | _ + 1, _, t => scalar t

/-- The items of a list up to its closing bracket, and the text after it. -/
def items : Nat → Nat → Text → Except ReadFault (List (Json CodePoints) × Text)
  | 0, _, _ => .error .malformed
  | fuel + 1, depth, t => do
    let v ← value fuel depth t
    match skip v.2 with
    | ']' :: r => pure ([v.1], r)
    | ',' :: r => do
      let vs ← items fuel depth (skip r)
      pure (v.1 :: vs.1, vs.2)
    | _ => .error .malformed

/-- The members of an object up to its closing brace, and the text after it. -/
def members : Nat → Nat → Text → Except ReadFault (List (CodePoints × Json CodePoints) × Text)
  | 0, _, _ => .error .malformed
  | fuel + 1, depth, '"' :: t =>
    match units? t with
    | none => .error .malformed
    | some (ns, rest) =>
      match skip rest with
      | ':' :: r => do
        let v ← value fuel depth (skip r)
        match skip v.2 with
        | '\x7d' :: r' => pure ([(ofUnits ns, v.1)], r')
        | ',' :: r' => do
          let ms ← members fuel depth (skip r')
          pure ((ofUnits ns, v.1) :: ms.1, ms.2)
        | _ => .error .malformed
      | _ => .error .malformed
  | _ + 1, _, _ => .error .malformed

end

/-- The value that the text holds, nested no deeper than `depth`, with nothing else but blanks around it. -/
def readWithin (depth : Nat) (t : Text) : Except ReadFault (Json CodePoints) := do
  let v ← value (t.length + 1) depth (skip t)
  if (skip v.2).isEmpty then pure v.1 else .error .malformed

/-- The value that the text holds, with nothing else but blanks around it. -/
def read (t : Text) : Except ReadFault (Json CodePoints) :=
  readWithin readDepth t

end Json
end SshConfig
