import SshConfig.Text.Basic
/-!
# Shortest — the fewest decimal digits that read back

A finite double is a whole number of units in the last place, and reads back from every decimal between the midpoints
to its neighbours (the midpoints too when that whole number is even).  Its shortest decimal has the fewest digits that
such a decimal can have, and of those it is the nearest.  The text has a decimal point for magnitudes from 0.0001 to
below 10^16 and an exponent otherwise.
-/
namespace SshConfig
namespace Shortest

/-- A positive double as the fraction `num / den`, with the midpoints `low / den` and `high / den` to its neighbours. -/
structure Neighbourhood where
  num : Nat
  low : Nat
  high : Nat
  den : Nat
  /-- The midpoints read back as the double. -/
  closed : Bool
  deriving Repr

/-- The neighbourhood of the double with biased exponent `e` and fraction bits `f`, which is neither zero nor
infinite. -/
def neighbourhood (e f : Nat) : Neighbourhood :=
  let m := if e = 0 then f else f + Nat.pow 2 52
  let below := if f = 0 && 1 < e then 1 else 2
  let up := (if e = 0 then 1 else e) - 1075
  let down := 1075 - (if e = 0 then 1 else e)
  ⟨4 * m * Nat.pow 2 up, (4 * m - below) * Nat.pow 2 up, (4 * m + 2) * Nat.pow 2 up, 4 * Nat.pow 2 down, m % 2 == 0⟩

/-- The least `k` for which `num · 10^k` reaches `den`, looking at most `fuel` steps ahead. -/
def scaleUp (num den : Nat) : Nat → Nat
  | 0 => 0
  | fuel + 1 => if den ≤ num then 0 else scaleUp (num * 10) den fuel + 1

/-- The place of the decimal point: the fraction lies from 10^(p - 1) to below 10^p. -/
def pointPlace (num den : Nat) : Int :=
  if den ≤ num then (Nat.toDigits 10 (num / den)).length
  else 1 - (scaleUp num den 400 : Int)

/-- The decimal of `count` digits that is nearest to the double, if one of them reads back: its digits as a number. -/
def atCount (v : Neighbourhood) (p : Int) (count : Nat) : Option Nat :=
  let unitNum := Nat.pow 10 (p - count).toNat * v.den
  let scale := Nat.pow 10 (count - p).toNat
  let n := v.num * scale / unitNum
  let inside (k : Nat) : Bool :=
    if v.closed then v.low * scale ≤ k * unitNum && k * unitNum ≤ v.high * scale
    else v.low * scale < k * unitNum && k * unitNum < v.high * scale
  let lowGap := v.num * scale - n * unitNum
  let highGap := (n + 1) * unitNum - v.num * scale
  match inside n, inside (n + 1) with
  | true, true => some (if lowGap < highGap || (lowGap == highGap && n % 2 == 0) then n else n + 1)
  | true, false => some n
  | false, true => some (n + 1)
  | false, false => none

/-- The shortest decimal of the double, as its digits in a number and the place of the decimal point before them: the
first of the digit counts from `count` on at which one reads back, with `fuel` counts to try.  A nearest decimal that is
the next power of ten has one digit more than asked for, and its point one place further. -/
def firstHit (v : Neighbourhood) (p : Int) (count : Nat) : Nat → Nat × Int
  | 0 => (0, p)
  | fuel + 1 =>
    match atCount v p count with
    | some n => (n, if n = Nat.pow 10 count then p + 1 else p)
    | none => firstHit v p (count + 1) fuel

/-- Digits and the place of the decimal point before them: the text of `0.digits · 10^place`. -/
def layout (digits : Text) (place : Int) : Text :=
  if -4 < place && place ≤ 16 then
    if place ≤ 0 then "0." ++ List.replicate (-place).toNat '0' ++ digits
    else if digits.length ≤ place.toNat then digits ++ List.replicate (place.toNat - digits.length) '0' ++ ".0"
    else digits.take place.toNat ++ "." ++ digits.drop place.toNat
  else
    let e := (place - 1).natAbs
    let fraction : Text := match digits.drop 1 with
      | [] => []
      | r => '.' :: r
    digits.take 1 ++ fraction ++ (if place - 1 < 0 then "e-" else "e+") ++ (if e < 10 then ['0'] else [])
      ++ Text.ofNat e

/-- The text of a positive finite double. -/
def positive (e f : Nat) : Text :=
  let v := neighbourhood e f
  let hit := firstHit v (pointPlace v.num v.den) 1 17
  layout (Text.dropEnd (· == '0') (Text.ofNat hit.1)) hit.2

/-- The text of a double, with the names given for what is not finite. -/
def text (infinite notANumber : Text) (x : Float) : Text :=
  let bits := x.toBits.toNat
  let sign : Text := if bits / Nat.pow 2 63 = 1 then ['-'] else []
  let e := bits / Nat.pow 2 52 % 2048
  let f := bits % Nat.pow 2 52
  if e = 2047 then if f = 0 then sign ++ infinite else notANumber
  else if e = 0 && f = 0 then sign ++ "0.0"
  else sign ++ positive e f

end Shortest
end SshConfig
