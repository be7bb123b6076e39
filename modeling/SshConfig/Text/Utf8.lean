import SshConfig.Text.Basic
/-!
# Utf8 — reading bytes as text

Bytes are read as UTF-8.  Where they are none, each longest start of a character that is broken off gives one
replacement character, and so does each byte that starts no character.
-/
namespace SshConfig
namespace Text

/-- The character that stands for bytes that are no text. -/
def replacement : Char :=
  Char.ofNat 0xFFFD

/-- The bytes of a text. -/
def encode (t : Text) : List UInt8 :=
  t.flatMap String.utf8EncodeChar

/-- How many bytes follow a leading byte, the range of the first of them, and the bits that the leading byte gives;
nothing for a byte that leads no character of several bytes. -/
def leads? (b : UInt8) : Option (Nat × Nat × Nat × Nat) :=
  let n := b.toNat
  if 0xC2 ≤ n && n ≤ 0xDF then some (1, 0x80, 0xBF, n - 0xC0)
  else if n = 0xE0 then some (2, 0xA0, 0xBF, 0)
  else if n = 0xED then some (2, 0x80, 0x9F, 0xD)
  else if 0xE1 ≤ n && n ≤ 0xEF then some (2, 0x80, 0xBF, n - 0xE0)
  else if n = 0xF0 then some (3, 0x90, 0xBF, 0)
  else if n = 0xF4 then some (3, 0x80, 0x8F, 4)
  else if 0xF1 ≤ n && n ≤ 0xF3 then some (3, 0x80, 0xBF, n - 0xF0)
  else none

/-- Reads up to `count` more bytes of a character, the first between `low` and `high`: the character, or the
replacement where they break off, and the bytes that are left. -/
def follow (bits low high : Nat) : Nat → List UInt8 → Char × List UInt8
  | 0, bs => (Char.ofNat bits, bs)
  | _ + 1, [] => (replacement, [])
  | count + 1, b :: bs =>
    if low ≤ b.toNat && b.toNat ≤ high then follow (bits * 64 + (b.toNat - 0x80)) 0x80 0xBF count bs
    else (replacement, b :: bs)

theorem follow_length_le (bits low high count : Nat) (bs : List UInt8) :
    (follow bits low high count bs).2.length ≤ bs.length := by
  induction count generalizing bits low high bs with
  | zero => simp [follow]
  | succ count ih =>
    cases bs with
    | nil => simp [follow]
    | cons b bs =>
      simp only [follow]
      split
      · exact Nat.le_trans (ih _ _ _ bs) (Nat.le_succ _)
      · exact Nat.le_refl _

/-- The text that the bytes spell. -/
def decode : List UInt8 → Text
  | [] => []
  | b :: bs =>
    if b.toNat < 0x80 then Char.ofNat b.toNat :: decode bs
    else
      match leads? b with
      | none => replacement :: decode bs
      | some (count, low, high, bits) =>
        (follow bits low high count bs).1 :: decode (follow bits low high count bs).2
termination_by bs => bs.length
decreasing_by
  all_goals simp_wf
  all_goals try have := follow_length_le bits low high count bs
  all_goals omega

end Text
end SshConfig
