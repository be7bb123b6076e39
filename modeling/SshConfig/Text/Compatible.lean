import SshConfig.Text.Blank
import SshConfig.Text.Case
/-!
# Compatible — characters that stand for ASCII text

Many characters beyond ASCII are forms of ASCII text: letters of full width, numbers in circles, signs of units.  Each of them
has the ASCII text that it stands for, in small letters, as Unicode 3.2 has it.  Characters that show nothing, such as the
soft hyphen, stand for the empty text.
-/
namespace SshConfig
namespace Text

/-- Forms of neighbours in order: the first character and the texts that it and those after it stand for. -/
def compatibleRuns : List (Nat × String) := [
  (0xAA, "a"), (0xB2, "2 3"), (0xB9, "1 o"), (0xDF, "ss"), (0x132, "ij ij"), (0x17F, "s"),
  (0x1C7, "lj lj lj nj nj nj"), (0x1F1, "dz dz dz"), (0x2B0, "h"), (0x2B2, "j r"), (0x2B7, "w y"),
  (0x2E1, "l s x"), (0x37E, ";"), (0x1E9E, "ss"), (0x1FEF, "`"), (0x2024, ". .. ..."), (0x203C, "!!"),
  (0x2047, "?? ?! !?"), (0x2070, "0 i"), (0x2074, "4 5 6 7 8 9 +"), (0x207C, "= ( ) n 0 1 2 3 4 5 6 7 8 9 +"),
  (0x208C, "= ( )"), (0x20A8, "rs"), (0x2100, "a/c a/s c"), (0x2105, "c/o c/u"), (0x210A, "g h h h h"),
  (0x2110, "i i l l"), (0x2115, "n no"), (0x2119, "p q r r r"), (0x2120, "sm tel tm"), (0x2124, "z"),
  (0x2128, "z"), (0x212A, "k"), (0x212C, "b c"), (0x212F, "e e f"), (0x2133, "m o"), (0x2139, "i"),
  (0x2145, "d d e i j"),
  (0x2160, "i ii iii iv v vi vii viii ix x xi xii l c d m i ii iii iv v vi vii viii ix x xi xii l c d m"),
  (0x2460, "1 2 3 4 5 6 7 8 9 10 11 12 13 14 15 16 17 18 19 20 (1) (2) (3) (4) (5) (6) (7) (8) (9) (10) (11)"),
  (0x247F, "(12) (13) (14) (15) (16) (17) (18) (19) (20) 1. 2. 3. 4. 5. 6. 7. 8. 9. 10. 11. 12. 13. 14. 15."),
  (0x2497, "16. 17. 18. 19. 20. (a) (b) (c) (d) (e) (f) (g) (h) (i) (j) (k) (l) (m) (n) (o) (p) (q) (r) (s)"),
  (0x24AF, "(t) (u) (v) (w) (x) (y) (z) a b c d e f g h i j k l m n o p q r s t u v w x y z a b c d e f g h"),
  (0x24D8, "i j k l m n o p q r s t u v w x y z 0"), (0x2A74, "::= == ==="),
  (0x3251, "21 22 23 24 25 26 27 28 29 30 31 32 33 34 35"),
  (0x32B1, "36 37 38 39 40 41 42 43 44 45 46 47 48 49 50"), (0x3371, "hpa da au bar ov pc"), (0x3380, "pa na"),
  (0x3383, "ma ka kb mb gb cal kcal pf nf"), (0x338E, "mg kg hz khz mhz ghz thz"), (0x3396, "ml dl kl fm nm"),
  (0x339C, "mm cm km mm2 cm2 m2 km2 mm3 cm3 m3 km3"), (0x33A9, "pa kpa mpa gpa rad"), (0x33B0, "ps ns"),
  (0x33B3, "ms pv nv"), (0x33B7, "mv kv mv pw nw"), (0x33BD, "mw kw mw"), (0x33C2, "a.m. bq cc cd"),
  (0x33C7, "co. db gy ha hp in kk km kt lm ln log lx mb mil mol ph p.m. ppm pr sr sv wb"),
  (0xFB00, "ff fi fl ffi ffl st st"), (0xFB29, "+"), (0xFE30, ".."), (0xFE33, "_ _ ( ) \x7b \x7d"),
  (0xFE4D, "_ _ _ ,"), (0xFE52, "."), (0xFE54, "; : ? !"), (0xFE59, "( ) \x7b \x7d"),
  (0xFE5F, "# & * + - < > ="), (0xFE68, "\\ $ % @")]

/-- The characters that show nothing. -/
def unseen : List (Nat × Nat) := [
  (0xAD, 0xAD), (0x34F, 0x34F), (0x1806, 0x1806), (0x180B, 0x180D), (0x200B, 0x200D), (0x2060, 0x2060),
  (0xFE00, 0xFE0F), (0xFEFF, 0xFEFF)]

/-- The characters beyond ASCII that stand for the plain blank. -/
def wideBlanks : List (Nat × Nat) := [
  (0xA0, 0xA0), (0x2000, 0x200A), (0x202F, 0x202F), (0x205F, 0x205F), (0x3000, 0x3000)]

/-- The places among the mathematical alphabets that hold no letter. -/
def alphabetGaps : List Nat := [
  0x1D455, 0x1D49D, 0x1D4A0, 0x1D4A1, 0x1D4A3, 0x1D4A4, 0x1D4A7, 0x1D4A8, 0x1D4AD, 0x1D4BA, 0x1D4BC, 0x1D4C1,
  0x1D4C4, 0x1D506, 0x1D50B, 0x1D50C, 0x1D515, 0x1D51D, 0x1D53A, 0x1D53F, 0x1D545, 0x1D547, 0x1D548, 0x1D549,
  0x1D551]

/-- The text that a run has for a character. -/
def inRun? (n : Nat) (run : Nat × String) : Option Text :=
  if run.1 ≤ n then (words run.2)[n - run.1]? else none

/-- The ASCII text, in small letters, that a character stands for; nothing if it stands for none. -/
def asciiForm? (c : Char) : Option Text :=
  let n := c.toNat
  if n < 128 then some [c.toLower]
  else if inRanges unseen c then some []
  else if inRanges wideBlanks c then some [' ']
  else if 0xFF01 ≤ n && n ≤ 0xFF5E then some [(Char.ofNat (n - 0xFEE0)).toLower]
  else if 0x1D400 ≤ n && n ≤ 0x1D6A3 then
    if alphabetGaps.contains n then none else some [Char.ofNat (97 + (n - 0x1D400) % 26)]
  else if 0x1D7CE ≤ n && n ≤ 0x1D7FF then some [Char.ofNat (48 + (n - 0x1D7CE) % 10)]
  else compatibleRuns.findSome? (inRun? n)

end Text
end SshConfig
