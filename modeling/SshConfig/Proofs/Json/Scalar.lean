import SshConfig.Json.Printer
import SshConfig.Json.Reader
import SshConfig.Proofs.Text.Decimal
/-!
# Scalar — strings and integers read back

A string is written one code point after the other, and each is read back as its UTF-16 units, whatever follows
(`units?_escapePoint`); the units of characters are put together to the characters again (`ofUnits_flatMap`).  The
digits of an integer are read back as the integer where no character follows that would go on with a number
(`scalar_ofInt`).
-/
namespace SshConfig

/-- The code points are those of a text: each of them is a character, and no half of a surrogate pair. -/
def CodePoints.IsText (ns : CodePoints) : Prop :=
  ∀ n ∈ ns, n.isValidChar

instance (ns : CodePoints) : Decidable ns.IsText :=
  inferInstanceAs (Decidable (∀ n ∈ ns, n.isValidChar))

theorem Text.isText_codePoints (t : Text) : t.codePoints.IsText := by
  intro n hn
  obtain ⟨c, -, rfl⟩ := List.mem_map.1 hn
  exact c.valid

namespace Json

/-! ## Strings -/

theorem hexDigit?_digitChar : ∀ {d : Nat}, d < 16 → Text.hexDigit? (Nat.digitChar d) = some d := by
  decide

theorem hexadecimal_four (n : Nat) : Text.hexadecimal 4 n = [Nat.digitChar (n / 4096 % 16),
    Nat.digitChar (n / 256 % 16), Nat.digitChar (n / 16 % 16), Nat.digitChar (n / 1 % 16)] := rfl

/-- **The escape of a unit is read as the unit.** -/
theorem units?_unitEscape {n : Nat} (hn : n < 0x10000) {t : Text} {r : List Nat × Text} (ht : units? t = some r) :
    units? (unitEscape n ++ t) = some (n :: r.1, r.2) := by
  have hlt : ∀ m, m % 16 < 16 := fun m => Nat.mod_lt m (by decide)
  have hunit : unit? (Nat.digitChar (n / 4096 % 16)) (Nat.digitChar (n / 256 % 16)) (Nat.digitChar (n / 16 % 16))
      (Nat.digitChar (n / 1 % 16)) = some n := by
    simp only [unit?, hexDigit?_digitChar (hlt _), Option.pure_def, Option.bind_eq_bind, Option.bind_some,
      Option.some.injEq]
    omega
  have hescape : unitEscape n ++ t = '\\' :: 'u' :: Nat.digitChar (n / 4096 % 16) :: Nat.digitChar (n / 256 % 16) ::
      Nat.digitChar (n / 16 % 16) :: Nat.digitChar (n / 1 % 16) :: t := by
    rw [unitEscape, hexadecimal_four]
    rfl
  rw [hescape, units?, hunit, ht]
  rfl

theorem toNat_ofNat {n : Nat} (hn : n.isValidChar) : (Char.ofNat n).toNat = n := by
  rw [Char.ofNat, dif_pos hn]
  rfl

/-- The UTF-16 units of a code point. -/
def unitsOf (n : Nat) : List Nat :=
  if n < 0x10000 then [n] else [0xD800 + (n - 0x10000) / 0x400, 0xDC00 + (n - 0x10000) % 0x400]

theorem units?_plain {c : Char} (hmark : c ≠ '"') (hback : c ≠ '\\') (hcontrol : 32 ≤ c.toNat) {t : Text}
    {r : List Nat × Text} (ht : units? t = some r) : units? (c :: t) = some (c.toNat :: r.1, r.2) := by
  unfold units?
  split
  · rename_i h; cases h
  · rename_i h; cases h; exact absurd rfl hmark
  · rename_i h; cases h; exact absurd rfl hback
  · rename_i h; cases h; exact absurd rfl hback
  · rename_i d s _ _ _ h
    cases h
    rw [if_neg (by simp [hback]; omega), ht]
    rfl

theorem units?_letter {c : Char} {m : Nat} (hc : escape? c = some m) (hu : c ≠ 'u') {t : Text} {r : List Nat × Text}
    (ht : units? t = some r) : units? ('\\' :: c :: t) = some (m :: r.1, r.2) := by
  unfold units?
  split
  · rename_i h; cases h
  · rename_i h; cases h
  · rename_i h; cases h; exact absurd rfl hu
  · rename_i h
    cases h
    rw [hc, ht]
    rfl
  · rename_i hnone h
    cases h
    exact absurd rfl (hnone c t rfl)

/-- **A code point of a string is read as its units, whatever follows.** -/
theorem units?_escapePoint {n : Nat} (hn : n.isValidChar) {t : Text} {r : List Nat × Text} (ht : units? t = some r) :
    units? (escapePoint n ++ t) = some (unitsOf n ++ r.1, r.2) := by
  unfold escapePoint
  split
  · subst n; exact units?_letter (c := '"') rfl (by decide) ht
  split
  · subst n; exact units?_letter (c := '\\') rfl (by decide) ht
  split
  · subst n; exact units?_letter (c := 'n') rfl (by decide) ht
  split
  · subst n; exact units?_letter (c := 'r') rfl (by decide) ht
  split
  · subst n; exact units?_letter (c := 't') rfl (by decide) ht
  split
  · subst n; exact units?_letter (c := 'b') rfl (by decide) ht
  split
  · subst n; exact units?_letter (c := 'f') rfl (by decide) ht
  split
  · rename_i hmark hback _ _ _ _ _ hplain
    simp only [Bool.and_eq_true, decide_eq_true_eq] at hplain
    have hself := toNat_ofNat hn
    have hne : ∀ m : Nat, m.isValidChar → n ≠ m → Char.ofNat n ≠ Char.ofNat m := fun m hm hnm h =>
      hnm (hself.symm.trans ((congrArg Char.toNat h).trans (toNat_ofNat hm)))
    have hunits : unitsOf n = [n] := if_pos (by omega)
    have hread := units?_plain (hne 34 (by decide) hmark) (hne 92 (by decide) hback) (by omega) ht
    rw [hself] at hread
    rw [hunits]
    exact hread
  split
  · rename_i hlow
    rw [unitsOf, if_pos hlow]
    exact units?_unitEscape hlow ht
  · rename_i hlow
    have hhigh : n < 0x110000 := by
      rcases hn with hn | ⟨-, hn⟩ <;> omega
    have hlast := units?_unitEscape (n := 0xDC00 + (n - 0x10000) % 0x400) (by omega) ht
    have hfirst := units?_unitEscape (n := 0xD800 + (n - 0x10000) / 0x400) (by omega) hlast
    rw [unitsOf, if_neg hlow, List.append_assoc]
    exact hfirst

/-- **A string is read as the units of its code points.** -/
theorem units?_escapePoints (t : Text) : ∀ {ns : CodePoints}, ns.IsText →
    units? (ns.flatMap escapePoint ++ '"' :: t) = some (ns.flatMap unitsOf, t)
  | [], _ => rfl
  | n :: ns, h => by
    have hrest := units?_escapePoints t fun m hm => h m (List.mem_cons_of_mem n hm)
    rw [List.flatMap_cons, List.flatMap_cons, List.append_assoc]
    exact units?_escapePoint (h n List.mem_cons_self) hrest

theorem ofUnits_cons {n : Nat} (hn : n < 0xD800 ∨ 0xDFFF < n) (ns : List Nat) : ofUnits (n :: ns) = n :: ofUnits ns := by
  cases ns with
  | nil => rfl
  | cons m ns =>
    rw [ofUnits, if_neg]
    simp only [Bool.and_eq_true, decide_eq_true_eq]
    omega

/-- **The units of characters are put together to the characters.** -/
theorem ofUnits_flatMap : ∀ {ns : CodePoints}, ns.IsText → ofUnits (ns.flatMap unitsOf) = ns
  | [], _ => rfl
  | n :: ns, h => by
    have hns : CodePoints.IsText ns := fun m hm => h m (List.mem_cons_of_mem n hm)
    have hrest := ofUnits_flatMap hns
    have hn : n < 0xD800 ∨ 0xDFFF < n ∧ n < 0x110000 := h n List.mem_cons_self
    rw [List.flatMap_cons, unitsOf]
    by_cases hlow : n < 0x10000
    · rw [if_pos hlow, List.singleton_append, ofUnits_cons (by omega), hrest]
    · have hpair : 0x10000 + (0xD800 + (n - 0x10000) / 0x400 - 0xD800) * 0x400 +
          (0xDC00 + (n - 0x10000) % 0x400 - 0xDC00) = n := by omega
      rw [if_neg hlow, List.cons_append, List.singleton_append, ofUnits, if_pos, hrest, hpair]
      simp only [Bool.and_eq_true, decide_eq_true_eq]
      omega

/-! ## Integers -/

/-- What may come after a value: nothing that goes on with a number. -/
def Ends (t : Text) : Prop :=
  ∀ c ∈ t.head?, Text.isPlainDigit c = false ∧ c ≠ '.' ∧ c ≠ 'e' ∧ c ≠ 'E'

theorem isPlainDigit_of_isDigit {c : Char} (h : c.isDigit = true) : Text.isPlainDigit c = true := by
  obtain ⟨hfirst, hlast⟩ := Text.isDigit_iff_toNat.1 h
  unfold Text.isPlainDigit
  rw [Bool.and_eq_true, decide_eq_true_iff, decide_eq_true_iff]
  exact ⟨hfirst, hlast⟩

/-- **The digits of a number spell it.** -/
theorem plainValue_ofNat (n : Nat) : Text.plainValue (Text.ofNat n) = n := by
  induction n using Nat.strongRecOn with
  | _ n ih =>
    by_cases h : n < 10
    · have hdigits : Text.ofNat n = [Nat.digitChar n] := Nat.toDigits_of_lt_base h
      rw [hdigits, Text.plainValue, List.foldl_cons, List.foldl_nil, Nat.toNat_digitChar_of_lt_ten h]
      omega
    · have hlt : n % 10 < 10 := Nat.mod_lt n (by decide)
      have hrest := ih (n / 10) (by omega)
      rw [Text.plainValue] at hrest ⊢
      rw [Text.ofNat_of_ten_le (by omega), List.foldl_append, hrest, List.foldl_cons, List.foldl_nil,
        Nat.toNat_digitChar_of_lt_ten hlt]
      omega

/-- **Only zero starts with the digit zero.** -/
theorem eq_zero_of_ofNat {n : Nat} {t : Text} (h : Text.ofNat n = '0' :: t) : n = 0 := by
  induction n using Nat.strongRecOn generalizing t with
  | _ n ih =>
    by_cases hn : n < 10
    · have hdigits : Text.ofNat n = [Nat.digitChar n] := Nat.toDigits_of_lt_base hn
      rw [hdigits] at h
      have hvalue := congrArg Char.toNat (List.cons.inj h).1
      rw [Nat.toNat_digitChar_of_lt_ten hn] at hvalue
      have hzero : '0'.toNat = 48 := rfl
      omega
    · rw [Text.ofNat_of_ten_le (by omega)] at h
      obtain ⟨c, s, hs⟩ := List.exists_cons_of_ne_nil (Text.ofNat_ne_nil (n / 10))
      rw [hs, List.cons_append] at h
      have hc : c = '0' := (List.cons.inj h).1
      have := ih (n / 10) (by omega) (hc ▸ hs)
      omega

theorem fraction_of_ends {t : Text} (ht : Ends t) : fraction t = ([], t) := by
  unfold fraction
  split
  · exact absurd rfl (ht '.' rfl).2.1
  · rfl

theorem exponent_of_ends {t : Text} (ht : Ends t) : exponent t = (none, t) := by
  cases t with
  | nil => rfl
  | cons c t =>
    obtain ⟨-, -, he, hE⟩ := ht c rfl
    simp [exponent, he, hE]

/-- **A number is read as the number, if it has few enough digits and nothing goes on with it.** -/
theorem number_ofNat (negative : Bool) {n : Nat} (hn : Numeral.isWritable n = true) {t : Text} (ht : Ends t) :
    number negative (Text.ofNat n ++ t) = .ok (.int (if negative then -(n : Int) else n), t) := by
  have hdigits : ∀ c ∈ Text.ofNat n, Text.isPlainDigit c = true := fun c hc =>
    isPlainDigit_of_isDigit (Text.isDigit_of_mem_ofNat hc)
  have htake : (Text.ofNat n ++ t).takeWhile Text.isPlainDigit = Text.ofNat n := by
    rw [List.takeWhile_append_of_pos hdigits]
    cases t with
    | nil => rw [List.takeWhile_nil, List.append_nil]
    | cons c t => rw [List.takeWhile_cons_of_neg (by simp [(ht c rfl).1]), List.append_nil]
  unfold number
  extract_lets whole f e
  have hwhole : whole = Text.ofNat n := by
    simp only [whole]
    split
    · rename_i s hs
      obtain ⟨c, u, hu⟩ := List.exists_cons_of_ne_nil (Text.ofNat_ne_nil n)
      rw [hu, List.cons_append] at hs
      have hzero := eq_zero_of_ofNat ((List.cons.inj hs).1 ▸ hu)
      subst hzero
      rfl
    · exact htake
  have hf : f = ([], t) := by
    simp only [f]
    rw [hwhole, List.drop_left, fraction_of_ends ht]
  have he : e = (none, t) := by
    simp only [e]
    rw [hf, exponent_of_ends ht]
  have hlength := Numeral.isWritable_iff_length.1 hn
  rw [hwhole, hf, he, if_neg (by simpa using Text.ofNat_ne_nil n), if_pos (by rfl), if_neg (by omega), plainValue_ofNat]

theorem scalar_digit {c : Char} (hc : c.isDigit = true) (t : Text) : scalar (c :: t) = number false (c :: t) := by
  unfold scalar
  split
  case h_9 => rfl
  all_goals
    rename_i h
    cases h
    exact absurd hc (by decide)

theorem scalar_minus {c : Char} (hc : c.isDigit = true) (t : Text) :
    scalar ('-' :: c :: t) = number true (c :: t) := by
  unfold scalar
  split
  case h_6 =>
    rename_i h
    cases h
    exact absurd hc (by decide)
  case h_8 =>
    rename_i h
    cases h
    rfl
  case h_9 =>
    rename_i hnone
    exact absurd rfl (hnone (c :: t))
  all_goals
    rename_i h
    cases h

/-- **An integer is read as the integer, if it has few enough digits and nothing goes on with it.** -/
theorem scalar_ofInt {i : Int} (hi : Numeral.isWritable i = true) {t : Text} (ht : Ends t) :
    scalar (Text.ofInt i ++ t) = .ok (.int i, t) := by
  have hhead : ∀ n, ∃ c s, Text.ofNat n = c :: s ∧ c.isDigit = true := fun n => by
    obtain ⟨c, s, hs⟩ := List.exists_cons_of_ne_nil (Text.ofNat_ne_nil n)
    exact ⟨c, s, hs, Text.isDigit_of_mem_ofNat (hs ▸ List.mem_cons_self)⟩
  cases i with
  | ofNat n =>
    have hread := number_ofNat false (n := n) hi ht
    obtain ⟨c, s, hs, hc⟩ := hhead n
    rw [hs] at hread
    rw [Text.ofInt, hs, List.cons_append, scalar_digit hc]
    exact hread
  | negSucc n =>
    have hread := number_ofNat true (n := n + 1) hi ht
    obtain ⟨c, s, hs, hc⟩ := hhead (n + 1)
    rw [hs] at hread
    rw [Text.ofInt, hs, List.cons_append, List.cons_append, scalar_minus hc]
    exact hread

end Json
end SshConfig
