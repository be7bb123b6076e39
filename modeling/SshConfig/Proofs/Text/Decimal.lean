import Mathlib.Algebra.Ring.Nat
import SshConfig.Proofs.Text.Trim
/-!
# Decimal — the digits of a number read back

The decimal digits of a natural number are read as that number (`natural_ofNat`), as long as it has few enough of them,
and no numeral that is read stands for a number with more (`natural_lt`).
-/
namespace SshConfig
namespace Text

theorem isDigit_iff_toNat {c : Char} : c.isDigit = true ↔ 48 ≤ c.toNat ∧ c.toNat ≤ 57 := by
  unfold Char.isDigit
  rw [Bool.and_eq_true, decide_eq_true_iff, decide_eq_true_iff]
  exact Iff.rfl

theorem digitValue?_digitChar : ∀ {d : Nat}, d < 10 → digitValue? (Nat.digitChar d) = some d := by
  decide

theorem isDigit_of_isDigit {c : Char} (h : c.isDigit = true) : isDigit c = true := by
  obtain ⟨h1, h2⟩ := isDigit_iff_toNat.1 h
  have hlt : c.toNat < 128 := by omega
  simp [isDigit, digitValue?, hlt, h1, h2]

theorem isBlank_of_isDigit {c : Char} (h : c.isDigit = true) : isBlank c = false := by
  obtain ⟨h1, h2⟩ := isDigit_iff_toNat.1 h
  simp only [isBlank, Bool.or_eq_false_iff, Bool.and_eq_false_iff, decide_eq_false_iff_not, beq_eq_false_iff_ne]
  omega

theorem isDigit_of_mem_ofNat {n : Nat} {c : Char} (h : c ∈ ofNat n) : c.isDigit = true :=
  Nat.isDigit_of_mem_toDigits (by decide) (by decide) h

theorem ofNat_ne_nil (n : Nat) : ofNat n ≠ [] := Nat.toDigits_ne_nil

theorem trim_ofNat (n : Nat) : trim (ofNat n) = ofNat n :=
  trim_of_no_blank (fun _ hc => isBlank_of_isDigit (isDigit_of_mem_ofNat hc))

theorem ofNat_of_ten_le {n : Nat} (h : 10 ≤ n) : ofNat n = ofNat (n / 10) ++ [Nat.digitChar (n % 10)] :=
  Nat.toDigits_of_base_le (by decide) h

end Text

namespace Numeral

open Text

theorem valueFrom_nil (n : Nat) : valueFrom n [] = n := rfl

theorem valueFrom_cons (n : Nat) (c : Char) (t : Text) : valueFrom n (c :: t) =
    match digitValue? c with
    | some d => valueFrom (n * 10 + d) t
    | none => valueFrom n t := rfl

theorem valueFrom_append : ∀ (n : Nat) (s t : Text), valueFrom n (s ++ t) = valueFrom (valueFrom n s) t
  | _, [], _ => rfl
  | n, c :: s, t => by
    rw [List.cons_append, valueFrom_cons, valueFrom_cons]
    cases digitValue? c with
    | none => exact valueFrom_append n s t
    | some d => exact valueFrom_append (n * 10 + d) s t

/-- **The digits of a number spell it.** -/
theorem valueFrom_ofNat (n : Nat) : valueFrom 0 (ofNat n) = n := by
  induction n using Nat.strongRecOn with
  | _ n ih =>
    by_cases h : n < 10
    · have hdigits : ofNat n = [Nat.digitChar n] := Nat.toDigits_of_lt_base h
      rw [hdigits, valueFrom_cons, digitValue?_digitChar h]
      simp [valueFrom_nil]
    · have hlt : n % 10 < 10 := Nat.mod_lt n (by decide)
      rw [ofNat_of_ten_le (by omega), valueFrom_append, ih (n / 10) (by omega), valueFrom_cons,
        digitValue?_digitChar hlt]
      simp only [valueFrom_nil]
      omega

theorem digitValue?_lt {c : Char} {d : Nat} (h : digitValue? c = some d) : d < 10 := by
  unfold digitValue? at h
  split at h
  · split at h
    · rename_i hc
      simp only [Bool.and_eq_true, decide_eq_true_eq] at hc
      simp only [Option.some.injEq] at h
      omega
    · cases h
  · obtain ⟨z, hz, rfl⟩ := Option.map_eq_some_iff.1 h
    have := List.find?_some hz
    simp only [Bool.and_eq_true, decide_eq_true_eq] at this
    omega

theorem valueFrom_lt : ∀ (n : Nat) (t : Text), valueFrom n t < (n + 1) * 10 ^ (t.filter isDigit).length
  | n, [] => by simp [valueFrom_nil]
  | n, c :: t => by
    rw [valueFrom_cons]
    cases hc : digitValue? c with
    | none =>
      have hfilter : (c :: t).filter isDigit = t.filter isDigit := by simp [isDigit, hc]
      rw [hfilter]
      exact valueFrom_lt n t
    | some d =>
      have hfilter : (c :: t).filter isDigit = c :: t.filter isDigit := by simp [isDigit, hc]
      have hd := digitValue?_lt hc
      have hle : n * 10 + d + 1 ≤ (n + 1) * 10 := by omega
      rw [hfilter, List.length_cons]
      calc valueFrom (n * 10 + d) t
          < (n * 10 + d + 1) * 10 ^ (t.filter isDigit).length := valueFrom_lt _ t
        _ ≤ (n + 1) * 10 * 10 ^ (t.filter isDigit).length := Nat.mul_le_mul_right _ hle
        _ = (n + 1) * 10 ^ ((t.filter isDigit).length + 1) := by rw [Nat.pow_succ, Nat.mul_assoc, Nat.mul_comm 10]

theorem isWritable_iff {n : Nat} : isWritable n = true ↔ n < 10 ^ digitLimit := by
  unfold isWritable
  rw [decide_eq_true_iff, Nat.pow_eq, Int.natAbs_natCast]

theorem isWritable_iff_length {n : Nat} : isWritable n = true ↔ (ofNat n).length ≤ digitLimit := by
  have hpos : 0 < digitLimit := by decide
  unfold ofNat
  rw [isWritable_iff, Nat.length_toDigits_le_iff (by decide) hpos]

theorem spacedWell_of_no_underscore : ∀ {t : Text}, '_' ∉ t → spacedWell t = true
  | [], _ => rfl
  | c :: t, h => by
    have hc : c ≠ '_' := fun e => h (e ▸ List.mem_cons_self)
    have ht := spacedWell_of_no_underscore (fun hm => h (List.mem_cons_of_mem c hm))
    unfold spacedWell
    split <;> simp_all

/-- **The digits of a number, if they are few enough, are read as that number.** -/
theorem natural_ofNat {n : Nat} (h : isWritable n = true) : natural (ofNat n) = .ok n := by
  have hdigit : ∀ c ∈ ofNat n, Text.isDigit c = true := fun c hc => isDigit_of_isDigit (isDigit_of_mem_ofNat hc)
  have hbody : (ofNat n).takeWhile isBody = ofNat n :=
    List.takeWhile_eq_self_iff.2 (fun c hc => by simp [isBody, hdigit c hc])
  have hfilter : (ofNat n).filter Text.isDigit = ofNat n := List.filter_eq_self.2 hdigit
  have hunderscore : '_' ∉ ofNat n := Nat.underscore_not_in_toDigits
  have hhead : ((ofNat n).head? == some '_') = false := by
    rw [beq_eq_false_iff_ne]
    exact fun e => hunderscore (List.mem_of_mem_head? e)
  have hlen := isWritable_iff_length.1 h
  have hne : (ofNat n).length ≠ 0 := by simpa using ofNat_ne_nil n
  unfold natural
  simp only [hbody, hfilter, hhead, spacedWell_of_no_underscore hunderscore, valueFrom_ofNat]
  rw [if_neg (by simp), if_neg (by omega), if_neg (by simpa using hne)]

theorem natural_lt {t : Text} {n : Nat} (h : natural t = .ok n) : isWritable n = true := by
  unfold natural at h
  simp only at h
  split at h
  · cases h
  split at h
  · cases h
  rename_i hcount
  split at h
  · cases h
  cases h
  rw [isWritable_iff]
  calc valueFrom 0 (t.takeWhile isBody)
      < (0 + 1) * 10 ^ ((t.takeWhile isBody).filter Text.isDigit).length := valueFrom_lt 0 _
    _ = 10 ^ ((t.takeWhile isBody).filter Text.isDigit).length := by rw [Nat.zero_add, Nat.one_mul]
    _ ≤ 10 ^ digitLimit := Nat.pow_le_pow_right (by decide) (by omega)

theorem integer_ofNat {n : Nat} (h : isWritable n = true) : integer (ofNat n) = .ok n := by
  have hdigit : ∀ c ∈ ofNat n, c.isDigit = true := fun c hc => isDigit_of_mem_ofNat hc
  unfold integer
  split
  · rename_i t ht
    exact absurd (hdigit '-' (ht ▸ List.mem_cons_self)) (by decide)
  · rename_i t ht
    exact absurd (hdigit '+' (ht ▸ List.mem_cons_self)) (by decide)
  · rw [natural_ofNat h]
    rfl

theorem exists_natural_of_integer {t : Text} {i : Int} (h : integer t = .ok i) :
    ∃ s n, natural s = .ok n ∧ (i = n ∨ i = -(n : Int)) := by
  have hread : ∀ (s : Text) (f : Int → Int),
      Except.map f (do let n ← natural s; pure (n : Int)) = .ok i → ∃ n : Nat, natural s = .ok n ∧ f n = i := by
    intro s f hs
    cases hn : natural s with
    | error fault => rw [hn] at hs; cases hs
    | ok n => rw [hn] at hs; exact ⟨n, rfl, Except.ok.inj hs⟩
  unfold integer at h
  split at h
  · obtain ⟨n, hn, hi⟩ := hread _ _ h
    exact ⟨_, n, hn, .inr hi.symm⟩
  · obtain ⟨n, hn, hi⟩ := hread _ _ h
    exact ⟨_, n, hn, .inl hi.symm⟩
  · obtain ⟨n, hn, hi⟩ := hread _ _ h
    exact ⟨_, n, hn, .inl hi.symm⟩

/-- **An integer that is read has few enough digits.** -/
theorem integer_lt {t : Text} {n : Nat} (h : integer t = .ok n) : isWritable n = true := by
  obtain ⟨s, m, hm, hn⟩ := exists_natural_of_integer h
  have hmn : m = n := by omega
  exact hmn ▸ natural_lt hm

end Numeral
end SshConfig
