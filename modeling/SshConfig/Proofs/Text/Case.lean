import SshConfig.Text.Blank
import SshConfig.Text.Case
/-!
# Case — what lower case keeps

Every character has at least one character in lower case, so no text gets shorter (`length_le_length_lower`).  A
character that is its own lower case, as every blank is (`lowerChar_of_isBlank`), stays in the text (`mem_lower`).
-/
namespace SshConfig
namespace Text

theorem lowerChar_ne_nil (c : Char) : lowerChar c ≠ [] := by
  unfold lowerChar
  split
  · exact List.cons_ne_nil _ _
  · split
    · exact List.cons_ne_nil _ _
    · split <;> exact List.cons_ne_nil _ _

theorem length_le_length_lowerAfter : ∀ (before t : Text), t.length ≤ (lowerAfter before t).length
  | _, [] => Nat.le_refl _
  | before, c :: t => by
    have ih := length_le_length_lowerAfter (c :: before) t
    have hpos := List.length_pos_iff.2 (lowerChar_ne_nil c)
    rw [lowerAfter, List.length_cons, List.length_append]
    split
    · rw [List.length_singleton]
      omega
    · omega

/-- **No text gets shorter in lower case.** -/
theorem length_le_length_lower (t : Text) : t.length ≤ (lower t).length :=
  length_le_length_lowerAfter [] t

/-! ## Characters without case -/

/-- The code points of the blanks. -/
def blankPoints : List Nat :=
  List.range' 9 5 ++ List.range' 28 5 ++ [0x85, 0xA0, 0x1680] ++ List.range' 0x2000 11 ++
    [0x2028, 0x2029, 0x202F, 0x205F, 0x3000]

theorem mem_blankPoints {c : Char} (h : isBlank c = true) : c.toNat ∈ blankPoints := by
  simp only [isBlank, Bool.or_eq_true, Bool.and_eq_true, decide_eq_true_eq, beq_iff_eq] at h
  simp only [blankPoints, List.mem_append, List.mem_range'_1, List.mem_cons, List.not_mem_nil, or_false]
  omega

/-- **A blank is its own lower case.** -/
theorem lowerChar_of_isBlank {c : Char} (h : isBlank c = true) : lowerChar c = [c] := by
  have hall : ∀ n ∈ blankPoints, lowerChar (Char.ofNat n) = [Char.ofNat n] := by decide +kernel
  have hc := hall _ (mem_blankPoints h)
  rwa [Char.ofNat_toNat] at hc

theorem mem_lowerAfter {c : Char} (hc : lowerChar c = [c]) (hsigma : c.toNat ≠ 0x3A3) :
    ∀ {before t : Text}, c ∈ t → c ∈ lowerAfter before t
  | before, d :: t, h => by
    rw [lowerAfter]
    rcases List.mem_cons.1 h with rfl | h
    · rw [if_neg hsigma, hc]
      exact List.mem_cons_self
    · exact List.mem_append_right _ (mem_lowerAfter hc hsigma h)

/-- **A character that is its own lower case stays in the text.** -/
theorem mem_lower {c : Char} (hc : lowerChar c = [c]) (hsigma : c.toNat ≠ 0x3A3) {t : Text} (h : c ∈ t) :
    c ∈ lower t :=
  mem_lowerAfter hc hsigma h

end Text
end SshConfig
