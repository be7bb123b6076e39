import SshConfig.Text.Utf8
/-!
# Utf8 — bytes that spell a text are read as that text

The bytes of a character are read as that character, whatever follows them (`decode_char_append`): the leading byte says
how many bytes there are and what the first of them may be, and each of them adds six bits.  So reading undoes writing
(`decode_encode`).
-/
namespace SshConfig
namespace Text

theorem toNat_ofNat {n : Nat} (h : n < 256) : (UInt8.ofNat n).toNat = n :=
  UInt8.toNat_ofNat_of_lt' h

/-! ## The bytes that follow -/

theorem follow_cons {bits low high count : Nat} {b : UInt8} (hlow : low ≤ b.toNat) (hhigh : b.toNat ≤ high)
    (bs : List UInt8) :
    follow bits low high (count + 1) (b :: bs) = follow (bits * 64 + (b.toNat - 0x80)) 0x80 0xBF count bs := by
  rw [follow, if_pos (by simp [hlow, hhigh])]

/-- **Six bits that may follow are added.** -/
theorem follow_six {bits low high count n : Nat} (hlow : low ≤ n % 64 + 128) (hhigh : n % 64 + 128 ≤ high)
    (bs : List UInt8) :
    follow bits low high (count + 1) (UInt8.ofNat (n % 64 + 128) :: bs) =
      follow (bits * 64 + n % 64) 0x80 0xBF count bs := by
  have hbyte : (UInt8.ofNat (n % 64 + 128)).toNat = n % 64 + 128 := toNat_ofNat (by omega)
  rw [follow_cons (by omega) (by omega), hbyte, Nat.add_sub_cancel]

/-! ## The leading byte -/

theorem leads?_two {v : Nat} (hlow : 0x80 ≤ v) (hhigh : v ≤ 0x7FF) :
    leads? (UInt8.ofNat (v / 64 % 32 + 192)) = some (1, 0x80, 0xBF, v / 64) := by
  have hbyte : (UInt8.ofNat (v / 64 % 32 + 192)).toNat = v / 64 + 192 := by
    rw [toNat_ofNat (by omega)]
    omega
  unfold leads?
  simp only [hbyte, Bool.and_eq_true, decide_eq_true_eq]
  rw [if_pos (by omega), Nat.add_sub_cancel]

/-- **The leading byte of three** keeps out what two bytes spell, and the halves of surrogate pairs. -/
theorem leads?_three {v : Nat} (hlow : 0x800 ≤ v) (hhigh : v ≤ 0xFFFF) (hvalid : v < 0xD800 ∨ 0xDFFF < v) :
    ∃ low high, leads? (UInt8.ofNat (v / 4096 % 16 + 224)) = some (2, low, high, v / 4096) ∧
      low ≤ v / 64 % 64 + 128 ∧ v / 64 % 64 + 128 ≤ high := by
  have hbyte : (UInt8.ofNat (v / 4096 % 16 + 224)).toNat = v / 4096 + 224 := by
    rw [toNat_ofNat (by omega)]
    omega
  unfold leads?
  simp only [hbyte, Bool.and_eq_true, decide_eq_true_eq]
  rw [if_neg (by omega)]
  by_cases hfirst : v / 4096 + 224 = 0xE0
  · rw [if_pos hfirst]
    exact ⟨0xA0, 0xBF, by simp; omega, by omega, by omega⟩
  rw [if_neg hfirst]
  by_cases hhalves : v / 4096 + 224 = 0xED
  · rw [if_pos hhalves]
    exact ⟨0x80, 0x9F, by simp; omega, by omega, by omega⟩
  rw [if_neg hhalves, if_pos (by omega)]
  exact ⟨0x80, 0xBF, by simp, by omega, by omega⟩

/-- **The leading byte of four** keeps out what three bytes spell, and what no character is. -/
theorem leads?_four {v : Nat} (hlow : 0xFFFF < v) (hhigh : v < 0x110000) :
    ∃ low high, leads? (UInt8.ofNat (v / 262144 % 8 + 240)) = some (3, low, high, v / 262144) ∧
      low ≤ v / 4096 % 64 + 128 ∧ v / 4096 % 64 + 128 ≤ high := by
  have hbyte : (UInt8.ofNat (v / 262144 % 8 + 240)).toNat = v / 262144 + 240 := by
    rw [toNat_ofNat (by omega)]
    omega
  unfold leads?
  simp only [hbyte, Bool.and_eq_true, decide_eq_true_eq]
  rw [if_neg (by omega), if_neg (by omega), if_neg (by omega), if_neg (by omega)]
  by_cases hfirst : v / 262144 + 240 = 0xF0
  · rw [if_pos hfirst]
    exact ⟨0x90, 0xBF, by simp; omega, by omega, by omega⟩
  rw [if_neg hfirst]
  by_cases hlast : v / 262144 + 240 = 0xF4
  · rw [if_pos hlast]
    exact ⟨0x80, 0x8F, by simp; omega, by omega, by omega⟩
  rw [if_neg hlast, if_pos (by omega)]
  exact ⟨0x80, 0xBF, by simp, by omega, by omega⟩

/-! ## Characters -/

theorem decode_cons_of_leads {b : UInt8} {count low high bits : Nat} (hb : 0x80 ≤ b.toNat)
    (hleads : leads? b = some (count, low, high, bits)) (bs : List UInt8) :
    decode (b :: bs) = (follow bits low high count bs).1 :: decode (follow bits low high count bs).2 := by
  rw [decode, if_neg (by omega), hleads]

/-- **The bytes of a character are read as that character**, whatever follows them. -/
theorem decode_char_append (c : Char) (bs : List UInt8) : decode (String.utf8EncodeChar c ++ bs) = c :: decode bs := by
  have hvalid : c.toNat < 0xD800 ∨ 0xDFFF < c.toNat ∧ c.toNat < 0x110000 := c.valid
  have hself : Char.ofNat c.toNat = c := Char.ofNat_toNat c
  unfold String.utf8EncodeChar
  rw [Char.toNat_val]
  dsimp only
  generalize c.toNat = v at hvalid hself
  split
  · have hbyte : (UInt8.ofNat v).toNat = v := toNat_ofNat (by omega)
    rw [List.singleton_append, decode, hbyte, if_pos (by omega), hself]
  have hlead : ∀ n, n < 64 → 0x80 ≤ (UInt8.ofNat (n + 192)).toNat := by
    intro n hn
    rw [toNat_ofNat (by omega)]
    omega
  split
  · have hbits : v / 64 * 64 + v % 64 = v := by omega
    have hfirst : 0x80 ≤ (UInt8.ofNat (v / 64 % 32 + 192)).toNat := hlead _ (by omega)
    simp only [List.cons_append, List.nil_append]
    rw [decode_cons_of_leads hfirst (leads?_two (by omega) (by omega)), follow_six (by omega) (by omega), hbits, follow,
      hself]
  split
  · obtain ⟨low, high, hleads, hlow, hhigh⟩ := leads?_three (v := v) (by omega) (by omega) (by omega)
    have hbits : (v / 4096 * 64 + v / 64 % 64) * 64 + v % 64 = v := by omega
    have hfirst : 0x80 ≤ (UInt8.ofNat (v / 4096 % 16 + 224)).toNat := hlead (v / 4096 % 16 + 32) (by omega)
    simp only [List.cons_append, List.nil_append]
    rw [decode_cons_of_leads hfirst hleads, follow_six hlow hhigh, follow_six (by omega) (by omega), hbits, follow,
      hself]
  · obtain ⟨low, high, hleads, hlow, hhigh⟩ := leads?_four (v := v) (by omega) (by omega)
    have hbits : ((v / 262144 * 64 + v / 4096 % 64) * 64 + v / 64 % 64) * 64 + v % 64 = v := by omega
    have hfirst : 0x80 ≤ (UInt8.ofNat (v / 262144 % 8 + 240)).toNat := hlead (v / 262144 % 8 + 48) (by omega)
    simp only [List.cons_append, List.nil_append]
    rw [decode_cons_of_leads hfirst hleads, follow_six hlow hhigh, follow_six (by omega) (by omega),
      follow_six (by omega) (by omega), hbits, follow, hself]

/-- **Reading undoes writing.** -/
theorem decode_encode : ∀ t : Text, decode (encode t) = t
  | [] => by rw [encode, List.flatMap_nil, decode]
  | c :: t => by
    have ih := decode_encode t
    unfold encode at ih ⊢
    rw [List.flatMap_cons, decode_char_append, ih]

end Text
end SshConfig
