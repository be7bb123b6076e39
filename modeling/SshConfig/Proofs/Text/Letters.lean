import SshConfig.Proofs.Text.Case
import SshConfig.Proofs.Text.Trim
/-!
# Letters — texts that differ in the case of ASCII letters

Two such texts (`SameLetters`) have the same characters but for their letters, so what looks at no letter finds the same
in both (`SameLetters.takeWhile`, `SameLetters.trim`), and they are one text in lower case (`SameLetters.lower_eq`).
With the same text after them, trimming leaves the same of that (`exists_trim_append`).
-/
namespace SshConfig
namespace Text

/-- The texts differ in the case of ASCII letters at most. -/
def SameLetters (s t : Text) : Prop :=
  s.map Char.toLower = t.map Char.toLower

instance (s t : Text) : Decidable (SameLetters s t) :=
  inferInstanceAs (Decidable (s.map Char.toLower = t.map Char.toLower))

/-- The code points of the ASCII capitals. -/
def capitalPoints : List Nat :=
  List.range' 65 26

/-- **What does not tell a capital from its small letter** does not look at the case of ASCII letters at all. -/
theorem apply_toLower {α : Type} {f : Char → α}
    (hf : ∀ n ∈ capitalPoints, f (Char.ofNat n).toLower = f (Char.ofNat n)) (c : Char) : f c.toLower = f c := by
  by_cases hc : c.toNat ∈ capitalPoints
  · have h := hf _ hc
    rwa [Char.ofNat_toNat] at h
  · have hlower : c.toLower = c := by
      unfold Char.toLower
      split
      · rename_i h
        obtain ⟨hfirst, hlast⟩ := h
        rw [ge_iff_le, UInt32.le_iff_toNat_le] at hfirst
        rw [UInt32.le_iff_toNat_le] at hlast
        exact absurd (List.mem_range'_1.2 ⟨hfirst, Nat.lt_succ_of_le hlast⟩) hc
      · rfl
    rw [hlower]

/-- **A character that is no ASCII letter** is the small form of no other. -/
theorem toLower_eq_iff {c : Char} (hc : ∀ n ∈ capitalPoints, (Char.ofNat n).toLower ≠ c ∧ Char.ofNat n ≠ c) (d : Char) :
    d.toLower = c ↔ d = c := by
  refine decide_eq_decide.1 (apply_toLower (f := fun d => decide (d = c)) (fun n hn => ?_) d)
  rw [decide_eq_false (hc n hn).1, decide_eq_false (hc n hn).2]

theorem isBlank_toLower (c : Char) : isBlank c.toLower = isBlank c :=
  apply_toLower (by decide) c

theorem lowerChar_toLower (c : Char) : lowerChar c.toLower = lowerChar c :=
  apply_toLower (by decide) c

/-- Case ignores no ASCII letter, and all of them are cased. -/
theorem inRanges_toLower (c : Char) : inRanges caseIgnored c.toLower = inRanges caseIgnored c ∧
    inRanges casedLetters c.toLower = inRanges casedLetters c :=
  ⟨apply_toLower (by decide +kernel) c, apply_toLower (by decide +kernel) c⟩

theorem sigma_toLower (c : Char) : c.toLower.toNat = 0x3A3 ↔ c.toNat = 0x3A3 :=
  decide_eq_decide.1 (apply_toLower (f := fun c => decide (c.toNat = 0x3A3)) (by decide) c)

namespace SameLetters

variable {s t u v : Text}

theorem refl (t : Text) : SameLetters t t := rfl

theorem symm (h : SameLetters s t) : SameLetters t s := Eq.symm h

theorem trans (h : SameLetters s t) (h' : SameLetters t u) : SameLetters s u := Eq.trans h h'

theorem append (h : SameLetters s t) (h' : SameLetters u v) : SameLetters (s ++ u) (t ++ v) := by
  unfold SameLetters at h h' ⊢
  rw [List.map_append, List.map_append, h, h']

theorem isEmpty_eq (h : SameLetters s t) : s.isEmpty = t.isEmpty := by
  rw [← List.isEmpty_map (f := Char.toLower), h, List.isEmpty_map]

theorem head?_eq_iff (h : SameLetters s t) {c : Char} (hc : ∀ d : Char, d.toLower = c ↔ d = c) :
    s.head? = some c ↔ t.head? = some c := by
  have hsome : ∀ t : Text, t.head? = some c ↔ (t.map Char.toLower).head? = some c := by
    intro t
    simp [hc]
  rw [hsome s, hsome t, h]

section
variable {p : Char → Bool} (hp : ∀ c, p c.toLower = p c)
include hp

theorem takeWhile (h : SameLetters s t) : SameLetters (s.takeWhile p) (t.takeWhile p) := by
  have hcomp : p ∘ Char.toLower = p := funext hp
  have hmap : ∀ t : Text, (t.takeWhile p).map Char.toLower = (t.map Char.toLower).takeWhile p := by
    intro t
    rw [List.takeWhile_map, hcomp]
  unfold SameLetters
  rw [hmap, hmap, h]

theorem dropWhile (h : SameLetters s t) : SameLetters (s.dropWhile p) (t.dropWhile p) := by
  have hcomp : p ∘ Char.toLower = p := funext hp
  have hmap : ∀ t : Text, (t.dropWhile p).map Char.toLower = (t.map Char.toLower).dropWhile p := by
    intro t
    rw [List.dropWhile_map, hcomp]
  unfold SameLetters
  rw [hmap, hmap, h]

theorem forall_iff (h : SameLetters s t) {b : Bool} : (∀ c ∈ s, p c = b) ↔ ∀ c ∈ t, p c = b := by
  have hmap : ∀ t : Text, (∀ c ∈ t, p c = b) ↔ ∀ c ∈ t.map Char.toLower, p c = b := by
    intro t
    simp only [List.forall_mem_map, hp]
  rw [hmap s, hmap t, h]

end

theorem reverse (h : SameLetters s t) : SameLetters s.reverse t.reverse := by
  unfold SameLetters at h ⊢
  rw [List.map_reverse, List.map_reverse, h]

theorem trimEnd (h : SameLetters s t) : SameLetters (trimEnd s) (trimEnd t) :=
  (h.reverse.dropWhile isBlank_toLower).reverse

theorem trimStart (h : SameLetters s t) : SameLetters (trimStart s) (trimStart t) :=
  h.dropWhile isBlank_toLower

theorem trim (h : SameLetters s t) : SameLetters (trim s) (trim t) :=
  h.trimStart.trimEnd

theorem meetsCased_eq (h : SameLetters s t) : meetsCased s = meetsCased t := by
  have hrest := h.dropWhile fun c => (inRanges_toLower c).1
  unfold meetsCased
  cases hs : s.dropWhile (inRanges caseIgnored) with
  | nil =>
    rw [hs] at hrest
    rw [List.map_eq_nil_iff.1 (Eq.symm hrest)]
  | cons c rest =>
    rw [hs] at hrest
    obtain ⟨d, rest', ht, hd, -⟩ := List.map_eq_cons_iff.1 (Eq.symm hrest)
    rw [ht]
    change inRanges casedLetters c = inRanges casedLetters d
    rw [← (inRanges_toLower c).2, ← hd, (inRanges_toLower d).2]

theorem lowerAfter_eq : ∀ {s t before before' : Text}, SameLetters before before' → SameLetters s t →
    lowerAfter before s = lowerAfter before' t
  | [], [], _, _, _, _ => rfl
  | [], _ :: _, _, _, _, h => by cases h
  | _ :: _, [], _, _, _, h => by cases h
  | c :: s, d :: t, before, before', hbefore, h => by
    obtain ⟨hcd, hrest⟩ : c.toLower = d.toLower ∧ SameLetters s t := List.cons.inj h
    have hnext : SameLetters (c :: before) (d :: before') := by
      unfold SameLetters at hbefore ⊢
      rw [List.map_cons, List.map_cons, hcd, hbefore]
    have hsigma : c.toNat = 0x3A3 ↔ d.toNat = 0x3A3 := by rw [← sigma_toLower c, hcd, sigma_toLower d]
    have hword : endsWord before s = endsWord before' t := by
      unfold endsWord
      rw [hbefore.meetsCased_eq, hrest.meetsCased_eq]
    have hchar : lowerChar c = lowerChar d := by rw [← lowerChar_toLower c, hcd, lowerChar_toLower d]
    rw [lowerAfter, lowerAfter, lowerAfter_eq hnext hrest, hword, hchar]
    simp only [hsigma]

/-- **In lower case they are one text.** -/
theorem lower_eq (h : SameLetters s t) : lower s = lower t :=
  lowerAfter_eq (refl []) h

end SameLetters

/-! ## What follows the letters -/

/-- **Trimming leaves what starts in one part and ends in another as the rest of both.**  Texts with the same letters,
and the same text after them, differ in the rest of the first part only. -/
theorem exists_trim_append {s t : Text} (h : SameLetters s t) (rest : Text) :
    ∃ key key' tail, trim (s ++ rest) = key ++ tail ∧ trim (t ++ rest) = key' ++ tail ∧ SameLetters key key' ∧
      (∀ c ∈ key, c ∈ s) ∧ ∀ c ∈ key', c ∈ t := by
  by_cases hrest : ∀ c ∈ rest, isBlank c = true
  · exact ⟨trim s, trim t, [], by rw [trim_append_blank s hrest, List.append_nil],
      by rw [trim_append_blank t hrest, List.append_nil], h.trim, fun c hc => mem_of_mem_trim hc,
      fun c hc => mem_of_mem_trim hc⟩
  have hend : ∀ s : Text, ¬ (∀ c ∈ s, isBlank c = true) → trim (s ++ rest) = trimStart s ++ trimEnd rest := by
    intro s hs
    have hstart : trimStart (s ++ rest) = trimStart s ++ rest := by
      unfold trimStart
      rw [List.dropWhile_append, if_neg]
      simpa [List.dropWhile_eq_nil_iff] using hs
    unfold trim
    rw [hstart]
    exact dropEnd_append_of_exists _ hrest
  by_cases hs : ∀ c ∈ s, isBlank c = true
  · have ht := (h.forall_iff isBlank_toLower).1 hs
    have hstart : ∀ {s : Text}, (∀ c ∈ s, isBlank c = true) → trim (s ++ rest) = trim rest := by
      intro s hs
      unfold trim
      rw [trimStart_append_of_blank hs]
    exact ⟨[], [], trim rest, hstart hs, hstart ht, .refl [], by simp, by simp⟩
  · have ht : ¬ ∀ c ∈ t, isBlank c = true := fun ht => hs ((h.forall_iff isBlank_toLower).2 ht)
    exact ⟨trimStart s, trimStart t, trimEnd rest, hend s hs, hend t ht, h.trimStart,
      fun c hc => (List.dropWhile_sublist _).subset hc, fun c hc => (List.dropWhile_sublist _).subset hc⟩

theorem cutAt_append {c : Char} : ∀ {s : Text}, c ∉ s → ∀ t : Text,
    cutAt c (s ++ t) = (cutAt c t).map fun p => (s ++ p.1, p.2)
  | [], _, t => by
    rw [List.nil_append]
    cases cutAt c t <;> rfl
  | d :: s, hs, t => by
    have hd : d ≠ c := fun e => hs (e ▸ List.mem_cons_self)
    rw [List.cons_append, cutAt, if_neg hd, cutAt_append (fun hm => hs (List.mem_cons_of_mem d hm))]
    cases cutAt c t <;> rfl

theorem SameLetters.cutAt {c : Char} (hc : ∀ d : Char, d.toLower = c ↔ d = c) : ∀ {s t : Text}, SameLetters s t →
    (Text.cutAt c s = none ∧ Text.cutAt c t = none) ∨
      ∃ p q, Text.cutAt c s = some p ∧ Text.cutAt c t = some q ∧ SameLetters p.1 q.1
  | [], [], _ => .inl ⟨rfl, rfl⟩
  | [], _ :: _, h => by cases h
  | _ :: _, [], h => by cases h
  | d :: s, e :: t, h => by
    obtain ⟨hde, hrest⟩ : d.toLower = e.toLower ∧ SameLetters s t := List.cons.inj h
    have hends : d = c ↔ e = c := by rw [← hc d, hde, hc e]
    unfold Text.cutAt
    by_cases hd : d = c
    · rw [if_pos hd, if_pos (hends.1 hd)]
      exact .inr ⟨_, _, rfl, rfl, .refl []⟩
    rw [if_neg hd, if_neg (fun he => hd (hends.2 he))]
    obtain ⟨hs, ht⟩ | ⟨p, q, hs, ht, hpq⟩ := SameLetters.cutAt hc hrest
    · exact .inl ⟨by rw [hs]; rfl, by rw [ht]; rfl⟩
    · refine .inr ⟨(d :: p.1, p.2), (e :: q.1, q.2), by rw [hs]; rfl, by rw [ht]; rfl, ?_⟩
      unfold SameLetters at hpq ⊢
      rw [List.map_cons, List.map_cons, hde, hpq]

end Text
end SshConfig
