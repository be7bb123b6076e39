import Mathlib.Data.List.DropRight
import SshConfig.ConfigFile.Reader
/-!
# Trim — what trimming leaves

Trimming a text takes the blanks at its ends and nothing else (`trim_append_of_blank`), and a text is trimmed when
neither end is a blank (`trim_eq_self_iff`).  A line end is made of blanks, so a line is trimmed to the same text with
it and without it.
-/
namespace SshConfig
namespace Text

@[simp]
theorem trim_nil : trim [] = [] := rfl

theorem dropEnd_eq_rdropWhile (drop : Char → Bool) (t : Text) : dropEnd drop t = t.rdropWhile drop := rfl

theorem dropEnd_append_of_all {drop : Char → Bool} (t : Text) {e : Text} (he : ∀ c ∈ e, drop c = true) :
    dropEnd drop (t ++ e) = dropEnd drop t := by
  unfold dropEnd
  rw [List.reverse_append, List.dropWhile_append_of_pos (fun c hc => he c (List.mem_reverse.1 hc))]

theorem dropEnd_append_of_exists {drop : Char → Bool} (t : Text) {e : Text} (he : ¬ ∀ c ∈ e, drop c = true) :
    dropEnd drop (t ++ e) = t ++ dropEnd drop e := by
  have hrest : e.reverse.dropWhile drop ≠ [] := by
    intro h
    exact he fun c hc => List.dropWhile_eq_nil_iff.1 h c (List.mem_reverse.2 hc)
  unfold dropEnd
  rw [List.reverse_append, List.dropWhile_append, if_neg (by simpa using hrest), List.reverse_append,
    List.reverse_reverse]

theorem exists_dropEnd_append (drop : Char → Bool) (t : Text) :
    ∃ e, t = dropEnd drop t ++ e ∧ ∀ c ∈ e, drop c = true := by
  refine ⟨t.rtakeWhile drop, ?_, fun c hc => List.mem_rtakeWhile_imp hc⟩
  rw [dropEnd_eq_rdropWhile, List.rdropWhile_append_rtakeWhile]

theorem dropEnd_eq_self_iff {drop : Char → Bool} {t : Text} :
    dropEnd drop t = t ↔ ∀ c ∈ t.getLast?, drop c = false := by
  rw [dropEnd_eq_rdropWhile, List.rdropWhile_eq_self_iff]
  constructor
  · intro h c hc
    obtain ⟨hne, rfl⟩ := List.mem_getLast?_eq_getLast hc
    simpa using h hne
  · intro h hne
    simpa using h _ (List.getLast_mem_getLast? hne)

theorem dropEnd_dropEnd (drop : Char → Bool) (t : Text) : dropEnd drop (dropEnd drop t) = dropEnd drop t :=
  List.rdropWhile_idempotent drop t

theorem trimStart_append_of_blank {b : Text} (hb : ∀ c ∈ b, isBlank c = true) (t : Text) :
    trimStart (b ++ t) = trimStart t :=
  List.dropWhile_append_of_pos hb

theorem trimStart_eq_self_iff {t : Text} : trimStart t = t ↔ ∀ c ∈ t.head?, isBlank c = false := by
  cases t with
  | nil => simp [trimStart]
  | cons c t =>
    unfold trimStart
    rw [List.dropWhile_cons]
    constructor
    · intro h d hd
      simp only [List.head?_cons, Option.mem_def, Option.some.injEq] at hd
      subst hd
      by_cases hc : isBlank c = true
      · rw [if_pos hc] at h
        have := (List.dropWhile_sublist isBlank (l := t)).length_le
        rw [h, List.length_cons] at this
        omega
      · simpa using hc
    · intro h
      rw [if_neg (by simp [h c rfl])]

theorem exists_append_trimStart (t : Text) : ∃ b, t = b ++ trimStart t ∧ ∀ c ∈ b, isBlank c = true :=
  ⟨t.takeWhile isBlank, (List.takeWhile_append_dropWhile).symm, fun _ hc => List.mem_takeWhile_imp hc⟩

/-- **Blanks around a text do not count.** -/
theorem trim_append_of_blank {b e : Text} (hb : ∀ c ∈ b, isBlank c = true) (he : ∀ c ∈ e, isBlank c = true) (t : Text) :
    trim (b ++ (t ++ e)) = trim t := by
  unfold trim
  rw [trimStart_append_of_blank hb]
  by_cases ht : ∀ c ∈ t, isBlank c = true
  · have h1 : trimStart (t ++ e) = [] := by
      unfold trimStart
      rw [List.dropWhile_append_of_pos ht]
      exact List.dropWhile_eq_nil_iff.2 he
    have h2 : trimStart t = [] := List.dropWhile_eq_nil_iff.2 ht
    rw [h1, h2]
  · have h1 : trimStart (t ++ e) = trimStart t ++ e := by
      unfold trimStart
      rw [List.dropWhile_append, if_neg]
      simpa [List.dropWhile_eq_nil_iff] using ht
    rw [h1]
    exact dropEnd_append_of_all _ he

theorem trim_blank_append {b : Text} (hb : ∀ c ∈ b, isBlank c = true) (t : Text) : trim (b ++ t) = trim t := by
  have h := trim_append_of_blank hb (e := []) (by simp) t
  rwa [List.append_nil] at h

theorem trim_append_blank (t : Text) {e : Text} (he : ∀ c ∈ e, isBlank c = true) : trim (t ++ e) = trim t :=
  trim_append_of_blank (b := []) (by simp) he t

theorem exists_trim (t : Text) :
    ∃ b e, t = b ++ (trim t ++ e) ∧ (∀ c ∈ b, isBlank c = true) ∧ ∀ c ∈ e, isBlank c = true := by
  obtain ⟨b, hb, hblank⟩ := exists_append_trimStart t
  obtain ⟨e, he, heblank⟩ := exists_dropEnd_append isBlank (trimStart t)
  refine ⟨b, e, ?_, hblank, heblank⟩
  conv => lhs; rw [hb, he]
  rfl

/-- **A text is trimmed when neither its first nor its last character is a blank.** -/
theorem trim_eq_self_iff {t : Text} :
    trim t = t ↔ (∀ c ∈ t.head?, isBlank c = false) ∧ ∀ c ∈ t.getLast?, isBlank c = false := by
  constructor
  · intro h
    have hlen : t.length ≤ (trimStart t).length := by
      conv => lhs; rw [← h]
      exact (List.rdropWhile_prefix isBlank _).length_le
    have hs : trimStart t = t := (List.dropWhile_suffix isBlank).eq_of_length_le hlen
    refine ⟨trimStart_eq_self_iff.1 hs, dropEnd_eq_self_iff.1 ?_⟩
    unfold trim at h
    rw [hs] at h
    exact h
  · rintro ⟨h1, h2⟩
    unfold trim trimEnd
    rw [trimStart_eq_self_iff.2 h1, dropEnd_eq_self_iff.2 h2]

theorem trim_of_no_blank {t : Text} (h : ∀ c ∈ t, isBlank c = false) : trim t = t :=
  trim_eq_self_iff.2 ⟨fun c hc => h c (List.mem_of_mem_head? hc), fun c hc => h c (List.mem_of_mem_getLast? hc)⟩

theorem head?_trim (t : Text) : ∀ c ∈ (trim t).head?, isBlank c = false := by
  intro c hc
  have hpre : trim t <+: trimStart t := List.rdropWhile_prefix isBlank _
  have hs : (trimStart t).head? = some c := by
    obtain ⟨e, he⟩ := hpre
    rw [← he, List.head?_append, hc]
    rfl
  have hfirst := List.head?_dropWhile_not isBlank t
  unfold trimStart at hs
  rw [hs] at hfirst
  exact hfirst

theorem trim_trim (t : Text) : trim (trim t) = trim t := by
  refine trim_eq_self_iff.2 ⟨head?_trim t, dropEnd_eq_self_iff.1 ?_⟩
  exact dropEnd_dropEnd isBlank (trimStart t)

theorem mem_of_mem_trim {t : Text} {c : Char} (h : c ∈ trim t) : c ∈ t := by
  obtain ⟨b, e, ht, -, -⟩ := exists_trim t
  rw [ht]
  exact List.mem_append_right _ (List.mem_append_left _ h)

theorem trim_trimEnd (t : Text) : trim (trimEnd t) = trim t := by
  obtain ⟨e, ht, hblank⟩ := exists_dropEnd_append isBlank t
  calc trim (trimEnd t) = trim (trimEnd t ++ e) := (trim_append_blank _ hblank).symm
    _ = trim t := by rw [trimEnd, ← ht]

/-- **A text that does not start with a blank loses blanks at its end only.** -/
theorem trim_cons {c : Char} (hc : isBlank c = false) (t : Text) : trim (c :: t) = c :: trimEnd t := by
  have hstart : trimStart (c :: t) = [c] ++ t :=
    List.dropWhile_cons_of_neg (by simp [hc])
  unfold trim trimEnd
  rw [hstart]
  by_cases ht : ∀ d ∈ t, isBlank d = true
  · have hnone : dropEnd isBlank t = [] := by
      simpa [dropEnd] using dropEnd_append_of_all [] ht
    rw [dropEnd_append_of_all [c] ht, hnone, dropEnd_eq_self_iff.2 (by simpa using hc)]
  · exact dropEnd_append_of_exists [c] ht

end Text

namespace Line

/-- **A raw line and the line without its end are trimmed to the same text.** -/
theorem trim_strip (raw : Text) : Text.trim (strip raw) = Text.trim raw := by
  obtain ⟨e, hraw, he⟩ := Text.exists_dropEnd_append (fun c => c == '\r' || c == '\n') raw
  have hblank : ∀ c ∈ e, Text.isBlank c = true := by
    intro c hc
    have := he c hc
    simp only [Bool.or_eq_true, beq_iff_eq] at this
    rcases this with rfl | rfl <;> decide
  conv => rhs; rw [hraw]
  exact (Text.trim_append_blank _ hblank).symm

end Line
end SshConfig
