import SshConfig.Proofs.Text.Trim
/-!
# Pieces — lines and words, put together and cut again

Lines that hold no line feed, each ended by one, are cut into the same lines again (`lines_flatMap_end`), and words that
hold no blank, with single blanks between them, into the same words (`words_join`).
-/
namespace SshConfig
namespace Text

theorem pieces_eq_splitOnP (sep : Char → Bool) : ∀ t : Text, pieces sep t = t.splitOnP sep
  | [] => rfl
  | c :: t => by
    have ih := pieces_eq_splitOnP sep t
    obtain ⟨p, ps, hp⟩ := List.exists_cons_of_ne_nil (List.splitOnP_ne_nil sep t)
    rw [List.splitOnP_cons_eq_if_modifyHead, pieces, ih, hp]
    rfl

theorem pieces_append_cons {sep : Char → Bool} {p : Text} (hp : ∀ c ∈ p, sep c = false) {d : Char} (hd : sep d = true)
    (t : Text) : pieces sep (p ++ d :: t) = p :: pieces sep t := by
  rw [pieces_eq_splitOnP, pieces_eq_splitOnP]
  exact List.splitOnP_append_cons_of_forall_mem hp d hd t

theorem pieces_append_sep {sep : Char → Bool} {d : Char} (hd : sep d = true) (s t : Text) :
    pieces sep (s ++ d :: t) = pieces sep s ++ pieces sep t := by
  simp only [pieces_eq_splitOnP]
  exact List.splitOnP_append_cons s t hd

theorem pieces_of_none {sep : Char → Bool} {p : Text} (hp : ∀ c ∈ p, sep c = false) : pieces sep p = [p] := by
  rw [pieces_eq_splitOnP]
  exact List.splitOnP_eq_singleton hp

theorem eq_false_of_mem_pieces {sep : Char → Bool} : ∀ {t p : Text}, p ∈ pieces sep t → ∀ c ∈ p, sep c = false
  | [], p, hp, c, hc => by
    rw [List.mem_singleton.1 hp] at hc
    cases hc
  | d :: t, p, hp, c, hc => by
    rw [pieces] at hp
    split at hp
    · rcases List.mem_cons.1 hp with rfl | hp
      · cases hc
      · exact eq_false_of_mem_pieces hp c hc
    · rename_i hd
      have hd : sep d = false := by simpa using hd
      split at hp
      · rw [List.mem_singleton.1 hp, List.mem_singleton] at hc
        rw [hc, hd]
      · rename_i q qs hq
        rcases List.mem_cons.1 hp with rfl | hp
        · rcases List.mem_cons.1 hc with rfl | hc
          · exact hd
          · exact eq_false_of_mem_pieces (hq ▸ List.mem_cons_self) c hc
        · exact eq_false_of_mem_pieces (hq ▸ List.mem_cons_of_mem q hp) c hc

/-! ## A single cut -/

theorem cutAt_of_not_mem {c : Char} : ∀ {t : Text}, c ∉ t → cutAt c t = none
  | [], _ => rfl
  | d :: t, h => by
    have hd : d ≠ c := fun e => h (e ▸ List.mem_cons_self)
    rw [cutAt, if_neg hd, cutAt_of_not_mem (fun hm => h (List.mem_cons_of_mem d hm))]
    rfl

theorem cutAt_append_cons {c : Char} : ∀ {p : Text}, c ∉ p → ∀ t : Text, cutAt c (p ++ c :: t) = some (p, t)
  | [], _, t => by rw [List.nil_append, cutAt, if_pos rfl]
  | d :: p, h, t => by
    have hd : d ≠ c := fun e => h (e ▸ List.mem_cons_self)
    rw [List.cons_append, cutAt, if_neg hd, cutAt_append_cons (fun hm => h (List.mem_cons_of_mem d hm))]
    rfl

/-! ## Lines -/

theorem pieces_flatMap_end : ∀ {ls : List Text}, (∀ l ∈ ls, '\n' ∉ l) →
    pieces (· == '\n') (ls.flatMap (· ++ ['\n'])) = ls ++ [[]]
  | [], _ => rfl
  | l :: ls, h => by
    have hl : ∀ c ∈ l, (c == '\n') = false := by
      intro c hc
      have hne : c ≠ '\n' := fun e => h l List.mem_cons_self (e ▸ hc)
      simpa using hne
    rw [List.flatMap_cons, List.append_assoc, List.singleton_append, pieces_append_cons hl (by rfl),
      pieces_flatMap_end (fun l' hl' => h l' (List.mem_cons_of_mem l hl'))]
    rfl

/-- **Lines that are each ended by a line feed, and hold none, are the lines of their text.** -/
theorem lines_flatMap_end {ls : List Text} (h : ∀ l ∈ ls, '\n' ∉ l) : lines (ls.flatMap (· ++ ['\n'])) = ls := by
  unfold lines endedPieces
  rw [pieces_flatMap_end h, List.reverse_append]
  simp

/-- **No line of a text holds a line feed.** -/
theorem not_mem_of_mem_lines {t l : Text} (h : l ∈ lines t) : '\n' ∉ l := by
  have hp : l ∈ pieces (· == '\n') t := by
    unfold lines endedPieces at h
    split at h
    · rename_i ps hps
      have hmem : l ∈ (pieces (· == '\n') t).reverse := hps ▸ List.mem_cons_of_mem _ (List.mem_reverse.1 h)
      exact List.mem_reverse.1 hmem
    · rwa [List.reverse_reverse] at h
  intro hc
  have := eq_false_of_mem_pieces hp '\n' hc
  simp at this

/-! ## Joined texts -/

theorem join_cons_cons (d : Char) (w v : Text) (ws : List Text) :
    join [d] (w :: v :: ws) = w ++ d :: join [d] (v :: ws) := by
  unfold join
  rw [List.intercalate_cons_cons, List.append_assoc, List.singleton_append]

theorem join_singleton (d : Char) (w : Text) : join [d] [w] = w := List.intercalate_singleton

theorem eq_or_mem_of_mem_join : ∀ {ws : List Text} {d c : Char}, c ∈ join [d] ws → c = d ∨ ∃ w ∈ ws, c ∈ w
  | [], d, c, hc => by cases hc
  | [w], d, c, hc => by
    rw [join_singleton] at hc
    exact .inr ⟨w, List.mem_cons_self, hc⟩
  | w :: v :: ws, d, c, hc => by
    rw [join_cons_cons, List.mem_append, List.mem_cons] at hc
    rcases hc with hc | hc | hc
    · exact .inr ⟨w, List.mem_cons_self, hc⟩
    · exact .inl hc
    · rcases eq_or_mem_of_mem_join hc with h | ⟨u, hu, hcu⟩
      · exact .inl h
      · exact .inr ⟨u, List.mem_cons_of_mem w hu, hcu⟩

/-! ## Rows -/

/-- **Only a last empty piece makes a difference to the pieces that separators end.** -/
theorem pieces_eq_endedPieces (sep : Char → Bool) (t : Text) :
    pieces sep t = endedPieces sep t ∨ pieces sep t = endedPieces sep t ++ [[]] := by
  unfold endedPieces
  split
  · rename_i ps hps
    refine .inr ?_
    rw [← List.reverse_reverse (pieces sep t), hps, List.reverse_cons]
  · exact .inl (List.reverse_reverse _).symm

theorem unifyBreaks_of_not_mem : ∀ {t : Text}, '\r' ∉ t → unifyBreaks t = t
  | [], _ => rfl
  | c :: t, h => by
    have hc : c ≠ '\r' := fun e => h (e ▸ List.mem_cons_self)
    have ht := unifyBreaks_of_not_mem (fun hm => h (List.mem_cons_of_mem c hm))
    unfold unifyBreaks
    split
    · cases ‹_ = ([] : Text)›
    · rename_i heq
      exact absurd (List.cons.inj heq).1 hc
    · rename_i heq
      obtain ⟨rfl, rfl⟩ := List.cons.inj heq
      rw [if_neg hc, ht]

theorem not_mem_unifyBreaks (t : Text) : '\r' ∉ unifyBreaks t := by
  fun_induction unifyBreaks t with
  | case1 => simp
  | case2 t ih => simpa using ih
  | case3 c t _ ih =>
    by_cases hc : c = '\r'
    · simpa [hc] using ih
    · simp [hc, ih, Ne.symm hc]

/-! ## Words -/

/-- **A word is not empty and holds no blank.** -/
def IsWord (w : Text) : Prop :=
  w ≠ [] ∧ ∀ c ∈ w, isBlank c = false

instance (w : Text) : Decidable (IsWord w) :=
  decidable_of_iff ((!w.isEmpty && w.all (!isBlank ·)) = true) (by simp [IsWord])

theorem isWord_of_mem_words {t w : Text} (h : w ∈ words t) : IsWord w := by
  obtain ⟨hp, hne⟩ := List.mem_filter.1 h
  exact ⟨by rintro rfl; simp at hne, eq_false_of_mem_pieces hp⟩

theorem words_append_blank {w : Text} (hw : IsWord w) {d : Char} (hd : isBlank d = true) (t : Text) :
    words (w ++ d :: t) = w :: words t := by
  unfold words
  rw [pieces_append_cons hw.2 hd, List.filter_cons_of_pos]
  simpa using hw.1

/-- **Blanks ahead of a text add no word to it.** -/
theorem words_blanks_append : ∀ {b : Text}, (∀ c ∈ b, isBlank c = true) → ∀ t : Text, words (b ++ t) = words t
  | [], _, _ => rfl
  | c :: b, h, t => by
    obtain ⟨hc, hb⟩ := List.forall_mem_cons.1 h
    rw [← words_blanks_append hb t]
    unfold words
    rw [List.cons_append, pieces, if_pos hc, List.filter_cons_of_neg (by simp)]

theorem words_trimStart (t : Text) : words (trimStart t) = words t := by
  obtain ⟨b, ht, hb⟩ := exists_append_trimStart t
  conv => rhs; rw [ht]
  exact (words_blanks_append hb _).symm

theorem exists_words_cons {d : Char} (hd : isBlank d = false) (t : Text) :
    ∃ p ps, pieces isBlank (d :: t) = (d :: p) :: ps ∧ words (d :: t) = (d :: p) :: ps.filter (!·.isEmpty) := by
  have hpieces : ∃ p ps, pieces isBlank (d :: t) = (d :: p) :: ps := by
    rw [pieces, if_neg (by simp [hd])]
    cases pieces isBlank t with
    | nil => exact ⟨[], [], rfl⟩
    | cons p ps => exact ⟨p, ps, rfl⟩
  obtain ⟨p, ps, hp⟩ := hpieces
  refine ⟨p, ps, hp, ?_⟩
  unfold words
  rw [hp, List.filter_cons_of_pos (by simp)]

/-- **A text that starts with no blank starts with its first word.** -/
theorem head?_of_words {t w : Text} {ws : List Text} (ht : ∀ d ∈ t.head?, isBlank d = false)
    (hw : words t = w :: ws) : t.head? = w.head? := by
  cases t with
  | nil => cases hw
  | cons d t =>
    obtain ⟨p, ps, -, hwords⟩ := exists_words_cons (ht d rfl) t
    obtain ⟨rfl, -⟩ := List.cons.inj (hwords.symm.trans hw)
    rfl

/-- **A character right ahead of a word becomes the first of that word.** -/
theorem words_cons {c : Char} (hc : isBlank c = false) {t w : Text} {ws : List Text}
    (ht : ∀ d ∈ t.head?, isBlank d = false) (hw : words t = w :: ws) : words (c :: t) = (c :: w) :: ws := by
  cases t with
  | nil => cases hw
  | cons d t =>
    obtain ⟨p, ps, hp, hwords⟩ := exists_words_cons (ht d rfl) t
    obtain ⟨rfl, rfl⟩ := List.cons.inj (hwords.symm.trans hw)
    unfold words
    rw [pieces, if_neg (by simp [hc]), hp]
    exact List.filter_cons_of_pos (by simp)

/-- **Words with single blanks between them are the words of their text.** -/
theorem words_join : ∀ {ws : List Text}, (∀ w ∈ ws, IsWord w) → words (join [' '] ws) = ws
  | [], _ => rfl
  | [w], h => by
    have hw := h w List.mem_cons_self
    unfold words
    rw [join_singleton, pieces_of_none hw.2, List.filter_cons_of_pos (by simpa using hw.1)]
    rfl
  | w :: v :: ws, h => by
    rw [join_cons_cons, words_append_blank (h w List.mem_cons_self) (by rfl),
      words_join (fun u hu => h u (List.mem_cons_of_mem w hu))]

theorem head?_join : ∀ {ws : List Text}, (∀ w ∈ ws, IsWord w) → ∀ c ∈ (join [' '] ws).head?, isBlank c = false
  | [], _, c, hc => by cases hc
  | [w], h, c, hc => by
    rw [join_singleton] at hc
    exact (h w List.mem_cons_self).2 c (List.mem_of_mem_head? hc)
  | w :: v :: ws, h, c, hc => by
    obtain ⟨hne, hblank⟩ := h w List.mem_cons_self
    rw [join_cons_cons, List.head?_append_of_ne_nil _ hne] at hc
    exact hblank c (List.mem_of_mem_head? hc)

theorem getLast?_join : ∀ {ws : List Text}, (∀ w ∈ ws, IsWord w) → ∀ c ∈ (join [' '] ws).getLast?, isBlank c = false
  | [], _, c, hc => by cases hc
  | [w], h, c, hc => by
    rw [join_singleton] at hc
    exact (h w List.mem_cons_self).2 c (List.mem_of_mem_getLast? hc)
  | w :: v :: ws, h, c, hc => by
    rw [join_cons_cons, List.getLast?_append_of_ne_nil _ (List.cons_ne_nil _ _)] at hc
    cases hrest : join [' '] (v :: ws) with
    | nil =>
      have hv := (h v (List.mem_cons_of_mem w List.mem_cons_self)).1
      have hnil : v = [] := by
        cases ws with
        | nil => rwa [join_singleton] at hrest
        | cons u ws =>
          rw [join_cons_cons] at hrest
          simp at hrest
      exact absurd hnil hv
    | cons d t =>
      rw [hrest, List.getLast?_cons_cons, ← hrest] at hc
      exact getLast?_join (fun u hu => h u (List.mem_cons_of_mem w hu)) c hc

theorem trim_join {ws : List Text} (h : ∀ w ∈ ws, IsWord w) : trim (join [' '] ws) = join [' '] ws :=
  trim_eq_self_iff.2 ⟨head?_join h, getLast?_join h⟩

end Text
end SshConfig
