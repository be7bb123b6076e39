import SshConfig.Proofs.Settings.OptionLine
/-!
# KeyAndValue — where an option line is cut

An option line is cut at the first blank, tab or equals sign, and what stands after the cut may bring an equals sign of
its own only if the cut is not one (`splitLine_eq_some_iff`).  So an equals sign with gaps around it gives any value at
all, and a gap alone gives a value that does not start with an equals sign (`splitLine_key_and_value`).
-/
namespace SshConfig

/-- Blanks and tabs, and nothing else. -/
def IsGap (b : Text) : Prop :=
  ∀ c ∈ b, c = ' ' ∨ c = '\t'

instance (b : Text) : Decidable (IsGap b) :=
  decidable_of_iff (b.all (fun c => c == ' ' || c == '\t') = true) (by simp [IsGap])

theorem IsGap.isBlank {b : Text} (hb : IsGap b) : ∀ c ∈ b, Text.isBlank c = true := by
  intro c hc
  rcases hb c hc with rfl | rfl <;> rfl

theorem IsGap.isDelimiter {b : Text} (hb : IsGap b) : ∀ c ∈ b, isDelimiter c = true := by
  intro c hc
  rcases hb c hc with rfl | rfl <;> rfl

theorem IsGap.not_mem {b : Text} (hb : IsGap b) : '=' ∉ b := by
  intro hc
  rcases hb '=' hc with h | h <;> cases h

theorem IsGap.tail {c : Char} {b : Text} (hb : IsGap (c :: b)) : IsGap b :=
  fun d hd => hb d (List.mem_cons_of_mem c hd)

theorem IsGap.trim_append {b : Text} (hb : IsGap b) {t : Text} (ht : Text.trim t = t) : Text.trim (b ++ t) = t := by
  rw [Text.trim_blank_append hb.isBlank, ht]

/-! ## The cut -/

/-- **Where an option line is cut**: at its first blank, tab or equals sign. -/
theorem splitLine_eq_some_iff {t key value : Text} : splitLine t = some (key, value) ↔
    ∃ word d rest, t = word ++ d :: rest ∧ (∀ c ∈ word, isDelimiter c = false) ∧ isDelimiter d = true ∧
      key = Text.trim word ∧ value = valueAfter d rest := by
  constructor
  · intro h
    unfold splitLine at h
    split at h
    · cases h
    · rename_i d rest hdrop
      cases h
      have hfirst := List.head?_dropWhile_not (!isDelimiter ·) t
      rw [hdrop] at hfirst
      refine ⟨t.takeWhile (!isDelimiter ·), d, rest, ?_, fun c hc => ?_, by simpa using hfirst, rfl, rfl⟩
      · rw [← hdrop, List.takeWhile_append_dropWhile]
      · simpa using List.mem_takeWhile_imp hc
  · rintro ⟨word, d, rest, rfl, hword, hd, rfl, rfl⟩
    exact splitLine_append hword hd rest

theorem isDelimiter_eq_false_iff {c : Char} : isDelimiter c = false ↔ c ≠ ' ' ∧ c ≠ '\t' ∧ c ≠ '=' := by
  simp [isDelimiter, and_assoc]

theorem forall_isDelimiter_eq_false_iff {t : Text} :
    (∀ c ∈ t, isDelimiter c = false) ↔ ' ' ∉ t ∧ '\t' ∉ t ∧ '=' ∉ t := by
  have hnot : ∀ d : Char, (∀ c ∈ t, c ≠ d) ↔ d ∉ t := fun d =>
    ⟨fun h hmem => h d hmem rfl, fun h c hc heq => h (heq ▸ hc)⟩
  simp only [isDelimiter_eq_false_iff, forall₂_and, hnot]

/-! ## The value after the cut -/

theorem valueAfter_of_head? (d : Char) {s : Text} (h : (Text.trim s).head? ≠ some '=') :
    valueAfter d s = Text.trim s := by
  unfold valueAfter
  split
  · rename_i v hv
    rw [hv] at h
    exact absurd rfl h
  · rfl

theorem valueAfter_of_equals {d : Char} (hd : d ≠ '=') {s v : Text} (h : Text.trim s = '=' :: v) :
    valueAfter d s = Text.trim v := by
  unfold valueAfter
  rw [h]
  exact if_neg hd

/-- **After an equals sign any value stands for itself.** -/
theorem valueAfter_equals_sign {c v : Text} (hc : IsGap c) (hv : Text.trim v = v) : valueAfter '=' (c ++ v) = v := by
  have htrim := hc.trim_append hv
  unfold valueAfter
  rw [htrim]
  split
  · exact if_pos rfl
  · rfl

/-- **After a gap, an equals sign is taken off once.** -/
theorem valueAfter_gap_equals {d : Char} (hd : d ≠ '=') {b c v : Text} (hb : IsGap b) (hc : IsGap c)
    (hv : Text.trim v = v) : valueAfter d (b ++ '=' :: (c ++ v)) = v := by
  have htrim : Text.trim (b ++ '=' :: (c ++ v)) = '=' :: Text.trimEnd (c ++ v) := by
    rw [Text.trim_blank_append hb.isBlank, Text.trim_cons (by rfl)]
  rw [valueAfter_of_equals hd htrim, Text.trim_trimEnd, hc.trim_append hv]

/-- **After a gap a value stands for itself** unless it starts with an equals sign. -/
theorem valueAfter_gap (d : Char) {b v : Text} (hb : IsGap b) (hv : Text.trim v = v) (hhead : v.head? ≠ some '=') :
    valueAfter d (b ++ v) = v := by
  have htrim := hb.trim_append hv
  rw [valueAfter_of_head? d (by rw [htrim]; exact hhead), htrim]

/-- **A key before an equals sign with gaps around it** is given whatever stands after. -/
theorem splitLine_equals {key b c v : Text} (hkey : ∀ c ∈ key, isDelimiter c = false) (htrim : Text.trim key = key)
    (hb : IsGap b) (hc : IsGap c) (hv : Text.trim v = v) : splitLine (key ++ (b ++ '=' :: (c ++ v))) = some (key, v) := by
  cases b with
  | nil => rw [List.nil_append, splitLine_append hkey (by rfl), htrim, valueAfter_equals_sign hc hv]
  | cons d b =>
    have hd : d ≠ '=' := fun h => hb.not_mem (h ▸ List.mem_cons_self)
    rw [List.cons_append, splitLine_append hkey (hb.isDelimiter d List.mem_cons_self), htrim,
      valueAfter_gap_equals hd hb.tail hc hv]

/-- **A key before a gap** is given what stands after. -/
theorem splitLine_gap {key b v : Text} (hkey : ∀ c ∈ key, isDelimiter c = false) (htrim : Text.trim key = key)
    (hb : IsGap b) (hne : b ≠ []) (hv : Text.trim v = v) (hhead : v.head? ≠ some '=') :
    splitLine (key ++ (b ++ v)) = some (key, v) := by
  obtain ⟨d, b, rfl⟩ := List.exists_cons_of_ne_nil hne
  rw [List.cons_append, splitLine_append hkey (hb.isDelimiter d List.mem_cons_self), htrim,
    valueAfter_gap d hb.tail hv hhead]

/-- **What an option line gives has no delimiter in its key**, and both key and value are trimmed. -/
theorem splitLine_some_spec {t key v : Text} (h : splitLine t = some (key, v)) :
    (∀ c ∈ key, isDelimiter c = false) ∧ Text.trim key = key ∧ Text.trim v = v := by
  obtain ⟨word, d, rest, -, hword, -, rfl, rfl⟩ := splitLine_eq_some_iff.1 h
  exact ⟨fun c hc => hword c (Text.mem_of_mem_trim hc), Text.trim_trim word, (valueAfter_spec d rest).1⟩

/-- **The key and the value of an option line.**  A trimmed key without blanks, tabs and equals signs is given any
trimmed value by an equals sign with gaps around it, and by a gap alone any that does not start with an equals sign.  A
line has no key and value exactly if none of the three characters is in it, and the key that it has
holds none of them; key and value are trimmed. -/
theorem splitLine_key_and_value :
    (∀ key v b c : Text, ' ' ∉ key → '\t' ∉ key → '=' ∉ key → Text.trim key = key → Text.trim v = v →
      IsGap b → IsGap c →
        splitLine (key ++ (b ++ '=' :: (c ++ v))) = some (key, v) ∧
        (b ≠ [] → v.head? ≠ some '=' → splitLine (key ++ (b ++ v)) = some (key, v))) ∧
    (∀ t : Text, splitLine t = none ↔ ' ' ∉ t ∧ '\t' ∉ t ∧ '=' ∉ t) ∧
    ∀ t key v : Text, splitLine t = some (key, v) →
      (' ' ∉ key ∧ '\t' ∉ key ∧ '=' ∉ key) ∧ Text.trim key = key ∧ Text.trim v = v := by
  refine ⟨fun key v b c hblank htab hequals htrim hv hb hc => ?_, fun t => ?_, fun t key v h => ?_⟩
  · have hkey := forall_isDelimiter_eq_false_iff.2 ⟨hblank, htab, hequals⟩
    exact ⟨splitLine_equals hkey htrim hb hc hv, fun hne hhead => splitLine_gap hkey htrim hb hne hv hhead⟩
  · rw [splitLine_eq_none_iff, forall_isDelimiter_eq_false_iff]
  · obtain ⟨hkey, htrim, hv⟩ := splitLine_some_spec h
    exact ⟨forall_isDelimiter_eq_false_iff.1 hkey, htrim, hv⟩

/-- A key with gaps around its equals sign, whose value starts with another; and one with a tab alone. -/
theorem splitLine_key_and_value_of_port :
    splitLine "Port \t= =2 2" = some (("Port" : Text), ("=2 2" : Text)) ∧
      splitLine "Port\t22" = some (("Port" : Text), ("22" : Text)) ∧
      (' ' ∉ ("Port" : Text) ∧ '\t' ∉ ("Port" : Text) ∧ '=' ∉ ("Port" : Text)) := by
  obtain ⟨hgiven, -, hback⟩ := splitLine_key_and_value
  have hequals := (hgiven "Port" "=2 2" " \t" " " (by decide) (by decide) (by decide) (by decide) (by decide) (by decide)
    (by decide)).1
  have hgap := (hgiven "Port" "22" "\t" [] (by decide) (by decide) (by decide) (by decide) (by decide) (by decide)
    (by decide)).2 (by decide) (by decide)
  exact ⟨hequals, hgap, (hback _ _ _ hgap).1⟩

end SshConfig
