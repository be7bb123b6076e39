import SshConfig.Proofs.Text.Trim
/-!
# OptionLine — what one option line does to settings

Whether an option line is accepted, and what it sets, does not depend on the settings it is read into: they get the
line's own settings on top (`applyLine_eq`).  So inline options are accepted together when each of them is by itself,
and what they set is what they set one by one, laid one on top of the other (`ofOptions_cons_ok_iff`).
-/
namespace SshConfig

/-! ## The delimiter -/

/-- **A line is cut at its first delimiter.** -/
theorem splitLine_append {key : Text} (hkey : ∀ c ∈ key, isDelimiter c = false) {d : Char} (hd : isDelimiter d = true)
    (t : Text) : splitLine (key ++ d :: t) = some (Text.trim key, valueAfter d t) := by
  have hdrop : (key ++ d :: t).dropWhile (!isDelimiter ·) = d :: t := by
    rw [List.dropWhile_append_of_pos (fun c hc => by simp [hkey c hc]), List.dropWhile_cons_of_neg (by simp [hd])]
  have htake : (key ++ d :: t).takeWhile (!isDelimiter ·) = key := by
    rw [List.takeWhile_append_of_pos (fun c hc => by simp [hkey c hc]), List.takeWhile_cons_of_neg (by simp [hd]),
      List.append_nil]
  unfold splitLine
  rw [hdrop, htake]

theorem splitLine_eq_none_iff {t : Text} : splitLine t = none ↔ ∀ c ∈ t, isDelimiter c = false := by
  unfold splitLine
  split
  · rename_i h
    rw [List.dropWhile_eq_nil_iff] at h
    simpa using h
  · rename_i d rest h
    have hd : isDelimiter d = true := by
      have hfirst := List.head?_dropWhile_not (!isDelimiter ·) t
      rw [h] at hfirst
      simpa using hfirst
    have hmem : d ∈ t := List.dropWhile_subset _ (h ▸ List.mem_cons_self)
    simp only [reduceCtorEq, false_iff]
    intro hall
    rw [hall d hmem] at hd
    cases hd

theorem valueAfter_spec (d : Char) (t : Text) :
    Text.trim (valueAfter d t) = valueAfter d t ∧ ∀ c ∈ valueAfter d t, c ∈ t := by
  unfold valueAfter
  split
  · rename_i v h
    have htail : ∀ c ∈ '=' :: v, c ∈ t := fun c hc => Text.mem_of_mem_trim (h ▸ hc)
    split
    · exact ⟨h ▸ Text.trim_trim t, htail⟩
    · exact ⟨Text.trim_trim v, fun c hc => htail c (List.mem_cons_of_mem _ (Text.mem_of_mem_trim hc))⟩
  · exact ⟨Text.trim_trim t, fun c hc => Text.mem_of_mem_trim hc⟩

/-- **The value on a line is trimmed, and made of the line's characters.** -/
theorem splitLine_value {t key value : Text} (h : splitLine t = some (key, value)) :
    Text.trim value = value ∧ ∀ c ∈ value, c ∈ t := by
  unfold splitLine at h
  split at h
  · cases h
  · rename_i d rest hdrop
    simp only [Option.some.injEq, Prod.mk.injEq] at h
    obtain ⟨-, rfl⟩ := h
    obtain ⟨htrim, hmem⟩ := valueAfter_spec d rest
    refine ⟨htrim, fun c hc => ?_⟩
    exact List.dropWhile_subset _ (hdrop ▸ List.mem_cons_of_mem d (hmem c hc))

namespace Settings

/-! ## Merging -/

@[simp]
theorem merge_empty (s : Settings) : s.merge empty = s := by
  ext k : 1
  rw [get?_merge, get?_empty, Option.none_or]

@[simp]
theorem empty_merge (s : Settings) : empty.merge s = s := by
  ext k : 1
  rw [get?_merge, get?_empty, Option.or_none]

theorem merge_assoc (s t u : Settings) : (s.merge t).merge u = s.merge (t.merge u) := by
  ext k : 1
  rw [get?_merge, get?_merge, get?_merge, get?_merge, Option.or_assoc]

theorem set_eq_merge (s : Settings) (k : Keyword) (v : k.Value) : s.set k v = s.merge (empty.set k v) := by
  ext j : 1
  rw [get?_merge]
  by_cases h : k = j
  · subst h
    rw [get?_set_self, get?_set_self, Option.some_or]
  · rw [get?_set_of_ne _ _ h, get?_set_of_ne _ _ h, get?_empty, Option.none_or]

/-! ## One line -/

/-- **The option on a line can be read**: there is a delimiter, and if the key names an option, the value is one that
the option takes. -/
def Converts (t : Text) : Prop :=
  (∃ c ∈ t, isDelimiter c = true) ∧
    ∀ key value k, splitLine t = some (key, value) → Keyword.ofText? key = some k →
      ∃ v, k.kind.decode (.str value) = .ok v

theorem assign_eq (s : Settings) (key : Text) (value : Json) :
    s.assign key value = (empty.assign key value).map s.merge := by
  unfold assign
  cases Keyword.ofText? key with
  | none => rfl
  | some k =>
    cases hv : k.kind.decode value with
    | error fault => simp only [hv]; rfl
    | ok v => simp only [hv]; exact congrArg Except.ok (set_eq_merge s k v)

theorem apply_eq (s : Settings) (key : Text) (value : Json) :
    s.apply key value = (empty.apply key value).map s.merge := by
  unfold apply
  rw [assign_eq]
  cases empty.assign key value with
  | ok t => rfl
  | error fault =>
    cases fault with
    | unknownOption key => exact congrArg Except.ok (merge_empty s).symm
    | refused fault => rfl

/-- **A line sets the same options whatever is set before.** -/
theorem applyLine_eq (missing : Complaint) (s : Settings) (t : Text) :
    s.applyLine missing t = (empty.applyLine missing t).map s.merge := by
  unfold applyLine
  cases splitLine t with
  | none => rfl
  | some p => exact apply_eq s p.1 (.str p.2)

theorem applyLine_ok_congr {missing : Complaint} (other : Complaint) {s u : Settings} {t : Text}
    (h : s.applyLine missing t = .ok u) : s.applyLine other t = .ok u := by
  unfold applyLine at h ⊢
  cases hsplit : splitLine t with
  | none => rw [hsplit] at h; cases h
  | some p => rw [hsplit] at h; exact h

theorem apply_ok_iff {s u : Settings} {key : Text} {value : Json} : s.apply key value = .ok u ↔
    (Keyword.ofText? key = none ∧ u = s) ∨
      ∃ k v, Keyword.ofText? key = some k ∧ k.kind.decode value = .ok v ∧ u = s.set k v := by
  unfold apply assign
  cases Keyword.ofText? key with
  | none => simp [eq_comm]
  | some k =>
    cases hv : k.kind.decode value with
    | ok v =>
      simp [hv]
      exact eq_comm
    | error fault => simp [hv]

/-- **All that an accepted line can do**: nothing if its key names no option, or else set that option. -/
theorem applyLine_ok_iff {missing : Complaint} {s u : Settings} {t : Text} : s.applyLine missing t = .ok u ↔
    ∃ key value, splitLine t = some (key, value) ∧ ((Keyword.ofText? key = none ∧ u = s) ∨
      ∃ k v, Keyword.ofText? key = some k ∧ k.kind.decode (.str value) = .ok v ∧ u = s.set k v) := by
  unfold applyLine
  cases splitLine t with
  | none => simp
  | some p =>
    refine apply_ok_iff.trans ⟨fun h => ⟨p.1, p.2, rfl, h⟩, ?_⟩
    rintro ⟨key, value, hp, h⟩
    cases hp
    exact h

theorem exists_apply_iff {key : Text} {value : Json} : (∃ u, empty.apply key value = .ok u) ↔
    ∀ k, Keyword.ofText? key = some k → ∃ v, k.kind.decode value = .ok v := by
  simp only [apply_ok_iff]
  constructor
  · rintro ⟨u, ⟨hnone, -⟩ | ⟨j, v, hj, hv, -⟩⟩ k hk
    · cases hnone.symm.trans hk
    · cases hj.symm.trans hk
      exact ⟨v, hv⟩
  · intro h
    cases hk : Keyword.ofText? key with
    | none => exact ⟨empty, .inl ⟨rfl, rfl⟩⟩
    | some k =>
      obtain ⟨v, hv⟩ := h k hk
      exact ⟨empty.set k v, .inr ⟨k, v, rfl, hv, rfl⟩⟩

/-- **A line is accepted when the option on it can be read.** -/
theorem exists_applyLine_iff (missing : Complaint) {t : Text} :
    (∃ u, empty.applyLine missing t = .ok u) ↔ Converts t := by
  unfold applyLine Converts
  cases hsplit : splitLine t with
  | none =>
    refine iff_of_false (by simp) ?_
    rintro ⟨⟨c, hc, hd⟩, -⟩
    rw [splitLine_eq_none_iff.1 hsplit c hc] at hd
    cases hd
  | some p =>
    have hdelimiter : ∃ c ∈ t, isDelimiter c = true := by
      by_contra hnone
      have hall : ∀ c ∈ t, isDelimiter c = false := fun c hc => by
        by_contra hd
        exact hnone ⟨c, hc, by simpa using hd⟩
      rw [splitLine_eq_none_iff.2 hall] at hsplit
      cases hsplit
    rw [exists_apply_iff]
    constructor
    · intro h
      refine ⟨hdelimiter, fun key value k hp hk => ?_⟩
      cases hp
      exact h k hk
    · rintro ⟨-, h⟩ k hk
      exact h p.1 p.2 k rfl hk

/-! ## Inline options -/

theorem readOptions_cons_ok_iff {n : Nat} {s u : Settings} {option : Text} {rest : List Text} :
    readOptions n s (option :: rest) = .ok u ↔
      ∃ own, empty.applyLine .noOptionDelimiter (Text.trim option) = .ok own ∧
        readOptions (n + 1) (s.merge own) rest = .ok u := by
  rw [readOptions, applyLine_eq]
  cases empty.applyLine .noOptionDelimiter (Text.trim option) with
  | error cause => simp [Except.map]
  | ok own => simp [Except.map]

/-- **Inline options are read into settings by laying what they set on top**, wherever their count starts. -/
theorem readOptions_ok_iff : ∀ {options : List Text} {n : Nat} {s u : Settings},
    readOptions n s options = .ok u ↔ ∃ own, ofOptions options = .ok own ∧ u = s.merge own
  | [], n, s, u => by
    simp only [readOptions, ofOptions, Except.ok.injEq, exists_eq_left', merge_empty]
    exact eq_comm
  | option :: rest, n, s, u => by
    unfold ofOptions
    simp only [readOptions_cons_ok_iff, @readOptions_ok_iff rest, empty_merge]
    constructor
    · rintro ⟨own, hown, last, hlast, rfl⟩
      exact ⟨own.merge last, ⟨own, hown, last, hlast, rfl⟩, merge_assoc s own last⟩
    · rintro ⟨-, ⟨own, hown, last, hlast, rfl⟩, rfl⟩
      exact ⟨own, hown, last, hlast, (merge_assoc s own last).symm⟩

theorem ofOptions_nil : ofOptions [] = .ok empty := rfl

/-- **What inline options set is what the first sets, with what the others set on top.** -/
theorem ofOptions_cons_ok_iff {option : Text} {rest : List Text} {u : Settings} :
    ofOptions (option :: rest) = .ok u ↔
      ∃ own last, empty.applyLine .noOptionDelimiter (Text.trim option) = .ok own ∧ ofOptions rest = .ok last ∧
        u = own.merge last := by
  constructor
  · intro h
    obtain ⟨own, hown, h⟩ := readOptions_cons_ok_iff.1 h
    obtain ⟨last, hlast, rfl⟩ := readOptions_ok_iff.1 h
    exact ⟨own, last, hown, hlast, by rw [empty_merge]⟩
  · rintro ⟨own, last, hown, hlast, rfl⟩
    exact readOptions_cons_ok_iff.2 ⟨own, hown, readOptions_ok_iff.2 ⟨last, hlast, by rw [empty_merge]⟩⟩

end Settings
end SshConfig
