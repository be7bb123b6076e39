import SshConfig.Proofs.ConfigFile.Sections
import SshConfig.Proofs.ReadsOn
import SshConfig.Proofs.Settings.KeyAndValue
import SshConfig.Proofs.Text.Case
import SshConfig.Proofs.Text.Pieces
/-!
# Delimiter — what stands between a key and what it is given

A key is told from what it is given by a gap, or by an equals sign with gaps around it (`Delimits`).  An option line has
the same key and value whichever it is (`splitLine_delimited`).  A host line is cut at the first character of the
delimiter and takes all that follows for its globs (`Line.opens_append`), so that an equals sign after a gap counts
among them (`ConfigFile.spellings_of_host`).
-/
namespace SshConfig

/-- **What may stand between a key and what it is given**: a gap, or an equals sign with gaps around it. -/
inductive Delimits : Text → Prop where
  | gap {b : Text} (hb : IsGap b) (hne : b ≠ []) : Delimits b
  | equals {b c : Text} (hb : IsGap b) (hc : IsGap c) : Delimits (b ++ '=' :: c)

/-- If the delimiter has an equals sign, no gap stands before it. -/
def EqualsFirst (pre : Text) : Prop :=
  '=' ∈ pre → pre.head? = some '='

/-- **A word without an equals sign**, which no delimiter cuts. -/
structure IsKey (key : Text) : Prop where
  word : Text.IsWord key
  no_equals : '=' ∉ key

/-- **What a key can be given**: a text that is not empty, has no blank at either end, and does not start with an equals
sign. -/
structure IsGiven (t : Text) : Prop where
  trimmed : Text.trim t = t
  ne_nil : t ≠ []
  head_ne : t.head? ≠ some '='

/-- **The first character of a delimiter ends a key**, and a gap follows it unless an equals sign is still to come. -/
theorem Delimits.cases_first {pre : Text} (h : Delimits pre) :
    (EqualsFirst pre ∧ ∃ d b, pre = d :: b ∧ isDelimiter d = true ∧ IsGap b) ∨
      ¬ EqualsFirst pre ∧ ∃ d b c, pre = d :: b ++ '=' :: c ∧ IsGap (d :: b) ∧ IsGap c := by
  cases h with
  | gap hb hne =>
    obtain ⟨d, b, rfl⟩ := List.exists_cons_of_ne_nil hne
    exact .inl ⟨fun hmem => absurd hmem hb.not_mem, d, b, rfl, hb.isDelimiter d List.mem_cons_self, hb.tail⟩
  | @equals b c hb hc =>
    cases b with
    | nil => exact .inl ⟨fun _ => rfl, '=', c, rfl, rfl, hc⟩
    | cons d b =>
      refine .inr ⟨fun hfirst => ?_, d, b, c, rfl, hb, hc⟩
      have hd : d = '=' := Option.some.inj (hfirst (List.mem_append_right _ List.mem_cons_self))
      exact absurd (hd ▸ List.mem_cons_self) hb.not_mem

theorem Delimits.exists_cons {pre : Text} (h : Delimits pre) : ∃ d rest, pre = d :: rest ∧ isDelimiter d = true := by
  obtain ⟨-, d, b, rfl, hd, -⟩ | ⟨-, d, b, c, rfl, hb, -⟩ := h.cases_first
  · exact ⟨d, b, rfl, hd⟩
  · exact ⟨d, b ++ '=' :: c, rfl, hb.isDelimiter d List.mem_cons_self⟩

theorem Delimits.not_mem_feed {pre : Text} (h : Delimits pre) : '\n' ∉ pre := by
  have hgap : ∀ {b : Text}, IsGap b → '\n' ∉ b := fun hb hmem => absurd (hb '\n' hmem) (by decide)
  cases h with
  | gap hb => exact hgap hb
  | equals hb hc =>
    simp only [List.mem_append, List.mem_cons, not_or]
    exact ⟨hgap hb, by decide, hgap hc⟩

theorem eq_equals_of_not_blank {d : Char} (hd : isDelimiter d = true) (hblank : Text.isBlank d = false) : d = '=' := by
  simp only [isDelimiter, Bool.or_eq_true, beq_iff_eq] at hd
  rcases hd with (rfl | rfl) | rfl
  · cases hblank
  · cases hblank
  · rfl

theorem IsKey.isDelimiter {key : Text} (h : IsKey key) : ∀ c ∈ key, isDelimiter c = false := by
  intro c hc
  by_contra hd
  have heq := eq_equals_of_not_blank (by simpa using hd) (h.word.2 c hc)
  exact h.no_equals (heq ▸ hc)

theorem IsGiven.trim_append {s : Text} (hs : ∀ c ∈ s.head?, Text.isBlank c = false) (hne : s ≠ []) {t : Text}
    (ht : IsGiven t) : Text.trim (s ++ t) = s ++ t := by
  refine Text.trim_eq_self_iff.2 ⟨fun c hc => ?_, fun c hc => ?_⟩
  · rw [List.head?_append_of_ne_nil _ hne] at hc
    exact hs c hc
  · rw [List.getLast?_append_of_ne_nil _ ht.ne_nil] at hc
    exact (Text.trim_eq_self_iff.1 ht.trimmed).2 c hc

theorem IsKey.trim_append {key : Text} (hkey : IsKey key) (pre : Text) {t : Text} (ht : IsGiven t) :
    Text.trim (key ++ (pre ++ t)) = key ++ (pre ++ t) := by
  obtain ⟨c, key, rfl⟩ := List.exists_cons_of_ne_nil hkey.word.1
  have hc := hkey.word.2 c List.mem_cons_self
  rw [← List.append_assoc]
  exact ht.trim_append (by simpa using hc) (List.cons_ne_nil _ _)

/-! ## Option lines -/

/-- **An option line has the same key and value whichever delimiter it has.** -/
theorem splitLine_delimited {key : Text} (hkey : IsKey key) {t : Text} (ht : IsGiven t) {pre : Text}
    (hpre : Delimits pre) : splitLine (key ++ (pre ++ t)) = some (key, t) := by
  have htrim : Text.trim key = key := Text.trim_of_no_blank hkey.word.2
  cases hpre with
  | gap hb hne => exact splitLine_gap hkey.isDelimiter htrim hb hne ht.trimmed ht.head_ne
  | equals hb hc =>
    rw [List.append_assoc, List.cons_append]
    exact splitLine_equals hkey.isDelimiter htrim hb hc ht.trimmed

/-! ## Host lines -/

namespace Line

theorem not_mem_of_lower {w : Text} (hw : Text.lower w = hostWord) {c : Char} (hc : Text.lowerChar c = [c])
    (hsigma : c.toNat ≠ 0x3A3) (hnone : c ∉ hostWord) : c ∉ w :=
  fun h => hnone (hw ▸ Text.mem_lower hc hsigma h)

/-- **A line is a host line exactly if its key is the word for hosts**; all that follows the first character of the
delimiter are its patterns. -/
theorem hostPatterns?_append {key : Text} (hkey : IsKey key) {d : Char} (hd : isDelimiter d = true) (rest : Text) :
    hostPatterns? (key ++ d :: rest) =
      if Text.lower key = hostWord then some (if d = '=' then rest else Text.trimStart rest) else none := by
  have hnone := Text.cutAt_of_not_mem hkey.no_equals
  have htake : ∀ s : Text, (key ++ s).takeWhile (!Text.isBlank ·) = key ++ s.takeWhile (!Text.isBlank ·) := fun s =>
    List.takeWhile_append_of_pos (fun c hc => by simp [hkey.word.2 c hc])
  have hdrop : ∀ s : Text, (key ++ s).dropWhile (!Text.isBlank ·) = s.dropWhile (!Text.isBlank ·) := fun s =>
    List.dropWhile_append_of_pos (fun c hc => by simp [hkey.word.2 c hc])
  unfold hostPatterns? Text.headWord
  simp only [htake, hdrop]
  by_cases heq : d = '='
  · subst heq
    -- the first word of the line goes on with the equals sign, so it is not the word for hosts itself
    have hword : ∀ s : Text, Text.lower (key ++ '=' :: s) ≠ hostWord := fun s h =>
      not_mem_of_lower h (by rfl) (by decide) (by decide) (List.mem_append_right key (List.mem_cons_self (l := s)))
    rw [List.takeWhile_cons_of_pos (by rfl), if_neg (hword _), Text.cutAt_append_cons hkey.no_equals,
      Text.cutAt_append_cons hkey.no_equals, if_pos rfl]
    rfl
  · have hblank : Text.isBlank d = true := by
      by_contra h
      exact heq (eq_equals_of_not_blank hd (by simpa using h))
    rw [List.takeWhile_cons_of_neg (by simp [hblank]), List.dropWhile_cons_of_neg (by simp [hblank]), List.append_nil,
      hnone, if_neg heq]
    have hstart : Text.trimStart (d :: rest) = Text.trimStart rest :=
      Text.trimStart_append_of_blank (b := [d]) (by simpa using hblank) rest
    rw [hstart]

theorem isKey_of_lower {w : Text} (hw : Text.lower w = hostWord) : IsKey w := by
  refine ⟨⟨?_, fun c hc => ?_⟩, not_mem_of_lower hw (by rfl) (by decide) (by decide)⟩
  · rintro rfl
    cases hw
  · by_contra hblank
    have hblank : Text.isBlank c = true := by simpa using hblank
    have hsigma : c.toNat ≠ 0x3A3 := by
      intro h
      simp [Text.isBlank, h] at hblank
    have hnone : hostWord.any Text.isBlank = false := by decide
    refine not_mem_of_lower hw (Text.lowerChar_of_isBlank hblank) hsigma (fun hmem => ?_) hc
    exact Bool.false_ne_true (hnone.symm.trans (List.any_eq_true.2 ⟨c, hmem, hblank⟩))

theorem head?_ne_of_lower {w : Text} (hw : Text.lower w = hostWord) : w.head? ≠ some '#' := fun h =>
  not_mem_of_lower hw (c := '#') (by rfl) (by decide) (by decide) (List.mem_of_mem_head? h)

section
variable {indent key t : Text}

theorem trim_indented (hindent : IsGap indent) (hkey : IsKey key) (pre : Text) (ht : IsGiven t) :
    Text.trim (indent ++ (key ++ (pre ++ t))) = key ++ (pre ++ t) :=
  hindent.trim_append (hkey.trim_append pre ht)

theorem isSignificant_indented (hindent : IsGap indent) (hkey : IsKey key) (pre : Text) (ht : IsGiven t) :
    isSignificant (indent ++ (key ++ (pre ++ t))) = (key.head? != some '#') := by
  obtain ⟨c, key, rfl⟩ := List.exists_cons_of_ne_nil hkey.word.1
  unfold isSignificant
  rw [trim_indented hindent hkey pre ht]
  rfl

theorem isIndented_append (hindent : IsGap indent) (hkey : IsKey key) (s : Text) :
    isIndented (indent ++ (key ++ s)) = !indent.isEmpty := by
  cases indent with
  | nil =>
    obtain ⟨c, key, rfl⟩ := List.exists_cons_of_ne_nil hkey.word.1
    have hc := hkey.isDelimiter c List.mem_cons_self
    simp only [isDelimiter, Bool.or_eq_false_iff, beq_eq_false_iff_ne] at hc
    simp [isIndented, hc.1.1, hc.1.2]
  | cons d indent =>
    rcases hindent d List.mem_cons_self with rfl | rfl <;> rfl

end

/-- **The line opens a section with the globs wherever it stands**: whatever has been read, it is accepted. -/
def Opens (line : Text) (globs : List Text) : Prop :=
  ∀ (p : ConfigFile.Progress) (n : Nat),
    p.step n (ofText (strip line)) = .ok ⟨p.globals, ⟨globs, Settings.empty, n⟩ :: p.recent⟩

/-- **A host line opens a section with the words after the first character of its delimiter.** -/
theorem opens_append {w : Text} (hw : Text.lower w = hostWord) {d : Char} (hd : isDelimiter d = true) (pre : Text)
    {t : Text} {globs : List Text} (ht : IsGiven t) (hwords : Text.words (pre ++ t) = globs) (hne : globs ≠ []) :
    Opens (w ++ (d :: pre ++ t)) globs := by
  have hkey := isKey_of_lower hw
  have hgap : IsGap [] := fun c hc => by cases hc
  have htrim : Text.trim (w ++ (d :: pre ++ t)) = w ++ (d :: pre ++ t) := hkey.trim_append (d :: pre) ht
  have hsignificant : isSignificant (w ++ (d :: pre ++ t)) = true := by
    refine (isSignificant_indented hgap hkey (d :: pre) ht).trans ?_
    simpa using head?_ne_of_lower hw
  have hindented : isIndented (w ++ (d :: pre ++ t)) = false := isIndented_append hgap hkey (d :: pre ++ t)
  have hpatterns : hostPatterns? (w ++ (d :: pre ++ t)) =
      some (if d = '=' then pre ++ t else Text.trimStart (pre ++ t)) := by
    rw [List.cons_append, hostPatterns?_append hkey hd, if_pos hw]
  have hhost : isHost (w ++ (d :: pre ++ t)) = true := by
    unfold isHost
    rw [hsignificant, hindented, htrim, hpatterns]
    rfl
  have htokens : hostTokens (w ++ (d :: pre ++ t)) = globs := by
    unfold hostTokens
    rw [htrim, hpatterns, Option.getD_some]
    split
    · exact hwords
    · rw [Text.words_trimStart, hwords]
  intro p n
  rw [ConfigFile.Progress.step_eq, hsignificant, if_neg Bool.false_ne_true.symm, if_pos hhost, htokens, if_neg hne]

theorem Opens.unique {line : Text} {globs others : List Text} (h : Opens line globs) (h' : Opens line others) :
    globs = others := by
  have hsame := (h {} 0).symm.trans (h' {} 0)
  simpa using hsame

end Line

namespace ConfigFile

open Line (Opens)

theorem Progress.readOn_opens {line : Text} {globs : List Text} (h : Opens line globs) (source : Text) (p : Progress)
    (n : Nat) (rest : List Text) : p.readOn source n (line :: rest) =
      (⟨p.globals, ⟨globs, Settings.empty, n⟩ :: p.recent⟩ : Progress).readOn source (n + 1) rest := by
  rw [readOn, h p n]

/-- **Lines that open the same section may stand for one another.** -/
theorem ofLines_opens_congr {line other : Text} {globs : List Text} (h : Opens line globs) (h' : Opens other globs)
    (source : Text) (before after : List Text) :
    ofLines source (before ++ line :: after) = ofLines source (before ++ other :: after) := by
  unfold ofLines
  rw [(Progress.readsOn_lines source).append, (Progress.readsOn_lines source).append]
  simp only [Progress.readOn_opens h, Progress.readOn_opens h']

/-- **The section that a line opens is an entry of the source.** -/
theorem exists_entry_of_opens {line : Text} {globs : List Text} (h : Opens line globs) {source : Text}
    {before after : List Text} {f : ConfigFile} (hf : ofLines source (before ++ line :: after) = .ok f) :
    ∃ e ∈ f.entries, e.globs = globs ∧ e.lineno = before.length + 1 := by
  obtain ⟨q, hq, rfl⟩ := ofLines_ok_iff.1 hf
  rw [(Progress.readsOn_lines source).append] at hq
  obtain ⟨p, -, hq⟩ := exists_of_bind_ok hq
  rw [Progress.readOn_opens h] at hq
  obtain ⟨own, entries, -, -, rfl⟩ := Progress.readOn_cut source after _ q _ hq
  refine ⟨⟨globs, Settings.empty.merge own, 1 + before.length⟩, ?_, rfl, Nat.add_comm 1 before.length⟩
  simp [Progress.file, Progress.lay]

/-- **An option line does the same whichever delimiter it has**, as long as its key is not the word for hosts. -/
theorem Progress.step_delimited {indent key t : Text} (hindent : IsGap indent) (hkey : IsKey key)
    (hword : Text.lower key ≠ Line.hostWord) (ht : IsGiven t) {pre : Text} (hpre : Delimits pre) (p : Progress)
    (n : Nat) :
    p.step n (Line.ofText (Line.strip (indent ++ (key ++ (pre ++ t))))) =
      if key.head? = some '#' then .ok p
      else if (!indent.isEmpty) = p.opened then (Settings.empty.apply key (.str t)).map p.lay
      else .error (if p.opened then .stray else .indentation) := by
  have hhost : Line.isHost (indent ++ (key ++ (pre ++ t))) = false := by
    obtain ⟨d, rest, rfl, hd⟩ := hpre.exists_cons
    unfold Line.isHost
    rw [Line.trim_indented hindent hkey _ ht, List.cons_append, Line.hostPatterns?_append hkey hd, if_neg hword]
    exact Bool.and_false _
  have hline : Settings.empty.applyLine .noDelimiter (key ++ (pre ++ t)) = Settings.empty.apply key (.str t) := by
    unfold Settings.applyLine
    rw [splitLine_delimited hkey ht hpre]
  rw [step_eq, hhost, Line.isSignificant_indented hindent hkey pre ht, Line.isIndented_append hindent hkey,
    Line.trim_indented hindent hkey pre ht, hline, if_neg Bool.false_ne_true]
  by_cases hcomment : key.head? = some '#'
  · rw [if_pos hcomment, if_pos (by simp [hcomment])]
  · rw [if_neg hcomment, if_neg (by simpa using hcomment)]

/-! ## The spellings -/

theorem isGiven_of_words {t g : Text} {gs : List Text} (ht : Text.trim t = t) (hwords : Text.words t = g :: gs)
    (hg : g.head? ≠ some '=') : IsGiven t := by
  refine ⟨ht, ?_, ?_⟩
  · rintro rfl
    cases hwords
  · rw [Text.head?_of_words (Text.trim_eq_self_iff.1 ht).1 hwords]
    exact hg

section
variable {w t g : Text} {gs : List Text}

/-- **A gap, or an equals sign that comes first, opens a section with the globs of the text.** -/
theorem opens_of_equalsFirst (hw : Text.lower w = Line.hostWord) (ht : IsGiven t) (hwords : Text.words t = g :: gs)
    {pre : Text} (hpre : Delimits pre) (hfirst : EqualsFirst pre) : Opens (w ++ (pre ++ t)) (g :: gs) := by
  obtain ⟨-, d, b, rfl, hd, hb⟩ | ⟨hlate, -⟩ := hpre.cases_first
  · have hglobs : Text.words (b ++ t) = g :: gs := (Text.words_blanks_append hb.isBlank t).trans hwords
    exact Line.opens_append hw hd b ht hglobs (List.cons_ne_nil g gs)
  · exact absurd hfirst hlate

/-- **An equals sign after a gap counts among the globs**: it is stuck to the first, or is one of its own if a gap
follows it. -/
theorem opens_of_late_equals (hw : Text.lower w = Line.hostWord) (ht : IsGiven t) (hwords : Text.words t = g :: gs)
    {b c : Text} (hb : IsGap b) (hne : b ≠ []) (hc : IsGap c) :
    Opens (w ++ (b ++ '=' :: c ++ t)) (if c.isEmpty then ('=' :: g) :: gs else ['='] :: g :: gs) := by
  obtain ⟨d, b, rfl⟩ := List.exists_cons_of_ne_nil hne
  have hglobs : Text.words (b ++ '=' :: c ++ t) = if c.isEmpty then ('=' :: g) :: gs else ['='] :: g :: gs := by
    rw [List.append_assoc, List.cons_append, Text.words_blanks_append hb.tail.isBlank]
    cases c with
    | nil => exact Text.words_cons (by rfl) (Text.trim_eq_self_iff.1 ht.trimmed).1 hwords
    | cons e c =>
      have hword : Text.IsWord ['='] := by decide
      rw [List.isEmpty_cons, if_neg Bool.false_ne_true, ← hwords, ← Text.words_blanks_append hc.tail.isBlank t]
      exact Text.words_append_blank hword (hc.isBlank e List.mem_cons_self) (c ++ t)
  refine Line.opens_append hw (hb.isDelimiter d List.mem_cons_self) (b ++ '=' :: c) ht hglobs ?_
  split <;> exact List.cons_ne_nil _ _

/-- **The globs are those of the text exactly if no gap stands before an equals sign.** -/
theorem opens_iff (hw : Text.lower w = Line.hostWord) (ht : IsGiven t) (hwords : Text.words t = g :: gs)
    (hg : g.head? ≠ some '=') {pre : Text} (hpre : Delimits pre) :
    Opens (w ++ (pre ++ t)) (g :: gs) ↔ EqualsFirst pre := by
  refine ⟨fun h => ?_, opens_of_equalsFirst hw ht hwords hpre⟩
  obtain ⟨hfirst, -⟩ | ⟨-, d, b, c, rfl, hb, hc⟩ := hpre.cases_first
  · exact hfirst
  · have hsame := h.unique (opens_of_late_equals hw ht hwords hb (List.cons_ne_nil d b) hc)
    have hhead : g.head? = some '=' := by
      split at hsame <;> exact congrArg List.head? (List.cons.inj hsame).1
    exact absurd hhead hg

end

/-- **What the spellings of a host line give.**  A host line whose delimiter is a gap, or an equals sign without a gap
before it, opens a section with the words of its text wherever it stands, so that these spellings may stand for one
another.  An equals sign after a gap is not taken for a delimiter but stays with the globs.  An option line has the same
value, and does the same, in all spellings. -/
theorem spellings_of_host {w t g : Text} {gs : List Text} (hw : Text.lower w = Line.hostWord) (ht : Text.trim t = t)
    (hwords : Text.words t = g :: gs) (hg : g.head? ≠ some '=') :
    (∀ pre, Delimits pre → (Opens (w ++ (pre ++ t)) (g :: gs) ↔ EqualsFirst pre)) ∧
    (∀ b c, IsGap b → b ≠ [] → IsGap c →
      Opens (w ++ (b ++ '=' :: c ++ t)) (if c.isEmpty then ('=' :: g) :: gs else ['='] :: g :: gs)) ∧
    (∀ pre, Delimits pre → EqualsFirst pre → ∀ source before after,
      (∀ f, ofLines source (before ++ (w ++ (pre ++ t)) :: after) = .ok f →
        ∃ e ∈ f.entries, e.globs = g :: gs ∧ e.lineno = before.length + 1) ∧
      ∀ other, Delimits other → EqualsFirst other →
        ofLines source (before ++ (w ++ (other ++ t)) :: after) =
          ofLines source (before ++ (w ++ (pre ++ t)) :: after)) ∧
    ∀ key, IsKey key → ∀ pre, Delimits pre →
      splitLine (key ++ (pre ++ t)) = some (key, t) ∧
      ∀ other, Delimits other → Text.lower key ≠ Line.hostWord → ∀ indent, IsGap indent → ∀ (p : Progress) (n : Nat),
        p.step n (Line.ofText (Line.strip (indent ++ (key ++ (other ++ t))))) =
          p.step n (Line.ofText (Line.strip (indent ++ (key ++ (pre ++ t))))) := by
  have hgiven := isGiven_of_words ht hwords hg
  refine ⟨fun pre hpre => opens_iff hw hgiven hwords hg hpre, fun b c hb hne hc => ?_, ?_, ?_⟩
  · exact opens_of_late_equals hw hgiven hwords hb hne hc
  · intro pre hpre hfirst source before after
    have hopens := opens_of_equalsFirst hw hgiven hwords hpre hfirst
    refine ⟨fun f hf => exists_entry_of_opens hopens hf, fun other hother hfirst' => ?_⟩
    exact ofLines_opens_congr (opens_of_equalsFirst hw hgiven hwords hother hfirst') hopens source before after
  · intro key hkey pre hpre
    refine ⟨splitLine_delimited hkey hgiven hpre, fun other hother hword indent hindent p n => ?_⟩
    rw [Progress.step_delimited hindent hkey hword hgiven hother,
      Progress.step_delimited hindent hkey hword hgiven hpre]

/-- Two patterns after a tab, after an equals sign, and after an equals sign with tabs around it. -/
theorem spellings_of_host_tabs :
    Opens "hOsT\t*.b !c" ["*.b", "!c"] ∧ Opens "hOsT=*.b !c" ["*.b", "!c"] ∧
      Opens "hOsT\t=\t*.b !c" ["=", "*.b", "!c"] ∧
      splitLine "Port\t=\t*.b !c" = some (("Port" : Text), ("*.b !c" : Text)) := by
  have htab : IsGap ['\t'] := by decide
  have hwords : Text.words "*.b !c" = [("*.b" : Text), ("!c" : Text)] := by decide
  obtain ⟨hopens, hlate, -, hoption⟩ := spellings_of_host (w := "hOsT") (by decide) (by decide) hwords (by decide)
  have hkey : IsKey "Port" := ⟨by decide, by decide⟩
  refine ⟨?_, ?_, ?_, ?_⟩
  · exact (hopens ['\t'] (.gap htab (by decide))).2 fun h => absurd h (by decide)
  · exact (hopens ['='] (.equals (b := []) (c := []) (by decide) (by decide))).2 fun _ => rfl
  · exact hlate ['\t'] ['\t'] htab (by decide) htab
  · exact (hoption "Port" hkey _ (.equals htab htab)).1

/-- An equals sign with blanks around it opens no section with the globs of the text alone. -/
theorem spellings_of_host_differ :
    ¬ ∀ (w t g : Text) (gs : List Text), Text.lower w = Line.hostWord → Text.trim t = t → Text.words t = g :: gs →
      g.head? ≠ some '=' → ∀ pre, Delimits pre → Opens (w ++ (pre ++ t)) (g :: gs) := by
  intro h
  have hgap : IsGap [' '] := by decide
  have hclaimed := h "Host" "db" "db" [] (by decide) (by decide) (by decide) (by decide) _ (.equals hgap hgap)
  have hread : Opens "Host = db" ["=", "db"] := fun p n => rfl
  exact absurd (hclaimed.unique hread) (by decide)

end ConfigFile
end SshConfig
