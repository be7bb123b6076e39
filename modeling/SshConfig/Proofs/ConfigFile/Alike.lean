import SshConfig.Proofs.ConfigFile.Delimiter
import SshConfig.Proofs.Fault.Letter
import SshConfig.Proofs.Text.Letters
/-!
# Alike — lines that say the same

Two lines say the same if neither says anything, if they are host lines with the same patterns, or if they are option
lines at the same place with the same value and one name for it (`Line.Alike`).  So does a line with another
indentation, with more blanks at its end, or with the letters of its name in another case (`Line.Relaid.alike`).
-/
namespace SshConfig

/-! ## Outcomes that agree -/

/-- **The outcomes agree**: results correspond by `move`, and faults by `R`. -/
inductive Agree {ε α : Type} (R : ε → ε → Prop) (move : α → α) : Except ε α → Except ε α → Prop where
  | ok (a : α) : Agree R move (.ok a) (.ok (move a))
  | error {e e' : ε} (h : R e e') : Agree R move (.error e) (.error e')

namespace Agree

variable {ε α β : Type} {R : ε → ε → Prop} {x y z : Except ε α} {move move' : α → α}

theorem map (h : Agree R move x y) {f g : α → β} {move' : β → β} (hg : ∀ a, g (move a) = move' (f a)) :
    Agree R move' (x.map f) (y.map g) := by
  cases h with
  | ok a =>
    change Agree R move' (.ok (f a)) (.ok (g (move a)))
    rw [hg]
    exact .ok (f a)
  | error h => exact .error h

theorem trans {R' R'' : ε → ε → Prop} (hR : ∀ a b c, R a b → R' b c → R'' a c) (h : Agree R move x y)
    (h' : Agree R' move' y z) : Agree R'' (move' ∘ move) x z := by
  cases h with
  | ok a =>
    cases h'
    exact .ok a
  | error h =>
    cases h' with
    | error h' => exact .error (hR _ _ _ h h')

end Agree

/-! ## One option line -/

theorem isDelimiter_toLower (c : Char) : isDelimiter c.toLower = isDelimiter c :=
  Text.apply_toLower (by decide) c

/-- **The part of an option line up to its delimiter is its key**, however much of it stands in front. -/
theorem splitLine_key_append {key : Text} (hkey : ∀ c ∈ key, isDelimiter c = false) (tail : Text) :
    splitLine (key ++ tail) = match tail.dropWhile (!isDelimiter ·) with
      | [] => none
      | d :: rest => some (Text.trim (key ++ tail.takeWhile (!isDelimiter ·)), valueAfter d rest) := by
  have hbefore : ∀ c ∈ key, (!isDelimiter c) = true := fun c hc => by rw [hkey c hc, Bool.not_false]
  have htake : (key ++ tail).takeWhile (!isDelimiter ·) = key ++ tail.takeWhile (!isDelimiter ·) :=
    List.takeWhile_append_of_pos hbefore
  unfold splitLine
  rw [List.dropWhile_append_of_pos hbefore]
  cases tail.dropWhile (!isDelimiter ·) with
  | nil => rfl
  | cons d rest => exact congrArg (fun k => some (Text.trim k, valueAfter d rest)) htake

/-- The complaints are the same, but for the case of the key that they name. -/
inductive Complaint.Alike : Complaint → Complaint → Prop where
  | refl (c : Complaint) : Alike c c
  | badValue {key key' : Text} (hkey : Text.SameLetters key key') (fault : ValueFault) :
      Alike (.badValue key fault) (.badValue key' fault)

namespace Complaint.Alike

variable {c c' d : Complaint}

theorem trans (h : c.Alike c') (h' : c'.Alike d) : c.Alike d := by
  cases h with
  | refl => exact h'
  | badValue hkey fault =>
    cases h' with
    | refl => exact badValue hkey fault
    | badValue hkey' _ => exact badValue (hkey.trans hkey') fault

theorem reason (h : c.Alike c') : Text.SameLetters c.reason c'.reason := by
  cases h with
  | refl => exact .refl _
  | badValue hkey fault =>
    have hstart := (Text.SameLetters.refl "invalid value for ").append hkey
    exact ((hstart.append (.refl " (")).append (.refl fault.message)).append (.refl ")")

theorem isPattern_eq (h : c.Alike c') : c'.isPattern = c.isPattern := by
  cases h <;> rfl

theorem letter?_eq (h : c.Alike c') : c'.letter? = c.letter? := by
  cases h with
  | refl => rfl
  | badValue hkey fault => cases fault <;> rfl

end Complaint.Alike

namespace Settings

/-- The option lines have the same value, and keys that differ in case at most. -/
def SameOption (t t' : Text) : Prop :=
  (splitLine t = none ∧ splitLine t' = none) ∨ ∃ key key' value, splitLine t = some (key, value) ∧
    splitLine t' = some (key', value) ∧ Text.SameLetters key key'

theorem SameOption.refl (t : Text) : SameOption t t := by
  cases h : splitLine t with
  | none => exact .inl ⟨h, h⟩
  | some p => exact .inr ⟨p.1, p.1, p.2, h, h, .refl _⟩

theorem sameOption_append {key key' : Text} (h : Text.SameLetters key key')
    (hkey : ∀ c ∈ key, isDelimiter c = false) (hkey' : ∀ c ∈ key', isDelimiter c = false) (tail : Text) :
    SameOption (key ++ tail) (key' ++ tail) := by
  unfold SameOption
  rw [splitLine_key_append hkey, splitLine_key_append hkey']
  cases tail.dropWhile (!isDelimiter ·) with
  | nil => exact .inl ⟨rfl, rfl⟩
  | cons d rest => exact .inr ⟨_, _, _, rfl, rfl, (h.append (.refl _)).trim⟩

/-- **The case of a key does not count.** -/
theorem apply_sameLetters {key key' : Text} (h : Text.SameLetters key key') (s : Settings) (value : Json) :
    Agree Complaint.Alike id (s.apply key value) (s.apply key' value) := by
  have hkeyword : Keyword.ofText? key' = Keyword.ofText? key := by
    unfold Keyword.ofText?
    rw [h.lower_eq]
  unfold apply assign
  rw [hkeyword]
  cases Keyword.ofText? key with
  | none => exact .ok s
  | some k =>
    simp only
    cases k.kind.decode value with
    | ok v => exact .ok (s.set k v)
    | error fault => exact .error (.badValue h fault)

theorem SameOption.applyLine {t t' : Text} (h : SameOption t t') (missing : Complaint) (s : Settings) :
    Agree Complaint.Alike id (s.applyLine missing t) (s.applyLine missing t') := by
  unfold Settings.applyLine
  obtain ⟨ht, ht'⟩ | ⟨key, key', value, ht, ht', hkey⟩ := h
  · rw [ht, ht']
    exact .error (.refl missing)
  · rw [ht, ht']
    exact apply_sameLetters hkey s (.str value)

end Settings

/-! ## One line -/

namespace Line

/-- The lines say the same. -/
structure Alike (raw raw' : Text) : Prop where
  significant : isSignificant raw' = isSignificant raw
  host : isHost raw' = isHost raw
  tokens : isHost raw = true → hostTokens raw' = hostTokens raw
  indented : isSignificant raw = true → isIndented raw' = isIndented raw
  option : Settings.SameOption (Text.trim raw) (Text.trim raw')

theorem Alike.refl (raw : Text) : Alike raw raw :=
  ⟨rfl, rfl, fun _ => rfl, fun _ => rfl, .refl _⟩

/-- **Lines that are trimmed to the same text say the same**, if both are indented or neither is. -/
theorem alike_of_trim_eq {raw raw' : Text} (htrim : Text.trim raw' = Text.trim raw)
    (hindented : isSignificant raw = true → isIndented raw' = isIndented raw) : Alike raw raw' := by
  have hsig : isSignificant raw' = isSignificant raw := by
    unfold isSignificant
    rw [htrim]
  refine ⟨hsig, ?_, fun _ => ?_, hindented, htrim ▸ .refl _⟩
  · by_cases h : isSignificant raw = true
    · unfold isHost
      rw [hsig, hindented h, htrim]
    · have hnone : isSignificant raw = false := by simpa using h
      rw [isHost_eq_false hnone, isHost_eq_false (hsig.trans hnone)]
  · unfold hostTokens
    rw [htrim]

/-- **What may be changed about a line.** -/
inductive Relaid : Text → Text → Prop where
  /-- The indentation, for another one. -/
  | reindent {b b' : Text} (hb : IsGap b) (hne : b ≠ []) (hb' : IsGap b') (hne' : b' ≠ []) (t : Text) :
      Relaid (b ++ t) (b' ++ t)
  /-- More blanks after the text of the line. -/
  | trail (t : Text) {e ending : Text} (he : ∀ c ∈ e, Text.isBlank c = true)
      (hending : ∀ c ∈ ending, Text.isBlank c = true) : Relaid (t ++ ending) (t ++ (e ++ ending))
  /-- The case of letters before the delimiter of an option, or in the word of a host line. -/
  | recase {b name name' : Text} (hb : ∀ c ∈ b, Text.isBlank c = true)
      (hname : ∀ c ∈ name, isDelimiter c = false) (hsame : Text.SameLetters name name') (t : Text)
      (hhost : isHost (b ++ (name ++ t)) = true → ∀ c ∈ name, Text.isBlank c = false) :
      Relaid (b ++ (name ++ t)) (b ++ (name' ++ t))

/-! ### The case of letters -/

/-- **Whether a line is a host line does not depend on the case of letters.** -/
theorem isSome_hostPatterns? {t t' : Text} (h : Text.SameLetters t t') :
    (hostPatterns? t').isSome = (hostPatterns? t).isSome := by
  have hequals := Text.toLower_eq_iff (c := '=') (by decide)
  have hhead : Text.SameLetters (Text.headWord t).1 (Text.headWord t').1 :=
    h.takeWhile fun c => by rw [Text.isBlank_toLower]
  unfold hostPatterns?
  simp only [← hhead.lower_eq]
  split
  · rfl
  obtain ⟨hs, ht⟩ | ⟨p, q, hs, ht, hpq⟩ := hhead.cutAt hequals
  · rw [hs, ht]
  · rw [hs, ht]
    simp only [← hpq.lower_eq]
    split
    · obtain ⟨hs, ht⟩ | ⟨p, q, hs, ht, -⟩ := h.cutAt hequals
      · rw [hs, ht]
      · rw [hs, ht]
        rfl
    · rfl

/-- **The patterns of a host line do not depend on the case of its word.** -/
theorem hostPatterns?_sameLetters {key key' : Text} (h : Text.SameLetters key key')
    (hkey : ∀ c ∈ key, isDelimiter c = false ∧ Text.isBlank c = false)
    (hkey' : ∀ c ∈ key', isDelimiter c = false ∧ Text.isBlank c = false) (tail : Text) :
    hostPatterns? (key' ++ tail) = hostPatterns? (key ++ tail) := by
  have hequals : ∀ {key : Text}, (∀ c ∈ key, isDelimiter c = false ∧ Text.isBlank c = false) → '=' ∉ key := by
    intro key hkey hmem
    cases (hkey '=' hmem).1
  have hhead : ∀ {key : Text}, (∀ c ∈ key, isDelimiter c = false ∧ Text.isBlank c = false) →
      Text.headWord (key ++ tail) =
        (key ++ tail.takeWhile (!Text.isBlank ·), Text.trimStart (tail.dropWhile (!Text.isBlank ·))) := by
    intro key hkey
    unfold Text.headWord
    rw [List.takeWhile_append_of_pos (fun c hc => by simp [(hkey c hc).2]),
      List.dropWhile_append_of_pos (fun c hc => by simp [(hkey c hc).2])]
  unfold hostPatterns?
  simp only [hhead hkey, hhead hkey', Text.cutAt_append (hequals hkey), Text.cutAt_append (hequals hkey'),
    ← (h.append (.refl (tail.takeWhile (!Text.isBlank ·)))).lower_eq, Option.map_map]
  split
  · rfl
  cases Text.cutAt '=' (tail.takeWhile (!Text.isBlank ·)) with
  | none => rfl
  | some p =>
    simp only [Option.map_some, ← (h.append (.refl p.1)).lower_eq]
    rfl

theorem isIndented_sameLetters {raw raw' : Text} (h : Text.SameLetters raw raw') :
    isIndented raw' = isIndented raw := by
  have hblank := Text.toLower_eq_iff (c := ' ') (by decide)
  have htab := Text.toLower_eq_iff (c := '\t') (by decide)
  unfold isIndented
  rw [Bool.eq_iff_iff]
  simp only [Bool.or_eq_true, beq_iff_eq, h.head?_eq_iff hblank, h.head?_eq_iff htab]

theorem isSignificant_sameLetters {raw raw' : Text} (h : Text.SameLetters raw raw') :
    isSignificant raw' = isSignificant raw := by
  have hhash := Text.toLower_eq_iff (c := '#') (by decide)
  unfold isSignificant
  rw [Bool.eq_iff_iff]
  simp only [Bool.and_eq_true, bne_iff_ne, ne_eq, h.trim.isEmpty_eq, h.trim.head?_eq_iff hhash]

/-! ### Lines that are changed -/

theorem isIndented_gap_append {b : Text} (hb : IsGap b) (hne : b ≠ []) (t : Text) : isIndented (b ++ t) = true := by
  obtain ⟨d, b, rfl⟩ := List.exists_cons_of_ne_nil hne
  rcases hb d List.mem_cons_self with rfl | rfl <;> rfl

theorem alike_reindent {b b' : Text} (hb : IsGap b) (hne : b ≠ []) (hb' : IsGap b') (hne' : b' ≠ []) (t : Text) :
    Alike (b ++ t) (b' ++ t) := by
  refine alike_of_trim_eq ?_ fun _ => ?_
  · rw [Text.trim_blank_append hb.isBlank, Text.trim_blank_append hb'.isBlank]
  · rw [isIndented_gap_append hb hne, isIndented_gap_append hb' hne']

theorem alike_trail (t : Text) {e ending : Text} (he : ∀ c ∈ e, Text.isBlank c = true)
    (hending : ∀ c ∈ ending, Text.isBlank c = true) : Alike (t ++ ending) (t ++ (e ++ ending)) := by
  have hboth : ∀ c ∈ e ++ ending, Text.isBlank c = true := fun c hc =>
    (List.mem_append.1 hc).elim (he c) (hending c)
  refine alike_of_trim_eq ?_ fun hsig => ?_
  · rw [Text.trim_append_blank t hboth, Text.trim_append_blank t hending]
  · have hne : t ≠ [] := by
      rintro rfl
      rw [isSignificant, Text.trim_append_blank [] hending] at hsig
      cases hsig
    unfold isIndented
    rw [List.head?_append_of_ne_nil _ hne, List.head?_append_of_ne_nil _ hne]

theorem alike_recase {b name name' : Text} (hb : ∀ c ∈ b, Text.isBlank c = true)
    (hname : ∀ c ∈ name, isDelimiter c = false) (hsame : Text.SameLetters name name') (t : Text)
    (hhost : isHost (b ++ (name ++ t)) = true → ∀ c ∈ name, Text.isBlank c = false) :
    Alike (b ++ (name ++ t)) (b ++ (name' ++ t)) := by
  have hraw : Text.SameLetters (b ++ (name ++ t)) (b ++ (name' ++ t)) :=
    (Text.SameLetters.refl b).append (hsame.append (.refl t))
  have hsig := isSignificant_sameLetters hraw
  have hindented := isIndented_sameLetters hraw
  have hname' := (hsame.forall_iff isDelimiter_toLower).1 hname
  have hisHost : isHost (b ++ (name' ++ t)) = isHost (b ++ (name ++ t)) := by
    unfold isHost
    rw [hsig, hindented, isSome_hostPatterns? hraw.trim]
  obtain ⟨key, key', tail, hkey, hkey', hkeys, hmem, hmem'⟩ := Text.exists_trim_append hsame t
  refine ⟨hsig, hisHost, fun h => ?_, fun _ => hindented, ?_⟩
  · have hword := (hsame.forall_iff Text.isBlank_toLower).1 (hhost h)
    unfold hostTokens
    rw [Text.trim_blank_append hb, Text.trim_blank_append hb, hkey, hkey', hostPatterns?_sameLetters hkeys
      (fun c hc => ⟨hname c (hmem c hc), hhost h c (hmem c hc)⟩)
      (fun c hc => ⟨hname' c (hmem' c hc), hword c (hmem' c hc)⟩)]
  · rw [Text.trim_blank_append hb, Text.trim_blank_append hb, hkey, hkey']
    exact Settings.sameOption_append hkeys (fun c hc => hname c (hmem c hc)) (fun c hc => hname' c (hmem' c hc)) tail

/-- **A line that is changed so says the same.** -/
theorem Relaid.alike {raw raw' : Text} (h : Relaid raw raw') : Alike raw raw' := by
  cases h with
  | reindent hb hne hb' hne' t => exact alike_reindent hb hne hb' hne' t
  | trail t he hending => exact alike_trail t he hending
  | recase hb hname hsame t hhost => exact alike_recase hb hname hsame t hhost

end Line
end SshConfig
