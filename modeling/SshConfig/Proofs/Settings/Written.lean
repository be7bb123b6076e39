import SshConfig.Proofs.ConfigFile.Sections
import SshConfig.Proofs.Duration
import SshConfig.Proofs.Text.Case
import SshConfig.Proofs.Text.Pieces
/-!
# Written — settings as lines, and read again

A value that a configuration can give is written so that it is read back as it was (`Kind.decode_written`), on a line
that is no host line (`Settings.hostPatterns?_line`).  The lines of a block, read onto another, lay the one on the other
(`Progress.readOn_lines`).
-/
namespace SshConfig

/-- **A value that a configuration can give**: a text is trimmed and stands on one line, a count has few enough
digits. -/
def Kind.IsPlain : (k : Kind) → k.Value → Prop
  | .text, t => Text.trim t = t ∧ '\n' ∉ t
  | .count, n => Numeral.isWritable n = true
  | _, _ => True

namespace Kind

theorem isWritable_of_le_max {n : Nat} (h : n ≤ 65535) : Numeral.isWritable n = true := by
  rw [Numeral.isWritable_iff]
  calc n < 10 ^ 5 := by omega
    _ ≤ 10 ^ digitLimit := Nat.pow_le_pow_right (by decide) (by decide)

theorem naturalOf_ofNat {n : Nat} (h : Numeral.isWritable n = true) : naturalOf (.str (Text.ofNat n)) = .ok n := by
  unfold naturalOf integerOf
  simp only [Json.display, Text.trim_ofNat, Numeral.integer_ofNat h]
  rw [if_neg (by omega), Int.toNat_natCast]

/-- **A written value is read back.** -/
theorem decode_written (k : Kind) (v : k.Value) (hplain : k.IsPlain v) (hw : k.isWritable v = true) :
    k.decode (.str (k.written v)) = .ok v := by
  cases k with
  | port =>
    have hp := naturalOf_ofNat (isWritable_of_le_max v.le_max)
    simp only [decode, written, portOf, hp]
    rw [dif_pos v.le_max]
  | count =>
    simp only [isWritable] at hw
    exact naturalOf_ofNat hw
  | flag => cases v <;> rfl
  | duration =>
    simp only [isWritable] at hw
    exact Duration.parse_text hw
  | text => rfl

theorem trim_written : ∀ (k : Kind) (v : k.Value), k.IsPlain v → Text.trim (k.written v) = k.written v
  | .port, p, _ => Text.trim_ofNat p.number
  | .count, n, _ => Text.trim_ofNat n
  | .flag, b, _ => by cases b <;> decide
  | .duration, d, _ => Text.trim_ofNat d.seconds
  | .text, _, h => h.1

theorem not_mem_ofNat (n : Nat) : '\n' ∉ Text.ofNat n := fun h => absurd (Text.isDigit_of_mem_ofNat h) (by decide)

theorem not_mem_written : ∀ (k : Kind) (v : k.Value), k.IsPlain v → '\n' ∉ k.written v
  | .port, p, _ => not_mem_ofNat p.number
  | .count, n, _ => not_mem_ofNat n
  | .flag, b, _ => by cases b <;> decide
  | .duration, d, _ => not_mem_ofNat d.seconds
  | .text, _, h => h.2

end Kind

namespace Keyword

theorem ofText?_name (k : Keyword) : ofText? k.name = some k := by
  cases k <;> decide

theorem name_plain (k : Keyword) : ∀ c ∈ k.name, isDelimiter c = false ∧ Text.isBlank c = false := by
  have hall : k.name.all (fun c => !isDelimiter c && !Text.isBlank c) = true := by
    cases k <;> decide
  simpa using hall

theorem name_ne_host (k : Keyword) : Text.lower k.name ≠ Line.hostWord := by
  cases k <;> decide

theorem length_name (k : Keyword) : 4 ≤ k.name.length := by
  cases k <;> decide

theorem exists_name_eq (k : Keyword) : ∃ c name, k.name = c :: name ∧ c ≠ '#' := by
  cases k <;> exact ⟨_, _, rfl, by decide⟩

end Keyword

namespace Settings

/-! ## One line -/

theorem exists_line_eq (k : Keyword) (v : k.Value) : ∃ d, (d = ' ' ∨ d = '=') ∧
    line k v = k.name ++ d :: k.kind.written v ∧ (d = ' ' → ∃ c t, k.kind.written v = c :: t ∧ c ≠ '=') := by
  unfold line
  simp only
  split
  · exact ⟨'=', .inr rfl, rfl, fun h => absurd h (by decide)⟩
  · rename_i h
    refine ⟨' ', .inl rfl, rfl, fun _ => ?_⟩
    cases hv : k.kind.written v with
    | nil => simp [hv] at h
    | cons c t => exact ⟨c, t, rfl, fun e => by simp [hv, e] at h⟩

theorem splitLine_line (k : Keyword) (v : k.Value) (hv : k.kind.IsPlain v) :
    splitLine (line k v) = some (k.name, k.kind.written v) := by
  obtain ⟨d, hd, hline, hblank⟩ := exists_line_eq k v
  have hdelim : isDelimiter d = true := by rcases hd with rfl | rfl <;> decide
  have hname : Text.trim k.name = k.name := Text.trim_of_no_blank (fun c hc => (k.name_plain c hc).2)
  rw [hline, splitLine_append (fun c hc => (k.name_plain c hc).1) hdelim, hname]
  have hvalue : valueAfter d (k.kind.written v) = k.kind.written v := by
    unfold valueAfter
    rw [Kind.trim_written _ _ hv]
    rcases hd with rfl | rfl
    · obtain ⟨c, t, hct, hne⟩ := hblank rfl
      rw [hct]
      split
      · rename_i w hw
        exact absurd (List.cons.inj hw).1 hne
      · rfl
    · split
      · rename_i w hw
        rw [if_pos rfl, hw]
      · rfl
  rw [hvalue]

theorem applyLine_line {missing : Complaint} {k : Keyword} {v : k.Value} (hv : k.kind.IsPlain v)
    (hw : k.kind.isWritable v = true) : empty.applyLine missing (line k v) = .ok (empty.set k v) := by
  unfold applyLine
  rw [splitLine_line k v hv]
  simp only [apply, assign, Keyword.ofText?_name, Kind.decode_written _ _ hv hw]

theorem trim_line {k : Keyword} {v : k.Value} (hv : k.kind.IsPlain v) : Text.trim (line k v) = line k v := by
  obtain ⟨d, hd, hline, hblank⟩ := exists_line_eq k v
  rw [hline]
  refine Text.trim_eq_self_iff.2 ⟨fun c hc => ?_, fun c hc => ?_⟩
  · obtain ⟨x, name, hname, -⟩ := k.exists_name_eq
    rw [hname, List.cons_append, List.head?_cons, Option.mem_def, Option.some.injEq] at hc
    exact hc ▸ (k.name_plain x (hname ▸ List.mem_cons_self)).2
  · rw [List.getLast?_append_of_ne_nil _ (List.cons_ne_nil _ _)] at hc
    cases hvalue : k.kind.written v with
    | nil =>
      rcases hd with rfl | rfl
      · obtain ⟨x, t, hxt, -⟩ := hblank rfl
        rw [hxt] at hvalue
        cases hvalue
      · rw [hvalue, List.getLast?_singleton, Option.mem_def, Option.some.injEq] at hc
        rw [← hc]
        decide
    | cons x t =>
      rw [hvalue, List.getLast?_cons_cons, ← hvalue] at hc
      exact (Text.trim_eq_self_iff.1 (Kind.trim_written _ _ hv)).2 c hc

theorem not_mem_line {k : Keyword} {v : k.Value} (hv : k.kind.IsPlain v) : '\n' ∉ line k v := by
  obtain ⟨d, hd, hline, -⟩ := exists_line_eq k v
  rw [hline, List.mem_append, List.mem_cons]
  rintro (h | h | h)
  · exact absurd (k.name_plain _ h).2 (by decide)
  · rcases hd with rfl | rfl <;> cases h
  · exact Kind.not_mem_written _ _ hv h

/-- **The line of an option is no host line.** -/
theorem hostPatterns?_line (k : Keyword) (v : k.Value) : Line.hostPatterns? (line k v) = none := by
  obtain ⟨d, hd, hline, -⟩ := exists_line_eq k v
  have hword : ∀ c ∈ k.name, (!Text.isBlank c) = true := fun c hc => by simp [(k.name_plain c hc).2]
  have hnot : '=' ∉ k.name := fun h => absurd (k.name_plain _ h).1 (by decide)
  unfold Line.hostPatterns? Text.headWord
  rw [hline]
  simp only
  rw [List.takeWhile_append_of_pos hword]
  rcases hd with rfl | rfl
  · have hstop : (' ' :: k.kind.written v).takeWhile (!Text.isBlank ·) = [] := rfl
    rw [hstop, List.append_nil, if_neg k.name_ne_host, Text.cutAt_of_not_mem hnot]
  · have hstart : ('=' :: k.kind.written v).takeWhile (!Text.isBlank ·) =
        '=' :: (k.kind.written v).takeWhile (!Text.isBlank ·) := rfl
    rw [hstart, if_neg, Text.cutAt_append_cons hnot]
    · simp only
      rw [if_neg k.name_ne_host]
    · intro h
      have hlong := Text.length_le_length_lower (k.name ++ '=' :: (k.kind.written v).takeWhile (!Text.isBlank ·))
      have hname := k.length_name
      have hhost : Line.hostWord.length = 4 := rfl
      rw [h, List.length_append, List.length_cons, hhost] at hlong
      omega

/-! ## All lines -/

/-- The settings of some options alone. -/
def keep (s : Settings) (ks : List Keyword) : Settings :=
  ⟨fun k => if k ∈ ks then s.get? k else none⟩

theorem keep_all (s : Settings) : s.keep Keyword.all = s := by
  ext k : 1
  simp [keep, k.mem_all]

theorem keep_cons_of_none {s : Settings} {k : Keyword} (h : s.get? k = none) (ks : List Keyword) :
    s.keep (k :: ks) = s.keep ks := by
  ext j : 1
  by_cases hj : j = k
  · subst hj
    simp [keep, h]
  · simp [keep, hj]

theorem keep_cons_of_some {s : Settings} {k : Keyword} {v : k.Value} (h : s.get? k = some v) (ks : List Keyword) :
    s.keep (k :: ks) = (empty.set k v).merge (s.keep ks) := by
  ext j : 1
  rw [get?_merge]
  by_cases hj : k = j
  · subst hj
    rw [get?_set_self]
    by_cases hmem : k ∈ ks <;> simp [keep, h, hmem]
  · rw [get?_set_of_ne _ _ hj, get?_empty, Option.or_none]
    simp [keep, Ne.symm hj]

/-- **Settings that a configuration can give.** -/
def IsPlain (s : Settings) : Prop :=
  ∀ k v, s.get? k = some v → k.kind.IsPlain v

theorem isWritable_iff {s : Settings} :
    s.isWritable = true ↔ ∀ k v, s.get? k = some v → k.kind.isWritable v = true := by
  unfold isWritable
  rw [List.all_eq_true]
  constructor
  · intro h k v hv
    have := h k k.mem_all
    rwa [hv] at this
  · intro h k _
    cases hv : s.get? k with
    | none => rfl
    | some v => exact h k v hv

theorem not_mem_lines {s : Settings} (hs : s.IsPlain) : ∀ l ∈ s.lines, '\n' ∉ l := by
  intro l hl
  obtain ⟨k, -, hk⟩ := List.mem_filterMap.1 hl
  obtain ⟨v, hv, rfl⟩ := Option.map_eq_some_iff.1 hk
  exact not_mem_line (hs k v hv)

end Settings

namespace ConfigFile

open Line (isSignificant isIndented isHost)

/-- The blanks before an option of an entry. -/
def indent (opened : Bool) : Text :=
  if opened then "    " else []

section
variable {k : Keyword} {v : k.Value} (hv : k.kind.IsPlain v) (opened : Bool)
include hv

theorem trim_indent_line : Text.trim (indent opened ++ Settings.line k v) = Settings.line k v := by
  have hblank : (indent opened).all Text.isBlank = true := by
    cases opened <;> decide
  rw [Text.trim_blank_append (List.all_eq_true.1 hblank), Settings.trim_line hv]

theorem isSignificant_line : isSignificant (indent opened ++ Settings.line k v) = true := by
  obtain ⟨d, -, hline, -⟩ := Settings.exists_line_eq k v
  obtain ⟨c, name, hname, hsharp⟩ := k.exists_name_eq
  unfold isSignificant
  rw [trim_indent_line hv, hline, hname]
  simp [hsharp]

theorem isHost_line : isHost (indent opened ++ Settings.line k v) = false := by
  unfold isHost
  rw [trim_indent_line hv, Settings.hostPatterns?_line]
  simp

omit hv

theorem isIndented_line : isIndented (indent opened ++ Settings.line k v) = opened := by
  obtain ⟨d, -, hline, -⟩ := Settings.exists_line_eq k v
  obtain ⟨c, name, hname, -⟩ := k.exists_name_eq
  have hc := (k.name_plain c (hname ▸ List.mem_cons_self)).1
  cases opened with
  | true => rfl
  | false =>
    have h1 : c ≠ ' ' := fun h => absurd (h ▸ hc) (by decide)
    have h2 : c ≠ '\t' := fun h => absurd (h ▸ hc) (by decide)
    simp [isIndented, indent, hline, hname, h1, h2]

end

/-- **A written line sets its option in the block that is being read**, if it is indented as that block asks. -/
theorem Progress.step_line {p : Progress} {n : Nat} {k : Keyword} {v : k.Value} (hv : k.kind.IsPlain v)
    (hw : k.kind.isWritable v = true) :
    p.step n (Line.ofText (Line.strip (indent p.opened ++ Settings.line k v))) =
      .ok (p.lay (Settings.empty.set k v)) := by
  refine Progress.step_ok_iff.2 (.inr (.inr ⟨isSignificant_line hv p.opened, isHost_line hv p.opened,
    isIndented_line p.opened, Settings.empty.set k v, ?_, rfl⟩))
  rw [trim_indent_line hv, Settings.applyLine_line hv hw]

/-- **The lines of a block, read onto another, lay the one on the other.** -/
theorem Progress.readOn_lines (source : Text) {s : Settings} (hs : s.IsPlain) (hw : s.isWritable = true) :
    ∀ (ks : List Keyword) (p : Progress) (n : Nat),
      p.readOn source n ((ks.filterMap fun k => (s.get? k).map (Settings.line k)).map (indent p.opened ++ ·)) =
        .ok (p.lay (s.keep ks))
  | [], p, n => by
    have hempty : s.keep [] = Settings.empty := by
      ext k : 1
      simp [Settings.keep]
    rw [hempty, lay_empty]
    rfl
  | k :: ks, p, n => by
    cases hk : s.get? k with
    | none =>
      rw [Settings.keep_cons_of_none hk, List.filterMap_cons, hk]
      exact readOn_lines source hs hw ks p n
    | some v =>
      have hstep := Progress.step_line (p := p) (n := n) (hs k v hk) (Settings.isWritable_iff.1 hw k v hk)
      have hrest := readOn_lines source hs hw ks (p.lay (Settings.empty.set k v)) (n + 1)
      rw [opened_lay] at hrest
      rw [Settings.keep_cons_of_some hk, List.filterMap_cons, hk, ← lay_lay, ← hrest]
      simp only [Option.map_some, List.map_cons, readOn, hstep]

end ConfigFile
end SshConfig
