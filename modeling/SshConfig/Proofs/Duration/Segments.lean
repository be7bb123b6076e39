import SshConfig.Proofs.Duration
import SshConfig.Proofs.Text.Trim
/-!
# Segments — which texts are durations, and of how many seconds

A duration is written in segments, one after the other: a number of decimal digits, and the letter of its unit, which
the last segment may do without.  A text is read exactly if it is such a writing, blanks around it apart, and its
seconds are those of its segments (`parse_iff_segments`).
-/
namespace SshConfig
namespace Duration

open Text (isDigit)

/-- A number with the letter of its unit. -/
structure Segment where
  digits : Text
  unit : Option Char
  isRun : IsRun digits
  isUnit : ∀ u ∈ unit, (unitSeconds? u).isSome = true

namespace Segment

def text (s : Segment) : Text :=
  s.digits ++ s.unit.toList

/-- The seconds of a segment; without a letter its number counts them. -/
def seconds (s : Segment) : Nat :=
  Numeral.valueFrom 0 s.digits * (s.unit.bind unitSeconds?).getD 1

theorem text_ne_nil (s : Segment) : s.text ≠ [] :=
  List.append_ne_nil_of_left_ne_nil s.isRun.1 _

theorem flatMap_text_ne_nil {ss : List Segment} (h : ss ≠ []) : ss.flatMap text ≠ [] := by
  obtain ⟨s, ss, rfl⟩ := List.exists_cons_of_ne_nil h
  exact List.append_ne_nil_of_left_ne_nil s.text_ne_nil _

end Segment

/-- Every segment but the last has a unit. -/
def AreUnited (ss : List Segment) : Prop :=
  ∀ s ∈ ss.dropLast, s.unit ≠ none

theorem areUnited_nil : AreUnited [] :=
  fun _ h => absurd h List.not_mem_nil

theorem areUnited_cons {s : Segment} {ss : List Segment} :
    AreUnited (s :: ss) ↔ (ss ≠ [] → s.unit ≠ none) ∧ AreUnited ss := by
  cases ss with
  | nil => simp [AreUnited]
  | cons s' ss =>
    unfold AreUnited
    rw [List.dropLast_cons_cons, List.forall_mem_cons]
    simp

theorem areUnited_append {ss ts : List Segment} (hne : ts ≠ []) :
    AreUnited (ss ++ ts) ↔ (∀ s ∈ ss, s.unit ≠ none) ∧ AreUnited ts := by
  unfold AreUnited
  rw [List.dropLast_append_of_ne_nil hne, List.forall_mem_append]

/-! ## Reading segments -/

/-- **What is written in segments is read as the seconds of them all.** -/
theorem readOn_segments (whole : Text) : ∀ (total : Nat) (ss : List Segment), AreUnited ss →
    readOn whole total none (ss.flatMap Segment.text) = .ok ⟨total + (ss.map Segment.seconds).sum⟩
  | total, [], _ => rfl
  | total, [⟨ds, none, hrun, _⟩], _ => by
    have htext : [(⟨ds, none, hrun, ‹_›⟩ : Segment)].flatMap Segment.text = ds := by simp [Segment.text]
    rw [htext, readOn_last whole total hrun.1 hrun.2.1, if_neg (Nat.not_lt.2 hrun.2.2)]
    simp [Segment.seconds]
  | total, ⟨ds, none, _, _⟩ :: s :: ss, h => absurd rfl ((areUnited_cons.1 h).1 (List.cons_ne_nil s ss))
  | total, ⟨ds, some u, hrun, hunit⟩ :: ss, h => by
    obtain ⟨k, hk⟩ := Option.isSome_iff_exists.1 (hunit u rfl)
    have hu : isUnit u = true := isUnit_iff.2 (.inl (hunit u rfl))
    rw [List.flatMap_cons, Segment.text, Option.toList_some, List.append_assoc, List.singleton_append,
      readOn_segment whole total hrun.1 hrun.2.1 (isDigit_of_isSome (hunit u rfl)), if_neg (Nat.not_lt.2 hrun.2.2),
      if_pos hu, hk]
    dsimp only
    rw [readOn_segments whole _ ss (areUnited_cons.1 h).2, List.map_cons, List.sum_cons, Segment.seconds,
      Option.bind_some, hk, Option.getD_some, Nat.add_assoc]

/-- **What is read is written in segments.**  Each step of the induction takes the first number and its unit away. -/
theorem exists_segments_of_readOn (whole t : Text) (total : Nat) {d : Duration}
    (h : readOn whole total none t = .ok d) : ∃ ss, AreUnited ss ∧ t = ss.flatMap Segment.text := by
  obtain ⟨ds, rest, ht, hds, hrest⟩ := exists_digits t
  rw [ht] at h
  by_cases hne : ds = []
  · subst hne
    cases rest with
    | nil => exact ⟨[], areUnited_nil, ht⟩
    | cons u rest =>
      have hvalue : Text.digitValue? u = none := by simpa [isDigit] using hrest u rfl
      simp [readOn_cons, hvalue] at h
  cases rest with
  | nil =>
    rw [List.append_nil, readOn_last whole total hne hds] at h
    by_cases hlong : digitLimit < ds.length
    · rw [if_pos hlong] at h
      cases h
    · refine ⟨[⟨ds, none, ⟨hne, hds, Nat.not_lt.1 hlong⟩, by simp⟩],
        areUnited_cons.2 ⟨absurd rfl, areUnited_nil⟩, ?_⟩
      simpa [Segment.text] using ht
  | cons u rest =>
    rw [readOn_segment whole total hne hds (hrest u rfl)] at h
    by_cases hlong : digitLimit < ds.length
    · rw [if_pos hlong] at h
      cases h
    rw [if_neg hlong] at h
    cases hunit : unitSeconds? u with
    | none =>
      rw [hunit] at h
      split at h <;> cases h
    | some k =>
      have hsome : (unitSeconds? u).isSome = true := by rw [hunit]; rfl
      rw [if_pos (isUnit_iff.2 (.inl hsome)), hunit] at h
      obtain ⟨ss, hss, rfl⟩ := exists_segments_of_readOn whole rest _ h
      refine ⟨⟨ds, some u, ⟨hne, hds, Nat.not_lt.1 hlong⟩, by simpa using hsome⟩ :: ss,
        areUnited_cons.2 ⟨fun _ => Option.some_ne_none u, hss⟩, ?_⟩
      simpa [Segment.text] using ht
termination_by t.length
decreasing_by
  rw [ht, List.length_append, List.length_cons]
  omega

/-- **Which texts are durations.** -/
theorem parse_eq_ok_iff {t : Text} {d : Duration} : parse t = .ok d ↔ ∃ ss : List Segment,
    ss ≠ [] ∧ AreUnited ss ∧ Text.trim t = ss.flatMap Segment.text ∧ d.seconds = (ss.map Segment.seconds).sum := by
  have hread : ∀ ss, AreUnited ss → Text.trim t = ss.flatMap Segment.text →
      readOn (Text.trim t) 0 none (Text.trim t) = .ok ⟨(ss.map Segment.seconds).sum⟩ := by
    intro ss hss htext
    have hrun := readOn_segments (Text.trim t) 0 ss hss
    rw [← htext, Nat.zero_add] at hrun
    exact hrun
  unfold parse
  constructor
  · intro h
    split at h
    · cases h
    · rename_i hne
      obtain ⟨ss, hss, htext⟩ := exists_segments_of_readOn _ _ 0 h
      refine ⟨ss, ?_, hss, htext, ?_⟩
      · rintro rfl
        exact hne (by rw [htext]; rfl)
      · rw [hread ss hss htext] at h
        cases h
        rfl
  · rintro ⟨ss, hne, hss, htext, hseconds⟩
    have hempty : ¬ (Text.trim t).isEmpty = true := by
      rw [htext, List.isEmpty_iff]
      exact Segment.flatMap_text_ne_nil hne
    rw [if_neg hempty, hread _ hss htext, ← hseconds]

/-! ## One after the other -/

/-- **A writing that ends in the letter of a unit has a unit in every segment.** -/
theorem units_of_getLast? {ss : List Segment} (hss : AreUnited ss)
    (h : ∃ u ∈ (ss.flatMap Segment.text).getLast?, (unitSeconds? u).isSome = true) : ∀ s ∈ ss, s.unit ≠ none := by
  rcases List.eq_nil_or_concat ss with rfl | ⟨before, last, rfl⟩
  · simp
  rw [List.concat_eq_append] at h hss ⊢
  refine List.forall_mem_append.2 ⟨((areUnited_append (List.cons_ne_nil last [])).1 hss).1,
    List.forall_mem_singleton.2 fun hnone => ?_⟩
  -- without a letter the last character would be a digit
  obtain ⟨u, hu, hunit⟩ := h
  have hdigits : last.text = last.digits := by simp [Segment.text, hnone]
  rw [List.flatMap_append, List.flatMap_singleton, hdigits, List.getLast?_append_of_ne_nil _ last.isRun.1] at hu
  have hdigit := last.isRun.2.1 u (List.mem_of_mem_getLast? hu)
  rw [isDigit_of_isSome hunit] at hdigit
  cases hdigit

/-- **Durations one after the other add up**, if the first ends in the letter of a unit. -/
theorem parse_append {s t : Text} {a b : Duration} (hs : Text.trim s = s) (ht : Text.trim t = t)
    (ha : parse s = .ok a) (hb : parse t = .ok b) (hu : ∃ u ∈ s.getLast?, (unitSeconds? u).isSome = true) :
    parse (s ++ t) = .ok ⟨a.seconds + b.seconds⟩ := by
  obtain ⟨ss, hne, hss, hstext, hsseconds⟩ := parse_eq_ok_iff.1 ha
  obtain ⟨ts, hne', hts, httext, htseconds⟩ := parse_eq_ok_iff.1 hb
  rw [hs] at hstext
  rw [ht] at httext
  have htrim : Text.trim (s ++ t) = s ++ t := by
    have hhead : (s ++ t).head? = s.head? := List.head?_append_of_ne_nil s (hstext ▸ Segment.flatMap_text_ne_nil hne)
    have hlast : (s ++ t).getLast? = t.getLast? :=
      List.getLast?_append_of_ne_nil s (httext ▸ Segment.flatMap_text_ne_nil hne')
    rw [Text.trim_eq_self_iff, hhead, hlast]
    exact ⟨(Text.trim_eq_self_iff.1 hs).1, (Text.trim_eq_self_iff.1 ht).2⟩
  refine parse_eq_ok_iff.2 ⟨ss ++ ts, List.append_ne_nil_of_right_ne_nil ss hne', ?_, ?_, ?_⟩
  · rw [hstext] at hu
    exact (areUnited_append hne').2 ⟨units_of_getLast? hss hu, hts⟩
  · rw [htrim, List.flatMap_append, ← hstext, ← httext]
  · rw [List.map_append, List.sum_append, ← hsseconds, ← htseconds]

/-- **A text is a duration exactly if it is written in segments**, and its seconds are theirs.  So durations one after
the other add up, and a duration is read back from its text. -/
theorem parse_iff_segments :
    (∀ t d, parse t = .ok d ↔ ∃ ss : List Segment, ss ≠ [] ∧ (∀ s ∈ ss.dropLast, s.unit ≠ none) ∧
      Text.trim t = ss.flatMap Segment.text ∧ d.seconds = (ss.map Segment.seconds).sum) ∧
    (∀ s t a b, Text.trim s = s → Text.trim t = t → parse s = .ok a → parse t = .ok b →
      (∃ u ∈ s.getLast?, (unitSeconds? u).isSome = true) → parse (s ++ t) = .ok ⟨a.seconds + b.seconds⟩) ∧
    ∀ d : Duration, d.text.length ≤ digitLimit → parse d.text = .ok d :=
  ⟨fun _ _ => parse_eq_ok_iff, fun _ _ _ _ => parse_append,
    fun _ h => parse_text (Numeral.isWritable_iff_length.2 h)⟩

theorem parse_iff_segments_hours : parse "1h30m".toList = .ok ⟨5400⟩ ∧ parse " 1H30m15 ".toList = .ok ⟨5415⟩ ∧
    ∃ ss : List Segment, "1H30m15".toList = ss.flatMap Segment.text ∧ (ss.map Segment.seconds).sum = 5415 := by
  obtain ⟨hread, happend, -⟩ := parse_iff_segments
  have hwhole : parse " 1H30m15 ".toList = .ok ⟨5415⟩ := by rfl
  obtain ⟨ss, -, -, htext, hseconds⟩ := (hread _ _).1 hwhole
  exact ⟨happend "1h".toList "30m".toList ⟨3600⟩ ⟨1800⟩ (by rfl) (by rfl) (by rfl) (by rfl) ⟨'h', by rfl, by rfl⟩,
    hwhole, ss, htext, hseconds.symm⟩

end Duration
end SshConfig
