import SshConfig.Duration
import SshConfig.Proofs.Text.Decimal
/-!
# Duration — numbers and units, read one after the other

A duration is read one number at a time: a run of digits, and the letter after it (`readOn_segment`).  The seconds of a
duration are read back as that duration, and the reading ends at a letter that stands for no unit exactly when a number
is followed by the long s (`parse_eq_unknownUnit_iff`).
-/
namespace SshConfig
namespace Duration

open Text (isDigit)

/-- The long s. -/
def longS : Char :=
  'ſ'

/-- The digits of a number, few enough to be read. -/
def IsRun (ds : Text) : Prop :=
  ds ≠ [] ∧ (∀ c ∈ ds, isDigit c = true) ∧ ds.length ≤ digitLimit

/-- **The text comes to a long s**: numbers with units, and then a number that a long s follows. -/
inductive ReachesLongS : Text → Prop
  | here {ds : Text} (t : Text) : IsRun ds → ReachesLongS (ds ++ longS :: t)
  | later {ds t : Text} {u : Char} : IsRun ds → (unitSeconds? u).isSome = true → ReachesLongS t →
      ReachesLongS (ds ++ u :: t)

theorem unitSeconds?_longS : unitSeconds? longS = none := by decide

theorem isDigit_longS : isDigit longS = false := by decide

theorem letter_of_isSome {c : Char} (h : (unitSeconds? c).isSome = true) :
    (65 ≤ c.toNat ∧ c.toNat ≤ 90) ∨ (97 ≤ c.toNat ∧ c.toNat ≤ 122) := by
  by_cases hupper : c.val ≥ 'A'.val ∧ c.val ≤ 'Z'.val
  · exact .inl ⟨UInt32.le_iff_toNat_le.1 hupper.1, UInt32.le_iff_toNat_le.1 hupper.2⟩
  · have hlower : c.toLower = c := dif_neg hupper
    unfold unitSeconds? at h
    rw [hlower] at h
    split at h
    · decide
    · decide
    · decide
    · decide
    · decide
    · cases h

theorem isDigit_of_isSome {c : Char} (h : (unitSeconds? c).isSome = true) : isDigit c = false := by
  have hletter := letter_of_isSome h
  have hlt : c.toNat < 128 := by omega
  have hout : ¬ (48 ≤ c.toNat ∧ c.toNat ≤ 57) := by omega
  unfold isDigit Text.digitValue?
  rw [if_pos hlt, if_neg (by simpa using hout)]
  rfl

theorem readOn_cons (whole : Text) (total : Nat) (run : Option Run) (c : Char) (t : Text) :
    readOn whole total run (c :: t) =
      match Text.digitValue? c with
      | some d => readOn whole total (some ⟨(run.getD ⟨0, 0⟩).value * 10 + d, (run.getD ⟨0, 0⟩).digits + 1⟩) t
      | none =>
        match run with
        | none => .error (.badDuration (.str whole))
        | some run =>
          match run.finish with
          | .error fault => .error fault
          | .ok n =>
            if isUnit c then
              match unitSeconds? c with
              | some s => readOn whole (total + n * s) none t
              | none => .error (.unknownUnit c)
            else .error (.badDuration (.str whole)) := by
  cases run <;> rfl

theorem readOn_digits (whole : Text) (total : Nat) : ∀ (ds rest : Text) (run : Run), (∀ c ∈ ds, isDigit c = true) →
    readOn whole total (some run) (ds ++ rest) =
      readOn whole total (some ⟨Numeral.valueFrom run.value ds, run.digits + ds.length⟩) rest
  | [], _, _, _ => rfl
  | c :: ds, rest, run, h => by
    obtain ⟨d, hd⟩ := Option.isSome_iff_exists.1 (h c List.mem_cons_self)
    rw [List.cons_append, readOn_cons, hd, Numeral.valueFrom_cons, hd]
    simp only [Option.getD_some, List.length_cons]
    rw [readOn_digits whole total ds rest _ (fun x hx => h x (List.mem_cons_of_mem c hx)), Nat.add_right_comm,
      Nat.add_assoc]

theorem readOn_number (whole : Text) (total : Nat) {ds : Text} (hne : ds ≠ []) (hds : ∀ c ∈ ds, isDigit c = true)
    (rest : Text) :
    readOn whole total none (ds ++ rest) = readOn whole total (some ⟨Numeral.valueFrom 0 ds, ds.length⟩) rest := by
  have hstart : readOn whole total none (ds ++ rest) = readOn whole total (some ⟨0, 0⟩) (ds ++ rest) := by
    cases ds with
    | nil => exact absurd rfl hne
    | cons c ds =>
      obtain ⟨d, hd⟩ := Option.isSome_iff_exists.1 (hds c List.mem_cons_self)
      rw [List.cons_append, readOn_cons, readOn_cons, hd]
      rfl
  rw [hstart, readOn_digits whole total ds rest _ hds, Nat.zero_add]

/-- **A number and the character after it.** -/
theorem readOn_segment (whole : Text) (total : Nat) {ds : Text} (hne : ds ≠ []) (hds : ∀ c ∈ ds, isDigit c = true)
    {u : Char} (hu : isDigit u = false) (t : Text) :
    readOn whole total none (ds ++ u :: t) =
      if digitLimit < ds.length then .error (.tooLong ds.length)
      else if isUnit u = true then
        match unitSeconds? u with
        | some s => readOn whole (total + Numeral.valueFrom 0 ds * s) none t
        | none => .error (.unknownUnit u)
      else .error (.badDuration (.str whole)) := by
  have hnone : Text.digitValue? u = none := by
    simpa [isDigit] using hu
  rw [readOn_number whole total hne hds, readOn_cons, hnone]
  by_cases hlen : digitLimit < ds.length
  · have hfinish : Run.finish ⟨Numeral.valueFrom 0 ds, ds.length⟩ = .error (.tooLong ds.length) := if_pos hlen
    simp [hfinish, hlen]
  · have hfinish : Run.finish ⟨Numeral.valueFrom 0 ds, ds.length⟩ = .ok (Numeral.valueFrom 0 ds) := if_neg hlen
    cases unitSeconds? u <;> simp [hfinish, hlen]

theorem readOn_last (whole : Text) (total : Nat) {ds : Text} (hne : ds ≠ []) (hds : ∀ c ∈ ds, isDigit c = true) :
    readOn whole total none ds =
      if digitLimit < ds.length then .error (.tooLong ds.length) else .ok ⟨total + Numeral.valueFrom 0 ds⟩ := by
  have h := readOn_number whole total hne hds []
  rw [List.append_nil] at h
  have hend : readOn whole total (some ⟨Numeral.valueFrom 0 ds, ds.length⟩) [] =
      (Run.finish ⟨Numeral.valueFrom 0 ds, ds.length⟩).map fun n => ⟨total + n⟩ := rfl
  rw [h, hend, Run.finish]
  split <;> rfl

/-- **A duration is read back from its seconds.** -/
theorem parse_text {d : Duration} (h : Numeral.isWritable d.seconds = true) : parse d.text = .ok d := by
  have hdigit : ∀ c ∈ Text.ofNat d.seconds, isDigit c = true :=
    fun c hc => Text.isDigit_of_isDigit (Text.isDigit_of_mem_ofNat hc)
  have hne := Text.ofNat_ne_nil d.seconds
  have hlen := Numeral.isWritable_iff_length.1 h
  unfold parse text
  rw [Text.trim_ofNat, if_neg (by simpa using hne), readOn_last _ _ hne hdigit, if_neg (by omega),
    Numeral.valueFrom_ofNat, Nat.zero_add]

/-! ## The long s -/

theorem takeWhile_run {ds : Text} (hds : ∀ c ∈ ds, isDigit c = true) {u : Char} (hu : isDigit u = false) (t : Text) :
    (ds ++ u :: t).takeWhile isDigit = ds := by
  rw [List.takeWhile_append_of_pos hds, List.takeWhile_cons_of_neg (by simp [hu]), List.append_nil]

/-- **Only one number stands at the start of a text.** -/
theorem reachesLongS_iff {ds : Text} (hne : ds ≠ []) (hds : ∀ c ∈ ds, isDigit c = true) {u : Char}
    (hu : isDigit u = false) (t : Text) :
    ReachesLongS (ds ++ u :: t) ↔
      ds.length ≤ digitLimit ∧ (u = longS ∨ ((unitSeconds? u).isSome = true ∧ ReachesLongS t)) := by
  have huniq : ∀ {ds' t' : Text} {u' : Char}, (∀ c ∈ ds', isDigit c = true) → isDigit u' = false →
      ds ++ u :: t = ds' ++ u' :: t' → ds = ds' ∧ u = u' ∧ t = t' := by
    intro ds' t' u' hds' hu' h
    have htake := congrArg (List.takeWhile isDigit) h
    rw [takeWhile_run hds hu, takeWhile_run hds' hu'] at htake
    subst htake
    have htail := List.append_cancel_left h
    rw [List.cons.injEq] at htail
    exact ⟨rfl, htail⟩
  constructor
  · intro h
    generalize hwhole : ds ++ u :: t = whole at h
    cases h with
    | here t' hrun =>
      obtain ⟨rfl, rfl, -⟩ := huniq hrun.2.1 isDigit_longS hwhole
      exact ⟨hrun.2.2, .inl rfl⟩
    | later hrun hunit hrest =>
      obtain ⟨rfl, rfl, rfl⟩ := huniq hrun.2.1 (isDigit_of_isSome hunit) hwhole
      exact ⟨hrun.2.2, .inr ⟨hunit, hrest⟩⟩
  · rintro ⟨hlen, rfl | ⟨hunit, hrest⟩⟩
    · exact .here t ⟨hne, hds, hlen⟩
    · exact .later ⟨hne, hds, hlen⟩ hunit hrest

theorem ReachesLongS.exists_run {t : Text} (h : ReachesLongS t) :
    ∃ ds u rest, t = ds ++ u :: rest ∧ ds ≠ [] ∧ (∀ c ∈ ds, isDigit c = true) ∧ isDigit u = false := by
  cases h with
  | here t hrun => exact ⟨_, _, _, rfl, hrun.1, hrun.2.1, isDigit_longS⟩
  | later hrun hunit _ => exact ⟨_, _, _, rfl, hrun.1, hrun.2.1, isDigit_of_isSome hunit⟩

theorem not_reachesLongS_of_head {t : Text} (ht : ∀ x ∈ t.head?, isDigit x = false) : ¬ ReachesLongS t := by
  intro h
  obtain ⟨ds, u, rest, rfl, hne, hds, -⟩ := h.exists_run
  obtain ⟨d, ds, rfl⟩ := List.exists_cons_of_ne_nil hne
  have hd := ht d rfl
  rw [hds d List.mem_cons_self] at hd
  cases hd

theorem not_reachesLongS_of_digits {ds : Text} (hds : ∀ c ∈ ds, isDigit c = true) : ¬ ReachesLongS ds := by
  intro h
  obtain ⟨ds', u, rest, rfl, -, -, hu⟩ := h.exists_run
  rw [hds u (List.mem_append_right _ List.mem_cons_self)] at hu
  cases hu

theorem exists_digits (t : Text) : ∃ ds rest, t = ds ++ rest ∧ (∀ c ∈ ds, isDigit c = true) ∧
    ∀ u ∈ rest.head?, isDigit u = false := by
  refine ⟨t.takeWhile isDigit, t.dropWhile isDigit, List.takeWhile_append_dropWhile.symm,
    fun _ hc => List.mem_takeWhile_imp hc, fun u hu => ?_⟩
  have hfirst := List.head?_dropWhile_not isDigit t
  rw [hu] at hfirst
  exact hfirst

theorem isUnit_iff {u : Char} : isUnit u = true ↔ (unitSeconds? u).isSome = true ∨ u = longS := by
  unfold isUnit
  rw [Bool.or_eq_true, decide_eq_true_eq]
  exact or_congr_right (Char.toNat_inj (d := longS))

/-- **Reading ends at a letter that stands for no unit exactly when the text comes to a long s.**  Each step of the
induction takes one number and its unit away. -/
theorem readOn_eq_unknownUnit_iff (whole : Text) (c : Char) (t : Text) (total : Nat) :
    readOn whole total none t = .error (.unknownUnit c) ↔ c = longS ∧ ReachesLongS t := by
  obtain ⟨ds, rest, ht, hds, hrest⟩ := exists_digits t
  rw [ht]
  -- without a number at the start there is nothing that a long s could follow
  by_cases hne : ds = []
  · subst hne
    have hno := not_reachesLongS_of_head hrest
    cases rest with
    | nil =>
      have hend : readOn whole total none [] = .ok ⟨total⟩ := rfl
      simp [hend, hno]
    | cons u rest =>
      have hvalue : Text.digitValue? u = none := by simpa [isDigit] using hrest u rfl
      simp [readOn_cons, hvalue, hno]
  cases rest with
  | nil =>
    rw [List.append_nil, readOn_last whole total hne hds]
    split <;> simp [not_reachesLongS_of_digits hds]
  | cons u rest =>
    have hu : isDigit u = false := hrest u rfl
    rw [readOn_segment whole total hne hds hu, reachesLongS_iff hne hds hu]
    by_cases hlong : digitLimit < ds.length
    · rw [if_pos hlong]
      simp [Nat.not_le.2 hlong]
    rw [if_neg hlong]
    cases hunit : unitSeconds? u with
    | some s =>
      have hnot : u ≠ longS := by
        rintro rfl
        rw [unitSeconds?_longS] at hunit
        cases hunit
      have ih := readOn_eq_unknownUnit_iff whole c rest (total + Numeral.valueFrom 0 ds * s)
      rw [if_pos (isUnit_iff.2 (.inl (by rw [hunit]; rfl)))]
      simp [ih, hnot, Nat.not_lt.1 hlong]
    | none =>
      by_cases hu : u = longS
      · rw [if_pos (isUnit_iff.2 (.inr hu))]
        simp [hu, Nat.not_lt.1 hlong, eq_comm]
      · rw [if_neg (by simp [isUnit_iff, hunit, hu])]
        simp [hu]
termination_by t.length
decreasing_by
  rw [ht, List.length_append, List.length_cons]
  omega

/-- **A duration is refused for a letter that stands for no unit exactly when it comes to a long s.** -/
theorem parse_eq_unknownUnit_iff {t : Text} {c : Char} :
    parse t = .error (.unknownUnit c) ↔ c = longS ∧ ReachesLongS (Text.trim t) := by
  unfold parse
  by_cases hempty : (Text.trim t).isEmpty = true
  · have hno : ¬ ReachesLongS (Text.trim t) := not_reachesLongS_of_head (by simp [List.isEmpty_iff.1 hempty])
    rw [if_pos hempty]
    simp [hno]
  · rw [if_neg hempty]
    exact readOn_eq_unknownUnit_iff _ c _ 0

end Duration
end SshConfig
