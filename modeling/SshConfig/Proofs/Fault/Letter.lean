import SshConfig.Json.Reader
import SshConfig.Proofs.ConfigFile.Load
import SshConfig.Proofs.ConfigFile.Sections
import SshConfig.Proofs.Duration
import SshConfig.Proofs.ReadsOn
/-!
# Letter — the one fault that passes the readers

Whatever is wrong with a text, with inline options or with a document is told as a refused line or as a cause of a
failed merge, with one exception: a duration that comes to a long s ends in the fault of a letter that stands for no
unit, and that fault passes.  Each reader stops at the first thing that is wrong, so it lets the letter pass exactly
when that is such a duration (`ofLines_letter_iff`, `ofOptions_letter_iff`, `ofJson_letter_iff`).
-/
namespace SshConfig

/-! ## One value -/

/-- The letter of a value's fault that passes. -/
def ValueFault.letter? : ValueFault → Option Char
  | .unknownUnit c => some c
  | _ => none

theorem Kind.letter?_integerOf {v : Json} {fault : ValueFault} (h : integerOf v = .error fault) :
    fault.letter? = none := by
  unfold integerOf at h
  split at h
  · cases h
    rfl
  · cases h
  · split at h <;> cases h <;> rfl

theorem Kind.letter?_naturalOf {v : Json} {fault : ValueFault} (h : naturalOf v = .error fault) :
    fault.letter? = none := by
  unfold naturalOf at h
  split at h
  · split at h <;> cases h
    rfl
  · rename_i hfault
    cases h
    exact letter?_integerOf hfault

theorem Kind.letter?_decode {k : Kind} (hk : k ≠ .duration) {v : Json} {fault : ValueFault}
    (h : k.decode v = .error fault) : fault.letter? = none := by
  cases k with
  | port =>
    simp only [decode, portOf] at h
    split at h
    · split at h <;> cases h
      rfl
    · rename_i hfault
      cases h
      exact letter?_naturalOf hfault
  | count => exact letter?_naturalOf h
  | flag =>
    simp only [decode, Flag.ofJson] at h
    split at h
    · cases h
    · split at h <;> cases h
      rfl
    · cases h
      rfl
  | text =>
    simp only [decode, textOf] at h
    split at h <;> cases h
    rfl
  | duration => exact absurd rfl hk

/-- **Only a duration comes to a letter**, and only when its text comes to a long s. -/
theorem Kind.decode_letter_iff {k : Kind} {v : Json} {c : Char} :
    (∃ fault, k.decode v = .error fault ∧ fault.letter? = some c) ↔
      c = Duration.longS ∧ k = .duration ∧ ∃ t, v = .str t ∧ Duration.ReachesLongS (Text.trim t) := by
  by_cases hk : k = .duration
  swap
  · simp only [hk, false_and, and_false, iff_false]
    rintro ⟨fault, h, hletter⟩
    rw [letter?_decode hk h] at hletter
    cases hletter
  subst hk
  constructor
  · rintro ⟨fault, h, hletter⟩
    obtain rfl : fault = .unknownUnit c := by
      cases fault <;> cases hletter
      rfl
    simp only [decode, Duration.ofJson] at h
    split at h
    · split at h <;> cases h
    · rename_i t
      obtain ⟨hc, ht⟩ := Duration.parse_eq_unknownUnit_iff.1 h
      exact ⟨hc, rfl, t, rfl, ht⟩
    · cases h
  · rintro ⟨hc, -, t, rfl, ht⟩
    exact ⟨.unknownUnit c, Duration.parse_eq_unknownUnit_iff.2 ⟨hc, ht⟩, rfl⟩

namespace Settings

/-- The key is that of a duration, and the value a text that comes to a long s. -/
def BringsLongS (key : Text) (value : Json) : Prop :=
  ∃ k t, Keyword.ofText? key = some k ∧ k.kind = .duration ∧ value = .str t ∧ Duration.ReachesLongS (Text.trim t)

/-- The option line gives a duration a text that comes to a long s. -/
def LineBringsLongS (line : Text) : Prop :=
  ∃ key value, splitLine line = some (key, value) ∧ BringsLongS key (.str value)

theorem assign_letter_iff (s : Settings) (key : Text) (value : Json) {c : Char} :
    (∃ fault, s.assign key value = .error (.refused fault) ∧ fault.letter? = some c) ↔
      c = Duration.longS ∧ BringsLongS key value := by
  unfold assign BringsLongS
  cases hk : Keyword.ofText? key with
  | none => simp
  | some k =>
    have hvalue := Kind.decode_letter_iff (k := k.kind) (v := value) (c := c)
    cases hv : k.kind.decode value with
    | ok v =>
      simp only [hv, reduceCtorEq, false_and, exists_false, false_iff] at hvalue ⊢
      rintro ⟨hc, k', t, hk', hrest⟩
      cases hk'
      exact hvalue ⟨hc, hrest.1, t, hrest.2⟩
    | error fault =>
      simp only [hv, Except.error.injEq, AssignFault.refused.injEq, exists_eq_left'] at hvalue ⊢
      rw [hvalue]
      constructor
      · rintro ⟨hc, hkind, t, ht⟩
        exact ⟨hc, k, t, rfl, hkind, ht⟩
      · rintro ⟨hc, k', t, hk', hkind, ht⟩
        cases hk'
        exact ⟨hc, hkind, t, ht⟩

end Settings

/-! ## One line -/

/-- The letter of a complaint that passes. -/
def Complaint.letter? : Complaint → Option Char
  | .badValue _ fault => fault.letter?
  | _ => none

theorem Settings.applyLine_letter_iff {missing : Complaint} (hmissing : missing.letter? = none) (s : Settings)
    (line : Text) {c : Char} :
    (∃ cause, s.applyLine missing line = .error cause ∧ cause.letter? = some c) ↔
      c = Duration.longS ∧ LineBringsLongS line := by
  unfold applyLine LineBringsLongS
  cases hsplit : splitLine line with
  | none => simp [hmissing]
  | some p =>
    obtain ⟨key, value⟩ := p
    have hassign := assign_letter_iff s key (.str value) (c := c)
    simp only [Option.some.injEq, Prod.mk.injEq]
    unfold apply
    cases hset : s.assign key (.str value) with
    | ok t => simp_all
    | error fault => cases fault <;> simp_all [Complaint.letter?]

namespace ConfigFile

open Line (isSignificant isIndented isHost)

theorem Progress.step_letter_iff {p : Progress} {n : Nat} {raw : Text} {c : Char} :
    (∃ cause, p.step n (Line.ofText (Line.strip raw)) = .error cause ∧ cause.letter? = some c) ↔
      isSignificant raw = true ∧ isHost raw = false ∧ isIndented raw = p.opened ∧ c = Duration.longS ∧
        Settings.LineBringsLongS (Text.trim raw) := by
  have hmissing : Complaint.noDelimiter.letter? = none := rfl
  rw [← Settings.applyLine_letter_iff hmissing Settings.empty (Text.trim raw), step_eq]
  by_cases hsig : isSignificant raw = false
  · simp [hsig]
  · by_cases hhost : isHost raw = true
    · by_cases htok : Line.hostTokens raw = [] <;> simp [hsig, hhost, htok, Complaint.letter?]
    · by_cases hind : isIndented raw = p.opened
      · cases Settings.empty.applyLine .noDelimiter (Text.trim raw) <;> simp [hsig, hhost, hind, Except.map]
      · cases hopen : p.opened <;> simp [hsig, hhost, hopen ▸ hind, Complaint.letter?]

end ConfigFile

/-! ## The first thing that is wrong -/

/-- **A source ends in a letter exactly when the first line that is not accepted brings a long s.** -/
theorem ConfigFile.ofLines_letter_iff {source : Text} {lines : List Text} {c : Char} :
    (∃ r, ofLines source lines = .error r ∧ r.cause.letter? = some c) ↔
      c = Duration.longS ∧ ∃ before raw after, lines = before ++ raw :: after ∧ (∃ f, ofLines source before = .ok f) ∧
        Line.isSignificant raw = true ∧ Line.isHost raw = false ∧ Line.isIndented raw = before.any Line.isHost ∧
        Settings.LineBringsLongS (Text.trim raw) := by
  simp only [ofLines_error_iff, exists_ofLines_iff, (Progress.readsOn_lines source).error_iff]
  constructor
  · rintro ⟨r, ⟨before, raw, after, q, rfl, hq, hbad⟩, hletter⟩
    cases hstep : q.step (1 + before.length) (Line.ofText (Line.strip raw)) with
    | ok next =>
      rw [hstep] at hbad
      cases hbad
    | error cause =>
      rw [hstep] at hbad
      cases hbad
      obtain ⟨hsig, hhost, hind, hc, hlong⟩ := Progress.step_letter_iff.1 ⟨cause, hstep, hletter⟩
      rw [Progress.opened_of_readOn hq] at hind
      exact ⟨hc, before, raw, after, rfl, ⟨q, hq⟩, hsig, hhost, hind, hlong⟩
  · rintro ⟨hc, before, raw, after, rfl, ⟨q, hq⟩, hsig, hhost, hind, hlong⟩
    have hopened : Line.isIndented raw = q.opened := hind.trans (Progress.opened_of_readOn hq).symm
    obtain ⟨cause, hstep, hletter⟩ := Progress.step_letter_iff (n := 1 + before.length).2
      ⟨hsig, hhost, hopened, hc, hlong⟩
    exact ⟨_, ⟨before, raw, after, q, rfl, hq, by rw [hstep]; rfl⟩, hletter⟩

/-- **Inline options end in a letter exactly when the first that is not accepted brings a long s.** -/
theorem Settings.ofOptions_letter_iff {options : List Text} {c : Char} :
    (∃ r, ofOptions options = .error r ∧ r.cause.letter? = some c) ↔
      c = Duration.longS ∧ ∃ before option after, options = before ++ option :: after ∧
        (∃ s, ofOptions before = .ok s) ∧ LineBringsLongS (Text.trim option) := by
  have hmissing : Complaint.noOptionDelimiter.letter? = none := rfl
  unfold ofOptions
  simp only [readsOn_options.error_iff]
  constructor
  · rintro ⟨r, ⟨before, option, after, s, rfl, hs, hbad⟩, hletter⟩
    cases hline : s.applyLine .noOptionDelimiter (Text.trim option) with
    | ok t =>
      rw [hline] at hbad
      cases hbad
    | error cause =>
      rw [hline] at hbad
      cases hbad
      obtain ⟨hc, hlong⟩ := (applyLine_letter_iff hmissing s _).1 ⟨cause, hline, hletter⟩
      exact ⟨hc, before, option, after, rfl, ⟨s, hs⟩, hlong⟩
  · rintro ⟨hc, before, option, after, rfl, ⟨s, hs⟩, hlong⟩
    obtain ⟨cause, hline, hletter⟩ := (applyLine_letter_iff hmissing s _).2 ⟨hc, hlong⟩
    exact ⟨_, ⟨before, option, after, s, rfl, hs, by rw [hline]; rfl⟩, hletter⟩

/-- The letter of a cause that passes. -/
def MergeCause.letter? : MergeCause → Option Char
  | .badMember _ fault => fault.letter?
  | _ => none

theorem Settings.decodeMember_letter_iff {s : Settings} {key : Text} {value : Json} {c : Char} :
    (∃ cause, s.decodeMember key value = .error cause ∧ cause.letter? = some c) ↔
      c = Duration.longS ∧ BringsLongS key value := by
  have hassign := assign_letter_iff s key value (c := c)
  rw [← hassign]
  unfold decodeMember
  split
  · have hnull : ¬ BringsLongS key .null := by
      rintro ⟨k, t, -, -, h, -⟩
      cases h
    simp [hassign, hnull]
  · cases s.assign key value with
    | ok t => simp
    | error fault => cases fault <;> simp [MergeCause.letter?]

/-- **A document ends in a letter exactly when the first member that is not accepted brings a long s.** -/
theorem Settings.ofJson_letter_iff {v : Json} {c : Char} :
    (∃ cause, ofJson v = .error cause ∧ cause.letter? = some c) ↔
      c = Duration.longS ∧ ∃ before key value after, v = .obj (before ++ (key, value) :: after) ∧
        (∃ s, ofJson (.obj before) = .ok s) ∧ BringsLongS key value := by
  unfold ofJson
  split
  · rename_i members
    simp only [readsOn_members.error_iff (n := 0)]
    constructor
    · rintro ⟨cause, ⟨before, ⟨key, value⟩, after, s, rfl, hs, hbad⟩, hletter⟩
      obtain ⟨hc, hlong⟩ := decodeMember_letter_iff.1 ⟨cause, hbad, hletter⟩
      exact ⟨hc, before, key, value, after, rfl, ⟨s, hs⟩, hlong⟩
    · rintro ⟨hc, before, key, value, after, hv, ⟨s, hs⟩, hlong⟩
      cases hv
      obtain ⟨cause, hbad, hletter⟩ := (decodeMember_letter_iff (s := s)).2 ⟨hc, hlong⟩
      exact ⟨cause, ⟨before, (key, value), after, s, rfl, hs, hbad⟩, hletter⟩
  · rename_i hobj
    constructor
    · rintro ⟨cause, h, hletter⟩
      cases h
      cases hletter
    · rintro ⟨-, before, key, value, after, hv, -⟩
      exact absurd hv (hobj _)

/-! ## What callers are told -/

namespace Fault

/-- **A complaint is told as a refused line**, and its letter passes. -/
theorem ofComplaint_eq (cause : Complaint) (place : Place) : ofComplaint cause place =
    match cause.letter? with
    | some c => .value (.unknownUnit c)
    | none => .config (.refused (cause.told place) {}) := by
  cases cause with
  | badValue key fault => cases fault <;> rfl
  | _ => rfl

theorem ofMergeCause_eq (cause : MergeCause) : ofMergeCause cause =
    match cause.letter? with
    | some c => .value (.unknownUnit c)
    | none => .config (.merge cause {}) := by
  cases cause with
  | badMember key fault => cases fault <;> rfl
  | _ => rfl

/-- A reading whose faults are told by `tell`, all but the letter of a fault as a failure of the configuration, and that
ends in a letter exactly if `P`. -/
theorem contained {α ε : Type} {tell : ε → Fault} {letter? : ε → Option Char} {own : ε → ConfigError}
    (htell : ∀ e, tell e = match letter? e with
      | some c => .value (.unknownUnit c)
      | none => .config (own e))
    {x : Except ε α} {P : Prop}
    (hletter : ∀ c, (∃ e, x = .error e ∧ letter? e = some c) ↔ c = Duration.longS ∧ P) :
    ((∃ a, x.mapError tell = .ok a) ∨ (∃ e, x.mapError tell = .error (.config (own e))) ∨
      x.mapError tell = .error (.value (.unknownUnit Duration.longS))) ∧
    (x.mapError tell = .error (.value (.unknownUnit Duration.longS)) ↔ P) := by
  cases x with
  | ok a => exact ⟨.inl ⟨a, rfl⟩, by simpa [Except.mapError] using hletter Duration.longS⟩
  | error e =>
    have hlong := hletter Duration.longS
    simp only [Except.mapError, htell, Except.error.injEq, exists_eq_left', true_and] at hlong hletter ⊢
    cases hc : letter? e with
    | none =>
      rw [hc] at hlong
      exact ⟨.inr (.inl ⟨e, rfl⟩), by simpa using hlong⟩
    | some c =>
      obtain ⟨rfl, hP⟩ := (hletter c).1 hc
      exact ⟨.inr (.inr rfl), iff_of_true rfl hP⟩

theorem contained_refusal {α : Type} {x : Except Refusal α} {P : Prop}
    (hletter : ∀ c, (∃ r, x = .error r ∧ r.cause.letter? = some c) ↔ c = Duration.longS ∧ P) :
    ((∃ a, x.mapError ofRefusal = .ok a) ∨ (∃ e, x.mapError ofRefusal = .error (.config (.refused e {}))) ∨
      x.mapError ofRefusal = .error (.value (.unknownUnit Duration.longS))) ∧
    (x.mapError ofRefusal = .error (.value (.unknownUnit Duration.longS)) ↔ P) := by
  obtain ⟨hcases, hiff⟩ := contained (fun r : Refusal => ofComplaint_eq r.cause r.place) hletter
  refine ⟨?_, hiff⟩
  rcases hcases with h | ⟨r, h⟩ | h
  · exact .inl h
  · exact .inr (.inl ⟨r.cause.told r.place, h⟩)
  · exact .inr (.inr h)

end Fault

open Fault in
/-- **The readers tell all that is wrong as a failure of the configuration, but for one letter.**  A text and inline
options end in a value or in a refused line, and a document in a value or in a failed merge, or each of them in the
fault of the long s; and in that one exactly when the first thing that is not accepted gives a duration a text that
comes to a long s.  The document is nested no deeper than one that is read; a deeper value could not be shown in the
cause of a failed merge. -/
theorem readers_contained (source text : Text) (options : List Text) (v : Json) (s : Session) :
    (((∃ f, (Act.readConfig source text s).1 = .ok f) ∨
        (∃ e, (Act.readConfig source text s).1 = .error (.config (.refused e {}))) ∨
        (Act.readConfig source text s).1 = .error (.value (.unknownUnit Duration.longS))) ∧
      ((Act.readConfig source text s).1 = .error (.value (.unknownUnit Duration.longS)) ↔
        ∃ before raw after, Text.lines text = before ++ raw :: after ∧
          (∃ f, ConfigFile.ofLines source before = .ok f) ∧ Line.isSignificant raw = true ∧ Line.isHost raw = false ∧
          Line.isIndented raw = before.any Line.isHost ∧ Settings.LineBringsLongS (Text.trim raw))) ∧
    (((∃ t, (Act.readOptions options s).1 = .ok t) ∨
        (∃ e, (Act.readOptions options s).1 = .error (.config (.refused e {}))) ∨
        (Act.readOptions options s).1 = .error (.value (.unknownUnit Duration.longS))) ∧
      ((Act.readOptions options s).1 = .error (.value (.unknownUnit Duration.longS)) ↔
        ∃ before option after, options = before ++ option :: after ∧ (∃ t, Settings.ofOptions before = .ok t) ∧
          Settings.LineBringsLongS (Text.trim option))) ∧
    (v.depth ≤ Json.readDepth →
      ((∃ t, (Settings.ofJson v).mapError ofMergeCause = .ok t) ∨
        (∃ cause, (Settings.ofJson v).mapError ofMergeCause = .error (.config (.merge cause {}))) ∨
        (Settings.ofJson v).mapError ofMergeCause = .error (.value (.unknownUnit Duration.longS))) ∧
      ((Settings.ofJson v).mapError ofMergeCause = .error (.value (.unknownUnit Duration.longS)) ↔
        ∃ before key value after, v = .obj (before ++ (key, value) :: after) ∧
          (∃ t, Settings.ofJson (.obj before) = .ok t) ∧ Settings.BringsLongS key value)) := by
  refine ⟨?_, ?_, ?_⟩
  · have hrun : (Act.readConfig source text s).1 = (ConfigFile.ofText source text).mapError ofRefusal :=
      ((Act.IsReading.readLines source (Text.lines text)).run_fst s).trans (Act.outcome_readConfig _ _ source text)
    rw [hrun]
    exact contained_refusal fun c => ConfigFile.ofLines_letter_iff
  · rw [(Act.IsReading.readOptions options).run_fst s, Act.outcome_readOptions]
    exact contained_refusal fun c => Settings.ofOptions_letter_iff
  · exact fun _ => contained ofMergeCause_eq fun c => Settings.ofJson_letter_iff

/-- A document whose second member comes to a long s. -/
def longDocument : Json :=
  .obj [("user", .str "alice"), ("connecttimeout", .str "1m10ſ")]

theorem readers_contained_longDocument : longDocument.depth ≤ Json.readDepth ∧
    (Settings.ofJson longDocument).mapError Fault.ofMergeCause = .error (.value (.unknownUnit Duration.longS)) := by
  have hdepth : longDocument.depth ≤ Json.readDepth := by decide
  have hminutes : Duration.IsRun ['1'] := ⟨by decide, List.all_eq_true.1 rfl, by decide⟩
  have hseconds : Duration.IsRun ['1', '0'] := ⟨by decide, List.all_eq_true.1 rfl, by decide⟩
  have hlong : Settings.BringsLongS "connecttimeout" (.str "1m10ſ") :=
    ⟨.connectTimeout, _, rfl, rfl, rfl, .later hminutes (by decide) (.here [] hseconds)⟩
  refine ⟨hdepth, ?_⟩
  exact ((readers_contained [] [] [] longDocument ⟨sampleEnvironment .keyless, FileTree.bare, [], [], []⟩).2.2
    hdepth).2.2 ⟨[("user", .str "alice")], _, _, [], rfl, ⟨_, rfl⟩, hlong⟩

/-- Ten seconds with a long s: neither a value nor a refused line. -/
theorem readOptions_not_contained :
    ¬ ∀ (options : List Text) (s : Session), (∃ t, (Act.readOptions options s).1 = .ok t) ∨
      ∃ e, (Act.readOptions options s).1 = .error (.config (.refused e {})) := by
  intro h
  have hpasses : ∀ s, (Act.readOptions ["ConnectTimeout=10ſ"] s).1 = .error (.value (.unknownUnit 'ſ')) := fun _ => rfl
  rcases h ["ConnectTimeout=10ſ"] ⟨sampleEnvironment .keyless, FileTree.bare, [], [], []⟩ with ⟨t, ht⟩ | ⟨e, he⟩
  · rw [hpasses] at ht
    cases ht
  · rw [hpasses] at he
    cases he

end SshConfig
