import SshConfig.ConfigFile.Load
import SshConfig.Proofs.Session
/-!
# Load — reading options and sources only reads

What inline options and the lines of a source are read as is what they are without a session, in every session
(`outcome_readOptions`, `outcome_readLines`): the remarks on unknown options change nothing.
-/
namespace SshConfig

namespace Act

theorem readOptions_eq (options : List Text) : readOptions options =
    remarkAll (Settings.unsupported 1 Settings.empty options) >>= fun _ =>
      ofExcept ((Settings.ofOptions options).mapError Fault.ofRefusal) := by
  unfold readOptions
  cases Settings.ofOptions options <;> rfl

theorem readLines_eq (source : Text) (lines : List Text) : readLines source lines =
    remarkAll (ConfigFile.unsupported source lines) >>= fun _ =>
      ofExcept ((ConfigFile.ofLines source lines).mapError Fault.ofRefusal) >>= fun file =>
        debug .parser ("Parsed " ++ source ++ ": " ++ Text.ofNat file.entries.length ++ " host entries") >>= fun _ =>
          pure file := by
  unfold readLines
  cases ConfigFile.ofLines source lines <;> rfl

namespace IsReading

theorem remarkAll : ∀ keys : List (Nat × Text), (Act.remarkAll keys).IsReading
  | [] => pure ()
  | (_, _) :: rest => bind (debug _ _) fun _ => remarkAll rest

theorem readOptions (options : List Text) : (Act.readOptions options).IsReading := by
  rw [readOptions_eq]
  exact bind (remarkAll _) fun _ => ofExcept _

theorem readLines (source : Text) (lines : List Text) : (Act.readLines source lines).IsReading := by
  rw [readLines_eq]
  exact bind (remarkAll _) fun _ => bind (ofExcept _) fun f => bind (debug _ _) fun _ => pure f

theorem configAt (path : Text) : (Act.configAt path).IsReading :=
  bind (text path) fun t => readLines (FilePath.normal path) (Text.lines t)

theorem readOptionalFile (path : Text) : (Act.readOptionalFile path).IsReading :=
  rescue (map (configAt path) some) (excused .loader fun f => "Skipping config file " ++ path ++ ": " ++ f.message)

end IsReading

variable (env : Environment) (tree : FileTree)

theorem outcome_remarkAll : ∀ keys : List (Nat × Text), (remarkAll keys).outcome env tree = .ok ()
  | [] => rfl
  | (n, key) :: rest => by
    unfold remarkAll remarkUnsupported
    rw [outcome_bind (IsReading.debug _ _) fun _ => IsReading.remarkAll rest]
    exact outcome_remarkAll rest

/-- **Inline options are read in a session as they are without one.** -/
theorem outcome_readOptions (options : List Text) :
    (readOptions options).outcome env tree = (Settings.ofOptions options).mapError Fault.ofRefusal := by
  rw [readOptions_eq, outcome_bind (IsReading.remarkAll _) fun _ => IsReading.ofExcept _, outcome_remarkAll]
  exact outcome_ofExcept _ env tree

theorem readOptions_fst (options : List Text) (s : Session) :
    (readOptions options s).1 = (Settings.ofOptions options).mapError Fault.ofRefusal :=
  ((IsReading.readOptions options).run_fst s).trans (outcome_readOptions _ _ options)

/-- **Lines are read in a session as they are without one.** -/
theorem outcome_readLines (source : Text) (lines : List Text) :
    (readLines source lines).outcome env tree = (ConfigFile.ofLines source lines).mapError Fault.ofRefusal := by
  have hlast : ∀ file : ConfigFile, (debug .parser ("Parsed " ++ source ++ ": " ++ Text.ofNat file.entries.length ++
      " host entries") >>= fun _ => (pure file : Act ConfigFile)).IsReading :=
    fun file => IsReading.bind (IsReading.debug _ _) fun _ => IsReading.pure file
  rw [readLines_eq, outcome_bind (IsReading.remarkAll _) fun _ => IsReading.bind (IsReading.ofExcept _) hlast,
    outcome_remarkAll]
  simp only [Except.bind]
  rw [outcome_bind (IsReading.ofExcept _) hlast, outcome_ofExcept]
  cases ConfigFile.ofLines source lines <;> rfl

theorem readLines_fst (source : Text) (lines : List Text) (s : Session) :
    (readLines source lines s).1 = (ConfigFile.ofLines source lines).mapError Fault.ofRefusal :=
  ((IsReading.readLines source lines).run_fst s).trans (outcome_readLines _ _ source lines)

theorem outcome_readConfig (source text : Text) :
    (readConfig source text).outcome env tree = (ConfigFile.ofText source text).mapError Fault.ofRefusal :=
  outcome_readLines env tree source (Text.lines text)

theorem outcome_configAt (path : Text) : (configAt path).outcome env tree =
    ((text path).outcome env tree).bind fun t =>
      (ConfigFile.ofText (FilePath.normal path) t).mapError Fault.ofRefusal := by
  have hread : ∀ t, (readConfig (FilePath.normal path) t).IsReading := fun t => IsReading.readLines _ _
  unfold configAt
  rw [outcome_bind (IsReading.text path) hread]
  simp only [outcome_readConfig]

theorem outcome_readOptionalFile (path : Text) :
    (readOptionalFile path).outcome env tree = Fault.excuse ((configAt path).outcome env tree) :=
  outcome_excusing (IsReading.configAt path) .loader (fun f => "Skipping config file " ++ path ++ ": " ++ f.message) env
    tree

/-- **A source is absent exactly if its file is missing or may not be read.** -/
theorem outcome_readOptionalFile_eq_none_iff {path : Text} : (readOptionalFile path).outcome env tree = .ok none ↔
    ∃ f, (text path).outcome env tree = .error (.os f) ∧ f.cause.isExcused = true := by
  rw [outcome_readOptionalFile, Fault.excuse_eq_none_iff, outcome_configAt]
  constructor
  · rintro ⟨fault, h, hexcused⟩
    rcases bind_eq_error_iff.1 h with htext | ⟨t, -, h⟩
    · cases fault with
      | os f => exact ⟨f, htext, hexcused⟩
      | _ => cases hexcused
    · obtain ⟨r, -, rfl⟩ := mapError_eq_error_iff.1 h
      have hnever : (Fault.ofRefusal r).isExcused = false := by
        unfold Fault.ofRefusal Fault.ofComplaint
        split <;> rfl
      rw [hnever] at hexcused
      cases hexcused
  · rintro ⟨f, htext, hf⟩
    exact ⟨.os f, bind_eq_error_iff.2 (.inl htext), hf⟩

end Act
end SshConfig
