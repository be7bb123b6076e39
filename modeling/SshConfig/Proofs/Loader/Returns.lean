import SshConfig.Proofs.Effective.Faults
import SshConfig.Proofs.Loader
/-!
# Returns — when a look-up comes to an answer

A look-up comes to an answer unless a path that the settings name stops it (`lookup_error_iff`): what else goes wrong
while a verifier or an identity is made is the answer itself, or is passed over.
-/
namespace SshConfig
namespace Resolver

variable {overlay : Settings} {network address : Text} {fault : Fault}

theorem answered_error_iff {x : Except Fault Effective} : (match x with
    | .ok e => .ok (.found address e)
    | .error f => if f.failsLookup then .ok (.failed address f) else .error f : Except Fault Resolution) =
      .error fault ↔ fault.Escapes x := by
  unfold Fault.Escapes
  cases x with
  | ok e => simp
  | error f =>
    by_cases hfails : f.failsLookup = true
    · simp only [hfails, if_true, reduceCtorEq, Except.error.injEq, false_iff]
      rintro ⟨rfl, h⟩
      rw [hfails] at h
      cases h
    · simp only [hfails, Bool.false_eq_true, if_false, Except.error.injEq]
      exact ⟨fun h => ⟨h, h ▸ Bool.eq_false_iff.2 hfails⟩, And.left⟩

/-- **A source passes a fault on exactly if what it has for the address stops the look-up.** -/
theorem ofFile_error_iff {file : ConfigFile} {s : Session} :
    (ofFile file overlay network address s).1 = .error fault ↔
      ∃ block, file.lookup address = some block ∧
        Act.Stops (block.merge overlay) address s.environment s.tree fault := by
  rw [(isReading_ofFile file overlay network address).run_fst]
  cases hblock : file.lookup address with
  | none => simp [outcome_ofFile_none _ _ overlay network hblock]
  | some block =>
    rw [outcome_ofFile_some _ _ overlay network hblock]
    simp only [Option.some.injEq, exists_eq_left']
    exact answered_error_iff.trans Act.escapes_buildEffective_iff

/-- **A chain passes a fault on exactly if its first source that has something does.** -/
theorem outcome_chain_error_iff {files : List ConfigFile} {env : Environment} {tree : FileTree} :
    (chain (files.map fun f => ofFile f overlay) network address).outcome env tree = .error fault ↔
      ∃ earlier f later block, files = earlier ++ f :: later ∧ (∀ g ∈ earlier, g.lookup address = none) ∧
        f.lookup address = some block ∧ Act.Stops (block.merge overlay) address env tree fault := by
  constructor
  · intro h
    cases hfirst : files.findSome? (·.lookup address) with
    | none =>
      rw [outcome_chain_none env tree (List.findSome?_eq_none_iff.1 hfirst)] at h
      cases h
    | some block =>
      obtain ⟨earlier, f, later, rfl, hf, hearlier⟩ := List.findSome?_eq_some_iff.1 hfirst
      rw [outcome_chain_some env tree hearlier hf] at h
      exact ⟨earlier, f, later, block, rfl, hearlier, hf,
        Act.escapes_buildEffective_iff.1 (answered_error_iff.1 h)⟩
  · rintro ⟨earlier, f, later, block, rfl, hearlier, hf, h⟩
    rw [outcome_chain_some env tree hearlier hf]
    exact answered_error_iff.2 (Act.escapes_buildEffective_iff.2 h)

end Resolver

namespace Loader

/-- **When a look-up does not come to an answer.**  Exactly then a path that the settings for the address name stops it:
a home that is not known, a null character, or a key whose path in full is blank.  What the system or the library says
about a file is an answer.  So it is in a source by itself, and in an eager client whose trace returns, where it is the
first source that has something for the address. -/
theorem lookup_error_iff (network address : Text) (s : Session) (fault : Fault) :
    (∀ (file : ConfigFile) (overlay : Settings), (Resolver.ofFile file overlay network address s).1 = .error fault ↔
      ∃ block, file.lookup address = some block ∧
        Act.Stops (block.merge overlay) address s.environment s.tree fault) ∧
    (∀ (l : Loader) (s₀ s₁ : Session) (c : Client), l.onDemand = false →
      (∀ trace, l.trace = some trace → trace.Returns) → l.newClient s₀ = (.ok c, s₁) →
      ∃ files overlay, sourcesIn l.configFile l.defaults s₀.environment s₀.tree = .ok files ∧
        Settings.ofOptions l.options = .ok overlay ∧
        ((c.lookup network address s).1 = .error fault ↔
          ∃ earlier f later block, files = earlier ++ f :: later ∧ (∀ g ∈ earlier, g.lookup address = none) ∧
            f.lookup address = some block ∧ Act.Stops (block.merge overlay) address s.environment s.tree fault)) ∧
    ∀ settings : Settings, Act.Stops settings address s.environment s.tree fault →
      fault = .noHome ∨ fault = .nullInPath ∨ ∃ full, fault = .violation (.badKeyPath (.str full)) := by
  refine ⟨fun _ _ => Resolver.ofFile_error_iff, fun l s₀ s₁ c heager htrace hmade => ?_, fun _ h =>
    Act.fault_of_stops h⟩
  obtain ⟨files, overlay, identity, verifier, hfiles, hoverlay, -, -, hresolver⟩ := newClient_eager heager hmade
  refine ⟨files, overlay, hfiles, hoverlay, ?_⟩
  rw [lookup_fst htrace (isReading_layered files overlay identity verifier network address) hresolver s,
    outcome_layered, map_eq_error_iff, Resolver.outcome_chain_error_iff]

/-- The known hosts of every address are in the home of a user who has no account. -/
def homelessText : Text :=
  "Host *\n UserKnownHostsFile ~nosuchuser/x\n"

def homelessSession : Session where
  environment := sampleEnvironment .keyless
  tree := ⟨[(⟨false, ["user"]⟩, FileTree.file (Text.encode homelessText))]⟩

def homelessLoader : Loader where
  defaults := ⟨"user", "system", "known", "known2", []⟩

theorem lookup_error_iff_homeless : ∃ (c : Client) (s : Session) (files : List ConfigFile) (f : ConfigFile)
    (overlay block : Settings) (fault : Fault),
    homelessLoader.newClient homelessSession = (.ok c, s) ∧ (c.lookup "tcp" "h" homelessSession).1 = .error fault ∧
    sourcesIn homelessLoader.configFile homelessLoader.defaults homelessSession.environment homelessSession.tree =
      .ok files ∧ Settings.ofOptions homelessLoader.options = .ok overlay ∧ f ∈ files ∧ f.lookup "h" = some block ∧
    Act.Stops (block.merge overlay) "h" homelessSession.environment homelessSession.tree fault := by
  have hlookup : ((homelessLoader.newClient homelessSession).1.toOption.map fun c =>
      (c.lookup "tcp" "h" homelessSession).1.isOk) = some false := by
    decide +kernel
  obtain ⟨c, s, hmade, hlookup⟩ := Act.exists_of_map_run hlookup
  cases hstops : (c.lookup "tcp" "h" homelessSession).1 with
  | ok r =>
    rw [hstops] at hlookup
    cases hlookup
  | error fault =>
  obtain ⟨files, overlay, hfiles, hoverlay, hiff⟩ := (lookup_error_iff "tcp" "h" homelessSession fault).2.1
    homelessLoader homelessSession s c rfl (fun _ h => by cases h) hmade
  obtain ⟨earlier, f, later, block, rfl, -, hf, h⟩ := hiff.1 hstops
  exact ⟨c, s, _, f, overlay, block, fault, hmade, hstops, hfiles, hoverlay, by simp, hf, h⟩

/-- **A look-up does not always come to an answer.** -/
theorem lookup_not_answered : ¬ ∀ (text : Text) (options : List Text) (file : ConfigFile) (overlay : Settings)
    (network address : Text) (s : Session), ConfigFile.ofText "<string>" text = .ok file →
      Settings.ofOptions options = .ok overlay → ∃ r, (Resolver.ofFile file overlay network address s).1 = .ok r := by
  intro h
  have hstopped : ((ConfigFile.ofText "<string>" homelessText).toOption.bind fun file =>
      (Settings.ofOptions []).toOption.map fun overlay =>
        (Resolver.ofFile file overlay "tcp" "h" homelessSession).1.isOk) = some false := by
    decide +kernel
  cases hfile : ConfigFile.ofText "<string>" homelessText with
  | error refusal =>
    rw [hfile] at hstopped
    cases hstopped
  | ok file =>
  cases hoverlay : Settings.ofOptions [] with
  | error refusal =>
    rw [hfile, hoverlay] at hstopped
    cases hstopped
  | ok overlay =>
  obtain ⟨r, hr⟩ := h homelessText [] file overlay "tcp" "h" homelessSession hfile hoverlay
  rw [hfile, hoverlay] at hstopped
  simp only [Except.toOption, Option.bind_some, Option.map_some, hr] at hstopped
  cases hstopped

end Loader
end SshConfig
