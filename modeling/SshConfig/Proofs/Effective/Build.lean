import SshConfig.Effective.Build
import SshConfig.Proofs.Session
/-!
# Build — building a configuration only reads

Keys, identities, known hosts and what is made from them are looked up in the surroundings and the files, and nothing
else is left behind but remarks (`IsReading.buildEffective`).
-/
namespace SshConfig
namespace Act

/-- **The empty text is a store that trusts no key.** -/
theorem noTrustedKeys_eq : noTrustedKeys = pure Verifier.rejectAll := by
  funext s
  unfold noTrustedKeys
  rw [bind_run, get_run]
  dsimp only
  rw [s.environment.library.readHosts_nil]
  rfl

namespace IsReading

/-! ## Identities -/

theorem keyFailure {α : Type} (cause : KeyCause) (path : Text) : (Act.keyFailure cause path : Act α).IsReading := by
  unfold Act.keyFailure
  split
  · exact fail _
  · exact fail _

theorem openKey (full : Text) (passphrase : Option Text) : (Act.openKey full passphrase).IsReading := by
  refine get (fun _ _ henv htree => by rw [henv, htree]) fun s => ?_
  split
  · exact pure _
  · exact keyFailure _ _

theorem keyAt (full : Text) (passphrase : Option Text) (n : Option Node) :
    (Act.keyAt full passphrase n).IsReading := by
  unfold Act.keyAt
  split
  · exact keyFailure _ _
  · split
    · exact keyFailure _ _
    · exact openKey full passphrase

theorem loadKey (path : Text) (passphrase : Option Text) : (Act.loadKey path passphrase).IsReading :=
  bind (expand path) fun full => bind (node? full) (keyAt full passphrase)

theorem keptFailure (fault : Fault) : (match fault with
    | .config (.key failure) => Pure.pure (.error failure)
    | _ => Act.fail fault : Act (Except KeyFailure PrivateKey)).IsReading := by
  split
  · exact pure _
  · exact fail _

theorem notedCandidate (path : Text) {others : Act (List (Text × PrivateKey) × List KeyFailure)}
    (h : others.IsReading) (r : Except KeyFailure PrivateKey) : (match r with
    | .error failure => do
      Act.debug .auth ("Skipping identity " ++ path ++ ": " ++ failure.message)
      let others ← others
      Pure.pure (others.1, failure :: others.2)
    | .ok key => do
      let full ← Act.expand path
      let others ← others
      Pure.pure ((full, key) :: others.1, others.2) : Act (List (Text × PrivateKey) × List KeyFailure)).IsReading := by
  split
  · exact bind (debug _ _) fun _ => bind h fun _ => pure _
  · exact bind (expand path) fun _ => bind h fun _ => pure _

theorem loadKeys (passphrase : Option Text) : ∀ paths : List Text, (Act.loadKeys passphrase paths).IsReading
  | [] => pure ([], [])
  | path :: rest => bind (rescue (map (loadKey path passphrase) Except.ok) keptFailure)
      (notedCandidate path (loadKeys passphrase rest))

theorem loadIdentity (passphrase : Option Text) (paths : List Text) :
    (Act.loadIdentity passphrase paths).IsReading := by
  refine bind (loadKeys passphrase paths) fun loaded => ?_
  split
  · exact fail _
  · exact pure _

/-! ## Known hosts -/

theorem knownHostsTexts (ignoreMissing : Bool) : ∀ paths : List Text,
    (Act.knownHostsTexts ignoreMissing paths).IsReading
  | [] => pure []
  | path :: rest => by
    refine bind (expand path) fun full => bind (rescue (map (text full) some) fun fault => ?_) fun read => ?_
    · split
      · split
        · exact bind (debug _ _) fun _ => pure none
        · exact fail _
      · exact fail _
    · split
      · exact knownHostsTexts ignoreMissing rest
      · exact bind (knownHostsTexts ignoreMissing rest) fun _ => pure _

theorem loadVerifier (ignoreMissing : Bool) (paths : List Text) :
    (Act.loadVerifier ignoreMissing paths).IsReading := by
  refine bind (knownHostsTexts ignoreMissing paths) fun loaded => ?_
  dsimp only
  generalize loaded.map (·.1) = names
  cases names with
  | nil =>
    cases ignoreMissing with
    | true => exact pure none
    | false => exact fail _
  | cons name names =>
    refine get (fun _ _ henv _ => by rw [henv]) fun s => ?_
    split
    · exact pure _
    · exact fail _

theorem noTrustedKeys : Act.noTrustedKeys.IsReading :=
  noTrustedKeys_eq ▸ pure Verifier.rejectAll

theorem splitAll : ∀ values : List (Option Text), (Act.splitAll values).IsReading
  | [] => pure []
  | none :: rest => splitAll rest
  | some value :: rest => by
    have hsplit : (Act.splitPaths value).IsReading := by
      unfold Act.splitPaths
      split
      · exact pure _
      · exact fail _
    rw [Act.splitAll]
    split
    · exact splitAll rest
    · exact bind hsplit fun _ => bind (splitAll rest) fun _ => pure _

/-! ## What holds for an address -/

theorem chooseVerifier (s : Settings) (strict : Bool) (address : Text) :
    (Act.chooseVerifier s strict address).IsReading := by
  unfold Act.chooseVerifier
  split
  · refine bind (splitAll _) fun paths => ?_
    split
    · exact pure none
    · refine bind (loadVerifier true paths) fun v => ?_
      split
      · exact pure _
      · exact bind (debug _ _) fun _ => map noTrustedKeys some
  · exact pure _

theorem chooseIdentities (s : Settings) (address : Text) : (Act.chooseIdentities s address).IsReading := by
  unfold Act.chooseIdentities
  split
  · exact pure []
  · split
    · exact pure []
    · refine rescue (map (loadIdentity none _) _) fun fault => ?_
      split
      · exact bind (remark _ _ _) fun _ => pure []
      · exact fail _

/-- **Building the configuration of an address only reads.** -/
theorem buildEffective (s : Settings) (address network : Text) :
    (Act.buildEffective s address network).IsReading :=
  bind (chooseVerifier s _ address) fun _ => bind (chooseIdentities s address) fun _ => pure _

end IsReading

/-- **What is built has the settings it was built from.** -/
theorem settings_of_buildEffective {s : Settings} {address network : Text} {env : Environment} {tree : FileTree}
    {e : Effective} (h : (buildEffective s address network).outcome env tree = .ok e) : e.settings = s := by
  obtain ⟨v, -, h⟩ := exists_of_outcome_bind (IsReading.chooseVerifier s _ address)
    (fun _ => IsReading.bind (IsReading.chooseIdentities s address) fun _ => IsReading.pure _) h
  obtain ⟨is, -, h⟩ := exists_of_outcome_bind (IsReading.chooseIdentities s address) (fun _ => IsReading.pure _) h
  cases h
  rfl

end Act
end SshConfig
