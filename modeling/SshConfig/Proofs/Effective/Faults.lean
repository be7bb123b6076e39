import SshConfig.Proofs.Effective.Verifier
/-!
# Faults — what stops the building of a configuration

Most of what goes wrong while a verifier or an identity is made is told as a failure of the configuration or of the
system.  What is left is in the paths: a home directory that is not known, a null character, and a key whose path in
full is blank (`escapes_buildEffective_iff`).
-/
namespace SshConfig

namespace Fault

variable {α β : Type} {fault : Fault}

/-- What was done ends in the fault, and no look-up tells it as its failure. -/
def Escapes (fault : Fault) (x : Except Fault α) : Prop :=
  x = .error fault ∧ fault.failsLookup = false

theorem not_escapes_ok {a : α} : ¬ fault.Escapes (.ok a) := by
  rintro ⟨h, -⟩
  cases h

theorem escapes_bind_iff {x : Except Fault α} {f : α → Except Fault β} :
    fault.Escapes (x.bind f) ↔ fault.Escapes x ∨ ∃ a, x = .ok a ∧ fault.Escapes (f a) := by
  unfold Escapes
  rw [bind_eq_error_iff]
  constructor
  · rintro ⟨h | ⟨a, ha, h⟩, hpasses⟩
    · exact .inl ⟨h, hpasses⟩
    · exact .inr ⟨a, ha, h, hpasses⟩
  · rintro (⟨h, hpasses⟩ | ⟨a, ha, h, hpasses⟩)
    · exact ⟨.inl h, hpasses⟩
    · exact ⟨.inr ⟨a, ha, h⟩, hpasses⟩

theorem escapes_map_iff {x : Except Fault α} {f : α → β} : fault.Escapes (x.map f) ↔ fault.Escapes x := by
  unfold Escapes
  rw [map_eq_error_iff]

theorem escapes_excuse_iff {x : Except Fault α} : fault.Escapes (Fault.excuse x) ↔ fault.Escapes x := by
  unfold Escapes
  rw [excuse_eq_error_iff]
  constructor
  · rintro ⟨⟨h, -⟩, hpasses⟩
    exact ⟨h, hpasses⟩
  · rintro ⟨h, hpasses⟩
    -- a fault that is excused is one of the system, and those fail the look-up
    cases fault with
    | os f => cases hpasses
    | _ => exact ⟨⟨h, rfl⟩, hpasses⟩

end Fault

namespace Environment

/-- The path stops whoever goes to it: it cannot be expanded, or it has a null character then. -/
def Stops (env : Environment) (path : Text) (fault : Fault) : Prop :=
  env.expand path = .error fault ∨
    ∃ full, env.expand path = .ok full ∧ full.contains (Char.ofNat 0) = true ∧ fault = .nullInPath

theorem fault_of_expand {env : Environment} {path : Text} {fault : Fault} (h : env.expand path = .error fault) :
    fault = .noHome ∨ fault = .nullInPath := by
  have hhome : ∀ user, env.homeOf user = .error fault → fault = .noHome ∨ fault = .nullInPath := by
    intro user h
    unfold homeOf at h
    split at h
    · cases h
      exact .inr rfl
    · split at h
      · cases h
        exact .inl rfl
      · split at h
        · cases h
          exact .inl rfl
        · cases h
  unfold expand at h
  rw [map_eq_error_iff] at h
  unfold expandHome at h
  split at h
  · exact hhome _ (map_eq_error_iff.1 h)
  · cases h

theorem Stops.fault {env : Environment} {path : Text} {fault : Fault} (h : env.Stops path fault) :
    fault = .noHome ∨ fault = .nullInPath := by
  rcases h with h | ⟨full, -, -, rfl⟩
  · exact fault_of_expand h
  · exact .inr rfl

theorem escapes_expand_iff {env : Environment} {path : Text} {fault : Fault} :
    fault.Escapes (env.expand path) ↔ env.expand path = .error fault := by
  refine ⟨And.left, fun h => ⟨h, ?_⟩⟩
  rcases fault_of_expand h with rfl | rfl <;> rfl

end Environment

namespace Act

open Fault (escapes_bind_iff escapes_map_iff escapes_excuse_iff not_escapes_ok)
open Environment (escapes_expand_iff)

variable {env : Environment} {tree : FileTree} {fault : Fault}

theorem escapes_outcome_bind_iff {α β : Type} {a : Act α} (ha : a.IsReading) {f : α → Act β}
    (hf : ∀ x, (f x).IsReading) : fault.Escapes ((a >>= f).outcome env tree) ↔ fault.Escapes (a.outcome env tree) ∨
      ∃ x, a.outcome env tree = .ok x ∧ fault.Escapes ((f x).outcome env tree) := by
  rw [outcome_bind ha hf, escapes_bind_iff]

/-! ## Known hosts -/

theorem escapes_text_iff {full : Text} : fault.Escapes ((text full).outcome env tree) ↔
    full.contains (Char.ofNat 0) = true ∧ fault = .nullInPath := by
  rw [outcome_text]
  by_cases hnull : full.contains (Char.ofNat 0) = true
  · rw [if_pos hnull]
    constructor
    · rintro ⟨h, -⟩
      cases h
      exact ⟨hnull, rfl⟩
    · rintro ⟨-, rfl⟩
      exact ⟨rfl, rfl⟩
  · rw [if_neg hnull]
    refine iff_of_false ?_ fun h => hnull h.1
    rintro ⟨h, hpasses⟩
    split at h
    · cases h
    · cases h
      cases hpasses

/-- **A known-hosts file stops who reads it by its path only.** -/
theorem escapes_trustText_iff {path : Text} : fault.Escapes (trustText env tree path) ↔ env.Stops path fault := by
  unfold trustText Environment.Stops
  rw [escapes_bind_iff, escapes_expand_iff]
  simp only [escapes_map_iff, escapes_excuse_iff, escapes_text_iff]

theorem escapes_knownHostsTexts_iff {paths : List Text} :
    fault.Escapes ((knownHostsTexts true paths).outcome env tree) ↔ ∃ earlier path later,
      paths = earlier ++ path :: later ∧ (∀ p ∈ earlier, ∃ t, trustText env tree p = .ok t) ∧
        env.Stops path fault := by
  rw [outcome_knownHostsTexts_excused, escapes_map_iff]
  unfold Fault.Escapes
  rw [mapM_error_iff]
  constructor
  · rintro ⟨⟨earlier, path, later, hsplit, hearlier, hpath⟩, hpasses⟩
    exact ⟨earlier, path, later, hsplit, hearlier, escapes_trustText_iff.1 ⟨hpath, hpasses⟩⟩
  · rintro ⟨earlier, path, later, hsplit, hearlier, hstops⟩
    obtain ⟨hpath, hpasses⟩ := escapes_trustText_iff.2 hstops
    exact ⟨⟨earlier, path, later, hsplit, hearlier, hpath⟩, hpasses⟩

theorem not_escapes_verifierOf {loaded : List (Text × Text)} : ¬ fault.Escapes (verifierOf env loaded) := by
  rintro ⟨h, hpasses⟩
  unfold verifierOf at h
  dsimp only at h
  split at h
  · cases h
  · split at h
    · cases h
    · cases h
      cases hpasses

theorem not_escapes_pathsOf {value : Option Text} : ¬ fault.Escapes (pathsOf value) := by
  rintro ⟨h, hpasses⟩
  obtain ⟨quote, -, rfl⟩ := mapError_eq_error_iff.1 h
  cases hpasses

theorem not_escapes_trustPaths {s : Settings} : ¬ fault.Escapes (trustPaths s) := by
  unfold trustPaths
  rw [escapes_bind_iff]
  rintro (h | ⟨global, -, h⟩)
  · exact not_escapes_pathsOf h
  · exact not_escapes_pathsOf (escapes_map_iff.1 h)

/-- The known-hosts files that settings name stop a look-up: the first of them that cannot be gone to. -/
def TrustStops (s : Settings) (env : Environment) (tree : FileTree) (fault : Fault) : Prop :=
  ∃ paths earlier path later, trustPaths s = .ok paths ∧ paths = earlier ++ path :: later ∧
    (∀ p ∈ earlier, ∃ t, trustText env tree p = .ok t) ∧ env.Stops path fault

theorem escapes_chooseVerifier_iff {s : Settings} {strict : Bool} {address : Text} :
    fault.Escapes ((chooseVerifier s strict address).outcome env tree) ↔
      strict = true ∧ TrustStops s env tree fault := by
  rw [outcome_chooseVerifier]
  cases strict with
  | false => exact iff_of_false not_escapes_ok fun h => Bool.false_ne_true h.1
  | true =>
    have hload : ∀ paths : List Text, fault.Escapes (if paths.isEmpty then .ok none
        else ((loadVerifier true paths).outcome env tree).map fun v => some (v.getD .rejectAll)) ↔
          fault.Escapes ((knownHostsTexts true paths).outcome env tree) := by
      intro paths
      cases paths with
      | nil => exact iff_of_false not_escapes_ok not_escapes_ok
      | cons path rest =>
        rw [List.isEmpty_cons, if_neg Bool.false_ne_true, escapes_map_iff, outcome_loadVerifier, escapes_bind_iff]
        simp only [not_escapes_verifierOf, and_false, exists_false, or_false]
    rw [if_pos rfl, escapes_bind_iff]
    simp only [not_escapes_trustPaths, false_or, hload, escapes_knownHostsTexts_iff, true_and]
    constructor
    · rintro ⟨paths, hpaths, earlier, path, later, h⟩
      exact ⟨paths, earlier, path, later, hpaths, h⟩
    · rintro ⟨paths, earlier, path, later, hpaths, h⟩
      exact ⟨paths, hpaths, earlier, path, later, h⟩

/-! ## Identities -/

/-- The key at a path in full where this stands, or why there is none that can be opened. -/
def keyOf (passphrase : Option Text) (env : Environment) (tree : FileTree) (full : Text) :
    Option Node → Except KeyCause PrivateKey
  | none => .error .absent
  | some n =>
    if n.denied then .error .unreadable else (env.library.openKey tree full passphrase).mapError KeyFault.cause

/-- The failure to load a key; a blank path breaks a condition of its own. -/
def keyFault (full : Text) (cause : KeyCause) : Fault :=
  if (Text.trim full).isEmpty then .violation (.badKeyPath (.str full)) else .config (.key ⟨cause, some full, {}⟩)

theorem keyFailure_eq {α : Type} (cause : KeyCause) (full : Text) :
    (keyFailure cause full : Act α) = fail (keyFault full cause) := by
  unfold keyFailure keyFault
  split <;> rfl

theorem outcome_keyAt (passphrase : Option Text) (full : Text) (n : Option Node) :
    (keyAt full passphrase n).outcome env tree =
      (keyOf passphrase env tree full n).mapError (keyFault full) := by
  cases n with
  | none =>
    rw [keyAt, keyFailure_eq]
    rfl
  | some n =>
    rw [keyAt, keyOf]
    split
    · rw [keyFailure_eq]
      rfl
    · unfold openKey outcome
      rw [bind_run, get_run]
      dsimp only
      cases env.library.openKey tree full passphrase with
      | ok key => rfl
      | error fault =>
        dsimp only
        rw [keyFailure_eq]
        rfl

theorem outcome_loadKey (path : Text) (passphrase : Option Text) : (loadKey path passphrase).outcome env tree =
    (env.expand path).bind fun full => ((node? full).outcome env tree).bind fun n =>
      (keyOf passphrase env tree full n).mapError (keyFault full) := by
  unfold loadKey
  rw [outcome_bind (IsReading.expand path) fun full =>
    IsReading.bind (IsReading.node? full) (IsReading.keyAt full passphrase), outcome_expand]
  refine congrArg _ (funext fun full => ?_)
  rw [outcome_bind (IsReading.node? full) (IsReading.keyAt full passphrase)]
  simp only [outcome_keyAt]

theorem outcome_node? (full : Text) : (node? full).outcome env tree =
    if full.contains (Char.ofNat 0) then .ok none
    else match tree.find (FilePath.ofText full) with
      | .ok n => .ok (some n)
      | .error cause => if cause.isAbsence then .ok none else .error (.os ⟨cause, full⟩) := by
  unfold node?
  split
  · rfl
  · unfold outcome
    rw [bind_run, get_run]
    dsimp only
    cases tree.find (FilePath.ofText full) with
    | ok n => rfl
    | error cause =>
      dsimp only
      split <;> rfl

theorem not_escapes_node? {full : Text} : ¬ fault.Escapes ((node? full).outcome env tree) := by
  rintro ⟨h, hpasses⟩
  rw [outcome_node?] at h
  split at h
  · cases h
  · split at h
    · cases h
    · split at h <;> cases h
      cases hpasses

/-- The path of a key stops who loads it: it cannot be expanded, or it is blank in full and there is no key there that
can be opened. -/
def KeyStops (path : Text) (env : Environment) (tree : FileTree) (fault : Fault) : Prop :=
  env.expand path = .error fault ∨ ∃ full n cause, env.expand path = .ok full ∧ (Text.trim full).isEmpty = true ∧
    (node? full).outcome env tree = .ok n ∧ keyOf none env tree full n = .error cause ∧
    fault = .violation (.badKeyPath (.str full))

/-- The identity that settings name stops a look-up. -/
def IdentityStops (s : Settings) (env : Environment) (tree : FileTree) (fault : Fault) : Prop :=
  ∃ path : Text, s.get? .identityFile = some path ∧ path ≠ [] ∧ KeyStops path env tree fault

theorem escapes_keyOf_iff {full : Text} {n : Option Node} :
    fault.Escapes ((keyOf none env tree full n).mapError (keyFault full)) ↔ ∃ cause, (Text.trim full).isEmpty = true ∧
      keyOf none env tree full n = .error cause ∧ fault = .violation (.badKeyPath (.str full)) := by
  unfold Fault.Escapes
  rw [mapError_eq_error_iff]
  constructor
  · rintro ⟨⟨cause, hcause, rfl⟩, hpasses⟩
    unfold keyFault at hpasses ⊢
    by_cases hblank : (Text.trim full).isEmpty = true
    · exact ⟨cause, hblank, hcause, if_pos hblank⟩
    · rw [if_neg hblank] at hpasses
      cases hpasses
  · rintro ⟨cause, hblank, hcause, rfl⟩
    exact ⟨⟨cause, hcause, if_pos hblank⟩, rfl⟩

theorem escapes_loadKey_iff {path : Text} :
    fault.Escapes ((loadKey path none).outcome env tree) ↔ KeyStops path env tree fault := by
  unfold KeyStops
  rw [outcome_loadKey, escapes_bind_iff, escapes_expand_iff]
  simp only [escapes_bind_iff, not_escapes_node?, false_or, escapes_keyOf_iff]
  constructor
  · rintro (h | ⟨full, hfull, n, hn, cause, hblank, h⟩)
    · exact .inl h
    · exact .inr ⟨full, n, cause, hfull, hblank, hn, h⟩
  · rintro (h | ⟨full, n, cause, hfull, hblank, hn, h⟩)
    · exact .inl h
    · exact .inr ⟨full, hfull, n, hn, cause, hblank, h⟩

/-- What trying a candidate comes to: its key, with the path in full, or the failure to load one.  Other faults end the
loading. -/
def tried (passphrase : Option Text) (env : Environment) (tree : FileTree) (path : Text) :
    Except Fault (Except KeyFailure (Text × PrivateKey)) :=
  match (loadKey path passphrase).outcome env tree with
  | .ok key => (env.expand path).map fun full => .ok (full, key)
  | .error (.config (.key failure)) => .ok (.error failure)
  | .error fault => .error fault

/-- The key, or the failure, with those of other candidates after it. -/
def noted (others : List (Text × PrivateKey) × List KeyFailure) :
    Except KeyFailure (Text × PrivateKey) → List (Text × PrivateKey) × List KeyFailure
  | .ok k => (k :: others.1, others.2)
  | .error failure => (others.1, failure :: others.2)

theorem outcome_loadKeys_cons (passphrase : Option Text) (path : Text) (rest : List Text) :
    (loadKeys passphrase (path :: rest)).outcome env tree =
      (tried passphrase env tree path).bind fun r =>
        ((loadKeys passphrase rest).outcome env tree).map fun others => noted others r := by
  have hrest := IsReading.loadKeys passphrase rest
  have hfirst := IsReading.map (IsReading.loadKey path passphrase) (Except.ok (ε := KeyFailure))
  have hlast : ∀ r : Except KeyFailure (Text × PrivateKey),
      (loadKeys passphrase rest >>= fun others => pure (noted others r)).outcome env tree =
        ((loadKeys passphrase rest).outcome env tree).map fun others => noted others r := by
    intro r
    rw [outcome_bind hrest fun _ => IsReading.pure _]
    cases (loadKeys passphrase rest).outcome env tree <;> rfl
  rw [loadKeys]
  refine (outcome_bind (IsReading.rescue hfirst IsReading.keptFailure) (IsReading.notedCandidate path hrest) env
    tree).trans ?_
  rw [outcome_rescue hfirst IsReading.keptFailure, outcome_map]
  unfold tried
  cases (loadKey path passphrase).outcome env tree with
  | ok key =>
    refine (outcome_bind (IsReading.expand path) (fun _ => IsReading.bind hrest fun _ => IsReading.pure _) env
      tree).trans ?_
    rw [outcome_expand]
    cases env.expand path with
    | error fault => rfl
    | ok full => exact hlast (.ok (full, key))
  | error fault =>
    cases fault with
    | config e =>
      cases e with
      | key failure =>
        refine (outcome_bind (IsReading.debug _ _) (fun _ => IsReading.bind hrest fun _ => IsReading.pure _) env
          tree).trans ?_
        exact hlast (.error failure)
      | _ => rfl
    | _ => rfl

theorem outcome_loadIdentity (passphrase : Option Text) (paths : List Text) :
    (loadIdentity passphrase paths).outcome env tree = ((loadKeys passphrase paths).outcome env tree).bind fun loaded =>
      if loaded.1.isEmpty then .error (.config (.noIdentity paths (loaded.2.map .key) {})) else .ok ⟨loaded.1⟩ := by
  have hlast : ∀ loaded : List (Text × PrivateKey) × List KeyFailure, (if loaded.1.isEmpty then
      fail (.config (.noIdentity paths (loaded.2.map .key) {})) else pure ⟨loaded.1⟩ : Act Identity).IsReading := by
    intro loaded
    split
    · exact IsReading.fail _
    · exact IsReading.pure _
  refine (outcome_bind (IsReading.loadKeys passphrase paths) hlast env tree).trans ?_
  refine congrArg _ (funext fun loaded => ?_)
  split <;> rfl

theorem outcome_loadIdentity_singleton (path : Text) : (loadIdentity none [path]).outcome env tree =
    match (loadKey path none).outcome env tree with
    | .ok key => (env.expand path).map fun full => ⟨[(full, key)]⟩
    | .error (.config (.key failure)) => .error (.config (.noIdentity [path] [.key failure] {}))
    | .error fault => .error fault := by
  rw [outcome_loadIdentity, outcome_loadKeys_cons]
  unfold tried
  cases (loadKey path none).outcome env tree with
  | ok key =>
    dsimp only
    cases env.expand path <;> rfl
  | error fault =>
    cases fault with
    | config e => cases e <;> rfl
    | _ => rfl

theorem escapes_loadIdentity_iff {path : Text} :
    fault.Escapes ((loadIdentity none [path]).outcome env tree) ↔ KeyStops path env tree fault := by
  rw [← escapes_loadKey_iff, outcome_loadIdentity_singleton]
  cases hkey : (loadKey path none).outcome env tree with
  | ok key =>
    -- a key that was loaded had a path that can be expanded
    rw [outcome_loadKey] at hkey
    obtain ⟨full, hfull, -⟩ := exists_of_bind_ok hkey
    rw [hfull]
    exact iff_of_false not_escapes_ok not_escapes_ok
  | error f =>
    cases f with
    | config e =>
      refine iff_of_false ?_ ?_
      · rintro ⟨h, hpasses⟩
        cases e <;> cases h <;> cases hpasses
      · rintro ⟨h, hpasses⟩
        cases h
        cases hpasses
    | _ => simp only [Fault.Escapes, Except.error.injEq]

theorem isReading_unusable (address : Text) (fault : Fault) : (match fault with
    | .config (.noIdentity _ _ _) => do
      remark .warning .config ("IdentityFile for " ++ Text.quoted address ++ " not usable: " ++ fault.message)
      pure []
    | _ => fail fault : Act (List Identity)).IsReading := by
  split
  · exact IsReading.bind (IsReading.remark _ _ _) fun _ => IsReading.pure _
  · exact IsReading.fail _

theorem outcome_chooseIdentities {s : Settings} {path : Text} (hpath : s.get? .identityFile = some path)
    (hne : path ≠ []) (address : Text) : (chooseIdentities s address).outcome env tree =
      match (loadIdentity none [path]).outcome env tree with
      | .ok i => .ok [i]
      | .error (.config (.noIdentity _ _ _)) => .ok []
      | .error fault => .error fault := by
  unfold chooseIdentities
  rw [hpath]
  dsimp only
  rw [if_neg (by simpa using hne)]
  refine (outcome_rescue (IsReading.map (IsReading.loadIdentity none [path]) _) (isReading_unusable address) env
    tree).trans ?_
  rw [outcome_map]
  cases (loadIdentity none [path]).outcome env tree with
  | ok i => rfl
  | error fault =>
    cases fault with
    | config e => cases e <;> rfl
    | _ => rfl

theorem escapes_chooseIdentities_iff {s : Settings} {address : Text} :
    fault.Escapes ((chooseIdentities s address).outcome env tree) ↔ IdentityStops s env tree fault := by
  constructor
  · rintro ⟨h, hpasses⟩
    have hnamed : ∃ path : Text, s.get? .identityFile = some path ∧ path ≠ [] := by
      unfold chooseIdentities at h
      split at h
      · cases h
      · rename_i path hpath
        split at h
        · cases h
        · rename_i hne
          exact ⟨path, hpath, fun h => hne (List.isEmpty_iff.2 h)⟩
    obtain ⟨path, hpath, hne⟩ := hnamed
    rw [outcome_chooseIdentities hpath hne] at h
    refine ⟨path, hpath, hne, escapes_loadIdentity_iff.1 ⟨?_, hpasses⟩⟩
    split at h
    · cases h
    · cases h
    · rename_i hload
      cases h
      exact hload
  · rintro ⟨path, hpath, hne, hstops⟩
    obtain ⟨hload, hpasses⟩ := escapes_loadIdentity_iff.2 hstops
    rw [outcome_chooseIdentities hpath hne, hload]
    refine ⟨?_, hpasses⟩
    cases fault with
    | config e => cases hpasses
    | _ => rfl

/-! ## The configuration -/

/-- The fault stops the building of a configuration: the verifier is made first. -/
def Stops (s : Settings) (address : Text) (env : Environment) (tree : FileTree) (fault : Fault) : Prop :=
  checks s = true ∧ TrustStops s env tree fault ∨
    (∃ v, (chooseVerifier s (checks s) address).outcome env tree = .ok v) ∧ IdentityStops s env tree fault

/-- **What stops the building of a configuration.** -/
theorem escapes_buildEffective_iff {s : Settings} {address network : Text} :
    fault.Escapes ((buildEffective s address network).outcome env tree) ↔ Stops s address env tree fault := by
  have hbuild : fault.Escapes ((buildEffective s address network).outcome env tree) ↔
      fault.Escapes ((chooseVerifier s (checks s) address).outcome env tree) ∨
        (∃ v, (chooseVerifier s (checks s) address).outcome env tree = .ok v) ∧
          fault.Escapes ((chooseIdentities s address).outcome env tree) := by
    refine (escapes_outcome_bind_iff (IsReading.chooseVerifier s _ address) fun _ =>
      IsReading.bind (IsReading.chooseIdentities s address) fun _ => IsReading.pure _).trans (or_congr Iff.rfl ⟨?_, ?_⟩)
    · rintro ⟨v, hv, h⟩
      rcases (escapes_outcome_bind_iff (IsReading.chooseIdentities s address) fun _ => IsReading.pure _).1 h
        with h | ⟨is, -, h⟩
      · exact ⟨⟨v, hv⟩, h⟩
      · exact absurd h not_escapes_ok
    · rintro ⟨⟨v, hv⟩, h⟩
      exact ⟨v, hv,
        (escapes_outcome_bind_iff (IsReading.chooseIdentities s address) fun _ => IsReading.pure _).2 (.inl h)⟩
  rw [hbuild, escapes_chooseVerifier_iff, escapes_chooseIdentities_iff]
  rfl

/-- **Only a path can stop the building of a configuration.** -/
theorem fault_of_stops {s : Settings} {address : Text} (h : Stops s address env tree fault) :
    fault = .noHome ∨ fault = .nullInPath ∨ ∃ full, fault = .violation (.badKeyPath (.str full)) := by
  rcases h with ⟨-, paths, earlier, path, later, -, -, -, h⟩ | ⟨-, path, -, -, h | ⟨full, -, -, -, -, -, -, h⟩⟩
  · exact h.fault.imp_right .inl
  · exact (Environment.fault_of_expand h).imp_right .inl
  · exact .inr (.inr ⟨full, h⟩)

end Act
end SshConfig
