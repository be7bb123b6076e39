import SshConfig.Proofs.ConfigFile.Load
import SshConfig.Proofs.Effective.Build
import SshConfig.Proofs.ReadsOn
/-!
# Verifier — how the verifier of an address is chosen

The settings of an address name the files of its verifier (`trustPaths`).  Of these the ones that can be read make a
store, those that are absent or denied are passed over, and if none is left the store is empty
(`outcome_chooseVerifier`).
-/
namespace SshConfig
namespace Act

/-- The paths that the value of an option names; there are none where it is not set. -/
def pathsOf (value : Option Text) : Except Fault (List Text) :=
  (PathList.split (value.getD [])).mapError fun fault => .config (.trust (.badList (value.getD []) fault) .null {})

/-- The known-hosts files that settings name, the global ones first. -/
def trustPaths (s : Settings) : Except Fault (List Text) :=
  (pathsOf (s.get? .globalKnownHostsFile)).bind fun global =>
    (pathsOf (s.get? .userKnownHostsFile)).map (global ++ ·)

/-- The text of a known-hosts file with its path in full; none if the file is passed over. -/
def trustText (env : Environment) (tree : FileTree) (path : Text) : Except Fault (Option (Text × Text)) :=
  (env.expand path).bind fun full => (Fault.excuse ((text full).outcome env tree)).map fun t => t.map (full, ·)

variable (env : Environment) (tree : FileTree)

/-- **A known-hosts file is passed over exactly if it is absent or denied.** -/
theorem trustText_eq_none_iff (path : Text) : trustText env tree path = .ok none ↔
    ∃ full, env.expand path = .ok full ∧ full.contains (Char.ofNat 0) = false ∧
      (tree.read (FilePath.ofText full) = .error .notFound ∨ tree.read (FilePath.ofText full) = .error .denied) := by
  unfold trustText
  cases env.expand path with
  | error fault => simp [Except.bind]
  | ok full =>
    simp only [Except.bind, outcome_text, Except.ok.injEq, exists_eq_left']
    by_cases hnull : full.contains (Char.ofNat 0) = true
    · simp only [hnull, if_true, Fault.excuse, Fault.isExcused]
      simp [Except.map]
    · simp only [hnull]
      cases tree.read (FilePath.ofText full) with
      | ok bs => simp [Fault.excuse, Except.map]
      | error cause => cases cause <;> simp [Fault.excuse, Fault.isExcused, OsCause.isExcused, Except.map]

theorem outcome_splitPaths (value : Text) : (splitPaths value).outcome env tree = pathsOf (some value) := by
  unfold splitPaths pathsOf
  rw [Option.getD_some]
  cases PathList.split value <;> rfl

theorem isReading_splitPaths (value : Text) : (splitPaths value).IsReading := by
  unfold splitPaths
  split
  · exact IsReading.pure _
  · exact IsReading.fail _

theorem outcome_splitAll_cons (value : Option Text) (rest : List (Option Text)) :
    (splitAll (value :: rest)).outcome env tree = (pathsOf value).bind fun paths =>
      ((splitAll rest).outcome env tree).map (paths ++ ·) := by
  -- an option that is not set is taken like one that names no path
  have hempty : ∀ x : Except Fault (List Text),
      x = (Except.ok []).bind fun paths : List Text => x.map (paths ++ ·) := by
    intro x
    cases x <;> rfl
  cases value with
  | none => exact hempty _
  | some value =>
    rw [splitAll]
    by_cases hvalue : value.isEmpty = true
    · rw [if_pos hvalue, List.isEmpty_iff.1 hvalue]
      exact hempty _
    · rw [if_neg hvalue, outcome_bind (isReading_splitPaths value) fun _ =>
        IsReading.bind (IsReading.splitAll rest) fun _ => IsReading.pure _, outcome_splitPaths]
      refine congrArg _ (funext fun paths => ?_)
      rw [outcome_bind (IsReading.splitAll rest) fun _ => IsReading.pure _]
      cases (splitAll rest).outcome env tree <;> rfl

theorem outcome_splitAll_pair (u v : Option Text) : (splitAll [u, v]).outcome env tree =
    (pathsOf u).bind fun first => (pathsOf v).map (first ++ ·) := by
  have hnil : (splitAll []).outcome env tree = .ok [] := rfl
  rw [outcome_splitAll_cons, outcome_splitAll_cons, hnil]
  refine congrArg _ (funext fun first => ?_)
  cases pathsOf v with
  | error fault => rfl
  | ok second => simp [Except.bind, Except.map]

/-- Reads a known-hosts file that need not be there. -/
def optionalText (full : Text) : Act (Option Text) :=
  rescue (some <$> text full) fun fault => match fault with
    | .os f =>
      if f.cause.isExcused then do
        debug .hostKey ("Skipping known_hosts file " ++ full ++ ": " ++ f.message)
        pure none
      else fail fault
    | _ => fail fault

theorem isReading_optionalText (full : Text) : (optionalText full).IsReading :=
  IsReading.rescue (IsReading.map (IsReading.text full) some) (IsReading.excused .hostKey _)

theorem outcome_optionalText (full : Text) :
    (optionalText full).outcome env tree = Fault.excuse ((text full).outcome env tree) :=
  outcome_excusing (IsReading.text full) .hostKey (fun f => "Skipping known_hosts file " ++ full ++ ": " ++ f.message)
    env tree

theorem knownHostsTexts_cons (path : Text) (rest : List Text) : knownHostsTexts true (path :: rest) =
    (expand path >>= fun full => optionalText full >>= fun t => match t with
      | none => knownHostsTexts true rest
      | some t => do
        let others ← knownHostsTexts true rest
        pure ((full, t) :: others)) := rfl

theorem outcome_knownHostsTexts_cons (path : Text) (rest : List Text) :
    (knownHostsTexts true (path :: rest)).outcome env tree = (trustText env tree path).bind fun t =>
      ((knownHostsTexts true rest).outcome env tree).map (t.toList ++ ·) := by
  have hrest : ∀ (full : Text) (t : Option Text), (match t with
      | none => knownHostsTexts true rest
      | some t => do
        let others ← knownHostsTexts true rest
        pure ((full, t) :: others)).IsReading := by
    intro full t
    cases t with
    | none => exact IsReading.knownHostsTexts true rest
    | some t => exact IsReading.bind (IsReading.knownHostsTexts true rest) fun _ => IsReading.pure _
  rw [knownHostsTexts_cons, outcome_bind (IsReading.expand path) fun full =>
    IsReading.bind (isReading_optionalText full) (hrest full), outcome_expand]
  unfold trustText
  cases env.expand path with
  | error fault => rfl
  | ok full =>
    simp only [Except.bind]
    rw [outcome_bind (isReading_optionalText full) (hrest full), outcome_optionalText]
    cases Fault.excuse ((text full).outcome env tree) with
    | error fault => rfl
    | ok t =>
      cases t with
      | none =>
        simp only [Except.bind, Except.map, Option.map_none, Option.toList_none, List.nil_append]
        cases (knownHostsTexts true rest).outcome env tree <;> rfl
      | some t => exact outcome_bind (IsReading.knownHostsTexts true rest) (fun _ => IsReading.pure _) env tree

/-- **The texts of known-hosts files are read in turn**; those that are passed over leave nothing. -/
theorem outcome_knownHostsTexts_excused : ∀ paths : List Text, (knownHostsTexts true paths).outcome env tree =
    (paths.mapM (trustText env tree)).map (·.filterMap id)
  | [] => rfl
  | path :: rest => by
    rw [outcome_knownHostsTexts_cons, outcome_knownHostsTexts_excused rest, mapM_cons_eq]
    cases trustText env tree path with
    | error fault => rfl
    | ok t => cases rest.mapM (trustText env tree) <;> cases t <;> rfl

theorem outcome_knownHostsTexts_nil : ∀ {paths : List Text}, (∀ path ∈ paths, trustText env tree path = .ok none) →
    (knownHostsTexts true paths).outcome env tree = .ok []
  | [], _ => rfl
  | path :: rest, h => by
    rw [outcome_knownHostsTexts_cons, h path List.mem_cons_self,
      outcome_knownHostsTexts_nil fun p hp => h p (List.mem_cons_of_mem path hp)]
    rfl

/-- The verifier of the files whose texts were read. -/
def verifierOf (env : Environment) (loaded : List (Text × Text)) : Except Fault (Option Verifier) :=
  let names := loaded.map (·.1)
  match names with
  | [] => .ok none
  | _ =>
    match env.library.readHosts (Text.join ['\n'] (loaded.map (·.2))) with
    | .ok store => .ok (some (.trusting names store))
    | .error message => .error (.config (.trust (.badEntry names message)
        (Json.ofOption .str (if names.length = 1 then names.head? else none))
        { underlyingError := .str message }))

theorem outcome_loadVerifier_bind (ignoreMissing : Bool) (paths : List Text) :
    (loadVerifier ignoreMissing paths).outcome env tree =
      ((knownHostsTexts ignoreMissing paths).outcome env tree).bind fun loaded =>
        if ignoreMissing = false ∧ loaded = [] then .error (.config (.trust .noFiles .null {}))
        else verifierOf env loaded := by
  obtain ⟨remarks, hrun⟩ := IsReading.knownHostsTexts ignoreMissing paths { environment := env, tree := tree }
  unfold outcome at hrun ⊢
  unfold loadVerifier
  rw [bind_run, hrun]
  cases (knownHostsTexts ignoreMissing paths { environment := env, tree := tree }).1 with
  | error fault => rfl
  | ok loaded =>
    simp only [Except.bind, ← List.map_eq_nil_iff (f := fun x : Text × Text => x.1)]
    unfold verifierOf
    dsimp only
    generalize loaded.map (·.1) = names
    cases names with
    | nil => cases ignoreMissing <;> rfl
    | cons name names =>
      have hne : ¬ (ignoreMissing = false ∧ name :: names = []) := fun h => List.cons_ne_nil _ _ h.2
      rw [if_neg hne]
      dsimp only
      rw [bind_run, get_run]
      dsimp only
      cases env.library.readHosts (Text.join ['\n'] (loaded.map (·.2))) <;> rfl

theorem outcome_loadVerifier (paths : List Text) : (loadVerifier true paths).outcome env tree =
    ((knownHostsTexts true paths).outcome env tree).bind (verifierOf env) := by
  rw [outcome_loadVerifier_bind]
  simp only [Bool.true_eq_false, false_and, if_false]

theorem exists_trusting_of_loadVerifier {paths : List Text} {v : Verifier}
    (h : (loadVerifier true paths).outcome env tree = .ok (some v)) : ∃ names store, v = .trusting names store := by
  rw [outcome_loadVerifier] at h
  obtain ⟨loaded, -, h⟩ := exists_of_bind_ok h
  unfold verifierOf at h
  dsimp only at h
  split at h
  · cases h
  · split at h
    · cases h
      exact ⟨_, _, rfl⟩
    · cases h

/-! ## The choice -/

/-- The verifier of the files that are named; it trusts no key if none of them is left. -/
def namedVerifier (address : Text) (paths : List Text) : Act (Option Verifier) := do
  if paths.isEmpty then pure none
  else
    match ← loadVerifier true paths with
    | some v => pure (some v)
    | none => do
      debug .config ("No configured known_hosts file exists for " ++ Text.quoted address)
      some <$> noTrustedKeys

theorem isReading_rejecting (address : Text) (v : Option Verifier) : (match v with
    | some v => pure (some v)
    | none => do
      debug .config ("No configured known_hosts file exists for " ++ Text.quoted address)
      some <$> noTrustedKeys : Act (Option Verifier)).IsReading := by
  cases v with
  | none => exact IsReading.bind (IsReading.debug _ _) fun _ => IsReading.map IsReading.noTrustedKeys some
  | some v => exact IsReading.pure _

theorem isReading_namedVerifier (address : Text) (paths : List Text) : (namedVerifier address paths).IsReading := by
  unfold namedVerifier
  split
  · exact IsReading.pure none
  · exact IsReading.bind (IsReading.loadVerifier true paths) (isReading_rejecting address)

theorem outcome_namedVerifier (address : Text) (paths : List Text) : (namedVerifier address paths).outcome env tree =
    if paths.isEmpty then .ok none
    else ((loadVerifier true paths).outcome env tree).map fun v => some (v.getD .rejectAll) := by
  unfold namedVerifier
  split
  · rfl
  · refine (outcome_bind (IsReading.loadVerifier true paths) (isReading_rejecting address) env tree).trans ?_
    cases (loadVerifier true paths).outcome env tree with
    | error fault => rfl
    | ok v =>
      cases v with
      | none =>
        rw [noTrustedKeys_eq]
        rfl
      | some v => rfl

theorem chooseVerifier_strict (s : Settings) (address : Text) : chooseVerifier s true address =
    splitAll [s.get? .globalKnownHostsFile, s.get? .userKnownHostsFile] >>= namedVerifier address := rfl

/-- **The verifier that settings ask for.**  Where host keys are checked it is that of the named files, and none where
no file is named. -/
theorem outcome_chooseVerifier (s : Settings) (strict : Bool) (address : Text) :
    (chooseVerifier s strict address).outcome env tree =
      if strict then (trustPaths s).bind fun paths =>
        if paths.isEmpty then .ok none
        else ((loadVerifier true paths).outcome env tree).map fun v => some (v.getD .rejectAll)
      else .ok (some .acceptAny) := by
  cases strict with
  | false => rfl
  | true =>
    have hpaths : (splitAll [s.get? .globalKnownHostsFile, s.get? .userKnownHostsFile]).outcome env tree =
        trustPaths s :=
      outcome_splitAll_pair env tree _ _
    rw [chooseVerifier_strict, outcome_bind (IsReading.splitAll _) (isReading_namedVerifier address), hpaths,
      if_pos rfl]
    simp only [outcome_namedVerifier]

/-- **Where host keys are checked a verifier that is chosen trusts the keys of a store.** -/
theorem exists_trusting_of_chooseVerifier {s : Settings} {address : Text} {v : Verifier}
    (h : (chooseVerifier s true address).outcome env tree = .ok (some v)) :
    ∃ names store, v = .trusting names store := by
  rw [outcome_chooseVerifier, if_pos rfl] at h
  obtain ⟨paths, -, h⟩ := exists_of_bind_ok h
  split at h
  · cases h
  · obtain ⟨loaded, hloaded, hv⟩ := exists_of_map_ok h
    cases hv
    cases loaded with
    | none => exact ⟨[], TrustStore.empty, rfl⟩
    | some v => exact exists_trusting_of_loadVerifier env tree hloaded

/-- **Named files that are all absent or denied make a verifier that trusts no key.** -/
theorem rejectAll_of_chooseVerifier {s : Settings} {address : Text} {paths : List Text} {v : Option Verifier}
    (hpaths : trustPaths s = .ok paths) (hne : paths ≠ []) (hskip : ∀ path ∈ paths, trustText env tree path = .ok none)
    (h : (chooseVerifier s true address).outcome env tree = .ok v) : v = some .rejectAll := by
  rw [outcome_chooseVerifier, if_pos rfl, hpaths] at h
  have hload : (loadVerifier true paths).outcome env tree = .ok none := by
    rw [outcome_loadVerifier, outcome_knownHostsTexts_nil env tree hskip]
    rfl
  simp only [Except.bind, List.isEmpty_iff, hne, if_false, hload] at h
  cases h
  rfl

/-- Host keys are checked unless the settings turn it off. -/
def checks (s : Settings) : Bool :=
  (s.get? .strictHostKeyChecking).getD true

theorem checks_eq_false_iff {s : Settings} : checks s = false ↔ s.get? .strictHostKeyChecking = some false := by
  have hgetD : ∀ o : Option Bool, o.getD true = false ↔ o = some false := by
    rintro (_ | _ | _) <;> simp
  exact hgetD _

/-- **What is built, and from what.** -/
theorem parts_of_buildEffective {s : Settings} {address network : Text} {e : Effective}
    (h : (buildEffective s address network).outcome env tree = .ok e) :
    (chooseVerifier s e.strictHostKeyChecking address).outcome env tree = .ok e.verifier ∧
      (chooseIdentities s address).outcome env tree = .ok e.identities ∧ e.settings = s ∧
      e.strictHostKeyChecking = checks s := by
  obtain ⟨v, hv, h⟩ := exists_of_outcome_bind (IsReading.chooseVerifier s _ address)
    (fun _ => IsReading.bind (IsReading.chooseIdentities s address) fun _ => IsReading.pure _) h
  obtain ⟨is, his, h⟩ := exists_of_outcome_bind (IsReading.chooseIdentities s address) (fun _ => IsReading.pure _) h
  cases h
  exact ⟨hv, his, rfl, rfl⟩

end Act
end SshConfig
