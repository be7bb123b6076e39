import SshConfig.Proofs.Effective.Faults
import SshConfig.Proofs.KeyLibrary
import SshConfig.Proofs.ReadsOn
/-!
# Trust — one store from several files

The texts of known-hosts files are joined by line feeds and read as one.  Where the library reads line by line, the
store of all files trusts for a host what the files trust alone, put together, and there is none exactly if one of the
files has none alone.  Which files are read is settled file by file: the first that cannot be read, and need not be
passed over, ends the loading (`loadVerifier_joins_files`).
-/
namespace SshConfig

namespace TrustFile

variable (env : Environment) (tree : FileTree)

/-- The path in full of a file that can be read. -/
def readable? (path : Text) : Option Text :=
  match env.expand path with
  | .ok full => if (tree.read (FilePath.ofText full)).isOk then some full else none
  | .error _ => none

/-- Reading the file ends in a fault of the system. -/
def Fails (path : Text) (f : OsFault) : Prop :=
  ∃ full, env.expand path = .ok full ∧ tree.read (FilePath.ofText full) = .error f.cause ∧
    f.path = FilePath.normal full

/-- The file ends the loading: it cannot be read, and it is not passed over for being absent or denied. -/
def Ends (ignoreMissing : Bool) (path : Text) (f : OsFault) : Prop :=
  Fails env tree path f ∧ ¬ (ignoreMissing = true ∧ f.cause.isExcused = true)

/-- What a file gives to a store: its text, with its path in full, or nothing if it is passed over. -/
def given (ignoreMissing : Bool) (path : Text) : Except Fault (Option (Text × Text)) :=
  if ignoreMissing then Act.trustText env tree path
  else (env.expand path).bind fun full => ((Act.text full).outcome env tree).map fun t => some (full, t)

variable {env : Environment} {tree : FileTree}

/-- **A file that nothing stops can be read or it cannot**, and that decides what it gives. -/
theorem given_cases (tree : FileTree) {path : Text} (hpath : ∀ fault, ¬ env.Stops path fault) :
    (∃ full t, readable? env tree path = some full ∧ '\r' ∉ t ∧ (∀ f, ¬ Fails env tree path f) ∧
      ∀ ignoreMissing, given env tree ignoreMissing path = .ok (some (full, t))) ∨
    ∃ f, readable? env tree path = none ∧ (∀ g, Fails env tree path g ↔ g = f) ∧
      ∀ ignoreMissing, given env tree ignoreMissing path =
        if ignoreMissing && f.cause.isExcused then .ok none else .error (.os f) := by
  cases hfull : env.expand path with
  | error fault => exact absurd (.inl hfull) (hpath fault)
  | ok full =>
  have hnull : full.contains (Char.ofNat 0) = false := by
    by_contra h
    exact hpath _ (.inr ⟨full, hfull, by simpa using h, rfl⟩)
  have htext := Act.outcome_text full env tree
  rw [hnull, if_neg Bool.false_ne_true] at htext
  unfold readable? Fails given Act.trustText
  simp only [hfull, Except.ok.injEq, exists_eq_left']
  cases hread : tree.read (FilePath.ofText full) with
  | ok bs =>
    rw [hread] at htext
    refine .inl ⟨full, Text.unifyBreaks (Text.decode bs), rfl, Text.not_mem_unifyBreaks _, by simp,
      fun ignoreMissing => ?_⟩
    cases ignoreMissing <;> simp [Except.bind, htext, Fault.excuse, Except.map]
  | error cause =>
    rw [hread] at htext
    refine .inr ⟨⟨cause, FilePath.normal full⟩, rfl, fun g => ?_, fun ignoreMissing => ?_⟩
    · obtain ⟨c, p⟩ := g
      simp [eq_comm]
    · cases ignoreMissing <;> cases hexcused : cause.isExcused <;>
        simp [Except.bind, htext, Fault.excuse, Fault.isExcused, Except.map, hexcused]

section
variable {path : Text} (hpath : ∀ fault, ¬ env.Stops path fault)
include hpath

theorem given_eq_none_iff {ignoreMissing : Bool} : given env tree ignoreMissing path = .ok none ↔
    ignoreMissing = true ∧ ∃ f, Fails env tree path f ∧ f.cause.isExcused = true := by
  rcases given_cases tree hpath with ⟨full, t, -, -, hfails, hgiven⟩ | ⟨f, -, hfails, hgiven⟩
  · simp [hgiven, hfails]
  · rw [hgiven]
    cases ignoreMissing <;> cases hexcused : f.cause.isExcused <;> simp [hfails, hexcused]

theorem given_error_iff {ignoreMissing : Bool} {fault : Fault} : given env tree ignoreMissing path = .error fault ↔
    ∃ f, fault = .os f ∧ Ends env tree ignoreMissing path f := by
  unfold Ends
  rcases given_cases tree hpath with ⟨full, t, -, -, hfails, hgiven⟩ | ⟨f, -, hfails, hgiven⟩
  · simp [hgiven, hfails]
  · rw [hgiven]
    simp only [hfails, Bool.and_eq_true]
    split
    · rename_i hskip
      refine iff_of_false (by simp) ?_
      rintro ⟨g, -, rfl, hends⟩
      exact hends hskip
    · rename_i hends
      constructor
      · intro h
        cases h
        exact ⟨f, rfl, rfl, hends⟩
      · rintro ⟨g, rfl, rfl, -⟩
        rfl

theorem exists_given_iff {ignoreMissing : Bool} :
    (∃ r, given env tree ignoreMissing path = .ok r) ↔ ∀ f, ¬ Ends env tree ignoreMissing path f := by
  cases hgiven : given env tree ignoreMissing path with
  | ok r =>
    refine iff_of_true ⟨r, rfl⟩ fun f hf => ?_
    cases hgiven.symm.trans ((given_error_iff hpath).2 ⟨f, rfl, hf⟩)
  | error fault =>
    obtain ⟨f, -, hf⟩ := (given_error_iff hpath).1 hgiven
    exact iff_of_false (by simp) fun h => h f hf

theorem readable_of_given {ignoreMissing : Bool} {r : Option (Text × Text)}
    (h : given env tree ignoreMissing path = .ok r) :
    readable? env tree path = r.map (·.1) ∧ ∀ p ∈ r, '\r' ∉ p.2 := by
  rcases given_cases tree hpath with ⟨full, t, hread, hfree, -, hgiven⟩ | ⟨f, hread, -, hgiven⟩
  · cases (hgiven ignoreMissing).symm.trans h
    exact ⟨hread, by simpa using hfree⟩
  · rw [hgiven] at h
    split at h
    · cases h
      exact ⟨hread, by simp⟩
    · cases h

end

/-- **What files give in turn** is the paths and the texts of those that can be read. -/
theorem filterMap_given {ignoreMissing : Bool} : ∀ {paths : List Text} {rs : List (Option (Text × Text))},
    (∀ path ∈ paths, ∀ fault, ¬ env.Stops path fault) →
    List.Forall₂ (fun path r => given env tree ignoreMissing path = .ok r) paths rs →
    (rs.filterMap id).map (·.1) = paths.filterMap (readable? env tree) ∧ (∀ p ∈ rs.filterMap id, '\r' ∉ p.2) ∧
      List.Forall₂ (fun path p => given env tree ignoreMissing path = .ok (some p))
        (paths.filter fun path => (readable? env tree path).isSome) (rs.filterMap id)
  | _, _, _, .nil => ⟨rfl, by simp, .nil⟩
  | path :: paths, r :: rs, hpaths, .cons hr hrs => by
    obtain ⟨hpath, hpaths⟩ := List.forall_mem_cons.1 hpaths
    obtain ⟨hnames, hfree, hgiven⟩ := filterMap_given hpaths hrs
    obtain ⟨hread, hclean⟩ := readable_of_given hpath hr
    cases r with
    | none =>
      rw [List.filterMap_cons_none hread, List.filterMap_cons_none (f := id) rfl,
        List.filter_cons_of_neg (by rw [hread]; exact Bool.false_ne_true)]
      exact ⟨hnames, hfree, hgiven⟩
    | some p =>
      rw [List.filterMap_cons_some hread, List.filterMap_cons_some (f := id) rfl,
        List.filter_cons_of_pos (by rw [hread]; rfl), List.map_cons, hnames]
      exact ⟨rfl, List.forall_mem_cons.2 ⟨hclean p rfl, hfree⟩, .cons hr hgiven⟩

end TrustFile

namespace Act

open TrustFile (readable? Fails Ends given)

variable {env : Environment} {tree : FileTree}

/-- **To pass on every fault is to rescue nothing.** -/
theorem rescue_eq_self {α : Type} {h : Fault → Act α} (hh : ∀ fault, h fault = fail fault) (a : Act α) :
    rescue a h = a := by
  funext s
  rw [rescue_run]
  cases a s with
  | mk r t =>
    cases r with
    | ok x => rfl
    | error fault =>
      dsimp only
      rw [hh fault]
      rfl

theorem knownHostsTexts_strict (path : Text) (rest : List Text) : knownHostsTexts false (path :: rest) =
    (expand path >>= fun full => text full >>= fun t => knownHostsTexts false rest >>= fun others =>
      pure ((full, t) :: others)) := by
  rw [knownHostsTexts]
  refine congrArg _ (funext fun full => ?_)
  rw [rescue_eq_self (fun fault => by cases fault <;> rfl), map_eq_pure_bind, bind_assoc]
  rfl

theorem outcome_knownHostsTexts_strict : ∀ paths : List Text, (knownHostsTexts false paths).outcome env tree =
    (paths.mapM (given env tree false)).map (·.filterMap id)
  | [] => rfl
  | path :: rest => by
    have hrest := IsReading.knownHostsTexts false rest
    have hstep : (knownHostsTexts false (path :: rest)).outcome env tree = (given env tree false path).bind fun r =>
        ((knownHostsTexts false rest).outcome env tree).map (r.toList ++ ·) := by
      rw [knownHostsTexts_strict, outcome_bind (IsReading.expand path) fun full =>
        IsReading.bind (IsReading.text full) fun t => IsReading.bind hrest fun _ => IsReading.pure _, outcome_expand]
      unfold given
      rw [if_neg Bool.false_ne_true]
      cases env.expand path with
      | error fault => rfl
      | ok full =>
        dsimp only [Except.bind]
        refine (outcome_bind (IsReading.text full) (fun t => IsReading.bind hrest fun _ => IsReading.pure _) env
          tree).trans ?_
        cases (text full).outcome env tree with
        | error fault => rfl
        | ok t => exact outcome_bind hrest (fun _ => IsReading.pure _) env tree
    rw [hstep, outcome_knownHostsTexts_strict rest, mapM_cons_eq]
    cases given env tree false path with
    | error fault => rfl
    | ok r => cases rest.mapM (given env tree false) <;> cases r <;> rfl

/-- **What is loaded of the files is what they give in turn.** -/
theorem outcome_knownHostsTexts (ignoreMissing : Bool) (paths : List Text) :
    (knownHostsTexts ignoreMissing paths).outcome env tree =
      (paths.mapM (given env tree ignoreMissing)).map (·.filterMap id) := by
  cases ignoreMissing with
  | true => exact outcome_knownHostsTexts_excused env tree paths
  | false => exact outcome_knownHostsTexts_strict paths

/-- The failure over what known-hosts files hold. -/
def contentFault (names : List Text) (message : Text) : Fault :=
  .config (.trust (.badEntry names message) (Json.ofOption .str (if names.length = 1 then names.head? else none))
    { underlyingError := .str message })

/-- The verifier with these names of a text that the library has read. -/
def storedVerifier (names : List Text) : Except Text TrustStore → Except Fault (Option Verifier)
  | .ok store => .ok (some (.trusting names store))
  | .error message => .error (contentFault names message)

theorem storedVerifier_ok_iff {names : List Text} {read : Except Text TrustStore} {v : Option Verifier} :
    storedVerifier names read = .ok v ↔ ∃ store, read = .ok store ∧ v = some (.trusting names store) := by
  cases read <;> simp [storedVerifier, eq_comm]

theorem storedVerifier_error_iff {names : List Text} {read : Except Text TrustStore} {fault : Fault} :
    storedVerifier names read = .error fault ↔
      ∃ message, read = .error message ∧ fault = contentFault names message := by
  cases read <;> simp [storedVerifier, eq_comm]

theorem verifierOf_eq {loaded : List (Text × Text)} (hne : loaded ≠ []) : verifierOf env loaded =
    storedVerifier (loaded.map (·.1)) (env.library.readHosts (Text.join ['\n'] (loaded.map (·.2)))) := by
  have hnames : loaded.map (·.1) ≠ [] := fun h => hne (List.map_eq_nil_iff.1 h)
  unfold verifierOf
  dsimp only
  split
  · exact absurd ‹_› hnames
  · cases env.library.readHosts (Text.join ['\n'] (loaded.map (·.2))) <;> rfl

section
variable {ignoreMissing : Bool} {paths : List Text}

theorem outcome_loadVerifier_given (rs : List (Option (Text × Text)))
    (h : paths.mapM (given env tree ignoreMissing) = .ok rs) : (loadVerifier ignoreMissing paths).outcome env tree =
      if rs.filterMap id = [] then
        if ignoreMissing then .ok none else .error (.config (.trust .noFiles .null {}))
      else verifierOf env (rs.filterMap id) := by
  rw [outcome_loadVerifier_bind, outcome_knownHostsTexts, h]
  simp only [Except.bind, Except.map]
  by_cases hnil : rs.filterMap id = []
  · rw [if_pos hnil, hnil]
    cases ignoreMissing <;> rfl
  · rw [if_neg hnil, if_neg fun h => hnil h.2]

/-- The verifier of the file alone trusts the keys of the store. -/
def Loads (env : Environment) (tree : FileTree) (ignoreMissing : Bool) (path : Text) (store : TrustStore) : Prop :=
  ∃ full, (loadVerifier ignoreMissing [path]).outcome env tree = .ok (some (.trusting [full] store))

/-- Loading the files ends in a failure over what they hold. -/
def Refuses (env : Environment) (tree : FileTree) (ignoreMissing : Bool) (paths : List Text) : Prop :=
  ∃ names message, (loadVerifier ignoreMissing paths).outcome env tree = .error (contentFault names message)

theorem refuses_of_stored {names : List Text} {t : Text}
    (h : (loadVerifier ignoreMissing paths).outcome env tree = storedVerifier names (env.library.readHosts t)) :
    Refuses env tree ignoreMissing paths ↔ ¬ env.library.Accepts t := by
  unfold Refuses
  rw [h, KeyLibrary.not_accepts_iff]
  simp only [storedVerifier_error_iff]
  constructor
  · rintro ⟨names, message, m, hm, -⟩
    exact ⟨m, hm⟩
  · rintro ⟨m, hm⟩
    exact ⟨names, m, m, hm, rfl⟩

/-- **A file alone loads, or is refused, as its text is read.** -/
theorem outcome_loadVerifier_alone {path : Text} {p : Text × Text}
    (h : given env tree ignoreMissing path = .ok (some p)) : (loadVerifier ignoreMissing [path]).outcome env tree =
      storedVerifier [p.1] (env.library.readHosts p.2) := by
  have hgiven : [path].mapM (given env tree ignoreMissing) = .ok [some p] := by
    rw [mapM_cons_eq, h]
    rfl
  rw [outcome_loadVerifier_given _ hgiven]
  refine (verifierOf_eq (List.cons_ne_nil p [])).trans ?_
  rw [List.map_singleton, List.map_singleton, Text.join_singleton]

variable (hpaths : ∀ path ∈ paths, ∀ fault, ¬ env.Stops path fault)
include hpaths

/-- **The loading ends at the first file that ends it.** -/
theorem mapM_given_error_iff (tree : FileTree) (ignoreMissing : Bool) (fault : Fault) :
    paths.mapM (given env tree ignoreMissing) = .error fault ↔ ∃ f, fault = .os f ∧
      ∃ before path after, paths = before ++ path :: after ∧
        (∀ p ∈ before, ∀ g, ¬ Ends env tree ignoreMissing p g) ∧ Ends env tree ignoreMissing path f := by
  have hbefore : ∀ before path after, paths = before ++ path :: after →
      ((∀ p ∈ before, ∃ r, given env tree ignoreMissing p = .ok r) ↔
        ∀ p ∈ before, ∀ g, ¬ Ends env tree ignoreMissing p g) := by
    rintro before path after rfl
    exact forall₂_congr fun p hp => TrustFile.exists_given_iff (hpaths p (List.mem_append_left _ hp))
  have hpath : ∀ before path after, paths = before ++ path :: after →
      (given env tree ignoreMissing path = .error fault ↔ ∃ f, fault = .os f ∧ Ends env tree ignoreMissing path f) := by
    rintro before path after rfl
    exact TrustFile.given_error_iff (hpaths path (List.mem_append_right _ List.mem_cons_self))
  rw [mapM_error_iff]
  constructor
  · rintro ⟨before, path, after, hsplit, hgiven, herror⟩
    obtain ⟨f, rfl, hends⟩ := (hpath before path after hsplit).1 herror
    exact ⟨f, rfl, before, path, after, hsplit, (hbefore before path after hsplit).1 hgiven, hends⟩
  · rintro ⟨f, hf, before, path, after, hsplit, hgo, hends⟩
    exact ⟨before, path, after, hsplit, (hbefore before path after hsplit).2 hgo,
      (hpath before path after hsplit).2 ⟨f, hf, hends⟩⟩

/-- **The ways in which a loading ends**, where no path stops it. -/
theorem loadVerifier_cases (tree : FileTree) (ignoreMissing : Bool) :
    (∃ f, paths.mapM (given env tree ignoreMissing) = .error (.os f) ∧
      (loadVerifier ignoreMissing paths).outcome env tree = .error (.os f)) ∨
    ∃ rs, paths.mapM (given env tree ignoreMissing) = .ok rs ∧
      ((paths.filterMap (readable? env tree) = [] ∧ (loadVerifier ignoreMissing paths).outcome env tree =
        if ignoreMissing then .ok none else .error (.config (.trust .noFiles .null {}))) ∨
      paths.filterMap (readable? env tree) ≠ [] ∧ (loadVerifier ignoreMissing paths).outcome env tree =
        storedVerifier (paths.filterMap (readable? env tree))
          (env.library.readHosts (Text.join ['\n'] ((rs.filterMap id).map (·.2))))) := by
  cases h : paths.mapM (given env tree ignoreMissing) with
  | error fault =>
    obtain ⟨f, rfl, -⟩ := (mapM_given_error_iff hpaths tree ignoreMissing fault).1 h
    refine .inl ⟨f, rfl, ?_⟩
    rw [outcome_loadVerifier_bind, outcome_knownHostsTexts, h]
    rfl
  | ok rs =>
    obtain ⟨hnames, -, -⟩ := TrustFile.filterMap_given hpaths (mapM_ok_iff.1 h)
    refine .inr ⟨rs, rfl, ?_⟩
    rw [outcome_loadVerifier_given rs h, ← hnames]
    by_cases hnil : rs.filterMap id = []
    · exact .inl ⟨by rw [hnil]; rfl, if_pos hnil⟩
    · exact .inr ⟨fun h => hnil (List.map_eq_nil_iff.1 h), (if_neg hnil).trans (verifierOf_eq hnil)⟩

theorem loadVerifier_eq_os_iff {f : OsFault} : (loadVerifier ignoreMissing paths).outcome env tree = .error (.os f) ↔
    ∃ before path after, paths = before ++ path :: after ∧
      (∀ p ∈ before, ∀ g, ¬ Ends env tree ignoreMissing p g) ∧ Ends env tree ignoreMissing path f := by
  have hmapM := mapM_given_error_iff hpaths tree ignoreMissing (.os f)
  simp only [Fault.os.injEq, exists_eq_left'] at hmapM
  rw [← hmapM]
  rcases loadVerifier_cases hpaths tree ignoreMissing with ⟨g, hg, h⟩ | ⟨rs, hrs, ⟨-, h⟩ | ⟨-, h⟩⟩
  · rw [hg, h]
    simp only [Except.error.injEq]
  · rw [hrs, h]
    split <;> simp
  · rw [hrs, h, storedVerifier_error_iff]
    simp [contentFault]

theorem given_none_of_unread {rs : List (Option (Text × Text))}
    (hrs : paths.mapM (given env tree ignoreMissing) = .ok rs) (hnil : paths.filterMap (readable? env tree) = []) :
    ∀ path ∈ paths, given env tree ignoreMissing path = .ok none := by
  intro path hmem
  obtain ⟨r, hr⟩ := exists_forall₂_iff.1 ⟨rs, mapM_ok_iff.1 hrs⟩ path hmem
  have hread := (TrustFile.readable_of_given (hpaths path hmem) hr).1
  rw [List.filterMap_eq_nil_iff.1 hnil path hmem] at hread
  rw [hr, Option.map_eq_none_iff.1 hread.symm]

/-- **There is no verifier exactly if every file is passed over.** -/
theorem loadVerifier_eq_none_iff : (loadVerifier ignoreMissing paths).outcome env tree = .ok none ↔
    ignoreMissing = true ∧ ∀ path ∈ paths, ∃ f, Fails env tree path f ∧ f.cause.isExcused = true := by
  constructor
  · intro h
    rcases loadVerifier_cases hpaths tree ignoreMissing with ⟨g, -, hrun⟩ | ⟨rs, hrs, ⟨hnil, hrun⟩ | ⟨-, hrun⟩⟩
    · cases hrun.symm.trans h
    · cases ignoreMissing with
      | false => cases hrun.symm.trans h
      | true =>
        refine ⟨rfl, fun path hmem => ?_⟩
        exact ((TrustFile.given_eq_none_iff (hpaths path hmem)).1 (given_none_of_unread hpaths hrs hnil path hmem)).2
    · obtain ⟨store, -, hv⟩ := storedVerifier_ok_iff.1 (hrun.symm.trans h)
      cases hv
  · rintro ⟨rfl, hskip⟩
    have hgiven : ∀ path ∈ paths, given env tree true path = .ok none := fun path hmem =>
      (TrustFile.given_eq_none_iff (hpaths path hmem)).2 ⟨rfl, hskip path hmem⟩
    have hunread : ∀ path ∈ paths, readable? env tree path = none := fun path hmem =>
      (TrustFile.readable_of_given (hpaths path hmem) (hgiven path hmem)).1
    rcases loadVerifier_cases hpaths tree true with ⟨g, hg, -⟩ | ⟨rs, -, ⟨-, hrun⟩ | ⟨hne, -⟩⟩
    · obtain ⟨before, path, after, rfl, -, herror⟩ := mapM_error_iff.1 hg
      cases herror.symm.trans (hgiven path (List.mem_append_right _ List.mem_cons_self))
    · exact hrun
    · exact absurd (List.filterMap_eq_nil_iff.2 hunread) hne

/-- **Without any path there is nothing to load**, unless files may be missing. -/
theorem loadVerifier_eq_noFiles_iff {path : Json} {c : Context} :
    (loadVerifier ignoreMissing paths).outcome env tree = .error (.config (.trust .noFiles path c)) ↔
      ignoreMissing = false ∧ paths = [] ∧ path = .null ∧ c = {} := by
  constructor
  · intro h
    rcases loadVerifier_cases hpaths tree ignoreMissing with ⟨g, -, hrun⟩ | ⟨rs, hrs, ⟨hnil, hrun⟩ | ⟨-, hrun⟩⟩
    · cases hrun.symm.trans h
    · cases ignoreMissing with
      | true => cases hrun.symm.trans h
      | false =>
        cases hrun.symm.trans h
        refine ⟨rfl, List.eq_nil_iff_forall_not_mem.2 fun p hmem => ?_, rfl, rfl⟩
        -- a file is passed over only where files may be missing
        have hnone := given_none_of_unread hpaths hrs hnil p hmem
        exact Bool.false_ne_true ((TrustFile.given_eq_none_iff (hpaths p hmem)).1 hnone).1
    · obtain ⟨message, -, hfault⟩ := storedVerifier_error_iff.1 (hrun.symm.trans h)
      cases hfault
  · rintro ⟨rfl, rfl, rfl, rfl⟩
    rfl

theorem outcomes_alone {rs : List (Option (Text × Text))}
    (hrs : paths.mapM (given env tree ignoreMissing) = .ok rs) :
    List.Forall₂ (fun path p => (loadVerifier ignoreMissing [path]).outcome env tree =
        storedVerifier [p.1] (env.library.readHosts p.2))
      (paths.filter fun path => (readable? env tree path).isSome) (rs.filterMap id) := by
  obtain ⟨-, -, hgiven⟩ := TrustFile.filterMap_given hpaths (mapM_ok_iff.1 hrs)
  exact hgiven.imp fun path p h => outcome_loadVerifier_alone h

section
variable (hlines : env.library.ReadsLines)
include hlines

/-- **A verifier trusts the keys of all the files that can be read**, each read by itself. -/
theorem exists_stores_of_loadVerifier {v : Verifier}
    (h : (loadVerifier ignoreMissing paths).outcome env tree = .ok (some v)) : ∃ stores store,
      v = .trusting (paths.filterMap (readable? env tree)) store ∧
      List.Forall₂ (Loads env tree ignoreMissing)
        (paths.filter fun path => (readable? env tree path).isSome) stores ∧
      ∀ role host, (store.keysFor role host).Perm (stores.flatMap fun store => store.keysFor role host) := by
  rcases loadVerifier_cases hpaths tree ignoreMissing with ⟨g, -, hrun⟩ | ⟨rs, hrs, ⟨-, hrun⟩ | ⟨-, hrun⟩⟩
  · cases hrun.symm.trans h
  · rw [hrun] at h
    split at h <;> cases h
  · obtain ⟨store, hstore, hv⟩ := storedVerifier_ok_iff.1 (hrun.symm.trans h)
    cases hv
    obtain ⟨-, hfree, -⟩ := TrustFile.filterMap_given hpaths (mapM_ok_iff.1 hrs)
    have htexts : ∀ t ∈ (rs.filterMap id).map (·.2), '\r' ∉ t := List.forall_mem_map.2 hfree
    have htaken := (hlines.accepts_join_iff htexts).1 ⟨store, hstore⟩
    have hread : ∀ p ∈ rs.filterMap id, ∃ store, env.library.readHosts p.2 = .ok store :=
      fun p hp => htaken p.2 (List.mem_map_of_mem hp)
    obtain ⟨stores, hstores⟩ := exists_forall₂_iff.2 hread
    refine ⟨stores, store, rfl, forall₂_comp (fun path p store hpath hp => ?_) (outcomes_alone hpaths hrs) hstores,
      fun role host => ?_⟩
    · exact ⟨p.1, hpath.trans (storedVerifier_ok_iff.2 ⟨store, hp, rfl⟩)⟩
    · rw [← KeyLibrary.keysIn_of_readHosts hstore, ← KeyLibrary.flatMap_keysIn_of_readHosts hstores, ← List.flatMap_map]
      exact hlines.keysIn_join htexts htaken

/-- **Files are refused together exactly if one of them is refused alone**, where none ends the loading. -/
theorem refuses_iff (hgo : ∀ path ∈ paths, ∀ f, ¬ Ends env tree ignoreMissing path f) :
    Refuses env tree ignoreMissing paths ↔
      ∃ path ∈ paths.filter fun path => (readable? env tree path).isSome, Refuses env tree ignoreMissing [path] := by
  rcases loadVerifier_cases hpaths tree ignoreMissing with ⟨g, hg, -⟩ | ⟨rs, hrs, ⟨hnil, hrun⟩ | ⟨-, hrun⟩⟩
  · obtain ⟨f, -, before, path, after, rfl, -, hends⟩ := (mapM_given_error_iff hpaths _ _ _).1 hg
    exact absurd hends (hgo path (List.mem_append_right _ List.mem_cons_self) f)
  · refine iff_of_false ?_ ?_
    · rintro ⟨names, fault, h⟩
      rw [hrun] at h
      split at h <;> cases h
    · rintro ⟨path, hmem, -⟩
      obtain ⟨hmem, hread⟩ := List.mem_filter.1 hmem
      rw [List.filterMap_eq_nil_iff.1 hnil path hmem] at hread
      exact Bool.false_ne_true hread
  · obtain ⟨-, hfree, -⟩ := TrustFile.filterMap_given hpaths (mapM_ok_iff.1 hrs)
    have htexts : ∀ t ∈ (rs.filterMap id).map (·.2), '\r' ∉ t := List.forall_mem_map.2 hfree
    have halone := exists_mem_iff_of_forall₂ (P := fun path => Refuses env tree ignoreMissing [path])
      (Q := fun p : Text × Text => ¬ env.library.Accepts p.2) (fun path p h => refuses_of_stored h)
      (outcomes_alone hpaths hrs)
    rw [halone, refuses_of_stored hrun, hlines.accepts_join_iff htexts, List.forall_mem_map]
    simp

end

end

/-- **Several known-hosts files make one store.**  The first file that can neither be read nor passed over ends the
loading; there is no verifier exactly if every file is passed over; and otherwise what is trusted for a host is what the
files that can be read trust alone, put together, unless one of them is refused alone. -/
theorem loadVerifier_joins_files (ignoreMissing : Bool) (paths : List Text) (s : Session)
    (hpaths : ∀ path ∈ paths, ∀ fault, ¬ s.environment.Stops path fault)
    (hlines : s.environment.library.ReadsLines) :
    (∀ f, (loadVerifier ignoreMissing paths s).1 = .error (.os f) ↔
      ∃ before path after, paths = before ++ path :: after ∧
        (∀ p ∈ before, ∀ g, ¬ Ends s.environment s.tree ignoreMissing p g) ∧
        Ends s.environment s.tree ignoreMissing path f) ∧
    ((loadVerifier ignoreMissing paths s).1 = .ok none ↔
      ignoreMissing = true ∧ ∀ path ∈ paths, ∃ f, Fails s.environment s.tree path f ∧ f.cause.isExcused = true) ∧
    (∀ path c, (loadVerifier ignoreMissing paths s).1 = .error (.config (.trust .noFiles path c)) ↔
      ignoreMissing = false ∧ paths = [] ∧ path = .null ∧ c = {}) ∧
    (∀ v, (loadVerifier ignoreMissing paths s).1 = .ok (some v) → ∃ stores store,
      v = .trusting (paths.filterMap (readable? s.environment s.tree)) store ∧
      List.Forall₂ (Loads s.environment s.tree ignoreMissing)
        (paths.filter fun path => (readable? s.environment s.tree path).isSome) stores ∧
      ∀ role host, (store.keysFor role host).Perm (stores.flatMap fun store => store.keysFor role host)) ∧
    ((∀ path ∈ paths, ∀ f, ¬ Ends s.environment s.tree ignoreMissing path f) →
      paths.filterMap (readable? s.environment s.tree) ≠ [] →
        ((∃ v, (loadVerifier ignoreMissing paths s).1 = .ok (some v)) ↔
          ¬ Refuses s.environment s.tree ignoreMissing paths) ∧
        (Refuses s.environment s.tree ignoreMissing paths ↔
          ∃ path ∈ paths.filter fun path => (readable? s.environment s.tree path).isSome,
            Refuses s.environment s.tree ignoreMissing [path])) := by
  rw [(IsReading.loadVerifier ignoreMissing paths).run_fst s]
  refine ⟨fun f => loadVerifier_eq_os_iff hpaths, loadVerifier_eq_none_iff hpaths,
    fun path c => loadVerifier_eq_noFiles_iff hpaths, fun v hv => exists_stores_of_loadVerifier hpaths hlines hv,
    fun hgo hread => ⟨?_, refuses_iff hpaths hlines hgo⟩⟩
  rcases loadVerifier_cases hpaths s.tree ignoreMissing with ⟨g, hg, -⟩ | ⟨rs, -, ⟨hnil, -⟩ | ⟨-, hrun⟩⟩
  · obtain ⟨f, -, before, path, after, rfl, -, hends⟩ := (mapM_given_error_iff hpaths _ _ _).1 hg
    exact absurd hends (hgo path (List.mem_append_right _ List.mem_cons_self) f)
  · exact absurd hnil hread
  · rw [refuses_of_stored hrun, hrun, not_not]
    simp only [storedVerifier_ok_iff, Option.some.injEq]
    exact ⟨fun ⟨v, store, hstore, _⟩ => ⟨store, hstore⟩, fun ⟨store, hstore⟩ => ⟨_, store, hstore, rfl⟩⟩

/-- Two known-hosts files that lack the line end at their end, with an empty file and a directory beside them. -/
def trustingSession : Session :=
  ⟨sampleEnvironment (.plain
      [⟨"k", "ssh-ed25519", "AAAAC3NzaC1lZDI1NTE5AAAAIPqTzdrd9k0mYaW67lkeI0YgSncMCGWIDcI1iCwSTYrV"⟩,
        ⟨"l", "ssh-ed25519", "AAAAC3NzaC1lZDI1NTE5AAAAIOFLfZzIDjARECXMIdl5PYoZgjAcEjqgkTyCJKdAqDZ3"⟩] fun _ _ => none),
    (((FileTree.bare.put ⟨false, ["a"]⟩ (FileTree.file (Text.encode
        "db ssh-ed25519 AAAAC3NzaC1lZDI1NTE5AAAAIPqTzdrd9k0mYaW67lkeI0YgSncMCGWIDcI1iCwSTYrV"))).put
      ⟨false, ["void"]⟩ (FileTree.file [])).put
      ⟨false, ["b"]⟩ (FileTree.file (Text.encode
        "@cert-authority *b ssh-ed25519 AAAAC3NzaC1lZDI1NTE5AAAAIOFLfZzIDjARECXMIdl5PYoZgjAcEjqgkTyCJKdAqDZ3"))).put
      ⟨false, ["d"]⟩ FileTree.directory, [], [], []⟩

/-- A path that is absent stands between two that can be read. -/
def trustedPaths : List Text :=
  ["a", "gone", "void", "b"]

theorem loadVerifier_joins_files_unended :
    (∀ path ∈ trustedPaths, ∀ fault, ¬ trustingSession.environment.Stops path fault) ∧
    trustingSession.environment.library.ReadsLines ∧
    ∃ stores store, (loadVerifier true trustedPaths trustingSession).1 =
        .ok (some (.trusting ["a", "void", "b"] store)) ∧
      store.keysFor .host "db" = ["k"] ∧ store.keysFor .authority "db" = ["l"] ∧
      List.Forall₂ (Loads trustingSession.environment trustingSession.tree true) ["a", "void", "b"] stores ∧
      ∀ role host, (store.keysFor role host).Perm (stores.flatMap fun store => store.keysFor role host) := by
  have hpaths : ∀ path ∈ trustedPaths, ∀ fault, ¬ trustingSession.environment.Stops path fault := by
    have hplain : ∀ path ∈ trustedPaths, trustingSession.environment.expand path = .ok path ∧
        path.contains (Char.ofNat 0) = false := by
      simp only [trustedPaths, List.forall_mem_cons]
      exact ⟨⟨rfl, rfl⟩, ⟨rfl, rfl⟩, ⟨rfl, rfl⟩, ⟨rfl, rfl⟩, by simp⟩
    rintro path hmem fault (hfault | ⟨full, hfull, hnull, -⟩)
    · cases hfault.symm.trans (hplain path hmem).1
    · cases hfull.symm.trans (hplain path hmem).1
      exact Bool.false_ne_true ((hplain path hmem).2.symm.trans hnull)
  have hlines : trustingSession.environment.library.ReadsLines := KeyLibrary.readsLines_plain _ _
  obtain ⟨-, -, -, htrusts, -⟩ := loadVerifier_joins_files true trustedPaths trustingSession hpaths hlines
  have hread : trustedPaths.filterMap (readable? trustingSession.environment trustingSession.tree) =
        ["a", "void", "b"] ∧
      trustedPaths.filter (fun path => (readable? trustingSession.environment trustingSession.tree path).isSome) =
        ["a", "void", "b"] := by decide +kernel
  have hrun : (loadVerifier true trustedPaths trustingSession).1.toOption.map (Option.map fun v =>
      v.store?.map fun store => (store.keysFor .host "db", store.keysFor .authority "db")) =
        some (some (some (["k".toList], ["l".toList]))) := by decide +kernel
  rw [hread.1, hread.2] at htrusts
  cases hv : (loadVerifier true trustedPaths trustingSession).1 with
  | error fault =>
    rw [hv] at hrun
    cases hrun
  | ok loaded =>
    rw [hv] at hrun htrusts
    cases loaded with
    | none => cases hrun
    | some v =>
      obtain ⟨stores, store, rfl, hstores, hkeys⟩ := htrusts v rfl
      obtain ⟨hhost, hauthority⟩ := Prod.mk.inj (Option.some.inj (Option.some.inj (Option.some.inj hrun)))
      exact ⟨hpaths, hlines, stores, store, rfl, hhost, hauthority, hstores, hkeys⟩

end Act

end SshConfig
