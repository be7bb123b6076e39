import SshConfig.Proofs.Loader.Lookup
/-!
# HostKeys — when a client leaves host keys unchecked

A client leaves the keys of a host unchecked exactly if the settings for it say so in so many words
(`unchecked_iff_set`).  The verifier says it, the flag says it, and so does the connection, which is told to check
nothing; they agree whatever the defaults are, since a default never takes the place of a verifier that was chosen.
-/
namespace SshConfig

theorem Json.mem_optional_iff {α : Type} {name : Text} {f : α → Json} {a : Option α} {m : Text × Json} :
    m ∈ Json.optional name f a ↔ m.1 = name ∧ ∃ v, a = some v ∧ f v = m.2 := by
  obtain ⟨n, j⟩ := m
  cases a with
  | none => simp [Json.optional]
  | some v => simp [Json.optional, eq_comm]

theorem Verifier.trustFor_eq_null_iff {v : Verifier} {host : Text} : v.trustFor host = .null ↔ v.store? = none := by
  unfold trustFor
  cases v.store? <;> simp

namespace Effective

/-- What tells a connection to check nothing. -/
def unchecked : Text × Json :=
  ("known_hosts", .null)

/-- **A connection is told to check nothing exactly if the verifier has no store.** -/
theorem unchecked_mem_iff (e : Effective) : unchecked ∈ e.connectMembers ↔ e.knownHosts = some none := by
  have hmember : unchecked ∈ Json.optional "known_hosts" (fun v : Verifier => v.trustFor e.hostname) e.verifier ↔
      e.knownHosts = some none := by
    have hstore : e.knownHosts = some none ↔ ∃ v, e.verifier = some v ∧ v.store? = none := Option.map_eq_some_iff
    rw [hstore, Json.mem_optional_iff]
    exact ⟨fun ⟨_, v, hv, htrust⟩ => ⟨v, hv, Verifier.trustFor_eq_null_iff.1 htrust⟩,
      fun ⟨v, hv, hnone⟩ => ⟨rfl, v, hv, Verifier.trustFor_eq_null_iff.2 hnone⟩⟩
  have hfixed : unchecked ∉ e.fixedArguments := by
    intro h
    have hname : unchecked.1 ∈ e.fixedArguments.map (·.1) := List.mem_map_of_mem h
    have hnames : e.fixedArguments.map (·.1) = ["host", "port", "config", "tcp_keepalive"].map String.toList := rfl
    rw [hnames] at hname
    exact absurd hname (by decide)
  rw [← hmember]
  unfold connectMembers
  simp only [List.mem_append]
  constructor
  · rintro ((((((h | h) | h) | h) | h) | h) | h)
    · exact absurd h hfixed
    · exact absurd (Json.mem_optional_iff.1 h).1 (by decide)
    · exact absurd (Json.mem_optional_iff.1 h).1 (by decide)
    · exact absurd (Json.mem_optional_iff.1 h).1 (by decide)
    · exact absurd (Json.mem_optional_iff.1 h).1 (by decide)
    · exact h
    · exact absurd (Json.mem_optional_iff.1 h).1 (by decide)
  · exact fun h => .inl (.inr h)

end Effective

namespace Loader

variable {l : Loader} {network address : Text}

theorem exists_trusting_of_defaultVerifier {env : Environment} {tree : FileTree} {v : Verifier}
    (h : l.defaultVerifier env tree = .ok (some v)) : ∃ names store, v = .trusting names store :=
  Act.exists_trusting_of_loadVerifier env tree h

/-- **Defaults never turn checking off, nor on**: what was built decides. -/
theorem verifier_of_completed {s : Settings} {env₀ env : Environment} {tree₀ tree : FileTree} {e : Effective}
    (identity : Option Identity) {verifier : Option Verifier} (hdefault : l.defaultVerifier env₀ tree₀ = .ok verifier)
    (hbuild : (Act.buildEffective s address network).outcome env tree = .ok e) :
    (e.strictHostKeyChecking = false → (completed identity verifier e).verifier = some .acceptAny) ∧
      (e.strictHostKeyChecking = true → ∀ v, (completed identity verifier e).verifier = some v →
        ∃ names store, v = .trusting names store) := by
  obtain ⟨hchoose, -, -, -⟩ := Act.parts_of_buildEffective env tree hbuild
  have hverifier : (completed identity verifier e).verifier = (e.verifier <|> verifier) := rfl
  rw [hverifier]
  constructor
  · intro hstrict
    rw [hstrict, Act.outcome_chooseVerifier] at hchoose
    rw [← Except.ok.inj hchoose]
    rfl
  · intro hstrict v hv
    rw [hstrict] at hchoose
    cases he : e.verifier with
    | some w =>
      rw [he] at hchoose hv
      cases hv
      exact Act.exists_trusting_of_chooseVerifier env tree hchoose
    | none =>
      rw [he] at hv
      cases (show verifier = some v from hv)
      exact exists_trusting_of_defaultVerifier hdefault

/-- **Nothing is checked exactly where checking is set to be off.** -/
theorem unchecked_of_completed {s : Settings} {env₀ env : Environment} {tree₀ tree : FileTree} {e : Effective}
    (identity : Option Identity) {verifier : Option Verifier} (hdefault : l.defaultVerifier env₀ tree₀ = .ok verifier)
    (hbuild : (Act.buildEffective s address network).outcome env tree = .ok e) :
    (e.strictHostKeyChecking = false ↔ e.settings.get? .strictHostKeyChecking = some false) ∧
      ((completed identity verifier e).knownHosts = some none ↔ e.strictHostKeyChecking = false) ∧
      ((∃ v, (completed identity verifier e).verifier = some v ∧ v.isInsecure = true) ↔
        e.strictHostKeyChecking = false) := by
  obtain ⟨-, -, hsettings, hstrict⟩ := Act.parts_of_buildEffective env tree hbuild
  obtain ⟨hoff, hon⟩ := verifier_of_completed identity hdefault hbuild
  have hstore : (completed identity verifier e).knownHosts = some none ↔
      ∃ v, (completed identity verifier e).verifier = some v ∧ v.store? = none := Option.map_eq_some_iff
  refine ⟨?_, ?_, ?_⟩
  · rw [hstrict, hsettings, Act.checks_eq_false_iff]
  · rw [hstore]
    cases hs : e.strictHostKeyChecking with
    | false => exact iff_of_true ⟨.acceptAny, hoff hs, rfl⟩ rfl
    | true =>
      refine iff_of_false ?_ (by decide)
      rintro ⟨v, hv, hnone⟩
      obtain ⟨names, store, rfl⟩ := hon hs v hv
      cases hnone
  · cases hs : e.strictHostKeyChecking with
    | false => exact iff_of_true ⟨.acceptAny, hoff hs, rfl⟩ rfl
    | true =>
      refine iff_of_false ?_ (by decide)
      rintro ⟨v, hv, hinsecure⟩
      obtain ⟨names, store, rfl⟩ := hon hs v hv
      cases hinsecure

/-- **Host keys are never left unchecked by accident.**  Whoever is found was found in the first source that has
something for the address, and the inline options lie on top of its entry and its globals.  The connection is told to
check nothing, the verifier accepts every key, and the flag is off, each exactly if these settings turn checking off.
Where they do not and name files of which none can be read, no key is trusted, whatever the default known hosts are. -/
theorem unchecked_iff_set {s₀ s₁ : Session} {c : Client} (hmade : l.newClient s₀ = (.ok c, s₁)) {s : Session} {a : Text}
    {e : Effective} (hfound : (c.lookup network address s).1 = .ok (.found a e)) :
    ∃ overlay earlier i f later block,
      (Settings.ofOptions l.options = .ok overlay ∧ l.readingsFor s₀ s = earlier ++ (i, .ok (some f)) :: later ∧
        (∀ r ∈ earlier, ∃ file, r.2 = .ok file ∧ ∀ g ∈ file, g.lookup address = none) ∧
        f.lookup address = some block ∧ e.settings = block.merge overlay ∧
        ∀ k, e.settings.get? k = (overlay.get? k).or
          (((f.entries.find? (·.accepts address)).bind (·.settings.get? k)).or (f.globals.get? k))) ∧
      ((Effective.unchecked ∈ e.connectMembers ↔ e.settings.get? .strictHostKeyChecking = some false) ∧
        (e.knownHosts = some none ↔ e.settings.get? .strictHostKeyChecking = some false) ∧
        ((∃ v, e.verifier = some v ∧ v.isInsecure = true) ↔ e.settings.get? .strictHostKeyChecking = some false) ∧
        (e.strictHostKeyChecking = false ↔ e.settings.get? .strictHostKeyChecking = some false)) ∧
      ∀ paths, e.settings.get? .strictHostKeyChecking ≠ some false → Act.trustPaths e.settings = .ok paths →
        paths ≠ [] →
        (∀ path ∈ paths, ∃ full, s.environment.expand path = .ok full ∧ full.contains (Char.ofNat 0) = false ∧
          (s.tree.read (FilePath.ofText full) = .error .notFound ∨
            s.tree.read (FilePath.ofText full) = .error .denied)) →
        e.verifier = some .rejectAll := by
  obtain ⟨overlay, identity, verifier, hoverlay, -, hverifier, earlier, i, f, later, block, e, hsplit, hearlier, hblock,
    hbuild, rfl⟩ := exists_of_lookup_found hmade hfound
  obtain ⟨hchoose, -, hsettings, -⟩ := Act.parts_of_buildEffective s.environment s.tree hbuild
  obtain ⟨hset, hconnection, hinsecure⟩ := unchecked_of_completed identity hverifier hbuild
  refine ⟨overlay, earlier, i, f, later, block, ⟨hoverlay, hsplit, hearlier, hblock, hsettings, fun k => ?_⟩,
    ⟨?_, hconnection.trans hset, hinsecure.trans hset, hset⟩, fun paths hchecked hpaths hne hskip => ?_⟩
  · have hcompleted : (completed identity verifier e).settings = e.settings := rfl
    rw [hcompleted, hsettings, Settings.get?_merge, ConfigFile.get?_of_lookup hblock]
  · exact (Effective.unchecked_mem_iff _).trans (hconnection.trans hset)
  · have hstrict : e.strictHostKeyChecking = true := by
      by_contra hoff
      exact hchecked (hset.1 (Bool.eq_false_iff.2 hoff))
    rw [hstrict, ← hsettings] at hchoose
    have hnone := Act.rejectAll_of_chooseVerifier s.environment s.tree hpaths hne
      (fun path hpath => (Act.trustText_eq_none_iff _ _ path).2 (hskip path hpath)) hchoose
    -- a verifier was chosen, so the default one is not taken
    change (e.verifier <|> verifier) = _
    rw [hnone]
    rfl

/-- There are default known hosts; one host is not to be checked, and another names a file that is not there. -/
def guardedSession : Session where
  environment := sampleEnvironment .keyless
  tree := ⟨[(⟨false, ["known"]⟩, FileTree.file []),
    (⟨false, ["user"]⟩, FileTree.file (Text.encode
      "Host open\n StrictHostKeyChecking no\nHost shut\n UserKnownHostsFile gone\n"))]⟩

def guardedLoader : Loader where
  defaults := ⟨"user", "system", "known", "known2", []⟩
  onDemand := true

/-- What a client of the guarded files finds. -/
def guardedFind (address : Text) : Option Effective :=
  (guardedLoader.newClient guardedSession).1.toOption.bind fun c =>
    match (c.lookup "tcp" address guardedSession).1 with
    | .ok (.found _ e) => some e
    | _ => none

theorem exists_of_guardedFind {address : Text} {c : Client} {s : Session} {e : Effective}
    (hmade : guardedLoader.newClient guardedSession = (.ok c, s)) (h : guardedFind address = some e) :
    ∃ a, (c.lookup "tcp" address guardedSession).1 = .ok (.found a e) := by
  unfold guardedFind at h
  rw [hmade] at h
  simp only [Except.toOption, Option.bind_some] at h
  split at h
  · rename_i a e' hfound
    cases h
    exact ⟨a, hfound⟩
  · cases h

theorem unchecked_iff_set_guarded : ∃ c s opened shut,
    guardedLoader.newClient guardedSession = (.ok c, s) ∧
    (∃ a, (c.lookup "tcp" "open" guardedSession).1 = .ok (.found a opened)) ∧
    Effective.unchecked ∈ opened.connectMembers ∧
    (∃ a, (c.lookup "tcp" "shut" guardedSession).1 = .ok (.found a shut)) ∧ shut.verifier = some .rejectAll := by
  have hopened : (guardedFind "open").map (·.strictHostKeyChecking) = some false := by decide +kernel
  have hshut : (guardedFind "shut").map (fun e => (e.strictHostKeyChecking, (Act.trustPaths e.settings).toOption)) =
      some (true, some ["gone".toList]) := by decide +kernel
  have hgone : guardedSession.environment.expand "gone" = .ok "gone".toList := by
    rfl
  have hread : guardedSession.tree.read (FilePath.ofText "gone") = .error .notFound := by decide +kernel
  obtain ⟨opened, hopened, hoff⟩ := Option.map_eq_some_iff.1 hopened
  obtain ⟨shut, hshut, hvalues⟩ := Option.map_eq_some_iff.1 hshut
  obtain ⟨hon, hpaths⟩ := Prod.mk.inj hvalues
  obtain ⟨c, s, hmade⟩ : ∃ c s, guardedLoader.newClient guardedSession = (.ok c, s) :=
    Act.exists_of_run_isOk (by decide +kernel)
  obtain ⟨a, hopened⟩ := exists_of_guardedFind hmade hopened
  obtain ⟨b, hshut⟩ := exists_of_guardedFind hmade hshut
  obtain ⟨-, -, -, -, -, -, -, ⟨htold, -, -, hset⟩, -⟩ := unchecked_iff_set hmade hopened
  obtain ⟨-, -, -, -, -, -, -, ⟨-, -, -, hunset⟩, hreject⟩ := unchecked_iff_set hmade hshut
  refine ⟨c, s, opened, shut, hmade, ⟨a, hopened⟩, htold.2 (hset.1 hoff), ⟨b, hshut⟩,
    hreject ["gone"] ?_ ?_ (by simp) ?_⟩
  · intro hoff
    rw [hunset.2 hoff] at hon
    cases hon
  · cases htrust : Act.trustPaths shut.settings with
    | error fault =>
      rw [htrust] at hpaths
      cases hpaths
    | ok paths =>
      rw [htrust] at hpaths
      exact congrArg Except.ok (Option.some.inj hpaths)
  · intro path hpath
    rw [List.mem_singleton.1 hpath]
    exact ⟨_, hgone, by decide, .inl hread⟩

end Loader
end SshConfig
