import SshConfig.Proofs.Loader.Lookup
import SshConfig.Proofs.Loader.Traces
/-!
# History — what a lazy client tells of the files it has read

Over any history of look-ups and changes of the files a lazy client tells the latest reading of each source, of those
that came to an end, combined in the order of the sources (`lazy_client_tells_latest`).  A look-up reads the sources up
to and including the first that cannot be read or that does not leave the address unfound, and it touches the readings
of no other.
-/
namespace SshConfig

/-- What happens around a client: a look-up, or a change of the files. -/
inductive Happening where
  | lookup (network address : Text)
  | change (tree : FileTree)

/-- The session after what happened.  A look-up may end in a fault, and things go on after it. -/
def Client.replay (c : Client) : List Happening → Session → Session
  | [], s => s
  | .lookup network address :: rest, s => c.replay rest (c.lookup network address s).2
  | .change tree :: rest, s => c.replay rest { s with tree := tree }

/-! ## The readings of one look-up -/

theorem find?_dropReading {i j : Nat} (h : j ≠ i) (loaded : List (Nat × ConfigFile)) :
    (dropReading j loaded).find? (·.1 == i) = loaded.find? (·.1 == i) := by
  unfold dropReading
  rw [List.find?_filter]
  congr 1
  funext r
  by_cases hr : r.1 = i <;> simp [hr, Ne.symm h]

theorem find?_keepReading {i j : Nat} (h : j ≠ i) (f : ConfigFile) : ∀ loaded : List (Nat × ConfigFile),
    (keepReading j f loaded).find? (·.1 == i) = loaded.find? (·.1 == i)
  | [] => by simp [keepReading, h]
  | r :: rs => by
    have hj : (j == i) = false := by simpa using h
    unfold keepReading
    by_cases hlt : r.1 < j
    · rw [if_pos hlt, List.find?_cons, List.find?_cons, find?_keepReading h f rs]
    · rw [if_neg hlt]
      by_cases heq : r.1 = j
      · rw [if_pos heq, List.find?_cons, List.find?_cons, heq]
        simp only [hj]
      · rw [if_neg heq, List.find?_cons]
        simp only [hj]

theorem Reading.find?_keep {i : Nat} {loaded : List (Nat × ConfigFile)} {r : Reading}
    (h : ∀ file, r ≠ (i, .ok file)) : (keep loaded r).find? (·.1 == i) = loaded.find? (·.1 == i) := by
  obtain ⟨j, x⟩ := r
  cases x with
  | error fault => rfl
  | ok file =>
    have hj : j ≠ i := fun hj => h file (by rw [hj])
    cases file with
    | none => exact find?_dropReading hj loaded
    | some f => exact find?_keepReading hj f loaded

/-- **Readings that do not come to an end for a source leave what is kept of it.** -/
theorem Reading.find?_foldl_keep {i : Nat} : ∀ {rs : List Reading} {loaded : List (Nat × ConfigFile)},
    (∀ file, (i, .ok file) ∉ rs) → (rs.foldl keep loaded).find? (·.1 == i) = loaded.find? (·.1 == i)
  | [], _, _ => rfl
  | r :: rs, loaded, h => by
    rw [List.foldl_cons, find?_foldl_keep fun file hfile => h file (List.mem_cons_of_mem r hfile)]
    exact find?_keep fun file hr => h file (hr ▸ List.mem_cons_self)

namespace Loader

/-- The readings that a look-up on demand makes. -/
def lookupReadings (l : Loader) (overlay : Settings) (network address : Text) (s : Session) : List Reading :=
  Reading.reached (Reading.answer overlay network address s.environment s.tree)
    (readingsIn l.sources 0 s.environment s.tree)

/-- **A source is read exactly if every earlier one was read and left the address unfound.** -/
theorem mem_lookupReadings_iff {l : Loader} {overlay : Settings} {network address : Text} {s : Session} {r : Reading} :
    r ∈ l.lookupReadings overlay network address s ↔
      (∃ read, l.sources[r.1]? = some read ∧ r.2 = read.outcome s.environment s.tree) ∧
        ∀ j < r.1, ∃ read, l.sources[j]? = some read ∧ isNotFound (Reading.answer overlay network address s.environment
          s.tree (j, read.outcome s.environment s.tree)) = true := by
  unfold lookupReadings
  rw [Reading.mem_reached_iff]
  simp only [getElem?_readingsIn, Nat.zero_add, Option.map_eq_some_iff]
  constructor
  · rintro ⟨i, ⟨read, hread, rfl⟩, hearlier⟩
    refine ⟨⟨read, hread, rfl⟩, fun j hj => ?_⟩
    obtain ⟨q, ⟨read', hread', rfl⟩, hleft⟩ := hearlier j hj
    exact ⟨read', hread', hleft⟩
  · rintro ⟨⟨read, hread, hr⟩, hearlier⟩
    refine ⟨r.1, ⟨read, hread, by rw [← hr]⟩, fun j hj => ?_⟩
    obtain ⟨read', hread', hleft⟩ := hearlier j hj
    exact ⟨_, ⟨read', hread', rfl⟩, hleft⟩

theorem lt_of_mem_lookupReadings {l : Loader} {overlay : Settings} {network address : Text} {s : Session} {r : Reading}
    (h : r ∈ l.lookupReadings overlay network address s) : r.1 < l.sources.length := by
  obtain ⟨⟨read, hread, -⟩, -⟩ := mem_lookupReadings_iff.1 h
  exact (List.getElem?_eq_some_iff.1 hread).1

/-! ## The client -/

/-- The client of sources that are read on demand. -/
def readLater (l : Loader) (overlay : Settings) (identity : Option Identity) (verifier : Option Verifier) (gate : Nat) :
    Client :=
  l.assembled ⟨demanding (fun _ => []) overlay l.sources 0, readings⟩ identity verifier gate

theorem newClient_lazy {l : Loader} (hlazy : l.onDemand = true) {s t : Session} {c : Client}
    (h : l.newClient s = (.ok c, t)) : ∃ overlay identity verifier, Settings.ofOptions l.options = .ok overlay ∧
      l.defaultIdentity.outcome s.environment s.tree = .ok identity ∧
      l.defaultVerifier s.environment s.tree = .ok verifier ∧
      c = l.readLater overlay identity verifier s.gates.length := by
  obtain ⟨overlay, inner, identity, verifier, hoverlay, hinner, hidentity, hverifier, rfl⟩ :=
    exists_of_made (made_of_newClient h).1
  unfold sourceClient at hinner
  rw [if_pos hlazy, ← demanding_unmarked] at hinner
  cases hinner
  exact ⟨overlay, identity, verifier, hoverlay, hidentity, hverifier, rfl⟩

/-! ## Histories -/

/-- The readings that are made over what happens to a client, in order. -/
def history (l : Loader) (overlay : Settings) (c : Client) : List Happening → Session → List Reading
  | [], _ => []
  | .lookup network address :: rest, s =>
    l.lookupReadings overlay network address s ++ l.history overlay c rest (c.lookup network address s).2
  | .change tree :: rest, s => l.history overlay c rest { s with tree := tree }

theorem loaded_lookup {l : Loader} (htrace : ∀ trace, l.trace = some trace → trace.Leaves (·.loaded))
    (overlay : Settings) (identity : Option Identity) (verifier : Option Verifier) (gate : Nat)
    (network address : Text) (s : Session) :
    ((l.readLater overlay identity verifier gate).lookup network address s).2.loaded =
      (l.lookupReadings overlay network address s).foldl Reading.keep s.loaded := by
  obtain ⟨notes, hrun, -⟩ := demanding_run (fun _ => []) overlay network address 0 l.isReading_sources s
  unfold readLater
  rw [view_assembled (fun _ _ => rfl) htrace (fun _ => rfl)]
  exact congrArg (fun r => r.2.loaded) hrun

/-- **Over any history the latest readings stay kept.** -/
theorem loaded_replay {l : Loader} {overlay : Settings} {c : Client}
    (hlookup : ∀ network address s, (c.lookup network address s).2.loaded =
      (l.lookupReadings overlay network address s).foldl Reading.keep s.loaded) :
    ∀ (happenings : List Happening) (earlier : List Reading) (s : Session),
      s.loaded = Reading.kept l.sources.length (Reading.latest earlier) →
      (c.replay happenings s).loaded =
        Reading.kept l.sources.length (Reading.latest (earlier ++ l.history overlay c happenings s))
  | [], earlier, s, h => by
    unfold Client.replay history
    rw [h, List.append_nil]
  | .lookup network address :: rest, earlier, s, h => by
    have hnext := hlookup network address s
    rw [h, Reading.foldl_keep_kept earlier fun r hr => lt_of_mem_lookupReadings hr] at hnext
    unfold Client.replay history
    rw [← List.append_assoc]
    exact loaded_replay hlookup rest _ _ hnext
  | .change tree :: rest, earlier, s, h => loaded_replay hlookup rest earlier { s with tree := tree } h

theorem filter_built (rs : List Reading) :
    (rs.flatMap fun r => [Note.built r.1]).filter (!·.isRemark) = rs.map fun r => Note.built r.1 := by
  rw [← List.map_eq_flatMap, List.filter_eq_self]
  intro n hn
  obtain ⟨r, -, rfl⟩ := List.mem_map.1 hn
  rfl

theorem map_snd_kept (n : Nat) (file : Nat → Option ConfigFile) :
    (Reading.kept n file).map (·.2) = (List.range n).filterMap file := by
  unfold Reading.kept
  rw [List.map_filterMap]
  refine List.filterMap_congr fun i _ => ?_
  cases file i <;> rfl

theorem combineAll_eq_none_iff {fs : List ConfigFile} : ConfigFile.combineAll fs = none ↔ fs = [] := by
  cases fs <;> simp [ConfigFile.combineAll]

theorem fileConfig_assembled (l : Loader) (inner : Client) (identity : Option Identity) (verifier : Option Verifier)
    (gate : Nat) : (l.assembled inner identity verifier gate).fileConfig = inner.fileConfig := by
  unfold assembled
  split <;> rfl

theorem fileConfig_replay {l : Loader} (htrace : ∀ trace, l.trace = some trace → trace.Leaves (·.loaded))
    (overlay : Settings) (identity : Option Identity) (verifier : Option Verifier) (gate : Nat)
    (happenings : List Happening) {s : Session} (hs : s.loaded = []) :
    ((l.readLater overlay identity verifier gate).fileConfig
      ((l.readLater overlay identity verifier gate).replay happenings s)).1 =
        .ok (ConfigFile.combineAll ((List.range l.sources.length).filterMap (Reading.latest
          (l.history overlay (l.readLater overlay identity verifier gate) happenings s)))) := by
  have hstart : s.loaded = Reading.kept l.sources.length (Reading.latest []) := by
    rw [hs]
    simp [Reading.kept, Reading.latest]
  have hloaded := loaded_replay (loaded_lookup htrace overlay identity verifier gate) happenings [] s hstart
  have htells : (l.readLater overlay identity verifier gate).fileConfig = readings := fileConfig_assembled l _ _ _ _
  rw [List.nil_append] at hloaded
  rw [htells, ← map_snd_kept, ← hloaded]
  rfl

/-- **A source has nothing to read exactly if it is one of the defaults and its file is absent or denied.** -/
theorem outcome_source_eq_none_iff {l : Loader} {read : Act (Option ConfigFile)} (hread : read ∈ l.sources)
    (env : Environment) (tree : FileTree) : read.outcome env tree = .ok none ↔
      ∃ path f, read = Act.readOptionalFile path ∧ (Act.text path).outcome env tree = .error (.os f) ∧
        f.cause.isExcused = true := by
  constructor
  · intro hnone
    have hdefault : ∀ path, read = Act.readOptionalFile path → ∃ path f, read = Act.readOptionalFile path ∧
        (Act.text path).outcome env tree = .error (.os f) ∧ f.cause.isExcused = true := by
      rintro path rfl
      obtain ⟨f, htext, hf⟩ := (Act.outcome_readOptionalFile_eq_none_iff env tree).1 hnone
      exact ⟨path, f, rfl, htext, hf⟩
    rcases List.mem_append.1 hread with hown | hrest
    · cases hfile : l.configFile with
      | none =>
        rw [hfile] at hown
        cases hown
      | some path =>
        rw [hfile] at hown
        rw [List.mem_singleton.1 hown, Act.outcome_map] at hnone
        obtain ⟨f, -, hf⟩ := exists_of_map_ok hnone
        cases hf
    · rcases List.mem_cons.1 hrest with h | h
      · exact hdefault _ h
      · exact hdefault _ (List.mem_singleton.1 h)
  · rintro ⟨path, f, rfl, htext, hf⟩
    exact (Act.outcome_readOptionalFile_eq_none_iff env tree).2 ⟨f, htext, hf⟩

/-- **A lazy client tells the latest readings.**  Over any history of look-ups and changes of the files, what it tells
is made of the latest reading of each source that came to an end, in the order of the sources, where an absent one
counts for nothing.  A look-up reads a source exactly if every earlier one was read and left the address unfound; the
readings are noted as they start, one note for each, by the resolver that notes them and is otherwise the same.  What is
kept of a source that was not read, or could not be, stays as it was. -/
theorem lazy_client_tells_latest {l : Loader} (hlazy : l.onDemand = true)
    (htrace : ∀ trace, l.trace = some trace → trace.Leaves (·.loaded)) {s₀ s₁ : Session} {c : Client}
    (hmade : l.newClient s₀ = (.ok c, s₁)) : ∃ overlay identity verifier,
      Settings.ofOptions l.options = .ok overlay ∧
      c = l.readLater overlay identity verifier s₀.gates.length ∧
      (∀ happenings, (c.fileConfig (c.replay happenings s₁)).1 = .ok (ConfigFile.combineAll
          ((List.range l.sources.length).filterMap (Reading.latest (l.history overlay c happenings s₁)))) ∧
        ((c.fileConfig (c.replay happenings s₁)).1 = .ok none ↔
          ∀ i < l.sources.length, Reading.latest (l.history overlay c happenings s₁) i = none)) ∧
      (∀ network address s,
        (∀ r, r ∈ l.lookupReadings overlay network address s ↔
          (∃ read, l.sources[r.1]? = some read ∧ r.2 = read.outcome s.environment s.tree) ∧
            ∀ j < r.1, ∃ read, l.sources[j]? = some read ∧ isNotFound (Reading.answer overlay network address
              s.environment s.tree (j, read.outcome s.environment s.tree)) = true) ∧
        (∃ x t noted, demanding (fun _ => []) overlay l.sources 0 network address s = (x, t) ∧
          demanding (fun i => [.built i]) overlay l.sources 0 network address s = (x, { t with journal := noted }) ∧
          noted.filter (!·.isRemark) = s.journal.filter (!·.isRemark) ++
            (l.lookupReadings overlay network address s).map fun r => .built r.1) ∧
        ∀ i, (∀ file, (i, .ok file) ∉ l.lookupReadings overlay network address s) →
          (c.lookup network address s).2.loaded.find? (·.1 == i) = s.loaded.find? (·.1 == i)) ∧
      ∀ read ∈ l.sources, ∀ env tree, read.outcome env tree = .ok none ↔
        ∃ path f, read = Act.readOptionalFile path ∧ (Act.text path).outcome env tree = .error (.os f) ∧
          f.cause.isExcused = true := by
  obtain ⟨overlay, identity, verifier, hoverlay, -, -, hc⟩ := newClient_lazy hlazy hmade
  obtain ⟨-, remarks, hs₁⟩ := made_of_newClient hmade
  have hstart : s₁.loaded = [] := by
    rw [hs₁]
    exact if_pos hlazy
  refine ⟨overlay, identity, verifier, hoverlay, hc, fun happenings => ?_, fun network address s => ⟨fun r =>
    mem_lookupReadings_iff, ?_, fun i hi => ?_⟩, fun read hread env tree => outcome_source_eq_none_iff hread env tree⟩
  · subst hc
    have htells := fileConfig_replay htrace overlay identity verifier s₀.gates.length happenings hstart
    refine ⟨htells, ?_⟩
    rw [htells, Except.ok.injEq, combineAll_eq_none_iff, List.filterMap_eq_nil_iff]
    simp only [List.mem_range]
  · obtain ⟨plain, hplain, -⟩ := demanding_run (fun _ => []) overlay network address 0 l.isReading_sources s
    obtain ⟨notes, hrun, hnotes⟩ :=
      demanding_run (fun i => [.built i]) overlay network address 0 l.isReading_sources s
    refine ⟨_, _, s.journal ++ notes, hplain, hrun, ?_⟩
    rw [List.filter_append, hnotes, filter_built]
    rfl
  · rw [hc, loaded_lookup htrace]
    exact Reading.find?_foldl_keep hi

/-- What happens to a client of the sample files: the user's file goes away between two look-ups that reach it. -/
def sampleHappenings : List Happening :=
  [.lookup "tcp" "db1", .change ⟨sampleSession.tree.nodes.take 1⟩, .lookup "tcp" "db1"]

theorem lazy_client_tells_latest_sample : ∃ c s₁ before after,
    { sampleLoader with onDemand := true }.newClient sampleSession = (.ok c, s₁) ∧
    (c.fileConfig (c.replay (sampleHappenings.take 1) s₁)).1 = .ok (some before) ∧
    before.entries.map (·.globs) = [["other".toList], ["db*".toList]] ∧
    (c.fileConfig (c.replay sampleHappenings s₁)).1 = .ok (some after) ∧
    after.entries.map (·.globs) = [["other".toList]] := by
  obtain ⟨c, s₁, hmade⟩ := Act.exists_of_run_isOk (a := { sampleLoader with onDemand := true }.newClient)
    (s := sampleSession) (by decide +kernel)
  have htrace : ∀ trace, { sampleLoader with onDemand := true }.trace = some trace → trace.Leaves (·.loaded) := by
    rintro trace htrace
    cases htrace
    exact Trace.leavesFiles_noting.readings
  obtain ⟨overlay, identity, verifier, hoverlay, -, htells, -⟩ := lazy_client_tells_latest rfl htrace hmade
  have hlatest : ∀ n (globs : List (List Text)),
      n = 1 ∧ globs = [["other".toList], ["db*".toList]] ∨ n = 3 ∧ globs = [["other".toList]] →
      (({ sampleLoader with onDemand := true }.newClient sampleSession).1.toOption.bind fun c =>
        (Settings.ofOptions sampleLoader.options).toOption.bind fun overlay =>
          (ConfigFile.combineAll ((List.range sampleLoader.sources.length).filterMap
            (Reading.latest ({ sampleLoader with onDemand := true }.history overlay c (sampleHappenings.take n)
              ({ sampleLoader with onDemand := true }.newClient sampleSession).2)))).map
                fun f : ConfigFile => f.entries.map HostEntry.globs) = some globs := by
    rintro n globs (⟨rfl, rfl⟩ | ⟨rfl, rfl⟩)
    · decide +kernel
    · decide +kernel
  rw [hmade, hoverlay] at hlatest
  simp only [Except.toOption, Option.bind_some] at hlatest
  obtain ⟨before, hbefore, hbeforeGlobs⟩ := Option.map_eq_some_iff.1 (hlatest 1 _ (.inl ⟨rfl, rfl⟩))
  obtain ⟨after, hafter, hafterGlobs⟩ := Option.map_eq_some_iff.1 (hlatest 3 _ (.inr ⟨rfl, rfl⟩))
  refine ⟨c, s₁, before, after, hmade, ?_, hbeforeGlobs, ?_, hafterGlobs⟩
  · rw [(htells _).1, ← hbefore]
    rfl
  · rw [(htells _).1, ← hafter]
    rfl

end Loader
end SshConfig
