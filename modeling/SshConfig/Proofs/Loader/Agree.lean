import Mathlib.Data.Nat.Find
import SshConfig.Proofs.Loader.History
/-!
# Agree — reading once and reading on demand

While the files stay as they are, a lazy client answers whatever an eager one does (`answers_agree`), and what it tells
of the files is a first part of what the eager one has read (`exists_prefix_told`).  Where a file cannot be read there
is no eager client; a lazy one still answers from the sources before that file (`firstAnswer_failing`).  They may differ
where a trace minds how many files it is told (`lazy_eager_differ`).
-/
namespace SshConfig

/-- The answers to queries, one after the other.  A query that ends in a fault does not end the ones after it. -/
def Client.answers (c : Client) : List (Text × Text) → Session → List (Except Fault Resolution)
  | [], _ => []
  | q :: qs, s => (c.lookup q.1 q.2 s).1 :: c.answers qs (c.lookup q.1 q.2 s).2

def Client.asked (c : Client) (queries : List (Text × Text)) (s : Session) : Session :=
  c.replay (queries.map fun q => .lookup q.1 q.2) s

theorem Session.apart_of_remarks (s : Session) {notes : List Note} (h : notes.filter (!·.isRemark) = [])
    (loaded : List (Nat × ConfigFile)) :
    { s with journal := s.journal ++ notes, loaded := loaded }.apart = s.apart := by
  unfold apart
  simp only [List.filter_append, Note.filter_of_remarks (!·.isOfFiles) (fun _ => rfl) h, List.append_nil]

theorem Session.surroundings_of_apart {s t : Session} (h : s.apart = t.apart) : s.surroundings = t.surroundings :=
  (congrArg surroundings h : s.apart.surroundings = t.apart.surroundings)

namespace Loader

variable {l : Loader} {overlay : Settings}

/-! ## One look-up -/

/-- **The sources answer alike, read once or on demand.** -/
theorem sources_agree {files : List ConfigFile} {s t : Session}
    (hfiles : (readAll l.sources).outcome s.environment s.tree = .ok files)
    (network address : Text) (hst : s.apart = t.apart) :
    (Resolver.chain (files.map fun f => Resolver.ofFile f overlay) network address s).1 =
        (demanding (fun _ => []) overlay l.sources 0 network address t).1 ∧
      (Resolver.chain (files.map fun f => Resolver.ofFile f overlay) network address s).2.apart =
        (demanding (fun _ => []) overlay l.sources 0 network address t).2.apart := by
  obtain ⟨henv, htree⟩ := Prod.mk.inj (Session.surroundings_of_apart hst)
  obtain ⟨remarks, honce⟩ := Resolver.isReading_chain network address (Resolver.isReading_ofFiles files) s
  obtain ⟨notes, hlazy, hnotes⟩ := demanding_run (fun _ => []) overlay network address 0 l.isReading_sources t
  have hsilent : notes.filter (!·.isRemark) = [] := by
    rw [hnotes]
    simp
  refine ⟨?_, ?_⟩
  · rw [honce, hlazy, ← henv, ← htree, ← outcome_chain_of_readAll _ _ 0 l.isReading_sources hfiles]
  · rw [honce, hlazy]
    exact (Session.apart_of_remarks s (filter_isRemark remarks) s.loaded).trans
      (hst.trans (Session.apart_of_remarks t hsilent _).symm)

/-! ## Clients -/

/-- The client of files that were read once. -/
def readOnce (l : Loader) (files : List ConfigFile) (overlay : Settings) (identity : Option Identity)
    (verifier : Option Verifier) (gate : Nat) : Client :=
  l.assembled ⟨Resolver.chain (files.map fun f => Resolver.ofFile f overlay), pure (ConfigFile.combineAll files)⟩
    identity verifier gate

variable {identity : Option Identity} {verifier : Option Verifier} {gate : Nat}

theorem readOnce_leaves (htrace : ∀ trace, l.trace = some trace → trace.LeavesFiles) (files : List ConfigFile)
    (network address : Text) :
    ((l.readOnce files overlay identity verifier gate).lookup network address).Leaves Session.surroundings := by
  intro s
  have hreading : (Resolver.chain (files.map fun f => Resolver.ofFile f overlay) network address).IsReading :=
    Resolver.isReading_chain network address (Resolver.isReading_ofFiles files)
  obtain ⟨notes, hrun⟩ := hreading s
  unfold readOnce
  rw [view_assembled (fun _ _ => rfl) (fun trace h => (htrace trace h).surroundings) (fun _ => rfl)]
  exact congrArg (fun r => r.2.surroundings) hrun

theorem readLater_leaves (htrace : ∀ trace, l.trace = some trace → trace.LeavesFiles) (network address : Text) :
    ((l.readLater overlay identity verifier gate).lookup network address).Leaves Session.surroundings := by
  intro s
  obtain ⟨notes, hrun, -⟩ := demanding_run (fun _ => []) overlay network address 0 l.isReading_sources s
  unfold readLater
  rw [view_assembled (fun _ _ => rfl) (fun trace h => (htrace trace h).surroundings) (fun _ => rfl)]
  exact congrArg (fun r => r.2.surroundings) hrun

theorem readOnce_fst {files : List ConfigFile} {network address : Text} {s : Session}
    {answer : Except Fault Resolution}
    (h : (Resolver.chain (files.map fun f => Resolver.ofFile f overlay) network address).outcome s.environment s.tree =
      answer)
    (htrace : ∀ r, answer = .ok r → r.isFound = true → ∀ trace, l.trace = some trace → trace.Returns) :
    ((l.readOnce files overlay identity verifier gate).lookup network address s).1 =
      answer.map (Resolution.adjust (completed identity verifier)) :=
  assembled_fst (((Resolver.isReading_chain network address (Resolver.isReading_ofFiles files)).run_fst s).trans h)
    (fun _ => ⟨_, rfl⟩) htrace identity verifier gate

theorem readLater_fst {network address : Text} {s : Session} {answer : Except Fault Resolution}
    (h : Reading.firstAnswer (Reading.answer overlay network address s.environment s.tree) address
      (readingsIn l.sources 0 s.environment s.tree) = answer)
    (htrace : ∀ r, answer = .ok r → r.isFound = true → ∀ trace, l.trace = some trace → trace.Returns) :
    ((l.readLater overlay identity verifier gate).lookup network address s).1 =
      answer.map (Resolution.adjust (completed identity verifier)) := by
  obtain ⟨notes, hrun, -⟩ := demanding_run (fun _ => []) overlay network address 0 l.isReading_sources s
  exact assembled_fst ((congrArg Prod.fst hrun).trans h) (fun _ => ⟨_, rfl⟩) htrace identity verifier gate

theorem asked_leaves {γ : Type} {view : Session → γ} {c : Client}
    (hc : ∀ network address, (c.lookup network address).Leaves view) : ∀ (queries : List (Text × Text)) (s : Session),
    view (c.asked queries s) = view s
  | [], _ => rfl
  | q :: queries, s => (asked_leaves hc queries _).trans (hc q.1 q.2 s)

/-- **Clients answer alike as long as each look-up keeps them alike.** -/
theorem answers_of_step {c d : Client} {R : Session → Session → Prop}
    (hstep : ∀ network address s t, R s t →
      (c.lookup network address s).1 = (d.lookup network address t).1 ∧
        R (c.lookup network address s).2 (d.lookup network address t).2) :
    ∀ (queries : List (Text × Text)) {s t : Session}, R s t → c.answers queries s = d.answers queries t
  | [], _, _, _ => rfl
  | q :: queries, s, t, h => by
    obtain ⟨hanswer, hafter⟩ := hstep q.1 q.2 s t h
    unfold Client.answers
    rw [hanswer, answers_of_step hstep queries hafter]

variable (overlay identity verifier gate)

/-- **Look-ups one after the other give the same answers, read once or on demand**, whatever was looked up before. -/
theorem answers_agree
    (htrace : ∀ trace, l.trace = some trace → trace.LeavesFiles ∧ (trace.Returns ∨ trace.IsBlind))
    {files : List ConfigFile} {s t : Session} (hfiles : (readAll l.sources).outcome s.environment s.tree = .ok files)
    (hst : s.apart = t.apart) (queries : List (Text × Text)) :
    (l.readOnce files overlay identity verifier gate).answers queries s =
      (l.readLater overlay identity verifier gate).answers queries t := by
  have hleaves := fun trace h => (htrace trace h).1
  have hread : ∀ u : Session, u.surroundings = s.surroundings →
      (readAll l.sources).outcome u.environment u.tree = .ok files := by
    intro u hu
    obtain ⟨henv, htree⟩ := Prod.mk.inj hu
    rw [henv, htree]
    exact hfiles
  have hkind : (∀ trace, l.trace = some trace → trace.Returns) ∨ ∀ trace, l.trace = some trace → trace.IsBlind := by
    cases hl : l.trace with
    | none => exact .inl fun _ h => by cases h
    | some trace =>
      rcases (htrace trace hl).2 with hreturns | hblind
      · exact .inl fun _ h => Option.some.inj h ▸ hreturns
      · exact .inr fun _ h => Option.some.inj h ▸ hblind
  rcases hkind with hreturns | hblind
  · -- what the hooks do with the files makes no difference, as the answers are the same in the same surroundings
    refine answers_of_step (R := fun u v => u.surroundings = s.surroundings ∧ v.surroundings = s.surroundings) ?_
      queries ⟨rfl, (Session.surroundings_of_apart hst).symm⟩
    rintro network address u v ⟨hu, hv⟩
    obtain ⟨henv, htree⟩ := Prod.mk.inj (hu.trans hv.symm)
    refine ⟨?_, (readOnce_leaves hleaves files network address u).trans hu,
      (readLater_leaves hleaves network address v).trans hv⟩
    rw [readOnce_fst rfl fun _ _ _ => hreturns, readLater_fst rfl fun _ _ _ => hreturns, ← henv, ← htree,
      outcome_chain_of_readAll _ _ 0 l.isReading_sources (hread u hu)]
  · refine answers_of_step (R := fun u v => u.surroundings = s.surroundings ∧ u.apart = v.apart) ?_ queries ⟨rfl, hst⟩
    rintro network address u v ⟨hu, huv⟩
    obtain ⟨hanswer, hafter⟩ :=
      agree_assembled hblind (sources_agree (hread u hu) network address huv) _ identity verifier gate
    exact ⟨hanswer, (readOnce_leaves hleaves files network address u).trans hu, hafter⟩

/-! ## What is told of the files -/

/-- Indices that come with every smaller one are the first ones. -/
theorem exists_bound {H : List Reading} {n : Nat} (hlt : ∀ r ∈ H, r.1 < n)
    (hclosed : ∀ r ∈ H, ∀ j < r.1, ∃ q ∈ H, q.1 = j) : ∃ m, ∀ i, (∃ r ∈ H, r.1 = i) ↔ i < m := by
  classical
  have hout : ∃ i, ¬ ∃ r ∈ H, r.1 = i := ⟨n, fun ⟨r, hr, hi⟩ => absurd (hlt r hr) (by omega)⟩
  refine ⟨Nat.find hout, fun i => ⟨?_, fun hi => not_not.1 (Nat.find_min hout hi)⟩⟩
  rintro ⟨r, hr, rfl⟩
  by_contra hle
  apply Nat.find_spec hout
  rcases Nat.lt_or_eq_of_le (Nat.le_of_not_lt hle) with hlt | heq
  · exact hclosed r hr _ hlt
  · exact ⟨r, hr, heq.symm⟩

theorem filterMap_getElem?_range {α : Type} : ∀ (k : List α) {n : Nat}, k.length ≤ n →
    (List.range n).filterMap (k[·]?) = k
  | [], n, _ => by simp
  | a :: k, 0, h => absurd h (Nat.not_succ_le_zero _)
  | a :: k, n + 1, h => by
    rw [List.range_succ_eq_map, List.filterMap_cons, List.filterMap_map]
    simp only [List.getElem?_cons_zero]
    refine congrArg (a :: ·) ?_
    exact filterMap_getElem?_range k (Nat.le_of_succ_le_succ h)

/-- **While the files stay as they are, the sources that were read are the first ones**, and each was read as it is. -/
theorem history_of_queries {c : Client}
    (hc : ∀ network address, (c.lookup network address).Leaves Session.surroundings) :
    ∀ (queries : List (Text × Text)) (s : Session), ∀ r ∈ l.history overlay c (queries.map fun q => .lookup q.1 q.2) s,
      (∃ read, l.sources[r.1]? = some read ∧ r.2 = read.outcome s.environment s.tree) ∧
        ∀ j < r.1, ∃ q ∈ l.history overlay c (queries.map fun q => .lookup q.1 q.2) s, q.1 = j
  | [], _, r, hr => by cases hr
  | q :: queries, s, r, hr => by
    obtain ⟨henv, htree⟩ := Prod.mk.inj (hc q.1 q.2 s)
    rcases List.mem_append.1 hr with hr | hr
    · obtain ⟨hread, hearlier⟩ := mem_lookupReadings_iff.1 hr
      refine ⟨hread, fun j hj => ?_⟩
      obtain ⟨read, hj', -⟩ := hearlier j hj
      exact ⟨(j, read.outcome s.environment s.tree), List.mem_append_left _ (mem_lookupReadings_iff.2
        ⟨⟨read, hj', rfl⟩, fun i hi => hearlier i (Nat.lt_trans hi hj)⟩), rfl⟩
    · obtain ⟨⟨read, hread, hr2⟩, hearlier⟩ := history_of_queries hc queries _ r hr
      rw [henv, htree] at hr2
      refine ⟨⟨read, hread, hr2⟩, fun j hj => ?_⟩
      obtain ⟨p, hp, hpj⟩ := hearlier j hj
      exact ⟨p, List.mem_append_right _ hp, hpj⟩

/-- **What a lazy client tells is a first part of the files that are there.** -/
theorem exists_prefix_told {c : Client} (hc : ∀ network address, (c.lookup network address).Leaves Session.surroundings)
    {s : Session} {files : List ConfigFile} (hfiles : (readAll l.sources).outcome s.environment s.tree = .ok files)
    (queries : List (Text × Text)) : ∃ told, told <+: files ∧
      (List.range l.sources.length).filterMap
        (Reading.latest (l.history overlay c (queries.map fun q => .lookup q.1 q.2) s)) = told := by
  obtain ⟨rfl, hall⟩ := files_of_readAll l.isReading_sources hfiles
  have hhistory : ∀ r ∈ l.history overlay c (queries.map fun q => .lookup q.1 q.2) s, _ :=
    history_of_queries overlay hc queries s
  generalize l.history overlay c (queries.map fun q => .lookup q.1 q.2) s = H at hhistory
  have hlt : ∀ r ∈ H, r.1 < l.sources.length := by
    intro r hr
    obtain ⟨⟨read, hread, -⟩, -⟩ := hhistory r hr
    exact (List.getElem?_eq_some_iff.1 hread).1
  obtain ⟨m, hm⟩ := exists_bound hlt fun r hr => (hhistory r hr).2
  refine ⟨(l.sources.take m).filterMap (present s.environment s.tree), (List.take_prefix m _).filterMap _, ?_⟩
  have hlatest : ∀ i, Reading.latest H i = ((l.sources.take m)[i]?).bind (present s.environment s.tree) := by
    intro i
    by_cases hi : ∃ r ∈ H, r.1 = i
    · rw [List.getElem?_take, if_pos ((hm i).1 hi)]
      obtain ⟨r, hr, rfl⟩ := hi
      obtain ⟨⟨read, hread, -⟩, -⟩ := hhistory r hr
      obtain ⟨file, hfile⟩ := hall read (List.mem_of_getElem? hread)
      have hsame : ∀ q ∈ H, q.1 = r.1 → q.2 = .ok file := by
        intro q hq hqr
        obtain ⟨⟨read', hread', hq2⟩, -⟩ := hhistory q hq
        rw [hqr, hread] at hread'
        cases hread'
        rw [hq2, hfile]
      rw [Reading.latest_of_mem hsame ⟨r, hr, rfl⟩, hread]
      unfold present
      simp only [Option.bind_some, hfile]
      rfl
    · rw [List.getElem?_take, if_neg fun h => hi ((hm i).2 h), Reading.latest_of_not_mem hi]
      rfl
  have hread := filterMap_getElem?_range (l.sources.take m) (List.length_take_le' m l.sources)
  calc (List.range l.sources.length).filterMap (Reading.latest H)
      = ((List.range l.sources.length).filterMap ((l.sources.take m)[·]?)).filterMap
          (present s.environment s.tree) := by
        rw [List.filterMap_filterMap]
        exact List.filterMap_congr fun i _ => hlatest i
    _ = (l.sources.take m).filterMap (present s.environment s.tree) := by rw [hread]

/-! ## A source that cannot be read -/

/-- **A source that cannot be read fails the look-ups that reach it**, and no other. -/
theorem firstAnswer_failing {env : Environment} {tree : FileTree} {earlier : List (Act (Option ConfigFile))}
    {read : Act (Option ConfigFile)} (later : List (Act (Option ConfigFile))) {files : List ConfigFile} {fault : Fault}
    (hreads : ∀ r ∈ earlier, r.IsReading)
    (hfiles : (readAll earlier).outcome env tree = .ok files) (hread : read.outcome env tree = .error fault)
    (hfails : fault.failsLookup = true) (network address : Text) :
    Reading.firstAnswer (Reading.answer overlay network address env tree) address
        (readingsIn (earlier ++ read :: later) 0 env tree) =
      if isNotFound ((Resolver.chain (files.map fun f => Resolver.ofFile f overlay) network address).outcome env tree)
      then .ok (.failed address fault)
      else (Resolver.chain (files.map fun f => Resolver.ofFile f overlay) network address).outcome env tree := by
  have hfirst : Reading.firstAnswer (Reading.answer overlay network address env tree) address
      (readingsIn (read :: later) (0 + earlier.length) env tree) = .ok (.failed address fault) := by
    have hcons : readingsIn (read :: later) (0 + earlier.length) env tree =
        (0 + earlier.length, .error fault) :: readingsIn later (0 + earlier.length + 1) env tree := by
      rw [← hread]
      rfl
    rw [hcons]
    unfold Reading.firstAnswer
    rw [isNotFound_answer_error, if_neg Bool.false_ne_true]
    exact if_pos hfails
  rw [readingsIn_append, Reading.firstAnswer_append, hfirst, outcome_chain_of_readAll env tree 0 hreads hfiles]

/-! ## The clients of one loader -/

/-- **A loader that reads once makes the client of the files that are there.** -/
theorem newClient_once {s t : Session} {c : Client} (h : { l with onDemand := false }.newClient s = (.ok c, t)) :
    ∃ files overlay identity verifier, (readAll l.sources).outcome s.environment s.tree = .ok files ∧
      Settings.ofOptions l.options = .ok overlay ∧ l.defaultIdentity.outcome s.environment s.tree = .ok identity ∧
      l.defaultVerifier s.environment s.tree = .ok verifier ∧
      c = l.readOnce files overlay identity verifier s.gates.length ∧
      t.apart = { s with gates := s.gates ++ l.newGates }.apart := by
  obtain ⟨hmade, remarks, rfl⟩ := made_of_newClient h
  obtain ⟨overlay, inner, identity, verifier, hoverlay, hinner, hidentity, hverifier, rfl⟩ := exists_of_made hmade
  obtain ⟨files, hfiles, rfl⟩ := exists_of_map_ok hinner
  exact ⟨files, overlay, identity, verifier, (outcome_sources l _ _).trans hfiles, hoverlay, hidentity, hverifier, rfl,
    Session.apart_of_remarks { s with gates := s.gates ++ l.newGates } (filter_isRemark remarks) _⟩

section
variable {s : Session} {overlay : Settings} {identity : Option Identity} {verifier : Option Verifier}
  (hoverlay : Settings.ofOptions l.options = .ok overlay)
  (hidentity : l.defaultIdentity.outcome s.environment s.tree = .ok identity)
  (hverifier : l.defaultVerifier s.environment s.tree = .ok verifier)
include hoverlay hidentity hverifier

theorem made_of_parts (onDemand : Bool) (gate : Nat) :
    { l with onDemand := onDemand }.made s.environment s.tree gate =
      ({ l with onDemand := onDemand }.sourceClient overlay s.environment s.tree).map fun inner =>
        l.assembled inner identity verifier gate :=
  made_of_defaults (l := { l with onDemand := onDemand }) hoverlay hidentity hverifier gate

/-- **A loader that reads later makes its client without a look at the sources.** -/
theorem newClient_later : ∃ t,
    { l with onDemand := true }.newClient s = (.ok (l.readLater overlay identity verifier s.gates.length), t) ∧
      t.surroundings = s.surroundings ∧ t.loaded = [] ∧ t.apart = { s with gates := s.gates ++ l.newGates }.apart := by
  obtain ⟨remarks, gates, loaded, hrun, hmade⟩ := { l with onDemand := true }.newClient_run s
  have hok : { l with onDemand := true }.made s.environment s.tree s.gates.length =
      .ok (l.readLater overlay identity verifier s.gates.length) := by
    rw [made_of_parts hoverlay hidentity hverifier]
    unfold readLater
    rw [demanding_unmarked]
    rfl
  obtain ⟨rfl, rfl⟩ := hmade _ hok
  rw [hok] at hrun
  exact ⟨_, hrun, rfl, rfl,
    Session.apart_of_remarks { s with gates := s.gates ++ l.newGates } (filter_isRemark remarks) _⟩

/-- **A loader that reads once fails with the fault of its sources**, where nothing else does. -/
theorem unread_of_newClient {t : Session} {fault : Fault}
    (h : { l with onDemand := false }.newClient s = (.error fault, t)) :
    (readAll l.sources).outcome s.environment s.tree = .error fault := by
  obtain ⟨remarks, gates, loaded, hrun, -⟩ := { l with onDemand := false }.newClient_run s
  have hmade := congrArg Prod.fst (hrun.symm.trans h)
  rw [made_of_parts hoverlay hidentity hverifier] at hmade
  rw [outcome_sources]
  exact map_eq_error_iff.1 (map_eq_error_iff.1 hmade)

end

/-- **Reading once and reading on demand agree** while the files stay as they are, with no trace or with one that leaves
the files alone and either comes to an end or is blind to them.  If all sources can be read when the client is made,
each look-up ends in the same on both clients, whatever was looked up before, and what the lazy one tells of the files
is a first part of what the eager one does.  If one cannot, the lazy client answers from the sources before it, and
fails with its fault for the addresses that they leave unfound. -/
theorem lazy_eager_agree
    (htrace : ∀ trace, l.trace = some trace → trace.LeavesFiles ∧ (trace.Returns ∨ trace.IsBlind)) (s₀ : Session) :
    (∀ c s₁, { l with onDemand := false }.newClient s₀ = (.ok c, s₁) → ∃ files d t₁,
      sourcesIn l.configFile l.defaults s₀.environment s₀.tree = .ok files ∧
      (∀ s, (c.fileConfig s).1 = .ok (ConfigFile.combineAll files)) ∧
      { l with onDemand := true }.newClient s₀ = (.ok d, t₁) ∧
      ∀ queries, d.answers queries t₁ = c.answers queries s₁ ∧
        ∃ told, told <+: files ∧ (d.fileConfig (d.asked queries t₁)).1 = .ok (ConfigFile.combineAll told)) ∧
    ∀ overlay identity verifier fault s₁, Settings.ofOptions l.options = .ok overlay →
      l.defaultIdentity.outcome s₀.environment s₀.tree = .ok identity →
      l.defaultVerifier s₀.environment s₀.tree = .ok verifier →
      { l with onDemand := false }.newClient s₀ = (.error fault, s₁) → fault.failsLookup = true →
      ∃ j read files d t₁, l.sources[j]? = some read ∧ read.outcome s₀.environment s₀.tree = .error fault ∧
        (readAll (l.sources.take j)).outcome s₀.environment s₀.tree = .ok files ∧
        { l with onDemand := true }.newClient s₀ = (.ok d, t₁) ∧
        ∀ queries network address,
          ((∀ f ∈ files, f.lookup address = none) →
            (d.lookup network address (d.asked queries t₁)).1 = .ok (.failed address fault)) ∧
          ∀ before f after r, files = before ++ f :: after → (∀ g ∈ before, g.lookup address = none) →
            f.lookup address ≠ none →
            (Resolver.ofFile f overlay network address).outcome s₀.environment s₀.tree = .ok r →
            (r.isFound = true → ∀ trace, l.trace = some trace → trace.Returns) →
            (d.lookup network address (d.asked queries t₁)).1 = .ok (r.adjust (completed identity verifier)) := by
  have hleaves := fun trace h => (htrace trace h).1
  constructor
  · intro c s₁ hc
    obtain ⟨files, overlay, identity, verifier, hfiles, hoverlay, hidentity, hverifier, rfl, hs₁⟩ := newClient_once hc
    obtain ⟨t₁, hd, hsurroundings, hloaded, ht₁⟩ := newClient_later hoverlay hidentity hverifier
    have hst : s₁.apart = t₁.apart := hs₁.trans ht₁.symm
    obtain ⟨henv₁, htree₁⟩ := Prod.mk.inj (Session.surroundings_of_apart hs₁)
    obtain ⟨henv, htree⟩ := Prod.mk.inj hsurroundings
    refine ⟨files, _, t₁, (outcome_sources l _ _).symm.trans hfiles, fun s => ?_, hd, fun queries => ⟨?_, ?_⟩⟩
    · unfold readOnce
      rw [fileConfig_assembled]
      rfl
    · exact (answers_agree overlay identity verifier _ htrace (by rw [henv₁, htree₁]; exact hfiles) hst queries).symm
    · obtain ⟨told, hprefix, htold⟩ := exists_prefix_told overlay (readLater_leaves hleaves)
        (by rw [henv, htree]; exact hfiles) queries
      refine ⟨told, hprefix, ?_⟩
      rw [← htold]
      exact fileConfig_replay (fun trace h => (hleaves trace h).readings) overlay identity verifier _ _ hloaded
  · intro overlay identity verifier fault s₁ hoverlay hidentity hverifier hfail hfails
    obtain ⟨t₁, hd, hsurroundings, -, -⟩ := newClient_later hoverlay hidentity hverifier
    have hunread := unread_of_newClient hoverlay hidentity hverifier hfail
    obtain ⟨earlier, read, later, files, hsplit, hfiles, hread⟩ :=
      exists_of_readAll_error l.isReading_sources hunread
    refine ⟨earlier.length, read, files, _, t₁, by simp [hsplit], hread, by simpa [hsplit] using hfiles, hd,
      fun queries network address => ?_⟩
    have hreads : ∀ r ∈ earlier, r.IsReading := by
      intro r hr
      exact l.isReading_sources r (hsplit ▸ List.mem_append_left _ hr)
    have hfirst := firstAnswer_failing overlay later hreads hfiles hread hfails network address
    rw [← hsplit] at hfirst
    -- the queries before this look-up have left the files as they were
    obtain ⟨henv, htree⟩ := Prod.mk.inj ((asked_leaves (readLater_leaves hleaves) queries t₁).trans hsurroundings)
    refine ⟨fun hnone => ?_, fun before f after r hfilesSplit hbefore hf hr hreturns => ?_⟩
    · have hleft : isNotFound (.ok (.notFound address)) = true := rfl
      rw [Resolver.outcome_chain_none _ _ hnone, if_pos hleft] at hfirst
      rw [← henv, ← htree] at hfirst
      refine readLater_fst hfirst fun r hr hfound => ?_
      cases hr
      cases hfound
    · rw [hfilesSplit, outcome_chain_first hbefore hf, if_neg fun h => hf (isNotFound_ofFile_iff.1 h), hr] at hfirst
      rw [← henv, ← htree] at hfirst
      exact readLater_fst hfirst fun _ h => Except.ok.inj h ▸ hreturns

/-- The fault that a run ended in. -/
def faultOf? {α : Type} : Except Fault α → Option Fault
  | .ok _ => none
  | .error fault => some fault

theorem exists_of_faultOf? {α β : Type} {a : Act α} {s : Session} {f : Fault → β} {b : β}
    (h : (faultOf? (a s).1).map f = some b) : ∃ fault t, a s = (.error fault, t) ∧ f fault = b := by
  cases hrun : a s with
  | mk r t =>
    rw [hrun] at h
    cases r with
    | error fault => exact ⟨fault, t, rfl, Option.some.inj h⟩
    | ok x => cases h

/-- The system's file cannot be read. -/
def spoiledSession : Session :=
  { sampleSession with
    tree := ⟨sampleSession.tree.nodes ++ [(⟨false, ["system"]⟩, FileTree.file (Text.encode "  Port 22\n"))]⟩ }

theorem lazy_eager_agree_sample :
    (∃ c s₁ d t₁, { sampleLoader with onDemand := false }.newClient sampleSession = (.ok c, s₁) ∧
      { sampleLoader with onDemand := true }.newClient sampleSession = (.ok d, t₁) ∧
      d.answers [("tcp", "db1"), ("tcp", "nobody")] t₁ = c.answers [("tcp", "db1"), ("tcp", "nobody")] s₁) ∧
    ∃ fault s₁ d t₁, { sampleLoader with onDemand := false }.newClient spoiledSession = (.error fault, s₁) ∧
      { sampleLoader with onDemand := true }.newClient spoiledSession = (.ok d, t₁) ∧
      (d.lookup "tcp" "nobody" t₁).1 = .ok (.failed "nobody" fault) := by
  have htrace : ∀ trace, sampleLoader.trace = some trace → trace.LeavesFiles ∧ (trace.Returns ∨ trace.IsBlind) := by
    rintro trace htrace
    cases htrace
    exact ⟨Trace.leavesFiles_noting, .inl Trace.returns_noting⟩
  constructor
  · obtain ⟨c, s₁, hmade⟩ : ∃ c s₁, { sampleLoader with onDemand := false }.newClient sampleSession = (.ok c, s₁) :=
      Act.exists_of_run_isOk (by decide +kernel)
    obtain ⟨files, d, t₁, -, -, hd, hqueries⟩ := (lazy_eager_agree htrace sampleSession).1 c s₁ hmade
    exact ⟨c, s₁, d, t₁, hmade, hd, (hqueries _).1⟩
  · have hfails : (faultOf? ({ sampleLoader with onDemand := false }.newClient spoiledSession).1).map
        Fault.failsLookup = some true := by
      decide +kernel
    obtain ⟨fault, s₁, hmade, hfails⟩ := exists_of_faultOf? hfails
    obtain ⟨overlay, hoverlay⟩ : ∃ overlay, Settings.ofOptions sampleLoader.options = .ok overlay :=
      exists_of_isOk (by decide +kernel)
    obtain ⟨identity, hidentity⟩ : ∃ identity, sampleLoader.defaultIdentity.outcome spoiledSession.environment
        spoiledSession.tree = .ok identity :=
      exists_of_isOk (by decide +kernel)
    obtain ⟨verifier, hverifier⟩ : ∃ verifier, sampleLoader.defaultVerifier spoiledSession.environment
        spoiledSession.tree = .ok verifier :=
      exists_of_isOk (by decide +kernel)
    obtain ⟨j, read, files, d, t₁, hj, hfault, hfiles, hd, hqueries⟩ := (lazy_eager_agree htrace spoiledSession).2
      overlay identity verifier fault s₁ hoverlay hidentity hverifier hmade hfails
    -- the sources before the system's file can be read, so that one is it
    have hread : ∀ i < 2, (sampleLoader.sources[i]?.map fun read =>
        (read.outcome spoiledSession.environment spoiledSession.tree).isOk) = some true := by
      decide +kernel
    have hlast : j = 2 := by
      have hlt : j < 3 := (List.getElem?_eq_some_iff.1 hj).1
      by_contra hne
      have hok := hread j (by omega)
      rw [hj, Option.map_some, hfault] at hok
      cases hok
    have hnobody : ((readAll (sampleLoader.sources.take 2)).outcome spoiledSession.environment
        spoiledSession.tree).toOption.map (fun fs => fs.all fun f => (f.lookup "nobody").isNone) = some true := by
      decide +kernel
    rw [hlast] at hfiles
    rw [hfiles] at hnobody
    simp only [Except.toOption, Option.map_some, Option.some.injEq, List.all_eq_true, Option.isNone_iff_eq_none]
      at hnobody
    exact ⟨fault, s₁, d, t₁, hmade, hd, (hqueries [] "tcp" "nobody").1 hnobody⟩

/-- A trace that ends in a fault when it is told more than one entry. -/
def narrowTrace : Trace :=
  ⟨fun file => if (file.map (·.entries.length)).any (1 < ·) then Act.fail .unwritable else pure (), fun _ => pure ()⟩

/-- The file of the invocation names the home of a user who has no account, and the user's file cannot be read. -/
def astraySession : Session :=
  { sampleSession with
    tree := ⟨[(⟨false, ["own"]⟩, FileTree.file (Text.encode "Host h\n UserKnownHostsFile ~nosuchuser/x\n")),
      (⟨false, ["user"]⟩, FileTree.file (Text.encode "  Port 22\n"))]⟩ }

/-- **Reading once and reading on demand do not always agree**: a trace is told more files by the one than by the other,
and a source that is reached before the one that cannot be read may itself end a look-up in a fault. -/
theorem lazy_eager_differ :
    (¬ ∀ (l : Loader) (s₀ s₁ t₁ : Session) (c d : Client),
      { l with onDemand := false }.newClient s₀ = (.ok c, s₁) → { l with onDemand := true }.newClient s₀ = (.ok d, t₁) →
      ∀ queries, d.answers queries t₁ = c.answers queries s₁) ∧
    ¬ ∀ (l : Loader) (s₀ s₁ t₁ : Session) (fault : Fault) (d : Client), (Settings.ofOptions l.options).isOk = true →
      (l.defaultIdentity.outcome s₀.environment s₀.tree).isOk = true →
      (l.defaultVerifier s₀.environment s₀.tree).isOk = true →
      { l with onDemand := false }.newClient s₀ = (.error fault, s₁) → fault.failsLookup = true →
      { l with onDemand := true }.newClient s₀ = (.ok d, t₁) →
      ∀ network address, ∃ r, (d.lookup network address t₁).1 = .ok r := by
  constructor
  · intro h
    have honce : (({ sampleLoader with onDemand := false, trace := some narrowTrace }.newClient
          sampleSession).1.toOption.map fun c : Client => (c.lookup "tcp" "other" ({ sampleLoader with
            onDemand := false, trace := some narrowTrace }.newClient sampleSession).2).1.isOk) = some false := by
      decide +kernel
    have hlater : (({ sampleLoader with onDemand := true, trace := some narrowTrace }.newClient
          sampleSession).1.toOption.map fun d : Client => (d.lookup "tcp" "other" ({ sampleLoader with
            onDemand := true, trace := some narrowTrace }.newClient sampleSession).2).1.isOk) = some true := by
      decide +kernel
    obtain ⟨c, s, hc, honce⟩ := Act.exists_of_map_run honce
    obtain ⟨d, t, hd, hlater⟩ := Act.exists_of_map_run hlater
    rw [hc] at honce
    rw [hd] at hlater
    have hsame := h { sampleLoader with trace := some narrowTrace } sampleSession s t c d hc hd [("tcp", "other")]
    have hanswer : (d.lookup "tcp" "other" t).1 = (c.lookup "tcp" "other" s).1 := List.head_eq_of_cons_eq hsame
    rw [hanswer] at hlater
    exact Bool.false_ne_true (honce.symm.trans hlater)
  · intro h
    have hfails : (faultOf? ({ sampleLoader with onDemand := false }.newClient astraySession).1).map
        Fault.failsLookup = some true := by
      decide +kernel
    have hlost : (({ sampleLoader with onDemand := true }.newClient astraySession).1.toOption.map fun d : Client =>
        (d.lookup "tcp" "h" ({ sampleLoader with onDemand := true }.newClient astraySession).2).1.isOk) =
          some false := by
      decide +kernel
    obtain ⟨fault, s, hc, hfails⟩ := exists_of_faultOf? hfails
    obtain ⟨d, t, hd, hlost⟩ := Act.exists_of_map_run hlost
    obtain ⟨r, hr⟩ := h sampleLoader astraySession s t fault d (by decide +kernel) (by decide +kernel)
      (by decide +kernel) hc hfails hd "tcp" "h"
    rw [hd, hr] at hlost
    cases hlost

end Loader
end SshConfig
