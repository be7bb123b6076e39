import SshConfig.Loader
import SshConfig.Proofs.ConfigFile.Load
import SshConfig.Proofs.Resolver
import SshConfig.Proofs.Settings.OptionLine
/-!
# Loader — how the layers of an eager client come together

The sources of an eager client are those that were there when it was made (`sourcesIn`), and inline options have no part
in which they are.  The first source that has something for an address answers; the options lie on top of what it has,
and the default identity and known hosts complete what is built from that (`completed`).
-/
namespace SshConfig

/-- What a source has for an address: the value of the first entry for it, or else the global one. -/
theorem ConfigFile.get?_of_lookup {f : ConfigFile} {address : Text} {block : Settings}
    (h : f.lookup address = some block) (k : Keyword) : block.get? k =
      ((f.entries.find? (·.accepts address)).bind (·.settings.get? k)).or (f.globals.get? k) := by
  unfold lookup findEntry at h
  cases hfind : f.entries.find? (·.accepts address) with
  | some e =>
    rw [hfind] at h
    cases h
    exact Settings.get?_merge _ _ _
  | none =>
    rw [hfind] at h
    simp only at h
    split at h
    · cases h
      rfl
    · cases h

namespace Loader

open Act (IsReading)

/-! ## The sources -/

/-- The source of the invocation's own file, if there is one. -/
def ownSource (configFile : Option Text) (env : Environment) (tree : FileTree) : Except Fault (Option ConfigFile) :=
  match configFile with
  | none => .ok none
  | some path => ((Act.configAt path).outcome env tree).map some

/-- The sources that are there: the invocation's own file, the user's and the system's. -/
def sourcesIn (configFile : Option Text) (defaults : Defaults) (env : Environment) (tree : FileTree) :
    Except Fault (List ConfigFile) :=
  (ownSource configFile env tree).bind fun own =>
    ((Act.readOptionalFile defaults.userConfig).outcome env tree).bind fun user =>
      ((Act.readOptionalFile defaults.systemConfig).outcome env tree).map fun system =>
        own.toList ++ (user.toList ++ system.toList)

theorem isReading_readAll : ∀ {reads : List (Act (Option ConfigFile))}, (∀ r ∈ reads, r.IsReading) →
    (readAll reads).IsReading
  | [], _ => IsReading.pure []
  | r :: _, h => IsReading.bind (h r List.mem_cons_self) fun _ =>
      IsReading.bind (isReading_readAll fun q hq => h q (List.mem_cons_of_mem r hq)) fun _ => IsReading.pure _

theorem isReading_sources (l : Loader) : ∀ r ∈ l.sources, r.IsReading := by
  intro r hr
  rcases List.mem_append.1 hr with hr | hr
  · cases hfile : l.configFile with
    | none =>
      rw [hfile] at hr
      cases hr
    | some path =>
      rw [hfile] at hr
      rw [List.mem_singleton.1 hr]
      exact IsReading.map (IsReading.configAt path) some
  · rcases List.mem_cons.1 hr with rfl | hr
    · exact IsReading.readOptionalFile _
    · rw [List.mem_singleton.1 hr]
      exact IsReading.readOptionalFile _

theorem outcome_readAll_cons {r : Act (Option ConfigFile)} {rs : List (Act (Option ConfigFile))} (hr : r.IsReading)
    (hrs : ∀ q ∈ rs, q.IsReading) (env : Environment) (tree : FileTree) :
    (readAll (r :: rs)).outcome env tree = (r.outcome env tree).bind fun file =>
      ((readAll rs).outcome env tree).map (file.toList ++ ·) := by
  refine (Act.outcome_bind hr (fun _ => IsReading.bind (isReading_readAll hrs) fun _ => IsReading.pure _) env
    tree).trans ?_
  cases r.outcome env tree with
  | error fault => rfl
  | ok file =>
    refine (Act.outcome_bind (isReading_readAll hrs) (fun _ => IsReading.pure _) env tree).trans ?_
    cases (readAll rs).outcome env tree <;> rfl

theorem outcome_readAll_pair {u v : Act (Option ConfigFile)} (hu : u.IsReading) (hv : v.IsReading) (env : Environment)
    (tree : FileTree) : (readAll [u, v]).outcome env tree = (u.outcome env tree).bind fun user =>
      (v.outcome env tree).map fun system => user.toList ++ system.toList := by
  have hnil : (readAll []).outcome env tree = .ok [] := rfl
  have hlast : ∀ r ∈ [v], r.IsReading := fun r hr => List.mem_singleton.1 hr ▸ hv
  rw [outcome_readAll_cons hu hlast, outcome_readAll_cons hv (by simp), hnil]
  cases u.outcome env tree with
  | error fault => rfl
  | ok user =>
    cases v.outcome env tree with
    | error fault => rfl
    | ok system => simp [Except.bind, Except.map]

/-- **A loader's sources are read as the sources that are there.** -/
theorem outcome_sources (l : Loader) (env : Environment) (tree : FileTree) :
    (readAll l.sources).outcome env tree = sourcesIn l.configFile l.defaults env tree := by
  have hpair := outcome_readAll_pair (IsReading.readOptionalFile l.defaults.userConfig)
    (IsReading.readOptionalFile l.defaults.systemConfig) env tree
  have hreading := l.isReading_sources
  unfold sourcesIn ownSource
  unfold sources at hreading ⊢
  cases l.configFile with
  | none =>
    refine hpair.trans ?_
    simp [Except.bind]
  | some path =>
    have hdefaults : ∀ r ∈ [Act.readOptionalFile l.defaults.userConfig, Act.readOptionalFile l.defaults.systemConfig],
        r.IsReading := by
      intro r hr
      exact hreading r (List.mem_append_right _ hr)
    refine (outcome_readAll_cons (IsReading.map (IsReading.configAt path) some) hdefaults env tree).trans ?_
    rw [hpair, Act.outcome_map]
    dsimp only
    cases (Act.configAt path).outcome env tree with
    | error fault => rfl
    | ok own =>
      cases (Act.readOptionalFile l.defaults.userConfig).outcome env tree with
      | error fault => rfl
      | ok user => cases (Act.readOptionalFile l.defaults.systemConfig).outcome env tree <;> rfl

/-! ## The client -/

theorem isReading_unoffered (fault : Fault) : (match fault with
    | .config (.noIdentity _ _ _) => do
      Act.debug .loader ("No default identities: " ++ fault.message)
      pure none
    | _ => Act.fail fault : Act (Option Identity)).IsReading := by
  split
  · exact IsReading.bind (IsReading.debug _ _) fun _ => IsReading.pure none
  · exact IsReading.fail _

theorem isReading_defaultIdentity (l : Loader) : l.defaultIdentity.IsReading := by
  unfold defaultIdentity
  split
  · exact IsReading.pure none
  · exact IsReading.rescue (IsReading.map (IsReading.loadIdentity none _) some) isReading_unoffered

/-- A configuration with the default identity after its own, and the default verifier where it has none. -/
def completed (identity : Option Identity) (verifier : Option Verifier) (e : Effective) : Effective :=
  { e with identities := e.identities ++ identity.toList, verifier := e.verifier <|> verifier }

theorem adjust_completed (identity : Option Identity) (verifier : Option Verifier) (r : Resolution) :
    (r.adjust (identity.elim id offering)).adjust (verifier.elim id trusting) =
      r.adjust (completed identity verifier) := by
  cases r with
  | found address e =>
    cases identity <;> cases verifier <;> simp [Resolution.adjust, completed, offering, trusting]
  | notFound address => rfl
  | failed address fault => rfl

theorem patchedWith_run {α : Type} (change : α → Effective → Effective) (a : Option α) (r : Resolver)
    (network address : Text) (s : Session) : patchedWith change a r network address s =
      ((r network address s).1.map (Resolution.adjust (a.elim id change)), (r network address s).2) := by
  cases a with
  | none =>
    have hid : Resolution.adjust id = id := funext Resolution.adjust_id
    change r network address s = ((r network address s).1.map (Resolution.adjust id), (r network address s).2)
    rw [hid]
    cases r network address s with
    | mk result t => cases result <;> rfl
  | some a => exact Resolver.patched_run r (change a) network address s

/-- A resolver that completes what another one finds. -/
def layers (identity : Option Identity) (verifier : Option Verifier) (inner : Resolver) : Resolver :=
  patchedWith trusting verifier (patchedWith offering identity inner)

/-- **The defaults complete what is found**, and nothing else. -/
theorem layers_run (identity : Option Identity) (verifier : Option Verifier) (inner : Resolver)
    (network address : Text) (s : Session) : layers identity verifier inner network address s =
      ((inner network address s).1.map (Resolution.adjust (completed identity verifier)),
        (inner network address s).2) := by
  unfold layers
  rw [patchedWith_run, patchedWith_run]
  cases inner network address s with
  | mk result t =>
    cases result with
    | error fault => rfl
    | ok r => exact congrArg (fun q => (Except.ok q, t)) (adjust_completed identity verifier r)

/-- The resolver of an eager client, without its trace. -/
def layered (files : List ConfigFile) (overlay : Settings) (identity : Option Identity) (verifier : Option Verifier) :
    Resolver :=
  layers identity verifier (Resolver.chain (files.map fun f => Resolver.ofFile f overlay))

theorem outcome_layered (files : List ConfigFile) (overlay : Settings) (identity : Option Identity)
    (verifier : Option Verifier) (network address : Text) (env : Environment) (tree : FileTree) :
    (layered files overlay identity verifier network address).outcome env tree =
      ((Resolver.chain (files.map fun f => Resolver.ofFile f overlay) network address).outcome env tree).map
        (Resolution.adjust (completed identity verifier)) := by
  unfold layered Act.outcome
  rw [layers_run]

theorem isReading_layered (files : List ConfigFile) (overlay : Settings) (identity : Option Identity)
    (verifier : Option Verifier) (network address : Text) :
    (layered files overlay identity verifier network address).IsReading := by
  have hchain : (Resolver.chain (files.map fun f => Resolver.ofFile f overlay) network address).IsReading :=
    Resolver.isReading_chain network address (Resolver.isReading_ofFiles files)
  intro s
  obtain ⟨remarks, hrun⟩ := hchain s
  exact ⟨remarks, by rw [outcome_layered, layered, layers_run, hrun]⟩

theorem isReading_eagerClient (l : Loader) (overlay : Settings) : (l.eagerClient overlay).IsReading :=
  IsReading.bind (isReading_readAll l.isReading_sources) fun _ => IsReading.pure _

theorem outcome_eagerClient (l : Loader) (overlay : Settings) (env : Environment) (tree : FileTree) :
    (l.eagerClient overlay).outcome env tree = (sourcesIn l.configFile l.defaults env tree).map fun files =>
      ⟨Resolver.chain (files.map fun f => Resolver.ofFile f overlay), pure (ConfigFile.combineAll files)⟩ := by
  unfold eagerClient
  rw [Act.outcome_bind (isReading_readAll l.isReading_sources) fun _ => IsReading.pure _, outcome_sources]
  cases sourcesIn l.configFile l.defaults env tree <;> rfl

/-- The client of a loader's sources alone: they are read now, or on demand. -/
def sourceClient (l : Loader) (overlay : Settings) (env : Environment) (tree : FileTree) : Except Fault Client :=
  if l.onDemand then
    .ok ⟨Resolver.lazyChain (l.sources.zipIdx.map fun p => source overlay p.2 p.1), readings⟩
  else
    (sourcesIn l.configFile l.defaults env tree).map fun files =>
      ⟨Resolver.chain (files.map fun f => Resolver.ofFile f overlay), pure (ConfigFile.combineAll files)⟩

/-- The verifier of the default known hosts; none if they are absent. -/
def defaultVerifier (l : Loader) (env : Environment) (tree : FileTree) : Except Fault (Option Verifier) :=
  (Act.loadVerifier true [l.defaults.userKnownHosts, l.defaults.systemKnownHosts]).outcome env tree

/-- The gates that a client has of its own: that of its trace. -/
def newGates (l : Loader) : List Bool :=
  match l.trace with
  | none => []
  | some _ => [false]

/-- The client of sources, with the defaults and the loader's trace on top. -/
def assembled (l : Loader) (inner : Client) (identity : Option Identity) (verifier : Option Verifier) (gate : Nat) :
    Client :=
  match l.trace with
  | none => ⟨layers identity verifier inner.resolver, inner.fileConfig⟩
  | some trace =>
    ⟨Resolver.traced (layers identity verifier inner.resolver) trace inner.fileConfig gate, inner.fileConfig⟩

/-- The client of sources, completed by the defaults if they can be read. -/
def completedClient (l : Loader) (inner : Client) (env : Environment) (tree : FileTree) (gate : Nat) :
    Except Fault Client :=
  (l.defaultIdentity.outcome env tree).bind fun identity =>
    (l.defaultVerifier env tree).map fun verifier => l.assembled inner identity verifier gate

theorem completedClient_run (l : Loader) (inner : Client) (s : Session) :
    ∃ (remarks : List Remark) (gates : List Bool),
      (do
        let identity ← l.defaultIdentity
        let verifier ← Act.loadVerifier true [l.defaults.userKnownHosts, l.defaults.systemKnownHosts]
        let resolver := layers identity verifier inner.resolver
        match l.trace with
        | none => pure ⟨resolver, inner.fileConfig⟩
        | some trace => do
          let gate ← Act.newGate
          pure ⟨Resolver.traced resolver trace inner.fileConfig gate, inner.fileConfig⟩ : Act Client) s =
        (l.completedClient inner s.environment s.tree s.gates.length,
          { s with journal := s.journal ++ remarks.map .remark, gates := gates }) ∧
      ∀ c, l.completedClient inner s.environment s.tree s.gates.length = .ok c → gates = s.gates ++ l.newGates := by
  obtain ⟨first, hfirst⟩ := l.isReading_defaultIdentity.exists_bind_run _ s
  unfold completedClient
  rw [hfirst]
  cases l.defaultIdentity.outcome s.environment s.tree with
  | error fault => exact ⟨first, s.gates, rfl, fun _ h => by cases h⟩
  | ok identity =>
    dsimp only
    obtain ⟨second, hsecond⟩ := (IsReading.loadVerifier true [l.defaults.userKnownHosts,
      l.defaults.systemKnownHosts]).exists_bind_run _ { s with journal := s.journal ++ first.map .remark }
    rw [hsecond, List.append_assoc, ← List.map_append]
    unfold defaultVerifier assembled newGates
    cases (Act.loadVerifier true [l.defaults.userKnownHosts, l.defaults.systemKnownHosts]).outcome s.environment
      s.tree with
    | error fault => exact ⟨first ++ second, s.gates, rfl, fun _ h => by cases h⟩
    | ok verifier =>
      cases l.trace with
      | none => exact ⟨first ++ second, s.gates, rfl, fun _ _ => (List.append_nil _).symm⟩
      | some trace => exact ⟨first ++ second, s.gates ++ [false], rfl, fun _ _ => rfl⟩

/-- What a loader makes: the inline options, the sources and the defaults are read, and the first of them that cannot
be read ends the making. -/
def made (l : Loader) (env : Environment) (tree : FileTree) (gate : Nat) : Except Fault Client :=
  ((Settings.ofOptions l.options).mapError Fault.ofRefusal).bind fun overlay =>
    (l.sourceClient overlay env tree).bind fun inner => l.completedClient inner env tree gate

/-- **A client is made of what is read**, in every session.  A session in which one was made differs by remarks, the
gate of its trace, and the readings that are kept, of which a lazy client has none yet. -/
theorem newClient_run (l : Loader) (s : Session) : ∃ (remarks : List Remark) (gates : List Bool)
    (loaded : List (Nat × ConfigFile)),
    l.newClient s = (l.made s.environment s.tree s.gates.length,
      { s with journal := s.journal ++ remarks.map .remark, gates := gates, loaded := loaded }) ∧
    ∀ c, l.made s.environment s.tree s.gates.length = .ok c →
      gates = s.gates ++ l.newGates ∧ loaded = if l.onDemand then [] else s.loaded := by
  obtain ⟨first, hfirst⟩ := (IsReading.readOptions l.options).exists_bind_run _ s
  unfold newClient made
  rw [hfirst, Act.outcome_readOptions]
  cases (Settings.ofOptions l.options).mapError Fault.ofRefusal with
  | error fault => exact ⟨first, s.gates, s.loaded, rfl, fun _ h => by cases h⟩
  | ok overlay =>
    dsimp only
    unfold sourceClient
    cases l.onDemand with
    | true =>
      obtain ⟨more, gates, hrun, hgates⟩ := l.completedClient_run
        ⟨Resolver.lazyChain (l.sources.zipIdx.map fun p => source overlay p.2 p.1), readings⟩
        { s with journal := s.journal ++ first.map .remark, loaded := [] }
      rw [List.append_assoc, ← List.map_append] at hrun
      exact ⟨first ++ more, gates, [], hrun, fun c hc => ⟨hgates c hc, rfl⟩⟩
    | false =>
      obtain ⟨second, hsecond⟩ := (l.isReading_eagerClient overlay).exists_bind_run _
        { s with journal := s.journal ++ first.map .remark }
      rw [if_neg Bool.false_ne_true, if_neg Bool.false_ne_true, hsecond, outcome_eagerClient, List.append_assoc,
        ← List.map_append]
      cases sourcesIn l.configFile l.defaults s.environment s.tree with
      | error fault => exact ⟨first ++ second, s.gates, s.loaded, rfl, fun _ h => by cases h⟩
      | ok files =>
        obtain ⟨more, gates, hrun, hgates⟩ := l.completedClient_run
          ⟨Resolver.chain (files.map fun f => Resolver.ofFile f overlay), pure (ConfigFile.combineAll files)⟩
          { s with journal := s.journal ++ (first ++ second).map .remark }
        rw [List.append_assoc, ← List.map_append] at hrun
        exact ⟨first ++ second ++ more, gates, s.loaded, hrun, fun c hc => ⟨hgates c hc, rfl⟩⟩

theorem made_of_newClient {l : Loader} {s t : Session} {c : Client} (h : l.newClient s = (.ok c, t)) :
    l.made s.environment s.tree s.gates.length = .ok c ∧ ∃ remarks : List Remark,
      t = { s with journal := s.journal ++ remarks.map .remark, gates := s.gates ++ l.newGates,
                   loaded := if l.onDemand then [] else s.loaded } := by
  obtain ⟨remarks, gates, loaded, hrun, hmade⟩ := l.newClient_run s
  rw [h] at hrun
  obtain ⟨hc, rfl⟩ := Prod.mk.inj hrun
  obtain ⟨rfl, rfl⟩ := hmade c hc.symm
  exact ⟨hc.symm, remarks, rfl⟩

/-- **With the options and the defaults read, a client is made if its sources are.** -/
theorem made_of_defaults {l : Loader} {env : Environment} {tree : FileTree} {overlay : Settings}
    {identity : Option Identity} {verifier : Option Verifier} (hoverlay : Settings.ofOptions l.options = .ok overlay)
    (hidentity : l.defaultIdentity.outcome env tree = .ok identity)
    (hverifier : l.defaultVerifier env tree = .ok verifier) (gate : Nat) : l.made env tree gate =
      (l.sourceClient overlay env tree).map fun inner => l.assembled inner identity verifier gate := by
  unfold made completedClient
  rw [hoverlay, hidentity, hverifier]
  change (l.sourceClient overlay env tree).bind (fun inner => .ok (l.assembled inner identity verifier gate)) = _
  cases l.sourceClient overlay env tree <;> rfl

theorem exists_of_made {l : Loader} {env : Environment} {tree : FileTree} {gate : Nat} {c : Client}
    (h : l.made env tree gate = .ok c) : ∃ overlay inner identity verifier,
      Settings.ofOptions l.options = .ok overlay ∧ l.sourceClient overlay env tree = .ok inner ∧
      l.defaultIdentity.outcome env tree = .ok identity ∧ l.defaultVerifier env tree = .ok verifier ∧
      c = l.assembled inner identity verifier gate := by
  obtain ⟨overlay, hoverlay, h⟩ := exists_of_bind_ok h
  obtain ⟨inner, hinner, h⟩ := exists_of_bind_ok h
  obtain ⟨identity, hidentity, h⟩ := exists_of_bind_ok h
  obtain ⟨verifier, hverifier, h⟩ := exists_of_map_ok h
  exact ⟨overlay, inner, identity, verifier, eq_ok_of_mapError_ok hoverlay, hinner, hidentity, hverifier, h.symm⟩

/-- **What an eager client is made of**: the sources that are there, the inline options, and the defaults. -/
theorem newClient_eager {l : Loader} (heager : l.onDemand = false) {s t : Session} {c : Client}
    (h : l.newClient s = (.ok c, t)) : ∃ files overlay identity verifier,
      sourcesIn l.configFile l.defaults s.environment s.tree = .ok files ∧
      Settings.ofOptions l.options = .ok overlay ∧
      l.defaultIdentity.outcome s.environment s.tree = .ok identity ∧
      (Act.loadVerifier true [l.defaults.userKnownHosts, l.defaults.systemKnownHosts]).outcome s.environment s.tree =
        .ok verifier ∧
      ((l.trace = none ∧ c.resolver = layered files overlay identity verifier) ∨
        ∃ trace gate, l.trace = some trace ∧
          c.resolver = Resolver.traced (layered files overlay identity verifier) trace
            (pure (ConfigFile.combineAll files)) gate) := by
  obtain ⟨overlay, inner, identity, verifier, hoverlay, hinner, hidentity, hverifier, rfl⟩ :=
    exists_of_made (made_of_newClient h).1
  unfold sourceClient at hinner
  rw [heager, if_neg Bool.false_ne_true] at hinner
  obtain ⟨files, hfiles, rfl⟩ := exists_of_map_ok hinner
  refine ⟨files, overlay, identity, verifier, hfiles, hoverlay, hidentity, hverifier, ?_⟩
  unfold assembled
  cases l.trace with
  | none => exact .inl ⟨rfl, rfl⟩
  | some trace => exact .inr ⟨trace, _, rfl, rfl⟩

theorem lookup_fst {l : Loader} {c : Client} {inner : Resolver} {file : Option ConfigFile} {network address : Text}
    (htrace : ∀ trace, l.trace = some trace → trace.Returns) (hinner : (inner network address).IsReading)
    (hc : (l.trace = none ∧ c.resolver = inner) ∨
      ∃ trace gate, l.trace = some trace ∧ c.resolver = Resolver.traced inner trace (pure file) gate)
    (s : Session) : (c.lookup network address s).1 = (inner network address).outcome s.environment s.tree := by
  unfold Client.lookup
  rcases hc with ⟨-, hc⟩ | ⟨trace, gate, hl, hc⟩
  · rw [hc, hinner.run_fst]
  · rw [hc, Resolver.traced_fst (htrace trace hl) fun _ => ⟨file, rfl⟩, hinner.run_fst]

/-- **Who answers an address, and with what.**  The sources are fixed when an eager client is made, whatever the inline
options are.  An address is not found exactly if no source has anything for it; otherwise the first source that has
something answers, with the options on top of what it has: what is built from that is found, completed by the defaults,
and a fault of the configuration or of the system is the answer. -/
theorem eager_lookup_layers {l : Loader} (heager : l.onDemand = false)
    (htrace : ∀ trace, l.trace = some trace → trace.Returns) {s₀ s₁ : Session} {c₀ : Client}
    (hmade : l.newClient s₀ = (.ok c₀, s₁)) :
    ∃ files, sourcesIn l.configFile l.defaults s₀.environment s₀.tree = .ok files ∧
      ∀ options c s₂, { l with options := options }.newClient s₀ = (.ok c, s₂) →
        ∃ overlay identity verifier, Settings.ofOptions options = .ok overlay ∧
          l.defaultIdentity.outcome s₀.environment s₀.tree = .ok identity ∧
          (Act.loadVerifier true [l.defaults.userKnownHosts, l.defaults.systemKnownHosts]).outcome s₀.environment
            s₀.tree = .ok verifier ∧
          ∀ network address s,
            ((c.lookup network address s).1 = .ok (.notFound address) ↔ ∀ f ∈ files, f.lookup address = none) ∧
            ∀ earlier f later block, files = earlier ++ f :: later → (∀ g ∈ earlier, g.lookup address = none) →
              f.lookup address = some block →
              match (Act.buildEffective (block.merge overlay) address network).outcome s.environment s.tree with
              | .ok e => ∃ found, (c.lookup network address s).1 = .ok (.found address found) ∧
                  found = completed identity verifier e ∧
                  ∀ k, found.settings.get? k = (overlay.get? k).or
                    (((f.entries.find? (·.accepts address)).bind (·.settings.get? k)).or (f.globals.get? k))
              | .error fault => (c.lookup network address s).1 =
                  if fault.failsLookup then .ok (.failed address fault) else .error fault := by
  obtain ⟨files, -, -, -, hfiles, -⟩ := newClient_eager heager hmade
  refine ⟨files, hfiles, fun options c s₂ hc => ?_⟩
  obtain ⟨files', overlay, identity, verifier, hfiles', hoverlay, hidentity, hverifier, hresolver⟩ :=
    newClient_eager (l := { l with options := options }) heager hc
  obtain rfl : files' = files := Except.ok.inj (hfiles'.symm.trans hfiles)
  refine ⟨overlay, identity, verifier, hoverlay, hidentity, hverifier, fun network address s => ?_⟩
  have hlookup := lookup_fst htrace (isReading_layered files' overlay identity verifier network address) hresolver s
  rw [outcome_layered] at hlookup
  have hfound : ∀ earlier f later block, files' = earlier ++ f :: later → (∀ g ∈ earlier, g.lookup address = none) →
      f.lookup address = some block → (c.lookup network address s).1 =
        match (Act.buildEffective (block.merge overlay) address network).outcome s.environment s.tree with
        | .ok e => .ok (.found address (completed identity verifier e))
        | .error fault => if fault.failsLookup then .ok (.failed address fault) else .error fault := by
    rintro earlier f later block rfl hearlier hf
    rw [hlookup, Resolver.outcome_chain_some _ _ hearlier hf]
    cases (Act.buildEffective (block.merge overlay) address network).outcome s.environment s.tree with
    | ok e => rfl
    | error fault => by_cases hfails : fault.failsLookup = true <;> simp [hfails, Except.map, Resolution.adjust]
  refine ⟨⟨fun hnone => ?_, fun hnone => ?_⟩, fun earlier f later block hsplit hearlier hf => ?_⟩
  · -- if a source had something, the first such source would have answered, and it never answers with not found
    cases hfirst : files'.findSome? (·.lookup address) with
    | none => exact List.findSome?_eq_none_iff.1 hfirst
    | some block =>
      obtain ⟨earlier, f, later, hsplit, hf, hearlier⟩ := List.findSome?_eq_some_iff.1 hfirst
      rw [hfound earlier f later block hsplit hearlier hf] at hnone
      cases hbuild : (Act.buildEffective (block.merge overlay) address network).outcome s.environment s.tree with
      | ok e =>
        rw [hbuild] at hnone
        cases hnone
      | error fault =>
        rw [hbuild] at hnone
        by_cases hfails : fault.failsLookup = true <;> simp [hfails] at hnone
  · rw [hlookup, Resolver.outcome_chain_none _ _ hnone]
    rfl
  · have hresult := hfound earlier f later block hsplit hearlier hf
    cases hbuild : (Act.buildEffective (block.merge overlay) address network).outcome s.environment s.tree with
    | error fault =>
      rw [hbuild] at hresult
      exact hresult
    | ok e =>
      rw [hbuild] at hresult
      refine ⟨_, hresult, rfl, fun k => ?_⟩
      have hcompleted : (completed identity verifier e).settings = e.settings := rfl
      rw [hcompleted, Act.settings_of_buildEffective hbuild, Settings.get?_merge, ConfigFile.get?_of_lookup hf]

/-- The invocation's own file has nothing for the addresses that the user's file has an entry for. -/
def sampleSession : Session where
  environment := sampleEnvironment .keyless
  tree := ⟨[(⟨false, ["own"]⟩, FileTree.file (Text.encode "Host other\n Port 1\n")),
    (⟨false, ["user"]⟩, FileTree.file (Text.encode "Port 7\nHost db*\n User alice\n Port 9\n"))]⟩

def sampleLoader : Loader where
  defaults := ⟨"user", "system", "known", "known2", []⟩
  configFile := some "own"
  options := ["Port=2022"]
  trace := some Trace.noting

theorem eager_lookup_layers_sample : ∃ c s₁ found,
    sampleLoader.newClient sampleSession = (.ok c, s₁) ∧
    (c.lookup "tcp" "nobody" sampleSession).1 = .ok (.notFound "nobody") ∧
    (c.lookup "tcp" "db1" sampleSession).1 = .ok (.found "db1" found) ∧
    found.settings.get? .port = some (⟨2022, by decide⟩ : Port) ∧
    found.settings.get? .user = some "alice".toList := by
  have hok : (sampleLoader.newClient sampleSession).1.isOk = true := by decide +kernel
  cases hmade : sampleLoader.newClient sampleSession with
  | mk r s₁ =>
  cases r with
  | error fault =>
    rw [hmade] at hok
    cases hok
  | ok c =>
  have hreturns : ∀ trace, sampleLoader.trace = some trace → trace.Returns := by
    rintro trace htrace
    cases htrace
    exact ⟨fun _ _ => rfl, fun _ _ => rfl⟩
  obtain ⟨files, hfiles, hclients⟩ := eager_lookup_layers rfl hreturns hmade
  obtain ⟨overlay, identity, verifier, hoverlay, -, -, hlookup⟩ := hclients ["Port=2022"] c s₁ hmade
  have hnobody : (sourcesIn sampleLoader.configFile sampleLoader.defaults sampleSession.environment
      sampleSession.tree).toOption.map (fun fs => fs.all fun f => (f.lookup "nobody").isNone) = some true := by
    decide +kernel
  have hbuilt : ((sourcesIn sampleLoader.configFile sampleLoader.defaults sampleSession.environment
      sampleSession.tree).toOption.bind fun fs => (Settings.ofOptions ["Port=2022"]).toOption.bind fun overlay =>
        (fs.findSome? (·.lookup "db1")).bind fun block =>
          ((Act.buildEffective (block.merge overlay) "db1" "tcp").outcome sampleSession.environment
            sampleSession.tree).toOption.map fun e =>
              ((e.settings.get? .port : Option Port), (e.settings.get? .user : Option Text))) =
      some (some (⟨2022, by decide⟩ : Port), some "alice".toList) := by
    decide +kernel
  rw [hfiles] at hnobody hbuilt
  rw [hoverlay] at hbuilt
  simp only [Except.toOption, Option.map_some, Option.some.injEq, List.all_eq_true, Option.isNone_iff_eq_none]
    at hnobody
  simp only [Except.toOption, Option.bind_some] at hbuilt
  obtain ⟨block, hfirst, hbuilt⟩ := Option.bind_eq_some_iff.1 hbuilt
  obtain ⟨e, hbuild, hvalues⟩ := Option.map_eq_some_iff.1 hbuilt
  obtain ⟨hport, huser⟩ := Prod.mk.inj hvalues
  obtain ⟨earlier, f, later, hsplit, hf, hearlier⟩ := List.findSome?_eq_some_iff.1 hfirst
  have hdb := (hlookup "tcp" "db1" sampleSession).2 earlier f later block hsplit hearlier hf
  cases hbuild' : (Act.buildEffective (block.merge overlay) "db1" "tcp").outcome sampleSession.environment
      sampleSession.tree with
  | error fault =>
    rw [hbuild'] at hbuild
    cases hbuild
  | ok e' =>
  rw [hbuild'] at hbuild hdb
  cases hbuild
  obtain ⟨found, hfound, rfl, -⟩ := hdb
  exact ⟨c, s₁, _, rfl, (hlookup "tcp" "nobody" sampleSession).1.2 hnobody, hfound, hport, huser⟩

end Loader
end SshConfig
