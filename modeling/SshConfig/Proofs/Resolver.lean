import SshConfig.Proofs.Effective.Build
import SshConfig.Resolver.Basic
/-!
# Resolver — who answers, and what is made of the answer

A source that has nothing for an address leaves it to the next, and the first that has something answers: what the later
ones have does not matter (`outcome_chain_append`).  A patch changes what was found and not whether it was found, and a
trace that returns changes nothing of the answer.
-/
namespace SshConfig

namespace Resolution

/-- What was found, changed. -/
def adjust (change : Effective → Effective) : Resolution → Resolution
  | found address e => found address (change e)
  | r => r

theorem adjust_id (r : Resolution) : r.adjust id = r := by
  cases r <;> rfl

end Resolution

namespace Resolver

open Act (IsReading)

variable (env : Environment) (tree : FileTree)

/-! ## One source -/

theorem answer_handler (address : Text) (fault : Fault) :
    (if fault.failsLookup then pure (.failed address fault) else Act.fail fault : Act Resolution).IsReading := by
  split
  · exact IsReading.pure _
  · exact IsReading.fail _

theorem isReading_answer (address : Text) {build : Act Effective} (h : build.IsReading) :
    (answer address build).IsReading :=
  IsReading.rescue (IsReading.map h _) (answer_handler address)

/-- **What is built is found**, and a fault of the configuration or of the system is the answer. -/
theorem outcome_answer (address : Text) {build : Act Effective} (h : build.IsReading) :
    (answer address build).outcome env tree = match build.outcome env tree with
      | .ok e => .ok (.found address e)
      | .error fault => if fault.failsLookup then .ok (.failed address fault) else .error fault := by
  unfold answer
  rw [Act.outcome_rescue (IsReading.map h _) (answer_handler address), Act.outcome_map]
  cases build.outcome env tree with
  | ok e => rfl
  | error fault =>
    simp only [Except.map]
    split <;> rfl

theorem isReading_ofFile (file : ConfigFile) (overlay : Settings) (network address : Text) :
    (ofFile file overlay network address).IsReading := by
  unfold ofFile
  split
  · exact IsReading.bind (IsReading.debug _ _) fun _ => IsReading.pure _
  · exact isReading_answer address (IsReading.buildEffective _ _ _)

theorem outcome_ofFile_none {file : ConfigFile} (overlay : Settings) {address : Text} (network : Text)
    (h : file.lookup address = none) :
    (ofFile file overlay network address).outcome env tree = .ok (.notFound address) := by
  unfold ofFile
  rw [h]
  rfl

theorem outcome_ofFile_some {file : ConfigFile} (overlay : Settings) {address : Text} (network : Text) {s : Settings}
    (h : file.lookup address = some s) :
    (ofFile file overlay network address).outcome env tree =
      match (Act.buildEffective (s.merge overlay) address network).outcome env tree with
      | .ok e => .ok (.found address e)
      | .error fault => if fault.failsLookup then .ok (.failed address fault) else .error fault := by
  unfold ofFile
  rw [h]
  exact outcome_answer env tree address (IsReading.buildEffective _ _ _)

/-! ## A chain -/

theorem isReading_chain (network address : Text) : ∀ {rs : List Resolver}, (∀ r ∈ rs, (r network address).IsReading) →
    (chain rs network address).IsReading
  | [], _ => IsReading.pure _
  | r :: rs, h => by
    refine IsReading.bind (h r List.mem_cons_self) fun result => ?_
    split
    · exact isReading_chain network address fun q hq => h q (List.mem_cons_of_mem r hq)
    · exact IsReading.pure _

theorem outcome_chain_cons {r : Resolver} {rs : List Resolver} {network address : Text}
    (hr : (r network address).IsReading) (hrs : ∀ q ∈ rs, (q network address).IsReading) :
    (chain (r :: rs) network address).outcome env tree = match (r network address).outcome env tree with
      | .ok (.notFound _) => (chain rs network address).outcome env tree
      | result => result := by
  refine (Act.outcome_bind hr (fun result => ?_) env tree).trans ?_
  · split
    · exact isReading_chain network address hrs
    · exact IsReading.pure _
  · cases (r network address).outcome env tree with
    | error fault => rfl
    | ok result => cases result <;> rfl

/-- **Resolvers that leave the address unfound are passed over.** -/
theorem outcome_chain_append {network address : Text} : ∀ {earlier : List Resolver} (rs : List Resolver),
    (∀ r ∈ earlier ++ rs, (r network address).IsReading) →
    (∀ r ∈ earlier, (r network address).outcome env tree = .ok (.notFound address)) →
    (chain (earlier ++ rs) network address).outcome env tree = (chain rs network address).outcome env tree
  | [], _, _, _ => rfl
  | r :: earlier, rs, hreading, hnone => by
    have hrest : ∀ q ∈ earlier ++ rs, (q network address).IsReading :=
      fun q hq => hreading q (List.mem_cons_of_mem r hq)
    rw [List.cons_append, outcome_chain_cons env tree (hreading r List.mem_cons_self) hrest,
      hnone r List.mem_cons_self]
    exact outcome_chain_append rs hrest fun q hq => hnone q (List.mem_cons_of_mem r hq)

section
variable {overlay : Settings} {network address : Text}

theorem isReading_ofFiles (files : List ConfigFile) :
    ∀ r ∈ files.map fun f => ofFile f overlay, (r network address).IsReading := by
  intro r hr
  obtain ⟨f, -, rfl⟩ := List.mem_map.1 hr
  exact isReading_ofFile f overlay network address

theorem outcome_chain_none {files : List ConfigFile} (h : ∀ f ∈ files, f.lookup address = none) :
    (chain (files.map fun f => ofFile f overlay) network address).outcome env tree = .ok (.notFound address) := by
  have hnone : ∀ r ∈ files.map fun f => ofFile f overlay,
      (r network address).outcome env tree = .ok (.notFound address) := by
    intro r hr
    obtain ⟨f, hf, rfl⟩ := List.mem_map.1 hr
    exact outcome_ofFile_none env tree overlay network (h f hf)
  have hchain := outcome_chain_append env tree [] (by simpa using isReading_ofFiles files) hnone
  rw [List.append_nil] at hchain
  exact hchain

/-- **The first source that has something for an address answers**, whatever the later ones have. -/
theorem outcome_chain_some {earlier later : List ConfigFile} {f : ConfigFile} {s : Settings}
    (hearlier : ∀ g ∈ earlier, g.lookup address = none) (hf : f.lookup address = some s) :
    (chain ((earlier ++ f :: later).map fun f => ofFile f overlay) network address).outcome env tree =
      match (Act.buildEffective (s.merge overlay) address network).outcome env tree with
      | .ok e => .ok (.found address e)
      | .error fault => if fault.failsLookup then .ok (.failed address fault) else .error fault := by
  have hnone : ∀ r ∈ earlier.map fun f => ofFile f overlay,
      (r network address).outcome env tree = .ok (.notFound address) := by
    intro r hr
    obtain ⟨g, hg, rfl⟩ := List.mem_map.1 hr
    exact outcome_ofFile_none env tree overlay network (hearlier g hg)
  have hreading : ∀ r ∈ (earlier ++ f :: later).map fun f => ofFile f overlay, (r network address).IsReading :=
    isReading_ofFiles _
  rw [List.map_append] at hreading ⊢
  rw [outcome_chain_append env tree _ hreading hnone, List.map_cons,
    outcome_chain_cons env tree (isReading_ofFile f overlay network address) (isReading_ofFiles later),
    outcome_ofFile_some env tree overlay network hf]
  cases (Act.buildEffective (s.merge overlay) address network).outcome env tree with
  | ok e => rfl
  | error fault => by_cases h : fault.failsLookup = true <;> simp [h]

end

/-! ## Patches and traces -/

/-- **A patch changes what was found**, and nothing else. -/
theorem patched_run (inner : Resolver) (change : Effective → Effective) (network address : Text) (s : Session) :
    patched inner (fun c => pure (change c)) network address s =
      ((inner network address s).1.map (Resolution.adjust change), (inner network address s).2) := by
  unfold patched
  rw [Act.bind_run]
  cases inner network address s with
  | mk result t =>
    cases result with
    | error fault => rfl
    | ok r => cases r <;> rfl

/-- The reports of a find. -/
def reports (trace : Trace) (fileConfig : Act (Option ConfigFile)) (gate : Nat) (e : Effective) : Act Unit := do
  Act.runOnce gate (do trace.gotFileConfig (← fileConfig))
  trace.gotConfig e

/-- **A find is reported**, and any other result is passed on. -/
theorem traced_run (inner : Resolver) (trace : Trace) (fileConfig : Act (Option ConfigFile)) (gate : Nat)
    (network address : Text) (s : Session) : traced inner trace fileConfig gate network address s =
      match inner network address s with
      | (.ok (.found a e), t) =>
        ((reports trace fileConfig gate e t).1.map fun _ => .found a e, (reports trace fileConfig gate e t).2)
      | r => r := by
  unfold traced reports
  rw [Act.bind_run]
  cases inner network address s with
  | mk result t =>
    cases result with
    | error fault => rfl
    | ok r =>
      cases r with
      | notFound a => rfl
      | failed a fault => rfl
      | found a e =>
        dsimp only
        rw [Act.bind_run, Act.bind_run]
        cases Act.runOnce gate (do trace.gotFileConfig (← fileConfig)) t with
        | mk first u =>
          cases first with
          | error fault => rfl
          | ok _ =>
            dsimp only
            rw [Act.bind_run]
            cases trace.gotConfig e u with
            | mk second v => cases second <;> rfl

end Resolver

/-- The hooks of a trace come to an end without a fault. -/
def Trace.Returns (trace : Trace) : Prop :=
  (∀ file s, (trace.gotFileConfig file s).1 = .ok ()) ∧ ∀ e s, (trace.gotConfig e s).1 = .ok ()

theorem Act.runOnce_fst (gate : Nat) {action : Act Unit} (h : ∀ s, (action s).1 = .ok ()) (s : Session) :
    (runOnce gate action s).1 = .ok () := by
  unfold runOnce
  split
  · rfl
  · exact h s

theorem Resolver.reports_fst {trace : Trace} (htrace : trace.Returns) {fileConfig : Act (Option ConfigFile)}
    (hfile : ∀ s, ∃ file, (fileConfig s).1 = .ok file) (gate : Nat) (e : Effective) (s : Session) :
    (reports trace fileConfig gate e s).1 = .ok () := by
  -- the hooks run in sessions that earlier hooks left behind, so they have to return in every session
  have hfirst : ∀ t, ((fileConfig >>= trace.gotFileConfig : Act Unit) t).1 = .ok () := by
    intro t
    obtain ⟨file, ht⟩ := hfile t
    rw [Act.bind_run]
    cases hrun : fileConfig t with
    | mk result u =>
      rw [hrun] at ht
      cases ht
      exact htrace.1 file u
  have honce := Act.runOnce_fst gate hfirst s
  unfold reports
  rw [Act.bind_run]
  cases hrun : Act.runOnce gate (fileConfig >>= trace.gotFileConfig) s with
  | mk first t =>
    rw [hrun] at honce
    cases honce
    exact htrace.2 e t

/-- **A trace that returns changes nothing of the answer.** -/
theorem Resolver.traced_fst {inner : Resolver} {trace : Trace} (htrace : trace.Returns)
    {fileConfig : Act (Option ConfigFile)} (hfile : ∀ s, ∃ file, (fileConfig s).1 = .ok file) {gate : Nat}
    {network address : Text} (s : Session) :
    (traced inner trace fileConfig gate network address s).1 = (inner network address s).1 := by
  rw [traced_run]
  cases inner network address s with
  | mk result t =>
    cases result with
    | error fault => rfl
    | ok r =>
      cases r with
      | found a e => simp only [reports_fst htrace hfile, Except.map]
      | notFound a => rfl
      | failed a fault => rfl

end SshConfig
