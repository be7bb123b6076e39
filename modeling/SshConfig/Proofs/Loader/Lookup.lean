import SshConfig.Proofs.Effective.Verifier
import SshConfig.Proofs.Loader.Readings
/-!
# Lookup — what a client answers, whenever its sources are read

An eager client answers from the readings of when it was made, a lazy one from those of the look-up (`readingsFor`).
Given the readings both answer alike: the first source that does not leave the address unfound decides.
-/
namespace SshConfig

open Act (IsReading)

/-- **A source leaves an address unfound exactly if it has nothing for it.** -/
theorem isNotFound_ofFile_iff {f : ConfigFile} {overlay : Settings} {network address : Text} {env : Environment}
    {tree : FileTree} : isNotFound ((Resolver.ofFile f overlay network address).outcome env tree) = true ↔
      f.lookup address = none := by
  cases hf : f.lookup address with
  | none => simp [Resolver.outcome_ofFile_none env tree overlay network hf, isNotFound]
  | some block =>
    rw [Resolver.outcome_ofFile_some env tree overlay network hf]
    cases (Act.buildEffective (block.merge overlay) address network).outcome env tree with
    | ok e => simp [isNotFound]
    | error fault => by_cases hfails : fault.failsLookup = true <;> simp [hfails, isNotFound]

theorem outcome_chain_first {earlier later : List ConfigFile} {f : ConfigFile} {address : Text}
    (hearlier : ∀ g ∈ earlier, g.lookup address = none) (hf : f.lookup address ≠ none) (overlay : Settings)
    (network : Text) (env : Environment) (tree : FileTree) :
    (Resolver.chain ((earlier ++ f :: later).map fun f => Resolver.ofFile f overlay) network address).outcome env tree =
      (Resolver.ofFile f overlay network address).outcome env tree := by
  obtain ⟨block, hblock⟩ := Option.ne_none_iff_exists'.1 hf
  exact (Resolver.outcome_chain_some env tree hearlier hblock).trans
    (Resolver.outcome_ofFile_some env tree overlay network hblock).symm

namespace Reading

variable {overlay : Settings} {network address : Text} {env : Environment} {tree : FileTree}

/-- **A source leaves an address unfound exactly if it was read and has nothing for it.** -/
theorem isNotFound_answer_iff {r : Reading} : isNotFound (answer overlay network address env tree r) = true ↔
    ∃ file, r.2 = .ok file ∧ ∀ f ∈ file, f.lookup address = none := by
  obtain ⟨i, x⟩ := r
  cases x with
  | error fault => simp [Loader.isNotFound_answer_error]
  | ok file =>
    cases file with
    | none => simp [answer, isNotFound]
    | some f => simpa [answer] using isNotFound_ofFile_iff

theorem exists_of_answer_found {r : Reading} {a : Text} {e : Effective}
    (h : answer overlay network address env tree r = .ok (.found a e)) : ∃ f block, r.2 = .ok (some f) ∧
      f.lookup address = some block ∧
      (Act.buildEffective (block.merge overlay) address network).outcome env tree = .ok e := by
  obtain ⟨i, x⟩ := r
  cases x with
  | error fault => by_cases hfails : fault.failsLookup = true <;> simp [answer, hfails] at h
  | ok file =>
    cases file with
    | none => simp [answer] at h
    | some f =>
      simp only [answer] at h
      cases hf : f.lookup address with
      | none =>
        rw [Resolver.outcome_ofFile_none env tree overlay network hf] at h
        cases h
      | some block =>
        rw [Resolver.outcome_ofFile_some env tree overlay network hf] at h
        cases hbuild : (Act.buildEffective (block.merge overlay) address network).outcome env tree with
        | ok e' =>
          rw [hbuild] at h
          cases h
          exact ⟨f, block, rfl, hf, hbuild⟩
        | error fault =>
          rw [hbuild] at h
          by_cases hfails : fault.failsLookup = true <;> simp [hfails] at h

theorem failsLookup_of_ite {f fault : Fault} {a : Text} (h : (if f.failsLookup = true then .ok (.failed address f)
    else .error f : Except Fault Resolution) = .ok (.failed a fault)) : fault.failsLookup = true := by
  split at h
  · rename_i hfails
    cases h
    exact hfails
  · cases h

/-- **A failure is one of the configuration or of the system.** -/
theorem failsLookup_of_answer {r : Reading} {a : Text} {fault : Fault}
    (h : answer overlay network address env tree r = .ok (.failed a fault)) : fault.failsLookup = true := by
  obtain ⟨i, x⟩ := r
  cases x with
  | error f => exact failsLookup_of_ite h
  | ok file =>
    cases file with
    | none => cases h
    | some f =>
      unfold answer at h
      dsimp only at h
      cases hf : f.lookup address with
      | none =>
        rw [Resolver.outcome_ofFile_none env tree overlay network hf] at h
        cases h
      | some block =>
        rw [Resolver.outcome_ofFile_some env tree overlay network hf] at h
        split at h
        · cases h
        · exact failsLookup_of_ite h

/-- **The first reading that does not leave the address unfound gives the answer**, if there is one. -/
theorem firstAnswer_split (answer : Reading → Except Fault Resolution) (address : Text) : ∀ rs : List Reading,
    ((∀ r ∈ rs, isNotFound (answer r) = true) ∧ firstAnswer answer address rs = .ok (.notFound address)) ∨
      ∃ earlier r later, rs = earlier ++ r :: later ∧ (∀ q ∈ earlier, isNotFound (answer q) = true) ∧
        isNotFound (answer r) = false ∧ firstAnswer answer address rs = answer r
  | [] => .inl ⟨by simp, rfl⟩
  | r :: rs => by
    unfold firstAnswer
    cases hr : isNotFound (answer r) with
    | false => exact .inr ⟨[], r, rs, rfl, by simp, hr, rfl⟩
    | true =>
      rcases firstAnswer_split answer address rs with ⟨hall, hrs⟩ | ⟨earlier, q, later, rfl, hearlier, hq, hrs⟩
      · exact .inl ⟨by simpa [hr] using hall, hrs⟩
      · exact .inr ⟨r :: earlier, q, later, rfl, by simpa [hr] using hearlier, hq, hrs⟩

end Reading

namespace Loader

variable {overlay : Settings} {network address : Text}

/-- **A chain of the sources that are there gives the first answer of their readings.** -/
theorem outcome_chain_of_readAll {env₀ : Environment} {tree₀ : FileTree} (env : Environment) (tree : FileTree) :
    ∀ {reads : List (Act (Option ConfigFile))} {files : List ConfigFile} (k : Nat), (∀ r ∈ reads, r.IsReading) →
      (readAll reads).outcome env₀ tree₀ = .ok files →
      (Resolver.chain (files.map fun f => Resolver.ofFile f overlay) network address).outcome env tree =
        Reading.firstAnswer (Reading.answer overlay network address env tree) address (readingsIn reads k env₀ tree₀)
  | [], files, k, _, h => by
    cases h
    rfl
  | read :: reads, files, k, hreads, h => by
    obtain ⟨hread, hrest⟩ := List.forall_mem_cons.1 hreads
    rw [outcome_readAll_cons hread hrest] at h
    obtain ⟨file, hfile, h⟩ := exists_of_bind_ok h
    obtain ⟨others, hothers, rfl⟩ := exists_of_map_ok h
    have hlater := outcome_chain_of_readAll env tree (k + 1) hrest hothers
    have hcons : readingsIn (read :: reads) k env₀ tree₀ = (k, .ok file) :: readingsIn reads (k + 1) env₀ tree₀ := by
      rw [← hfile]
      rfl
    rw [hcons]
    unfold Reading.firstAnswer
    cases file with
    | none => exact hlater
    | some f =>
      refine (Resolver.outcome_chain_cons env tree (Resolver.isReading_ofFile f overlay network address)
        (Resolver.isReading_ofFiles others)).trans ?_
      rw [hlater, answer_ok]
      unfold answering
      rw [Option.elim_some]
      cases (Resolver.ofFile f overlay network address).outcome env tree with
      | error fault => rfl
      | ok result => cases result <;> rfl

/-- What a source has, if it can be read and is there. -/
def present (env : Environment) (tree : FileTree) (read : Act (Option ConfigFile)) : Option ConfigFile :=
  (read.outcome env tree).toOption.join

theorem files_of_readAll {env : Environment} {tree : FileTree} : ∀ {reads : List (Act (Option ConfigFile))}
    {files : List ConfigFile}, (∀ r ∈ reads, r.IsReading) → (readAll reads).outcome env tree = .ok files →
    files = reads.filterMap (present env tree) ∧ ∀ r ∈ reads, ∃ file, r.outcome env tree = .ok file
  | [], files, _, h => by
    cases h
    exact ⟨rfl, by simp⟩
  | read :: reads, files, hreads, h => by
    obtain ⟨hread, hrest⟩ := List.forall_mem_cons.1 hreads
    rw [outcome_readAll_cons hread hrest] at h
    obtain ⟨file, hfile, h⟩ := exists_of_bind_ok h
    obtain ⟨others, hothers, rfl⟩ := exists_of_map_ok h
    obtain ⟨rfl, hall⟩ := files_of_readAll hrest hothers
    refine ⟨?_, List.forall_mem_cons.2 ⟨⟨file, hfile⟩, hall⟩⟩
    have hpresent : present env tree read = file := by
      unfold present
      rw [hfile]
      rfl
    rw [List.filterMap_cons, hpresent]
    cases file <;> rfl

theorem exists_of_readAll_error {env : Environment} {tree : FileTree} {fault : Fault} :
    ∀ {reads : List (Act (Option ConfigFile))}, (∀ r ∈ reads, r.IsReading) →
      (readAll reads).outcome env tree = .error fault → ∃ earlier read later files, reads = earlier ++ read :: later ∧
        (readAll earlier).outcome env tree = .ok files ∧ read.outcome env tree = .error fault
  | [], _, h => by cases h
  | read :: reads, hreads, h => by
    obtain ⟨hread, hrest⟩ := List.forall_mem_cons.1 hreads
    rw [outcome_readAll_cons hread hrest] at h
    cases hfile : read.outcome env tree with
    | error f =>
      rw [hfile] at h
      cases h
      exact ⟨[], read, reads, [], rfl, rfl, hfile⟩
    | ok file =>
      rw [hfile] at h
      cases hothers : (readAll reads).outcome env tree with
      | ok others =>
        rw [hothers] at h
        cases h
      | error f =>
        rw [hothers] at h
        cases h
        obtain ⟨earlier, failing, later, files, rfl, hfiles, hfailing⟩ := exists_of_readAll_error hrest hothers
        refine ⟨read :: earlier, failing, later, file.toList ++ files, rfl, ?_, hfailing⟩
        rw [outcome_readAll_cons hread fun r hr => hrest r (List.mem_append_left _ hr), hfile, hfiles]
        rfl

/-- The readings from which a client that was made in one session answers a look-up in another. -/
def readingsFor (l : Loader) (made now : Session) : List Reading :=
  if l.onDemand then readingsIn l.sources 0 now.environment now.tree
  else readingsIn l.sources 0 made.environment made.tree

theorem demanding_unmarked (overlay : Settings) (reads : List (Act (Option ConfigFile))) :
    demanding (fun _ => []) overlay reads 0 =
      Resolver.lazyChain (reads.zipIdx.map fun p => source overlay p.2 p.1) := by
  simp only [demanding, Act.after_nil]

/-- **The sources of a client give the first answer of their readings.** -/
theorem sourceClient_fst {l : Loader} {made : Session} {inner : Client}
    (h : l.sourceClient overlay made.environment made.tree = .ok inner) (s : Session) :
    (inner.resolver network address s).1 =
      Reading.firstAnswer (Reading.answer overlay network address s.environment s.tree) address
        (l.readingsFor made s) := by
  unfold sourceClient at h
  unfold readingsFor
  cases hlazy : l.onDemand with
  | true =>
    rw [hlazy] at h
    cases h
    obtain ⟨notes, hrun, -⟩ := demanding_run (fun _ => []) overlay network address 0 l.isReading_sources s
    rw [demanding_unmarked] at hrun
    rw [if_pos rfl]
    exact congrArg Prod.fst hrun
  | false =>
    rw [hlazy, if_neg Bool.false_ne_true] at h
    obtain ⟨files, hfiles, rfl⟩ := exists_of_map_ok h
    rw [← outcome_sources] at hfiles
    have hreading : (Resolver.chain (files.map fun f => Resolver.ofFile f overlay) network address).IsReading :=
      Resolver.isReading_chain network address (Resolver.isReading_ofFiles files)
    rw [if_neg Bool.false_ne_true, hreading.run_fst, outcome_chain_of_readAll _ _ 0 l.isReading_sources hfiles]

theorem exists_of_adjust_found {change : Effective → Effective} {x : Except Fault Resolution} {a : Text} {e : Effective}
    (h : x.map (Resolution.adjust change) = .ok (.found a e)) : ∃ e₀, x = .ok (.found a e₀) ∧ e = change e₀ := by
  obtain ⟨r, rfl, hr⟩ := exists_of_map_ok h
  cases r with
  | found a₀ e₀ =>
    cases hr
    exact ⟨e₀, rfl, rfl⟩
  | notFound a₀ => cases hr
  | failed a₀ fault => cases hr

/-- **What a client answers is the answer of its sources, completed by the defaults.**  A hook that ends in a fault
makes it end without an answer, and not with another one. -/
theorem answer_of_assembled {l : Loader} {inner : Client} {identity : Option Identity} {verifier : Option Verifier}
    {gate : Nat} {s : Session} {r : Resolution}
    (h : ((l.assembled inner identity verifier gate).lookup network address s).1 = .ok r) :
    (inner.resolver network address s).1.map (Resolution.adjust (completed identity verifier)) = .ok r := by
  unfold assembled Client.lookup at h
  cases htrace : l.trace with
  | none =>
    rw [htrace] at h
    dsimp only at h
    rw [layers_run] at h
    exact h
  | some trace =>
    rw [htrace] at h
    dsimp only at h
    rw [Resolver.traced_run, layers_run] at h
    cases hinner : inner.resolver network address s with
    | mk result u =>
    rw [hinner] at h
    cases result with
    | error fault => cases h
    | ok q =>
      cases q with
      | found a₀ e₀ =>
        obtain ⟨-, -, rfl⟩ := exists_of_map_ok h
        rfl
      | notFound a₀ => exact h
      | failed a₀ fault => exact h

theorem exists_of_assembled_found {l : Loader} {inner : Client} {identity : Option Identity}
    {verifier : Option Verifier} {gate : Nat} {s : Session} {a : Text} {e : Effective}
    (h : ((l.assembled inner identity verifier gate).lookup network address s).1 = .ok (.found a e)) :
    ∃ e₀, (inner.resolver network address s).1 = .ok (.found a e₀) ∧ e = completed identity verifier e₀ :=
  exists_of_adjust_found (answer_of_assembled h)

/-- **A look-up fails with a fault of the configuration or of the system.** -/
theorem failsLookup_of_lookup {l : Loader} {made t : Session} {c : Client} (hmade : l.newClient made = (.ok c, t))
    {s : Session} {a : Text} {fault : Fault} (h : (c.lookup network address s).1 = .ok (.failed a fault)) :
    fault.failsLookup = true := by
  obtain ⟨overlay, inner, identity, verifier, -, hinner, -, -, rfl⟩ := exists_of_made (made_of_newClient hmade).1
  obtain ⟨r, hr, hadjust⟩ := exists_of_map_ok (answer_of_assembled h)
  rw [sourceClient_fst hinner] at hr
  cases r with
  | found b e => cases hadjust
  | notFound b => cases hadjust
  | failed b f =>
    cases hadjust
    rcases Reading.firstAnswer_split (Reading.answer overlay network address s.environment s.tree) address
      (l.readingsFor made s) with ⟨-, hnone⟩ | ⟨earlier, q, later, -, -, -, hq⟩
    · rw [hnone] at hr
      cases hr
    · rw [hq] at hr
      exact Reading.failsLookup_of_answer hr

/-- **What a client finds** was built from the first source that has something for the address, with the inline options
on top, and was completed by the defaults. -/
theorem exists_of_lookup_found {l : Loader} {made t : Session} {c : Client} (hmade : l.newClient made = (.ok c, t))
    {s : Session} {a : Text} {e : Effective} (h : (c.lookup network address s).1 = .ok (.found a e)) :
    ∃ overlay identity verifier, Settings.ofOptions l.options = .ok overlay ∧
      l.defaultIdentity.outcome made.environment made.tree = .ok identity ∧
      l.defaultVerifier made.environment made.tree = .ok verifier ∧
      ∃ earlier i f later block e₀, l.readingsFor made s = earlier ++ (i, .ok (some f)) :: later ∧
        (∀ r ∈ earlier, ∃ file, r.2 = .ok file ∧ ∀ g ∈ file, g.lookup address = none) ∧
        f.lookup address = some block ∧
        (Act.buildEffective (block.merge overlay) address network).outcome s.environment s.tree = .ok e₀ ∧
        e = completed identity verifier e₀ := by
  obtain ⟨overlay, inner, identity, verifier, hoverlay, hinner, hidentity, hverifier, rfl⟩ :=
    exists_of_made (made_of_newClient hmade).1
  obtain ⟨e₀, hfound, rfl⟩ := exists_of_assembled_found h
  rw [sourceClient_fst hinner] at hfound
  refine ⟨overlay, identity, verifier, hoverlay, hidentity, hverifier, ?_⟩
  rcases Reading.firstAnswer_split (Reading.answer overlay network address s.environment s.tree) address
    (l.readingsFor made s) with ⟨-, hnone⟩ | ⟨earlier, r, later, hsplit, hearlier, -, hr⟩
  · rw [hnone] at hfound
    cases hfound
  · rw [hr] at hfound
    obtain ⟨f, block, hf, hblock, hbuild⟩ := Reading.exists_of_answer_found hfound
    obtain ⟨i, x⟩ := r
    cases hf
    exact ⟨earlier, i, f, later, block, e₀, hsplit,
      fun q hq => Reading.isNotFound_answer_iff.1 (hearlier q hq), hblock, hbuild, rfl⟩

end Loader
end SshConfig
