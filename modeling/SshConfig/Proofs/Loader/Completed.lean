import SshConfig.Proofs.Identity
import SshConfig.Proofs.Loader.Agree
import SshConfig.Proofs.Loader.Calls
/-!
# Completed — what a client adds to its sources

A client answers what the chain of its sources answers.  What is found there has the default identity put after its own
and the default verifier where it has none, and any other answer is passed on (`client_completes_chain`).  The keys of
the default identity are those that can be opened of the given candidates and then of the default ones.
-/
namespace SshConfig

open Candidate (keyIn?)

/-! ## The identities -/

namespace Act

variable {env : Environment} {tree : FileTree}

/-- The identity of candidates that need not have a key. -/
def identityOf (env : Environment) (tree : FileTree) (paths : List Text) : Except Fault (Option Identity) :=
  match (loadIdentity none paths).outcome env tree with
  | .ok i => .ok (some i)
  | .error (.config (.noIdentity _ _ _)) => .ok none
  | .error fault => .error fault

/-- **The identity has the keys of its candidates**, and there is none exactly if they have no key. -/
theorem keys_of_identityOf {paths : List Text} {identity : Option Identity}
    (h : identityOf env tree paths = .ok identity) :
    identity.toList.flatMap (·.keys) = paths.filterMap (keyIn? none env tree) ∧
      (identity = none ↔ paths.filterMap (keyIn? none env tree) = []) := by
  unfold identityOf at h
  split at h
  · rename_i i hload
    cases h
    obtain ⟨-, hkeys, hne⟩ := outcome_loadIdentity_ok_iff.1 hload
    exact ⟨(List.append_nil _).trans hkeys, iff_of_false (Option.some_ne_none i) (hkeys ▸ hne)⟩
  · rename_i hload
    cases h
    obtain ⟨-, hnone, -⟩ := outcome_loadIdentity_noIdentity_iff.1 hload
    have hnil := List.filterMap_eq_nil_iff.2 hnone
    exact ⟨hnil.symm, iff_of_true rfl hnil⟩
  · cases h

/-- The candidates that settings name. -/
def identityPaths (s : Settings) : List Text :=
  (s.get? .identityFile).toList.filter (!·.isEmpty)

/-- **The identities that settings choose have the key of the file that they name**, if it can be opened. -/
theorem keys_of_chooseIdentities {s : Settings} {address : Text} {is : List Identity}
    (h : (chooseIdentities s address).outcome env tree = .ok is) :
    is.flatMap (·.keys) = (identityPaths s).filterMap (keyIn? none env tree) ∧ is.length ≤ 1 := by
  unfold identityPaths
  rcases hpath : s.get? .identityFile with _ | _ | ⟨c, path⟩
  · unfold chooseIdentities at h
    rw [hpath] at h
    cases h
    exact ⟨rfl, Nat.zero_le 1⟩
  · unfold chooseIdentities at h
    rw [hpath] at h
    cases h
    exact ⟨rfl, Nat.zero_le 1⟩
  · have hidentity : (chooseIdentities s address).outcome env tree =
        (identityOf env tree [c :: path]).map Option.toList := by
      rw [outcome_chooseIdentities hpath (List.cons_ne_nil c path)]
      unfold identityOf
      cases (loadIdentity none [c :: path]).outcome env tree with
      | ok i => rfl
      | error fault =>
        cases fault with
        | config e => cases e <;> rfl
        | _ => rfl
    rw [hidentity] at h
    obtain ⟨identity, hi, rfl⟩ := exists_of_map_ok h
    refine ⟨(keys_of_identityOf hi).1, ?_⟩
    cases identity <;> simp

end Act

namespace Loader

open Act (IsReading identityOf identityPaths)

variable {l : Loader} {env : Environment} {tree : FileTree}

theorem outcome_defaultIdentity (l : Loader) (env : Environment) (tree : FileTree) :
    l.defaultIdentity.outcome env tree = if l.identity ++ l.defaults.identity = [] then .ok none
      else identityOf env tree (l.identity ++ l.defaults.identity) := by
  unfold defaultIdentity identityOf
  cases l.identity ++ l.defaults.identity with
  | nil => rfl
  | cons path paths =>
    rw [if_neg (List.cons_ne_nil path paths)]
    refine (Act.outcome_rescue (IsReading.map (IsReading.loadIdentity none (path :: paths)) some)
      isReading_unoffered env tree).trans ?_
    rw [Act.outcome_map]
    cases (Act.loadIdentity none (path :: paths)).outcome env tree with
    | ok i => rfl
    | error fault =>
      cases fault with
      | config e => cases e <;> rfl
      | _ => rfl

/-- **The default identity has the keys of the given candidates and then of the default ones.** -/
theorem keys_of_defaultIdentity {identity : Option Identity} (h : l.defaultIdentity.outcome env tree = .ok identity) :
    identity.toList.flatMap (·.keys) =
        l.identity.filterMap (keyIn? none env tree) ++ l.defaults.identity.filterMap (keyIn? none env tree) ∧
      (identity = none ↔
        l.identity.filterMap (keyIn? none env tree) ++ l.defaults.identity.filterMap (keyIn? none env tree) = []) := by
  rw [← List.filterMap_append]
  rw [outcome_defaultIdentity] at h
  split at h
  · rename_i hnil
    cases h
    rw [hnil]
    exact ⟨rfl, iff_of_true rfl rfl⟩
  · exact Act.keys_of_identityOf h

/-! ## Look-ups -/

theorem Client.surroundings_replay {c d : Client}
    (hc : ∀ network address, (c.lookup network address).Leaves Session.surroundings)
    (hd : ∀ network address, (d.lookup network address).Leaves Session.surroundings) :
    ∀ (happenings : List Happening) {s t : Session}, s.surroundings = t.surroundings →
      (c.replay happenings s).surroundings = (d.replay happenings t).surroundings
  | [], _, _, h => h
  | .lookup network address :: rest, s, t, h =>
    surroundings_replay hc hd rest ((hc network address s).trans (h.trans (hd network address t).symm))
  | .change tree :: rest, s, t, h =>
    surroundings_replay hc hd rest (s := { s with tree := tree }) (t := { t with tree := tree })
      (congrArg (fun p => (p.1, tree)) h)

theorem sourceClient_run (l : Loader) (overlay : Settings) (s : Session) :
    ((if l.onDemand then l.lazyClient overlay else l.eagerClient overlay : Act Client) s).1 =
      l.sourceClient overlay s.environment s.tree := by
  unfold sourceClient
  cases l.onDemand with
  | true => rfl
  | false =>
    rw [if_neg Bool.false_ne_true, if_neg Bool.false_ne_true, (isReading_eagerClient l overlay).run_fst,
      outcome_eagerClient]

section
variable {overlay : Settings} {made : Session} {inner : Client}
  (h : l.sourceClient overlay made.environment made.tree = .ok inner) {network address : Text}
include h

theorem sourceClient_of_surroundings {s t : Session} (hst : s.surroundings = t.surroundings) :
    (inner.resolver network address s).1 = (inner.resolver network address t).1 := by
  obtain ⟨henv, htree⟩ := Prod.mk.inj hst
  rw [sourceClient_fst h, sourceClient_fst h]
  unfold readingsFor
  rw [henv, htree]

/-- **What the sources find offers the key that the settings name**, and no other. -/
theorem keys_of_sourceClient {s : Session} {a : Text} {e : Effective}
    (hfound : (inner.resolver network address s).1 = .ok (.found a e)) :
    e.identities.flatMap (·.keys) = (identityPaths e.settings).filterMap (keyIn? none s.environment s.tree) ∧
      e.identities.length ≤ 1 := by
  rw [sourceClient_fst h] at hfound
  rcases Reading.firstAnswer_split (Reading.answer overlay network address s.environment s.tree) address
    (l.readingsFor made s) with ⟨-, hnone⟩ | ⟨earlier, r, later, -, -, -, hr⟩
  · rw [hnone] at hfound
    cases hfound
  · rw [hr] at hfound
    obtain ⟨f, block, -, -, hbuild⟩ := Reading.exists_of_answer_found hfound
    obtain ⟨-, hidentities, hsettings, -⟩ := Act.parts_of_buildEffective _ _ hbuild
    rw [hsettings]
    exact Act.keys_of_chooseIdentities hidentities

end

theorem clientKeys_eq (e : Effective) : e.clientKeys = (e.identities.flatMap (·.keys)).map (·.2) :=
  (List.map_flatMap ..).symm

/-- **A client adds to what its sources find**, and changes nothing else.  In every session its look-up ends as that of
the bare chain, with the default identity after the identities that were found and the default verifier where there was
none, unless a hook ends it when it is told what was found.  So the keys of a connection are those that the settings
name, then the given ones, then the default ones.  Nothing adds up over look-ups: after any of them, and any changes of
the files, the next one adds as much as the first. -/
theorem client_completes_chain {l : Loader} {s₀ s₁ : Session} {c : Client} (hmade : l.newClient s₀ = (.ok c, s₁)) :
    ∃ overlay bare identity verifier, Settings.ofOptions l.options = .ok overlay ∧
      ((if l.onDemand then l.lazyClient overlay else l.eagerClient overlay : Act Client) s₀).1 = .ok bare ∧
      (l.defaultIdentity s₀).1 = .ok identity ∧
      identity.toList.flatMap (·.keys) = l.identity.filterMap (keyIn? none s₀.environment s₀.tree) ++
        l.defaults.identity.filterMap (keyIn? none s₀.environment s₀.tree) ∧
      (identity = none ↔ ∀ path ∈ l.identity ++ l.defaults.identity, keyIn? none s₀.environment s₀.tree path = none) ∧
      (Act.loadVerifier true [l.defaults.userKnownHosts, l.defaults.systemKnownHosts] s₀).1 = .ok verifier ∧
      (∀ network address s,
        (∀ r, (c.lookup network address s).1 = .ok r →
          (bare.lookup network address s).1.map (Resolution.adjust (completed identity verifier)) = .ok r) ∧
        ((∀ r, (bare.lookup network address s).1 = .ok r → r.isFound = true →
            ∀ trace, l.trace = some trace → trace.Returns) →
          (c.lookup network address s).1 =
            (bare.lookup network address s).1.map (Resolution.adjust (completed identity verifier))) ∧
        ∀ a e, (c.lookup network address s).1 = .ok (.found a e) → e.clientKeys =
          ((identityPaths e.settings).filterMap (keyIn? none s.environment s.tree) ++
            (l.identity.filterMap (keyIn? none s₀.environment s₀.tree) ++
              l.defaults.identity.filterMap (keyIn? none s₀.environment s₀.tree))).map (·.2)) ∧
      ((∀ trace, l.trace = some trace → trace.Returns ∧ trace.Leaves Session.surroundings) →
        ∀ happenings network address, (c.lookup network address (c.replay happenings s₁)).1 =
          (bare.lookup network address (bare.replay happenings s₁)).1.map
            (Resolution.adjust (completed identity verifier))) := by
  obtain ⟨overlay, bare, identity, verifier, hoverlay, hbare, hidentity, hverifier, rfl⟩ :=
    exists_of_made (made_of_newClient hmade).1
  obtain ⟨file, hfile⟩ := fileConfig_sourceClient hbare
  obtain ⟨hkeys, hnone⟩ := keys_of_defaultIdentity hidentity
  have htold : ∀ s, ∃ f, (bare.fileConfig s).1 = .ok f := fun s => ⟨file s, by rw [hfile]⟩
  have hleaves : ∀ network address, (bare.lookup network address).Leaves Session.surroundings :=
    sourceClient_leaves (fun _ _ _ _ => rfl) hbare
  refine ⟨overlay, bare, identity, verifier, hoverlay, (sourceClient_run l overlay s₀).trans hbare,
    ((isReading_defaultIdentity l).run_fst s₀).trans hidentity, hkeys, ?_,
    ((IsReading.loadVerifier true _).run_fst s₀).trans hverifier,
    fun network address s => ⟨fun r => answer_of_assembled,
      fun htrace => assembled_fst rfl htold htrace identity verifier _, fun a e hfound => ?_⟩,
    fun htrace happenings network address => ?_⟩
  · rw [hnone, ← List.filterMap_append, List.filterMap_eq_nil_iff]
  · obtain ⟨b, hb, rfl⟩ := exists_of_assembled_found hfound
    have hall : (completed identity verifier b).identities.flatMap (·.keys) =
        b.identities.flatMap (·.keys) ++ identity.toList.flatMap (·.keys) := List.flatMap_append ..
    rw [clientKeys_eq, hall, hkeys, (keys_of_sourceClient hbare hb).1]
    rfl
  · have hclient : ∀ network address, ((l.assembled bare identity verifier s₀.gates.length).lookup network
        address).Leaves Session.surroundings := fun network address s =>
      (view_assembled (fun _ _ => rfl) (fun trace ht => (htrace trace ht).2) (fun s => by rw [hfile]) identity verifier
        _ network address s).trans (hleaves network address s)
    have hsame := Client.surroundings_replay hclient hleaves happenings (rfl : s₁.surroundings = s₁.surroundings)
    exact assembled_fst (sourceClient_of_surroundings hbare hsame) htold
      (fun _ _ _ trace ht => (htrace trace ht).1) identity verifier _

/-- Keys that the settings name, that are given, and that are there by default. -/
def offeringSession : Session where
  environment := sampleEnvironment (.telling [])
  tree := ⟨[(⟨false, ["user"]⟩, FileTree.file (Text.encode "Host db\n IdentityFile own\n")),
    (⟨false, ["own"]⟩, FileTree.file (Text.encode
      (Act.openKeyText "MC4CAQAwBQYDK2VwBCIEIJ1hsZ3v/VpguoRK9JLsLMREScVpezJpGXA7rAMcrn9g"))),
    (⟨false, ["given"]⟩, FileTree.file (Text.encode
      (Act.openKeyText "MC4CAQAwBQYDK2VwBCIEIEzNCJso/5banbbDRuwRTg9bijGfNaumJNqM9u1PuKb7"))),
    (⟨false, ["spare"]⟩, FileTree.file (Text.encode
      (Act.openKeyText "MC4CAQAwBQYDK2VwBCIEIMWqjfQ/n4N77bdELzHct7Fm04U1B28JS4XOOi4LRFj3")))]⟩

def offeringLoader : Loader where
  defaults := ⟨"user", "system", "known", "known2", ["missing", "spare"]⟩
  identity := ["given"]
  trace := some Trace.noting
  onDemand := true

theorem client_completes_chain_twice : ∃ c s₁ a e, offeringLoader.newClient offeringSession = (.ok c, s₁) ∧
    (c.lookup "tcp" "db" (c.replay [.lookup "tcp" "db"] s₁)).1 = .ok (.found a e) ∧
    e.clientKeys = [⟨"own"⟩, ⟨"given"⟩, ⟨"spare"⟩] := by
  obtain ⟨c, s₁, hmade⟩ := Act.exists_of_run_isOk (a := offeringLoader.newClient) (s := offeringSession)
    (by decide +kernel)
  obtain ⟨overlay, bare, identity, verifier, -, -, -, -, -, -, hlookup, -⟩ := client_completes_chain hmade
  have hfind : ((offeringLoader.newClient offeringSession).1.toOption.bind fun c =>
      (c.find "tcp" "db" (c.replay [.lookup "tcp" "db"] (offeringLoader.newClient offeringSession).2)).map fun find =>
        (identityPaths find.1.settings).filterMap (keyIn? none
          (c.replay [.lookup "tcp" "db"] (offeringLoader.newClient offeringSession).2).environment
          (c.replay [.lookup "tcp" "db"] (offeringLoader.newClient offeringSession).2).tree)) =
      some [("own".toList, ⟨"own"⟩)] := by
    decide +kernel
  rw [hmade] at hfind
  simp only [Except.toOption, Option.bind_some] at hfind
  obtain ⟨⟨e, t⟩, hfind, hkeys⟩ := Option.map_eq_some_iff.1 hfind
  obtain ⟨a, hfound⟩ := Client.exists_of_find hfind
  have hanswer := congrArg Prod.fst hfound
  refine ⟨c, s₁, a, e, hmade, hanswer, ?_⟩
  rw [(hlookup "tcp" "db" _).2.2 a e hanswer, hkeys]
  decide +kernel

end Loader

end SshConfig
