import SshConfig.Proofs.Loader.Lookup
/-!
# Combined — the combined source beside the chain of its parts

The combined source is what a client tells of its files, and the chain of the parts is what answers.  An address has the
same first entry in both (`findEntry_combineAll`).  The global settings differ, as those of the last part lie on top in
the combined source while an entry lies on those of its own part in the chain; so the two agree on what the entry sets
and may differ in the rest (`combined_agrees_with_chain`).
-/
namespace SshConfig
namespace ConfigFile

theorem combine_assoc (f g h : ConfigFile) : (f.combine g).combine h = f.combine (g.combine h) := by
  simp [combine, Settings.merge_assoc]

theorem entries_foldl_combine : ∀ (fs : List ConfigFile) (f : ConfigFile),
    (fs.foldl combine f).entries = (f :: fs).flatMap (·.entries)
  | [], f => by simp
  | g :: fs, f => by
    rw [List.foldl_cons, entries_foldl_combine fs (f.combine g)]
    simp [combine]

theorem entries_combineAll {fs : List ConfigFile} {f : ConfigFile} (h : combineAll fs = some f) :
    f.entries = fs.flatMap (·.entries) := by
  cases fs with
  | nil => cases h
  | cons g fs =>
    cases h
    exact entries_foldl_combine fs g

/-- **The first entry of the combined source is the first one that a part has.** -/
theorem findEntry_combineAll {fs : List ConfigFile} {f : ConfigFile} (h : combineAll fs = some f) (address : Text) :
    f.findEntry address = fs.findSome? (·.findEntry address) := by
  unfold findEntry
  rw [entries_combineAll h, List.find?_flatMap]

theorem lookup_of_entries {f : ConfigFile} (h : f.entries ≠ []) (address : Text) :
    f.lookup address = (f.findEntry address).map fun e => f.globals.merge e.settings := by
  have hfallback : f.hasFallback = false := by simpa [hasFallback] using h
  unfold lookup
  cases f.findEntry address with
  | some e => rfl
  | none => simp [hfallback]

theorem exists_combineAll {fs : List ConfigFile} (h : fs ≠ []) : ∃ f, combineAll fs = some f := by
  cases fs with
  | nil => exact absurd rfl h
  | cons f fs => exact ⟨_, rfl⟩

theorem lookup_combineAll {fs : List ConfigFile} {f : ConfigFile} (h : combineAll fs = some f) (hne : fs ≠ [])
    (hentries : ∀ g ∈ fs, g.entries ≠ []) (address : Text) :
    f.lookup address = (f.findEntry address).map fun e => f.globals.merge e.settings := by
  refine lookup_of_entries ?_ address
  obtain ⟨g, hg⟩ := List.exists_mem_of_ne_nil fs hne
  obtain ⟨e, he⟩ := List.exists_mem_of_ne_nil g.entries (hentries g hg)
  rw [entries_combineAll h]
  exact List.ne_nil_of_mem (List.mem_flatMap.2 ⟨g, hg, he⟩)

/-- **The entry of the combined source is the one of the first part that has something.** -/
theorem exists_part_of_findEntry {fs : List ConfigFile} {f : ConfigFile} (h : combineAll fs = some f)
    (hentries : ∀ g ∈ fs, g.entries ≠ []) {address : Text} {e : HostEntry} (he : f.findEntry address = some e) :
    ∃ earlier part later, fs = earlier ++ part :: later ∧ (∀ g ∈ earlier, g.lookup address = none) ∧
      part.findEntry address = some e ∧ part.lookup address = some (part.globals.merge e.settings) := by
  have hlookup : ∀ g ∈ fs, g.lookup address = (g.findEntry address).map fun e => g.globals.merge e.settings :=
    fun g hg => lookup_of_entries (hentries g hg) address
  obtain ⟨earlier, part, later, rfl, hpart, hearlier⟩ :=
    List.findSome?_eq_some_iff.1 ((findEntry_combineAll h address).symm.trans he)
  refine ⟨earlier, part, later, rfl, fun g hg => ?_, hpart, ?_⟩
  · rw [hlookup g (by simp [hg]), hearlier g hg]
    rfl
  · rw [hlookup part (by simp), hpart]
    rfl

end ConfigFile

namespace Resolver

variable {overlay : Settings} {network address : Text} {env : Environment} {tree : FileTree}

theorem isNotFound_chain_iff {files : List ConfigFile} :
    isNotFound ((chain (files.map fun f => ofFile f overlay) network address).outcome env tree) = true ↔
      ∀ f ∈ files, f.lookup address = none := by
  constructor
  · intro h
    by_contra hsome
    have hfirst : files.findSome? (·.lookup address) ≠ none := fun hnone =>
      hsome (List.findSome?_eq_none_iff.1 hnone)
    obtain ⟨block, hblock⟩ := Option.ne_none_iff_exists'.1 hfirst
    obtain ⟨earlier, f, later, rfl, hf, hearlier⟩ := List.findSome?_eq_some_iff.1 hblock
    have hleft : f.lookup address ≠ none := by simp [hf]
    rw [outcome_chain_first hearlier hleft] at h
    exact hleft (isNotFound_ofFile_iff.1 h)
  · intro h
    rw [outcome_chain_none env tree h]
    rfl

/-- **What the first part that has something gives is the answer of the chain**, and what is found has its settings. -/
theorem chain_first_run {earlier later : List ConfigFile} {f : ConfigFile} {block : Settings}
    (hearlier : ∀ g ∈ earlier, g.lookup address = none) (hf : f.lookup address = some block) (s : Session) :
    (chain ((earlier ++ f :: later).map fun f => ofFile f Settings.empty) network address s).1 =
        (answer address (Act.buildEffective block address network) s).1 ∧
      ∀ a c, (chain ((earlier ++ f :: later).map fun f => ofFile f Settings.empty) network address s).1 =
        .ok (.found a c) → c.settings = block := by
  have hbuild : (Act.buildEffective block address network).IsReading := .buildEffective _ _ _
  have hanswer : (answer address (Act.buildEffective block address network) s).1 =
      (chain ((earlier ++ f :: later).map fun f => ofFile f Settings.empty) network address s).1 := by
    rw [(isReading_answer address hbuild).run_fst s, outcome_answer _ _ address hbuild,
      (isReading_chain network address (isReading_ofFiles _)).run_fst s, outcome_chain_some _ _ hearlier hf,
      Settings.merge_empty]
  refine ⟨hanswer.symm, fun a c hfound => ?_⟩
  rw [← hanswer, (isReading_answer address hbuild).run_fst s, outcome_answer _ _ address hbuild] at hfound
  cases hrun : (Act.buildEffective block address network).outcome s.environment s.tree with
  | error fault =>
    rw [hrun] at hfound
    by_cases hfails : fault.failsLookup = true <;> simp [hfails] at hfound
  | ok built =>
    rw [hrun] at hfound
    cases hfound
    exact Act.settings_of_buildEffective hrun

end Resolver

open ConfigFile (combineAll) in
/-- **The combined source and the chain of its parts agree.**  Combining is associative, and an address has in the
combined source the first entry that a part has for it.  Where every part has entries, the chain finds nothing exactly if
the combined source has nothing; otherwise it answers with that entry on the global settings of its own part, and on
what the entry sets both agree. -/
theorem combined_agrees_with_chain :
    (∀ f g h : ConfigFile, (f.combine g).combine h = f.combine (g.combine h)) ∧
    ∀ files : List ConfigFile, files ≠ [] → ∃ combined, combineAll files = some combined ∧ ∀ address,
      combined.findEntry address = files.findSome? (·.findEntry address) ∧
      ((∀ f ∈ files, f.entries ≠ []) → ∀ network s,
        (isNotFound (Resolver.chain (files.map fun f => Resolver.ofFile f Settings.empty) network address s).1 = true ↔
          combined.lookup address = none) ∧
        ∀ seen, combined.lookup address = some seen → ∃ earlier f later e block,
          files = earlier ++ f :: later ∧ (∀ g ∈ earlier, g.lookup address = none) ∧
          f.lookup address = some block ∧ f.findEntry address = some e ∧ combined.findEntry address = some e ∧
          block = f.globals.merge e.settings ∧ seen = combined.globals.merge e.settings ∧
          (Resolver.chain (files.map fun f => Resolver.ofFile f Settings.empty) network address s).1 =
            (Resolver.answer address (Act.buildEffective block address network) s).1 ∧
          (∀ a c, (Resolver.chain (files.map fun f => Resolver.ofFile f Settings.empty) network address s).1 =
            .ok (.found a c) → c.settings = block) ∧
          ∀ k v, e.settings.get? k = some v → block.get? k = some v ∧ seen.get? k = some v) := by
  refine ⟨ConfigFile.combine_assoc, fun files hne => ?_⟩
  obtain ⟨combined, hcombined⟩ := ConfigFile.exists_combineAll hne
  refine ⟨combined, hcombined, fun address => ?_⟩
  have hfirst := ConfigFile.findEntry_combineAll hcombined address
  refine ⟨hfirst, fun hentries network s => ?_⟩
  have hseen := ConfigFile.lookup_combineAll hcombined hne hentries address
  constructor
  · have hreading : (Resolver.chain (files.map fun f => Resolver.ofFile f Settings.empty) network address).IsReading :=
      Resolver.isReading_chain network address (Resolver.isReading_ofFiles files)
    rw [hreading.run_fst s, Resolver.isNotFound_chain_iff, hseen, Option.map_eq_none_iff, hfirst,
      List.findSome?_eq_none_iff]
    refine forall₂_congr fun f hf => ?_
    rw [ConfigFile.lookup_of_entries (hentries f hf), Option.map_eq_none_iff]
  · intro seen h
    rw [hseen] at h
    obtain ⟨e, he, rfl⟩ := Option.map_eq_some_iff.1 h
    obtain ⟨earlier, f, later, rfl, hnone, hf, hblock⟩ := ConfigFile.exists_part_of_findEntry hcombined hentries he
    obtain ⟨hanswer, hsettings⟩ := Resolver.chain_first_run hnone hblock s
    refine ⟨earlier, f, later, e, _, rfl, hnone, hblock, hf, he, rfl, rfl, hanswer, hsettings, fun k v hv => ?_⟩
    rw [Settings.get?_merge, Settings.get?_merge, hv]
    exact ⟨rfl, rfl⟩

/-- Two parts with one host each, whose global settings differ. -/
def ownPart : ConfigFile :=
  ⟨Settings.empty.set .port ⟨1, by decide⟩, [⟨["other"], Settings.empty.set .user "bob".toList, 2⟩], "own"⟩

def userPart : ConfigFile :=
  ⟨Settings.empty.set .port ⟨2, by decide⟩, [⟨["db*"], Settings.empty.set .user "alice".toList, 2⟩], "user"⟩

theorem combined_agrees_with_chain_parts : ∃ combined, ConfigFile.combineAll [ownPart, userPart] = some combined ∧
    ∀ s, isNotFound (Resolver.chain ([ownPart, userPart].map fun f => Resolver.ofFile f Settings.empty) "tcp" "nobody"
        s).1 = true ∧
      ∃ block seen, combined.lookup "other" = some seen ∧
        (Resolver.chain ([ownPart, userPart].map fun f => Resolver.ofFile f Settings.empty) "tcp" "other" s).1 =
          (Resolver.answer "other" (Act.buildEffective block "other" "tcp") s).1 ∧
        block.get? .user = some "bob".toList ∧ seen.get? .user = some "bob".toList ∧
        block.get? .port = some (⟨1, by decide⟩ : Port) ∧ seen.get? .port = some (⟨2, by decide⟩ : Port) := by
  obtain ⟨combined, hcombined, haddress⟩ := combined_agrees_with_chain.2 [ownPart, userPart] (List.cons_ne_nil _ _)
  cases hcombined
  have hentries : ∀ f ∈ [ownPart, userPart], f.entries ≠ [] := by
    intro f hf
    rcases List.mem_pair.1 hf with rfl | rfl <;> exact List.cons_ne_nil _ _
  refine ⟨_, rfl, fun s => ⟨((haddress "nobody").2 hentries "tcp" s).1.2 (by rfl), ?_⟩⟩
  obtain ⟨-, hfound⟩ := (haddress "other").2 hentries "tcp" s
  obtain ⟨earlier, f, later, e, block, hsplit, hearlier, hblock, he, -, rfl, hseen, hanswer, -, -⟩ := hfound _ rfl
  have hown : ownPart.findEntry "other" = some ⟨["other"], Settings.empty.set .user "bob".toList, 2⟩ := by rfl
  -- the first part has something for the address, so it is the one that answers
  cases earlier with
  | cons g earlier =>
    obtain ⟨rfl, -⟩ := List.cons.inj hsplit
    cases hearlier ownPart List.mem_cons_self
  | nil =>
    obtain ⟨rfl, -⟩ := List.cons.inj hsplit
    cases hown.symm.trans he
    exact ⟨_, _, rfl, hanswer, rfl, rfl, rfl, rfl⟩

end SshConfig
