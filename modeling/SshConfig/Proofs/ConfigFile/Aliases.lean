import SshConfig.Proofs.ConfigFile.Dump
import SshConfig.Proofs.Glob
/-!
# Aliases — the names that a source lists

The aliases of a source are its globs without wildcards, each once and in the order in which they first occur: of two
aliases, the first is the one whose first place among all globs is the earlier one (`pairwise_firsts`), which leaves no
room for a name twice.  Such a glob matches itself, so an entry that lists an alias is for it, and the search for the
alias ends there at the latest (`exists_findEntry`).
-/
namespace SshConfig
namespace ConfigFile

/-! ## First occurrences -/

theorem mem_firsts_iff {t : Text} : ∀ {ts seen : List Text}, t ∈ firsts seen ts ↔ t ∈ ts ∧ t ∉ seen
  | [], seen => by simp [firsts]
  | a :: ts, seen => by
    rw [firsts, List.mem_cons]
    by_cases ha : a ∈ seen
    · rw [if_pos (List.contains_iff_mem.2 ha), mem_firsts_iff]
      constructor
      · rintro ⟨hts, hseen⟩
        exact ⟨.inr hts, hseen⟩
      · rintro ⟨rfl | hts, hseen⟩
        · exact absurd ha hseen
        · exact ⟨hts, hseen⟩
    · rw [if_neg (mt List.contains_iff_mem.1 ha), List.mem_cons, mem_firsts_iff, List.mem_cons]
      by_cases ht : t = a
      · simp [ht, ha]
      · simp [ht]

theorem pairwise_idxOf_cons {a : Text} {ts us : List Text} (hne : ∀ u ∈ us, u ≠ a)
    (h : us.Pairwise fun s t => ts.idxOf s < ts.idxOf t) :
    us.Pairwise fun s t => (a :: ts).idxOf s < (a :: ts).idxOf t := by
  refine h.imp_of_mem fun {s t} hs ht hlt => ?_
  rw [List.idxOf_cons_ne _ (hne s hs).symm, List.idxOf_cons_ne _ (hne t ht).symm]
  exact Nat.succ_lt_succ hlt

/-- **First occurrences stand in their order**, also those of some of the texts among all of them. -/
theorem pairwise_firsts (keep : Text → Bool) : ∀ (ts seen : List Text),
    (firsts seen (ts.filter keep)).Pairwise fun s t => ts.idxOf s < ts.idxOf t
  | [], _ => .nil
  | a :: ts, seen => by
    by_cases hkeep : keep a = true
    · rw [List.filter_cons_of_pos hkeep, firsts]
      by_cases ha : a ∈ seen
      · rw [if_pos (List.contains_iff_mem.2 ha)]
        refine pairwise_idxOf_cons (fun u hu => ?_) (pairwise_firsts keep ts seen)
        rintro rfl
        exact (mem_firsts_iff.1 hu).2 ha
      · have hne : ∀ u ∈ firsts (a :: seen) (ts.filter keep), u ≠ a := by
          rintro u hu rfl
          exact (mem_firsts_iff.1 hu).2 List.mem_cons_self
        rw [if_neg (mt List.contains_iff_mem.1 ha)]
        refine .cons (fun u hu => ?_) (pairwise_idxOf_cons hne (pairwise_firsts keep ts (a :: seen)))
        rw [List.idxOf_cons_self, List.idxOf_cons_ne _ (hne u hu).symm]
        exact Nat.succ_pos _
    · rw [List.filter_cons_of_neg hkeep]
      refine pairwise_idxOf_cons (fun u hu => ?_) (pairwise_firsts keep ts seen)
      rintro rfl
      exact hkeep (List.mem_filter.1 (mem_firsts_iff.1 hu).1).2

/-! ## The aliases of a source -/

/-- The globs of a source's entries, in order. -/
def globs (f : ConfigFile) : List Text :=
  f.entries.flatMap (·.globs)

/-- **The entry is the first of the source that lists the glob**, and stands at this place. -/
structure ListsFirst (f : ConfigFile) (t : Text) (j : Nat) (e : HostEntry) : Prop where
  place : f.entries[j]? = some e
  lists : t ∈ e.globs
  first : ∀ k < j, ∀ d : HostEntry, f.entries[k]? = some d → t ∉ d.globs

theorem pairwise_aliases (f : ConfigFile) :
    f.aliases.Pairwise fun s t => f.globs.idxOf s < f.globs.idxOf t :=
  pairwise_firsts Glob.isLiteral f.globs []

theorem nodup_aliases (f : ConfigFile) : f.aliases.Nodup :=
  f.pairwise_aliases.imp fun {s t} (h : f.globs.idxOf s < f.globs.idxOf t) (he : s = t) =>
    absurd h (he ▸ Nat.lt_irrefl _)

theorem mem_aliases_iff {f : ConfigFile} {t : Text} : t ∈ f.aliases ↔ t ∈ f.globs ∧ Glob.isLiteral t = true := by
  unfold aliases
  rw [mem_firsts_iff, List.mem_filter]
  exact and_iff_left (List.not_mem_nil)

/-- **An entry is for every alias that it lists.** -/
theorem accepts_of_mem_globs {e : HostEntry} {t : Text} (hliteral : Glob.isLiteral t = true) (ht : t ∈ e.globs) :
    e.accepts t = true :=
  Glob.anyAccepts_iff.2 ⟨t, ht, (Glob.cuts_iff_of_isLiteral hliteral).2 rfl⟩

/-- **An address is looked up no further than an entry that is for it.** -/
theorem exists_findEntry {f : ConfigFile} {address : Text} {j : Nat} {e : HostEntry} (he : f.entries[j]? = some e)
    (haccepts : e.accepts address = true) :
    ∃ i d, i ≤ j ∧ f.entries[i]? = some d ∧ f.findEntry address = some d ∧
      f.lookup address = some (f.globals.merge d.settings) := by
  cases hfind : f.findEntry address with
  | none => exact absurd haccepts (List.find?_eq_none.1 hfind e (List.mem_of_getElem? he))
  | some d =>
    obtain ⟨-, i, hi, hd, hbefore⟩ := List.find?_eq_some_iff_getElem.1 hfind
    refine ⟨i, d, ?_, List.getElem?_eq_some_iff.2 ⟨hi, hd⟩, rfl, ?_⟩
    · by_contra hlt
      obtain ⟨hj, hej⟩ := List.getElem?_eq_some_iff.1 he
      have hno := hbefore j (Nat.lt_of_not_le hlt)
      rw [hej, haccepts] at hno
      cases hno
    · unfold lookup
      rw [hfind]

theorem exists_listsFirst {f : ConfigFile} {t : Text} (ht : t ∈ f.globs) : ∃ j e, f.ListsFirst t j e := by
  obtain ⟨listing, hmem, hlists⟩ := List.mem_flatMap.1 ht
  cases hfind : f.entries.find? (fun e => t ∈ e.globs) with
  | none =>
    have hnone := List.find?_eq_none.1 hfind listing hmem
    exact absurd (decide_eq_true hlists) hnone
  | some e =>
    obtain ⟨he, j, hj, hej, hbefore⟩ := List.find?_eq_some_iff_getElem.1 hfind
    refine ⟨j, e, List.getElem?_eq_some_iff.2 ⟨hj, hej⟩, of_decide_eq_true he, fun k hk d hd => ?_⟩
    obtain ⟨_, rfl⟩ := List.getElem?_eq_some_iff.1 hd
    simpa using hbefore k hk

/-- **What a source lists can be looked up.**  The aliases of a source that is read from a text are its globs without
wildcards, each once, in the order of their first occurrence.  The entry found for an alias is the first that lists it
or one before that, so that there are settings for it.  No glob of the source is blank or holds a blank. -/
theorem aliases_found {source text : Text} {f : ConfigFile} (h : ofText source text = .ok f) :
    f.aliases.Nodup ∧
    (∀ t, t ∈ f.aliases ↔ (∃ e ∈ f.entries, t ∈ e.globs) ∧ '*' ∉ t ∧ '?' ∉ t) ∧
    f.aliases.Pairwise (fun s t => f.globs.idxOf s < f.globs.idxOf t) ∧
    (∀ t ∈ f.aliases, ∃ j listing, f.ListsFirst t j listing ∧
      ∃ i e, i ≤ j ∧ f.entries[i]? = some e ∧ f.findEntry t = some e ∧
        f.lookup t = some (f.globals.merge e.settings)) ∧
    ∀ e ∈ f.entries, ∀ g ∈ e.globs, Text.trim g ≠ [] ∧ ∀ c ∈ g, Text.isBlank c = false := by
  refine ⟨f.nodup_aliases, fun t => ?_, f.pairwise_aliases, fun t ht => ?_, fun e he g hg => ?_⟩
  · rw [mem_aliases_iff, globs, List.mem_flatMap]
    simp [Glob.isLiteral]
  · obtain ⟨hlisted, hliteral⟩ := mem_aliases_iff.1 ht
    obtain ⟨j, listing, hfirst⟩ := exists_listsFirst hlisted
    exact ⟨j, listing, hfirst, exists_findEntry hfirst.place (accepts_of_mem_globs hliteral hfirst.lists)⟩
  · obtain ⟨hne, hword⟩ := ((isPlain_of_ofText h).entries_plain e he).globs_words g hg
    rw [Text.trim_of_no_blank hword]
    exact ⟨hne, hword⟩

/-- Two sections list `ba`, and one before both is for it by a wildcard. -/
theorem aliases_found_wildcard :
    ∃ f, ofText "sample" "User u\nHost b* c\nHost a ba c\n Port 2\nHost ba ?\n" = .ok f ∧
      f.aliases = ["c".toList, "a".toList, "ba".toList] ∧
      (∃ j listing, f.ListsFirst "ba" j listing ∧
        ∃ i e, i ≤ j ∧ f.entries[i]? = some e ∧ f.findEntry "ba" = some e ∧
          f.lookup "ba" = some (f.globals.merge e.settings)) ∧
      (f.findEntry "ba").map (·.lineno) = some 2 := by
  have haliases : (ofText "sample" "User u\nHost b* c\nHost a ba c\n Port 2\nHost ba ?\n").toOption.map
      (fun f => (f.aliases, (f.findEntry "ba").map (·.lineno))) =
        some (["c".toList, "a".toList, "ba".toList], some 2) := by
    decide +kernel
  cases h : ofText "sample" "User u\nHost b* c\nHost a ba c\n Port 2\nHost ba ?\n" with
  | error r =>
    rw [h] at haliases
    cases haliases
  | ok f =>
    rw [h] at haliases
    obtain ⟨hnames, hline⟩ := Prod.mk.inj (Option.some.inj haliases)
    obtain ⟨-, -, -, hfound, -⟩ := aliases_found h
    exact ⟨f, rfl, hnames, hfound "ba" (by rw [hnames]; decide), hline⟩

end ConfigFile
end SshConfig
