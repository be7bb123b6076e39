import SshConfig.Proofs.ConfigFile.Delimiter
import SshConfig.Proofs.ConfigFile.Dump
import SshConfig.Proofs.ConfigFile.LineEnds
import SshConfig.Proofs.PathList
/-!
# TrustLists — lists of trust files in a source

A list of quoted paths is a text that a line can give (`PathList.Lists.isGiven`), and a source has it as it stands
there: an option line with a list, after whole lines that are read, sets the option in the block that these lines leave
open (`ofText_append_line`).  What is written of the source is read with the same lists again, so the paths are the same
before and after (`trust_lists_survive`).
-/
namespace SshConfig

/-! ## Lines of a text -/

namespace Text

theorem lines_append_feed (s t : Text) : lines (s ++ '\n' :: t) = pieces (· == '\n') s ++ lines t := by
  obtain ⟨p, ps, hp⟩ := List.exists_cons_of_ne_nil (pieces_ne_nil (· == '\n') t)
  unfold lines
  rw [endedPieces_eq, endedPieces_eq, pieces_append_sep (by rfl), hp,
    List.getLast?_append_of_ne_nil _ (List.cons_ne_nil p ps), List.dropLast_append_of_ne_nil (List.cons_ne_nil p ps)]
  split <;> rfl

theorem lines_of_not_mem {t : Text} (h : '\n' ∉ t) (hne : t ≠ []) : lines t = [t] := by
  have hpieces : pieces (· == '\n') t = [t] := pieces_of_none fun c hc => by
    simpa using fun e : c = '\n' => h (e ▸ hc)
  unfold lines
  rw [endedPieces_eq, hpieces, if_neg (by simpa using hne)]

/-- The text is made of whole lines: a line feed ends the last. -/
def EndsLine (t : Text) : Prop :=
  t = [] ∨ ∃ s, t = s ++ ['\n']

/-- **What follows whole lines is a line of its own.** -/
theorem EndsLine.lines_append {t : Text} (ht : EndsLine t) {l : Text} (hl : '\n' ∉ l) (hne : l ≠ []) :
    lines (t ++ l) = lines t ++ [l] := by
  rcases ht with rfl | ⟨s, rfl⟩
  · rw [List.nil_append, lines_of_not_mem hl hne]
    rfl
  · have hwhole : lines (s ++ ['\n']) = pieces (· == '\n') s :=
      (lines_append_feed s []).trans (List.append_nil _)
    rw [List.append_assoc, List.singleton_append, lines_append_feed, lines_of_not_mem hl hne, hwhole]

end Text

/-- **A list of quoted paths is a text that a line can give.** -/
theorem PathList.Lists.isGiven {paths : List Text} {value : Text} (h : Lists paths value) : IsGiven value := by
  obtain ⟨⟨c, hc, hfirst⟩, ⟨d, hd, hlast⟩, -⟩ := h.exists_marks
  have hblank : ∀ c, c = '"' ∨ c = '\'' → Text.isBlank c = false := by
    rintro c (rfl | rfl) <;> rfl
  refine ⟨Text.trim_eq_self_iff.2 ⟨fun e he => ?_, fun e he => ?_⟩, ?_, fun hequals => ?_⟩
  · exact Option.mem_unique hc he ▸ hblank c hfirst
  · exact Option.mem_unique hd he ▸ hblank d hlast
  · rintro rfl
    cases hc
  · have heq : c = '=' := Option.mem_unique hc hequals
    rcases hfirst with rfl | rfl <;> cases heq

/-! ## The last block -/

/-- The options that list trust files. -/
def Keyword.trustLists : List Keyword :=
  [globalKnownHostsFile, userKnownHostsFile]

/-- The text of an option that lists trust files. -/
def Settings.trustList? (s : Settings) : Keyword → Option Text
  | .globalKnownHostsFile => s.get? .globalKnownHostsFile
  | .userKnownHostsFile => s.get? .userKnownHostsFile
  | _ => none

/-- **A list of trust files is given as any text**, can be written, and is there once it is set. -/
theorem Keyword.exists_trustList {k : Keyword} (hk : k ∈ trustLists) (value : Text) :
    ∃ v : k.Value, k.kind.decode (.str value) = .ok v ∧ k.kind.isWritable v = true ∧
      ∀ s : Settings, s.get? k = some v → s.trustList? k = some value := by
  simp only [trustLists, List.mem_cons, List.not_mem_nil, or_false] at hk
  rcases hk with rfl | rfl
  · exact ⟨value, rfl, rfl, fun _ h => h⟩
  · exact ⟨value, rfl, rfl, fun _ h => h⟩

namespace ConfigFile

/-- The block that the lines of a source leave open: that of the last entry, or the global one. -/
def lastBlock (f : ConfigFile) : Settings :=
  (f.entries.getLast?.map HostEntry.settings).getD f.globals

/-- The files that an option of the last block lists. -/
def pathsOf (f : ConfigFile) (k : Keyword) : Option (Except QuoteFault (List Text)) :=
  (f.lastBlock.trustList? k).map PathList.split

/-- **The source lists the files, and so does every source that is read from what is written of it.** -/
def KeepsPaths (f : ConfigFile) (k : Keyword) (paths : List Text) : Prop :=
  f.pathsOf k = some (.ok paths) ∧
    ∀ text, f.dump? = some text → ∀ source, ∃ g, ofText source text = .ok g ∧ g.pathsOf k = some (.ok paths)

theorem lastBlock_file_lay (p : Progress) (own : Settings) (source : Text) :
    ((p.lay own).file source).lastBlock = (p.file source).lastBlock.merge own := by
  obtain ⟨globals, recent⟩ := p
  cases recent <;> simp [Progress.lay, Progress.file, lastBlock]

theorem Progress.length_entries_lay (p : Progress) (own : Settings) (source : Text) :
    ((p.lay own).file source).entries.length = (p.file source).entries.length := by
  obtain ⟨globals, recent⟩ := p
  cases recent <;> simp [lay, file]

theorem lastBlock_congr {f g : ConfigFile} (hglobals : g.globals = f.globals)
    (hentries : g.entries.map HostEntry.content = f.entries.map HostEntry.content) : g.lastBlock = f.lastBlock := by
  have hlast : g.entries.getLast?.map HostEntry.content = f.entries.getLast?.map HostEntry.content := by
    rw [← List.getLast?_map, ← List.getLast?_map, hentries]
  have hsettings : ∀ o : Option HostEntry, o.map HostEntry.settings = (o.map HostEntry.content).map Prod.snd := fun o =>
    (Option.map_map Prod.snd HostEntry.content o).symm
  unfold lastBlock
  rw [hsettings, hsettings, hlast, hglobals]

theorem isWritable_file_lay {p : Progress} {own : Settings} {source : Text} (hp : (p.file source).isWritable = true)
    (hown : own.isWritable = true) : ((p.lay own).file source).isWritable = true := by
  have hmerge : ∀ {s : Settings}, s.isWritable = true → (s.merge own).isWritable = true := by
    intro s hs
    refine Settings.isWritable_iff.2 fun k v hv => ?_
    rw [Settings.get?_merge, Option.or_eq_some_iff] at hv
    rcases hv with hv | ⟨-, hv⟩
    · exact Settings.isWritable_iff.1 hown k v hv
    · exact Settings.isWritable_iff.1 hs k v hv
  obtain ⟨globals, recent⟩ := p
  obtain ⟨hglobals, hentries⟩ := isWritable_iff.1 hp
  cases recent with
  | nil => exact isWritable_iff.2 ⟨hmerge hglobals, hentries⟩
  | cons e es =>
    refine isWritable_iff.2 ⟨hglobals, fun x hx => ?_⟩
    rcases List.mem_cons.1 (List.mem_reverse.1 hx) with rfl | hx
    · exact hmerge (hentries e (List.mem_reverse.2 List.mem_cons_self))
    · exact hentries x (List.mem_reverse.2 (List.mem_cons_of_mem e hx))

/-! ## One more line -/

/-- **What a source gets from one more line.**  After whole lines that are read as the source, an option line that is
indented as the last block asks sets its option there. -/
theorem ofText_append_line {source start : Text} {f : ConfigFile} (hstart : Text.EndsLine start)
    (hf : ofText source start = .ok f) {indent : Text} (hindent : IsGap indent) (hblock : indent = [] ↔ f.entries = [])
    (k : Keyword) {value : Text} (hvalue : IsGiven value) (hline : '\n' ∉ value) {pre : Text} (hpre : Delimits pre)
    {v : k.Value} (hv : k.kind.decode (.str value) = .ok v) :
    ∃ g, ofText source (start ++ (indent ++ (k.name ++ (pre ++ value)))) = .ok g ∧
      g.lastBlock = f.lastBlock.merge (Settings.empty.set k v) ∧ g.entries.length = f.entries.length ∧
      (f.isWritable = true → k.kind.isWritable v = true → g.isWritable = true) := by
  obtain ⟨p, hp, rfl⟩ := ofLines_ok_iff.1 hf
  have hkey : IsKey k.name := by
    refine ⟨⟨?_, fun c hc => (k.name_plain c hc).2⟩, fun hc => ?_⟩
    · exact List.ne_nil_of_length_pos (Nat.lt_of_lt_of_le (by decide) k.length_name)
    · exact absurd (k.name_plain '=' hc).1 (by decide)
  have hsharp : k.name.head? ≠ some '#' := by
    obtain ⟨c, name, hname, hc⟩ := k.exists_name_eq
    simpa [hname] using hc
  have hopened : (!indent.isEmpty) = p.opened := by
    have hrecent : indent.isEmpty = p.recent.isEmpty := by
      rw [Bool.eq_iff_iff, List.isEmpty_iff, List.isEmpty_iff, hblock]
      exact List.reverse_eq_nil_iff
    rw [hrecent, Progress.opened]
  have hset : Settings.empty.apply k.name (.str value) = .ok (Settings.empty.set k v) :=
    Settings.apply_ok_iff.2 (.inr ⟨k, v, k.ofText?_name, hv, rfl⟩)
  have hlines : Text.lines (start ++ (indent ++ (k.name ++ (pre ++ value)))) =
      Text.lines start ++ [indent ++ (k.name ++ (pre ++ value))] := by
    refine hstart.lines_append (fun hmem => ?_) (by simp [hkey.word.1])
    simp only [List.mem_append] at hmem
    rcases hmem with hmem | hmem | hmem | hmem
    · exact absurd (hindent '\n' hmem) (by decide)
    · exact absurd (k.name_plain '\n' hmem).2 (by decide)
    · exact hpre.not_mem_feed hmem
    · exact hline hmem
  have hstep := Progress.step_delimited hindent hkey k.name_ne_host hvalue hpre p (1 + (Text.lines start).length)
  rw [if_neg hsharp, if_pos hopened, hset] at hstep
  refine ⟨(p.lay (Settings.empty.set k v)).file source, ofLines_ok_iff.2 ⟨_, ?_, rfl⟩, lastBlock_file_lay _ _ _,
    p.length_entries_lay _ _, fun hf hv => isWritable_file_lay hf ?_⟩
  · rw [hlines, (Progress.readsOn_lines source).append, hp]
    simp only [Except.bind, Progress.readOn, hstep, Except.map]
  · refine Settings.isWritable_iff.2 fun j w hw => ?_
    by_cases hj : k = j
    · subst hj
      rw [Settings.get?_set_self, Option.some.injEq] at hw
      exact hw ▸ hv
    · rw [Settings.get?_set_of_ne _ _ hj] at hw
      cases hw

/-! ## Lists of trust files -/

/-- **What a source that is read lists is listed again in what is written of it.** -/
theorem keepsPaths_of_ofText {source text : Text} {f : ConfigFile} (hf : ofText source text = .ok f) {k : Keyword}
    {paths : List Text} (hpaths : f.pathsOf k = some (.ok paths)) : f.KeepsPaths k paths := by
  refine ⟨hpaths, fun written hdump other => ?_⟩
  have hw : f.isWritable = true := by
    by_contra hlong
    rw [dump?, if_neg hlong] at hdump
    cases hdump
  obtain ⟨g, hg, hglobals, hentries⟩ := ofText_text (isPlain_of_ofText hf) hw other
  rw [dump?, if_pos hw, Option.some.injEq] at hdump
  refine ⟨g, hdump ▸ hg, ?_⟩
  rw [pathsOf, lastBlock_congr hglobals hentries]
  exact hpaths

theorem dump?_ne_none_iff {f : ConfigFile} : f.dump? ≠ none ↔ f.isWritable = true := by
  unfold dump?
  split <;> simp_all

/-- **Lists of trust files survive.**  A value that lists paths, none of which holds a line feed, is split into these
paths.  So is what an option of trust files is set to by a line with that value, whatever its delimiter: if the line is
all of a source, and if it comes after whole lines that are read, in the block that they leave open.  The same holds
once the source has been written and read again. -/
theorem trust_lists_survive {paths : List Text} {value : Text} (hlists : PathList.Lists paths value)
    (hpaths : ∀ path ∈ paths, '\n' ∉ path) :
    PathList.split value = .ok paths ∧
    ∀ k ∈ Keyword.trustLists, ∀ pre, Delimits pre → ∀ source,
      (∃ f, ofText source (k.name ++ (pre ++ value)) = .ok f ∧ f.entries = [] ∧ f.dump? ≠ none ∧
        f.KeepsPaths k paths) ∧
      ∀ start f indent, Text.EndsLine start → ofText source start = .ok f → IsGap indent →
        (indent = [] ↔ f.entries = []) →
        ∃ g, ofText source (start ++ (indent ++ (k.name ++ (pre ++ value)))) = .ok g ∧
          (f.dump? ≠ none → g.dump? ≠ none) ∧ g.KeepsPaths k paths := by
  have hsplit := PathList.split_of_lists hlists
  have hline := hlists.exists_marks.2.2 hpaths
  refine ⟨hsplit, fun k hk pre hpre source => ?_⟩
  obtain ⟨v, hv, hwritable, hset⟩ := Keyword.exists_trustList hk value
  have hmore : ∀ start f indent, Text.EndsLine start → ofText source start = .ok f → IsGap indent →
      (indent = [] ↔ f.entries = []) →
      ∃ g, ofText source (start ++ (indent ++ (k.name ++ (pre ++ value)))) = .ok g ∧
        g.entries.length = f.entries.length ∧ (f.dump? ≠ none → g.dump? ≠ none) ∧ g.KeepsPaths k paths := by
    intro start f indent hstart hf hindent hblock
    obtain ⟨g, hg, hlast, hlength, hw⟩ :=
      ofText_append_line hstart hf hindent hblock k hlists.isGiven hline hpre hv
    have hvalue : g.lastBlock.trustList? k = some value := by
      refine hset _ ?_
      rw [hlast, Settings.get?_merge, Settings.get?_set_self, Option.some_or]
    refine ⟨g, hg, hlength, fun h => dump?_ne_none_iff.2 (hw (dump?_ne_none_iff.1 h) hwritable),
      keepsPaths_of_ofText hg ?_⟩
    rw [pathsOf, hvalue, Option.map_some, hsplit]
  constructor
  · obtain ⟨f, hf, hlength, hdump, hkeeps⟩ := hmore [] ⟨Settings.empty, [], source⟩ [] (.inl rfl) rfl (by decide) (by simp)
    exact ⟨f, hf, List.length_eq_zero_iff.1 hlength, hdump (dump?_ne_none_iff.2 (by rfl)), hkeeps⟩
  · intro start f indent hstart hf hindent hblock
    obtain ⟨g, hg, -, hdump, hkeeps⟩ := hmore start f indent hstart hf hindent hblock
    exact ⟨g, hg, hdump, hkeeps⟩

/-- An empty path, one with a blank and one with marks and a backslash, on the only line and in an entry. -/
theorem trust_lists_survive_marks :
    PathList.split "''  \"/a b\" \"\\\"c'\\\\\"" = .ok [[], ("/a b" : Text), ("\"c'\\" : Text)] ∧
      (∃ f, ofText "s" "UserKnownHostsFile=''  \"/a b\" \"\\\"c'\\\\\"" = .ok f ∧ f.entries = [] ∧ f.dump? ≠ none ∧
        f.KeepsPaths .userKnownHostsFile [[], ("/a b" : Text), ("\"c'\\" : Text)]) ∧
      ∃ g, ofText "s" "Host x\n\tGlobalKnownHostsFile ''  \"/a b\" \"\\\"c'\\\\\"" = .ok g ∧
        g.KeepsPaths .globalKnownHostsFile [[], ("/a b" : Text), ("\"c'\\" : Text)] := by
  have hlists : PathList.Lists [[], ("/a b" : Text), ("\"c'\\" : Text)] "''  \"/a b\" \"\\\"c'\\\\\"" :=
    .cons (b := "  ") (.single (by decide)) (by decide) (by decide)
      (.cons (b := " ") .double (by decide) (by decide) (.one .double))
  obtain ⟨hsplit, hsurvive⟩ := trust_lists_survive hlists (by decide)
  refine ⟨hsplit, (hsurvive .userKnownHostsFile (by decide) ['='] (.equals (b := []) (c := []) (by decide) (by decide))
    "s").1, ?_⟩
  obtain ⟨g, hg, -, hkeeps⟩ := (hsurvive .globalKnownHostsFile (by decide) [' '] (.gap (by decide) (by decide)) "s").2
    "Host x\n" ⟨Settings.empty, [⟨["x"], Settings.empty, 1⟩], "s"⟩ "\t" (.inr ⟨"Host x", rfl⟩) (by rfl) (by decide)
    (by simp)
  exact ⟨g, hg, hkeeps⟩

end ConfigFile
end SshConfig
