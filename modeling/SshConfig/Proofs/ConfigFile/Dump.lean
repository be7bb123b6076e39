import SshConfig.Proofs.ReadsOn
import SshConfig.Proofs.Settings.Written
/-!
# Dump — a source as text, and read again

A source that a configuration can give (`ConfigFile.IsPlain`) is one that its own text gives back: the same global
settings and the same entries in order, so the same answer for every address, and the same text again.  Every source
that is read is of this kind (`isPlain_of_ofText`), and so is every combination of such sources (`isPlain_combine`).
-/
namespace SshConfig

/-! ## Sources that a configuration can give -/

/-- **An entry that a configuration can give**: it has globs, these are words, and its settings are plain. -/
structure HostEntry.IsPlain (e : HostEntry) : Prop where
  globs_ne_nil : e.globs ≠ []
  globs_words : ∀ g ∈ e.globs, Text.IsWord g
  settings_plain : e.settings.IsPlain

/-- **A source that a configuration can give.** -/
structure ConfigFile.IsPlain (f : ConfigFile) : Prop where
  globals_plain : f.globals.IsPlain
  entries_plain : ∀ e ∈ f.entries, e.IsPlain

/-- What an entry says, wherever it stands. -/
def HostEntry.content (e : HostEntry) : List Text × Settings :=
  (e.globs, e.settings)

/-- The duration that a value of a kind is. -/
def Kind.duration? : (k : Kind) → k.Value → Option Duration
  | .duration, d => some d
  | _, _ => none

theorem Kind.isWritable_of_duration {k : Kind} {v : k.Value} {d : Duration} (h : k.duration? v = some d) :
    k.isWritable v = Numeral.isWritable d.seconds := by
  cases k <;> cases h
  rfl

theorem Kind.exists_duration {k : Kind} {v : k.Value} (hv : k.IsPlain v) (h : ¬ k.isWritable v = true) :
    ∃ d, k.duration? v = some d ∧ digitLimit < (Text.ofNat d.seconds).length := by
  cases k with
  | duration =>
    refine ⟨v, rfl, ?_⟩
    rw [isWritable, Numeral.isWritable_iff_length] at h
    omega
  | count => exact absurd hv h
  | port => exact absurd rfl h
  | flag => exact absurd rfl h
  | text => exact absurd rfl h

theorem Kind.isWritable_of_naturalOf {t : Text} {n : Nat} (h : naturalOf (.str t) = .ok n) :
    Numeral.isWritable n = true := by
  unfold naturalOf integerOf at h
  simp only [Json.display] at h
  cases hi : Numeral.integer (Text.trim t) with
  | error fault =>
    rw [hi] at h
    cases fault <;> cases h
  | ok i =>
    rw [hi] at h
    simp only at h
    split at h
    · cases h
    · cases h
      have hnat : ((i.toNat : Nat) : Int) = i := Int.toNat_of_nonneg (by omega)
      exact Numeral.integer_lt (hnat.symm ▸ hi)

/-- **A value that is read from a line is one that a configuration can give.** -/
theorem Kind.isPlain_of_decode {k : Kind} {t : Text} {v : k.Value} (htrim : Text.trim t = t) (hline : '\n' ∉ t)
    (h : k.decode (.str t) = .ok v) : k.IsPlain v := by
  cases k with
  | count => exact isWritable_of_naturalOf h
  | text =>
    cases h
    exact ⟨htrim, hline⟩
  | port => trivial
  | flag => trivial
  | duration => trivial

namespace Settings

theorem isPlain_empty : empty.IsPlain := fun _ _ h => nomatch h

theorem isPlain_merge {s t : Settings} (hs : s.IsPlain) (ht : t.IsPlain) : (s.merge t).IsPlain := by
  intro k v hv
  rw [get?_merge, Option.or_eq_some_iff] at hv
  rcases hv with hv | ⟨-, hv⟩
  · exact ht k v hv
  · exact hs k v hv

theorem isPlain_of_applyLine {missing : Complaint} {t : Text} {own : Settings} (hline : '\n' ∉ t)
    (h : empty.applyLine missing t = .ok own) : own.IsPlain := by
  obtain ⟨key, value, hsplit, ⟨-, rfl⟩ | ⟨k, v, -, hv, rfl⟩⟩ := applyLine_ok_iff.1 h
  · exact isPlain_empty
  · obtain ⟨htrim, hmem⟩ := splitLine_value hsplit
    intro j w hw
    by_cases hj : k = j
    · subst hj
      rw [get?_set_self, Option.some.injEq] at hw
      exact hw ▸ Kind.isPlain_of_decode htrim (fun hc => hline (hmem _ hc)) hv
    · rw [get?_set_of_ne _ _ hj] at hw
      cases hw

end Settings

namespace ConfigFile

open Line (isSignificant isIndented isHost hostTokens)

/-- What has been read so far is plain. -/
def Progress.IsPlain (p : Progress) : Prop :=
  p.globals.IsPlain ∧ ∀ e ∈ p.recent, e.IsPlain

theorem Progress.isPlain_lay {p : Progress} (hp : p.IsPlain) {s : Settings} (hs : s.IsPlain) : (p.lay s).IsPlain := by
  obtain ⟨g, recent⟩ := p
  cases recent with
  | nil => exact ⟨Settings.isPlain_merge hp.1 hs, hp.2⟩
  | cons e es =>
    have he := hp.2 e List.mem_cons_self
    refine ⟨hp.1, fun x hx => ?_⟩
    rcases List.mem_cons.1 hx with rfl | hx
    · exact ⟨he.globs_ne_nil, he.globs_words, Settings.isPlain_merge he.settings_plain hs⟩
    · exact hp.2 x (List.mem_cons_of_mem e hx)

/-- **A line keeps what has been read plain.** -/
theorem Progress.isPlain_step {p q : Progress} {n : Nat} {raw : Text} (hp : p.IsPlain) (hraw : '\n' ∉ raw)
    (h : p.step n (Line.ofText (Line.strip raw)) = .ok q) : q.IsPlain := by
  obtain ⟨-, rfl⟩ | ⟨-, htokens, rfl⟩ | ⟨-, -, -, own, hown, rfl⟩ := step_ok_iff.1 h
  · exact hp
  · refine ⟨hp.1, fun e he => ?_⟩
    rcases List.mem_cons.1 he with rfl | he
    · exact ⟨htokens, fun g hg => Text.isWord_of_mem_words hg, Settings.isPlain_empty⟩
    · exact hp.2 e he
  · exact isPlain_lay hp (Settings.isPlain_of_applyLine (fun hc => hraw (Text.mem_of_mem_trim hc)) hown)

theorem Progress.isPlain_readOn (source : Text) : ∀ {lines : List Text} {p q : Progress} {n : Nat},
    (∀ l ∈ lines, '\n' ∉ l) → p.IsPlain → p.readOn source n lines = .ok q → q.IsPlain
  | [], p, q, n, _, hp, h => by
    cases h
    exact hp
  | raw :: rest, p, q, n, hlines, hp, h => by
    obtain ⟨next, hstep, h⟩ := readOn_cons_ok_iff.1 h
    have hnext := isPlain_step hp (hlines raw List.mem_cons_self) hstep
    exact isPlain_readOn source (fun l hl => hlines l (List.mem_cons_of_mem raw hl)) hnext h

/-- **Every source that is read from a text is plain.** -/
theorem isPlain_of_ofText {source text : Text} {f : ConfigFile} (h : ofText source text = .ok f) : f.IsPlain := by
  obtain ⟨q, hrun, rfl⟩ := ofLines_ok_iff.1 h
  have hstart : ({} : Progress).IsPlain := ⟨Settings.isPlain_empty, fun _ h => nomatch h⟩
  have hq := Progress.isPlain_readOn source (fun _ hl => Text.not_mem_of_mem_lines hl) hstart hrun
  exact ⟨hq.1, fun e he => hq.2 e (List.mem_reverse.1 he)⟩

theorem isPlain_combine {f g : ConfigFile} (hf : f.IsPlain) (hg : g.IsPlain) : (f.combine g).IsPlain := by
  refine ⟨Settings.isPlain_merge hf.globals_plain hg.globals_plain, fun e he => ?_⟩
  rcases List.mem_append.1 he with he | he
  · exact hf.entries_plain e he
  · exact hg.entries_plain e he

/-! ## Reading the lines again -/

theorem title_eq {e : HostEntry} (h : e.globs ≠ []) : "Host " ++ e.title = Text.join [' '] ("Host" :: e.globs) := by
  obtain ⟨g, gs, hg⟩ := List.exists_cons_of_ne_nil h
  unfold HostEntry.title
  rw [hg, Text.join_cons_cons]
  rfl

theorem trim_title {e : HostEntry} (he : e.IsPlain) : Text.trim ("Host " ++ e.title) = "Host " ++ e.title := by
  have hwords : ∀ w ∈ "Host".toList :: e.globs, Text.IsWord w := by
    intro w hw
    rcases List.mem_cons.1 hw with rfl | hw
    · have hblank : "Host".toList.all (!Text.isBlank ·) = true := by decide
      exact ⟨by decide, by simpa using hblank⟩
    · exact he.globs_words w hw
  rw [title_eq he.globs_ne_nil]
  exact Text.trim_join hwords

theorem hostPatterns?_title {e : HostEntry} (he : e.IsPlain) :
    Line.hostPatterns? ("Host " ++ e.title) = some e.title := by
  have htitle : Text.trimStart e.title = e.title :=
    Text.trimStart_eq_self_iff.2 (Text.head?_join he.globs_words)
  have hword : (Text.headWord ("Host " ++ e.title)).1 = "Host" := rfl
  have hrest : (Text.headWord ("Host " ++ e.title)).2 = Text.trimStart e.title := rfl
  have hlower : Text.lower "Host" = Line.hostWord := by decide
  unfold Line.hostPatterns?
  simp only [hword, hlower, hrest, htitle, if_true]

/-- **The line of an entry's globs opens an entry with these globs.** -/
theorem Progress.step_title {p : Progress} {n : Nat} {e : HostEntry} (he : e.IsPlain) :
    p.step n (Line.ofText (Line.strip ("Host " ++ e.title))) =
      .ok ⟨p.globals, ⟨e.globs, Settings.empty, n⟩ :: p.recent⟩ := by
  have hsig : isSignificant ("Host " ++ e.title) = true := by
    unfold isSignificant
    rw [trim_title he]
    rfl
  have hhost : isHost ("Host " ++ e.title) = true := by
    unfold isHost
    rw [hsig, trim_title he, hostPatterns?_title he]
    rfl
  have htokens : hostTokens ("Host " ++ e.title) = e.globs := by
    unfold hostTokens
    rw [trim_title he, hostPatterns?_title he]
    exact Text.words_join he.globs_words
  refine step_ok_iff.2 (.inr (.inl ⟨hhost, ?_, ?_⟩))
  · rw [htokens]
    exact he.globs_ne_nil
  · rw [htokens]

theorem Progress.readOn_entryLines (source : Text) {e : HostEntry} (he : e.IsPlain)
    (hw : e.settings.isWritable = true) (p : Progress) (n : Nat) :
    p.readOn source n (entryLines e) = .ok ⟨p.globals, ⟨e.globs, e.settings, n⟩ :: p.recent⟩ := by
  have hbody := readOn_lines source he.settings_plain hw Keyword.all
    ⟨p.globals, ⟨e.globs, Settings.empty, n⟩ :: p.recent⟩ (n + 1)
  rw [Settings.keep_all] at hbody
  simp only [lay, Settings.empty_merge] at hbody
  rw [entryLines, readOn, step_title he]
  exact hbody

theorem Progress.step_nil (p : Progress) (n : Nat) : p.step n (Line.ofText (Line.strip [])) = .ok p :=
  step_ok_iff.2 (.inl ⟨rfl, rfl⟩)

/-- **The lines of entries are read as the entries**, in order and with their contents. -/
theorem Progress.readOn_linesAfter (source : Text) : ∀ {es : List HostEntry}, (∀ e ∈ es, e.IsPlain) →
    (∀ e ∈ es, e.settings.isWritable = true) → ∀ (written : Bool) (p : Progress) (n : Nat),
      ∃ read : List HostEntry, read.map HostEntry.content = es.map HostEntry.content ∧
        p.readOn source n (linesAfter written es) = .ok ⟨p.globals, read.reverse ++ p.recent⟩
  | [], _, _, _, p, n => ⟨[], rfl, rfl⟩
  | e :: es, hes, hw, written, p, n => by
    have hentry := readOn_entryLines source (hes e List.mem_cons_self) (hw e List.mem_cons_self) p
    have hrest := readOn_linesAfter source (fun x hx => hes x (List.mem_cons_of_mem e hx))
      (fun x hx => hw x (List.mem_cons_of_mem e hx)) true
    cases written with
    | true =>
      obtain ⟨read, hread, hrun⟩ := hrest ⟨p.globals, ⟨e.globs, e.settings, n + 1⟩ :: p.recent⟩
        (n + 1 + (entryLines e).length)
      refine ⟨⟨e.globs, e.settings, n + 1⟩ :: read, ?_, ?_⟩
      · rw [List.map_cons, List.map_cons, hread]
        rfl
      · have hlines : linesAfter true (e :: es) = [] :: (entryLines e ++ linesAfter true es) := rfl
        rw [hlines, readOn, step_nil]
        simp only
        rw [(readsOn_lines source).append, hentry (n + 1)]
        simpa [Except.bind] using hrun
    | false =>
      obtain ⟨read, hread, hrun⟩ := hrest ⟨p.globals, ⟨e.globs, e.settings, n⟩ :: p.recent⟩ (n + (entryLines e).length)
      refine ⟨⟨e.globs, e.settings, n⟩ :: read, ?_, ?_⟩
      · rw [List.map_cons, List.map_cons, hread]
        rfl
      · have hlines : linesAfter false (e :: es) = entryLines e ++ linesAfter true es := rfl
        rw [hlines, (readsOn_lines source).append, hentry n]
        simpa [Except.bind] using hrun

theorem isWritable_iff {f : ConfigFile} : f.isWritable = true ↔
    f.globals.isWritable = true ∧ ∀ e ∈ f.entries, e.settings.isWritable = true := by
  unfold isWritable
  rw [Bool.and_eq_true, List.all_eq_true]

theorem not_mem_title {e : HostEntry} (he : e.IsPlain) : '\n' ∉ e.title := by
  intro hc
  rcases Text.eq_or_mem_of_mem_join hc with hc | ⟨w, hw, hcw⟩
  · exact absurd hc (by decide)
  · exact absurd ((he.globs_words w hw).2 _ hcw) (by decide)

theorem not_mem_entryLines {e : HostEntry} (he : e.IsPlain) : ∀ l ∈ entryLines e, '\n' ∉ l := by
  intro l hl
  rcases List.mem_cons.1 hl with rfl | hl
  · intro hc
    rcases List.mem_append.1 hc with hc | hc
    · exact absurd hc (by decide)
    · exact not_mem_title he hc
  · obtain ⟨t, ht, rfl⟩ := List.mem_map.1 hl
    intro hc
    rcases List.mem_append.1 hc with hc | hc
    · exact absurd hc (by decide)
    · exact Settings.not_mem_lines he.settings_plain t ht hc

theorem not_mem_linesAfter : ∀ {es : List HostEntry}, (∀ e ∈ es, e.IsPlain) → ∀ written : Bool,
    ∀ l ∈ linesAfter written es, '\n' ∉ l
  | [], _, _, l, hl => by cases hl
  | e :: es, hes, written, l, hl => by
    rw [linesAfter, List.mem_append, List.mem_append] at hl
    rcases hl with (hl | hl) | hl
    · split at hl
      · rw [List.mem_singleton.1 hl]
        exact List.not_mem_nil
      · cases hl
    · exact not_mem_entryLines (hes e List.mem_cons_self) l hl
    · exact not_mem_linesAfter (fun x hx => hes x (List.mem_cons_of_mem e hx)) true l hl

/-- **The lines of a plain source are the lines of its text.** -/
theorem lines_text {f : ConfigFile} (hf : f.IsPlain) : Text.lines f.text = f.lines := by
  refine Text.lines_flatMap_end fun l hl => ?_
  rcases List.mem_append.1 hl with hl | hl
  · exact Settings.not_mem_lines hf.globals_plain l hl
  · exact not_mem_linesAfter hf.entries_plain _ l hl

/-- **The text of a plain source is read as the source**, wherever its entries stood before. -/
theorem ofText_text {f : ConfigFile} (hf : f.IsPlain) (hw : f.isWritable = true) (source : Text) :
    ∃ g, ofText source f.text = .ok g ∧ g.globals = f.globals ∧
      g.entries.map HostEntry.content = f.entries.map HostEntry.content := by
  obtain ⟨hglobals, hentries⟩ := isWritable_iff.1 hw
  have hfirst := Progress.readOn_lines source hf.globals_plain hglobals Keyword.all {} 1
  obtain ⟨read, hread, hrest⟩ := Progress.readOn_linesAfter source hf.entries_plain hentries
    (!f.globals.lines.isEmpty) ⟨f.globals, []⟩ (1 + f.globals.lines.length)
  rw [Settings.keep_all] at hfirst
  simp only [Progress.lay, Settings.empty_merge] at hfirst
  -- nothing is indented before the first entry
  have hindent : ∀ ls : List Text, ls.map (indent ({} : Progress).opened ++ ·) = ls := fun ls => List.map_id ls
  rw [hindent] at hfirst
  refine ⟨⟨f.globals, read, source⟩, ?_, rfl, hread⟩
  unfold ofText ofLines
  rw [lines_text hf, lines, (Progress.readsOn_lines source).append]
  unfold Settings.lines at hrest ⊢
  rw [hfirst]
  simp only [Except.bind, hrest, Except.map, Progress.file, List.append_nil, List.reverse_reverse]

/-! ## What a source says depends on its contents -/

theorem entryLines_congr {e e' : HostEntry} (h : e.content = e'.content) : entryLines e = entryLines e' := by
  obtain ⟨hglobs, hsettings⟩ := Prod.mk.inj h
  unfold entryLines HostEntry.title
  rw [hglobs, hsettings]

theorem linesAfter_congr : ∀ {es es' : List HostEntry}, es.map HostEntry.content = es'.map HostEntry.content →
    ∀ written : Bool, linesAfter written es = linesAfter written es'
  | [], [], _, _ => rfl
  | e :: es, e' :: es', h, written => by
    obtain ⟨hhead, htail⟩ := List.cons.inj h
    rw [linesAfter, linesAfter, entryLines_congr hhead, linesAfter_congr htail]

theorem find?_congr (address : Text) : ∀ {es es' : List HostEntry},
    es.map HostEntry.content = es'.map HostEntry.content →
      (es.find? (·.accepts address)).map HostEntry.settings = (es'.find? (·.accepts address)).map HostEntry.settings
  | [], [], _ => rfl
  | e :: es, e' :: es', h => by
    obtain ⟨hhead, htail⟩ := List.cons.inj h
    obtain ⟨hglobs, hsettings⟩ := Prod.mk.inj hhead
    have haccepts : e.accepts address = e'.accepts address := by
      unfold HostEntry.accepts
      rw [hglobs]
    rw [List.find?_cons, List.find?_cons, ← haccepts]
    cases e.accepts address with
    | true => exact congrArg some hsettings
    | false => exact find?_congr address htail

section
variable {f g : ConfigFile} (hglobals : g.globals = f.globals)
  (hentries : g.entries.map HostEntry.content = f.entries.map HostEntry.content)
include hglobals hentries

theorem lookup_congr (address : Text) : g.lookup address = f.lookup address := by
  have hfind := find?_congr address hentries
  have hempty : g.entries.isEmpty = f.entries.isEmpty := by
    rw [← List.isEmpty_map (f := HostEntry.content), hentries, List.isEmpty_map]
  unfold lookup findEntry hasFallback
  rw [hempty, hglobals]
  cases hg : g.entries.find? (·.accepts address) with
  | none =>
    cases hf : f.entries.find? (·.accepts address) with
    | none => rfl
    | some e => simp [hg, hf] at hfind
  | some e' =>
    cases hf : f.entries.find? (·.accepts address) with
    | none => simp [hg, hf] at hfind
    | some e =>
      have hsettings : e'.settings = e.settings := by simpa [hg, hf] using hfind
      simp only [hsettings]

theorem dump?_congr : g.dump? = f.dump? := by
  have hall : g.entries.all (·.settings.isWritable) = f.entries.all (·.settings.isWritable) := by
    have h := congrArg (List.all · fun c : List Text × Settings => c.2.isWritable) hentries
    rw [List.all_map, List.all_map] at h
    exact h
  unfold dump? isWritable text lines
  rw [hall, hglobals, linesAfter_congr hentries]

end

/-! ## The round trip -/

/-- The blocks of settings of a source: the global one and those of the entries. -/
def blocks (f : ConfigFile) : List Settings :=
  f.globals :: f.entries.map HostEntry.settings

theorem dump?_eq_none_iff {f : ConfigFile} (hf : f.IsPlain) : f.dump? = none ↔
    ∃ s ∈ f.blocks, ∃ k v d, s.get? k = some v ∧ k.kind.duration? v = some d ∧
      digitLimit < (Text.ofNat d.seconds).length := by
  have hblocks : ∀ s ∈ f.blocks, s.IsPlain := by
    intro s hs
    rcases List.mem_cons.1 hs with rfl | hs
    · exact hf.globals_plain
    · obtain ⟨e, he, rfl⟩ := List.mem_map.1 hs
      exact (hf.entries_plain e he).settings_plain
  have hnone : f.dump? = none ↔ ¬ ∀ s ∈ f.blocks, s.isWritable = true := by
    unfold dump? blocks
    rw [List.forall_mem_cons, List.forall_mem_map, ← isWritable_iff]
    split <;> simp_all
  rw [hnone]
  constructor
  · intro h
    obtain ⟨s, hs, hlong⟩ : ∃ s ∈ f.blocks, ¬ s.isWritable = true := by simpa using h
    rw [Settings.isWritable_iff] at hlong
    obtain ⟨k, v, hv, hlong⟩ : ∃ k v, s.get? k = some v ∧ ¬ k.kind.isWritable v = true := by simpa using hlong
    exact ⟨s, hs, k, v, Kind.exists_duration (hblocks s hs k v hv) hlong |>.imp fun d hd => ⟨hv, hd⟩⟩
  · rintro ⟨s, hs, k, v, d, hv, hd, hlong⟩ h
    have hw := Settings.isWritable_iff.1 (h s hs) k v hv
    rw [Kind.isWritable_of_duration hd, Numeral.isWritable_iff_length] at hw
    omega

/-- **A source that is read is written so that it is read again as it was.**  Sources that are read are plain, and so
are their combinations; a plain source is written unless one of its durations has too many digits; and its text, under
any name, is read as its global settings and its entries in order, answers every address as it does, and is written as
the same text. -/
theorem dump_round_trip :
    (∀ source text f, ofText source text = .ok f → f.IsPlain) ∧
    (∀ f g : ConfigFile, f.IsPlain → g.IsPlain → (f.combine g).IsPlain) ∧
    ∀ f : ConfigFile, f.IsPlain →
      (f.dump? = none ↔ ∃ s ∈ f.blocks, ∃ k v d, s.get? k = some v ∧ k.kind.duration? v = some d ∧
        digitLimit < (Text.ofNat d.seconds).length) ∧
      ∀ text, f.dump? = some text → ∀ source, ∃ g, ofText source text = .ok g ∧
        g.globals = f.globals ∧ g.entries.map HostEntry.content = f.entries.map HostEntry.content ∧
        (∀ address, g.lookup address = f.lookup address) ∧ g.dump? = some text := by
  refine ⟨fun _ _ _ => isPlain_of_ofText, fun _ _ => isPlain_combine, fun f hf => ⟨dump?_eq_none_iff hf, ?_⟩⟩
  intro text hdump source
  obtain ⟨hw, rfl⟩ : f.isWritable = true ∧ f.text = text := by
    unfold dump? at hdump
    split at hdump
    · exact ⟨‹_›, Option.some.inj hdump⟩
    · cases hdump
  obtain ⟨g, hg, hglobals, hentries⟩ := ofText_text hf hw source
  exact ⟨g, hg, hglobals, hentries, lookup_congr hglobals hentries, (dump?_congr hglobals hentries).trans hdump⟩

/-- A source whose values and globs are easily taken for something else. -/
def hardValues : Text :=
  "User =\nHostname ==a\r \n\nHost a=b *.c\n IdentityFile #k  1\n ConnectTimeout 1H30m\n TcpKeepAlive On"

def hardValuesDump : Text :=
  "Hostname==a\nUser=\n\nHost a=b *.c\n    TcpKeepAlive yes\n    ConnectTimeout 5400\n    IdentityFile #k  1\n"

theorem dump_round_trip_hard_values : ∃ f g,
    ofText "sample" hardValues = .ok f ∧
    ofText "again" hardValuesDump = .ok g ∧
    g.entries.map HostEntry.content = f.entries.map HostEntry.content ∧
    (∀ address, g.lookup address = f.lookup address) ∧
    g.dump? = f.dump? := by
  have hdump : (ofText "sample" hardValues).toOption.bind dump? = some hardValuesDump := by decide +kernel
  cases h : ofText "sample" hardValues with
  | error r =>
    rw [h] at hdump
    cases hdump
  | ok f =>
    rw [h] at hdump
    obtain ⟨hread, -, htrip⟩ := dump_round_trip
    obtain ⟨g, hg, -, hentries, hlookup, hagain⟩ := (htrip f (hread _ _ _ h)).2 _ hdump "again"
    exact ⟨f, g, rfl, hg, hentries, hlookup, hagain.trans hdump.symm⟩

end ConfigFile
end SshConfig
