import SshConfig.Proofs.Settings.OptionLine
/-!
# Sections — what a single pass over the lines means

The lines of a source are cut at its host lines: those before the first one are global, and each host line opens a
section that reaches to the next.  One pass that carries what it has read so far accepts exactly the lines that keep the
grammar (`exists_readOn_iff`), and reads each section as its lines are read by themselves (`readOn_cut`).
-/
namespace SshConfig

namespace Line

/-- A raw line that says something: neither blank nor a comment. -/
def isSignificant (raw : Text) : Bool :=
  !(Text.trim raw).isEmpty && (Text.trim raw).head? != some '#'

/-- A raw line that starts with a blank or a tab. -/
def isIndented (raw : Text) : Bool :=
  raw.head? == some ' ' || raw.head? == some '\t'

/-- A host line at the margin. -/
def isHost (raw : Text) : Bool :=
  isSignificant raw && !isIndented raw && (hostPatterns? (Text.trim raw)).isSome

/-- The patterns on a host line. -/
def hostTokens (raw : Text) : List Text :=
  Text.words ((hostPatterns? (Text.trim raw)).getD [])

/-- What may stand on a line: after a host line, options are indented; before the first one, they are not. -/
def Allowed (opened : Bool) (raw : Text) : Prop :=
  isSignificant raw = true →
    if isHost raw then hostTokens raw ≠ [] else isIndented raw = opened ∧ Settings.Converts (Text.trim raw)

theorem head?_strip {raw : Text} (h : strip raw ≠ []) : (strip raw).head? = raw.head? := by
  obtain ⟨e, hraw, -⟩ := Text.exists_dropEnd_append (fun c => c == '\r' || c == '\n') raw
  change raw = strip raw ++ e at hraw
  conv => rhs; rw [hraw]
  rw [List.head?_append_of_ne_nil _ h]

/-- **What a raw line says.** -/
theorem ofText_strip (raw : Text) :
    ofText (strip raw) =
      if isSignificant raw = false then .nothing
      else if isIndented raw = true then .indented (Text.trim raw)
      else
        match hostPatterns? (Text.trim raw) with
        | some patterns => .host patterns
        | none => .atMargin (Text.trim raw) := by
  unfold ofText
  simp only [trim_strip]
  by_cases hsig : isSignificant raw = true
  · have hne : strip raw ≠ [] := by
      intro h
      have htrim : Text.trim raw = [] := by rw [← trim_strip, h, Text.trim_nil]
      simp [isSignificant, htrim] at hsig
    have hquiet : ((Text.trim raw).isEmpty || (Text.trim raw).head? == some '#') = false := by
      simpa [isSignificant] using hsig
    simp only [hquiet, head?_strip hne, hsig, Bool.false_eq_true, Bool.true_eq_false, if_false]
    rfl
  · have hquiet : ((Text.trim raw).isEmpty || (Text.trim raw).head? == some '#') = true := by
      simpa [isSignificant, or_iff_not_imp_left] using hsig
    rw [hquiet, if_pos rfl, if_pos (by simpa using hsig)]

theorem isHost_eq_false {raw : Text} (h : isSignificant raw = false) : isHost raw = false := by
  simp [isHost, h]

end Line

namespace ConfigFile

open Line (isSignificant isIndented isHost hostTokens Allowed)

/-- A host line, its number, and the lines up to the next one. -/
structure Section where
  number : Nat
  title : Text
  body : List Text

/-- The lines of a section. -/
def Section.lines (s : Section) : List Text :=
  s.title :: s.body

/-- The lines before the first host line, and the sections from there on; the first line has number `n`. -/
def cut (n : Nat) : List Text → List Text × List Section
  | [] => ([], [])
  | raw :: rest =>
    if isHost raw then ([], ⟨n, raw, (cut (n + 1) rest).1⟩ :: (cut (n + 1) rest).2)
    else (raw :: (cut (n + 1) rest).1, (cut (n + 1) rest).2)

theorem cut_flatten : ∀ (n : Nat) (lines : List Text), (cut n lines).1 ++ (cut n lines).2.flatMap Section.lines = lines
  | _, [] => rfl
  | n, raw :: rest => by
    have ih := cut_flatten (n + 1) rest
    unfold cut
    split
    · rw [List.nil_append, List.flatMap_cons, Section.lines, List.cons_append, ih]
    · rw [List.cons_append, ih]

/-- **The sections are those of the host lines, in order and with their numbers.** -/
theorem cut_titles : ∀ (n : Nat) (lines : List Text),
    (cut n lines).2.map (fun s => (s.title, s.number)) = (lines.zipIdx n).filter fun p => isHost p.1
  | _, [] => rfl
  | n, raw :: rest => by
    have ih := cut_titles (n + 1) rest
    rw [cut, List.zipIdx_cons, List.filter_cons]
    split
    · rw [List.map_cons, ih]
    · exact ih

/-! ## One line -/

/-- Settings on top of the block that is being read: the last entry's, or the global one before the first. -/
def Progress.lay (p : Progress) (own : Settings) : Progress :=
  match p.recent with
  | [] => ⟨p.globals.merge own, []⟩
  | e :: es => ⟨p.globals, ⟨e.globs, e.settings.merge own, e.lineno⟩ :: es⟩

theorem Progress.lay_empty (p : Progress) : p.lay Settings.empty = p := by
  obtain ⟨g, recent⟩ := p
  cases recent <;> simp [lay]

theorem Progress.lay_lay (p : Progress) (s t : Settings) : (p.lay s).lay t = p.lay (s.merge t) := by
  obtain ⟨g, recent⟩ := p
  cases recent <;> simp [lay, Settings.merge_assoc]

/-- A host line has been read. -/
def Progress.opened (p : Progress) : Bool :=
  !p.recent.isEmpty

theorem Progress.opened_lay (p : Progress) (s : Settings) : (p.lay s).opened = p.opened := by
  obtain ⟨g, recent⟩ := p
  cases recent <;> rfl

/-- **What a line does**: nothing, open an entry, or set an option in the block that is being read. -/
theorem Progress.step_eq (p : Progress) (n : Nat) (raw : Text) :
    p.step n (Line.ofText (Line.strip raw)) =
      if isSignificant raw = false then .ok p
      else if isHost raw = true then
        if hostTokens raw = [] then .error .noPatterns
        else .ok ⟨p.globals, ⟨hostTokens raw, Settings.empty, n⟩ :: p.recent⟩
      else if isIndented raw = p.opened then (Settings.empty.applyLine .noDelimiter (Text.trim raw)).map p.lay
      else .error (if p.opened then .stray else .indentation) := by
  obtain ⟨g, recent⟩ := p
  rw [Line.ofText_strip]
  by_cases hsig : isSignificant raw = false
  · rw [if_pos hsig, if_pos hsig]
    rfl
  rw [if_neg hsig, if_neg hsig]
  by_cases hind : isIndented raw = true
  · have hhost : isHost raw = false := by simp [isHost, hind]
    rw [if_pos hind, hhost, if_neg Bool.false_ne_true, hind]
    cases recent with
    | nil => rfl
    | cons e es =>
      rw [if_pos (show true = Progress.opened ⟨g, e :: es⟩ from rfl)]
      simp only [step, Settings.applyLine_eq .noDelimiter e.settings]
      cases Settings.empty.applyLine .noDelimiter (Text.trim raw) <;> rfl
  · have hind : isIndented raw = false := by simpa using hind
    rw [hind, if_neg Bool.false_ne_true]
    cases hpat : Line.hostPatterns? (Text.trim raw) with
    | some patterns =>
      have hhost : isHost raw = true := by simp [isHost, hsig, hind, hpat]
      have htok : hostTokens raw = Text.words patterns := by simp [hostTokens, hpat]
      rw [if_pos hhost, htok]
      simp only [step, openEntry]
      cases Text.words patterns <;> rfl
    | none =>
      have hhost : isHost raw = false := by simp [isHost, hpat]
      rw [hhost, if_neg Bool.false_ne_true]
      cases recent with
      | cons e es => rfl
      | nil =>
        rw [if_pos (show false = Progress.opened ⟨g, []⟩ from rfl)]
        simp only [step, Settings.applyLine_eq .noDelimiter g]
        cases Settings.empty.applyLine .noDelimiter (Text.trim raw) <;> rfl

/-- **All that an accepted line can do.** -/
theorem Progress.step_ok_iff {p q : Progress} {n : Nat} {raw : Text} :
    p.step n (Line.ofText (Line.strip raw)) = .ok q ↔
      (isSignificant raw = false ∧ q = p) ∨
      (isHost raw = true ∧ hostTokens raw ≠ [] ∧ q = ⟨p.globals, ⟨hostTokens raw, Settings.empty, n⟩ :: p.recent⟩) ∨
      (isSignificant raw = true ∧ isHost raw = false ∧ isIndented raw = p.opened ∧
        ∃ own, Settings.empty.applyLine .noDelimiter (Text.trim raw) = .ok own ∧ q = p.lay own) := by
  rw [step_eq]
  by_cases hsig : isSignificant raw = false
  · simp only [hsig, Line.isHost_eq_false hsig, if_true, Except.ok.injEq, true_and, false_and, Bool.false_eq_true,
      or_false]
    exact eq_comm
  · by_cases hhost : isHost raw = true
    · by_cases htok : hostTokens raw = []
      · simp [hsig, hhost, htok]
      · simp [hsig, hhost, htok]
        exact eq_comm
    · by_cases hind : isIndented raw = p.opened
      · cases Settings.empty.applyLine .noDelimiter (Text.trim raw) with
        | error cause => simp [hsig, hhost, hind, Except.map]
        | ok own =>
          simp [hsig, hhost, hind, Except.map]
          exact eq_comm
      · simp [hsig, hhost, hind]

theorem Progress.exists_step_iff {p : Progress} {n : Nat} {raw : Text} :
    (∃ q, p.step n (Line.ofText (Line.strip raw)) = .ok q) ↔ Allowed p.opened raw := by
  simp only [step_ok_iff, Allowed]
  by_cases hsig : isSignificant raw = true
  swap
  · have hsig : isSignificant raw = false := by simpa using hsig
    simp [hsig]
  by_cases hhost : isHost raw = true
  · simp [hsig, hhost]
  · have hhost : isHost raw = false := by simpa using hhost
    rw [← Settings.exists_applyLine_iff .noDelimiter]
    simp [hsig, hhost]

theorem Progress.opened_of_step {p q : Progress} {n : Nat} {raw : Text}
    (h : p.step n (Line.ofText (Line.strip raw)) = .ok q) : q.opened = (p.opened || isHost raw) := by
  obtain ⟨hsig, rfl⟩ | ⟨hhost, -, rfl⟩ | ⟨-, hhost, -, own, -, rfl⟩ := step_ok_iff.1 h
  · rw [Line.isHost_eq_false hsig, Bool.or_false]
  · rw [hhost, Bool.or_true]
    rfl
  · rw [opened_lay, hhost, Bool.or_false]

/-! ## All lines -/

/-- Every line is one that may stand where it does. -/
def Allows : Bool → List Text → Prop
  | _, [] => True
  | opened, raw :: rest => Allowed opened raw ∧ Allows (opened || isHost raw) rest

theorem Progress.readOn_cons_ok_iff {source : Text} {p q : Progress} {n : Nat} {raw : Text} {rest : List Text} :
    p.readOn source n (raw :: rest) = .ok q ↔
      ∃ next, p.step n (Line.ofText (Line.strip raw)) = .ok next ∧ next.readOn source (n + 1) rest = .ok q := by
  rw [readOn]
  cases p.step n (Line.ofText (Line.strip raw)) <;> simp

theorem ofLines_ok_iff {source : Text} {lines : List Text} {f : ConfigFile} : ofLines source lines = .ok f ↔
    ∃ q, Progress.readOn source {} 1 lines = .ok q ∧ q.file source = f := by
  unfold ofLines
  cases Progress.readOn source {} 1 lines <;> simp [Except.map]

theorem exists_ofLines_iff {source : Text} {lines : List Text} :
    (∃ f, ofLines source lines = .ok f) ↔ ∃ q, Progress.readOn source {} 1 lines = .ok q := by
  simp only [ofLines_ok_iff]
  exact ⟨fun ⟨_, q, hq, _⟩ => ⟨q, hq⟩, fun ⟨q, hq⟩ => ⟨q.file source, q, hq, rfl⟩⟩

theorem ofLines_error_iff {source : Text} {lines : List Text} {r : Refusal} :
    ofLines source lines = .error r ↔ Progress.readOn source {} 1 lines = .error r := by
  unfold ofLines
  cases Progress.readOn source {} 1 lines <;> simp [Except.map]

theorem Progress.exists_readOn_iff (source : Text) : ∀ (lines : List Text) (p : Progress) (n : Nat),
    (∃ q, p.readOn source n lines = .ok q) ↔ Allows p.opened lines
  | [], p, n => by simp [readOn, Allows]
  | raw :: rest, p, n => by
    rw [Allows, ← exists_step_iff (n := n)]
    simp only [readOn_cons_ok_iff]
    constructor
    · rintro ⟨q, next, hstep, hq⟩
      exact ⟨⟨next, hstep⟩, opened_of_step hstep ▸ (exists_readOn_iff source rest next (n + 1)).1 ⟨q, hq⟩⟩
    · rintro ⟨⟨next, hstep⟩, hrest⟩
      rw [← opened_of_step hstep] at hrest
      obtain ⟨q, hq⟩ := (exists_readOn_iff source rest next (n + 1)).2 hrest
      exact ⟨q, next, hstep, hq⟩

theorem Progress.opened_of_readOn {source : Text} : ∀ {lines : List Text} {p q : Progress} {n : Nat},
    p.readOn source n lines = .ok q → q.opened = (p.opened || lines.any isHost)
  | [], p, q, n, h => by
    cases h
    rw [List.any_nil, Bool.or_false]
  | raw :: rest, p, q, n, h => by
    obtain ⟨next, hstep, h⟩ := readOn_cons_ok_iff.1 h
    rw [opened_of_readOn h, opened_of_step hstep, List.any_cons, Bool.or_assoc]

/-- The entry that a section is read as. -/
def Section.Means (s : Section) (e : HostEntry) : Prop :=
  e.globs = hostTokens s.title ∧ e.lineno = s.number ∧
    Settings.ofOptions (s.body.filter isSignificant) = .ok e.settings

/-- **A run lays the lines before the first host line on the block that is being read, and then reads each section by
itself.**  The induction is on the lines; what has been read enters only through `lay`. -/
theorem Progress.readOn_cut (source : Text) : ∀ (lines : List Text) (p q : Progress) (n : Nat),
    p.readOn source n lines = .ok q →
      ∃ own entries, Settings.ofOptions ((cut n lines).1.filter isSignificant) = .ok own ∧
        List.Forall₂ Section.Means (cut n lines).2 entries ∧
        q = ⟨(p.lay own).globals, entries.reverse ++ (p.lay own).recent⟩
  | [], p, q, n, h => by
    cases h
    exact ⟨Settings.empty, [], Settings.ofOptions_nil, .nil, by rw [lay_empty]; rfl⟩
  | raw :: rest, p, q, n, h => by
    obtain ⟨next, hstep, h⟩ := readOn_cons_ok_iff.1 h
    obtain ⟨own, entries, hown, hentries, rfl⟩ := readOn_cut source rest next q (n + 1) h
    obtain ⟨hsig, rfl⟩ | ⟨hhost, -, rfl⟩ | ⟨hsig, hhost, -, first, hfirst, rfl⟩ := step_ok_iff.1 hstep
    · have hcut : cut n (raw :: rest) = (raw :: (cut (n + 1) rest).1, (cut (n + 1) rest).2) := by
        rw [cut, if_neg (by simp [Line.isHost_eq_false hsig])]
      rw [hcut, List.filter_cons_of_neg (by simp [hsig])]
      exact ⟨own, entries, hown, hentries, rfl⟩
    · have hcut : cut n (raw :: rest) = ([], ⟨n, raw, (cut (n + 1) rest).1⟩ :: (cut (n + 1) rest).2) := by
        rw [cut, if_pos hhost]
      rw [hcut]
      refine ⟨Settings.empty, ⟨hostTokens raw, own, n⟩ :: entries, Settings.ofOptions_nil,
        .cons ⟨rfl, rfl, hown⟩ hentries, ?_⟩
      rw [lay_empty, lay]
      simp
    · have hcut : cut n (raw :: rest) = (raw :: (cut (n + 1) rest).1, (cut (n + 1) rest).2) := by
        rw [cut, if_neg (by simp [hhost])]
      have hline := Settings.applyLine_ok_congr .noOptionDelimiter hfirst
      rw [hcut, List.filter_cons_of_pos hsig]
      refine ⟨first.merge own, entries, Settings.ofOptions_cons_ok_iff.2 ⟨first, own, hline, hown, rfl⟩, hentries, ?_⟩
      rw [lay_lay]

/-! ## The grammar -/

/-- **The grammar of a source.**  Options stand at the margin before the first host line and are indented after it,
every host line names a pattern, and every option can be read. -/
structure KeepsGrammar (lines : List Text) : Prop where
  indented_after_host : ∀ before raw after, lines = before ++ raw :: after → isSignificant raw = true →
    isIndented raw = true → ∃ h ∈ before, isHost h = true
  margin_before_host : ∀ before raw after, lines = before ++ raw :: after → isSignificant raw = true →
    isIndented raw = false → isHost raw = false → ∀ h ∈ before, isHost h = false
  host_names_pattern : ∀ raw ∈ lines, isHost raw = true → hostTokens raw ≠ []
  option_converts : ∀ raw ∈ lines, isSignificant raw = true → isHost raw = false → Settings.Converts (Text.trim raw)

theorem allows_iff : ∀ (opened : Bool) (lines : List Text), Allows opened lines ↔
    ∀ before raw after, lines = before ++ raw :: after → Allowed (opened || before.any isHost) raw
  | opened, [] => by simp [Allows]
  | opened, first :: rest => by
    rw [Allows, allows_iff (opened || isHost first) rest]
    constructor
    · rintro ⟨hfirst, hrest⟩ before raw after h
      cases before with
      | nil =>
        rw [List.nil_append, List.cons.injEq] at h
        obtain ⟨rfl, -⟩ := h
        simpa using hfirst
      | cons b before =>
        rw [List.cons_append, List.cons.injEq] at h
        obtain ⟨rfl, h⟩ := h
        rw [List.any_cons, ← Bool.or_assoc]
        exact hrest before raw after h
    · intro h
      refine ⟨by simpa using h [] first rest rfl, fun before raw after hrest => ?_⟩
      rw [Bool.or_assoc, ← List.any_cons]
      exact h (first :: before) raw after (by rw [hrest, List.cons_append])

theorem keepsGrammar_iff (lines : List Text) : KeepsGrammar lines ↔ Allows false lines := by
  rw [allows_iff]
  simp only [Bool.false_or]
  constructor
  · intro h before raw after hlines hsig
    have hmem : raw ∈ lines := hlines ▸ List.mem_append_right _ List.mem_cons_self
    by_cases hhost : isHost raw = true
    · rw [if_pos hhost]
      exact h.host_names_pattern raw hmem hhost
    · have hhost : isHost raw = false := by simpa using hhost
      rw [if_neg (by simp [hhost])]
      refine ⟨?_, h.option_converts raw hmem hsig hhost⟩
      by_cases hind : isIndented raw = true
      · rw [hind, eq_comm, List.any_eq_true]
        exact h.indented_after_host before raw after hlines hsig hind
      · have hind : isIndented raw = false := by simpa using hind
        rw [hind, eq_comm, List.any_eq_false]
        intro b hb
        simp [h.margin_before_host before raw after hlines hsig hind hhost b hb]
  · intro h
    have hoption : ∀ before raw after, lines = before ++ raw :: after → isSignificant raw = true →
        isHost raw = false → isIndented raw = before.any isHost ∧ Settings.Converts (Text.trim raw) := by
      intro before raw after hlines hsig hhost
      have := h before raw after hlines hsig
      rwa [if_neg (by simp [hhost])] at this
    refine ⟨?_, ?_, ?_, ?_⟩
    · intro before raw after hlines hsig hind
      have hhost : isHost raw = false := by simp [isHost, hind]
      have := (hoption before raw after hlines hsig hhost).1
      rw [hind, eq_comm, List.any_eq_true] at this
      exact this
    · intro before raw after hlines hsig hind hhost b hb
      have := (hoption before raw after hlines hsig hhost).1
      rw [hind, eq_comm, List.any_eq_false] at this
      simpa using this b hb
    · intro raw hmem hhost
      obtain ⟨before, after, hlines⟩ := List.append_of_mem hmem
      have hsig : isSignificant raw = true := by
        by_contra hsig
        rw [Line.isHost_eq_false (by simpa using hsig)] at hhost
        cases hhost
      have := h before raw after hlines hsig
      rwa [if_pos hhost] at this
    · intro raw hmem hsig hhost
      obtain ⟨before, after, hlines⟩ := List.append_of_mem hmem
      exact (hoption before raw after hlines hsig hhost).2

/-- **A single pass accepts exactly the grammar and reads the sections.**  The lines before the first host line are the
global settings; each host line is an entry with its patterns, its number, and the settings of the lines up to the next
one. -/
theorem ofLines_reads_sections (source : Text) (lines : List Text) :
    ((∃ f, ofLines source lines = .ok f) ↔ KeepsGrammar lines) ∧
    ∀ f, ofLines source lines = .ok f →
      f.source = source ∧
      (cut 1 lines).1 ++ (cut 1 lines).2.flatMap Section.lines = lines ∧
      (cut 1 lines).2.map (fun s => (s.title, s.number)) = (lines.zipIdx 1).filter (fun p => isHost p.1) ∧
      Settings.ofOptions ((cut 1 lines).1.filter isSignificant) = .ok f.globals ∧
      List.Forall₂ Section.Means (cut 1 lines).2 f.entries := by
  constructor
  · rw [keepsGrammar_iff, exists_ofLines_iff]
    exact Progress.exists_readOn_iff source lines {} 1
  · intro f hf
    obtain ⟨q, hq, rfl⟩ := ofLines_ok_iff.1 hf
    obtain ⟨own, entries, hown, hentries, rfl⟩ := Progress.readOn_cut source lines {} q 1 hq
    refine ⟨rfl, cut_flatten 1 lines, cut_titles 1 lines, ?_, ?_⟩
    · simpa [Progress.file, Progress.lay] using hown
    · simpa [Progress.file, Progress.lay] using hentries

/-- A source with a global option, a comment and two hosts, the second without options. -/
theorem ofLines_reads_sections_two_hosts :
    ∃ f, ofLines "sample" ["Port = 22", "# first", "hOST a *.b", "", "\tUser alice", "Host=c"] = .ok f ∧
      KeepsGrammar ["Port = 22", "# first", "hOST a *.b", "", "\tUser alice", "Host=c"] ∧
      Settings.ofOptions ["Port = 22"] = .ok f.globals ∧
      List.Forall₂ Section.Means [⟨3, "hOST a *.b", ["", "\tUser alice"]⟩, ⟨6, "Host=c", []⟩] f.entries := by
  cases h : ofLines "sample" ["Port = 22", "# first", "hOST a *.b", "", "\tUser alice", "Host=c"] with
  | error r =>
    have hok : (ofLines "sample" ["Port = 22", "# first", "hOST a *.b", "", "\tUser alice", "Host=c"]).isOk = true := by
      decide +kernel
    rw [h] at hok
    cases hok
  | ok f =>
    obtain ⟨hgrammar, hread⟩ := ofLines_reads_sections "sample"
      ["Port = 22", "# first", "hOST a *.b", "", "\tUser alice", "Host=c"]
    obtain ⟨-, -, -, hglobals, hentries⟩ := hread f h
    exact ⟨f, rfl, hgrammar.1 ⟨f, h⟩, hglobals, hentries⟩

end ConfigFile
end SshConfig
