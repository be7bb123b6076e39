import SshConfig.Proofs.ConfigFile.Alike
import SshConfig.Proofs.ConfigFile.Refused
/-!
# Layout — what may be changed about lines

Lines that say the same, with blank lines and comments put in among them, are read alike (`Progress.readOn_laid`): only
the numbers of lines go up.  So the layout of a source does not count, whatever is edited about it
(`readLines_edits`).
-/
namespace SshConfig

/-- The entry, with its line where `m` says. -/
def HostEntry.moved (m : Nat → Nat) (e : HostEntry) : HostEntry :=
  ⟨e.globs, e.settings, m e.lineno⟩

namespace ConfigFile

open Line (isSignificant isIndented isHost hostTokens)

/-- The source, with each entry on the line that `m` says. -/
def moved (m : Nat → Nat) (f : ConfigFile) : ConfigFile :=
  ⟨f.globals, f.entries.map (·.moved m), f.source⟩

theorem moved_id (f : ConfigFile) : f.moved id = f := by
  have hid : HostEntry.moved id = id := rfl
  unfold moved
  rw [hid, List.map_id]

theorem moved_moved (m m' : Nat → Nat) (f : ConfigFile) : (f.moved m).moved m' = f.moved (m' ∘ m) := by
  simp only [moved, List.map_map]
  rfl

namespace Progress

/-- What has been read, with each entry on the line that `m` says. -/
def moved (m : Nat → Nat) (p : Progress) : Progress :=
  ⟨p.globals, p.recent.map (·.moved m)⟩

theorem opened_moved (m : Nat → Nat) (p : Progress) : (p.moved m).opened = p.opened := by
  obtain ⟨g, recent⟩ := p
  cases recent <;> rfl

theorem lay_moved (m : Nat → Nat) (p : Progress) (own : Settings) : (p.moved m).lay own = (p.lay own).moved m := by
  obtain ⟨g, recent⟩ := p
  cases recent <;> rfl

theorem file_moved (m : Nat → Nat) (p : Progress) (source : Text) :
    (p.moved m).file source = (p.file source).moved m := by
  simp [file, moved, ConfigFile.moved]

end Progress

/-- **A line that says the same does the same**, wherever it stands. -/
theorem Progress.step_alike {raw raw' : Text} (h : Line.Alike raw raw') (m : Nat → Nat) (p : Progress) (n : Nat) :
    Agree Complaint.Alike (moved m) (p.step n (Line.ofText (Line.strip raw)))
      ((p.moved m).step (m n) (Line.ofText (Line.strip raw'))) := by
  rw [step_eq, step_eq, h.significant, h.host, opened_moved]
  by_cases hsig : isSignificant raw = false
  · rw [if_pos hsig, if_pos hsig]
    exact .ok p
  rw [if_neg hsig, if_neg hsig, h.indented (by simpa using hsig)]
  by_cases hhost : isHost raw = true
  · rw [if_pos hhost, if_pos hhost, h.tokens hhost]
    by_cases hnone : hostTokens raw = []
    · rw [if_pos hnone, if_pos hnone]
      exact .error (.refl _)
    · rw [if_neg hnone, if_neg hnone]
      exact .ok _
  rw [if_neg hhost, if_neg hhost]
  by_cases hplace : isIndented raw = p.opened
  · rw [if_pos hplace, if_pos hplace]
    exact (h.option.applyLine .noDelimiter Settings.empty).map (p.lay_moved m)
  · rw [if_neg hplace, if_neg hplace]
    exact .error (.refl _)

/-! ## Lines put in -/

/-- The second lines are the first ones, with lines put in that say nothing; `m` says where each line is to be found.
The next lines have the numbers `n` and `k`. -/
inductive Laid (m : Nat → Nat) : Nat → Nat → List Text → List Text → Prop where
  | nil (n k : Nat) : Laid m n k [] []
  | cons {n k : Nat} {raw raw' : Text} {rest rest' : List Text} (hn : m n = k) (h : Line.Alike raw raw')
      (hrest : Laid m (n + 1) (k + 1) rest rest') : Laid m n k (raw :: rest) (raw' :: rest')
  | insert {n k : Nat} {raw : Text} {rest rest' : List Text} (h : isSignificant raw = false)
      (hrest : Laid m n (k + 1) rest rest') : Laid m n k rest (raw :: rest')

/-- The refusals are the same but for the case of a key, on the line that `m` says. -/
def RefusedAlike (m : Nat → Nat) (r r' : Refusal) : Prop :=
  r.cause.Alike r'.cause ∧ r'.source = r.source ∧ r'.number = m r.number

/-- **Lines that say the same are read alike**, whatever says nothing among them.  The induction is on how the lines
correspond; that every entry read so far has moved as `m` says is kept by each line. -/
theorem Progress.readOn_laid {m : Nat → Nat} (source : Text) {n k : Nat} {lines lines' : List Text}
    (h : Laid m n k lines lines') : ∀ p : Progress,
      Agree (RefusedAlike m) (moved m) (p.readOn source n lines) ((p.moved m).readOn source k lines') := by
  induction h with
  | nil n k => exact fun p => .ok p
  | @cons n k raw raw' rest rest' hn hline _ ih =>
    intro p
    have hstep := step_alike hline m p n
    rw [hn] at hstep
    unfold readOn
    generalize p.step n (Line.ofText (Line.strip raw)) = x at hstep
    generalize (p.moved m).step k (Line.ofText (Line.strip raw')) = y at hstep
    cases hstep with
    | ok next => exact ih next
    | error halike => exact .error ⟨halike, rfl, hn.symm⟩
  | @insert n k raw rest rest' hsig _ ih =>
    intro p
    have hstep : (p.moved m).step k (Line.ofText (Line.strip raw)) = .ok (p.moved m) := by
      rw [step_eq, if_pos hsig]
    simp only [readOn.eq_2, hstep]
    exact ih p

/-! ## Edits -/

/-- Where a line stands after one has been put in behind the first `k`. -/
def pastInsertion (k n : Nat) : Nat :=
  if n ≤ k then n else n + 1

/-- **One edit of lines**, and where it leaves each line: a line that says nothing is put in, or a line is changed into
one that says the same. -/
inductive Edit : List Text → List Text → (Nat → Nat) → Prop where
  | insert (before after : List Text) {raw : Text} (h : isSignificant raw = false) :
      Edit (before ++ after) (before ++ raw :: after) (pastInsertion before.length)
  | change (before after : List Text) {raw raw' : Text} (h : Line.Relaid raw raw') :
      Edit (before ++ raw :: after) (before ++ raw' :: after) id

/-- **Edits one after the other**, and where they leave each line. -/
inductive Edits : List Text → List Text → (Nat → Nat) → Prop where
  | none (lines : List Text) : Edits lines lines id
  | next {lines lines' lines'' : List Text} {m m' : Nat → Nat} (h : Edits lines lines' m)
      (hlast : Edit lines' lines'' m') : Edits lines lines'' (m' ∘ m)

theorem Laid.same {m : Nat → Nat} : ∀ {n k : Nat} (lines : List Text), (∀ j, m (n + j) = k + j) → Laid m n k lines lines
  | n, k, [], _ => .nil n k
  | n, k, raw :: rest, h => by
    refine .cons (h 0) (.refl raw) (.same rest fun j => ?_)
    rw [Nat.add_right_comm, Nat.add_assoc, h, Nat.add_right_comm, Nat.add_assoc]

theorem Laid.behind {m : Nat → Nat} {rest rest' : List Text} : ∀ {n : Nat} (before : List Text),
    (∀ j < before.length, m (n + j) = n + j) → Laid m (n + before.length) (n + before.length) rest rest' →
      Laid m n n (before ++ rest) (before ++ rest')
  | n, [], _, hrest => hrest
  | n, raw :: before, h, hrest => by
    refine .cons (h 0 (by simp)) (.refl raw) (.behind before (fun j hj => ?_) ?_)
    · have hnext := h (j + 1) (by rw [List.length_cons]; omega)
      rwa [Nat.add_assoc, Nat.add_comm 1 j]
    · rwa [Nat.add_assoc, Nat.add_comm 1 before.length]

theorem Edit.laid {lines lines' : List Text} {m : Nat → Nat} (h : Edit lines lines' m) : Laid m 1 1 lines lines' := by
  cases h with
  | insert before after hsig =>
    refine .behind before (fun j hj => if_pos (by omega)) (.insert hsig (.same after fun j => ?_))
    unfold pastInsertion
    rw [if_neg (by omega)]
    omega
  | change before after hline =>
    exact .behind before (fun _ _ => rfl) (.cons rfl hline.alike (.same after fun _ => rfl))

theorem RefusedAlike.trans {m m' : Nat → Nat} {r r' r'' : Refusal} (h : RefusedAlike m r r')
    (h' : RefusedAlike m' r' r'') : RefusedAlike (m' ∘ m) r r'' :=
  ⟨h.1.trans h'.1, h'.2.1.trans h.2.1, h'.2.2.trans (congrArg m' h.2.2)⟩

theorem ofLines_edit {lines lines' : List Text} {m : Nat → Nat} (h : Edit lines lines' m) (source : Text) :
    Agree (RefusedAlike m) (moved m) (ofLines source lines) (ofLines source lines') :=
  (Progress.readOn_laid source h.laid {}).map fun p => p.file_moved m source

/-- **Edits leave what lines are read as**, but for the numbers of the lines. -/
theorem ofLines_edits {lines lines' : List Text} {m : Nat → Nat} (h : Edits lines lines' m) (source : Text) :
    Agree (RefusedAlike m) (moved m) (ofLines source lines) (ofLines source lines') := by
  induction h with
  | none =>
    cases ofLines source lines with
    | ok f =>
      have h : Agree (RefusedAlike id) (moved id) (.ok f) (.ok (f.moved id)) := .ok f
      rwa [moved_id] at h
    | error r => exact .error ⟨.refl _, rfl, rfl⟩
  | @next lines' lines'' m m' _ hlast ih =>
    have h : Agree (RefusedAlike (m' ∘ m)) (moved m' ∘ moved m) (ofLines source lines) (ofLines source lines'') :=
      ih.trans (fun _ _ _ h h' => h.trans h') (ofLines_edit hlast source)
    have hmove : moved m' ∘ moved m = moved (m' ∘ m) := funext (moved_moved m m')
    exact hmove ▸ h

/-- **Layout does not count.**  Let lines that say nothing be put in among lines, indentations be exchanged, blanks be
put at the ends of lines, and the letters of names be written in another case, one edit after the other.  What the lines
are read as is then the same, with each entry further down by the lines put in before it.  If they are refused, they are
refused for the same reason but for the case of a name in it, in the line that is as much further down, and a fault that
passes stays as it is. -/
theorem readLines_edits {lines lines' : List Text} {m : Nat → Nat} (h : Edits lines lines' m) (source : Text)
    (s t : Session) :
    (∀ f, (Act.readLines source lines s).1 = .ok f → (Act.readLines source lines' t).1 = .ok (f.moved m)) ∧
    (∀ e c, (Act.readLines source lines s).1 = .error (.config (.refused e c)) →
      ∃ (number : Nat) (line line' reason reason' : Text),
        e = ⟨e.pattern, .str reason, ⟨.str source, .int number, .str line⟩⟩ ∧ Text.SameLetters reason reason' ∧
        (Act.readLines source lines' t).1 = .error (.config (.refused
          ⟨e.pattern, .str reason', ⟨.str source, .int (m number), .str line'⟩⟩ c))) ∧
    ∀ fault, (Act.readLines source lines s).1 = .error fault → (∀ e c, fault ≠ .config (.refused e c)) →
      (Act.readLines source lines' t).1 = .error fault := by
  have hagree := ofLines_edits h source
  rw [Act.readLines_fst, Act.readLines_fst]
  generalize hx : ofLines source lines = x at hagree
  generalize ofLines source lines' = y at hagree
  cases hagree with
  | ok f =>
    refine ⟨fun g hg => ?_, fun e c he => (by cases he), fun fault hfault => (by cases hfault)⟩
    cases hg
    rfl
  | @error r r' halike =>
    obtain ⟨hcause, hsource, hnumber⟩ := halike
    have hsource' := source_of_ofLines_error hx
    refine ⟨fun g hg => (by cases hg), fun e c he => ?_, fun fault hfault hpass => ?_⟩
    · obtain ⟨hletter, rfl, rfl⟩ := Fault.ofRefusal_eq_refused_iff.1 (Except.error.inj he)
      refine ⟨r.number, r.line, r'.line, r.cause.reason, r'.cause.reason, ?_, hcause.reason, ?_⟩
      · rw [← hsource']
        rfl
      · have htold : r'.cause.told r'.place = ⟨r.cause.isPattern, .str r'.cause.reason,
            ⟨.str source, .int (m r.number), .str r'.line⟩⟩ := by
          rw [← hcause.isPattern_eq, ← hsource', ← hsource, ← hnumber]
          rfl
        refine congrArg Except.error (Fault.ofRefusal_eq_refused_iff.2 ⟨hcause.letter?_eq.trans hletter, ?_, rfl⟩)
        exact htold.symm
    · cases hfault
      refine congrArg Except.error ?_
      cases hletter : r.cause.letter? with
      | none => exact absurd (Fault.ofRefusal_eq_refused_iff.2 ⟨hletter, rfl, rfl⟩) (hpass _ _)
      | some letter =>
        unfold Fault.ofRefusal
        rw [Fault.ofComplaint_eq, Fault.ofComplaint_eq, hcause.letter?_eq, hletter]

/-- Lines, and the same ones with a comment among them and laid out in another way. -/
def plainLines : List Text :=
  ["Port 22\n", "Host a\n", "  User x\n"]

def relaidLines : List Text :=
  ["Port 22 \r\n", "# note\n", "hOST a\n", "\tUser x\n"]

theorem edits_relaidLines : Edits plainLines relaidLines (pastInsertion 1) := by
  have hnote : Edits plainLines ["Port 22\n", "# note\n", "Host a\n", "  User x\n"] (pastInsertion 1) :=
    (Edits.none _).next (.insert ["Port 22\n"] ["Host a\n", "  User x\n"] (by decide))
  have hport : Line.Relaid "Port 22\n" "Port 22 \r\n" :=
    @Line.Relaid.trail "Port 22" " \r" "\n" (List.all_eq_true.1 (by decide)) (List.all_eq_true.1 (by decide))
  have hword : ("Host" : Text).all (fun c => !isDelimiter c && !Text.isBlank c) = true := by decide
  simp only [List.all_eq_true, Bool.and_eq_true, Bool.not_eq_true'] at hword
  have hhost : Line.Relaid "Host a\n" "hOST a\n" :=
    @Line.Relaid.recase [] "Host" "hOST" (List.all_eq_true.1 (by decide)) (fun c hc => (hword c hc).1) (by decide)
      " a\n" (fun _ c hc => (hword c hc).2)
  have huser : Line.Relaid "  User x\n" "\tUser x\n" :=
    @Line.Relaid.reindent "  " "\t" (by decide) (by decide) (by decide) (by decide) "User x\n"
  have htrailed := hnote.next (.change [] ["# note\n", "Host a\n", "  User x\n"] hport)
  have hrecased := htrailed.next (.change ["Port 22 \r\n", "# note\n"] ["  User x\n"] hhost)
  exact hrecased.next (.change ["Port 22 \r\n", "# note\n", "hOST a\n"] [] huser)

/-- Lines of which the second is refused, and the same ones behind a blank line. -/
def badLines : List Text :=
  ["Host a\n", "  Port x\n"]

def badRelaidLines : List Text :=
  ["\n", "Host a\n", "  PORT x\n"]

theorem edits_badRelaidLines : Edits badLines badRelaidLines (pastInsertion 0) := by
  have hblank : Edits badLines ["\n", "Host a\n", "  Port x\n"] (pastInsertion 0) :=
    (Edits.none _).next (.insert [] ["Host a\n", "  Port x\n"] (by decide))
  have hword : ("Port" : Text).all (fun c => !isDelimiter c && !Text.isBlank c) = true := by decide
  simp only [List.all_eq_true, Bool.and_eq_true, Bool.not_eq_true'] at hword
  have hport : Line.Relaid "  Port x\n" "  PORT x\n" :=
    @Line.Relaid.recase "  " "Port" "PORT" (List.all_eq_true.1 (by decide)) (fun c hc => (hword c hc).1) (by decide)
      " x\n" (fun _ c hc => (hword c hc).2)
  exact hblank.next (.change ["\n", "Host a\n"] [] hport)

theorem readLines_edits_note :
    Edits plainLines relaidLines (pastInsertion 1) ∧ Edits badLines badRelaidLines (pastInsertion 0) ∧
    (∃ f, ∀ s : Session, (Act.readLines "sample" plainLines s).1 = .ok f ∧
      (Act.readLines "sample" relaidLines s).1 = .ok (f.moved (pastInsertion 1))) ∧
    ∃ e, e.reason = .str "invalid value for Port (invalid literal for int() with base 10: 'x')" ∧
      ∀ s : Session, (Act.readLines "sample" badLines s).1 = .error (.config (.refused e {})) ∧
        ∃ reason line, (Act.readLines "sample" badRelaidLines s).1 = .error (.config (.refused
          ⟨e.pattern, .str reason, ⟨.str "sample", .int (3 : Nat), .str line⟩⟩ {})) := by
  refine ⟨edits_relaidLines, edits_badRelaidLines, ?_, ?_⟩
  · obtain ⟨f, hf⟩ := exists_of_isOk (x := ofLines "sample" plainLines) (by decide +kernel)
    have hplain : ∀ s : Session, (Act.readLines "sample" plainLines s).1 = .ok f := by
      intro s
      rw [Act.readLines_fst, hf]
      rfl
    exact ⟨f, fun s => ⟨hplain s, (readLines_edits edits_relaidLines "sample" s s).1 f (hplain s)⟩⟩
  · have hsaid : ((ofLines "sample" badLines).map fun _ => ()).mapError Refusal.said =
        .error (none, "invalid value for Port (invalid literal for int() with base 10: 'x')".toList, 2,
          "  Port x".toList) := by
      decide +kernel
    obtain ⟨e, he, hreason, hplace⟩ := exists_refused_of_said hsaid
    refine ⟨e, hreason, fun s => ⟨he s, ?_⟩⟩
    obtain ⟨number, line, line', reason, reason', hparts, -, hbad⟩ :=
      (readLines_edits edits_badRelaidLines "sample" s s).2.1 e {} (he s)
    obtain rfl : number = 2 := by
      have hnumber := congrArg Place.lineno (congrArg LineError.place hparts)
      rw [hplace] at hnumber
      have := Json.int.inj hnumber
      omega
    exact ⟨reason', line', hbad⟩

end ConfigFile
end SshConfig
