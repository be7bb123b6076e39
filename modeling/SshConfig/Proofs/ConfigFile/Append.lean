import SshConfig.Proofs.ConfigFile.Refused
/-!
# Append — lines that follow other lines

Lines that follow a source without host lines, or that open with a host line of their own, are read there as they are
read by themselves.  What they say lies on top of what was read before, and their numbers go up by as many lines as
there are before them (`ofLines_append`).  So lines one after the other are the combined source
(`readLines_append_combine`).
-/
namespace SshConfig

/-- The entry, with `n` lines before those of its source. -/
def HostEntry.shifted (n : Nat) (e : HostEntry) : HostEntry :=
  ⟨e.globs, e.settings, n + e.lineno⟩

/-- The refusal in a source of which its lines follow `n` others. -/
def Refusal.shifted (source : Text) (n : Nat) (r : Refusal) : Refusal :=
  ⟨r.cause, source, n + r.number, r.line⟩

namespace ConfigFile

open Line (isSignificant isIndented isHost hostTokens)

/-- The source, with `n` lines before its own. -/
def shifted (n : Nat) (f : ConfigFile) : ConfigFile :=
  ⟨f.globals, f.entries.map (·.shifted n), f.source⟩

/-- The lines open with a host line, if they say anything. -/
def StartsWithHost (lines : List Text) : Prop :=
  ∀ raw ∈ lines.find? isSignificant, isHost raw = true

namespace Progress

/-- What has been read of lines that follow `n` others, together with what was read of those. -/
def following (p : Progress) (n : Nat) (q : Progress) : Progress :=
  ⟨p.globals.merge q.globals, q.recent.map (·.shifted n) ++ p.recent⟩

theorem following_empty (p : Progress) (n : Nat) : p.following n {} = p := by
  simp [following]

section
variable {p q : Progress} (h : p.recent = [] ∨ q.opened = true)
include h

theorem opened_following (n : Nat) : (p.following n q).opened = q.opened := by
  obtain ⟨g, recent⟩ := q
  cases recent with
  | cons e es => rfl
  | nil =>
    rcases h with h | h
    · simp [following, opened, h]
    · cases h

theorem lay_following (n : Nat) (own : Settings) : (p.following n q).lay own = p.following n (q.lay own) := by
  obtain ⟨g, recent⟩ := q
  cases recent with
  | cons e es => rfl
  | nil =>
    rcases h with h | h
    · simp [following, lay, h, Settings.merge_assoc]
    · cases h

end

/-- **A line does the same after other lines**, if what it belongs to is its own: nothing was opened before it, or
something was by the lines since, or it opens something itself. -/
theorem step_following {p q : Progress} (n k : Nat) {raw : Text}
    (h : (p.recent = [] ∨ q.opened = true) ∨ isSignificant raw = false ∨ isHost raw = true) :
    (p.following n q).step (n + k) (Line.ofText (Line.strip raw)) =
      (q.step k (Line.ofText (Line.strip raw))).map (p.following n) := by
  rw [step_eq, step_eq]
  by_cases hsig : isSignificant raw = false
  · rw [if_pos hsig, if_pos hsig]
    rfl
  rw [if_neg hsig, if_neg hsig]
  by_cases hhost : isHost raw = true
  · rw [if_pos hhost, if_pos hhost]
    split <;> rfl
  have hown : p.recent = [] ∨ q.opened = true := by simpa [hsig, hhost] using h
  rw [if_neg hhost, if_neg hhost, opened_following hown]
  split
  · cases Settings.empty.applyLine .noDelimiter (Text.trim raw) with
    | error cause => rfl
    | ok own => exact congrArg Except.ok (lay_following hown n own)
  · rfl

/-- **Lines are read after other lines as they are read by themselves.**  The induction is on the lines; once one of
them has opened an entry, the lines before them have no part in what follows. -/
theorem readOn_following (source other : Text) (p : Progress) (n : Nat) : ∀ (lines : List Text) (q : Progress) (k : Nat),
    (p.recent = [] ∨ q.opened = true) ∨ StartsWithHost lines →
      (p.following n q).readOn source (n + k) lines =
        ((q.readOn other k lines).map (p.following n)).mapError (·.shifted source n)
  | [], q, k, _ => rfl
  | raw :: rest, q, k, h => by
    have hline : (p.recent = [] ∨ q.opened = true) ∨ isSignificant raw = false ∨ isHost raw = true := by
      refine h.imp_right fun hstart => ?_
      by_cases hsig : isSignificant raw = true
      · exact .inr (hstart raw (by rw [List.find?_cons_of_pos hsig]; rfl))
      · exact .inl (by simpa using hsig)
    rw [readOn, readOn, step_following n k hline]
    cases hstep : q.step k (Line.ofText (Line.strip raw)) with
    | error cause => rfl
    | ok next =>
      have hnext : (p.recent = [] ∨ next.opened = true) ∨ StartsWithHost rest := by
        have hopened := opened_of_step hstep
        rcases h with (h | h) | h
        · exact .inl (.inl h)
        · exact .inl (.inr (by rw [hopened, h, Bool.true_or]))
        · rcases hline with hown | hsig | hhost
          · exact .inl (hown.imp_right fun hq => by rw [hopened, hq, Bool.true_or])
          · unfold StartsWithHost at h
            rw [List.find?_cons_of_neg (by simp [hsig])] at h
            exact .inr h
          · exact .inl (.inr (by rw [hopened, hhost, Bool.or_true]))
      exact readOn_following source other p n rest next (k + 1) hnext

theorem file_following (p q : Progress) (n : Nat) (source first second : Text) : (p.following n q).file source =
    { (p.file first).combine ((q.file second).shifted n) with source := source } := by
  simp [file, following, combine, shifted]

/-- What lines are read as does not depend on the name of their source. -/
theorem readOn_ok_congr {source : Text} (other : Text) : ∀ {lines : List Text} {p q : Progress} {n : Nat},
    p.readOn source n lines = .ok q → p.readOn other n lines = .ok q
  | [], _, _, _, h => h
  | _ :: _, _, _, _, h => by
    obtain ⟨next, hstep, hrest⟩ := readOn_cons_ok_iff.1 h
    exact readOn_cons_ok_iff.2 ⟨next, hstep, readOn_ok_congr other hrest⟩

end Progress

/-- **Lines after other lines are read as the combined source**, and a refusal of theirs as one further down. -/
theorem ofLines_append {first : Text} {l m : List Text} {f : ConfigFile} (hl : ofLines first l = .ok f)
    (hjoin : f.entries = [] ∨ StartsWithHost m) (second source : Text) : ofLines source (l ++ m) =
      ((ofLines second m).map fun g => { f.combine (g.shifted l.length) with source := source }).mapError
        (·.shifted source l.length) := by
  obtain ⟨p, hp, rfl⟩ := ofLines_ok_iff.1 hl
  have hown : (p.recent = [] ∨ ({} : Progress).opened = true) ∨ StartsWithHost m :=
    hjoin.imp_left fun h => .inl (by simpa [Progress.file] using h)
  have hread := Progress.readOn_following source second p l.length m {} 1 hown
  rw [Progress.following_empty, Nat.add_comm] at hread
  unfold ofLines
  rw [(Progress.readsOn_lines source).append, Progress.readOn_ok_congr source hp]
  simp only [Except.bind, hread]
  cases Progress.readOn second {} 1 m with
  | error r => rfl
  | ok q => exact congrArg Except.ok (Progress.file_following p q l.length source first second)

/-- **Texts one after the other are the combined source.**  Let lines be read as a source, and others follow them that
open with a host line, unless the source has no entries.  What the others are read as by themselves is then combined
with the source, where the numbers of their lines go up by those before them; and if they are refused by themselves, they
are refused for the same reason further down. -/
theorem readLines_append_combine {first : Text} {l : List Text} {f : ConfigFile} {s : Session}
    (hl : (Act.readLines first l s).1 = .ok f) {m : List Text} (hjoin : f.entries = [] ∨ StartsWithHost m)
    (second source : Text) (t u : Session) :
    (∀ g, (Act.readLines second m t).1 = .ok g → (Act.readLines source (l ++ m) u).1 =
      .ok { f.combine (g.shifted l.length) with source := source }) ∧
    ∀ e c, (Act.readLines second m t).1 = .error (.config (.refused e c)) → ∃ (k : Nat) (line : Text),
      e.place = ⟨.str second, .int k, .str line⟩ ∧ (Act.readLines source (l ++ m) u).1 =
        .error (.config (.refused ⟨e.pattern, e.reason, ⟨.str source, .int (l.length + k : Nat), .str line⟩⟩ c)) := by
  rw [Act.readLines_fst] at hl
  have happend := ofLines_append (eq_ok_of_mapError_ok hl) hjoin second source
  rw [Act.readLines_fst, Act.readLines_fst, happend]
  constructor
  · intro g hg
    rw [eq_ok_of_mapError_ok hg]
    rfl
  · intro e c h
    obtain ⟨r, hr, htold⟩ := mapError_eq_error_iff.1 h
    obtain ⟨hletter, rfl, rfl⟩ := Fault.ofRefusal_eq_refused_iff.1 htold
    refine ⟨r.number, r.line, ?_, ?_⟩
    · rw [← source_of_ofLines_error hr]
      rfl
    · rw [hr]
      exact congrArg Except.error (Fault.ofRefusal_eq_refused_iff.2 ⟨hletter, rfl, rfl⟩)

/-- Lines with a host, and lines that open with another one. -/
def earlierLines : List Text :=
  ["Port 22\n", "Host a *.b\n", "  User alice\n"]

def laterLines : List Text :=
  ["\n", "# more\n", "host=c\n", "\tPort 7\n"]

/-- Lines that open with a host line, of which the second is refused. -/
def refusedLaterLines : List Text :=
  ["Host c\n", "  Port\n"]

theorem readLines_append_combine_hosts :
    (∃ f g, ∀ s : Session, (Act.readLines "first" earlierLines s).1 = .ok f ∧
      (Act.readLines "second" laterLines s).1 = .ok g ∧ (Act.readLines "both" (earlierLines ++ laterLines) s).1 =
        .ok { f.combine (g.shifted 3) with source := ("both" : Text) }) ∧
    ∃ e c, e.reason = .str "delimiter not found" ∧ ∀ s : Session,
      (Act.readLines "second" refusedLaterLines s).1 = .error (.config (.refused e c)) ∧
      (Act.readLines "both" (earlierLines ++ refusedLaterLines) s).1 =
        .error (.config (.refused ⟨e.pattern, e.reason, ⟨.str "both", .int 5, .str "  Port"⟩⟩ c)) := by
  have hread : ∀ source lines, (ofLines source lines).isOk = true →
      ∃ f, ∀ s, (Act.readLines source lines s).1 = .ok f := by
    intro source lines hok
    obtain ⟨f, hf⟩ := exists_of_isOk hok
    exact ⟨f, fun s => by rw [Act.readLines_fst, hf]; rfl⟩
  obtain ⟨f, hf⟩ := hread "first" earlierLines (by decide +kernel)
  have hstart : StartsWithHost laterLines ∧ StartsWithHost refusedLaterLines := by
    unfold StartsWithHost
    decide +kernel
  constructor
  · obtain ⟨g, hg⟩ := hread "second" laterLines (by decide +kernel)
    exact ⟨f, g, fun s => ⟨hf s, hg s,
      (readLines_append_combine (hf s) (.inr hstart.1) "second" "both" s s).1 g (hg s)⟩⟩
  · have hsaid : ((ofLines "second" refusedLaterLines).map fun _ => ()).mapError Refusal.said =
        .error (none, "delimiter not found".toList, 2, "  Port".toList) := by
      decide +kernel
    obtain ⟨e, he, hreason, hplace⟩ := exists_refused_of_said hsaid
    refine ⟨e, {}, hreason, fun s => ?_⟩
    obtain ⟨k, line, hk, hboth⟩ :=
      (readLines_append_combine (hf s) (.inr hstart.2) "second" "both" s s).2 e {} (he s)
    obtain ⟨-, hnumber, hline⟩ := Place.mk.inj (hk.symm.trans hplace)
    obtain rfl : k = 2 := by
      have := Json.int.inj hnumber
      omega
    rw [Json.str.inj hline] at hboth
    exact ⟨he s, hboth⟩

end ConfigFile
end SshConfig
