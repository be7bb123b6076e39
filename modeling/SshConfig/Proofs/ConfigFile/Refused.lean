import SshConfig.Proofs.Fault.Letter
/-!
# Refused — which line of a source is refused

A source is refused at the first of its lines that is not accepted, and the refusal says which line that is.  The lines
before it are a source by themselves, and those after it have no part in the refusal (`refused_at_first`).
-/
namespace SshConfig

namespace Line

/-- **A raw line is what is left of it, and a line end**, which is as long as it can be. -/
theorem exists_strip_append (raw : Text) : ∃ ending, raw = strip raw ++ ending ∧ (∀ c ∈ ending, c = '\r' ∨ c = '\n') ∧
    ∀ c ∈ (strip raw).getLast?, c ≠ '\r' ∧ c ≠ '\n' := by
  obtain ⟨ending, hraw, hending⟩ := Text.exists_dropEnd_append (fun c => c == '\r' || c == '\n') raw
  refine ⟨ending, hraw, fun c hc => by simpa using hending c hc, fun c hc => ?_⟩
  have hlast := Text.dropEnd_eq_self_iff.1 (Text.dropEnd_dropEnd (fun c => c == '\r' || c == '\n') raw) c hc
  simpa using hlast

end Line

namespace Fault

/-- **What is told of a refusal is its complaint and its place**, unless a letter passes. -/
theorem ofRefusal_eq_refused_iff {r : Refusal} {e : LineError} {c : Context} :
    ofRefusal r = .config (.refused e c) ↔ r.cause.letter? = none ∧ e = r.cause.told r.place ∧ c = {} := by
  unfold ofRefusal
  rw [ofComplaint_eq]
  cases r.cause.letter? with
  | some letter => simp
  | none =>
    simp only [Fault.config.injEq, ConfigError.refused.injEq, true_and]
    exact and_congr eq_comm eq_comm

end Fault

/-- What a refusal says of its line: the letter that passes, if one does, the reason, the number and the line. -/
def Refusal.said (r : Refusal) : Option Char × Text × Nat × Text :=
  (r.cause.letter?, r.cause.reason, r.number, r.line)

theorem Refusal.exists_of_said {α : Type} {x : Except Refusal α} {reason line : Text} {number : Nat}
    (h : (x.map fun _ => ()).mapError Refusal.said = .error (none, reason, number, line)) :
    ∃ r, x = .error r ∧ x.mapError Fault.ofRefusal = .error (.config (.refused (r.cause.told r.place) {})) ∧
      r.cause.reason = reason ∧ r.number = number ∧ r.line = line := by
  obtain ⟨r, hr, hsaid⟩ := mapError_eq_error_iff.1 h
  rw [map_eq_error_iff] at hr
  simp only [Refusal.said, Prod.mk.injEq] at hsaid
  obtain ⟨hletter, hreason, hnumber, hline⟩ := hsaid
  refine ⟨r, hr, ?_, hreason, hnumber, hline⟩
  rw [hr]
  exact congrArg Except.error (Fault.ofRefusal_eq_refused_iff.2 ⟨hletter, rfl, rfl⟩)

namespace ConfigFile

/-- **A refusal comes from the first line that is not accepted**, whatever lines follow it. -/
theorem exists_of_ofLines_error {source : Text} {lines : List Text} {r : Refusal}
    (h : ofLines source lines = .error r) : ∃ before raw after f, lines = before ++ raw :: after ∧
      ofLines source before = .ok f ∧ r.place = ⟨.str source, .int (before.length + 1 : Nat), .str (Line.strip raw)⟩ ∧
      ∀ rest, ofLines source (before ++ raw :: rest) = .error r := by
  have hreads := Progress.readsOn_lines source
  obtain ⟨before, raw, after, p, rfl, hbefore, hraw⟩ := hreads.error_iff.1 (ofLines_error_iff.1 h)
  refine ⟨before, raw, after, p.file source, rfl, ofLines_ok_iff.2 ⟨p, hbefore, rfl⟩, ?_, fun rest => ?_⟩
  · obtain ⟨cause, -, rfl⟩ := mapError_eq_error_iff.1 hraw
    rw [Nat.add_comm before.length 1]
    rfl
  · exact ofLines_error_iff.2 (hreads.error_iff.2 ⟨before, raw, rest, p, rfl, hbefore, hraw⟩)

theorem source_of_ofLines_error {source : Text} {lines : List Text} {r : Refusal} (h : ofLines source lines = .error r) :
    r.source = source := by
  obtain ⟨_, _, _, _, -, -, hplace, -⟩ := exists_of_ofLines_error h
  exact Json.str.inj (congrArg Place.source hplace)

/-- **A source is refused at its first line that is not accepted, and the refusal says where that is.**  It gives the
source, the number of the line, and the line without its end.  The lines before that one are read, and lines that are
the same up to it are refused with the same failure, whatever follows. -/
theorem refused_at_first {source : Text} {lines : List Text} {e : LineError} {c : Context} {s : Session}
    (h : (Act.readLines source lines s).1 = .error (.config (.refused e c))) :
    ∃ (k : Nat) (line ending : Text), 1 ≤ k ∧ k ≤ lines.length ∧ lines[k - 1]? = some (line ++ ending) ∧
      (∀ ch ∈ ending, ch = '\r' ∨ ch = '\n') ∧ (∀ ch ∈ line.getLast?, ch ≠ '\r' ∧ ch ≠ '\n') ∧
      e.place = ⟨.str source, .int k, .str line⟩ ∧
      (∀ t, ∃ f, (Act.readLines source (lines.take (k - 1)) t).1 = .ok f) ∧
      ∀ other t, other.take k = lines.take k → (Act.readLines source other t).1 = .error (.config (.refused e c)) := by
  rw [Act.readLines_fst] at h
  obtain ⟨r, hr, htold⟩ := mapError_eq_error_iff.1 h
  obtain ⟨-, he, -⟩ := Fault.ofRefusal_eq_refused_iff.1 htold
  obtain ⟨before, raw, after, f, rfl, hbefore, hplace, hrest⟩ := exists_of_ofLines_error hr
  obtain ⟨ending, hraw, hending, hline⟩ := Line.exists_strip_append raw
  refine ⟨before.length + 1, Line.strip raw, ending, by omega, by simp, ?_, hending, hline,
    (congrArg LineError.place he).trans hplace, fun t => ⟨f, ?_⟩, fun other t hother => ?_⟩
  · rw [← hraw, Nat.add_sub_cancel, List.getElem?_append_right (Nat.le_refl _), Nat.sub_self, List.getElem?_cons_zero]
  · rw [Act.readLines_fst, Nat.add_sub_cancel, List.take_left, hbefore]
    rfl
  · have hsame : other = before ++ raw :: other.drop (before.length + 1) := by
      have htake : (before ++ raw :: after).take (before.length + 1) = before ++ [raw] := by
        rw [List.take_length_add_append, List.take_succ_cons, List.take_zero]
      conv => lhs; rw [← List.take_append_drop (before.length + 1) other, hother, htake]
      rw [List.append_assoc, List.singleton_append]
    rw [Act.readLines_fst, hsame, hrest, ← htold]
    rfl

theorem exists_refused_of_said {source : Text} {lines : List Text} {reason line : Text} {number : Nat}
    (h : ((ofLines source lines).map fun _ => ()).mapError Refusal.said = .error (none, reason, number, line)) :
    ∃ e, (∀ s, (Act.readLines source lines s).1 = .error (.config (.refused e {}))) ∧ e.reason = .str reason ∧
      e.place = ⟨.str source, .int number, .str line⟩ := by
  obtain ⟨r, hr, hrefused, rfl, rfl, rfl⟩ := Refusal.exists_of_said h
  refine ⟨r.cause.told r.place, fun s => ?_, rfl, ?_⟩
  · rw [Act.readLines_fst, hrefused]
  · rw [← source_of_ofLines_error hr]
    rfl

/-- Lines of which the fourth is refused, as its port is out of range.  The fifth would be refused as well. -/
def refusedLines : List Text :=
  ["Port 22\n", "# first\n", "Host a\r\n", "  Port 99999\r\n", "User b\n"]

theorem refused_at_first_port : ∃ e c,
    e.reason = .str "invalid value for Port (port out of range: '99999')" ∧
    e.place = ⟨.str "sample", .int 4, .str "  Port 99999"⟩ ∧
    ∀ s : Session, (Act.readLines "sample" refusedLines s).1 = .error (.config (.refused e c)) ∧
      (∃ f, (Act.readLines "sample" (refusedLines.take 3) s).1 = .ok f) ∧
      ∀ rest, (Act.readLines "sample" (refusedLines.take 4 ++ rest) s).1 = .error (.config (.refused e c)) := by
  have hsaid : ((ofLines "sample" refusedLines).map fun _ => ()).mapError Refusal.said =
      .error (none, "invalid value for Port (port out of range: '99999')".toList, 4, "  Port 99999".toList) := by
    decide +kernel
  obtain ⟨e, hread, hreason, hplace⟩ := exists_refused_of_said hsaid
  refine ⟨e, {}, hreason, hplace, fun s => ?_⟩
  obtain ⟨k, line, ending, -, -, -, -, -, hfirst, hbefore, hrest⟩ := refused_at_first (hread s)
  obtain rfl : k = 4 := by
    have := Json.int.inj (congrArg Place.lineno (hfirst.symm.trans hplace))
    omega
  exact ⟨hread s, hbefore s, fun rest => hrest _ s rfl⟩

end ConfigFile
end SshConfig
