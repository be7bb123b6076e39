import SshConfig.Proofs.ConfigFile.Load
import SshConfig.Proofs.ConfigFile.Sections
import SshConfig.Proofs.Text.Pieces
import SshConfig.Proofs.Text.Utf8
/-!
# LineEnds — a source in a file and the same source as a text

A file is read with all its line ends made alike, a text is cut at its line feeds only and each line freed of what else
ends it.  Where every carriage return has its line feed, the two ways leave the same of every line
(`lines_unifyBreaks`), and no more of a line than that is looked at (`Act.readLines_map_strip`).  So the source in a
file is the source of its text (`Act.configAt_encode`).
-/
namespace SshConfig
namespace Text

theorem pieces_ne_nil (sep : Char → Bool) (t : Text) : pieces sep t ≠ [] := by
  rw [pieces_eq_splitOnP]
  exact List.splitOnP_ne_nil sep t

/-! ## Lines, one character after the other -/

theorem endedPieces_eq (sep : Char → Bool) (t : Text) : endedPieces sep t =
    if (pieces sep t).getLast? = some [] then (pieces sep t).dropLast else pieces sep t := by
  obtain ⟨ps, p, hp⟩ := List.eq_nil_or_concat (pieces sep t) |>.resolve_left (pieces_ne_nil sep t)
  unfold endedPieces
  rw [hp]
  cases p <;> simp

/-- **A line feed ends a line**, which is empty if nothing stands before it. -/
theorem lines_feed (t : Text) : lines ('\n' :: t) = [] :: lines t := by
  obtain ⟨p, ps, hp⟩ := List.exists_cons_of_ne_nil (pieces_ne_nil (· == '\n') t)
  have hfeed : pieces (· == '\n') ('\n' :: t) = [] :: pieces (· == '\n') t := by rw [pieces, if_pos (by rfl)]
  unfold lines
  rw [endedPieces_eq, endedPieces_eq, hfeed, hp, List.getLast?_cons_cons, List.dropLast_cons_cons]
  split <;> rfl

/-- **Any other character goes in front of the first line.** -/
theorem lines_cons {c : Char} (hc : c ≠ '\n') (t : Text) :
    lines (c :: t) = match lines t with
      | [] => [[c]]
      | l :: ls => (c :: l) :: ls := by
  obtain ⟨p, ps, hp⟩ := List.exists_cons_of_ne_nil (pieces_ne_nil (· == '\n') t)
  have hcons : pieces (· == '\n') (c :: t) = (c :: p) :: ps := by rw [pieces, if_neg (by simpa using hc), hp]
  unfold lines
  rw [endedPieces_eq, endedPieces_eq, hcons, hp]
  cases ps with
  | nil => cases p <;> simp
  | cons q qs =>
    rw [List.getLast?_cons_cons, List.getLast?_cons_cons, List.dropLast_cons_cons, List.dropLast_cons_cons]
    split <;> rfl

/-! ## Line ends of every kind -/

/-- Every carriage return is half of a line end: its line feed comes right after it. -/
def PairedReturns (t : Text) : Prop :=
  ∀ i, t[i]? = some '\r' → t[i + 1]? = some '\n'

instance (t : Text) : Decidable (PairedReturns t) :=
  decidable_of_iff (∀ i < t.length, t[i]? = some '\r' → t[i + 1]? = some '\n')
    ⟨fun h i hi => h i (List.getElem?_eq_some_iff.1 hi).1 hi, fun h i _ => h i⟩

theorem PairedReturns.tail {c : Char} {t : Text} (h : PairedReturns (c :: t)) : PairedReturns t := fun i hi =>
  h (i + 1) hi

theorem PairedReturns.exists_feed {t : Text} (h : PairedReturns ('\r' :: t)) : ∃ rest, t = '\n' :: rest := by
  have hfeed : t.head? = some '\n' := List.head?_eq_getElem? ▸ h 0 rfl
  exact List.head?_eq_some_iff.1 hfeed

/-- A line feed for every carriage return that has one after it. -/
def joinReturns : Text → Text
  | [] => []
  | '\r' :: '\n' :: t => '\n' :: joinReturns t
  | c :: t => c :: joinReturns t

/-- A line feed for every carriage return. -/
def feedReturns (t : Text) : Text :=
  t.map fun c => if c = '\r' then '\n' else c

/-- **Line ends are made alike in two rounds**: the pairs first, and then the carriage returns that are left. -/
theorem feedReturns_joinReturns (t : Text) : feedReturns (joinReturns t) = unifyBreaks t := by
  fun_induction joinReturns t with
  | case1 => rfl
  | case2 t ih =>
    rw [unifyBreaks, ← ih]
    rfl
  | case3 c t hpair ih =>
    rw [unifyBreaks, ← ih]
    · rfl
    · exact hpair

end Text

namespace Line

theorem strip_cons {c : Char} (hreturn : c ≠ '\r') (hfeed : c ≠ '\n') (l : Text) : strip (c :: l) = c :: strip l := by
  have hc : (c == '\r' || c == '\n') = false := by simp [hreturn, hfeed]
  unfold strip Text.dropEnd
  rw [List.reverse_cons, List.dropWhile_append, List.dropWhile_cons_of_neg (by simp [hc])]
  split
  · rename_i hnone
    rw [List.isEmpty_iff.1 hnone]
    rfl
  · exact List.reverse_concat

/-- **The line without its end is what is looked at.** -/
theorem strip_strip (raw : Text) : strip (strip raw) = strip raw :=
  Text.dropEnd_dropEnd _ raw

end Line

namespace Text

/-- **Making line ends alike changes no more than the ends of the lines**, where no carriage return stands alone. -/
theorem lines_unifyBreaks {t : Text} (h : PairedReturns t) :
    (lines (unifyBreaks t)).map Line.strip = (lines t).map Line.strip := by
  fun_induction unifyBreaks t with
  | case1 => rfl
  | case2 t ih =>
    have hpair : lines ('\r' :: '\n' :: t) = ['\r'] :: lines t := by rw [lines_cons (by decide), lines_feed]
    rw [lines_feed, hpair, List.map_cons, List.map_cons, ih h.tail.tail]
    rfl
  | case3 c t hpair ih =>
    have ih := ih h.tail
    have hreturn : c ≠ '\r' := by
      rintro rfl
      obtain ⟨rest, rfl⟩ := h.exists_feed
      exact hpair rest rfl rfl
    rw [if_neg hreturn]
    by_cases hfeed : c = '\n'
    · subst hfeed
      rw [lines_feed, lines_feed, List.map_cons, List.map_cons, ih]
    · rw [lines_cons hfeed, lines_cons hfeed]
      cases hu : lines (unifyBreaks t) with
      | nil =>
        rw [hu, List.map_nil] at ih
        rw [List.map_eq_nil_iff.1 ih.symm]
      | cons l ls =>
        rw [hu, List.map_cons] at ih
        obtain ⟨l', ls', ht, hline, hrest⟩ := List.map_eq_cons_iff.1 ih.symm
        simp only [ht, List.map_cons]
        rw [Line.strip_cons hreturn hfeed, Line.strip_cons hreturn hfeed, hline, hrest]

end Text

namespace ConfigFile

/-! ## Lines without their ends -/

theorem Progress.readOn_map_strip (source : Text) : ∀ (lines : List Text) (p : Progress) (n : Nat),
    p.readOn source n (lines.map Line.strip) = p.readOn source n lines
  | [], _, _ => rfl
  | raw :: rest, p, n => by
    simp only [List.map_cons, readOn, Line.strip_strip, readOn_map_strip source rest]

theorem ofLines_map_strip (source : Text) (lines : List Text) :
    ofLines source (lines.map Line.strip) = ofLines source lines := by
  unfold ofLines
  rw [Progress.readOn_map_strip]

theorem unsupported_map_strip (source : Text) (lines : List Text) :
    unsupported source (lines.map Line.strip) = unsupported source lines := by
  have hcount : acceptedCount source (lines.map Line.strip) = acceptedCount source lines := by
    unfold acceptedCount
    rw [ofLines_map_strip, List.length_map]
  unfold unsupported
  rw [hcount, ← List.map_take, List.zipIdx_map, List.filterMap_map]
  simp only [Function.comp_def, Prod.map_fst, Prod.map_snd, id_eq, Line.strip_strip]

end ConfigFile

namespace Act

/-- **Lines are read without their ends**, with the same remarks. -/
theorem readLines_map_strip (source : Text) (lines : List Text) :
    readLines source (lines.map Line.strip) = readLines source lines := by
  unfold readLines
  rw [ConfigFile.ofLines_map_strip, ConfigFile.unsupported_map_strip]

theorem bytes_snd (path : Text) (s : Session) : (bytes path s).2 = s := by
  unfold bytes
  split
  · rfl
  · rw [bind_run, get_run]
    dsimp only
    cases s.tree.read (FilePath.ofText path) <;> rfl

theorem configAt_run_of_bytes {path : Text} {s : Session} {bs : List UInt8} (h : (bytes path s).1 = .ok bs) :
    configAt path s = readConfig (FilePath.normal path) (Text.unifyBreaks (Text.decode bs)) s := by
  have hbytes : bytes path s = (.ok bs, s) := Prod.ext h (bytes_snd path s)
  have htext : text path s = (.ok (Text.unifyBreaks (Text.decode bs)), s) := by
    unfold text
    rw [bind_run, hbytes]
    rfl
  unfold configAt
  rw [bind_run, htext]

/-- **The source in a file is the source of its text.**  Reading the file where a text is kept as bytes does the same as
reading the text with a line feed for each pair of a carriage return and a line feed, and then for each carriage return
that is left.  If none is left, it does the same as reading the text as it is: the source is the same, or the failure
with its line and number, and so are the remarks on the way. -/
theorem configAt_encode {path t : Text} {s : Session} (hfile : (bytes path s).1 = .ok (Text.encode t)) :
    configAt path s = readConfig (FilePath.normal path) (Text.feedReturns (Text.joinReturns t)) s ∧
      (Text.PairedReturns t → configAt path s = readConfig (FilePath.normal path) t s) := by
  have hread := configAt_run_of_bytes hfile
  rw [Text.decode_encode] at hread
  refine ⟨by rw [Text.feedReturns_joinReturns, hread], fun hpaired => ?_⟩
  rw [hread]
  unfold readConfig
  rw [← readLines_map_strip, Text.lines_unifyBreaks hpaired, readLines_map_strip]

/-- A text with line ends of both kinds, in which a character takes three bytes. -/
def mixedText : Text :=
  "Host a\r\n  User \u20ac\n  Port 7\r\n\r\n"

/-- A session in which a file holds the text. -/
def mixedSession : Session :=
  { environment := sampleEnvironment .keyless
    tree := FileTree.bare.put ⟨false, ["conf"]⟩ (FileTree.file (Text.encode mixedText)) }

theorem configAt_encode_mixed :
    (bytes "./conf" mixedSession).1 = .ok (Text.encode mixedText) ∧ Text.PairedReturns mixedText ∧
      configAt "./conf" mixedSession = readConfig "conf" (Text.feedReturns (Text.joinReturns mixedText)) mixedSession ∧
      configAt "./conf" mixedSession = readConfig "conf" mixedText mixedSession := by
  have hpaired : Text.PairedReturns mixedText := by decide +kernel
  have hfile : (bytes "./conf" mixedSession).1 = .ok (Text.encode mixedText) := by rfl
  obtain ⟨hmade, hplain⟩ := configAt_encode hfile
  exact ⟨hfile, hpaired, hmade, hplain hpaired⟩

end Act
end SshConfig
