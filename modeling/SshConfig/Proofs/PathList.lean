import SshConfig.Files.PathList
import SshConfig.Proofs.Settings.KeyAndValue
/-!
# PathList — quoted paths are split into the paths

A path stands for itself between double marks, with a backslash before every backslash and every double mark, and
between single marks if it has none (`Quoted`).  Whatever follows, the reading of a quoted path comes to the end of the
path (`readOn_quoted`), and a gap after it starts the next one (`readOn_gap_after`).  So a value of quoted paths with
gaps between them (`Lists`) is split into these paths (`split_of_lists`).
-/
namespace SshConfig
namespace PathList

/-- A character between double marks: a backslash stands before a backslash and before a double mark. -/
def escape (c : Char) : Text :=
  if c = '\\' ∨ c = '"' then ['\\', c] else [c]

/-- A path between double marks. -/
def doubleQuoted (path : Text) : Text :=
  '"' :: (path.flatMap escape ++ ['"'])

/-- A path between single marks. -/
def singleQuoted (path : Text) : Text :=
  '\'' :: (path ++ ['\''])

/-- **What a path is quoted as.** -/
inductive Quoted (path : Text) : Text → Prop where
  | double : Quoted path (doubleQuoted path)
  | single (h : '\'' ∉ path) : Quoted path (singleQuoted path)

/-- **A value lists paths**: each of them is quoted, and there are gaps between them. -/
inductive Lists : List Text → Text → Prop where
  | one {path q : Text} (hq : Quoted path q) : Lists [path] q
  | cons {path q b value : Text} {paths : List Text} (hq : Quoted path q) (hb : IsGap b) (hne : b ≠ [])
      (h : Lists paths value) : Lists (path :: paths) (q ++ (b ++ value))

/-! ## One character -/

section OneCharacter
variable (path : Text)

theorem readOn_double_mark (t : Text) : readOn path .double ('"' :: t) = readOn path .word t := rfl

theorem readOn_double_escaped {c : Char} (hc : c = '\\' ∨ c = '"') (t : Text) :
    readOn path .double ('\\' :: c :: t) = readOn (c :: path) .double t := by
  rcases hc with rfl | rfl <;> rfl

theorem readOn_double {c : Char} (hmark : c ≠ '"') (hback : c ≠ '\\') (t : Text) :
    readOn path .double (c :: t) = readOn (c :: path) .double t :=
  (if_neg hmark).trans (if_neg hback)

theorem readOn_single_mark (t : Text) : readOn path .single ('\'' :: t) = readOn path .word t := rfl

theorem readOn_single {c : Char} (hc : c ≠ '\'') (t : Text) :
    readOn path .single (c :: t) = readOn (c :: path) .single t :=
  if_neg hc

theorem readOn_between_gap {c : Char} (hc : isGap c = true) (t : Text) :
    readOn path .between (c :: t) = readOn [] .between t :=
  if_pos hc

theorem readOn_word_gap {c : Char} (hc : isGap c = true) (t : Text) :
    readOn path .word (c :: t) = (readOn [] .between t).map (path.reverse :: ·) :=
  if_pos hc

end OneCharacter

/-! ## One path -/

theorem readOn_escape (path : Text) (c : Char) (t : Text) :
    readOn path .double (escape c ++ t) = readOn (c :: path) .double t := by
  unfold escape
  by_cases hc : c = '\\' ∨ c = '"'
  · rw [if_pos hc, List.cons_append, List.singleton_append, readOn_double_escaped path hc]
  · obtain ⟨hback, hmark⟩ := not_or.1 hc
    rw [if_neg hc, List.singleton_append, readOn_double path hmark hback]

/-- **The escaped characters of a path are read as the path.** -/
theorem readOn_escaped : ∀ (p path t : Text),
    readOn path .double (p.flatMap escape ++ '"' :: t) = readOn (p.reverse ++ path) .word t
  | [], path, t => by
    rw [List.flatMap_nil, List.nil_append, readOn_double_mark, List.reverse_nil, List.nil_append]
  | c :: p, path, t => by
    rw [List.flatMap_cons, List.append_assoc, readOn_escape, readOn_escaped p, List.reverse_cons, List.append_assoc,
      List.singleton_append]

theorem readOn_between_singles : ∀ {p : Text}, '\'' ∉ p → ∀ path t : Text,
    readOn path .single (p ++ '\'' :: t) = readOn (p.reverse ++ path) .word t
  | [], _, path, t => by rw [List.nil_append, readOn_single_mark, List.reverse_nil, List.nil_append]
  | c :: p, h, path, t => by
    have hc : c ≠ '\'' := fun e => h (e ▸ List.mem_cons_self)
    rw [List.cons_append, readOn_single path hc, readOn_between_singles (fun hm => h (List.mem_cons_of_mem c hm)),
      List.reverse_cons, List.append_assoc, List.singleton_append]

/-- **A quoted path is read as the path, whatever follows.** -/
theorem readOn_quoted {path q : Text} (hq : Quoted path q) (t : Text) :
    readOn [] .between (q ++ t) = readOn path.reverse .word t := by
  cases hq with
  | double =>
    have hopen : readOn [] .between (doubleQuoted path ++ t) = readOn [] .double (path.flatMap escape ++ '"' :: t) := by
      rw [doubleQuoted, List.cons_append, List.append_assoc]
      rfl
    rw [hopen, readOn_escaped, List.append_nil]
  | single h =>
    have hopen : readOn [] .between (singleQuoted path ++ t) = readOn [] .single (path ++ '\'' :: t) := by
      rw [singleQuoted, List.cons_append, List.append_assoc]
      rfl
    rw [hopen, readOn_between_singles h, List.append_nil]

/-! ## Gaps -/

theorem isGap_of_isGap {b : Text} (hb : IsGap b) : ∀ c ∈ b, isGap c = true := by
  intro c hc
  rcases hb c hc with rfl | rfl <;> rfl

theorem readOn_gap : ∀ {b : Text}, IsGap b → ∀ t : Text, readOn [] .between (b ++ t) = readOn [] .between t
  | [], _, t => rfl
  | c :: b, hb, t => by
    rw [List.cons_append, readOn_between_gap [] (isGap_of_isGap hb c List.mem_cons_self), readOn_gap hb.tail]

/-- **A gap ends a path.** -/
theorem readOn_gap_after {b : Text} (hb : IsGap b) (hne : b ≠ []) (path t : Text) :
    readOn path .word (b ++ t) = (readOn [] .between t).map (path.reverse :: ·) := by
  obtain ⟨c, b, rfl⟩ := List.exists_cons_of_ne_nil hne
  rw [List.cons_append, readOn_word_gap path (isGap_of_isGap hb c List.mem_cons_self), readOn_gap hb.tail]

/-! ## Lists of paths -/

/-- **A value is split into the paths that it lists.** -/
theorem split_of_lists {paths : List Text} {value : Text} (h : Lists paths value) : split value = .ok paths := by
  unfold split
  induction h with
  | @one path q hq =>
    have hread := readOn_quoted hq []
    rw [List.append_nil] at hread
    have hend : readOn path.reverse .word [] = .ok [path.reverse.reverse] := rfl
    rw [hread, hend, List.reverse_reverse]
  | @cons path q b value paths hq hb hne h ih =>
    rw [readOn_quoted hq, readOn_gap_after hb hne, ih, List.reverse_reverse]
    rfl

theorem Quoted.exists_marks {path q : Text} (hq : Quoted path q) :
    ∃ mark inner, q = mark :: (inner ++ [mark]) ∧ (mark = '"' ∨ mark = '\'') ∧ ('\n' ∉ path → '\n' ∉ inner) := by
  cases hq with
  | double =>
    refine ⟨'"', _, rfl, .inl rfl, fun hpath hmem => ?_⟩
    obtain ⟨c, hc, hmem⟩ := List.mem_flatMap.1 hmem
    have hmem : '\n' ∈ ['\\', c] := by
      unfold escape at hmem
      split at hmem
      · exact hmem
      · exact List.mem_cons_of_mem _ hmem
    simp only [List.mem_cons, List.not_mem_nil, or_false] at hmem
    rcases hmem with h | rfl
    · exact absurd h (by decide)
    · exact hpath hc
  | single => exact ⟨'\'', path, rfl, .inr rfl, id⟩

/-- **A list of paths starts and ends with a quotation mark**, and is on one line if its paths are. -/
theorem Lists.exists_marks {paths : List Text} {value : Text} (h : Lists paths value) :
    (∃ c ∈ value.head?, c = '"' ∨ c = '\'') ∧ (∃ c ∈ value.getLast?, c = '"' ∨ c = '\'') ∧
      ((∀ path ∈ paths, '\n' ∉ path) → '\n' ∉ value) := by
  induction h with
  | @one path q hq =>
    obtain ⟨mark, inner, rfl, hmark, hinner⟩ := hq.exists_marks
    have hline : mark ≠ '\n' := by rcases hmark with rfl | rfl <;> decide
    have hlast : (mark :: (inner ++ [mark])).getLast? = some mark := List.getLast?_concat (l := mark :: inner)
    refine ⟨⟨mark, rfl, hmark⟩, ⟨mark, hlast, hmark⟩, fun hpaths => ?_⟩
    have hpath := hinner (hpaths path List.mem_cons_self)
    simp [hpath, hline.symm]
  | @cons path q b value paths hq hb hne h ih =>
    obtain ⟨mark, inner, rfl, hmark, hinner⟩ := hq.exists_marks
    obtain ⟨⟨first, hfirst, -⟩, ⟨last, hlast, hlastMark⟩, hrest⟩ := ih
    have hline : mark ≠ '\n' := by rcases hmark with rfl | rfl <;> decide
    have hvalue : value ≠ [] := by
      rintro rfl
      cases hfirst
    refine ⟨⟨mark, rfl, hmark⟩, ⟨last, ?_, hlastMark⟩, fun hpaths => ?_⟩
    · rw [List.getLast?_append_of_ne_nil _ (List.append_ne_nil_of_right_ne_nil b hvalue),
        List.getLast?_append_of_ne_nil _ hvalue]
      exact hlast
    · have hpath := hinner (hpaths path List.mem_cons_self)
      have hvalue := hrest fun p hp => hpaths p (List.mem_cons_of_mem path hp)
      have hgap : '\n' ∉ b := fun hmem => absurd (hb '\n' hmem) (by decide)
      simp [hpath, hvalue, hgap, hline.symm]

end PathList
end SshConfig
