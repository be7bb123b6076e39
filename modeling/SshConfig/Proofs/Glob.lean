import Mathlib.Data.List.Forall2
import SshConfig.Glob
import SshConfig.Proofs.Text.Trim
/-!
# Glob — which names a glob matches

A glob matches a name exactly if the name can be cut into one piece for each character of the glob: any piece for a
star, one character for a question mark, and the character itself for any other (`Cuts`).  A row holds what is true of
every end piece of a name, so it is what is true of the name and then the row of the name without its first character
(`row_cons`); this gives one law for each kind of character in a glob.

The regular expression of a glob has one part for each character between its anchors (`parts?_regex`).  As a whole it
matches the same names, although its last anchor would be content with the place before a line feed
(`fullMatch_regex_iff`).
-/
namespace SshConfig
namespace Glob

/-! ## Pieces of a name -/

/-- **The piece stands for a character of a glob.** -/
def Stands (c : Char) (piece : Text) : Prop :=
  if c = '*' then True else if c = '?' then piece.length = 1 else piece = [c]

/-- **The name can be cut into pieces that stand for the characters of the glob**, one for each, in order. -/
def Cuts (glob name : Text) : Prop :=
  ∃ pieces : List Text, pieces.flatten = name ∧ List.Forall₂ Stands glob pieces

theorem cuts_nil_iff {name : Text} : Cuts [] name ↔ name = [] := by
  unfold Cuts
  simp only [List.forall₂_nil_left_iff, exists_eq_right, List.flatten_nil]
  exact eq_comm

theorem cuts_cons_iff {c : Char} {glob name : Text} :
    Cuts (c :: glob) name ↔ ∃ piece rest, name = piece ++ rest ∧ Stands c piece ∧ Cuts glob rest := by
  constructor
  · rintro ⟨pieces, rfl, h⟩
    obtain ⟨piece, others, hpiece, hothers, rfl⟩ := List.forall₂_cons_left_iff.1 h
    exact ⟨piece, others.flatten, rfl, hpiece, others, rfl, hothers⟩
  · rintro ⟨piece, rest, rfl, hpiece, others, rfl, hothers⟩
    exact ⟨piece :: others, rfl, .cons hpiece hothers⟩

theorem cuts_star_iff {glob name : Text} :
    Cuts ('*' :: glob) name ↔ ∃ piece rest, name = piece ++ rest ∧ Cuts glob rest := by
  rw [cuts_cons_iff]
  constructor
  · rintro ⟨piece, rest, hname, -, hrest⟩
    exact ⟨piece, rest, hname, hrest⟩
  · rintro ⟨piece, rest, hname, hrest⟩
    exact ⟨piece, rest, hname, trivial, hrest⟩

theorem stands_iff_of_ne {c : Char} (hc : c ≠ '*') {piece : Text} :
    Stands c piece ↔ ∃ d, piece = [d] ∧ (c = '?' ∨ c = d) := by
  unfold Stands
  rw [if_neg hc]
  by_cases hany : c = '?'
  · rw [if_pos hany, List.length_eq_one_iff]
    simp only [hany, true_or, and_true]
  · rw [if_neg hany]
    constructor
    · rintro rfl
      exact ⟨c, rfl, .inr rfl⟩
    · rintro ⟨d, rfl, h⟩
      rw [h.resolve_left hany]

theorem cuts_cons_iff_of_ne {c : Char} (hc : c ≠ '*') {glob name : Text} :
    Cuts (c :: glob) name ↔ ∃ d rest, name = d :: rest ∧ (c = '?' ∨ c = d) ∧ Cuts glob rest := by
  rw [cuts_cons_iff]
  constructor
  · rintro ⟨piece, rest, rfl, hpiece, hrest⟩
    obtain ⟨d, rfl, hd⟩ := (stands_iff_of_ne hc).1 hpiece
    exact ⟨d, rest, rfl, hd, hrest⟩
  · rintro ⟨d, rest, rfl, hd, hrest⟩
    exact ⟨[d], rest, rfl, (stands_iff_of_ne hc).2 ⟨d, rfl, hd⟩, hrest⟩

/-! ## The row of a name -/

theorem row_star (name glob : Text) : row name ('*' :: glob) = anyFrom (row name glob) := rfl

theorem row_of_ne {c : Char} (hc : c ≠ '*') (name glob : Text) :
    row name (c :: glob) =
      List.zipWith (fun d rest => (c = '?' || c = d) && rest) name ((row name glob).drop 1) ++ [false] :=
  if_neg hc

theorem exists_row_eq (name : Text) : ∀ glob, ∃ b bs, row name glob = b :: bs
  | [] => List.exists_cons_of_ne_nil (List.append_ne_nil_of_right_ne_nil _ (List.cons_ne_nil _ _))
  | c :: glob => by
    obtain ⟨b, bs, hrow⟩ := exists_row_eq name glob
    by_cases hc : c = '*'
    · rw [hc, row_star, hrow]
      exact ⟨_, _, rfl⟩
    · rw [row_of_ne hc]
      exact List.exists_cons_of_ne_nil (List.append_ne_nil_of_right_ne_nil _ (List.cons_ne_nil _ _))

theorem row_nil : ∀ glob, row [] glob = [accepts glob []]
  | [] => rfl
  | c :: glob => by
    unfold accepts
    by_cases hc : c = '*'
    · rw [hc, row_star, row_nil glob]
      rfl
    · rw [row_of_ne hc]
      rfl

/-- **The row of a name is what is true of it, and then the row of the name without its first character.** -/
theorem row_cons (d : Char) (name : Text) : ∀ glob, row (d :: name) glob = accepts glob (d :: name) :: row name glob
  | [] => rfl
  | c :: glob => by
    obtain ⟨b, bs, hrow⟩ := exists_row_eq name glob
    unfold accepts
    by_cases hc : c = '*'
    · rw [hc, row_star, row_star, row_cons d name glob, hrow]
      rfl
    · rw [row_of_ne hc, row_of_ne hc, row_cons d name glob, hrow]
      rfl

theorem accepts_nil (name : Text) : accepts [] name = name.isEmpty := by
  cases name <;> rfl

theorem accepts_star_nil (glob : Text) : accepts ('*' :: glob) [] = accepts glob [] := by
  conv => lhs; unfold accepts
  rw [row_star, row_nil]
  exact Bool.or_false _

theorem accepts_star_cons (glob : Text) (d : Char) (name : Text) :
    accepts ('*' :: glob) (d :: name) = (accepts glob (d :: name) || accepts ('*' :: glob) name) := by
  conv => lhs; unfold accepts
  rw [row_star, row_cons]
  rfl

section
variable {c : Char} (hc : c ≠ '*')
include hc

theorem accepts_cons_nil (glob : Text) : accepts (c :: glob) [] = false := by
  unfold accepts
  rw [row_of_ne hc]
  rfl

theorem accepts_cons_cons (glob : Text) (d : Char) (name : Text) :
    accepts (c :: glob) (d :: name) = ((c = '?' || c = d) && accepts glob name) := by
  obtain ⟨b, bs, hrow⟩ := exists_row_eq name glob
  unfold accepts
  rw [row_of_ne hc, row_cons, hrow]
  rfl

end

theorem accepts_star_iff {glob : Text} : ∀ {name : Text},
    accepts ('*' :: glob) name = true ↔ ∃ piece rest, name = piece ++ rest ∧ accepts glob rest = true
  | [] => by
    rw [accepts_star_nil]
    constructor
    · intro h
      exact ⟨[], [], rfl, h⟩
    · rintro ⟨piece, rest, hname, h⟩
      rwa [(List.append_eq_nil_iff.1 hname.symm).2] at h
  | d :: name => by
    rw [accepts_star_cons, Bool.or_eq_true, accepts_star_iff]
    constructor
    · rintro (h | ⟨piece, rest, rfl, h⟩)
      · exact ⟨[], d :: name, rfl, h⟩
      · exact ⟨d :: piece, rest, rfl, h⟩
    · rintro ⟨piece, rest, hname, h⟩
      cases piece with
      | nil => exact .inl (by rwa [hname])
      | cons b piece =>
        obtain ⟨rfl, rfl⟩ := List.cons.inj hname
        exact .inr ⟨piece, rest, rfl, h⟩

/-- **A glob matches the names that can be cut into its pieces.** -/
theorem accepts_iff : ∀ {glob name : Text}, accepts glob name = true ↔ Cuts glob name
  | [], name => by rw [accepts_nil, cuts_nil_iff, List.isEmpty_iff]
  | c :: glob, name => by
    have ih : ∀ rest, accepts glob rest = true ↔ Cuts glob rest := fun _ => accepts_iff
    by_cases hc : c = '*'
    · -- the rest of the glob is shorter, whatever piece the star takes
      subst hc
      rw [accepts_star_iff, cuts_star_iff]
      simp only [ih]
    · rw [cuts_cons_iff_of_ne hc]
      cases name with
      | nil => simp [accepts_cons_nil hc]
      | cons d name => simp [accepts_cons_cons hc, ih]

/-- **A glob without wildcards matches itself and nothing else.** -/
theorem cuts_iff_of_isLiteral : ∀ {glob name : Text}, isLiteral glob = true → (Cuts glob name ↔ name = glob)
  | [], _, _ => cuts_nil_iff
  | c :: glob, name, h => by
    obtain ⟨⟨hstar, hany⟩, hglob⟩ : (c ≠ '*' ∧ c ≠ '?') ∧ isLiteral glob = true := by
      simp only [isLiteral, List.contains_cons, Bool.not_or, Bool.and_eq_true, Bool.not_eq_true',
        beq_eq_false_iff_ne] at h ⊢
      exact ⟨⟨h.1.1.symm, h.2.1.symm⟩, h.1.2, h.2.2⟩
    rw [cuts_cons_iff_of_ne hstar]
    simp only [hany, false_or, cuts_iff_of_isLiteral hglob]
    constructor
    · rintro ⟨d, rest, rfl, rfl, rfl⟩
      rfl
    · rintro rfl
      exact ⟨c, glob, rfl, rfl, rfl⟩

/-! ## The regular expression of a glob -/

/-- A part of a regular expression. -/
inductive Part where
  /-- The start of the text. -/
  | start
  /-- The end of the text, or the place before a line feed that ends it. -/
  | finish
  /-- One character of any kind. -/
  | any
  /-- Characters of any kind and number. -/
  | run
  | char (c : Char)
  deriving DecidableEq, Repr

/-- The parts of a regular expression; nothing if it has parts of other kinds. -/
def parts? : Text → Option (List Part)
  | [] => some []
  | '.' :: '*' :: e => (parts? e).map (.run :: ·)
  | '\\' :: c :: e => if isReserved c then (parts? e).map (.char c :: ·) else none
  | c :: e =>
    if c = '^' then (parts? e).map (.start :: ·)
    else if c = '$' then (parts? e).map (.finish :: ·)
    else if c = '.' then (parts? e).map (.any :: ·)
    else if isReserved c then none
    else (parts? e).map (.char c :: ·)

/-- **The parts match all that is left of a text**, `before` being what stands before it.  A line feed is a character
like any other. -/
def FullMatch : List Part → Text → Text → Prop
  | [], _, left => left = []
  | .start :: parts, before, left => before = [] ∧ FullMatch parts before left
  | .finish :: parts, before, left => (left = [] ∨ left = ['\n']) ∧ FullMatch parts before left
  | .any :: parts, before, left => ∃ c rest, left = c :: rest ∧ FullMatch parts (before ++ [c]) rest
  | .run :: parts, before, left => ∃ piece rest, left = piece ++ rest ∧ FullMatch parts (before ++ piece) rest
  | .char c :: parts, before, left => ∃ rest, left = c :: rest ∧ FullMatch parts (before ++ [c]) rest

/-- The part for a character of a glob. -/
def part (c : Char) : Part :=
  if c = '*' then .run else if c = '?' then .any else .char c

theorem regexChar_cases (c : Char) : (c = '*' ∧ regexChar c = ['.', '*']) ∨ (c = '?' ∧ regexChar c = ['.']) ∨
    (c ≠ '*' ∧ c ≠ '?' ∧ isReserved c = true ∧ regexChar c = ['\\', c]) ∨
    (c ≠ '*' ∧ c ≠ '?' ∧ isReserved c = false ∧ regexChar c = [c]) := by
  unfold regexChar
  by_cases hstar : c = '*'
  · subst hstar
    exact .inl ⟨rfl, rfl⟩
  by_cases hany : c = '?'
  · subst hany
    exact .inr (.inl ⟨rfl, rfl⟩)
  by_cases hreserved : isReserved c = true
  · simp [hstar, hany, hreserved]
  · simp [hstar, hany, hreserved]

/-- No part begins with a star, so a dot before it stays alone. -/
theorem head?_regexBody (glob : Text) : ∀ c ∈ (glob.flatMap regexChar ++ ['$']).head?, c ≠ '*' := by
  intro c hc
  cases glob with
  | nil =>
    cases hc
    decide
  | cons d glob =>
    rw [List.flatMap_cons] at hc
    rcases regexChar_cases d with ⟨-, h⟩ | ⟨-, h⟩ | ⟨-, -, -, h⟩ | ⟨hstar, -, -, h⟩
    · rw [h] at hc
      cases hc
      decide
    · rw [h] at hc
      cases hc
      decide
    · rw [h] at hc
      cases hc
      decide
    · rw [h] at hc
      cases hc
      exact hstar

theorem parts?_dot {e : Text} (he : ∀ c ∈ e.head?, c ≠ '*') : parts? ('.' :: e) = (parts? e).map (.any :: ·) := by
  cases e with
  | nil => rfl
  | cons c e =>
    have hc := he c rfl
    rw [parts?]
    · simp
    · simp [hc]
    · simp

theorem ne_of_isReserved {c d : Char} (hc : isReserved c = false) (hd : isReserved d = true) : c ≠ d := by
  rintro rfl
  exact Bool.false_ne_true (hc.symm.trans hd)

theorem parts?_ordinary {c : Char} (hc : isReserved c = false) (e : Text) :
    parts? (c :: e) = (parts? e).map (.char c :: ·) := by
  have hne : ∀ d, isReserved d = true → c ≠ d := fun _ => ne_of_isReserved hc
  rw [parts?]
  · rw [if_neg (hne '^' rfl), if_neg (hne '$' rfl), if_neg (hne '.' rfl), if_neg (by simp [hc])]
  · rintro e' rfl
    exact absurd rfl (hne '.' rfl)
  · rintro d e' rfl
    exact absurd rfl (hne '\\' rfl)

theorem parts?_regexBody : ∀ glob : Text,
    parts? (glob.flatMap regexChar ++ ['$']) = some (glob.map part ++ [.finish])
  | [] => rfl
  | c :: glob => by
    have ih := parts?_regexBody glob
    rw [List.flatMap_cons, List.append_assoc, List.map_cons, List.cons_append, part]
    rcases regexChar_cases c with ⟨rfl, h⟩ | ⟨rfl, h⟩ | ⟨hstar, hany, hreserved, h⟩ | ⟨hstar, hany, hreserved, h⟩
    · rw [h, List.cons_append, List.singleton_append, parts?, ih]
      rfl
    · rw [h, List.singleton_append, parts?_dot (head?_regexBody glob), ih]
      rfl
    · rw [h, List.cons_append, List.singleton_append, parts?, if_pos hreserved, ih, if_neg hstar, if_neg hany]
      rfl
    · rw [h, List.singleton_append, parts?_ordinary hreserved, ih, if_neg hstar, if_neg hany]
      rfl

/-- **The regular expression of a glob has a part for each of its characters, between two anchors.** -/
theorem parts?_regex (glob : Text) : parts? (regex glob) = some (.start :: (glob.map part ++ [.finish])) := by
  unfold regex
  rw [List.cons_append, parts?]
  · rw [if_pos rfl, parts?_regexBody]
    rfl
  · simp
  · simp

/-- **The parts of a glob match what its characters can be cut from.**  The last anchor asks for less than the end of
the match does, so it has no part in it. -/
theorem fullMatch_parts_iff : ∀ {glob before left : Text},
    FullMatch (glob.map part ++ [.finish]) before left ↔ Cuts glob left
  | [], before, left => by
    rw [cuts_nil_iff]
    constructor
    · exact And.right
    · intro h
      exact ⟨.inl h, h⟩
  | c :: glob, before, left => by
    have ih : ∀ before rest, FullMatch (glob.map part ++ [.finish]) before rest ↔ Cuts glob rest :=
      fun _ _ => fullMatch_parts_iff
    rw [List.map_cons, List.cons_append, part]
    by_cases hstar : c = '*'
    · rw [if_pos hstar, hstar, cuts_star_iff, FullMatch]
      simp only [ih]
    rw [if_neg hstar, cuts_cons_iff_of_ne hstar]
    by_cases hany : c = '?'
    · rw [if_pos hany, FullMatch]
      simp only [ih, hany, true_or, true_and]
    · rw [if_neg hany, FullMatch]
      simp [ih, hany]

theorem fullMatch_regex_iff (glob : Text) : ∃ parts, parts? (regex glob) = some parts ∧
    ∀ name, FullMatch parts [] name ↔ Cuts glob name := by
  refine ⟨_, parts?_regex glob, fun name => ?_⟩
  rw [FullMatch, fullMatch_parts_iff]
  exact and_iff_right rfl

/-! ## Globs as they are given -/

theorem ofText?_eq_some_iff {text glob : Text} :
    ofText? text = some glob ↔ Text.trim text ≠ [] ∧ Text.trim text = glob := by
  unfold ofText?
  by_cases h : Text.trim text = []
  · simp [h]
  · simp [h]

theorem ofTexts_eq : ∀ {texts globs : List Text}, List.Forall₂ (fun text glob => ofText? text = some glob) texts globs →
    globs = texts.map Text.trim
  | [], _, h => List.forall₂_nil_left_iff.1 h
  | text :: texts, _, h => by
    obtain ⟨glob, globs, hglob, hglobs, rfl⟩ := List.forall₂_cons_left_iff.1 h
    rw [List.map_cons, (ofText?_eq_some_iff.1 hglob).2, ofTexts_eq hglobs]

theorem anyAccepts_iff {globs : List Text} {name : Text} :
    anyAccepts globs name = true ↔ ∃ glob ∈ globs, Cuts glob name := by
  unfold anyAccepts
  rw [List.any_eq_true]
  simp only [accepts_iff]

/-- **Which names a glob matches.**  A text that is not blank is a glob without the blanks around it, and the glob
matches a name exactly if the name can be cut into one piece for each of its characters.  So does its regular
expression, taken as a whole.  Without wildcards the glob matches itself only, and globs together match what one of them
does. -/
theorem accepts_iff_cut {text : Text} (h : Text.trim text ≠ []) (name : Text) :
    ∃ glob, ofText? text = some glob ∧ glob = Text.trim text ∧
      (accepts glob name = true ↔ Cuts glob name) ∧
      (∃ parts, parts? (regex glob) = some parts ∧ (accepts glob name = true ↔ FullMatch parts [] name)) ∧
      (isLiteral glob = true → (accepts glob name = true ↔ name = glob)) ∧
      ∀ texts globs, List.Forall₂ (fun text glob => ofText? text = some glob) (text :: texts) globs →
        (anyAccepts globs name = true ↔ ∃ member ∈ text :: texts, Cuts (Text.trim member) name) := by
  refine ⟨Text.trim text, ofText?_eq_some_iff.2 ⟨h, rfl⟩, rfl, accepts_iff, ?_, fun hliteral => ?_,
    fun texts globs hglobs => ?_⟩
  · obtain ⟨parts, hparts, hmatch⟩ := fullMatch_regex_iff (Text.trim text)
    exact ⟨parts, hparts, accepts_iff.trans (hmatch name).symm⟩
  · exact accepts_iff.trans (cuts_iff_of_isLiteral hliteral)
  · rw [anyAccepts_iff, ofTexts_eq hglobs]
    simp only [List.mem_map, exists_exists_and_eq_and]

theorem accepts_iff_cut_line_feeds :
    ∃ glob, ofText? " *.b?\t" = some glob ∧ accepts glob "\n.b\n" = true ∧ accepts glob "\n.b\n\n" = false ∧
      ∃ parts, parts? (regex glob) = some parts ∧ FullMatch parts [] "\n.b\n" ∧ ¬ FullMatch parts [] "\n.b\n\n" := by
  obtain ⟨glob, hglob, rfl, -, ⟨parts, hparts, hmatch⟩, -⟩ :=
    @accepts_iff_cut " *.b?\t" (by decide) "\n.b\n"
  obtain ⟨-, -, rfl, -, ⟨parts', hparts', hmiss⟩, -⟩ :=
    @accepts_iff_cut " *.b?\t" (by decide) "\n.b\n\n"
  cases hparts.symm.trans hparts'
  have hyes : accepts (Text.trim " *.b?\t") "\n.b\n" = true := by decide
  have hno : accepts (Text.trim " *.b?\t") "\n.b\n\n" = false := by decide
  refine ⟨_, hglob, hyes, hno, parts, hparts, hmatch.1 hyes, fun hlast => ?_⟩
  exact Bool.false_ne_true (hno.symm.trans (hmiss.2 hlast))

end Glob
end SshConfig
