import SshConfig.Proofs.Glob
/-!
# Tokens — the regular expression of a glob, read back

Between its anchors the regular expression of a glob is a row of tokens, one for each character of the glob
(`tokens?_regexChars`).  Tokens overlap in their characters, for a dot alone is a token and a dot with a star after it is
another, so a character is read with the rest left open: no token begins with a star (`tokens?_regexChar`).  A glob is
therefore told by its regular expression, and the only operators in it are those of the glob's own wildcards
(`operators_regexChars`).
-/
namespace SshConfig
namespace Glob

/-! ## Tokens -/

/-- A token of a regular expression between its anchors. -/
inductive Token where
  /-- Any sequence of characters. -/
  | run
  /-- Any one character. -/
  | any
  /-- A character that stands for itself. -/
  | char (c : Char)
  deriving DecidableEq, Repr

/-- The token for a character of a glob. -/
def Token.ofChar (c : Char) : Token :=
  if c = '*' then .run else if c = '?' then .any else .char c

/-- The character of a glob that a token is for. -/
def Token.toChar : Token → Char
  | run => '*'
  | any => '?'
  | char c => c

/-- The characters that are operators of a regular expression, or part of one, where no backslash stands before them. -/
def isOperator (c : Char) : Bool :=
  ".^$*+?\x7b\x7d[]\\|()".toList.contains c

/-- **The tokens of a regular expression, read from left to right**: a dot with a star, a dot alone, a character after a
backslash, and any other character, unless it is an operator. -/
def tokens? : Text → Option (List Token)
  | [] => some []
  | '.' :: '*' :: e => (tokens? e).map (.run :: ·)
  | '\\' :: c :: e => (tokens? e).map (.char c :: ·)
  | c :: e =>
    if c = '.' then (tokens? e).map (.any :: ·)
    else if isOperator c then none
    else (tokens? e).map (.char c :: ·)

/-- **The operators of a regular expression, in order**: those that stand without a backslash, and a letter or digit with
the backslash before it, which is a class or a reference. -/
def operators : Text → Text
  | [] => []
  | '\\' :: c :: e => if c.isAlphanum then '\\' :: c :: operators e else operators e
  | c :: e => if isOperator c then c :: operators e else operators e

/-- The operators that stand for a character of a glob. -/
def wildcard (c : Char) : Text :=
  if c = '*' then ".*" else if c = '?' then "." else []

theorem toChar_ofChar (c : Char) : (Token.ofChar c).toChar = c := by
  unfold Token.ofChar
  split
  · rename_i h
    exact h.symm
  split
  · rename_i h
    exact h.symm
  · rfl

theorem map_toChar_ofChar (glob : Text) : (glob.map Token.ofChar).map Token.toChar = glob := by
  rw [List.map_map]
  exact List.map_id'' toChar_ofChar glob

/-! ## One character of a glob -/

theorem isReserved_of_isOperator {c : Char} (h : isOperator c = true) : isReserved c = true := by
  have hall : ".^$*+?\x7b\x7d[]\\|()".toList.all isReserved = true := by decide
  exact List.all_eq_true.1 hall c (List.contains_iff_mem.1 h)

theorem isAlphanum_of_isReserved {c : Char} (h : isReserved c = true) : c.isAlphanum = false := by
  have hall : "()[]\x7b\x7d?*+-|^$\\.&~# \t\n\r\x0b\x0c".toList.all (!·.isAlphanum) = true := by decide
  simpa using List.all_eq_true.1 hall c (List.contains_iff_mem.1 h)

section
variable {c : Char} (hc : isReserved c = false)
include hc

theorem isOperator_eq_false : isOperator c = false :=
  Bool.eq_false_iff.2 fun h => ne_of_isReserved hc (isReserved_of_isOperator h) rfl

theorem tokens?_ordinary (e : Text) : tokens? (c :: e) = (tokens? e).map (.char c :: ·) := by
  rw [tokens?]
  · rw [if_neg (ne_of_isReserved hc (d := '.') rfl), if_neg (by rw [isOperator_eq_false hc]; exact Bool.false_ne_true)]
  · rintro e' rfl
    exact absurd rfl (ne_of_isReserved hc (d := '.') rfl)
  · rintro d e' rfl
    exact absurd rfl (ne_of_isReserved hc (d := '\\') rfl)

theorem operators_ordinary (e : Text) : operators (c :: e) = operators e := by
  rw [operators]
  · rw [if_neg (by rw [isOperator_eq_false hc]; exact Bool.false_ne_true)]
  · rintro d e' rfl
    exact absurd rfl (ne_of_isReserved hc (d := '\\') rfl)

end

theorem tokens?_dot {e : Text} (he : ∀ d ∈ e.head?, d ≠ '*') : tokens? ('.' :: e) = (tokens? e).map (.any :: ·) := by
  cases e with
  | nil => rfl
  | cons d e =>
    rw [tokens?]
    · rw [if_pos rfl]
    · rintro e' - h
      exact he d rfl (List.cons.inj h).1
    · simp

/-- **A character of a glob is read as its token**, whatever follows it but a star. -/
theorem tokens?_regexChar (c : Char) {rest : Text} (hrest : ∀ d ∈ rest.head?, d ≠ '*') :
    tokens? (regexChar c ++ rest) = (tokens? rest).map (Token.ofChar c :: ·) := by
  unfold Token.ofChar
  rcases regexChar_cases c with ⟨rfl, h⟩ | ⟨rfl, h⟩ | ⟨hstar, hany, -, h⟩ | ⟨hstar, hany, hordinary, h⟩
  · rw [h]
    rfl
  · rw [h, List.singleton_append, tokens?_dot hrest]
    rfl
  · rw [h, if_neg hstar, if_neg hany]
    rfl
  · rw [h, List.singleton_append, tokens?_ordinary hordinary, if_neg hstar, if_neg hany]

theorem operators_regexChar (c : Char) (rest : Text) : operators (regexChar c ++ rest) = wildcard c ++ operators rest := by
  unfold wildcard
  rcases regexChar_cases c with ⟨rfl, h⟩ | ⟨rfl, h⟩ | ⟨hstar, hany, hreserved, h⟩ | ⟨hstar, hany, hordinary, h⟩
  · rw [h]
    rfl
  · rw [h]
    rfl
  · rw [h, if_neg hstar, if_neg hany, List.nil_append]
    exact if_neg (by rw [isAlphanum_of_isReserved hreserved]; exact Bool.false_ne_true)
  · rw [h, List.singleton_append, operators_ordinary hordinary, if_neg hstar, if_neg hany, List.nil_append]

/-! ## A glob -/

theorem tokens?_regexChars : ∀ glob : Text, tokens? (glob.flatMap regexChar) = some (glob.map Token.ofChar)
  | [] => rfl
  | c :: glob => by
    have hrest : ∀ d ∈ (glob.flatMap regexChar).head?, d ≠ '*' := fun d hd =>
      head?_regexBody glob d (List.mem_head?_append_of_mem_head? hd)
    rw [List.flatMap_cons, tokens?_regexChar c hrest, tokens?_regexChars glob]
    rfl

theorem operators_regexChars : ∀ glob : Text, operators (glob.flatMap regexChar) = glob.flatMap wildcard
  | [] => rfl
  | c :: glob => by
    rw [List.flatMap_cons, List.flatMap_cons, operators_regexChar, operators_regexChars glob]

theorem regex_injective : Function.Injective regex := by
  intro glob other h
  have hbody : glob.flatMap regexChar = other.flatMap regexChar :=
    List.append_cancel_right (List.cons.inj h).2
  have htokens : glob.map Token.ofChar = other.map Token.ofChar :=
    Option.some.inj (by rw [← tokens?_regexChars, ← tokens?_regexChars, hbody])
  rw [← map_toChar_ofChar glob, htokens, map_toChar_ofChar]

/-- **A glob is told by its regular expression.**  Between its anchors the expression is read as the characters of the
glob in order, each star as any sequence, each question mark as any character, and every other character as itself.  Its
operators are those of the wildcards and no others, and no two globs have the same expression. -/
theorem regex_tells_glob (glob : Text) :
    ∃ body, regex glob = '^' :: (body ++ ['$']) ∧
      tokens? body = some (glob.map Token.ofChar) ∧
      (tokens? body).map (·.map Token.toChar) = some glob ∧
      operators body = glob.flatMap wildcard ∧
      ∀ other, regex other = regex glob ↔ other = glob := by
  refine ⟨glob.flatMap regexChar, rfl, tokens?_regexChars glob, ?_, operators_regexChars glob, fun other => ?_⟩
  · rw [tokens?_regexChars, Option.map_some, map_toChar_ofChar]
  · exact regex_injective.eq_iff

/-- A glob of wildcards next to a dot, an escaped star and a class that it does not have. -/
example : tokens? ".\\.\\\\.*\\\\d" = some ("?.\\*\\d".toList.map Token.ofChar) ∧
    (regex "?.\\*\\d" = "^.\\.\\\\.*\\\\d$".toList) := by
  decide

end Glob
end SshConfig
