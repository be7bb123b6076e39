import SshConfig.Text.Blank
/-!
# Glob — patterns of host names

In a glob, `*` stands for any run of characters and `?` for any one; every other character stands for itself.  A glob
matches a name as a whole.  `Glob.row` finds, for every end piece of the name at once, whether the glob matches it, so
that the time is bounded by the product of the two lengths.
-/
namespace SshConfig
namespace Glob

/-- Whether some value at or after each place is true. -/
def anyFrom : List Bool → List Bool
  | [] => []
  | b :: bs =>
    let rest := anyFrom bs
    (b || rest.headD false) :: rest

/-- For every end piece of `name`, the longest first, whether the glob matches it. -/
def row (name : Text) : Text → List Bool
  | [] => name.map (fun _ => false) ++ [true]
  | c :: glob =>
    if c = '*' then anyFrom (row name glob)
    else List.zipWith (fun d rest => (c = '?' || c = d) && rest) name ((row name glob).drop 1) ++ [false]

/-- The glob matches the name. -/
def accepts (glob name : Text) : Bool :=
  (row name glob).headD false

/-- The glob matches one name only, itself. -/
def isLiteral (glob : Text) : Bool :=
  !glob.contains '*' && !glob.contains '?'

/-- A glob has no blank around it and is not empty. -/
def ofText? (t : Text) : Option Text :=
  if (Text.trim t).isEmpty then none else some (Text.trim t)

/-- The glob that matches every name. -/
def everything : Text :=
  ['*']

/-- A name is matched by a list of globs when one of them matches it. -/
def anyAccepts (globs : List Text) (name : Text) : Bool :=
  globs.any (accepts · name)

/-- The characters that a regular expression takes for themselves only after a backslash. -/
def isReserved (c : Char) : Bool :=
  "()[]\x7b\x7d?*+-|^$\\.&~# \t\n\r\x0b\x0c".toList.contains c

/-- One character of a glob as a regular expression. -/
def regexChar (c : Char) : Text :=
  if c = '*' then ".*"
  else if c = '?' then "."
  else if isReserved c then ['\\', c]
  else [c]

/-- The glob as a regular expression, anchored at both ends. -/
def regex (glob : Text) : Text :=
  '^' :: glob.flatMap regexChar ++ ['$']

end Glob
end SshConfig
