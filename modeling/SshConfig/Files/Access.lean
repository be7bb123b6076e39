import SshConfig.Session
/-!
# Files.Access — paths as they are given, and the text of files

A path is expanded before it is used: a home directory stands for a first component that starts with a tilde.  A file is
read as text with every kind of line end made a line feed.
-/
namespace SshConfig

namespace Environment

/-- The value of a variable. -/
def valueOf? (env : Environment) (name : Text) : Option Text :=
  (env.values.find? fun v => v.1 == name).map (·.2)

/-- A directory without the slashes at its end, or the root if nothing else is left. -/
def bareDirectory (t : Text) : Text :=
  if (Text.dropEnd (· == '/') t).isEmpty then ['/'] else Text.dropEnd (· == '/') t

/-- The home directory that is on record: for a name that of its account, and without one the value of `HOME` or, where
that is not set, that of the current user's account. -/
def recordedHome? (env : Environment) (user : Text) : Option Text :=
  if user.isEmpty then env.valueOf? "HOME" <|> (env.accounts.find? (·.number == env.user)).map (·.home)
  else (env.accounts.find? (·.name == user)).map (·.home)

/-- The home directory of a user, or of the current one where no name is given. -/
def homeOf (env : Environment) (user : Text) : Except Fault Text :=
  if user.contains (Char.ofNat 0) then .error .nullInPath
  else
    match env.recordedHome? user with
    | none => .error .noHome
    | some home => if (bareDirectory home).head? = some '~' then .error .noHome else .ok (bareDirectory home)

/-- A path with the home directory in place of a tilde. -/
def expandHome (env : Environment) (p : FilePath) : Except Fault FilePath :=
  match p.root, p.parts with
  | 0, ('~' :: user) :: rest =>
    (env.homeOf user).map fun home => ⟨(FilePath.ofText home).root, (FilePath.ofText home).parts ++ rest⟩
  | _, _ => .ok p

/-- A path, as it is given, in full. -/
def expand (env : Environment) (path : Text) : Except Fault Text :=
  (env.expandHome (FilePath.ofText path)).map (·.text)

/-- The home directory of the current user. -/
def homeDirectory (env : Environment) : Except Fault Text :=
  (env.expandHome ⟨0, [['~']]⟩).map (·.text)

/-- The directory of the system's files. -/
def systemDirectory : Text :=
  "/etc/ssh"

end Environment

namespace Act

/-- A path in full. -/
def expand (path : Text) : Act Text := do
  ofExcept ((← get).environment.expand path)

/-- The bytes of the file at a path. -/
def bytes (path : Text) : Act (List UInt8) := do
  if path.contains (Char.ofNat 0) then fail .nullInPath
  else
    match (← get).tree.read (FilePath.ofText path) with
    | .ok bs => pure bs
    | .error cause => fail (.os ⟨cause, FilePath.normal path⟩)

/-- The text of the file at a path. -/
def text (path : Text) : Act Text := do
  pure (Text.unifyBreaks (Text.decode (← bytes path)))

/-- The node at a path; nothing if there is none.  Below a directory that may not be searched, and with a name that is
too long, this cannot be told, and that is a fault. -/
def node? (path : Text) : Act (Option Node) := do
  if path.contains (Char.ofNat 0) then pure none
  else
    match (← get).tree.find (FilePath.ofText path) with
    | .ok n => pure (some n)
    | .error cause => if cause.isAbsence then pure none else fail (.os ⟨cause, path⟩)

end Act
end SshConfig
