import SshConfig.CommandLine.Places
import SshConfig.CommandLine.Usage
import SshConfig.KeyLibrary.Recognition
import Std.Time.DateTime.Timestamp
/-!
# Main — the command line

Looks at the surroundings, reads the files that the call may come to need, works the call out and shows what it leaves
behind.
-/
namespace SshConfig

/-- The accounts in the lines of the system's table. -/
def accountsOf (table : Text) : List Account :=
  (Text.lines table).filterMap fun line =>
    match Text.pieces (· == ':') line with
    | [name, _, number, _, _, home, _] => some ⟨name, Text.plainValue number, home⟩
    | _ => none

/-- The number of the current user in the lines that the system tells of a process. -/
def userOf (status : Text) : Nat :=
  ((Text.lines status).findSome? fun line =>
    match Text.words line with
    | name :: number :: _ => if name = "Uid:".toList then some (Text.plainValue number) else none
    | _ => none).getD 0

/-- The number by which the system reports that a path is a directory. -/
def directoryCode : UInt32 :=
  21

/-- A name that is too long for a file: whether it can be looked for tells whether a directory may be searched. -/
def soughtName : String :=
  String.ofList (List.replicate (FileTree.nameLimit + 1) 'x')

/-- The directory at a path, or the file that may not be read if there is none. -/
def directoryAt (path : Text) (denied : Bool) : IO Node := do
  try
    let _ ← IO.FS.readBinFile (String.ofList path ++ "/" ++ soughtName)
    pure { FileTree.directory with denied := denied }
  catch fault =>
    match fault with
    | .permissionDenied _ _ _ => pure { FileTree.directory with denied := denied, closed := true }
    | .inappropriateType _ code _ =>
      pure { content := if code == directoryCode then none else some [], denied := denied }
    | _ => pure { FileTree.directory with denied := denied }

/-- What stands at a path; nothing if there is none to be reached. -/
def nodeAt (path : Text) : IO (Option Node) := do
  try
    let bytes ← IO.FS.readBinFile (String.ofList path)
    pure (some (FileTree.file bytes.toList))
  catch fault =>
    match fault with
    | .permissionDenied _ _ _ => some <$> directoryAt path true
    | .inappropriateType _ code _ => if code == directoryCode then some <$> directoryAt path false else pure none
    | _ => pure none

/-- The tree with what stands on the ways to paths. -/
def withPlaces (tree : FileTree) (paths : List Text) : IO FileTree :=
  (paths.flatMap FilePath.way).foldlM (fun t path => do
    if path.contains (Char.ofNat 0) then pure t
    else
      match ← nodeAt path with
      | none => pure t
      | some n =>
        match t.write (FilePath.ofText path) n with
        | .ok t => pure t
        | .error _ => pure t) tree

/-- The text of a file of the system; empty if it cannot be read. -/
def systemText (path : String) : IO Text := do
  try String.toList <$> IO.FS.readFile path catch _ => pure []

/-- The surroundings of a call. -/
def surroundings : IO Environment := do
  let home ← IO.getEnv "HOME"
  let accounts ← accountsOf <$> systemText "/etc/passwd"
  let user ← userOf <$> systemText "/proc/self/status"
  let now ← Std.Time.Timestamp.now
  pure ⟨(home.map fun h => ("HOME".toList, h.toList)).toList, accounts, user, .telling [],
    now.toMillisecondsSinceUnixEpoch.toInt.toNat⟩

/-- The session of a call, with every file in it that the call may come to read. -/
def sessionOf (env : Environment) (l : Loader) : IO Session := do
  let first ← withPlaces FileTree.bare (CommandLine.firstPlaces env l)
  let tree ← withPlaces first (CommandLine.laterPlaces ⟨env, first, [], [], []⟩ l)
  let keys := tree.nodes.flatMap fun n => PublicKey.inText (Text.decode (n.2.content.getD []))
  pure ⟨{ env with library := .telling keys }, tree, [], [], []⟩

/-- Shows the lines on a stream. -/
def showLines (out : IO.FS.Stream) (lines : List Text) : IO Unit :=
  lines.forM fun line => out.putStrLn (String.ofList line)

/-- Works a call out and shows what it leaves behind; the exit code. -/
def resolveHosts (a : Arguments) : IO UInt32 := do
  let env ← surroundings
  let start : Session := ⟨env, FileTree.bare, [], [], []⟩
  let session ← match (CommandLine.loader a Environment.systemDirectory start).1 with
    | .ok l => sessionOf env l
    | .error _ => pure start
  let outcome := CommandLine.outcome a Environment.systemDirectory session
  showLines (← IO.getStdout) outcome.output
  let errors ← IO.getStderr
  showLines errors outcome.messages
  match outcome.exit with
  | .ok code => pure code.toUInt32
  | .error fault => do
    showLines errors [CommandLine.closing fault.message]
    pure 1

end SshConfig

open SshConfig

/-- Resolves the hosts that the command line names. -/
def main (words : List String) : IO UInt32 := do
  match Arguments.ofWords (words.map String.toList) with
  | .error .help => do
    showLines (← IO.getStdout) CommandLine.helpLines
    pure 0
  | .error (.wrong message) => do
    showLines (← IO.getStderr) (CommandLine.usageLines message)
    pure 2
  | .ok a => resolveHosts a
