import SshConfig.Files.Access
/-!
# Identity.Load — keys from files

A key is loaded from one file or the failure is told with its reason.  An identity is made from every file among the
candidates that holds a key that can be opened; the other candidates are passed over.
-/
namespace SshConfig
namespace Act

/-- Ends in the failure to load a key.  Its path must not be blank. -/
def keyFailure {α : Type} (cause : KeyCause) (path : Text) : Act α :=
  if (Text.trim path).isEmpty then fail (.violation (.badKeyPath (.str path)))
  else fail (.config (.key ⟨cause, some path, {}⟩))

/-- Opens the key in a file that can be read. -/
def openKey (full : Text) (passphrase : Option Text) : Act PrivateKey := do
  let s ← get
  match s.environment.library.openKey s.tree full passphrase with
  | .ok key => pure key
  | .error fault => keyFailure fault.cause full

/-- The key at a path in full where this stands. -/
def keyAt (full : Text) (passphrase : Option Text) : Option Node → Act PrivateKey
  | none => keyFailure .absent full
  | some n => if n.denied then keyFailure .unreadable full else openKey full passphrase

/-- Loads the key in a file. -/
def loadKey (path : Text) (passphrase : Option Text) : Act PrivateKey := do
  let full ← expand path
  keyAt full passphrase (← node? full)

/-- Loads the keys of the candidates that hold one, and tells the failures of the others. -/
def loadKeys (passphrase : Option Text) : List Text → Act (List (Text × PrivateKey) × List KeyFailure)
  | [] => pure ([], [])
  | path :: rest => do
    let attempt : Act (Except KeyFailure PrivateKey) :=
      rescue (Except.ok <$> loadKey path passphrase) fun fault =>
        match fault with
        | .config (.key failure) => pure (.error failure)
        | _ => fail fault
    match ← attempt with
    | .error failure => do
      debug .auth ("Skipping identity " ++ path ++ ": " ++ failure.message)
      let others ← loadKeys passphrase rest
      pure (others.1, failure :: others.2)
    | .ok key => do
      let full ← expand path
      let others ← loadKeys passphrase rest
      pure ((full, key) :: others.1, others.2)

/-- The identity of the candidates. -/
def loadIdentity (passphrase : Option Text) (paths : List Text) : Act Identity := do
  let loaded ← loadKeys passphrase paths
  if loaded.1.isEmpty then fail (.config (.noIdentity paths (loaded.2.map .key) {})) else pure ⟨loaded.1⟩

end Act
end SshConfig
