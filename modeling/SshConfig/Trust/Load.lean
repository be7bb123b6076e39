import SshConfig.Files.Access
/-!
# Trust.Load — a verifier from files

The files are read in order and their texts joined by a line end; the entries of all of them make one store.  With
`ignoreMissing` a file that is absent or may not be read is passed over, and without any file left there is no verifier.
-/
namespace SshConfig
namespace Act

/-- The files that can be read, each with its path in full and its text. -/
def knownHostsTexts (ignoreMissing : Bool) : List Text → Act (List (Text × Text))
  | [] => pure []
  | path :: rest => do
    let full ← expand path
    let read : Act (Option Text) := rescue (some <$> text full) fun fault =>
      match fault with
      | .os f =>
        if ignoreMissing && f.cause.isExcused then do
          debug .hostKey ("Skipping known_hosts file " ++ full ++ ": " ++ f.message)
          pure none
        else fail fault
      | _ => fail fault
    match ← read with
    | none => knownHostsTexts ignoreMissing rest
    | some t => do
      let others ← knownHostsTexts ignoreMissing rest
      pure ((full, t) :: others)

/-- A failure about known hosts. -/
def trustFailure {α : Type} (cause : TrustCause) (path : Option Text) (context : Context) : Act α :=
  fail (.config (.trust cause (Json.ofOption .str path) context))

/-- The verifier of known-hosts files. -/
def loadVerifier (ignoreMissing : Bool) (paths : List Text) : Act (Option Verifier) := do
  let loaded ← knownHostsTexts ignoreMissing paths
  let names := loaded.map (·.1)
  match names with
  | [] => if ignoreMissing then pure none else trustFailure .noFiles none {}
  | _ =>
    match (← get).environment.library.readHosts (Text.join ['\n'] (loaded.map (·.2))) with
    | .ok store => pure (some (.trusting names store))
    | .error message =>
      trustFailure (.badEntry names message) (if names.length = 1 then names.head? else none)
        { underlyingError := .str message }

/-- The verifier that trusts no key: its store is that of the empty text. -/
def noTrustedKeys : Act Verifier := do
  match (← get).environment.library.readHosts [] with
  | .ok store => pure (.trusting [] store)
  | .error message => fail (.statedValue message)

end Act
end SshConfig
