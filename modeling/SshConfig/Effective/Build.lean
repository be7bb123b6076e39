import SshConfig.Identity.Load
import SshConfig.Trust.Load
/-!
# Effective.Build — from settings to what holds

Unset options get their defaults: port 22, keep-alive on, host keys checked strictly; the host name is the address.
Where host keys are not checked every key is accepted.  Where they are, the files that the settings name make the
verifier; if none of them can be read, no key is trusted.  An identity that cannot be used is left out.
-/
namespace SshConfig
namespace Act

/-- The paths in the value of an option. -/
def splitPaths (value : Text) : Act (List Text) :=
  match PathList.split value with
  | .ok paths => pure paths
  | .error fault => trustFailure (.badList value fault) none {}

/-- The paths in the values of options that are set to a text. -/
def splitAll : List (Option Text) → Act (List Text)
  | [] => pure []
  | none :: rest => splitAll rest
  | some value :: rest =>
    if value.isEmpty then splitAll rest
    else do
      let paths ← splitPaths value
      let others ← splitAll rest
      pure (paths ++ others)

/-- The verifier that the settings ask for; none if they name no file. -/
def chooseVerifier (s : Settings) (strict : Bool) (address : Text) : Act (Option Verifier) :=
  if strict then do
    let paths ← splitAll [s.get? .globalKnownHostsFile, s.get? .userKnownHostsFile]
    if paths.isEmpty then pure none
    else
      match ← loadVerifier true paths with
      | some v => pure (some v)
      | none => do
        debug .config ("No configured known_hosts file exists for " ++ Text.quoted address)
        some <$> noTrustedKeys
  else pure (some .acceptAny)

/-- The identity that the settings name; none if it cannot be used. -/
def chooseIdentities (s : Settings) (address : Text) : Act (List Identity) :=
  match s.get? .identityFile with
  | none => pure []
  | some path =>
    if path.isEmpty then pure []
    else
      rescue ((fun i => [i]) <$> loadIdentity none [path]) fun fault =>
        match fault with
        | .config (.noIdentity _ _ _) => do
          remark .warning .config
            ("IdentityFile for " ++ Text.quoted address ++ " not usable: " ++ fault.message)
          pure []
        | _ => fail fault

/-- The host name that the settings give an address; an empty one is none. -/
def hostnameOf (s : Settings) (address : Text) : Text :=
  match s.get? .hostname with
  | none => address
  | some h => if h.isEmpty then address else h

/-- What holds for an address with merged settings. -/
def buildEffective (s : Settings) (address network : Text) : Act Effective := do
  let strict := (s.get? .strictHostKeyChecking).getD true
  let verifier ← chooseVerifier s strict address
  let identities ← chooseIdentities s address
  let hostname := hostnameOf s address
  let port : Nat := ((s.get? .port).map Port.number).getD Effective.defaultPort
  pure {
    settings := s
    network := network
    hostname := hostname
    port := port
    address := Effective.joinHostPort hostname port
    user := s.get? .user
    connectTimeout := s.get? .connectTimeout
    connectionAttempts := (s.get? .connectionAttempts).map Int.ofNat
    keepAlive := (s.get? .tcpKeepAlive).getD true
    serverAliveInterval := s.get? .serverAliveInterval
    serverAliveCountMax := (s.get? .serverAliveCountMax).map Int.ofNat
    strictHostKeyChecking := strict
    verifier := verifier
    identities := identities }

end Act
end SshConfig
