import SshConfig.Files.FileTree
import SshConfig.Text.Case
/-!
# KeyLibrary — the reading of keys, which is left to others

Private keys and known-hosts texts are read by a library that stands outside.  A run sees of it two functions: one opens
the private key in a file, the other makes a store of a text.  Either may refuse, with a wording of its own.  What they
take for a key or for an entry is not laid down, but that an empty text makes an empty store.
-/
namespace SshConfig

/-- A private key that has been opened, known by a name. -/
structure PrivateKey where
  name : Text
  deriving DecidableEq, Repr

/-- Why the library does not open a private key. -/
inductive KeyFault where
  /-- What the file holds is refused. -/
  | refused (message : Text)
  /-- The attempt breaks down: the system fails, or a value is refused on the way. -/
  | broken (message : Text)
  deriving DecidableEq, Repr

/-- What a key is trusted for. -/
inductive Role where
  | host
  | authority
  | revoked
  deriving DecidableEq, Repr

/-- The keys that hosts are known by: for what they are trusted, and for a host, the names of the keys. -/
structure TrustStore where
  keysFor : Role → Text → List Text

/-- No key is trusted for anything. -/
def TrustStore.empty : TrustStore :=
  ⟨fun _ _ => []⟩

/-- A library that reads keys. -/
structure KeyLibrary where
  /-- Opens the private key in the file at a path, with a passphrase if one is given. -/
  openKey : FileTree → Text → Option Text → Except KeyFault PrivateKey
  /-- The store of a known-hosts text, or the wording of its refusal. -/
  readHosts : Text → Except Text TrustStore
  /-- The empty text is a store without entries. -/
  readHosts_nil : readHosts [] = .ok TrustStore.empty

end SshConfig
