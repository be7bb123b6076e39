import SshConfig.KeyLibrary.KeyText
import SshConfig.KeyLibrary.KnownHosts
/-!
# KeyLibrary.Plain — a library without cryptography

One library of the many that a run may have: it reads known-hosts texts entry by entry, but knows public keys only from
a list, and takes the keys of files from a function of their texts.  The command line and the examples run with it.
-/
namespace SshConfig
namespace KeyLibrary

/-- Opens the key that `stored?` tells of the text in a file. -/
def openStored (stored? : Text → Text → Option StoredKey) (tree : FileTree) (path : Text) (given : Option Text) :
    Except KeyFault PrivateKey :=
  match tree.read (FilePath.ofText path) with
  | .error cause => .error (.broken (OsFault.message ⟨cause, path⟩))
  | .ok bs =>
    match stored? path (Text.decode bs) with
    | none => .error (.refused (KeyText.faultOf (Text.lines (Text.decode bs))).message)
    | some k => (k.unlock given).mapError fun fault => .refused fault.message

/-- The library that knows these public keys, and of the text in the file at a path the key that `stored?` tells. -/
def plain (publicKeys : List PublicKey) (stored? : Text → Text → Option StoredKey) : KeyLibrary where
  openKey := openStored stored?
  readHosts t := ((KnownHosts.ofText publicKeys t).map KnownHosts.store).mapError EntryFault.message
  readHosts_nil := rfl

/-- The library that knows no key. -/
def keyless : KeyLibrary :=
  plain [] fun _ _ => none

end KeyLibrary
end SshConfig
