import SshConfig.KeyLibrary.Basic
import SshConfig.Text.Blank
/-!
# KeyLibrary.KeyText — the texts of private keys

The plain library takes the text of a file for a private key, which may be locked by a passphrase, or for something that
is no key.  Each way to fail has a wording.
-/
namespace SshConfig

/-- A private key as it lies in a file, with the passphrase that opens it if it is locked. -/
structure StoredKey where
  key : PrivateKey
  passphrase : Option Text
  deriving DecidableEq, Repr

/-- Why a text is not opened as a private key. -/
inductive KeyTextFault where
  /-- The key is locked and no passphrase was given. -/
  | needsPassphrase
  /-- The key is locked by another passphrase. -/
  | wrongPassphrase
  /-- There is no key. -/
  | noKey
  /-- The key has no last line. -/
  | noFooter
  /-- What stands between the first and the last line of the key cannot be read. -/
  | badBody
  deriving DecidableEq, Repr

/-- The wording of a fault. -/
def KeyTextFault.message : KeyTextFault → Text
  | needsPassphrase => "Passphrase must be specified to import encrypted private keys"
  | wrongPassphrase => "Unable to decrypt PKCS#8 private key"
  | noKey => "Invalid private key"
  | noFooter => "Missing PEM footer"
  | badBody => "Invalid PEM data"

/-- Opens a key with the passphrase that was given, if any. -/
def StoredKey.unlock (k : StoredKey) (given : Option Text) : Except KeyTextFault PrivateKey :=
  match k.passphrase, given with
  | none, _ => .ok k.key
  | some _, none => .error .needsPassphrase
  | some secret, some g => if g = secret then .ok k.key else .error .wrongPassphrase

namespace KeyText

/-- The first line of a key, without the mark at its start. -/
def header? (line : Text) : Option Text :=
  let start := "-----BEGIN ".toList
  let line := Text.trimEnd line
  if start.isPrefixOf line && "PRIVATE KEY-----".toList.isSuffixOf line then some (line.drop start.length) else none

/-- Why a text is no key: the lines after a first line need a last line that names the same. -/
def faultOf : List Text → KeyTextFault
  | [] => .noKey
  | line :: rest =>
    match header? line with
    | none => faultOf rest
    | some name => if rest.any fun l => Text.trimEnd l == "-----END ".toList ++ name then .badBody else .noFooter

end KeyText
end SshConfig
