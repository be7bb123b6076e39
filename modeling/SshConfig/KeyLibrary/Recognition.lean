import SshConfig.KeyLibrary.Plain
/-!
# KeyLibrary.Recognition — telling keys by their text

A text is taken for a private key by its first and last line and base-64 lines between them, and for a locked one by what
those lines say.  A word of base-64 text after the name of a key's algorithm is taken for a public key.
-/
namespace SshConfig
namespace KeyText

/-- How the base-64 text of a key that is locked by no cipher starts. -/
def openStart : Text :=
  "b3BlbnNzaC1rZXktdjEAAAAABG5vbm"

/-- The lines after a first line and before the last line that names the same; nothing if there is none. -/
def body? (name : Text) : List Text → Option (List Text)
  | [] => none
  | line :: rest =>
    if Text.trimEnd line == "-----END ".toList ++ name then some []
    else (body? name rest).map (Text.trim line :: ·)

/-- The first line and the lines of the first key in a text. -/
def block? : List Text → Option (Text × List Text)
  | [] => none
  | line :: rest =>
    match header? line with
    | none => block? rest
    | some name => (body? name rest).map fun body => (name, body)

/-- The lines say that a passphrase locks the key. -/
def isLocked (name : Text) (body : List Text) : Bool :=
  let locked := "ENCRYPTED".toList
  Text.holds locked name || body.any (Text.holds locked)
    || ("OPENSSH".toList.isPrefixOf name && !openStart.isPrefixOf body.flatten)

/-- The key in a text, known by `label`; `secret` stands for the passphrase of a locked one. -/
def stored? (label secret : Text) (t : Text) : Option StoredKey :=
  match block? (Text.lines t) with
  | none => none
  | some (name, body) =>
    let data := (body.filter fun line => !line.contains ':').flatten
    if data.isEmpty || !Text.isBase64 data then none
    else some ⟨⟨label⟩, if isLocked name body then some secret else none⟩

end KeyText

namespace PublicKey

/-- The word starts as the name of a key's algorithm does. -/
def isAlgorithm (word : Text) : Bool :=
  ["ssh-".toList, "ecdsa-".toList, "sk-".toList].any (·.isPrefixOf word)

/-- The public keys in a row of words. -/
def inWords : List Text → List PublicKey
  | algorithm :: blob :: rest =>
    if isAlgorithm algorithm && Text.isBase64 blob then ⟨blob, algorithm, blob⟩ :: inWords (blob :: rest)
    else inWords (blob :: rest)
  | _ => []

/-- The public keys in a text. -/
def inText (t : Text) : List PublicKey :=
  (Text.rows t).flatMap fun line => inWords (Text.words line)

end PublicKey

/-- The library that knows these public keys, and the key of a file by what its text looks like. -/
def KeyLibrary.telling (publicKeys : List PublicKey) : KeyLibrary :=
  plain publicKeys fun path => KeyText.stored? path []

end SshConfig
