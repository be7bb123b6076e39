import SshConfig.Json.Basic
import SshConfig.KeyLibrary.Basic
/-!
# Identity — keys that are offered to a host

An identity is a list of opened private keys, each with the path of the file that held it.
-/
namespace SshConfig

/-- Keys to offer, with the paths of their files. -/
structure Identity where
  keys : List (Text × PrivateKey)
  deriving DecidableEq, Repr

namespace Identity

/-- The paths of the files, in order. -/
def paths (i : Identity) : List Text :=
  i.keys.map (·.1)

/-- The names of the keys, in order. -/
def keyNames (i : Identity) : List Text :=
  i.keys.map (·.2.name)

/-- The report of an identity, which tells no key. -/
def toJson (i : Identity) : Json :=
  .obj [("method", .str "publickey"), ("key_paths", Json.texts i.paths)]

end Identity
end SshConfig
