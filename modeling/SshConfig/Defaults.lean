import SshConfig.Files.Access
/-!
# Defaults — where files are looked for

The places of the user's and the system's configuration, of their known hosts, and of the keys that are tried for every
host, all below a home directory and a system directory.
-/
namespace SshConfig

/-- The places that are looked at unless others are given. -/
structure Defaults where
  userConfig : Text
  systemConfig : Text
  userKnownHosts : Text
  systemKnownHosts : Text
  identity : List Text
  deriving DecidableEq, Repr

namespace Defaults

/-- The names of key files, in the order in which they are tried. -/
def keyNames : List Text :=
  ["id_dsa", "id_ecdsa", "id_ed25519", "id_rsa"]

/-- The places below a home directory and a system directory. -/
def forHome (home system : Text) : Defaults :=
  let user := FilePath.child home ".ssh"
  ⟨FilePath.child user "config", FilePath.child system "ssh_config", FilePath.child user "known_hosts",
    FilePath.child system "ssh_known_hosts", keyNames.map (FilePath.child user)⟩

end Defaults
end SshConfig
