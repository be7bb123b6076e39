import SshConfig.Identity.Basic
import SshConfig.Settings.Codec
import SshConfig.Trust.Verifier
/-!
# Effective — what holds for one address

The effective configuration of an address: its merged settings, the values that they or the defaults give, and what is
made from them, the joined address, the verifier and the identities.  It makes the report of a look-up and the arguments
of a connection.  A patch may set any of these values, so port and counts are whole numbers of either sign.
-/
namespace SshConfig

/-- What holds for one address. -/
structure Effective where
  settings : Settings
  network : Text
  hostname : Text
  port : Int
  address : Text
  user : Option Text
  connectTimeout : Option Duration
  connectionAttempts : Option Int
  keepAlive : Bool
  serverAliveInterval : Option Duration
  serverAliveCountMax : Option Int
  strictHostKeyChecking : Bool
  verifier : Option Verifier
  identities : List Identity

namespace Effective

/-- The port where none is set. -/
def defaultPort : Nat :=
  22

/-- A host and the text of its port with a colon between them; a host that has colons itself is put in brackets. -/
def joinHost (host port : Text) : Text :=
  if host.contains ':' && host.head? != some '[' then '[' :: host ++ "]:" ++ port
  else host ++ ':' :: port

/-- Host and port with a colon between them. -/
def joinHostPort (host : Text) (port : Int) : Text :=
  joinHost host (Text.ofInt port)

/-- The members of the report, in order. -/
def members (c : Effective) : List (Text × Json) :=
  [("network", .str c.network), ("address", .str c.address), ("hostname", .str c.hostname), ("port", .int c.port),
    ("user", Json.ofOption .str c.user), ("keep_alive", .bool c.keepAlive),
    ("strict_host_key_checking", .bool c.strictHostKeyChecking),
    ("host_key_verifier", Json.ofOption Verifier.toJson c.verifier),
    ("auth", .arr (c.identities.map Identity.toJson)), ("options", c.settings.toJson)]

/-- The report. -/
def toJson (c : Effective) : Json :=
  .obj c.members

/-- The keys that a connection offers, in order. -/
def clientKeys (c : Effective) : List PrivateKey :=
  c.identities.flatMap fun i => i.keys.map (·.2)

/-- What a connection is told about known hosts: nothing where no verifier is chosen, otherwise the store to check
against, which is none where nothing is checked. -/
def knownHosts (c : Effective) : Option (Option TrustStore) :=
  c.verifier.map Verifier.store?

/-- The arguments that every connection has. -/
def fixedArguments (c : Effective) : List (Text × Json) :=
  [("host", .str c.hostname), ("port", .int c.port), ("config", .null), ("tcp_keepalive", .bool c.keepAlive)]

/-- The arguments of a connection; what is not set is left to the connection's own defaults. -/
def connectMembers (c : Effective) : List (Text × Json) :=
  c.fixedArguments ++ Json.optional "username" .str (c.user.filter (!·.isEmpty))
    ++ Json.optional "connect_timeout" Duration.toJson c.connectTimeout
    ++ Json.optional "keepalive_interval" Duration.toJson c.serverAliveInterval
    ++ Json.optional "keepalive_count_max" .int c.serverAliveCountMax
    ++ Json.optional "known_hosts" (fun v : Verifier => v.trustFor c.hostname) c.verifier
    ++ Json.optional "client_keys" (fun ks : List PrivateKey => Json.texts (ks.map (·.name)))
      (if c.clientKeys.isEmpty then none else some c.clientKeys)

end Effective
end SshConfig
