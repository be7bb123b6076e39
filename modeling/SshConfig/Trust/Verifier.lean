import SshConfig.Json.Basic
import SshConfig.KeyLibrary.Basic
/-!
# Trust.Verifier — how the key of a host is checked

A verifier either accepts every key, or trusts the keys of a store and no other.
-/
namespace SshConfig

/-- How the key of a host is checked. -/
inductive Verifier where
  /-- Every key is accepted. -/
  | acceptAny
  /-- The keys of a store, which was read from these files. -/
  | trusting (paths : List Text) (store : TrustStore)
  /-- No store was read. -/
  | storeless (paths : List Text)

namespace Verifier

/-- Trusts no key at all. -/
def rejectAll : Verifier :=
  trusting [] TrustStore.empty

/-- Every key is accepted. -/
def isInsecure : Verifier → Bool
  | acceptAny => true
  | _ => false

/-- The store that a connection checks against; without one, nothing is checked. -/
def store? : Verifier → Option TrustStore
  | trusting _ store => some store
  | _ => none

/-- The report of a verifier. -/
def toJson : Verifier → Json
  | acceptAny => .obj [("insecure", .bool true)]
  | trusting paths _ => .obj [("known_hosts", Json.texts paths)]
  | storeless paths => .obj [("known_hosts", Json.texts paths)]

/-- The keys that a verifier has for a host, by what they are trusted for; null if nothing is checked. -/
def trustFor (v : Verifier) (host : Text) : Json :=
  match v.store? with
  | none => .null
  | some store =>
    .obj [("host", Json.texts (store.keysFor .host host)), ("ca", Json.texts (store.keysFor .authority host)),
      ("revoked", Json.texts (store.keysFor .revoked host))]

end Verifier
end SshConfig
