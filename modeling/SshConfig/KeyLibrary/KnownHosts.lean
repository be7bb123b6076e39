import SshConfig.Glob
import SshConfig.KeyLibrary.Basic
import SshConfig.KeyLibrary.Digest
import SshConfig.KeyLibrary.Network
import SshConfig.Text.Base64
import SshConfig.Text.Blank
/-!
# KeyLibrary.KnownHosts — entries of known-hosts texts

The entries that the plain library reads from the lines of a known-hosts text.  A line has an optional marker, a pattern
of host names and a key.  A line with a key that cannot be read is passed over.  A host is looked up by its name and by
its address, which is not known here and so is empty: the entries that name the host exactly come first, then those with
an empty name among theirs, then those whose wildcards, networks or hash match it.  The marker tells a host key, the key
of an authority and a revoked key apart.
-/
namespace SshConfig

/-- A public key that can be read: the name it goes by, and its two words in a file. -/
structure PublicKey where
  name : Text
  algorithm : Text
  blob : Text
  deriving DecidableEq, Repr

/-- The two words of a file are the key's: the algorithm to the letter, the blob by the bytes it stands for. -/
def PublicKey.isWritten (algorithm blob : Text) (k : PublicKey) : Bool :=
  k.algorithm == algorithm && Text.isBase64 blob && Text.base64Bytes? k.blob == Text.base64Bytes? blob

/-- Why a line is no entry. -/
inductive EntryFault where
  /-- A field is missing. -/
  | missingField (line : Text)
  /-- The marker is unknown. -/
  | unknownMarker (marker : Text)
  /-- The hashed pattern is malformed. -/
  | badHash (pattern : Text)
  /-- The hash is of an unknown type. -/
  | unknownHash (magic : Text)
  deriving DecidableEq, Repr

/-- The wording of a fault. -/
def EntryFault.message : EntryFault → Text
  | missingField line => "Invalid known hosts entry: " ++ line
  | unknownMarker marker => "Invalid known hosts marker: " ++ marker
  | badHash pattern => "Invalid known hosts hash entry: " ++ pattern
  | unknownHash magic => "Invalid known hosts hash type: " ++ magic

/-- What a name is held against. -/
inductive NameTest where
  /-- A glob accepts the name. -/
  | glob (glob : Text)
  /-- The name is the address of a machine in a network. -/
  | network (network : Network)
  deriving DecidableEq, Repr

namespace NameTest

/-- A text that is a network stands for it, any other is a glob. -/
def ofText (t : Text) : NameTest :=
  match Network.ofText? t with
  | some n => network n
  | none => glob t

/-- The name passes the test. -/
def accepts (name : Text) : NameTest → Bool
  | glob g => Glob.accepts g name
  | network n =>
    match MachineAddress.ofText? name with
    | some a => n.holds a
    | none => false

end NameTest

/-- The names that an entry is for. -/
inductive NamePattern where
  /-- These names and no others. -/
  | exact (names : List Text)
  /-- The names that pass one of the first tests and none of the second. -/
  | wild (accepted rejected : List NameTest)
  /-- The name with this hash, which the salt is the key of. -/
  | hashed (salt hash : List UInt8)
  deriving DecidableEq, Repr

/-- An entry of a text. -/
structure KnownHost where
  role : Role
  pattern : NamePattern
  key : Text
  deriving DecidableEq, Repr

/-- The entries of a text, in order. -/
abbrev KnownHosts := List KnownHost

namespace KnownHosts

/-- The first word of a text that starts with no blank, and the rest after the blanks; nothing if there is no rest. -/
def field? (t : Text) : Option (Text × Text) :=
  let h := Text.headWord t
  if h.1.isEmpty || h.2.isEmpty then none else some h

/-- The key in the data of an entry, which is ASCII text in all its words. -/
def keyOf? (keys : List PublicKey) (data : Text) : Option Text :=
  if data.all (·.toNat < 128) then
    match (Text.pieces (fun c => c.toNat = 32 || (9 ≤ c.toNat && c.toNat ≤ 13)) data).filter (!·.isEmpty) with
    | algorithm :: blob :: _ => (keys.find? (PublicKey.isWritten algorithm blob)).map (·.name)
    | _ => none
  else none

/-- The mark between the fields of a hashed pattern, which a hashed pattern starts with. -/
def hashMark : Char :=
  '|'

/-- A character that makes a pattern a list of wildcards: so does the mark of a hashed pattern where it does not start
one. -/
def isWild (c : Char) : Bool :=
  c == '*' || c == '?' || c == '/' || c == '!' || c == hashMark

/-- The names of a pattern. -/
def patternOf (pattern : Text) : Except EntryFault NamePattern :=
  if pattern.head? = some hashMark then
    match Text.pieces (· == hashMark) (pattern.drop 1) with
    | [magic, salt, hash] =>
      match Text.base64Bytes? salt, Text.base64Bytes? hash with
      | some salt, some hash =>
        if magic = ['1'] then .ok (.hashed (salt.map (·.toUInt8)) (hash.map (·.toUInt8)))
        else .error (.unknownHash magic)
      | _, _ => .error (.badHash pattern)
    | _ => .error (.badHash pattern)
  else if pattern.any isWild then
    let globs := Text.pieces (· == ',') pattern
    .ok (.wild ((globs.filter (·.head? != some '!')).map NameTest.ofText)
      ((globs.filter (·.head? == some '!')).map fun g => NameTest.ofText (g.drop 1)))
  else .ok (.exact (Text.pieces (· == ',') pattern))

/-- The role that a marker gives. -/
def roleOf (marker : Text) : Except EntryFault Role :=
  if marker = "cert-authority".toList then .ok .authority
  else if marker = "revoked".toList then .ok .revoked
  else .error (.unknownMarker marker)

/-- The role, the pattern and the data of a line without blanks around it. -/
def fields (line : Text) : Except EntryFault (Role × Text × Text) :=
  match line with
  | '@' :: rest =>
    match field? (Text.trimStart rest) with
    | none => .error (.missingField line)
    | some (marker, rest) =>
      match field? rest with
      | none => .error (.missingField line)
      | some (pattern, data) => (roleOf marker).map fun role => (role, pattern, data)
  | _ =>
    match field? line with
    | none => .error (.missingField line)
    | some (pattern, data) => .ok (.host, pattern, data)

/-- The entry of a line; nothing for an empty line, a comment and a key that cannot be read. -/
def entry (keys : List PublicKey) (raw : Text) : Except EntryFault (Option KnownHost) :=
  let line := Text.trim raw
  if line.isEmpty || line.head? = some '#' then .ok none
  else
    match fields line with
    | .error fault => .error fault
    | .ok (role, pattern, data) =>
      match keyOf? keys data with
      | none => .ok none
      | some key => (patternOf pattern).map fun names => some ⟨role, names, key⟩

/-- The entries of lines, up to the first that is none. -/
def ofLines (keys : List PublicKey) : List Text → Except EntryFault KnownHosts
  | [] => .ok []
  | line :: rest =>
    match entry keys line with
    | .error fault => .error fault
    | .ok e => (ofLines keys rest).map (e.toList ++ ·)

/-- The entries of a text. -/
def ofText (keys : List PublicKey) (t : Text) : Except EntryFault KnownHosts :=
  ofLines keys (Text.rows t)

/-- An entry as often as it names a host exactly. -/
def KnownHost.exactly (host : Text) (e : KnownHost) : List KnownHost :=
  match e.pattern with
  | .exact names => (names.filter (· == host)).map fun _ => e
  | _ => []

/-- The wildcards or the hash of an entry match a host; none match the empty name. -/
def KnownHost.byWildcard (host : Text) (e : KnownHost) : Bool :=
  match e.pattern with
  | .wild accepted rejected =>
    !host.isEmpty && accepted.any (NameTest.accepts host) && !rejected.any (NameTest.accepts host)
  | .hashed salt hash => !host.isEmpty && Digest.keyed salt (Text.encode host) == hash
  | .exact _ => false

/-- The address that a host is looked up by besides its name: it is not known. -/
def noAddress : Text :=
  []

/-- The entries for a host: those with its name, those with its address, those whose wildcards match it. -/
def entriesFor (entries : KnownHosts) (host : Text) : List KnownHost :=
  entries.flatMap (KnownHost.exactly host) ++ entries.flatMap (KnownHost.exactly noAddress)
    ++ entries.filter (KnownHost.byWildcard host)

/-- The keys of a role for a host. -/
def keysFor (entries : KnownHosts) (role : Role) (host : Text) : List Text :=
  ((entries.entriesFor host).filter (·.role == role)).map (·.key)

/-- The store of entries. -/
def store (entries : KnownHosts) : TrustStore :=
  ⟨entries.keysFor⟩

end KnownHosts
end SshConfig
