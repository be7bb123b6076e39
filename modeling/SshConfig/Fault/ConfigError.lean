import SshConfig.Fault.Context
import SshConfig.Files.PathList
import SshConfig.KeyLibrary.Basic
import SshConfig.Refusal
import SshConfig.Settings.Codec
/-!
# Fault.ConfigError — what can be wrong with a configuration

The failures that belong to configurations, as opposed to those of the system or of a caller.  Each has a wording and a
context; together they make its report.
-/
namespace SshConfig

/-- Why a private key is not loaded. -/
inductive KeyCause where
  /-- There is no such file. -/
  | absent
  /-- The file may not be read. -/
  | unreadable
  /-- What the file holds is refused, with this wording. -/
  | unusable (message : Text)
  /-- The attempt broke down, with this wording. -/
  | unexpected (message : Text)
  /-- A message and a reason given by the caller. -/
  | stated (message : Text) (reason : Json)
  deriving Repr

/-- The cause that a fault of the library is. -/
def KeyFault.cause : KeyFault → KeyCause
  | refused message => .unusable message
  | broken message => .unexpected message

/-- A private key that is not loaded. -/
structure KeyFailure where
  cause : KeyCause
  path : Option Text
  context : Context := {}
  deriving Repr

/-- Why a candidate for an identity is not used. -/
inductive CandidateFailure where
  /-- Its key is not loaded. -/
  | key (failure : KeyFailure)
  /-- What a caller gives for a failure. -/
  | stated (value : Json)
  deriving Repr

/-- Why there is no trust store. -/
inductive TrustCause where
  /-- No file was named. -/
  | noFiles
  /-- The list of files cannot be split. -/
  | badList (value : Text) (fault : QuoteFault)
  /-- The content of the files is refused, with this wording. -/
  | badEntry (paths : List Text) (message : Text)
  /-- A message given by the caller. -/
  | stated (message : Text)
  deriving DecidableEq, Repr

/-- A failure that belongs to a configuration. -/
inductive ConfigError where
  /-- A failure that is told by its message alone. -/
  | general (message : Text) (context : Context)
  /-- A refused line. -/
  | refused (error : LineError) (context : Context)
  /-- Settings that cannot be put together. -/
  | merge (cause : MergeCause) (context : Context)
  /-- No source answers the address. -/
  | notFound (address : Json) (context : Context)
  /-- A failure of credentials that is told by its message alone. -/
  | credentials (message : Text) (context : Context)
  /-- None of the identity files is usable. -/
  | noIdentity (paths : List Text) (failures : List CandidateFailure) (context : Context)
  /-- A private key is not loaded. -/
  | key (failure : KeyFailure)
  /-- There is no trust store. -/
  | trust (cause : TrustCause) (path : Json) (context : Context)
  deriving Repr

/-- Why a failure is not reported. -/
inductive ReportFault where
  /-- The reporter's own members take the names of fixed ones. -/
  | collision (names : List Text)
  /-- What is stated for the reporter's own members is no object. -/
  | noMembers
  /-- What is known about the failure is nested too deep. -/
  | tooDeep
  deriving DecidableEq, Repr

namespace KeyFailure

/-- The reason that the wording of a refusal tells, in letters of either case. -/
def refusalReason (message : Text) : Text :=
  let tells (word : Text) : Bool := Text.holds word (Text.lower message)
  if tells "passphrase" || tells "decrypt" then "wrong_passphrase"
  else if tells "format" || tells "invalid" then "invalid_format"
  else "import_error"

/-- The wording of a failure. -/
def message (f : KeyFailure) : Text :=
  let path := f.path.getD []
  match f.cause with
  | .absent => "Private key file not found: " ++ path
  | .unreadable => "Private key file not readable: " ++ path
  | .unusable message => "Failed to load private key " ++ path ++ ": " ++ message
  | .unexpected message => "Unexpected error loading private key " ++ path ++ ": " ++ message
  | .stated message _ => message

/-- The reason that reports name. -/
def reason (f : KeyFailure) : Json :=
  match f.cause with
  | .absent => .str "file_not_found"
  | .unreadable => .str "permission_denied"
  | .unusable message => .str (refusalReason message)
  | .unexpected _ => .str "unknown"
  | .stated _ reason => reason

/-- What is known about a failure: the path of the key, and the reason unless it says nothing. -/
def fullContext (f : KeyFailure) : Context :=
  let c := { f.context with keyPath := Json.ofOption .str f.path }
  if f.reason.isVoid then c else c.withExtra "reason" f.reason

end KeyFailure

/-- The wording of a cause. -/
def TrustCause.message : TrustCause → Text
  | noFiles => "no known_hosts files given"
  | badList value fault => "invalid known_hosts file list " ++ Text.quoted value ++ ": " ++ fault.message
  | badEntry paths message => "failed to parse known_hosts " ++ Text.join ", " paths ++ ": " ++ message
  | stated message => message

namespace ConfigError

/-- The name of the kind of failure in reports. -/
def typeName : ConfigError → Text
  | general _ _ => "SSHConfigError"
  | refused e _ => if e.pattern then "PatternError" else "ParseError"
  | merge _ _ => "MergeError"
  | notFound _ _ => "ConfigNotFound"
  | credentials _ _ => "AuthenticationError"
  | noIdentity _ _ _ => "NoAuthMethods"
  | key _ => "KeyLoadError"
  | trust _ _ _ => "KnownHostsError"

/-- The wording of a failure. -/
def message : ConfigError → Text
  | general message _ => message
  | refused e _ => e.message
  | merge cause _ => cause.message
  | notFound address _ => "config not found for " ++ address.quoted
  | credentials message _ => message
  | noIdentity paths _ _ =>
    if paths.isEmpty then "no identity files given"
    else "no auth methods could be loaded from " ++ Text.join ", " paths
  | key failure => failure.message
  | trust cause _ _ => cause.message

/-- What is known about a failure: the context it was given, with what its kind adds. -/
def context : ConfigError → Context
  | general _ c => c
  | refused e c => { c with source := e.place.source, lineno := e.place.lineno, line := e.place.line }
  | merge _ c => c
  | notFound address c => { c with address := address }
  | credentials _ c => c
  | noIdentity paths _ c => c.withExtra "paths" (Json.texts paths)
  | key failure => failure.fullContext
  | trust _ path c => { c with source := path }

/-- The members of a failure's report, given the reporter's own: the kind, the wording, the fixed members of the context
and then the reporter's own.  No report is made if one of those takes the name of a fixed member. -/
def reportWith (e : ConfigError) (own : List (Text × Json)) : Except ReportFault (List (Text × Json)) :=
  if (Context.collisions own).isEmpty then
    .ok (Json.putAll (("error_type", .str e.typeName) :: ("message", .str e.message) :: e.context.fixed) own)
  else .error (.collision (Context.collisions own))

/-- The members of a failure's report, made of what is known about it unless that is nested too deep. -/
def report? (e : ConfigError) : Except ReportFault (List (Text × Json)) :=
  if Json.copyDepth < e.context.depth then .error .tooDeep
  else
    match e.context.ownMembers? with
    | none => .error .noMembers
    | some own => e.reportWith own

end ConfigError
end SshConfig
