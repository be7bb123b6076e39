import SshConfig.Duration
import SshConfig.Flag
/-!
# Keyword — the options that a configuration may set

Twelve options are known.  Each has a name, which is read in any case, and a kind, which fixes the values it takes, how
they are decoded from the interchange form and how they are written back.
-/
namespace SshConfig

/-- A port number. -/
structure Port where
  number : Nat
  le_max : number ≤ 65535 := by omega
  deriving DecidableEq, Repr

/-- The kinds of values. -/
inductive Kind where
  | port
  | count
  | flag
  | duration
  | text
  deriving DecidableEq, Repr

namespace Kind

/-- The values of a kind. -/
abbrev Value : Kind → Type
  | port => Port
  | count => Nat
  | flag => Bool
  | duration => Duration
  | text => Text

instance decidableEqValue : (k : Kind) → DecidableEq k.Value
  | port => inferInstanceAs (DecidableEq Port)
  | count => inferInstanceAs (DecidableEq Nat)
  | flag => inferInstanceAs (DecidableEq Bool)
  | duration => inferInstanceAs (DecidableEq Duration)
  | text => inferInstanceAs (DecidableEq Text)

/-- An integer, given as such or as a text; a truth value is none. -/
def integerOf (v : Json) : Except ValueFault Int :=
  match v with
  | .bool _ => .error (.badInteger v)
  | .int n => .ok n
  | _ =>
    match Numeral.integer (Text.trim v.display) with
    | .ok n => .ok n
    | .error .malformed => .error (.notInteger (Text.trim v.display))
    | .error (.tooLong digits) => .error (.tooLong digits)

/-- A natural number, given as such or as a text. -/
def naturalOf (v : Json) : Except ValueFault Nat :=
  match integerOf v with
  | .ok n => if n < 0 then .error (.negative v) else .ok n.toNat
  | .error fault => .error fault

/-- A port, given as a number or as a text. -/
def portOf (v : Json) : Except ValueFault Port :=
  match naturalOf v with
  | .ok n => if h : n ≤ 65535 then .ok ⟨n, h⟩ else .error (.portRange v)
  | .error fault => .error fault

/-- A text, which is given as such. -/
def textOf : Json → Except ValueFault Text
  | .str t => .ok t
  | v => .error (.notText v)

/-- Decodes a value of a kind from the interchange form. -/
def decode : (k : Kind) → Json → Except ValueFault k.Value
  | port => portOf
  | count => naturalOf
  | flag => Flag.ofJson
  | duration => Duration.ofJson
  | text => textOf

/-- A value in the interchange form: durations are numbers, all else is text. -/
def encode : (k : Kind) → k.Value → Json
  | port, p => .str (Text.ofNat p.number)
  | count, n => .str (Text.ofNat n)
  | flag, b => .str (Flag.interchange b)
  | duration, d => d.toJson
  | text, t => .str t

/-- A value in a configuration file. -/
def written : (k : Kind) → k.Value → Text
  | port, p => Text.ofNat p.number
  | count, n => Text.ofNat n
  | flag, b => Flag.written b
  | duration, d => d.text
  | text, t => t

/-- The value has few enough digits to be written. -/
def isWritable : (k : Kind) → k.Value → Bool
  | duration, d => Numeral.isWritable d.seconds
  | count, n => Numeral.isWritable n
  | _, _ => true

end Kind

/-- The options, in the order in which they are listed and written. -/
inductive Keyword where
  | port
  | strictHostKeyChecking
  | globalKnownHostsFile
  | userKnownHostsFile
  | tcpKeepAlive
  | connectTimeout
  | connectionAttempts
  | serverAliveInterval
  | serverAliveCountMax
  | hostname
  | user
  | identityFile
  deriving DecidableEq, Repr

namespace Keyword

/-- All options in order. -/
def all : List Keyword :=
  [port, strictHostKeyChecking, globalKnownHostsFile, userKnownHostsFile, tcpKeepAlive, connectTimeout,
    connectionAttempts, serverAliveInterval, serverAliveCountMax, hostname, user, identityFile]

theorem mem_all (k : Keyword) : k ∈ all := by
  cases k <;> decide

/-- The kind of an option. -/
def kind : Keyword → Kind
  | port => .port
  | strictHostKeyChecking => .flag
  | globalKnownHostsFile => .text
  | userKnownHostsFile => .text
  | tcpKeepAlive => .flag
  | connectTimeout => .duration
  | connectionAttempts => .count
  | serverAliveInterval => .duration
  | serverAliveCountMax => .count
  | hostname => .text
  | user => .text
  | identityFile => .text

/-- The values that an option takes. -/
abbrev Value (k : Keyword) : Type :=
  k.kind.Value

/-- The name of an option as it is written. -/
def name : Keyword → Text
  | port => "Port"
  | strictHostKeyChecking => "StrictHostKeyChecking"
  | globalKnownHostsFile => "GlobalKnownHostsFile"
  | userKnownHostsFile => "UserKnownHostsFile"
  | tcpKeepAlive => "TcpKeepAlive"
  | connectTimeout => "ConnectTimeout"
  | connectionAttempts => "ConnectionAttempts"
  | serverAliveInterval => "ServerAliveInterval"
  | serverAliveCountMax => "ServerAliveCountMax"
  | hostname => "Hostname"
  | user => "User"
  | identityFile => "IdentityFile"

/-- The name of an option in reports of a single target, words apart. -/
def spacedName : Keyword → Text
  | port => "port"
  | strictHostKeyChecking => "strict_host_key_checking"
  | globalKnownHostsFile => "global_known_hosts_file"
  | userKnownHostsFile => "user_known_hosts_file"
  | tcpKeepAlive => "tcp_keep_alive"
  | connectTimeout => "connect_timeout"
  | connectionAttempts => "connection_attempts"
  | serverAliveInterval => "server_alive_interval"
  | serverAliveCountMax => "server_alive_count_max"
  | hostname => "hostname"
  | user => "user"
  | identityFile => "identity_file"

/-- The name of an option in the interchange form. -/
def lowerName (k : Keyword) : Text :=
  k.name.map Char.toLower

/-- The option that a key names, in any case. -/
def ofText? (key : Text) : Option Keyword :=
  all.find? fun k => k.lowerName == Text.lower key

end Keyword
end SshConfig
