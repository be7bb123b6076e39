import SshConfig.ConfigFile.Basic
import SshConfig.Effective.Basic
import SshConfig.Event.Basic
/-!
# Session — what a run sees and leaves behind

A session is the surroundings of a run (variables, accounts, files, what reads keys, the time) together with what the
run leaves behind: a journal, in which remarks, reports and events stand in the order in which they were made, the gates
that have been passed, and the sources that were read last.  An action is a function of the session that may end in a
fault; what it left behind before the fault stays.
-/
namespace SshConfig

/-- How much a remark matters. -/
inductive Level where
  | debug
  | warning
  deriving DecidableEq, Repr

/-- The part of the library that makes a remark. -/
inductive Topic where
  | options
  | parser
  | config
  | hostKey
  | auth
  | resolver
  | loader
  deriving DecidableEq, Repr

/-- A remark on the way. -/
structure Remark where
  level : Level
  topic : Topic
  text : Text
  deriving DecidableEq, Repr

/-- The name of a level. -/
def Level.name : Level → Text
  | debug => "DEBUG"
  | warning => "WARNING"

/-- The name of a topic. -/
def Topic.name : Topic → Text
  | options => "ssh_resolve.options"
  | parser => "ssh_resolve.parser"
  | config => "ssh_resolve.config"
  | hostKey => "ssh_resolve.host_key"
  | auth => "ssh_resolve.auth"
  | resolver => "ssh_resolve.resolver"
  | loader => "ssh_resolve.loader"

/-- The line of a remark. -/
def Remark.line (r : Remark) : Text :=
  r.level.name ++ ' ' :: r.topic.name ++ ": " ++ r.text

/-- An entry of the journal. -/
inductive Note where
  /-- A remark. -/
  | remark (r : Remark)
  /-- A source was built, the one with this index among its neighbours. -/
  | built (index : Nat)
  /-- The source of this name was asked. -/
  | asked (name : Text)
  /-- The configuration of all files was reported. -/
  | fileConfig (file : Option ConfigFile)
  /-- The configuration of an address was reported. -/
  | config (effective : Effective)
  /-- An event was recorded. -/
  | event (e : Event)
  /-- A line was printed. -/
  | printed (line : Text)

/-- An account of the system. -/
structure Account where
  name : Text
  /-- The number by which the system knows its user. -/
  number : Nat
  home : Text
  deriving DecidableEq, Repr

/-- What a run sees besides files. -/
structure Environment where
  /-- The variables with their values. -/
  values : List (Text × Text)
  /-- The accounts of the system. -/
  accounts : List Account
  /-- The number of the current user. -/
  user : Nat
  /-- What reads keys. -/
  library : KeyLibrary
  /-- The time of events, in milliseconds. -/
  now : Nat

/-- What a run sees and leaves behind. -/
structure Session where
  environment : Environment
  tree : FileTree
  journal : List Note := []
  /-- For each gate, whether it has been passed. -/
  gates : List Bool := []
  /-- The sources that were read last, each under its index. -/
  loaded : List (Nat × ConfigFile) := []

/-- An action in a session, which may end in a fault. -/
abbrev Act := ExceptT Fault (StateM Session)

namespace Act

/-- Ends in a fault. -/
def fail {α : Type} (f : Fault) : Act α :=
  throw f

/-- The value, or the fault. -/
def ofExcept {α : Type} : Except Fault α → Act α
  | .ok a => pure a
  | .error f => fail f

/-- Makes an entry in the journal. -/
def note (n : Note) : Act Unit :=
  modify fun s => { s with journal := s.journal ++ [n] }

/-- Makes a remark. -/
def remark (level : Level) (topic : Topic) (text : Text) : Act Unit :=
  note (.remark ⟨level, topic, text⟩)

/-- Makes a remark of little weight. -/
def debug (topic : Topic) (text : Text) : Act Unit :=
  remark .debug topic text

/-- Does the action, and `handle` if it ends in a fault. -/
def rescue {α : Type} (action : Act α) (handle : Fault → Act α) : Act α :=
  tryCatch action handle

/-- A new gate, which has not been passed. -/
def newGate : Act Nat := do
  let s ← get
  set { s with gates := s.gates ++ [false] }
  pure s.gates.length

/-- The gate has been passed. -/
def isPassed (gate : Nat) : Act Bool := do
  pure ((← get).gates.getD gate false)

/-- Does the action if the gate has not been passed.  It has been passed after that, even if the action ended in a
fault. -/
def runOnce (gate : Nat) (action : Act Unit) : Act Unit := fun s =>
  if s.gates.getD gate false then (.ok (), s)
  else
    let r := action s
    (r.1, { r.2 with gates := r.2.gates.set gate true })

end Act
end SshConfig
