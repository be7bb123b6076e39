import SshConfig.ConfigFile.Load
import SshConfig.Defaults
import SshConfig.Resolver.Trace
/-!
# Loader — from files to a client

The sources, in order, are the file of the invocation, the user's file and the system's; inline options lie on top of
whichever answers.  An eager client reads them once.  A lazy client reads a source at each look-up that reaches it, and
keeps the latest reading of each: a source that turns out absent drops its earlier reading, and one that cannot be read
keeps it.  On top of either come the default identities and, where no verifier was chosen, the default known hosts.
-/
namespace SshConfig

/-- What a client is made from. -/
structure Loader where
  defaults : Defaults
  configFile : Option Text := none
  options : List Text := []
  identity : List Text := []
  trace : Option Trace := none
  onDemand : Bool := false

/-- Answers look-ups, and tells the configuration of the files it has read. -/
structure Client where
  resolver : Resolver
  fileConfig : Act (Option ConfigFile)

namespace Client

/-- The answer for an address. -/
def lookup (c : Client) (network address : Text) : Act Resolution :=
  c.resolver network address

/-- The configuration for an address; a fault if there is none. -/
def resolve (c : Client) (network address : Text) : Act Effective := do
  Act.ofExcept (← c.lookup network address).unwrap

end Client

/-- The readings without the one of a source. -/
def dropReading (index : Nat) (readings : List (Nat × ConfigFile)) : List (Nat × ConfigFile) :=
  readings.filter fun r => r.1 != index

/-- The readings with the one of a source, in the order of the sources. -/
def keepReading (index : Nat) (file : ConfigFile) : List (Nat × ConfigFile) → List (Nat × ConfigFile)
  | [] => [(index, file)]
  | r :: rs =>
    if r.1 < index then r :: keepReading index file rs
    else if r.1 = index then (index, file) :: rs
    else (index, file) :: r :: rs

namespace Loader

/-- The sources: each is read by an action that gives none if its file is absent. -/
def sources (l : Loader) : List (Act (Option ConfigFile)) :=
  (l.configFile.map fun path => some <$> Act.configAt path).toList
    ++ [Act.readOptionalFile l.defaults.userConfig, Act.readOptionalFile l.defaults.systemConfig]

/-- Reads all sources and leaves out the absent ones. -/
def readAll : List (Act (Option ConfigFile)) → Act (List ConfigFile)
  | [] => pure []
  | read :: rest => do
    let file ← read
    let others ← readAll rest
    pure (file.toList ++ others)

/-- The client of sources that are read once. -/
def eagerClient (l : Loader) (overlay : Settings) : Act Client := do
  let files ← readAll l.sources
  pure ⟨Resolver.chain (files.map fun f => Resolver.ofFile f overlay), pure (ConfigFile.combineAll files)⟩

/-- Reads a source when it is reached, keeps the reading, and answers from it. -/
def source (overlay : Settings) (index : Nat) (read : Act (Option ConfigFile)) : Act Resolver := do
  match ← read with
  | none => do
    modify fun s => { s with loaded := dropReading index s.loaded }
    pure (Resolver.chain [])
  | some file => do
    modify fun s => { s with loaded := keepReading index file s.loaded }
    pure (Resolver.ofFile file overlay)

/-- The readings that are kept, as one source. -/
def readings : Act (Option ConfigFile) := do
  pure (ConfigFile.combineAll ((← get).loaded.map (·.2)))

/-- The client of sources that are read when they are reached. -/
def lazyClient (l : Loader) (overlay : Settings) : Act Client := do
  modify fun s => { s with loaded := [] }
  pure ⟨Resolver.lazyChain (l.sources.zipIdx.map fun p => source overlay p.2 p.1), readings⟩

/-- The identity of the given and the default candidates; none if no key can be opened. -/
def defaultIdentity (l : Loader) : Act (Option Identity) :=
  match l.identity ++ l.defaults.identity with
  | [] => pure none
  | paths =>
    Act.rescue (some <$> Act.loadIdentity none paths) fun fault =>
      match fault with
      | .config (.noIdentity _ _ _) => do
        Act.debug .loader ("No default identities: " ++ fault.message)
        pure none
      | _ => Act.fail fault

/-- Offers an identity after those that are there. -/
def offering (i : Identity) (c : Effective) : Effective :=
  { c with identities := c.identities ++ [i] }

/-- Sets the verifier where none was chosen. -/
def trusting (v : Verifier) (c : Effective) : Effective :=
  { c with verifier := c.verifier <|> some v }

/-- The resolver, with a change to what it finds if there is one. -/
def patchedWith {α : Type} (change : α → Effective → Effective) (a : Option α) (r : Resolver) : Resolver :=
  match a with
  | none => r
  | some a => Resolver.patched r fun c => pure (change a c)

/-- The client. -/
def newClient (l : Loader) : Act Client := do
  let overlay ← Act.readOptions l.options
  let client ← if l.onDemand then l.lazyClient overlay else l.eagerClient overlay
  let identity ← l.defaultIdentity
  let verifier ← Act.loadVerifier true [l.defaults.userKnownHosts, l.defaults.systemKnownHosts]
  let resolver := patchedWith trusting verifier (patchedWith offering identity client.resolver)
  match l.trace with
  | none => pure ⟨resolver, client.fileConfig⟩
  | some trace => do
    let gate ← Act.newGate
    pure ⟨Resolver.traced resolver trace client.fileConfig gate, client.fileConfig⟩

end Loader
end SshConfig
