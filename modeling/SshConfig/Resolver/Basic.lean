import SshConfig.Effective.Build
/-!
# Resolver — who answers for an address

A resolver is asked for a network and an address.  It finds the configuration, does not find one, or fails.  In a chain
the first resolver that does not leave the address unfound answers; a lazy chain builds each resolver only when it is
reached.  A patched resolver changes what is found, and a traced one reports it.
-/
namespace SshConfig

/-- The answer for an address. -/
inductive Resolution where
  | found (address : Text) (effective : Effective)
  | notFound (address : Text)
  | failed (address : Text) (fault : Fault)

namespace Resolution

/-- The address that was asked for. -/
def address : Resolution → Text
  | found a _ => a
  | notFound a => a
  | failed a _ => a

/-- A configuration was found. -/
def isFound : Resolution → Bool
  | found _ _ => true
  | _ => false

/-- The configuration that was found; a fault otherwise. -/
def unwrap : Resolution → Except Fault Effective
  | found _ c => .ok c
  | notFound a => .error (.config (.notFound (.str a) {}))
  | failed _ f => .error f

end Resolution

/-- Answers for a network and an address. -/
abbrev Resolver := Text → Text → Act Resolution

/-- What a trace is told.  A trace looks on: the answer that a look-up gives is the one that the trace was told of, and
a trace has no part in it.  One that changed what it is told would change the answer, and is not among these. -/
structure Trace where
  gotFileConfig : Option ConfigFile → Act Unit
  gotConfig : Effective → Act Unit

namespace Resolver

/-- Finds what is built.  A fault of the configuration or of the system makes the answer a failure. -/
def answer (address : Text) (build : Act Effective) : Act Resolution :=
  Act.rescue ((Resolution.found address) <$> build) fun fault =>
    if fault.failsLookup then pure (.failed address fault) else Act.fail fault

/-- Answers from a source, with the overlay on top of its settings. -/
def ofFile (file : ConfigFile) (overlay : Settings) : Resolver := fun network address =>
  match file.lookup address with
  | none => do
    Act.debug .resolver (file.source ++ ": no entry for " ++ Text.quoted address)
    pure (.notFound address)
  | some s => answer address (Act.buildEffective (s.merge overlay) address network)

/-- The first of the resolvers that does not leave the address unfound answers. -/
def chain : List Resolver → Resolver
  | [], _, address => pure (.notFound address)
  | r :: rs, network, address => do
    match ← r network address with
    | .notFound _ => chain rs network address
    | result => pure result

/-- Builds a resolver.  A fault of the configuration or of the system is the answer. -/
def reach (make : Act Resolver) : Act (Except Fault Resolver) :=
  Act.rescue (Except.ok <$> make) fun fault =>
    if fault.failsLookup then pure (.error fault) else Act.fail fault

/-- A chain that builds each resolver when it is reached. -/
def lazyChain : List (Act Resolver) → Resolver
  | [], _, address => pure (.notFound address)
  | make :: rest, network, address => do
    match ← reach make with
    | .error fault => pure (.failed address fault)
    | .ok r =>
      match ← r network address with
      | .notFound _ => lazyChain rest network address
      | result => pure result

/-- Changes what is found. -/
def patched (inner : Resolver) (patch : Effective → Act Effective) : Resolver := fun network address => do
  match ← inner network address with
  | .found a c => answer a (patch c)
  | result => pure result

/-- Reports what is found: the configuration of all files once, at the first find, and each find. -/
def traced (inner : Resolver) (trace : Trace) (fileConfig : Act (Option ConfigFile)) (gate : Nat) : Resolver :=
  fun network address => do
    match ← inner network address with
    | .found a c => do
      Act.runOnce gate (do trace.gotFileConfig (← fileConfig))
      trace.gotConfig c
      pure (.found a c)
    | result => pure result

/-- Notes that the resolver was asked. -/
def noting (name : Text) (inner : Resolver) : Resolver := fun network address => do
  Act.note (.asked name)
  inner network address

end Resolver
end SshConfig
