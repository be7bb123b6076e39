import SshConfig.ConfigFile.Load
/-!
# Settings.Registers — named blocks of settings

Blocks of settings are kept under names and worked on step by step.  A step works out the block of one name from the
blocks that are there; a step that ends in a fault changes no block.
-/
namespace SshConfig

/-- Blocks of settings under names. -/
abbrev Registers := List (Text × Settings)

/-- What is merged on top of a block. -/
inductive Overlay where
  /-- The block of a name. -/
  | named (name : Text)
  /-- A value that is no block. -/
  | raw (value : Json)

/-- A step that works out a block. -/
inductive Step where
  | new
  | set (key : Text) (value : Json)
  | apply (key : Text) (value : Json) (place : Place)
  | ofJson (value : Json)
  | ofOptions (options : List Text)
  | merge (base : Text) (overlay : Overlay)
  | fold (names : List Text)
  | clone (name : Text)
  | keep

namespace Registers

/-- The block of a name. -/
def block (r : Registers) (name : Text) : Act Settings :=
  match r.find? fun b => b.1 == name with
  | some b => pure b.2
  | none => Act.fail (.unknownName name)

/-- The blocks of names. -/
def blocks (r : Registers) : List Text → Act (List Settings)
  | [] => pure []
  | name :: rest => do
    let s ← r.block name
    let others ← r.blocks rest
    pure (s :: others)

/-- The blocks with one of them put under its name. -/
def put (r : Registers) (name : Text) (s : Settings) : Registers :=
  (name, s) :: r.filter fun b => b.1 != name

/-- Reads a value for an option into a block; a key of no option is remarked on. -/
def applyTo (s : Settings) (key : Text) (value : Json) (place : Place) : Act Settings :=
  match s.apply key value with
  | .error cause => Act.fail (Fault.ofComplaint cause place)
  | .ok t => do
    if (Keyword.ofText? key).isNone then Act.remarkUnsupported key place.lineno
    pure t

/-- The block that a step works out under a name. -/
def result (r : Registers) (name : Text) : Step → Act Settings
  | .new => pure Settings.empty
  | .set key value => do
    match (← r.block name).assign key value with
    | .ok s => pure s
    | .error fault => Act.fail (Fault.ofAssign fault)
  | .apply key value place => do applyTo (← r.block name) key value place
  | .ofJson value =>
    match Settings.ofJson value with
    | .ok s => pure s
    | .error cause => Act.fail (Fault.ofMergeCause cause)
  | .ofOptions options => Act.readOptions options
  | .merge base (.named upper) => do
    let lower ← r.block base
    pure (lower.merge (← r.block upper))
  | .merge base (.raw value) => do
    let _ ← r.block base
    Act.fail (.config (.merge (.notBlock value) {}))
  | .fold names => do pure (Settings.mergeAll (← r.blocks names))
  | .clone other => r.block other
  | .keep => r.block name

/-- Works a step out and puts its block under its name. -/
def step (r : Registers) (name : Text) (s : Step) : Act Registers := do
  pure (r.put name (← r.result name s))

end Registers
end SshConfig
