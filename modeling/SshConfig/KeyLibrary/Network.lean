import SshConfig.Text.Digit
import SshConfig.KeyLibrary.HostName
/-!
# KeyLibrary.Network — the addresses of machines and of networks

The address of a machine is written as four numbers with dots between them, or as eight groups of hexadecimal digits with
colons between them, where a double colon stands for groups of zeros that are left out.  A network is written as an
address, a stroke and how many leading bits its machines share with it, and has no other bits itself.

After groups a percent sign and a scope may follow, which tells by which interface the machine is reached.  A scope that has
a number is part of an address that is unique to a link only, and no scope is part of any other address.
-/
namespace SshConfig

/-- The address of a machine, a number of `width` bits. -/
structure MachineAddress where
  width : Nat
  value : Nat
  deriving DecidableEq, Repr

namespace MachineAddress

/-- One of four numbers: at most 255, without zeros in front. -/
def octet? (t : Text) : Option Nat :=
  if t.isEmpty || 3 < t.length || !t.all Text.isPlainDigit || (1 < t.length && t.head? = some '0') then none
  else if Text.plainValue t ≤ 255 then some (Text.plainValue t)
  else none

/-- The value of four numbers with dots between them. -/
def ofOctets? (t : Text) : Option Nat :=
  match (Text.pieces (· == '.') t).map octet? with
  | [some a, some b, some c, some d] => some (((a * 256 + b) * 256 + c) * 256 + d)
  | _ => none

/-- One group of hexadecimal digits, from one to four of them. -/
def group? (t : Text) : Option Nat :=
  if t.isEmpty || 4 < t.length then none
  else t.foldlM (fun n c => (Text.hexDigit? c).map (n * 16 + ·)) 0

/-- The values of groups; the last two may be written as four numbers with dots at the end of an address. -/
def groups? (atEnd : Bool) : List Text → Option (List Nat)
  | [] => some []
  | [t] =>
    if atEnd && t.contains '.' then (ofOctets? t).map fun n => [n / 65536, n % 65536] else (group? t).map fun n => [n]
  | t :: ts => do
    let n ← group? t
    let ns ← groups? atEnd ts
    pure (n :: ns)

/-- The values of groups with colons between them; an empty text has none. -/
def groupsIn? (atEnd : Bool) (t : Text) : Option (List Nat) :=
  if t.isEmpty then some [] else groups? atEnd (Text.pieces (· == ':') t)

/-- What stands before the first double colon and what stands after it. -/
def atGap : Text → Option (Text × Text)
  | [] => none
  | ':' :: ':' :: t => some ([], t)
  | c :: t => (atGap t).map fun p => (c :: p.1, p.2)

/-- The eight groups of an address; a double colon stands for one group of zeros at least. -/
def allGroups? (t : Text) : Option (List Nat) :=
  match atGap t with
  | none => groupsIn? true t
  | some (before, after) => do
    let high ← groupsIn? false before
    let low ← groupsIn? true after
    pure (high ++ List.replicate (max 1 (8 - high.length - low.length)) 0 ++ low)

/-- The value of groups of hexadecimal digits. -/
def ofGroups? (t : Text) : Option Nat :=
  match allGroups? t with
  | none => none
  | some groups => if groups.length = 8 then some (groups.foldl (fun n g => n * 65536 + g) 0) else none

/-- The address is unique to a link only: its ten leading bits say so. -/
def isLinkLocal (value : Nat) : Bool :=
  value / Nat.pow 2 118 = 0x3FA

/-- The address is of a group of machines on one link or in one machine. -/
def isGroupOfLink (value : Nat) : Bool :=
  value / Nat.pow 2 120 = 0xFF && [1, 2].contains (value / Nat.pow 2 112 % 16)

/-- The address with the number of its scope, which stands at the end of the leading 32 bits. -/
def withScope (value scope : Nat) : Nat :=
  if isLinkLocal value then value ||| scope * Nat.pow 2 96 else value

/-- The interface by which a machine reaches itself, the one that is known by name: it is the first. -/
def loopback : Text :=
  "lo"

/-- The number of a scope: 32 bits in decimal digits, or the number of the interface of this name. -/
def scopeNumber? (value : Nat) (scope : Text) : Option Nat :=
  if (isLinkLocal value || isGroupOfLink value) && scope == loopback then some 1
  else if !scope.isEmpty && scope.all Text.isPlainDigit && Text.plainValue scope < Nat.pow 2 32 then
    some (Text.plainValue scope)
  else none

/-- The value of groups without a scope or with one that has a number. -/
def ofNumbered? (t : Text) : Option Nat :=
  match Text.cutAt '%' t with
  | none => ofGroups? t
  | some (groups, scope) => do
    let value ← ofGroups? groups
    let n ← scopeNumber? value scope
    pure (withScope value n)

/-- The value of groups with a scope of any name, which is not looked at. -/
def ofNamed? (t : Text) : Option Nat :=
  match Text.cutAt '%' t with
  | none => none
  | some (groups, scope) =>
    if scope.isEmpty || scope.contains '%' || scope.contains '/' then none else ofGroups? groups

/-- The address that the name of a host is.  Groups are read from the name as it is looked up, which ends at a null character;
numbers and scopes that have no number are read from the name itself. -/
def ofText? (t : Text) : Option MachineAddress :=
  match HostName.prepared? t with
  | none => none
  | some name =>
    match ofNumbered? (name.takeWhile (·.toNat ≠ 0)), ofOctets? t, ofNamed? t with
    | some n, _, _ => some ⟨128, n⟩
    | none, some n, _ => some ⟨32, n⟩
    | none, none, n => n.map (⟨128, ·⟩)

end MachineAddress

/-- The machines whose addresses share the `shared` leading bits of `address`. -/
structure Network where
  address : MachineAddress
  shared : Nat
  deriving DecidableEq, Repr

namespace Network

/-- The leading bits of an address. -/
def leading (shared : Nat) (a : MachineAddress) : Nat :=
  a.value / Nat.pow 2 (a.width - shared)

/-- The number of leading bits that four numbers stand for: they are all ones and the other bits zeros, or the other way
round. -/
def maskBits? (mask : Nat) : Option Nat :=
  match (List.range 33).find? fun n => mask = Nat.pow 2 32 - Nat.pow 2 (32 - n) with
  | some n => some n
  | none => (List.range 33).find? fun n => mask = Nat.pow 2 (32 - n) - 1

/-- The number of leading bits after a stroke. -/
def sharedBits? (width : Nat) (t : Text) : Option Nat :=
  if !t.isEmpty && t.all Text.isPlainDigit then
    if Text.plainValue t ≤ width then some (Text.plainValue t) else none
  else if width = 32 then (MachineAddress.ofOctets? t).bind maskBits?
  else none

/-- A network without bits of its own beyond the leading ones. -/
def ofParts? (a : MachineAddress) (shared : Nat) : Option Network :=
  if a.value % Nat.pow 2 (a.width - shared) = 0 then some ⟨a, shared⟩ else none

/-- The network that a text is; an address alone is a network of one machine. -/
def ofText? (t : Text) : Option Network :=
  match Text.cutAt '/' t with
  | none => (MachineAddress.ofText? t).bind fun a => ofParts? a a.width
  | some (address, bits) => do
    let a ← MachineAddress.ofText? address
    let shared ← sharedBits? a.width bits
    ofParts? a shared

/-- The machine belongs to the network. -/
def holds (n : Network) (a : MachineAddress) : Bool :=
  a.width == n.address.width && leading n.shared a == leading n.shared n.address

end Network
end SshConfig
