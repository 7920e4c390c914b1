import Cadastre.Item.Manifest
import Std.Data.ExtTreeMap

/-!
The registry: fixed-capacity arrays of lines, each a name and an address, kept in a ledger. A line
is written only by who shows the identifiers that were given out when its array was created.
-/

namespace Cadastre

inductive RegistryFault where
  | alreadyInitialized (locator : Locator)
  | rejected (reason : String)
  | io (reason : String)
  | serialization (reason : String)
  deriving DecidableEq, Repr

namespace RegistryFault

def message : RegistryFault → String
  | alreadyInitialized locator => s!"registry already initialized: {locator}"
  | rejected reason => s!"registry rejected the request: {reason}"
  | io reason => s!"registry I/O error: {reason}"
  | serialization reason => s!"registry serialization error: {reason}"

end RegistryFault

inductive Rejection where
  | noCapacity
  | longName (name : String)
  | longUri (name : String)
  | unknownRegistry (locator : Locator)
  | wrongId (locator : Locator)
  | beyondCapacity (first stop : Nat) (capacity : UInt32)
  deriving DecidableEq, Repr

namespace Rejection

/-- Longest name of a line, in bytes. -/
def nameLimit : Nat := 32

/-- Longest address of a line, in bytes. -/
def uriLimit : Nat := 200

def message : Rejection → String
  | noCapacity => "capacity must be > 0"
  | longName name => s!"name {Text.quoted name} is longer than {nameLimit} bytes"
  | longUri name => s!"uri for {Text.quoted name} is longer than {uriLimit} bytes"
  | unknownRegistry locator => s!"unknown registry {locator}"
  | wrongId locator => s!"unique id mismatch for {locator}"
  | beyondCapacity first stop capacity => s!"lines {first}..{stop} exceed capacity {capacity}"

def fault (rejection : Rejection) : RegistryFault := .rejected rejection.message

end Rejection

structure RegistryEntry where
  name : String
  uri : Locator
  deriving DecidableEq, Repr

namespace RegistryEntry

def rejection? (entry : RegistryEntry) : Option Rejection :=
  if Rejection.nameLimit < entry.name.utf8ByteSize then some (.longName entry.name)
  else if Rejection.uriLimit < entry.uri.utf8ByteSize then some (.longUri entry.name)
  else none

end RegistryEntry

structure RegistryDefaults where
  symbol : String
  sellerFee : UInt16
  creators : List Creator
  isMutable : Bool
  retainAuthority : Bool
  /-- Zero stands for no limit. -/
  maxSupply : UInt64
  deriving DecidableEq, Repr

structure RegistryHandle where
  uniqueId : String
  locator : Locator
  deriving DecidableEq, Repr

structure Registry where
  uniqueId : String
  capacity : UInt32
  defaults : RegistryDefaults
  createdAt : String
  lines : Std.ExtTreeMap UInt32 RegistryEntry
  deriving DecidableEq

structure Ledger where
  registries : Std.ExtTreeMap String Registry := ∅
  deriving DecidableEq

/-- What a new registry takes from outside: a random name and the time. -/
structure Stamp where
  id : String
  time : String

namespace Stamp

/-- Whether a text has the form of a random name: thirty-two hexadecimal digits. -/
def isName (text : String) : Bool :=
  text.length = 32 && text.toList.all fun c => c.isDigit || ('a' ≤ c && c ≤ 'f')

def handle (stamp : Stamp) : RegistryHandle :=
  ⟨.ofList (stamp.id.toList.take 6), "registry-" ++ stamp.id⟩

end Stamp

namespace Ledger

def empty : Ledger := {}

def get? (ledger : Ledger) (locator : Locator) : Option Registry :=
  ledger.registries[locator]?

def put (ledger : Ledger) (locator : Locator) (registry : Registry) : Ledger :=
  ⟨ledger.registries.insert locator registry⟩

def register (ledger : Ledger) (stamp : Stamp) (capacity : UInt32) (defaults : RegistryDefaults) :
    Except RegistryFault Ledger :=
  let handle := stamp.handle
  match ledger.get? handle.locator with
  | some _ => .error (.alreadyInitialized handle.locator)
  | none => .ok (ledger.put handle.locator ⟨handle.uniqueId, capacity, defaults, stamp.time, ∅⟩)

def writeLines (lines : Std.ExtTreeMap UInt32 RegistryEntry) (line : UInt32) :
    List RegistryEntry → Std.ExtTreeMap UInt32 RegistryEntry
  | [] => lines
  | entry :: rest => writeLines (lines.insert line entry) (line + 1) rest

/-- Writes consecutive lines of the registry that the handle names. -/
def append (ledger : Ledger) (handle : RegistryHandle) (entries : List RegistryEntry)
    (first : UInt32) : Except RegistryFault Ledger :=
  match ledger.get? handle.locator with
  | none => .error (Rejection.unknownRegistry handle.locator).fault
  | some registry =>
    let stop := first.toNat + entries.length
    if registry.uniqueId ≠ handle.uniqueId then .error (Rejection.wrongId handle.locator).fault
    else if registry.capacity.toNat < stop then
      .error (Rejection.beyondCapacity first.toNat stop registry.capacity).fault
    else
      .ok (ledger.put handle.locator
        { registry with lines := writeLines registry.lines first entries })

end Ledger

end Cadastre
