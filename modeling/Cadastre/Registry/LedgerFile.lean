import Cadastre.Registry.Ledger

/-!
The ledger as a JSON file. All functions here are on the file's contents, none standing for a file
that is not there. A request that is refused leaves the file alone.
-/

namespace Cadastre

open Json

namespace RegistryEntry

def fields : List Field := [⟨"name", []⟩, ⟨"uri", []⟩]

def read? (document : Document) : Option RegistryEntry := do
  let form ← Form.ofDocument? fields document
  let name ← form.required "name" Document.text?
  let uri ← form.required "uri" Document.text?
  pure ⟨name, uri⟩

def toJson (entry : RegistryEntry) : Json :=
  .object [("name", .string entry.name), ("uri", .string entry.uri)]

end RegistryEntry

namespace RegistryDefaults

def fields : List Field :=
  [⟨"symbol", []⟩, ⟨"seller_fee_basis_points", []⟩, ⟨"creators", []⟩, ⟨"is_mutable", []⟩,
    ⟨"retain_authority", []⟩, ⟨"max_supply", []⟩]

def read? (document : Document) : Option RegistryDefaults := do
  let form ← Form.ofDocument? fields document
  let symbol ← form.required "symbol" Document.text?
  let fee ← form.required "seller_fee_basis_points" (Document.natural? UInt16.size)
  let creators ← form.required "creators" (Document.list? Creator.read?)
  let isMutable ← form.required "is_mutable" Document.flag?
  let retainAuthority ← form.required "retain_authority" Document.flag?
  let maxSupply ← form.required "max_supply" (Document.natural? UInt64.size)
  pure ⟨symbol, UInt16.ofNat fee, creators, isMutable, retainAuthority, UInt64.ofNat maxSupply⟩

def toJson (defaults : RegistryDefaults) : Json :=
  .object [("symbol", .string defaults.symbol),
    ("seller_fee_basis_points", Json.nat defaults.sellerFee.toNat),
    ("creators", .array (defaults.creators.map Creator.toJson)),
    ("is_mutable", .bool defaults.isMutable), ("retain_authority", .bool defaults.retainAuthority),
    ("max_supply", Json.nat defaults.maxSupply.toNat)]

end RegistryDefaults

namespace Registry

def fields : List Field :=
  [⟨"uniqueId", []⟩, ⟨"capacity", []⟩, ⟨"defaults", []⟩, ⟨"createdAt", []⟩, ⟨"lines", []⟩]

/-- Lines by number; of two with the same number the later one counts. -/
def readLines? (document : Document) : Option (Std.ExtTreeMap UInt32 RegistryEntry) := do
  let members ← document.numbered? UInt32.size
  let lines ← members.mapM fun (line, value) =>
    (RegistryEntry.read? value).map fun entry => (UInt32.ofNat line, entry)
  pure (lines.foldl (fun held (line, entry) => held.insert line entry) ∅)

def read? (document : Document) : Option Registry := do
  let form ← Form.ofDocument? fields document
  let uniqueId ← form.required "uniqueId" Document.text?
  let capacity ← form.required "capacity" (Document.natural? UInt32.size)
  let defaults ← form.required "defaults" RegistryDefaults.read?
  let createdAt ← form.required "createdAt" Document.text?
  let lines ← form.orDefault "lines" readLines? ∅
  pure ⟨uniqueId, UInt32.ofNat capacity, defaults, createdAt, lines⟩

def toJson (registry : Registry) : Json :=
  .object [("uniqueId", .string registry.uniqueId), ("capacity", Json.nat registry.capacity.toNat),
    ("defaults", registry.defaults.toJson), ("createdAt", .string registry.createdAt),
    ("lines",
      .object (registry.lines.toList.map fun (line, entry) => (toString line, entry.toJson)))]

end Registry

namespace Ledger

def fields : List Field := [⟨"registries", []⟩]

/-- Registries by locator; of two with the same locator the later one counts. -/
def readRegistries? (document : Document) : Option (Std.ExtTreeMap String Registry) := do
  let members ← document.members?
  let registries ← members.mapM fun (locator, value) =>
    (Registry.read? value).map fun registry => (locator, registry)
  pure (registries.foldl (fun held (locator, registry) => held.insert locator registry) ∅)

def ofDocument? (document : Document) : Option Ledger := do
  let form ← Form.ofDocument? fields document
  let registries ← form.orDefault "registries" readRegistries? ∅
  pure ⟨registries⟩

def toJson (ledger : Ledger) : Json :=
  .object [("registries",
    .object (ledger.registries.toList.map fun (locator, registry) => (locator, registry.toJson)))]

def bytes (ledger : Ledger) : Bytes := Text.utf8 ledger.toJson.writePretty

def ofFile (contents : Option Bytes) : Except RegistryFault Ledger :=
  match contents with
  | none => .ok empty
  | some bytes =>
    match (Document.read? bytes).bind ofDocument? with
    | some ledger => .ok ledger
    | none => .error (.serialization Json.unreadable)

def ofReading (reading : Except String (Option Bytes)) : Except RegistryFault Ledger :=
  match reading with
  | .error reason => .error (.io reason)
  | .ok contents => ofFile contents

/-- The ledger with one more registry, and that registry's identifiers. -/
def registerIn (reading : Except String (Option Bytes)) (stamp : Stamp) (capacity : UInt32)
    (defaults : RegistryDefaults) : Except RegistryFault (RegistryHandle × Ledger) :=
  if capacity = 0 then .error Rejection.noCapacity.fault
  else do
    let ledger ← ofReading reading
    let ledger ← ledger.register stamp capacity defaults
    pure (stamp.handle, ledger)

/-- The ledger with the lines written. The entries are looked at before the file is. -/
def appendIn (reading : Except String (Option Bytes)) (handle : RegistryHandle)
    (entries : List RegistryEntry) (first : UInt32) : Except RegistryFault Ledger :=
  match entries.findSome? RegistryEntry.rejection? with
  | some rejection => .error rejection.fault
  | none => do
    let ledger ← ofReading reading
    ledger.append handle entries first

end Ledger

end Cadastre
